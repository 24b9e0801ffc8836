import JudgingServer.Library.Table

/-! Two tables that hold the same rows of one owner. Whatever looks at the rows of that
owner only finds the same in both of them, and the statements keep it so. -/

namespace JudgingServer.Library.Table

variable {α κ : Type} {f : α → α}

theorem Keyed.delete (keyed : Keyed key rows) (p : α → Bool) : Keyed key (Table.delete p rows) :=
  List.Nodup.sublist (List.filter_sublist.map key) keyed

/-- The tables agree on the rows that are owned. -/
def Shared (own : α → Prop) (rows twin : List α) : Prop := ∀ row, own row → (row ∈ rows ↔ row ∈ twin)

section Shared

variable {own : α → Prop} {rows : List α} {p : α → Bool}

theorem Shared.refl (own : α → Prop) (rows : List α) : Shared own rows rows := fun _ _ => Iff.rfl

theorem Shared.find? (shared : Shared own rows twin) (owned : ∀ row ∈ rows, p row = true → own row)
    (ownedTwin : ∀ row ∈ twin, p row = true → own row)
    (only : ∀ left ∈ twin, ∀ right ∈ twin, p left = true → p right = true → left = right) : twin.find? p = rows.find? p := by
  cases found : rows.find? p with
  | none =>
    refine List.find?_eq_none.mpr fun row member holds => ?_
    have inside := (shared row (ownedTwin row member holds)).mpr member
    exact List.find?_eq_none.mp found row inside holds
  | some row =>
    have member := List.mem_of_find?_eq_some found
    have holds := List.find?_some found
    have inside := (shared row (owned row member holds)).mp member
    cases other : twin.find? p with
    | none => exact (List.find?_eq_none.mp other row inside holds).elim
    | some found => rw [only found (List.mem_of_find?_eq_some other) row inside (List.find?_some other) holds]

theorem Shared.any (shared : Shared own rows twin) (owned : ∀ row ∈ rows, p row = true → own row)
    (ownedTwin : ∀ row ∈ twin, p row = true → own row) : twin.any p = rows.any p := by
  rw [Bool.eq_iff_iff, List.any_eq_true, List.any_eq_true]
  constructor
  · rintro ⟨row, member, holds⟩
    exact ⟨row, (shared row (ownedTwin row member holds)).mpr member, holds⟩
  · rintro ⟨row, member, holds⟩
    exact ⟨row, (shared row (owned row member holds)).mp member, holds⟩

theorem Shared.perm [DecidablePred own] (shared : Shared own rows twin) (keyed : Keyed key rows) (keyedTwin : Keyed key twin) :
    (twin.filter own).Perm (rows.filter own) := by
  have distinct := (List.Nodup.of_map key keyedTwin).filter (fun row => decide (own row))
  have distinct' := (List.Nodup.of_map key keyed).filter (fun row => decide (own row))
  refine (List.perm_ext_iff_of_nodup distinct distinct').mpr fun row => ?_
  simp only [List.mem_filter, decide_eq_true_eq]
  constructor
  · rintro ⟨member, owned⟩
    exact ⟨(shared row owned).mpr member, owned⟩
  · rintro ⟨member, owned⟩
    exact ⟨(shared row owned).mp member, owned⟩

private theorem countP_filter_own [DecidablePred own] (owned : ∀ row ∈ rows, p row = true → own row) :
    (rows.filter own).countP p = rows.countP p := by
  rw [List.countP_filter]
  refine List.countP_congr fun row member => ?_
  simp only [Bool.and_eq_true, decide_eq_true_eq]
  exact ⟨fun both => both.1, fun holds => ⟨holds, owned row member holds⟩⟩

theorem Shared.countP [DecidablePred own] (shared : Shared own rows twin) (keyed : Keyed key rows) (keyedTwin : Keyed key twin)
    (owned : ∀ row ∈ rows, p row = true → own row) (ownedTwin : ∀ row ∈ twin, p row = true → own row) :
    twin.countP p = rows.countP p := by
  rw [← countP_filter_own owned, ← countP_filter_own ownedTwin]
  exact (shared.perm keyed keyedTwin).countP_eq p

theorem Shared.append (shared : Shared own rows twin) (row : α) : Shared own (rows ++ [row]) (twin ++ [row]) := by
  intro other owned
  simp only [List.mem_append, shared other owned]

theorem Shared.delete (shared : Shared own rows twin) (p : α → Bool) : Shared own (Table.delete p rows) (Table.delete p twin) := by
  intro row owned
  simp only [Table.delete, List.mem_filter, shared row owned]

theorem Shared.update (shared : Shared own rows twin) (same : ∀ row, p row = true → own (f row) → own row) :
    Shared own (Table.update p f rows) (Table.update p f twin) := by
  intro row owned
  rw [mem_update, mem_update, shared row owned]
  refine or_congr ?_ Iff.rfl
  constructor
  · rintro ⟨old, member, holds, rfl⟩
    exact ⟨old, (shared old (same old holds owned)).mp member, holds, rfl⟩
  · rintro ⟨old, member, holds, rfl⟩
    exact ⟨old, (shared old (same old holds owned)).mpr member, holds, rfl⟩

theorem Shared.trans (first : Shared own rows twin) (second : Shared own twin last) : Shared own rows last :=
  fun row owned => (first row owned).trans (second row owned)

/-! Statements about rows of others leave a table as it is for the owner. -/

theorem Shared.insert_other (other : ¬ own row) : Shared own rows (rows ++ [row]) := by
  intro mine owned
  rw [List.mem_append, List.mem_singleton]
  constructor
  · exact .inl
  · rintro (member | rfl)
    · exact member
    · exact absurd owned other

theorem Shared.delete_others (others : ∀ row, p row = true → ¬ own row) : Shared own rows (Table.delete p rows) := by
  intro row owned
  rw [Table.delete, List.mem_filter]
  refine ⟨fun member => ⟨member, ?_⟩, fun kept => kept.1⟩
  rw [Bool.not_eq_true', ← Bool.not_eq_true]
  exact fun holds => others row holds owned

theorem Shared.update_others (others : ∀ row ∈ rows, p row = true → ¬ own row ∧ ¬ own (f row)) :
    Shared own rows (Table.update p f rows) := by
  intro row owned
  rw [mem_update]
  constructor
  · intro member
    refine .inr ⟨member, ?_⟩
    rw [← Bool.not_eq_true]
    exact fun holds => (others row member holds).1 owned
  · rintro (⟨old, member, holds, rfl⟩ | ⟨member, -⟩)
    · exact absurd owned (others old member holds).2
    · exact member

end Shared

end JudgingServer.Library.Table
