import Mathlib.Algebra.Order.Ring.Int
import Mathlib.Algebra.BigOperators.Group.List.Basic
import Mathlib.Data.List.Nodup
import Mathlib.Data.List.MinMax

/-! Tables as lists of rows: updates with a condition, keys, and the replacement of
a single row. An update reports the rows it changed, not the rows it matched. -/

namespace JudgingServer.Library.Table

variable {α β κ : Type} {p q : α → Bool} {f : α → α} {turn : α → α → Prop} {view : α → β} {key : α → κ}

/-- `UPDATE ... SET f WHERE p`. -/
def update (p : α → Bool) (f : α → α) (rows : List α) : List α := rows.map fun row => if p row then f row else row

/-- The number of rows an update changes. -/
def affected [DecidableEq α] (p : α → Bool) (f : α → α) (rows : List α) : Nat :=
  rows.countP fun row => p row && decide (f row ≠ row)

/-- `DELETE FROM ... WHERE p`. -/
def delete (p : α → Bool) (rows : List α) : List α := rows.filter fun row => !p row

/-- The first row of `SELECT ... WHERE p ORDER BY key LIMIT 1`. -/
def first {κ : Type} [LinearOrder κ] (p : α → Bool) (key : α → κ) (rows : List α) : Option α :=
  (rows.filter p).argmin key

/-- No two rows have the same key. -/
def Keyed (key : α → κ) (rows : List α) : Prop := (rows.map key).Nodup

instance {key : α → κ} {rows : List α} [DecidableEq κ] : Decidable (Keyed key rows) :=
  inferInstanceAs (Decidable (rows.map key).Nodup)

/-- `rows'` is `rows` with `row'` in the place of `row`. -/
def Replaced (row row' : α) (rows rows' : List α) : Prop :=
  ∃ before after, rows = before ++ row :: after ∧ rows' = before ++ row' :: after

private theorem affected_pos [DecidableEq α] (changed : affected p f rows = 1) : ∃ row ∈ rows, p row = true ∧ f row ≠ row := by
  have positive : 0 < rows.countP fun row => p row && decide (f row ≠ row) := by
    unfold affected at changed
    omega
  obtain ⟨row, member, holds⟩ := List.countP_pos_iff.mp positive
  simp only [Bool.and_eq_true, decide_eq_true_eq] at holds
  exact ⟨row, member, holds.1, holds.2⟩

theorem update_eq_self (none : ∀ row ∈ rows, p row = false) : update p f rows = rows := by
  unfold update
  conv_rhs => rw [← List.map_id rows]
  apply List.map_congr_left
  intro row member
  simp [none row member]

@[simp] theorem length_update (p : α → Bool) (f : α → α) (rows : List α) : (update p f rows).length = rows.length := by
  simp [update]

theorem mem_update : row ∈ update p f rows ↔ (∃ old ∈ rows, p old = true ∧ row = f old) ∨ (row ∈ rows ∧ p row = false) := by
  unfold update
  simp only [List.mem_map]
  constructor
  · rintro ⟨old, member, rfl⟩
    by_cases holds : p old = true
    · exact .inl ⟨old, member, holds, by simp [holds]⟩
    · exact .inr ⟨by simpa [holds] using member, by simp [holds]⟩
  · rintro (⟨old, member, holds, rfl⟩ | ⟨member, fails⟩)
    · exact ⟨old, member, by simp [holds]⟩
    · exact ⟨row, member, by simp [fails]⟩

theorem map_update (same : ∀ row, p row = true → view (f row) = view row) (rows : List α) :
    (update p f rows).map view = rows.map view := by
  unfold update
  rw [List.map_map]
  apply List.map_congr_left
  intro row _
  by_cases holds : p row = true
  · simp [holds, same row holds]
  · simp [holds]

theorem find?_update (same : ∀ row, p row = true → q (f row) = q row) (rows : List α) :
    (update p f rows).find? q = (rows.find? q).map fun row => if p row then f row else row := by
  unfold update
  rw [List.find?_map]
  congr 2
  funext row
  by_cases holds : p row = true
  · simp [holds, same row holds]
  · simp [holds]

theorem countP_update (same : ∀ row, p row = true → q (f row) = q row) (rows : List α) :
    (update p f rows).countP q = rows.countP q := by
  rw [update, List.countP_map]
  refine List.countP_congr fun row _ => ?_
  by_cases holds : p row = true
  · simp [holds, same row holds]
  · simp [holds]

theorem forall₂_update (same : ∀ row, turn row row) (changed : ∀ row ∈ rows, p row = true → turn row (f row)) :
    List.Forall₂ turn rows (update p f rows) := by
  unfold update
  rw [List.forall₂_map_right_iff, List.forall₂_same]
  intro row member
  by_cases holds : p row = true
  · simpa [holds] using changed row member holds
  · simpa [holds] using same row

theorem countP_forall₂ (same : ∀ row row', turn row row' → p row' = p row) (turned : List.Forall₂ turn rows rows') :
    rows'.countP p = rows.countP p := by
  induction turned with
  | nil => rfl
  | cons first _ ih => rw [List.countP_cons, List.countP_cons, same _ _ first, ih]

theorem countP_forall₂_le (implied : ∀ row row', turn row row' → p row' = true → p row = true)
    (turned : List.Forall₂ turn rows rows') : rows'.countP p ≤ rows.countP p := by
  induction turned with
  | nil => exact le_rfl
  | @cons row row' _ _ first _ ih =>
    rw [List.countP_cons, List.countP_cons]
    split
    next new =>
      rw [if_pos (implied row row' first new)]
      exact Nat.add_le_add_right ih 1
    next => exact Nat.le_add_right_of_le ih

theorem map_forall₂ (same : ∀ row row', turn row row' → view row' = view row) (turned : List.Forall₂ turn rows rows') :
    rows'.map view = rows.map view := by
  induction turned with
  | nil => rfl
  | cons first _ ih => rw [List.map_cons, List.map_cons, same _ _ first, ih]

theorem forall₂_mem_left (turned : List.Forall₂ turn rows rows') (member : row ∈ rows) : ∃ row' ∈ rows', turn row row' := by
  induction turned with
  | nil => cases member
  | cons first _ ih =>
    rcases List.mem_cons.mp member with rfl | inside
    · exact ⟨_, List.mem_cons_self .., first⟩
    · obtain ⟨row', later, turn⟩ := ih inside
      exact ⟨row', List.mem_cons_of_mem _ later, turn⟩

theorem forall₂_mem_right (turned : List.Forall₂ turn rows rows') (member : row' ∈ rows') : ∃ row ∈ rows, turn row row' := by
  obtain ⟨row, inside, turn⟩ := forall₂_mem_left turned.flip member
  exact ⟨row, inside, turn⟩

theorem first_some [LinearOrder κ] (found : first p key rows = some row) : row ∈ rows ∧ p row = true := by
  have member : row ∈ rows.filter p := List.argmin_mem (by simpa [first] using found)
  exact List.mem_filter.mp member

theorem first_le [LinearOrder κ] (found : first p key rows = some row) (member : other ∈ rows) (holds : p other = true) :
    key row ≤ key other :=
  List.le_of_mem_argmin (List.mem_filter.mpr ⟨member, holds⟩) found

theorem first_exists [LinearOrder κ] (key : α → κ) (member : row ∈ rows) (holds : p row = true) :
    ∃ found, first p key rows = some found := by
  rw [← Option.ne_none_iff_exists']
  intro none
  have empty := List.argmin_eq_none.mp none
  have inside : row ∈ rows.filter p := List.mem_filter.mpr ⟨member, holds⟩
  rw [empty] at inside
  cases inside

section Keys

variable {key : α → κ}

theorem Keyed.eq (keyed : Keyed key rows) (first : left ∈ rows) (second : right ∈ rows) (same : key left = key right) :
    left = right :=
  List.inj_on_of_nodup_map keyed first second same

theorem find?_row {rows : List α} {q : α → Prop} [DecidablePred q] (found : (rows.find? fun row => q row) = some row) :
    row ∈ rows ∧ q row :=
  ⟨List.mem_of_find?_eq_some found, by simpa using List.find?_some found⟩

theorem Keyed.find? (keyed : Keyed key rows) (member : row ∈ rows) (holds : p row = true)
    (only : ∀ other, p other = true → key other = key row) : rows.find? p = some row := by
  obtain ⟨other, found⟩ := Option.isSome_iff_exists.mp (List.find?_isSome.mpr ⟨row, member, holds⟩)
  rw [found, keyed.eq (List.mem_of_find?_eq_some found) member (only other (List.find?_some found))]

theorem Keyed.update (keyed : Keyed key rows) (same : ∀ row, p row = true → key (f row) = key row) :
    Keyed key (Table.update p f rows) := by
  unfold Keyed
  rwa [map_update same]

theorem Keyed.insert (keyed : Keyed key rows) (fresh : ∀ other ∈ rows, key other ≠ key row) : Keyed key (rows ++ [row]) := by
  unfold Keyed at *
  rw [List.map_append, List.nodup_append]
  refine ⟨keyed, by simp, ?_⟩
  intro left member right single same
  obtain ⟨other, inside, rfl⟩ := List.mem_map.mp member
  simp only [List.map_cons, List.map_nil, List.mem_singleton] at single
  exact fresh other inside (same.trans single)

private theorem Keyed.apart {before after : List α} (keyed : Keyed key (before ++ row :: after)) :
    row ∉ before ∧ row ∉ after := by
  have distinct := List.Nodup.of_map _ keyed
  rw [List.nodup_append] at distinct
  exact ⟨fun inside => distinct.2.2 row inside row (by simp) rfl, (List.nodup_cons.mp distinct.2.1).1⟩

/-- A condition that a row satisfies, and only rows with its key, holds nowhere around it. -/
private theorem Keyed.around (keyed : Keyed key rows) (member : row ∈ rows)
    (only : ∀ other ∈ rows, p other = true → key other = key row) :
    ∃ before after, rows = before ++ row :: after ∧ ∀ other, other ∈ before ∨ other ∈ after → p other = false := by
  obtain ⟨before, after, rfl⟩ := List.append_of_mem member
  refine ⟨before, after, rfl, fun other beside => ?_⟩
  have inside : other ∈ before ++ row :: after := by
    rcases beside with front | back
    · exact List.mem_append_left _ front
    · exact List.mem_append_right _ (List.mem_cons_of_mem _ back)
  by_contra matched
  obtain rfl := keyed.eq inside member (only other inside (by simpa using matched))
  exact beside.elim keyed.apart.1 keyed.apart.2

theorem update_replaced (keyed : Keyed key rows) (member : row ∈ rows) (holds : p row = true)
    (only : ∀ other ∈ rows, p other = true → key other = key row) : Replaced row (f row) rows (update p f rows) := by
  obtain ⟨before, after, rfl, outside⟩ := keyed.around member only
  refine ⟨before, after, rfl, ?_⟩
  have front : update p f before = before := update_eq_self fun other inside => outside other (.inl inside)
  have back : update p f after = after := update_eq_self fun other inside => outside other (.inr inside)
  calc update p f (before ++ row :: after)
      = update p f before ++ f row :: update p f after := by simp [update, holds]
    _ = before ++ f row :: after := by rw [front, back]

theorem update_one [DecidableEq α] (keyed : Keyed key rows)
    (only : ∀ left right, p left = true → p right = true → key left = key right) (one : affected p f rows = 1) :
    ∃ row ∈ rows, p row = true ∧ Replaced row (f row) rows (update p f rows) := by
  obtain ⟨row, member, holds, _⟩ := affected_pos one
  exact ⟨row, member, holds, update_replaced keyed member holds fun other _ matched => only other row matched holds⟩

theorem update_known [DecidableEq α] {q : α → Prop} [DecidablePred q] (keyed : Keyed key rows) (member : row ∈ rows)
    (only : ∀ other, q other → key other = key row) (one : affected (fun row => q row) f rows = 1) :
    Replaced row (f row) rows (update (fun row => q row) f rows) := by
  obtain ⟨other, inside, holds, _⟩ := affected_pos one
  obtain rfl := keyed.eq inside member (only other (of_decide_eq_true holds))
  exact update_replaced keyed member holds fun other _ matched => only other (of_decide_eq_true matched)

theorem countP_one (keyed : Keyed key rows) (member : row ∈ rows) (holds : p row = true)
    (only : ∀ other ∈ rows, p other = true → key other = key row) : rows.countP p = 1 := by
  obtain ⟨before, after, rfl, outside⟩ := keyed.around member only
  have front : before.countP p = 0 := List.countP_eq_zero.mpr fun other inside => by simp [outside other (.inl inside)]
  have back : after.countP p = 0 := List.countP_eq_zero.mpr fun other inside => by simp [outside other (.inr inside)]
  rw [List.countP_append, List.countP_cons, front, back]
  simp [holds]

theorem Keyed.filter_length (keyed : Keyed key rows)
    (only : ∀ left ∈ rows, ∀ right ∈ rows, p left = true → p right = true → key left = key right) :
    (rows.filter p).length ≤ 1 := by
  rw [← List.countP_eq_length_filter]
  by_cases found : ∃ row ∈ rows, p row = true
  · obtain ⟨row, member, holds⟩ := found
    exact (countP_one keyed member holds fun other inside matched => only other inside row member matched holds).le
  · rw [List.countP_eq_zero.mpr fun row member holds => found ⟨row, member, holds⟩]
    exact Nat.zero_le 1

theorem affected_one [DecidableEq α] (keyed : Keyed key rows) (member : row ∈ rows) (holds : p row = true)
    (changed : f row ≠ row) (only : ∀ other ∈ rows, p other = true → key other = key row) : affected p f rows = 1 := by
  refine countP_one keyed member (by simp [holds, changed]) fun other inside matched => ?_
  simp only [Bool.and_eq_true] at matched
  exact only other inside matched.1

theorem Replaced.refl (member : row ∈ rows) : Replaced row row rows rows := by
  obtain ⟨before, after, rfl⟩ := List.append_of_mem member
  exact ⟨before, after, rfl, rfl⟩

namespace Replaced

variable {row row' : α} {rows rows' : List α} (replaced : Replaced row row' rows rows')
include replaced

theorem mem_left : row ∈ rows := by
  obtain ⟨before, after, rfl, rfl⟩ := replaced
  simp

theorem mem_right : row' ∈ rows' := by
  obtain ⟨before, after, rfl, rfl⟩ := replaced
  simp

theorem keyed (keyed : Keyed key rows) (same : key row' = key row) : Keyed key rows' := by
  obtain ⟨before, after, rfl, rfl⟩ := replaced
  simpa [Keyed, same] using keyed

theorem mem_iff (keyed : Keyed key rows) : other ∈ rows' ↔ other = row' ∨ (other ∈ rows ∧ key other ≠ key row) := by
  have unique : ∀ other ∈ rows, key other = key row → other = row :=
    fun other inside same => keyed.eq inside replaced.mem_left same
  obtain ⟨before, after, rfl, rfl⟩ := replaced
  have apart := keyed.apart
  constructor
  · intro member
    rcases List.mem_append.mp member with inside | inside
    · refine .inr ⟨by simp [inside], fun same => apart.1 ?_⟩
      exact unique other (by simp [inside]) same ▸ inside
    · rcases List.mem_cons.mp inside with new | inside
      · exact .inl new
      · refine .inr ⟨by simp [inside], fun same => apart.2 ?_⟩
        exact unique other (by simp [inside]) same ▸ inside
  · rintro (rfl | ⟨member, different⟩)
    · simp
    · have other_ne : other ≠ row := fun same => different (by rw [same])
      simp only [List.mem_append, List.mem_cons] at member ⊢
      rcases member with inside | same | inside
      · exact .inl inside
      · exact absurd same other_ne
      · exact .inr (.inr inside)

theorem stays (keyed : Keyed key rows) (member : other ∈ rows) (different : other ≠ row) : other ∈ rows' :=
  (replaced.mem_iff keyed).mpr (.inr ⟨member, fun same => different (keyed.eq member replaced.mem_left same)⟩)

theorem filter_of_not (old : p row = false) (new : p row' = false) : rows'.filter p = rows.filter p := by
  obtain ⟨before, after, rfl, rfl⟩ := replaced
  simp [old, new]

theorem filter (old : p row = true) (new : p row' = true) : Replaced row row' (rows.filter p) (rows'.filter p) := by
  obtain ⟨before, after, rfl, rfl⟩ := replaced
  exact ⟨before.filter p, after.filter p, by simp [old], by simp [new]⟩

theorem map_eq (same : view row' = view row) : rows'.map view = rows.map view := by
  obtain ⟨before, after, rfl, rfl⟩ := replaced
  simp [same]

theorem subset (member : other ∈ rows') : other = row' ∨ other ∈ rows := by
  obtain ⟨before, after, rfl, rfl⟩ := replaced
  simp only [List.mem_append, List.mem_cons] at member ⊢
  tauto

theorem length : rows'.length = rows.length := by
  obtain ⟨before, after, rfl, rfl⟩ := replaced
  simp

theorem forall₂ (same : ∀ row, turn row row) (changed : turn row row') : List.Forall₂ turn rows rows' := by
  obtain ⟨before, after, rfl, rfl⟩ := replaced
  exact List.rel_append (List.forall₂_same.mpr fun row _ => same row)
    (.cons changed (List.forall₂_same.mpr fun row _ => same row))

theorem countP (p : α → Bool) : rows'.countP p + (if p row then 1 else 0) = rows.countP p + (if p row' then 1 else 0) := by
  obtain ⟨before, after, rfl, rfl⟩ := replaced
  simp only [List.countP_append, List.countP_cons]
  omega

theorem countP_le (implied : p row' = true → p row = true) : rows'.countP p ≤ rows.countP p := by
  have counted := replaced.countP p
  by_cases new : p row' = true
  · rw [if_pos new, if_pos (implied new)] at counted
    omega
  · rw [if_neg new] at counted
    omega

theorem through (middle : α) : ∃ between, Replaced row middle rows between ∧ Replaced middle row' between rows' := by
  obtain ⟨before, after, rfl, rfl⟩ := replaced
  exact ⟨before ++ middle :: after, ⟨before, after, rfl, rfl⟩, ⟨before, after, rfl, rfl⟩⟩

theorem sum (weight : α → Int) : (rows'.map weight).sum = (rows.map weight).sum - weight row + weight row' := by
  obtain ⟨before, after, rfl, rfl⟩ := replaced
  simp only [List.map_append, List.map_cons, List.sum_append, List.sum_cons]
  omega

end Replaced

end Keys

end JudgingServer.Library.Table
