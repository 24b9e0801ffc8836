import Mathlib.Data.List.DropRight

/-! Lists without the items at their ends that satisfy a condition. -/

namespace JudgingServer.Library

variable {α : Type} {p q : α → Bool} {items : List α} {separator : α}

/-- The list without the items at both ends that satisfy the condition. -/
def trimEnds (p : α → Bool) (items : List α) : List α := (items.dropWhile p).rdropWhile p

/-- There is nothing to trim at either end. -/
def Bare (p : α → Bool) (items : List α) : Prop := items.dropWhile p = items ∧ items.rdropWhile p = items

private theorem dropWhile_front {front back : List α} (same : front ++ back = items) (bare : items.dropWhile p = items) :
    front.dropWhile p = front := by
  subst same
  cases front with
  | nil => rfl
  | cons first rest => simp_all [List.dropWhile_eq_self_iff]

theorem trimEnds_frame (p : α → Bool) (items : List α) :
    items = items.takeWhile p ++ trimEnds p items ++ (items.dropWhile p).rtakeWhile p := by
  unfold trimEnds
  rw [List.append_assoc, List.rdropWhile_append_rtakeWhile, List.takeWhile_append_dropWhile]

/-- The items are the content with others before and after it that satisfy the condition. -/
def Surrounded (p : α → Bool) (content items : List α) : Prop :=
  ∃ before after, (∀ item ∈ before, p item = true) ∧ (∀ item ∈ after, p item = true) ∧ items = before ++ content ++ after

theorem trimEnds_surrounded (p : α → Bool) (items : List α) : Surrounded p (trimEnds p items) items :=
  ⟨_, _, fun _ => List.mem_takeWhile_imp, fun _ => List.mem_rtakeWhile_imp, trimEnds_frame p items⟩

theorem Surrounded.trimEnds {content : List α} (around : Surrounded p content items) : trimEnds p items = trimEnds p content := by
  obtain ⟨before, after, front, back, rfl⟩ := around
  have none : after.dropWhile p = [] := List.dropWhile_eq_nil_iff.mpr back
  unfold Library.trimEnds
  rw [List.append_assoc, List.dropWhile_append_of_pos front, List.dropWhile_append]
  split
  next empty => rw [none, List.isEmpty_iff.mp empty]
  next =>
    unfold List.rdropWhile
    rw [List.reverse_append, List.dropWhile_append_of_pos fun item member => back item (List.mem_reverse.mp member)]

theorem trimEnds_bare (p : α → Bool) (items : List α) : Bare p (trimEnds p items) :=
  ⟨dropWhile_front List.rdropWhile_append_rtakeWhile (List.dropWhile_idempotent p items), List.rdropWhile_idempotent p _⟩

theorem Bare.trimEnds (bare : Bare p items) : trimEnds p items = items := by
  unfold Library.trimEnds
  rw [bare.1, bare.2]

private theorem dropWhile_intercalate {lines : List (List α)} (separates : q separator = true)
    (bare : ∀ line ∈ lines, line.dropWhile q = line) :
    ([separator].intercalate lines).dropWhile q = [separator].intercalate (lines.dropWhile List.isEmpty) := by
  induction lines with
  | nil => rfl
  | cons line rest ih =>
    obtain ⟨own, others⟩ := List.forall_mem_cons.mp bare
    cases line with
    | nil => cases rest <;> simp_all
    | cons first more =>
      have plain : q first = false := by simpa [List.dropWhile_eq_self_iff] using own
      cases rest <;> simp [plain]

private theorem intercalate_concat {lines : List (List α)} (some : lines ≠ []) :
    [separator].intercalate (lines ++ [last]) = [separator].intercalate lines ++ separator :: last := by
  induction lines with
  | nil => cases some rfl
  | cons line rest ih => cases rest <;> simp_all

private theorem rdropWhile_intercalate {lines : List (List α)} (separates : q separator = true)
    (bare : ∀ line ∈ lines, line.rdropWhile q = line) :
    ([separator].intercalate lines).rdropWhile q = [separator].intercalate (lines.rdropWhile List.isEmpty) := by
  induction lines using List.reverseRecOn with
  | nil => rfl
  | append_singleton lines last ih =>
    obtain ⟨others, own⟩ := List.forall_mem_append.mp bare
    rcases List.eq_nil_or_concat last with rfl | ⟨rest, final, rfl⟩
    · rw [List.rdropWhile_concat_pos _ _ _ rfl, ← ih others]
      cases lines with
      | nil => rfl
      | cons line lines =>
        rw [intercalate_concat (List.cons_ne_nil line lines), List.rdropWhile_concat_pos _ _ _ separates]
    · have plain : ¬ q final = true := by simpa [List.rdropWhile_eq_self_iff] using own
      rw [List.rdropWhile_concat_neg _ _ _ (by simp)]
      cases lines with
      | nil => simpa [List.rdropWhile_eq_self_iff] using plain
      | cons line lines =>
        rw [intercalate_concat (List.cons_ne_nil line lines)]
        simpa [List.rdropWhile_eq_self_iff] using plain

theorem trimEnds_map {β : Type} (p : β → Bool) (f : α → β) (items : List α) :
    trimEnds p (items.map f) = (trimEnds (p ∘ f) items).map f := by
  simp [trimEnds, List.rdropWhile, List.dropWhile_map, ← List.map_reverse]

theorem trimEnds_intercalate {lines : List (List α)} (separates : q separator = true) (bare : ∀ line ∈ lines, Bare q line) :
    trimEnds q ([separator].intercalate lines) = [separator].intercalate (trimEnds List.isEmpty lines) := by
  unfold trimEnds
  rw [dropWhile_intercalate separates fun line member => (bare line member).1, rdropWhile_intercalate separates]
  intro line member
  exact (bare line ((List.dropWhile_sublist _).subset member)).2

end JudgingServer.Library
