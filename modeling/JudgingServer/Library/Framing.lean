import Mathlib.Algebra.Order.Ring.Int

/-! Messages written one after the other, each behind a header of fixed width
from which its length can be told. The sequence can be recovered from the text. -/

namespace JudgingServer.Library

section

variable {α : Type} (header : List α → List α) {leftRest : List α}

/-- A message behind its header. -/
def framed (message : List α) : List α := header message ++ message

variable {header} {sized : List α → Prop}

private theorem framed_append_inj (fixed : ∀ message, (header message).length = width)
    (measures : ∀ left right, sized left → sized right → header left = header right → left.length = right.length)
    (leftSized : sized left) (rightSized : sized right)
    (same : framed header left ++ leftRest = framed header right ++ rightRest) : left = right ∧ leftRest = rightRest := by
  unfold framed at same
  rw [List.append_assoc, List.append_assoc] at same
  obtain ⟨headers, bodies⟩ := List.append_inj same ((fixed left).trans (fixed right).symm)
  exact List.append_inj bodies (measures left right leftSized rightSized headers)

theorem framed_flatten_inj (header : List α → List α) (sized : List α → Prop) (fixed : ∀ message, (header message).length = width) (positive : 0 < width)
    (measures : ∀ left right, sized left → sized right → header left = header right → left.length = right.length)
    {left right : List (List α)} (leftSized : ∀ message ∈ left, sized message) (rightSized : ∀ message ∈ right, sized message)
    (same : (left.map (framed header)).flatten = (right.map (framed header)).flatten) : left = right := by
  have nonempty : ∀ message rest, framed header message ++ rest ≠ [] := by
    intro message rest empty
    have wide := congrArg List.length empty
    rw [List.length_append, framed, List.length_append, fixed] at wide
    exact absurd wide (by simp; omega)
  induction left generalizing right with
  | nil =>
    cases right with
    | nil => rfl
    | cons message rest => exact absurd same.symm (nonempty message _)
  | cons message rest ih =>
    cases right with
    | nil => exact absurd same (nonempty message _)
    | cons other others =>
      obtain ⟨rfl, tails⟩ := framed_append_inj fixed measures (leftSized message List.mem_cons_self)
        (rightSized other List.mem_cons_self) same
      rw [ih (fun item member => leftSized item (List.mem_cons_of_mem _ member))
        (fun item member => rightSized item (List.mem_cons_of_mem _ member)) tails]

theorem append_mark_inj (leftPlain : mark ∉ left) (rightPlain : mark ∉ right)
    (same : left ++ mark :: leftRest = right ++ mark :: rightRest) : left = right ∧ leftRest = rightRest := by
  induction left generalizing right with
  | nil =>
    cases right with
    | nil => exact ⟨rfl, (List.cons.inj same).2⟩
    | cons first right => exact absurd ((List.cons.inj same).1 ▸ List.mem_cons_self) rightPlain
  | cons first left ih =>
    cases right with
    | nil => exact absurd ((List.cons.inj same).1 ▸ List.mem_cons_self) leftPlain
    | cons other right =>
      obtain ⟨rfl, tails⟩ := List.cons.inj same
      rw [List.mem_cons, not_or] at leftPlain rightPlain
      obtain ⟨rfl, rests⟩ := ih leftPlain.2 rightPlain.2 tails
      exact ⟨rfl, rests⟩

end

theorem mod_pow_eq_of_digits {base left right : Nat} (places : Nat)
    (digits : ∀ place < places, left / base ^ place % base = right / base ^ place % base) :
    left % base ^ places = right % base ^ places := by
  induction places with
  | zero => rw [Nat.pow_zero, Nat.mod_one, Nat.mod_one]
  | succ places ih =>
    rw [Nat.mod_pow_succ, Nat.mod_pow_succ, ih (fun place below => digits place (by omega)), digits places (by omega)]

end JudgingServer.Library
