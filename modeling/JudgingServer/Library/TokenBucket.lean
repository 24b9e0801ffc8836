import Mathlib.Algebra.Order.Field.Basic
import Mathlib.Algebra.Order.Group.MinMax
import Mathlib.Tactic.Linarith
import Mathlib.Tactic.Ring

/-! Token buckets over an ordered field: a bucket of a fixed capacity is refilled at a fixed
rate, and what is spent has to be there. -/

namespace JudgingServer.Library.TokenBucket

variable {K : Type} [Field K] [LinearOrder K]

/-- What a bucket holds after a while. -/
def refill (capacity rate tokens elapsed : K) : K := min capacity (tokens + elapsed * rate)

/-- Times and costs of what is spent, in order; each cost is there when it is spent. -/
def Covers (capacity rate : K) : K → K → List (K × K) → Prop
  | _, _, [] => True
  | tokens, now, spent :: rest =>
    now ≤ spent.1 ∧ 0 ≤ spent.2 ∧ spent.2 ≤ refill capacity rate tokens (spent.1 - now) ∧
      Covers capacity rate (refill capacity rate tokens (spent.1 - now) - spent.2) spent.1 rest

/-- What is spent between two times. -/
def spentWithin (low high : K) (spends : List (K × K)) : K :=
  ((spends.filter fun spent => low ≤ spent.1 ∧ spent.1 ≤ high).map Prod.snd).sum

variable {capacity rate tokens elapsed now low high : K} {spends : List (K × K)}

theorem refill_le_capacity : refill capacity rate tokens elapsed ≤ capacity := min_le_left _ _

private theorem refill_le_add : refill capacity rate tokens elapsed ≤ tokens + elapsed * rate := min_le_right _ _

theorem refill_zero (within : tokens ≤ capacity) : refill capacity rate tokens 0 = tokens := by
  unfold refill
  rw [zero_mul, add_zero, min_eq_right within]

private theorem spentWithin_cons (spent : K × K) : spentWithin low high (spent :: spends) =
    (if low ≤ spent.1 ∧ spent.1 ≤ high then spent.2 else 0) + spentWithin low high spends := by
  unfold spentWithin
  by_cases inside : low ≤ spent.1 ∧ spent.1 ≤ high <;> simp [inside]

private theorem Covers.spentWithin_late (covers : Covers capacity rate tokens now spends) (late : high < now) :
    spentWithin low high spends = 0 := by
  induction spends generalizing tokens now with
  | nil => rfl
  | cons spent rest ih =>
    obtain ⟨later, -, -, rest⟩ := covers
    have outside : ¬ (low ≤ spent.1 ∧ spent.1 ≤ high) := fun inside => absurd (lt_of_lt_of_le late later) (not_lt.mpr inside.2)
    rw [spentWithin_cons, if_neg outside, zero_add]
    exact ih rest (lt_of_lt_of_le late later)

variable [IsStrictOrderedRing K]

theorem refill_nonneg (room : 0 ≤ capacity) (some : 0 ≤ tokens) (positive : 0 ≤ rate) (later : 0 ≤ elapsed) :
    0 ≤ refill capacity rate tokens elapsed :=
  le_min room (add_nonneg some (mul_nonneg later positive))

theorem refill_refill {more : K} (positive : 0 ≤ rate) (later : 0 ≤ more) :
    refill capacity rate (refill capacity rate tokens elapsed) more = refill capacity rate tokens (elapsed + more) := by
  have gained : 0 ≤ more * rate := mul_nonneg later positive
  unfold refill
  rw [← min_add_add_right, ← min_assoc, min_eq_left (le_add_of_nonneg_right gained), add_assoc, add_mul]

theorem refill_full (some : 0 ≤ tokens) (long : capacity ≤ elapsed * rate) : refill capacity rate tokens elapsed = capacity :=
  min_eq_left (le_add_of_nonneg_of_le some long)

theorem Covers.waited {later : K} (positive : 0 ≤ rate) (forward : now ≤ later)
    (covers : Covers capacity rate (refill capacity rate tokens (later - now)) later spends) :
    Covers capacity rate tokens now spends := by
  cases spends with
  | nil => trivial
  | cons spent rest =>
    obtain ⟨after, cost, covered, rest⟩ := covers
    have level : refill capacity rate (refill capacity rate tokens (later - now)) (spent.1 - later) =
        refill capacity rate tokens (spent.1 - now) := by
      rw [refill_refill positive (sub_nonneg.mpr after)]
      congr 1
      ring
    rw [level] at covered rest
    exact ⟨le_trans forward after, cost, covered, rest⟩

/-- From now on no more is spent than what is there and what comes in. -/
theorem Covers.spentWithin_le (covers : Covers capacity rate tokens now spends) (some : 0 ≤ tokens) (positive : 0 ≤ rate)
    (begun : now ≤ high) : spentWithin low high spends ≤ tokens + (high - now) * rate := by
  induction spends generalizing tokens now with
  | nil => exact add_nonneg some (mul_nonneg (sub_nonneg.mpr begun) positive)
  | cons spent rest ih =>
    obtain ⟨later, cost, covered, rest⟩ := covers
    have gained := @refill_le_add K _ _ capacity rate tokens (spent.1 - now)
    rw [spentWithin_cons]
    by_cases inside : spent.1 ≤ high
    · have remaining := ih rest (sub_nonneg.mpr covered) inside
      have counted : (if low ≤ spent.1 ∧ spent.1 ≤ high then spent.2 else 0) ≤ spent.2 := by
        split_ifs
        · exact le_refl _
        · exact cost
      linarith
    · have outside : ¬ (low ≤ spent.1 ∧ spent.1 ≤ high) := fun both => inside both.2
      rw [if_neg outside, zero_add, Covers.spentWithin_late rest (not_le.mp inside)]
      exact add_nonneg some (mul_nonneg (sub_nonneg.mpr begun) positive)

/-- In any window no more is spent than the capacity and what comes in during the window. -/
theorem Covers.window (covers : Covers capacity rate tokens now spends) (room : 0 ≤ capacity) (positive : 0 ≤ rate)
    (window : low ≤ high) : spentWithin low high spends ≤ capacity + (high - low) * rate := by
  have whole : 0 ≤ capacity + (high - low) * rate := add_nonneg room (mul_nonneg (sub_nonneg.mpr window) positive)
  induction spends generalizing tokens now with
  | nil => exact whole
  | cons spent rest ih =>
    obtain ⟨later, cost, covered, rest⟩ := covers
    rw [spentWithin_cons]
    by_cases inside : low ≤ spent.1 ∧ spent.1 ≤ high
    · -- the first cost in the window meets a bucket that holds at most its capacity
      have full := @refill_le_capacity K _ _ capacity rate tokens (spent.1 - now)
      have remaining := @Covers.spentWithin_le K _ _ _ _ _ _ low _ _ _ rest (sub_nonneg.mpr covered) positive inside.2
      have shorter : (high - spent.1) * rate ≤ (high - low) * rate :=
        mul_le_mul_of_nonneg_right (sub_le_sub_left inside.1 _) positive
      rw [if_pos inside]
      linarith
    · rw [if_neg inside, zero_add]
      exact ih rest

end JudgingServer.Library.TokenBucket
