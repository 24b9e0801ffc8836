import Mathlib.Algebra.Order.BigOperators.Group.List
import JudgingServer.External.JobWorker

/-! Execution times are computed in `int64`, with the results that they have over the integers. -/

namespace JudgingServer.Proofs
open Go Bundle External

private theorem wrapInt64_eq (nonneg : 0 ≤ value) (fits : value ≤ maxInt64) : wrapInt64 value = value := by
  unfold wrapInt64
  unfold maxInt64 at fits
  omega

/-! ### What a manifest may take -/

/-- The quotient is compared in place of the product, so the product does not overflow. -/
theorem product_fits (positive : 0 < perCase) (counted : 0 < count) :
    (if maxInt64 / count < perCase then none else some (wrapInt64 (perCase * count))) =
      if maxInt64 < perCase * count then none else some (perCase * count) := by
  simp only [Int.ediv_lt_iff_lt_mul counted]
  split
  next => rfl
  next fits => rw [wrapInt64_eq (Int.mul_pos positive counted).le (Int.not_lt.mp fits)]

theorem maximumManifestExecutionMillis_pos (computed : maximumManifestExecutionMillis manifest = some reserved) :
    0 < reserved := by
  unfold maximumManifestExecutionMillis at computed
  split at computed
  next => cases computed
  next bounds =>
    have counted : (0 : Int) < manifest.cases.length := by omega
    dsimp only at computed
    split at computed
    next => cases computed
    next perCase given =>
      have positive : 0 < perCase := by
        split at given
        next =>
          obtain rfl := Option.some.inj given
          omega
        next judge present =>
          split at given
          next => cases given
          next allowed =>
            obtain rfl := Option.some.inj given
            unfold wrapInt64 maxInt64 at *
            omega
      rw [product_fits positive counted] at computed
      split at computed
      next => cases computed
      next => exact Option.some.inj computed ▸ Int.mul_pos positive counted

/-- The execution time of all cases over the integers, checker included. -/
def executionMillis (manifest : Manifest) : Int :=
  manifest.cases.length * (manifest.limits.timeLimitMillis + (manifest.specialJudge.map SpecialJudge.timeLimitMillis).getD 0)

/-- There are no cases, a limit is not positive, or the execution time is out of range. -/
def Unbounded (manifest : Manifest) : Prop :=
  manifest.cases = [] ∨ manifest.limits.timeLimitMillis ≤ 0 ∨ (∃ judge ∈ manifest.specialJudge, judge.timeLimitMillis ≤ 0) ∨
    maxInt64 < executionMillis manifest

open Classical in
private theorem maximumManifestExecutionMillis_eq (machine : ∀ judge ∈ manifest.specialJudge, judge.timeLimitMillis ≤ maxInt64) :
    maximumManifestExecutionMillis manifest = if Unbounded manifest then none else some (executionMillis manifest) := by
  unfold maximumManifestExecutionMillis Unbounded executionMillis
  by_cases bounds : manifest.cases.length = 0 ∨ manifest.limits.timeLimitMillis ≤ 0
  · rw [if_pos bounds, if_pos (by simpa [or_assoc] using bounds.imp_right .inl)]
  obtain ⟨some, positive⟩ := not_or.mp bounds
  have counted : (0 : Int) < manifest.cases.length := by omega
  rw [if_neg bounds]
  rw [List.length_eq_zero_iff] at some
  cases present : manifest.specialJudge with
  | none =>
    have product := product_fits (Int.not_le.mp positive) counted
    simpa [some, positive, Int.mul_comm] using product
  | some judge =>
    by_cases refused : judge.timeLimitMillis ≤ 0
    · simp [refused]
    have fits := machine judge present
    have room : wrapInt64 (maxInt64 - judge.timeLimitMillis) = maxInt64 - judge.timeLimitMillis :=
      wrapInt64_eq (by omega) (by omega)
    by_cases large : maxInt64 - judge.timeLimitMillis < manifest.limits.timeLimitMillis
    · have grows := le_mul_of_one_le_left (by omega : 0 ≤ manifest.limits.timeLimitMillis + judge.timeLimitMillis) counted
      have outside : maxInt64 < manifest.cases.length * (manifest.limits.timeLimitMillis + judge.timeLimitMillis) := by omega
      simp [room, large, outside]
    · have sum := wrapInt64_eq (by omega : 0 ≤ manifest.limits.timeLimitMillis + judge.timeLimitMillis) (by omega)
      have product := product_fits (by omega : 0 < manifest.limits.timeLimitMillis + judge.timeLimitMillis) counted
      simpa [room, large, refused, sum, some, positive, Int.mul_comm] using product

/-! ### What the cases have taken -/

private theorem cappedCaseExecutionFrom_eq (fits : reservation ≤ maxInt64) (times : ∀ item ∈ cases, 0 ≤ item.timeMillis)
    (nonneg : 0 ≤ total)
    (below : total ≤ reservation) :
    cappedCaseExecutionFrom reservation cases total = min reservation (total + (cases.map DurableCaseResult.timeMillis).sum) := by
  induction cases generalizing total with
  | nil => simpa [cappedCaseExecutionFrom] using below
  | cons item rest ih =>
    obtain ⟨time, times⟩ := List.forall_mem_cons.mp times
    have later : 0 ≤ (rest.map DurableCaseResult.timeMillis).sum := List.sum_nonneg (by simpa using times)
    unfold cappedCaseExecutionFrom
    rw [wrapInt64_eq (by omega : 0 ≤ reservation - total) (by omega), List.map_cons, List.sum_cons]
    split
    next => omega
    next =>
      rw [wrapInt64_eq (by omega : 0 ≤ total + item.timeMillis) (by omega), ih times (by omega) (by omega), Int.add_assoc]

/-- What a manifest may take is the product over the integers, and it is refused exactly where it
has no bound in `int64`. What cases have taken is their sum over the integers, capped by what was
reserved, however many they are. -/
theorem execution_times_exact (manifest : Manifest) (machine : ∀ judge ∈ manifest.specialJudge, judge.timeLimitMillis ≤ maxInt64)
    (cases : List DurableCaseResult) (times : ∀ item ∈ cases, 0 ≤ item.timeMillis) (reservation : Int)
    (fits : reservation ≤ maxInt64) :
    (maximumManifestExecutionMillis manifest = none ↔ Unbounded manifest) ∧
    (∀ millis, maximumManifestExecutionMillis manifest = some millis → millis = executionMillis manifest) ∧
    cappedCaseExecutionMillis cases reservation = min (max reservation 0) (cases.map DurableCaseResult.timeMillis).sum := by
  refine ⟨?_, ?_, ?_⟩
  · simp [maximumManifestExecutionMillis_eq machine]
  · intro millis computed
    simp only [maximumManifestExecutionMillis_eq machine, Option.ite_none_left_eq_some] at computed
    exact (Option.some.inj computed.2).symm
  · have sum : 0 ≤ (cases.map DurableCaseResult.timeMillis).sum := List.sum_nonneg (by simpa using times)
    unfold cappedCaseExecutionMillis
    split
    next => omega
    next =>
      rw [cappedCaseExecutionFrom_eq fits times (le_refl _) (by omega)]
      omega

def largestManifest : Manifest :=
  { emptyManifest with
    limits := ⟨1, 0⟩, specialJudge := some ⟨[], [], [], maxInt64, 0⟩, cases := [⟨[], [], [], 0⟩] }

theorem execution_times_exact_largest :
    maximumManifestExecutionMillis largestManifest = none ∧
    cappedCaseExecutionMillis (List.replicate 3 ⟨[], [], maxInt64, 0, none, none⟩) maxInt64 = maxInt64 := by
  have exact := execution_times_exact largestManifest (by simp [largestManifest])
    (List.replicate 3 ⟨[], [], maxInt64, 0, none, none⟩) (by decide) maxInt64 (le_refl _)
  refine ⟨exact.1.mpr (.inr (.inr (.inr ?_))), exact.2.2.trans ?_⟩
  · decide
  · decide

end JudgingServer.Proofs
