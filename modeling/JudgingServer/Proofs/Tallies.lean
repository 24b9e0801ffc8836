import JudgingServer.Proofs.SpecialJudge
import JudgingServer.Proofs.Text

/-! What holds of a result before it is scored: the aggregation keeps its metrics
and texts within bounds, and the special judge keeps the cases in place. -/

namespace JudgingServer.Proofs
open Go Bundle Library Sandbox Service

variable {state : Aggregation} {result : CanonicalResult}

private theorem boundedMetric_bounds (value : Int) (positive : 0 ≤ maximum) :
    0 ≤ boundedMetric value maximum ∧ boundedMetric value maximum ≤ maximum := by
  unfold boundedMetric
  split <;> omega

/-- A reported case whose execution took at most `limit` milliseconds. -/
structure CaseTallied (limit : Int) (item : CanonicalCaseResult) : Prop where
  known : item.status ≠ .systemError
  time : 0 ≤ item.timeUsedMillis ∧ item.timeUsedMillis ≤ limit
  memory : 0 ≤ item.memoryUsedKB ∧ item.memoryUsedKB ≤ maxMemoryUsedKB
  unscored : item.score = none ∧ item.maxScore = none

/-- A result before scoring, of cases that took at most `limit` milliseconds each. -/
structure Tallied (limit : Int) (result : CanonicalResult) : Prop where
  items : ∀ item ∈ result.cases, CaseTallied limit item
  status : result.status = overallStatus result.cases
  exits : result.status = .accepted → result.exitCode = 0
  time : 0 ≤ result.timeUsedMillis ∧ result.timeUsedMillis ≤ limit
  memory : 0 ≤ result.memoryUsedKB ∧ result.memoryUsedKB ≤ maxMemoryUsedKB
  stderr : Callback.utf16Len result.stderr ≤ 65536
  diagnostics : result.compileError = [] ∨ result.compileError = compilationFailedText
  compile : ∀ item ∈ result.cases, item.status = .compileError → result.compileError = compilationFailedText
  unscored : result.score = none ∧ result.totalScore = none

private theorem stderr_short (text : GoString) : Callback.utf16Len (Callback.truncateUTF16 text maxStderrUnits) ≤ 65536 := by
  have bound := utf16Len_truncateUTF16 text (show 0 ≤ maxStderrUnits by decide)
  unfold maxStderrUnits at bound ⊢
  omega

/-! ### The contestant batch -/

theorem Tallied.append (tallied : Tallied maxTimeUsedMillis state.result) (caseID : GoString) (response : ExecuteResponse)
    {status : Callback.Status} (known : status ≠ .systemError) :
    Tallied maxTimeUsedMillis (state.append caseID response status).result := by
  have time := boundedMetric_bounds response.timeUsed (show 0 ≤ maxTimeUsedMillis by decide)
  have memory := boundedMetric_bounds response.memoryUsed (show 0 ≤ maxMemoryUsedKB by decide)
  have resultTime := tallied.time
  have resultMemory := tallied.memory
  constructor
  · intro item member
    cases List.mem_append.mp member with
    | inl earlier => exact tallied.items item earlier
    | inr last =>
      rw [List.mem_singleton.mp last]
      exact ⟨known, time, memory, rfl, rfl⟩
  · simp only [Aggregation.append, overallStatus_append, tallied.status]
  · simp only [Aggregation.append]
    split
    next fails => exact fun accepted => absurd accepted fails.2
    next => exact tallied.exits
  · simp only [Aggregation.append]
    omega
  · simp only [Aggregation.append]
    omega
  · exact stderr_short _
  · simp only [Aggregation.append]
    split
    · exact .inr rfl
    · exact tallied.diagnostics
  · intro item member failed
    simp only [Aggregation.append] at member ⊢
    split
    · rfl
    next compiled =>
      cases List.mem_append.mp member with
      | inl earlier => exact tallied.compile item earlier failed
      | inr last =>
        rw [List.mem_singleton.mp last] at failed
        exact absurd failed compiled
  · exact tallied.unscored

private theorem gathered_tallied (pairs : List (ExecuteBatchV1Case × GoString)) (responses : List ExecuteResponse)
    (known : ∀ response ∈ responses, isKnownContestantStatus response.status = true)
    (tallied : Tallied maxTimeUsedMillis state.result) :
    Tallied maxTimeUsedMillis (gathered sha256 checker pairs responses state).result := by
  induction pairs generalizing responses state with
  | nil => exact tallied
  | cons prepared pairs ih =>
    cases responses with
    | nil => exact tallied
    | cons response responses =>
      apply ih responses fun other member => known other (List.mem_cons_of_mem _ member)
      exact tallied.append _ _ (localStatus_known (known response List.mem_cons_self))

private theorem acceptedResult_tallied : Tallied maxTimeUsedMillis acceptedResult :=
  ⟨fun _ member => (List.not_mem_nil member).elim, rfl, fun _ => rfl, by decide, by decide, by decide, .inl rfl,
    fun _ member => (List.not_mem_nil member).elim, rfl, rfl⟩

theorem answeredResult_tallied (sha256 : Bytes → Bytes) (checker : Checker) (pairs : List (ExecuteBatchV1Case × GoString))
    {responses : List ExecuteResponse} (known : ∀ response ∈ responses, isKnownContestantStatus response.status = true) :
    Tallied maxTimeUsedMillis (answeredResult sha256 checker pairs responses) := by
  have start : Tallied maxTimeUsedMillis (Aggregation.mk acceptedResult [] []).result := acceptedResult_tallied
  obtain ⟨items, status, _, time, memory, stderr, diagnostics, compile, unscored⟩ :
      Tallied maxTimeUsedMillis (gathered sha256 checker pairs responses ⟨acceptedResult, [], []⟩).result :=
    gathered_tallied pairs responses known start
  exact ⟨items, status, fun accepted => if_pos accepted, time, memory, stderr, diagnostics, compile, unscored⟩

/-! ### The special judge -/

/-- What a special judge may do to a reported case: an accepted case may turn
out wrong, and the time of the checker is added. -/
structure Rejudged (before item : CanonicalCaseResult) : Prop where
  named : item.caseID = before.caseID
  status : item.status = before.status ∨ (before.status = .accepted ∧ item.status = .wrongAnswer)
  tallied : CaseTallied maxTimeUsedMillis before → CaseTallied (2 * maxTimeUsedMillis) item

theorem Rejudged.refl (item : CanonicalCaseResult) : Rejudged item item := by
  refine ⟨rfl, .inl rfl, fun tallied => ⟨tallied.known, ⟨tallied.time.1, ?_⟩, tallied.memory, tallied.unscored⟩⟩
  have bound := tallied.time.2
  unfold maxTimeUsedMillis at bound ⊢
  omega

theorem Rejudged.judged {before : CanonicalCaseResult} (accepted : before.status = .accepted) (response : ExecuteResponse)
    (verdict : Bool) : Rejudged before (before.judged response verdict) := by
  have time := boundedMetric_bounds response.timeUsed (show 0 ≤ maxTimeUsedMillis by decide)
  have memory := boundedMetric_bounds response.memoryUsed (show 0 ≤ maxMemoryUsedKB by decide)
  refine ⟨rfl, ?_, fun tallied => ⟨?_, ?_, ?_, tallied.unscored⟩⟩
  · cases verdict with
    | true => exact .inl accepted.symm
    | false => exact .inr ⟨accepted, rfl⟩
  · cases verdict <;> exact nofun
  · have beforeTime := tallied.time
    simp only [CanonicalCaseResult.judged]
    omega
  · have beforeMemory := tallied.memory
    simp only [CanonicalCaseResult.judged]
    omega

theorem applySpecialJudge_rejudged
    (judged : applySpecialJudge pipeline checker artifact contestantRequest expectedOutputs actualOutputs before = .ok result) :
    ∃ cases, List.Forall₂ Rejudged before.cases cases ∧ result = recomputeCanonicalVerdict { before with cases := cases } := by
  cases applySpecialJudge_ok judged with
  | inl unjudged => exact ⟨before.cases, List.forall₂_same.mpr fun item _ => .refl item, unjudged.2.2⟩
  | inr checked =>
    obtain ⟨request, events, cases, _, _, prepared, _, judgements, rfl⟩ := checked
    have drafted := prepareSpecialJudge_ok prepared
    have length := judgeCases_length _ judgements
    refine ⟨cases, List.forall₂_iff_get.mpr ⟨length.symm, fun index beforeBelow below => ?_⟩, rfl⟩
    have beforeAt : before.cases[index]? = some (before.cases.get ⟨index, beforeBelow⟩) := List.getElem?_eq_getElem beforeBelow
    have found : cases[index]? = some (cases.get ⟨index, below⟩) := List.getElem?_eq_getElem below
    cases judgeCases_ok drafted.distinct _ judgements found with
    | inl judgedBy =>
      obtain ⟨slot, _, original, response, verdict, slotAt, originalAt, _, same⟩ := judgedBy
      rw [Nat.zero_add] at slotAt
      obtain ⟨_, asked, _, _, askedAt, _, accepted⟩ := drafted.named slot index slotAt
      rw [Nat.sub_zero, beforeAt] at askedAt
      rw [beforeAt] at originalAt
      rw [same, ← Option.some.inj originalAt]
      exact .judged (Option.some.inj askedAt ▸ accepted) response verdict
    | inr untouched =>
      rw [← Option.some.inj (beforeAt.symm.trans untouched.1)]
      exact .refl _

private theorem tally_fold {limit : Int} (items : List CanonicalCaseResult) {seen : List CanonicalCaseResult}
    {result : CanonicalResult}
    (tallied : ∀ item ∈ items, CaseTallied limit item) (status : result.status = overallStatus seen)
    (time : 0 ≤ result.timeUsedMillis ∧ result.timeUsedMillis ≤ limit)
    (memory : 0 ≤ result.memoryUsedKB ∧ result.memoryUsedKB ≤ maxMemoryUsedKB) :
    ∃ total timeUsed memoryUsed, items.foldl CanonicalResult.tally result =
        { result with status := total, timeUsedMillis := timeUsed, memoryUsedKB := memoryUsed } ∧
      total = overallStatus (seen ++ items) ∧ (0 ≤ timeUsed ∧ timeUsed ≤ limit) ∧
      (0 ≤ memoryUsed ∧ memoryUsed ≤ maxMemoryUsedKB) := by
  induction items generalizing seen result with
  | nil =>
    rw [List.append_nil]
    exact ⟨_, _, _, rfl, status, time, memory⟩
  | cons item rest ih =>
    obtain ⟨first, others⟩ := List.forall_mem_cons.mp tallied
    have itemTime := first.time
    have itemMemory := first.memory
    obtain ⟨total, timeUsed, memoryUsed, folded, verdict, bounds⟩ := @ih (seen ++ [item]) (result.tally item) others
      (by simp only [CanonicalResult.tally, overallStatus_append, status])
      (by simp only [CanonicalResult.tally]; omega)
      (by simp only [CanonicalResult.tally]; omega)
    rw [List.append_assoc] at verdict
    exact ⟨total, timeUsed, memoryUsed, folded, verdict, bounds⟩

private theorem recomputeCanonicalVerdict_tallied (positive : 0 ≤ limit) (items : ∀ item ∈ result.cases, CaseTallied limit item)
    (diagnostics : result.compileError = [] ∨ result.compileError = compilationFailedText)
    (compile : ∀ item ∈ result.cases, item.status = .compileError → result.compileError = compilationFailedText)
    (unscored : result.score = none ∧ result.totalScore = none) : Tallied limit (recomputeCanonicalVerdict result) := by
  obtain ⟨total, timeUsed, memoryUsed, folded, verdict, time, memory⟩ :=
    @tally_fold limit result.cases [] { result with status := .accepted, exitCode := 0, timeUsedMillis := 0, memoryUsedKB := 0 }
      items rfl ⟨Int.le_refl 0, positive⟩ ⟨Int.le_refl 0, show 0 ≤ maxMemoryUsedKB by decide⟩
  unfold recomputeCanonicalVerdict
  simp only [folded]
  exact ⟨items, verdict, fun _ => rfl, time, memory, stderr_short _, diagnostics, compile, unscored⟩

theorem overallStatus_rejudged {before : List CanonicalCaseResult} (rejudged : List.Forall₂ Rejudged before cases)
    (compile : overallStatus cases = .compileError) : overallStatus before = .compileError := by
  unfold overallStatus at compile ⊢
  induction rejudged with
  | nil => exact compile
  | @cons original item _ _ one rest ih =>
    rw [List.find?_cons] at compile ⊢
    cases one.status with
    | inl same =>
      by_cases accepted : original.status = .accepted
      · simp only [same, accepted, ne_eq, not_true_eq_false, decide_false] at compile ⊢
        exact ih compile
      · simp only [same, accepted, ne_eq, not_false_eq_true, decide_true, Option.map_some, Option.getD_some] at compile ⊢
        exact compile
    | inr wrong =>
      simp [wrong.2] at compile

theorem Tallied.rejudged (tallied : Tallied maxTimeUsedMillis before) (rejudged : List.Forall₂ Rejudged before.cases cases) :
    Tallied (2 * maxTimeUsedMillis) (recomputeCanonicalVerdict { before with cases := cases }) := by
  have origin : ∀ item ∈ cases, ∃ original ∈ before.cases, Rejudged original item := by
    intro item member
    obtain ⟨index, found⟩ := List.mem_iff_getElem?.mp member
    obtain ⟨original, originalAt, same⟩ := forall₂_getElem? rejudged found
    exact ⟨original, List.mem_of_getElem? originalAt, same⟩
  apply recomputeCanonicalVerdict_tallied (by decide)
  · intro item member
    obtain ⟨original, listed, same⟩ := origin item member
    exact same.tallied (tallied.items original listed)
  · exact tallied.diagnostics
  · intro item member failed
    obtain ⟨original, listed, same⟩ := origin item member
    cases same.status with
    | inl kept => exact tallied.compile original listed (kept.symm.trans failed)
    | inr wrong => exact absurd (wrong.2.symm.trans failed) (by decide)
  · exact tallied.unscored

theorem Tallied.weaken (tallied : Tallied maxTimeUsedMillis result) : Tallied (2 * maxTimeUsedMillis) result := by
  have weaker : maxTimeUsedMillis ≤ 2 * maxTimeUsedMillis := by decide
  exact ⟨fun item member => (Rejudged.refl item).tallied (tallied.items item member), tallied.status, tallied.exits,
    ⟨tallied.time.1, Int.le_trans tallied.time.2 weaker⟩, tallied.memory, tallied.stderr, tallied.diagnostics, tallied.compile,
    tallied.unscored⟩

end JudgingServer.Proofs
