import JudgingServer.Proofs.BatchStream
import JudgingServer.Proofs.ManifestValidation
import JudgingServer.Proofs.Outputs

/-! The verdict of an execution whose checker is exact or token. -/

namespace JudgingServer.Proofs
open Go Bundle Library Sandbox Service

variable {artifact : Artifact} {responses : List ExecuteResponse} {index : Nat}

/-! ### Valid manifests -/

/-- A valid manifest is ACM, or OI with positive weights that add up to its total. -/
structure Scoring (manifest : Manifest) : Prop where
  modes : manifest.judgeMode = .acm ∨ manifest.judgeMode = .oi
  total : manifest.judgeMode = .oi → manifest.totalScore = some (manifest.cases.map Case.weight).sum
  weights : manifest.judgeMode = .oi → ∀ testCase ∈ manifest.cases, 0 < testCase.weight

theorem ValidManifest.modes (valid : ValidManifest manifest) : manifest.judgeMode = .acm ∨ manifest.judgeMode = .oi := by
  rcases valid.version with first | second
  · exact .inl (valid.first first).1
  · exact (valid.second second).1

theorem validate_scoring (valid : manifest.validate = .ok done) : Scoring manifest := by
  have accepted := ValidManifest.of_validate valid
  refine ⟨accepted.modes, fun oi => ?_, fun oi => (accepted.oi oi).1⟩
  obtain ⟨total, scored, -, -, rfl⟩ := (accepted.oi oi).2
  exact scored

/-! ### Earned points -/

theorem earned_le (item : CanonicalCaseResult) (positive : 0 < testCase.weight) :
    0 ≤ earned item testCase ∧ earned item testCase ≤ testCase.weight ∧
      (earned item testCase = testCase.weight ↔ item.status = .accepted) := by
  unfold earned
  split
  next accepted => exact ⟨by omega, Int.le_refl _, fun _ => accepted, fun _ => rfl⟩
  next failed => exact ⟨Int.le_refl 0, by omega, fun same => by omega, fun accepted => absurd accepted failed⟩

variable (items : List CanonicalCaseResult)

theorem earned_sum_le (cases : List Case) (reported : items.length = cases.length)
    (positive : ∀ testCase ∈ cases, 0 < testCase.weight) :
    0 ≤ (List.zipWith earned items cases).sum ∧ (List.zipWith earned items cases).sum ≤ (cases.map Case.weight).sum ∧
      ((List.zipWith earned items cases).sum = (cases.map Case.weight).sum ↔ ∀ item ∈ items, item.status = .accepted) := by
  induction items generalizing cases with
  | nil =>
    obtain rfl := List.length_eq_zero_iff.mp reported.symm
    simp
  | cons item rest ih =>
    cases cases with
    | nil => cases reported
    | cons testCase cases =>
      obtain ⟨restPositive, restLe, restEq⟩ :=
        ih cases (Nat.succ.inj reported) (fun other member => positive other (List.mem_cons_of_mem _ member))
      obtain ⟨firstPositive, firstLe, firstEq⟩ := earned_le item (positive testCase List.mem_cons_self)
      simp only [List.zipWith_cons_cons, List.sum_cons, List.map_cons, List.forall_mem_cons]
      refine ⟨by omega, by omega, ?_⟩
      rw [← firstEq, ← restEq]
      omega

private theorem earned_scored (cases : List Case) :
    List.zipWith earned (List.zipWith scoreItem items cases) cases = List.zipWith earned items cases := by
  induction items generalizing cases with
  | nil => rfl
  | cons item rest ih =>
    cases cases with
    | nil => rfl
    | cons testCase cases =>
      simp only [List.zipWith_cons_cons, ih]
      rfl

/-! ### The contestant batch -/

structure ContestantRun (sha256 : Bytes → Bytes) (pipeline : BatchBundlePipeline) (input : CanonicalExecutionRequest)
    (artifact : Artifact) (contestant : SandboxFleet) (batch : ContestantBatch)
    (pairs : List (ExecuteBatchV1Case × GoString)) : Prop where
  prepares : prepareBatch sha256 pipeline input artifact = .ok (batch.request, batch.expectedChecks)
  prepared : PreparedBatch sha256 input artifact batch.request pairs
  checks : batch.expectedChecks = pairs.map Prod.snd
  ran : pipeline.runBatch contestant batch.request = .ok (some batch.events)
  aggregated : aggregateBatchResult sha256 artifact.manifest batch.expectedChecks batch.events =
    .ok (batch.result, batch.actualOutputs)

theorem runContestant_ok (returned : runContestant sha256 pipeline input artifact contestant = .ok batch) :
    ∃ pairs, ContestantRun sha256 pipeline input artifact contestant batch pairs := by
  obtain ⟨⟨request, checks⟩, prepares, returned⟩ := checked_ok returned
  obtain ⟨pairs, prepared, keeps⟩ := prepareBatch_ok prepares
  obtain ⟨response, ran, returned⟩ := checked_ok returned
  cases response with
  | none => cases returned
  | some events =>
    obtain ⟨⟨result, outputs⟩, aggregated, returned⟩ := checked_ok returned
    obtain ⟨_, _, returned⟩ := checked_ok returned
    obtain rfl := Except.ok.inj returned
    exact ⟨pairs, prepares, prepared, keeps, ran, aggregated⟩

theorem runContestant_answers (prepares : prepareBatch sha256 pipeline input artifact = .ok (request, pairs.map Prod.snd))
    (cases : request.cases = pairs.map Prod.fst) (ran : pipeline.runBatch contestant request = .ok (some events))
    (answers : Answers request responses events)
    (known : (answeredResult sha256 artifact.manifest.checker pairs responses).status ≠ .systemError) :
    runContestant sha256 pipeline input artifact contestant =
      .ok ⟨request, pairs.map Prod.snd, events, answeredResult sha256 artifact.manifest.checker pairs responses,
        responses.map ExecuteResponse.stdout⟩ := by
  refine checked_run prepares (checked_run ran ?_)
  refine checked_run (aggregateBatchResult_answers _ _ answers cases) ?_
  exact checked_run (rejectIf_pass known) rfl

theorem judgeContestant_compileError (compile : batch.result.status = .compileError) (checker : SandboxFleet) :
    judgeContestant pipeline artifact checker batch = .ok batch.result :=
  if_neg fun judging => judging.2 compile

/-- The checker is not run where the first case that failed did not compile: the batch is
scored as it was aggregated. -/
theorem executeCanonical_compileError
    (prepares : prepareBatch sha256 pipeline input artifact = .ok (request, pairs.map Prod.snd))
    (prepared : PreparedBatch sha256 input artifact request pairs)
    (ran : pipeline.runBatch contestant request = .ok (some events)) (answers : Answers request responses events)
    (compile : overallStatus (List.zipWith (report sha256 artifact.manifest.checker) pairs responses) = .compileError) :
    ∃ batch, runContestant sha256 pipeline input artifact contestant = .ok batch ∧ batch.result.status = .compileError ∧
      batch.result.cases = List.zipWith (report sha256 artifact.manifest.checker) pairs responses ∧
      batch.result.cases.length ≤ artifact.manifest.cases.length ∧
      ∀ checker, executeCanonical sha256 pipeline input artifact contestant checker =
        applyManifestScoring artifact.manifest batch.result := by
  obtain ⟨aggregated, same⟩ : ∃ result, answeredResult sha256 artifact.manifest.checker pairs responses = result := ⟨_, rfl⟩
  have reports : aggregated.cases = List.zipWith (report sha256 artifact.manifest.checker) pairs responses := by
    rw [← same]
    exact answeredResult_cases pairs responses
  have status : aggregated.status = .compileError := by
    rw [← same, answeredResult_status, answeredResult_cases]
    exact compile
  have runs := runContestant_answers prepares prepared.cases ran answers (by rw [same, status]; decide)
  rw [same] at runs
  refine ⟨_, runs, status, reports, ?_, fun checker => ?_⟩
  · rw [reports, List.length_zipWith, prepared.all.length_eq]
    exact Nat.min_le_left _ _
  · unfold executeCanonical
    rw [runs]
    simp only [bind, Except.bind]
    rw [judgeContestant_compileError status]

namespace ContestantRun

variable (run : ContestantRun sha256 pipeline input artifact contestant batch pairs)
include run

theorem ends :
    (∃ event, batch.events = [some event] ∧ event.kind = .compileError ∧ batch.result = compileErrorResult) ∨
    ∃ responses, Answers batch.request responses batch.events ∧
      batch.result = answeredResult sha256 artifact.manifest.checker pairs responses ∧
      batch.actualOutputs = responses.map ExecuteResponse.stdout := by
  have aggregated := run.aggregated
  rw [run.checks] at aggregated
  cases validateBatchEvents_ok (runBatch_ok run.ran).2 with
  | inl failed =>
    obtain ⟨event, stream, compile⟩ := failed
    rw [stream, aggregateBatchResult_compile compile] at aggregated
    exact .inl ⟨event, stream, compile, (congrArg Prod.fst (Except.ok.inj aggregated)).symm⟩
  | inr answered =>
    obtain ⟨responses, answers⟩ := answered
    rw [aggregateBatchResult_answers _ _ answers run.prepared.cases] at aggregated
    obtain ⟨result, outputs⟩ := Prod.mk.inj (Except.ok.inj aggregated)
    exact .inr ⟨responses, answers, result.symm, outputs.symm⟩

theorem cases :
    (∃ event, batch.events = [some event] ∧ event.kind = .compileError ∧ batch.result = compileErrorResult) ∨
    ∃ responses, Answers batch.request responses batch.events ∧
      batch.result.cases = List.zipWith (report sha256 artifact.manifest.checker) pairs responses ∧
      batch.result.status = overallStatus batch.result.cases ∧
      batch.actualOutputs = responses.map ExecuteResponse.stdout := by
  refine run.ends.imp_right ?_
  rintro ⟨responses, answers, result, outputs⟩
  rw [result]
  exact ⟨responses, answers, answeredResult_cases pairs responses, answeredResult_status pairs responses, outputs⟩

end ContestantRun

theorem mapBundleStatus_accepted : mapBundleStatus status = .accepted ↔ status = lit "Accepted" := by
  unfold mapBundleStatus mapCallbackStatus
  grind

private theorem mapBundleStatus_known (known : isKnownContestantStatus status = true) :
    mapBundleStatus status ≠ .systemError := by
  unfold isKnownContestantStatus at known
  unfold mapBundleStatus mapCallbackStatus
  simp only [List.contains_eq_mem, List.mem_cons, List.not_mem_nil, or_false, decide_eq_true_eq] at known
  grind

/-! ### The verdict -/

/-- The status of a case by what the checker is for: the mapped status of the
sandbox, except that an accepted case whose output does not match is wrong. -/
def judgedStatus (checker : Checker) (expected : GoString) (response : ExecuteResponse) : Callback.Status :=
  if response.status = lit "Accepted" ∧ outputsMatch checker response.stdout expected = false then .wrongAnswer
  else mapBundleStatus response.status

/-- The result of an execution in which the sandbox answered with `responses`. -/
structure CorrectVerdict (artifact : Artifact) (responses : List ExecuteResponse) (result : CanonicalResult) : Prop where
  reported : result.cases.length = responses.length
  within : result.cases.length ≤ artifact.manifest.cases.length
  cases : ∀ (index : Nat) (item : CanonicalCaseResult), result.cases[index]? = some item → ∃ testCase response input expected,
    artifact.manifest.cases[index]? = some testCase ∧ responses[index]? = some response ∧
      artifact.readCase testCase = some (input, expected) ∧ item.caseID = testCase.id ∧
      item.status = judgedStatus artifact.manifest.checker expected response
  acm : artifact.manifest.judgeMode = .acm →
    (result.status = .accepted ↔
      result.cases.length = artifact.manifest.cases.length ∧ ∀ item ∈ result.cases, item.status = .accepted) ∧
    (result.status ≠ .accepted →
      ∃ item, (result.cases.find? fun item => item.status ≠ .accepted) = some item ∧ result.status = item.status)
  oi : artifact.manifest.judgeMode = .oi →
    result.cases.length = artifact.manifest.cases.length ∧
      result.score = some (List.zipWith earned result.cases artifact.manifest.cases).sum ∧
      result.totalScore = artifact.manifest.totalScore ∧
      (result.status = .accepted ↔ result.score = artifact.manifest.totalScore)

private theorem report_judged (noCollisions : Function.Injective sha256)
    (plain : artifact.manifest.checker = .exact ∨ artifact.manifest.checker = .token)
    (fits : PreparedCase sha256 artifact testCase prepared)
    (expectedFits : ∀ testCase input expected, artifact.readCase testCase = some (input, expected) → expected.length < 2 ^ 63)
    (outputFits : response.stdout.length < 2 ^ 63) :
    ∃ input expected, artifact.readCase testCase = some (input, expected) ∧
      (report sha256 artifact.manifest.checker prepared response).caseID = testCase.id ∧
      (report sha256 artifact.manifest.checker prepared response).status =
        judgedStatus artifact.manifest.checker expected response := by
  obtain ⟨expected, kept, read, keeps, check⟩ := fits.reads
  refine ⟨_, expected, read, fits.named, ?_⟩
  have agrees := outputMatchesExpectedCheck_eq noCollisions plain keeps outputFits (expectedFits _ _ _ read)
  have local_check : artifact.manifest.checker ≠ .special := by
    obtain exact | token := plain
    · rw [exact]; decide
    · rw [token]; decide
  simp only [report, localStatus, judgedStatus, ← check, agrees, local_check, ne_eq, not_false_eq_true, true_and]

theorem forall₂_getElem? {α β : Type} {related : α → β → Prop} {left : List α} {right : List β}
    (all : List.Forall₂ related left right) {second : β} (found : right[index]? = some second) :
    ∃ first, left[index]? = some first ∧ related first second := by
  obtain ⟨below, rfl⟩ := List.getElem?_eq_some_iff.mp found
  have leftBelow : index < left.length := all.length_eq ▸ below
  exact ⟨left[index], List.getElem?_eq_getElem leftBelow, all.get leftBelow below⟩

theorem localStatus_accepted (accepted : localStatus sha256 checker check response = .accepted) :
    response.status = lit "Accepted" := by
  unfold localStatus at accepted
  split at accepted
  next => cases accepted
  next => exact mapBundleStatus_accepted.mp accepted

theorem localStatus_known (known : isKnownContestantStatus response.status = true) :
    localStatus sha256 checker check response ≠ .systemError := by
  unfold localStatus
  split
  · decide
  · exact mapBundleStatus_known known

private theorem overallStatus_stopped (within : responses.length ≤ pairs.length)
    (failed : ∃ response ∈ responses, response.status ≠ lit "Accepted") :
    overallStatus (List.zipWith (report sha256 checker) pairs responses) ≠ .accepted := by
  intro accepted
  obtain ⟨response, member, failed⟩ := failed
  obtain ⟨index, below, rfl⟩ := List.getElem_of_mem member
  have item : report sha256 checker pairs[index] responses[index] ∈ List.zipWith (report sha256 checker) pairs responses :=
    List.mem_of_getElem? (List.getElem?_zipWith_eq_some.mpr
      ⟨pairs[index], responses[index], List.getElem?_eq_getElem _, List.getElem?_eq_getElem below, rfl⟩)
  exact failed (localStatus_accepted (overallStatus_accepted.mp accepted _ item))

theorem ContestantRun.reported (noCollisions : Function.Injective sha256)
    (plain : artifact.manifest.checker = .exact ∨ artifact.manifest.checker = .token)
    (expectedFits : ∀ testCase input expected, artifact.readCase testCase = some (input, expected) → expected.length < 2 ^ 63)
    (outputFits : ∀ response ∈ responses, response.stdout.length < 2 ^ 63)
    (run : ContestantRun sha256 pipeline input artifact contestant batch pairs)
    (reports : batch.result.cases = List.zipWith (report sha256 artifact.manifest.checker) pairs responses)
    (found : batch.result.cases[index]? = some item) :
    ∃ testCase response input expected, artifact.manifest.cases[index]? = some testCase ∧ responses[index]? = some response ∧
      artifact.readCase testCase = some (input, expected) ∧ item.caseID = testCase.id ∧
      item.status = judgedStatus artifact.manifest.checker expected response := by
  rw [reports] at found
  obtain ⟨prepared, response, preparedAt, responseAt, rfl⟩ := List.getElem?_zipWith_eq_some.mp found
  obtain ⟨testCase, caseAt, fits⟩ := forall₂_getElem? run.prepared.all preparedAt
  obtain ⟨input, expected, read, named, judged⟩ :=
    report_judged noCollisions plain fits expectedFits (outputFits response (List.mem_of_getElem? responseAt))
  exact ⟨testCase, response, input, expected, caseAt, responseAt, read, named, judged⟩

theorem find_failed (failed : overallStatus cases ≠ .accepted) :
    ∃ item, (cases.find? fun item => item.status ≠ .accepted) = some item ∧ overallStatus cases = item.status := by
  unfold overallStatus at failed ⊢
  cases found : cases.find? fun item => item.status ≠ .accepted with
  | none =>
    rw [found] at failed
    exact absurd rfl failed
  | some item => exact ⟨item, rfl, rfl⟩

namespace ContestantRun

variable (run : ContestantRun sha256 pipeline input artifact contestant batch pairs)
  (answers : Answers batch.request responses batch.events)
include run answers

theorem oi_complete (oi : artifact.manifest.judgeMode = .oi) : responses.length = artifact.manifest.cases.length := by
  rw [← run.prepared.length]
  by_contra early
  have stops := (answers.stopped early).1
  rw [run.prepared.stops, oi] at stops
  simp at stops

variable (reports : batch.result.cases = List.zipWith (report sha256 artifact.manifest.checker) pairs responses)
include reports

theorem length :
    batch.result.cases.length = responses.length ∧ responses.length ≤ artifact.manifest.cases.length ∧
      responses.length ≤ pairs.length := by
  have within := answers.within
  have pairsLength := run.prepared.all.length_eq
  rw [run.prepared.length] at within
  rw [reports, List.length_zipWith]
  omega

section

variable (status : batch.result.status = overallStatus batch.result.cases)
include status

private theorem acm_verdict :
    batch.result.status = .accepted ↔
      batch.result.cases.length = artifact.manifest.cases.length ∧ ∀ item ∈ batch.result.cases, item.status = .accepted := by
  obtain ⟨length, _, within⟩ := run.length answers reports
  rw [status, overallStatus_accepted]
  refine ⟨fun accepted => ⟨?_, accepted⟩, fun complete => complete.2⟩
  by_contra early
  rw [length, ← run.prepared.length] at early
  rw [← overallStatus_accepted, reports] at accepted
  exact overallStatus_stopped within (answers.stopped early).2 accepted

private theorem oi_verdict (oi : artifact.manifest.judgeMode = .oi)
    (scored : applyManifestScoring artifact.manifest batch.result = .ok result) :
    result.cases = List.zipWith scoreItem batch.result.cases artifact.manifest.cases ∧
      result.score = some (List.zipWith earned batch.result.cases artifact.manifest.cases).sum ∧
      result.totalScore = artifact.manifest.totalScore ∧ (result.status = .accepted ↔ result.score = artifact.manifest.totalScore) := by
  have scoring := validate_scoring run.prepared.valid
  have total := scoring.total oi
  obtain ⟨length, within, _⟩ := run.length answers reports
  have complete := run.oi_complete answers oi
  have bound : batch.result.cases.length ≤ artifact.manifest.cases.length := by omega
  obtain ⟨expected, scores, cases, score, totalScore, verdict⟩ := applyManifestScoring_oi oi total bound
  rw [scored] at scores
  obtain rfl := Except.ok.inj scores
  refine ⟨cases, score, totalScore.trans total.symm, ?_⟩
  obtain ⟨_, _, full⟩ := earned_sum_le batch.result.cases artifact.manifest.cases (by omega) (scoring.weights oi)
  rw [verdict, score, total, Option.some.injEq]
  split
  next compile =>
    -- a case that did not compile has earned no points
    refine ⟨fun accepted => absurd accepted (by decide), fun all => ?_⟩
    rw [status, overallStatus_accepted.mpr (full.mp all)] at compile
    cases compile
  next =>
    split
    next all => exact ⟨fun _ => all, fun _ => rfl⟩
    next missing => exact ⟨fun accepted => absurd accepted (by decide), fun all => absurd all missing⟩

end

end ContestantRun

/-- The verdict on a submission whose checker is exact or token. Go strings are
shorter than the largest `int`. -/
theorem canonical_verdict (sha256 : Bytes → Bytes) (noCollisions : Function.Injective sha256) (pipeline : BatchBundlePipeline)
    (input : CanonicalExecutionRequest) (artifact : Artifact) (contestant checker : SandboxFleet) (result : CanonicalResult)
    (plain : artifact.manifest.checker = .exact ∨ artifact.manifest.checker = .token)
    (expectedFits : ∀ testCase input expected, artifact.readCase testCase = some (input, expected) → expected.length < 2 ^ 63)
    (outputsFit : ∀ attempt address request events, contestant.executeBatch attempt address request = .ok events →
      ∀ event response, some event ∈ events → event.result = some response → response.stdout.length < 2 ^ 63)
    (returned : executeCanonical sha256 pipeline input artifact contestant checker = .ok result) :
    (result.status = .compileError ∧ result.cases = []) ∨
    ∃ request checks responses events, prepareBatch sha256 pipeline input artifact = .ok (request, checks) ∧
      pipeline.runBatch contestant request = .ok (some events) ∧ Answers request responses events ∧
      CorrectVerdict artifact responses result := by
  obtain ⟨batch, ran, returned⟩ := checked_ok returned
  obtain ⟨pairs, run⟩ := runContestant_ok ran
  have scoring := validate_scoring run.prepared.valid
  have unjudged : ¬ (artifact.manifest.checker = .special ∧ batch.result.status ≠ .compileError) := by
    intro special
    rw [special.1] at plain
    obtain plain | plain := plain <;> cases plain
  obtain ⟨judged, judges, scored⟩ := checked_ok returned
  rw [judgeContestant, if_neg unjudged] at judges
  obtain rfl := Except.ok.inj judges
  cases run.cases with
  | inl failed =>
    obtain ⟨_, _, _, compile⟩ := failed
    rw [compile] at scored
    cases scoring.modes with
    | inl acm =>
      rw [applyManifestScoring_acm acm] at scored
      obtain rfl := Except.ok.inj scored
      exact .inl ⟨rfl, rfl⟩
    | inr oi =>
      have none : compileErrorResult.cases.length ≤ artifact.manifest.cases.length := Nat.zero_le _
      obtain ⟨expected, scores, cases, _, _, verdict⟩ := applyManifestScoring_oi oi (scoring.total oi) none
      rw [scored] at scores
      obtain rfl := Except.ok.inj scores
      exact .inl ⟨verdict, cases⟩
  | inr answered =>
    obtain ⟨responses, answers, reports, status, _⟩ := answered
    obtain ⟨length, within, _⟩ := run.length answers reports
    have outputFits : ∀ response ∈ responses, response.stdout.length < 2 ^ 63 := by
      intro response member
      obtain ⟨⟨attempt, address, executed⟩, _⟩ := runBatch_ok run.ran
      obtain ⟨event, streamed, carries⟩ := answers.carries member
      exact outputsFit attempt address batch.request batch.events executed event response streamed carries
    refine .inr ⟨batch.request, batch.expectedChecks, responses, batch.events, run.prepares, run.ran, answers, ?_⟩
    cases scoring.modes with
    | inl acm =>
      rw [applyManifestScoring_acm acm] at scored
      obtain rfl := Except.ok.inj scored
      refine ⟨length, by omega, fun _ _ found => run.reported noCollisions plain expectedFits outputFits reports found,
        fun _ => ⟨run.acm_verdict answers reports status, ?_⟩, ?_⟩
      · intro failed
        rw [status] at failed ⊢
        exact find_failed failed
      · intro oi
        rw [acm] at oi
        cases oi
    | inr oi =>
      have complete := run.oi_complete answers oi
      obtain ⟨cases, score, total, verdict⟩ := run.oi_verdict answers reports status oi scored
      have scoredLength : result.cases.length = batch.result.cases.length := by
        rw [cases, List.length_zipWith]
        omega
      refine ⟨by omega, by omega, ?_, ?_, fun _ => ⟨by omega, ?_, total, verdict⟩⟩
      · intro index item found
        rw [cases] at found
        obtain ⟨before, testCase, beforeAt, _, rfl⟩ := List.getElem?_zipWith_eq_some.mp found
        have reported := run.reported noCollisions plain expectedFits outputFits reports beforeAt
        exact reported
      · intro acm
        rw [oi] at acm
        cases acm
      · rw [score, cases, earned_scored]

def steadyFleet (events : List (Option ExecuteBatchV1Event)) : SandboxFleet :=
  ⟨true, fun _ _ => .ok (lit "sandbox-0:50051"), fun _ _ _ => .ok events⟩

def caseResult (caseID status stdout : GoString) : Option ExecuteBatchV1Event :=
  some ⟨.caseResult, caseID, some ⟨status, 0, stdout, [], [], [], 5, 64⟩⟩

def scoredArtifact (checker : Checker) (judge : Option SpecialJudge) : Artifact :=
  { manifest :=
      { schemaVersion := 2
        judgeMode := .oi
        checker := checker
        limits := ⟨1000, 256⟩
        totalScore := some 100
        specialJudge := judge
        cases := [⟨lit "1", lit "1.in", lit "1.out", 60⟩, ⟨lit "2", lit "2.in", lit "2.out", 40⟩] }
    readCase := fun testCase => some (testCase.input, lit "3 4")
    readSpecialJudge := judge.map fun judge => some judge.source }

def tokenEvents : List (Option ExecuteBatchV1Event) :=
  [caseResult (lit "1") (lit "Accepted") (lit "3  4\n"), caseResult (lit "2") (lit "Accepted") (lit "34"), completion]

/-- The second output has other tokens, so that only the first case scores. -/
def tokenResult : CanonicalResult :=
  { status := .wrongAnswer
    exitCode := 0
    timeUsedMillis := 5
    memoryUsedKB := 64
    stderr := lit "case=1 sandboxStatus=Accepted status=ACCEPTED;case=2 sandboxStatus=Accepted status=WRONG_ANSWER"
    compileError := []
    score := some 60
    totalScore := some 100
    cases := [⟨lit "1", .accepted, 5, 64, some 60, some 60⟩, ⟨lit "2", .wrongAnswer, 5, 64, some 0, some 40⟩] }

theorem canonical_verdict_sample :
    executeCanonical id (newBatchBundlePipeline 3) ⟨lit "cpp", lit "int main() \x7b\x7d", true⟩ (scoredArtifact .token none)
      (steadyFleet tokenEvents) (steadyFleet []) = .ok tokenResult ∧
    ((tokenResult.status = .compileError ∧ tokenResult.cases = []) ∨
    ∃ request checks responses events,
      prepareBatch id (newBatchBundlePipeline 3) ⟨lit "cpp", lit "int main() \x7b\x7d", true⟩ (scoredArtifact .token none) =
        .ok (request, checks) ∧
      (newBatchBundlePipeline 3).runBatch (steadyFleet tokenEvents) request = .ok (some events) ∧
      Answers request responses events ∧ CorrectVerdict (scoredArtifact .token none) responses tokenResult) := by
  have returned : executeCanonical id (newBatchBundlePipeline 3) ⟨lit "cpp", lit "int main() \x7b\x7d", true⟩
      (scoredArtifact .token none) (steadyFleet tokenEvents) (steadyFleet []) = .ok tokenResult := by decide +kernel
  refine ⟨returned, canonical_verdict id Function.injective_id _ _ _ _ _ _ (.inr rfl) ?_ ?_ returned⟩
  · intro testCase input expected read
    obtain ⟨_, rfl⟩ := Prod.mk.inj (Option.some.inj read)
    decide
  · intro attempt address request events executed event response member carries
    obtain rfl := Except.ok.inj executed
    have short : ∀ event ∈ tokenEvents, ((event.bind ExecuteBatchV1Event.result).map ExecuteResponse.stdout).all (·.length < 2 ^ 63) := by
      decide
    have outputs := short (some event) member
    simpa [carries] using outputs

end JudgingServer.Proofs
