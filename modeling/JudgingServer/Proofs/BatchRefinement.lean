import JudgingServer.Proofs.Verdicts
import JudgingServer.Service.BundlePipeline

/-! The batch of a submission decides as its single calls do. Both verdicts are the first
failure of a list: the batch reads on behind an output that it rejects itself, but only up to
a case that the sandbox did not accept. -/

namespace JudgingServer.Proofs
open Go Bundle Library Sandbox Service

variable {testCase : Case} {call : Nat}

variable {checker : Checker} {response : ExecuteResponse} {content : GoString × GoString} {cases : List Case}

/-! ### The first failure -/

def firstFailure (verdicts : List (Callback.Status × Int)) : Callback.Status × Int :=
  (verdicts.find? fun verdict => verdict.1 ≠ .accepted).getD (.accepted, 0)

@[simp]
theorem firstFailure_nil : firstFailure [] = (.accepted, 0) := rfl

private theorem firstFailure_cons (verdict : Callback.Status × Int) (rest : List (Callback.Status × Int)) :
    firstFailure (verdict :: rest) = if verdict.1 = .accepted then firstFailure rest else verdict := by
  unfold firstFailure
  by_cases accepted : verdict.1 = .accepted <;> simp [accepted]

private theorem firstFailure_accepted (accepted : (firstFailure verdicts).1 = .accepted) : firstFailure verdicts =
    (.accepted, 0) := by
  induction verdicts with
  | nil => rfl
  | cons verdict rest ih =>
    rw [firstFailure_cons] at accepted ⊢
    split_ifs at accepted ⊢ with passed
    · exact ih accepted
    · exact absurd accepted passed

private def batchVerdict (sha256 : Bytes → Bytes) (checker : Checker) (prepared : ExecuteBatchV1Case × GoString)
    (response : ExecuteResponse) : Callback.Status × Int :=
  (localStatus sha256 checker prepared.2 response, response.exitCode)

private def caseVerdict (checker : Checker) (content : GoString × GoString) (response : ExecuteResponse) : Callback.Status × Int :=
  (comparedStatus checker content.2 response, response.exitCode)

/-- The responses up to the first that is not accepted. -/
def untilFailure : List ExecuteResponse → List ExecuteResponse
  | [] => []
  | response :: rest => if response.status = lit "Accepted" then response :: untilFailure rest else [response]

section Batch

variable {sha256 : Bytes → Bytes} {checker : Checker} {pairs : List (ExecuteBatchV1Case × GoString)}
  {responses : List ExecuteResponse}

private theorem gathered_failure (state : Aggregation) (clean : state.result.status = .accepted → state.result.exitCode = 0) :
    ((gathered sha256 checker pairs responses state).result.status,
        (gathered sha256 checker pairs responses state).result.exitCode) =
      if state.result.status = .accepted then firstFailure (List.zipWith (batchVerdict sha256 checker) pairs responses)
      else (state.result.status, state.result.exitCode) := by
  have ended : (state.result.status, state.result.exitCode) =
      if state.result.status = .accepted then firstFailure [] else (state.result.status, state.result.exitCode) := by
    by_cases accepted : state.result.status = .accepted
    · rw [if_pos accepted, accepted, clean accepted]
      rfl
    · rw [if_neg accepted]
  induction pairs generalizing responses state with
  | nil => simpa [gathered] using ended
  | cons prepared pairs ih =>
    cases responses with
    | nil => simpa [gathered] using ended
    | cons response responses =>
      have step := @ih responses (state.append prepared.1.caseID response (localStatus sha256 checker prepared.2 response))
      rw [List.zipWith_cons_cons, firstFailure_cons]
      -- a failure stays; behind accepted cases the next verdict is the first one
      by_cases accepted : state.result.status = .accepted
      · by_cases passed : localStatus sha256 checker prepared.2 response = .accepted
        · simpa [Aggregation.append, gathered, batchVerdict, accepted, passed, clean accepted] using step
        · simpa [Aggregation.append, gathered, batchVerdict, accepted, passed] using step
      · simpa [Aggregation.append, gathered, accepted] using step

private theorem answeredResult_failure :
    ((answeredResult sha256 checker pairs responses).status, (answeredResult sha256 checker pairs responses).exitCode) =
      firstFailure (List.zipWith (batchVerdict sha256 checker) pairs responses) := by
  have verdict := @gathered_failure sha256 checker pairs responses ⟨acceptedResult, [], []⟩ fun _ => rfl
  rw [if_pos (show acceptedResult.status = .accepted from rfl)] at verdict
  simp only [answeredResult]
  split_ifs with accepted
  · have status : (firstFailure (List.zipWith (batchVerdict sha256 checker) pairs responses)).1 = .accepted := by
      rw [← verdict]
      exact accepted
    rw [firstFailure_accepted status, accepted]
  · exact verdict

private theorem firstFailure_untilFailure :
    firstFailure (List.zipWith (batchVerdict sha256 checker) pairs (untilFailure responses)) =
      firstFailure (List.zipWith (batchVerdict sha256 checker) pairs responses) := by
  induction responses generalizing pairs with
  | nil => rfl
  | cons response rest ih =>
    cases pairs with
    | nil => simp
    | cons prepared pairs =>
      unfold untilFailure
      by_cases accepted : response.status = lit "Accepted"
      · rw [if_pos accepted, List.zipWith_cons_cons, List.zipWith_cons_cons, firstFailure_cons, firstFailure_cons, ih]
      · have failed : (batchVerdict sha256 checker prepared response).1 ≠ .accepted :=
          fun passed => accepted (localStatus_accepted passed)
        rw [if_neg accepted, List.zipWith_cons_cons, List.zipWith_cons_cons, firstFailure_cons, firstFailure_cons,
          if_neg failed, if_neg failed]

end Batch

/-! ### The stream of a batch that stops -/

section Stream

variable {responses : List ExecuteResponse}

private theorem untilFailure_cases (responses : List ExecuteResponse) :
    (untilFailure responses = responses ∧ ∀ response ∈ responses, response.status = lit "Accepted") ∨
      ∃ accepted failed rest, responses = accepted ++ failed :: rest ∧ untilFailure responses = accepted ++ [failed] ∧
        (∀ response ∈ accepted, response.status = lit "Accepted") ∧ failed.status ≠ lit "Accepted" := by
  induction responses with
  | nil => exact .inl ⟨rfl, by simp⟩
  | cons response rest ih =>
    unfold untilFailure
    split_ifs with passed
    · rcases ih with ⟨all, others⟩ | ⟨accepted, failed, later, parts, kept, others, fails⟩
      · exact .inl ⟨by rw [all], List.forall_mem_cons.mpr ⟨passed, others⟩⟩
      · refine .inr ⟨response :: accepted, failed, later, ?_, ?_, List.forall_mem_cons.mpr ⟨passed, others⟩, fails⟩
        · rw [parts, List.cons_append]
        · rw [kept, List.cons_append]
    · exact .inr ⟨[], response, rest, rfl, rfl, by simp, passed⟩

/-- What a sandbox streams that runs the cases in order and stops at the first failure. -/
def stoppedStream (request : ExecuteBatchV1Request) (responses : List ExecuteResponse) : List (Option ExecuteBatchV1Event) :=
  List.zipWith caseEvent request.cases (untilFailure responses) ++ [completion]

private theorem stoppedStream_answers (each : responses.length = request.cases.length) (some : request.cases ≠ [])
    (stops : request.stopOnFailure = true) (known : ∀ response ∈ responses, isKnownContestantStatus response.status = true) :
    validateBatchEvents request (stoppedStream request responses) = .ok () ∧
      Answers request (untilFailure responses) (stoppedStream request responses) := by
  obtain ⟨nonempty, within, reported, ends, continued⟩ : untilFailure responses ≠ [] ∧
      (untilFailure responses).length ≤ request.cases.length ∧
      (∀ response ∈ untilFailure responses, isKnownContestantStatus response.status = true) ∧
      ((untilFailure responses).length = request.cases.length ∨
        request.stopOnFailure = true ∧ ∀ last ∈ (untilFailure responses).getLast?, last.status ≠ lit "Accepted") ∧
      ∀ response ∈ (untilFailure responses).dropLast, response.status = lit "Accepted" := by
    rcases untilFailure_cases responses with ⟨all, accepted⟩ | ⟨accepted, failed, rest, rfl, kept, others, fails⟩
    · rw [all]
      refine ⟨?_, each.le, known, .inl each, fun response member => accepted response (List.dropLast_subset _ member)⟩
      rintro rfl
      exact some (List.length_eq_zero_iff.mp each.symm)
    · rw [kept]
      refine ⟨by simp, ?_, ?_, .inr ⟨stops, by simpa using fails⟩, by simpa using others⟩
      · rw [← each]
        simp
      · intro response member
        apply known
        simp only [List.mem_append, List.mem_cons, List.not_mem_nil, or_false] at member ⊢
        exact member.imp_right .inl
  constructor
  · exact validateBatchEvents_iff.2.mpr (.results within nonempty reported ends fun _ => continued)
  · exact AcceptedStream.answers within nonempty reported ends

end Stream

/-! ### The batch that is sent -/

private theorem plain_unjudged (plain : checker = .exact ∨ checker = .token) : checker ≠ .special := by
  rcases plain with rfl | rfl <;> decide

section

variable (sha256 : Bytes → Bytes)

/-- A case as it is sent, with the check that is kept of its expected output. -/
def sentCase (checker : Checker) (testCase : Case) (content : GoString × GoString) :
    ExecuteBatchV1Case × GoString :=
  let digest := tokenOutputSHA256 sha256 content.2
  if checker = .token then (⟨testCase.id, content.1, [], false, digest⟩, digest)
  else (⟨testCase.id, content.1, content.2, true, []⟩, content.2)

def sentCases (manifest : Manifest) (contents : List (GoString × GoString)) :
    List (ExecuteBatchV1Case × GoString) :=
  List.zipWith (sentCase sha256 manifest.checker) manifest.cases contents

/-- The request for the cases of an ACM bundle. -/
def sentRequest (submission : Task) (manifest : Manifest) (contents : List (GoString × GoString)) :
    ExecuteBatchV1Request :=
  { language := submission.language
    sourceCode := submission.code
    timeout := timeoutSeconds manifest.limits.timeLimitMillis
    memoryLimit := boundedInt32 manifest.limits.memoryLimitMiB
    stopOnFailure := true
    cases := (sentCases sha256 manifest contents).map Prod.fst }

/-- A submission that a batch can be sent for: there is a program, and a readable bundle
within the limits. -/
structure FitsBatch (pipeline : BatchBundlePipeline) (submission : Task) (artifact : Artifact)
    (contents : List (GoString × GoString)) : Prop where
  valid : artifact.manifest.validate = .ok ()
  acm : artifact.manifest.judgeMode = .acm
  plain : artifact.manifest.checker = .exact ∨ artifact.manifest.checker = .token
  count : artifact.manifest.cases.length ≤ 256
  language : trimSpace submission.language ≠ []
  code : submission.code ≠ []
  read : List.Forall₂ (fun testCase content => artifact.readCase testCase = some content) artifact.manifest.cases contents
  requestFits : (sentRequest sha256 submission artifact.manifest contents).size ≤ pipeline.maxBatchRequestBytes
  checksFit : (((sentCases sha256 artifact.manifest contents).map fun sent => sent.2.length).sum : Nat) ≤
    pipeline.maxRetainedCheckBytes

end

section Sent

variable {sha256 : Bytes → Bytes} {pipeline : BatchBundlePipeline} {submission : Task} {artifact : Artifact}
  {contents : List (GoString × GoString)}

private theorem expectedOutput_sent {checker : Checker} (plain : checker = .exact ∨ checker = .token) (testCase : Case)
    (content : GoString × GoString) :
    ∃ kept, expectedOutput sha256 checker content.2 = .ok kept ∧
      sentCase sha256 checker testCase content =
        (⟨testCase.id, content.1, kept.forSandbox, checker == .exact, kept.tokenSHA256⟩, kept.check) := by
  rcases plain with rfl | rfl
  · exact ⟨⟨content.2, [], content.2⟩, rfl, rfl⟩
  · exact ⟨⟨[], tokenOutputSHA256 sha256 content.2, tokenOutputSHA256 sha256 content.2⟩, rfl, rfl⟩

section

variable (plain : artifact.manifest.checker = .exact ∨ artifact.manifest.checker = .token)
include plain

private theorem appendCase_run {testCase : Case}
    {content : GoString × GoString} (reads : artifact.readCase testCase = some content) {sent : ExecuteBatchV1Case × GoString}
    (sends : sentCase sha256 artifact.manifest.checker testCase content = sent) (draft : BatchDraft)
    (requestFits : draft.requestBytes + batchCaseWireBytes sent.1 ≤ pipeline.maxBatchRequestBytes)
    (checksFit : draft.retainedExpectedCheckBytes + sent.2.length ≤ pipeline.maxRetainedCheckBytes) :
    appendCase sha256 pipeline artifact draft testCase =
      .ok ⟨draft.cases ++ [sent.1], draft.expectedChecks ++ [sent.2], draft.retainedExpectedCheckBytes + sent.2.length,
        draft.requestBytes + batchCaseWireBytes sent.1⟩ := by
  obtain ⟨kept, keeps, shape⟩ := @expectedOutput_sent sha256 _ plain testCase content
  obtain rfl := sends.symm.trans shape
  unfold appendCase
  rw [reads]
  refine checked_run keeps (checked_run (rejectIf_pass ?_) (checked_run (rejectIf_pass ?_) rfl))
  · exact Int.not_lt.mpr checksFit
  · exact Int.not_lt.mpr requestFits

private theorem appendCases_run (read : List.Forall₂ (fun testCase content => artifact.readCase testCase = some content) cases contents)
    (sends : List.zipWith (sentCase sha256 artifact.manifest.checker) cases contents = sent) (draft : BatchDraft)
    (requestFits : draft.requestBytes + (sent.map fun sent => batchCaseWireBytes sent.1).sum ≤ pipeline.maxBatchRequestBytes)
    (checksFit : draft.retainedExpectedCheckBytes + (sent.map fun sent => sent.2.length).sum ≤ pipeline.maxRetainedCheckBytes) :
    ∃ final, appendCases sha256 pipeline artifact cases draft = .ok final ∧
      final.cases = draft.cases ++ sent.map Prod.fst ∧ final.expectedChecks = draft.expectedChecks ++ sent.map Prod.snd := by
  subst sends
  induction read generalizing draft with
  | nil => exact ⟨draft, rfl, by simp, by simp⟩
  | @cons testCase content cases contents reads rest ih =>
    simp only [List.zipWith_cons_cons, List.map_cons, List.sum_cons, Nat.cast_add] at requestFits checksFit ⊢
    have step := @appendCase_run sha256 pipeline artifact plain testCase content reads _ rfl draft (by omega) (by omega)
    generalize grown : BatchDraft.mk _ _ _ _ = next at step
    have later := ih next (by rw [← grown]; dsimp only; omega) (by rw [← grown]; dsimp only; omega)
    obtain ⟨final, appended, sentCases, checks⟩ := later
    rw [← grown] at sentCases checks
    refine ⟨final, checked_run step appended, ?_, ?_⟩
    · rw [sentCases]
      simp
    · rw [checks]
      simp

end

theorem FitsBatch.prepares (fits : FitsBatch sha256 pipeline submission artifact contents) :
    prepareBatch sha256 pipeline (canonicalInput submission) artifact =
      .ok (sentRequest sha256 submission artifact.manifest contents,
        (sentCases sha256 artifact.manifest contents).map Prod.snd) := by
  have stops : (true && artifact.manifest.judgeMode == .acm && artifact.manifest.checker != .special) = true := by
    rw [fits.acm]
    simp [plain_unjudged fits.plain]
  have room := fits.requestFits
  rw [size_split, sentRequest, List.map_map] at room
  have base : (({ sentRequest sha256 submission artifact.manifest contents with cases := [] } : ExecuteBatchV1Request).size : Int) +
      (((sentCases sha256 artifact.manifest contents).map fun sent => batchCaseWireBytes sent.1).sum : Nat) ≤
      pipeline.maxBatchRequestBytes := room
  obtain ⟨final, appended, cases, checks⟩ := appendCases_run fits.plain fits.read rfl ⟨[], [], 0, _⟩ base
    (by simpa [sentCases] using fits.checksFit)
  have blank : ¬ ((trimSpace (canonicalInput submission).language).isEmpty = true ∨
      (canonicalInput submission).sourceCode.isEmpty = true) := by
    simp [canonicalInput, fits.language, fits.code]
  unfold prepareBatch
  refine checked_run (rejectIf_pass blank) (checked_run (mapError_iff.mpr fits.valid) ?_)
  refine checked_run (rejectIf_pass (Nat.not_lt.mpr fits.count)) ?_
  simp only [canonicalInput, stops]
  refine checked_run (rejectIf_pass ?_) (checked_run appended ?_)
  · have small : (0 : Int) ≤ (((sentCases sha256 artifact.manifest contents).map fun sent => batchCaseWireBytes sent.1).sum : Nat) :=
      Int.natCast_nonneg _
    refine Int.not_lt.mpr (Int.le_trans ?_ base)
    exact Int.le_add_of_nonneg_right small
  · rw [cases, checks]
    rfl

end Sent

/-! ### Answers of the sandboxes -/

/-- The first sandbox answers the batch with the stream of these responses. -/
def AnswersBatch (fleet : SandboxFleet) (request : ExecuteBatchV1Request) (responses : List ExecuteResponse) : Prop :=
  ∃ address, fleet.selectSandbox 0 [] = .ok address ∧
    fleet.executeBatch 0 address request = .ok (stoppedStream request responses)

/-- The call for a case is answered with its response. -/
def AnswersCall (fleet : CaseFleet) (request : ExecuteRequest) (call : Nat) (response : ExecuteResponse) : Prop :=
  ∃ address, fleet.selectSandbox call = .ok address ∧ fleet.execute call address request = .ok (some response)

/-- Each call that the cases are run with is answered with the response of its case. -/
def AnswersCalls (fleet : CaseFleet) (submission : Task) (config : ExecutionConfig) (checker : Checker)
    (contents : List (GoString × GoString)) (responses : List ExecuteResponse) : Prop :=
  ∀ (call : Nat) (content : GoString × GoString) (response : ExecuteResponse), contents[call]? = some content →
    responses[call]? = some response → AnswersCall fleet (caseRequest submission config checker content.1 content.2) call response

theorem AnswersBatch.runs {pipeline : BatchBundlePipeline} (answers : AnswersBatch fleet request responses)
    (attempts : 0 < pipeline.maxInfraAttempts) (valid : validateBatchEvents request (stoppedStream request responses) = .ok ()) :
    pipeline.runBatch fleet request = .ok (some (stoppedStream request responses)) := by
  obtain ⟨address, selected, executed⟩ := answers
  obtain ⟨more, count⟩ := Nat.exists_eq_succ_of_ne_zero (n := pipeline.maxInfraAttempts.toNat) (by omega)
  have untried : selectUntriedSandbox fleet 0 [] = .ok address := by
    unfold selectUntriedSandbox
    split
    next => exact selected
    next => exact checked_run selected rfl
  refine mapError_iff.mpr ?_
  unfold executeBatch
  rw [count]
  unfold attemptBatch
  rw [untried]
  simp only [executed, acceptEvents, valid]

section Sequential

variable {pipeline : BundlePipeline} {fleet : CaseFleet} {submission : Task} {config : ExecutionConfig} {artifact : Artifact}

private theorem AnswersCall.executes
    (answers : AnswersCall fleet (caseRequest submission config checker content.1 content.2) call response)
    (attempts : 0 < pipeline.maxInfraAttempts) (known : isKnownContestantStatus response.status = true) :
    executeCase pipeline fleet submission config checker content.1 content.2 call = .ok (some response, call + 1) := by
  obtain ⟨address, selected, executed⟩ := answers
  obtain ⟨more, count⟩ := Nat.exists_eq_succ_of_ne_zero (n := pipeline.maxInfraAttempts.toNat) (by omega)
  unfold executeCase
  rw [count]
  unfold attemptCase
  simp only [selected, executed, known, reduceIte]

private theorem executeCases_answered {next : Nat} {progress : CaseProgress} (reads : artifact.readCase testCase = some content)
    (executed : executeCase pipeline fleet submission config artifact.manifest.checker content.1 content.2 call = .ok (some response, next)) :
    executeCases pipeline fleet submission config artifact (testCase :: cases) call progress =
      let status := comparedStatus artifact.manifest.checker content.2 response
      if status ≠ .accepted then .ok (progress.append testCase.id response status).result
      else executeCases pipeline fleet submission config artifact cases next (progress.append testCase.id response status) := by
  rw [executeCases, reads]
  dsimp only
  rw [executed]
  rfl

private theorem executeCases_run (attempts : 0 < pipeline.maxInfraAttempts) {cases : List Case}
    {contents : List (GoString × GoString)}
    {responses : List ExecuteResponse}
    (read : List.Forall₂ (fun testCase content => artifact.readCase testCase = some content) cases contents)
    (each : responses.length = contents.length) (known : ∀ response ∈ responses, isKnownContestantStatus response.status = true)
    {call : Nat} (answers : ∀ (offset : Nat) (content : GoString × GoString) (response : ExecuteResponse),
      contents[offset]? = some content → responses[offset]? = some response →
      AnswersCall fleet (caseRequest submission config artifact.manifest.checker content.1 content.2) (call + offset) response)
    {progress : CaseProgress} (accepted : progress.result.status = .accepted) :
    ∃ result, executeCases pipeline fleet submission config artifact cases call progress = .ok result ∧
      (result.status, result.exitCode) =
        firstFailure (List.zipWith (caseVerdict artifact.manifest.checker) contents responses) := by
  induction read generalizing responses call progress with
  | nil => exact ⟨_, rfl, Prod.ext accepted rfl⟩
  | @cons testCase content cases contents reads rest ih =>
    cases responses with
    | nil => cases each
    | cons response responses =>
      obtain ⟨first, others⟩ := List.forall_mem_cons.mp known
      have executed : executeCase pipeline fleet submission config artifact.manifest.checker content.1 content.2 call =
          .ok (some response, call + 1) := AnswersCall.executes (answers 0 content response rfl rfl) attempts first
      have later : ∀ (offset : Nat) (content : GoString × GoString) (response : ExecuteResponse),
          contents[offset]? = some content → responses[offset]? = some response →
          AnswersCall fleet (caseRequest submission config artifact.manifest.checker content.1 content.2)
            (call + 1 + offset) response := by
        intro offset content response contentAt responseAt
        have answered := answers (offset + 1) content response contentAt responseAt
        rwa [Nat.add_assoc, Nat.add_comm 1]
      rw [List.zipWith_cons_cons, firstFailure_cons, executeCases_answered reads executed]
      by_cases passed : comparedStatus artifact.manifest.checker content.2 response = .accepted
      · rw [if_pos (show (caseVerdict artifact.manifest.checker content response).1 = .accepted from passed)]
        simp only [passed, ne_eq, not_true_eq_false, reduceIte]
        exact ih (Nat.succ.inj each) others later rfl
      · rw [if_neg (show (caseVerdict artifact.manifest.checker content response).1 ≠ .accepted from passed)]
        simp only [passed, ne_eq, not_false_eq_true, reduceIte]
        exact ⟨_, rfl, rfl⟩

end Sequential

/-! ### Both pipelines -/

/-- The configuration of the problem is that of the manifest. -/
structure MatchingConfig (config : ExecutionConfig) (manifest : Manifest) : Prop where
  time : config.timeLimitMillis = manifest.limits.timeLimitMillis
  memory : config.memoryLimitMB = manifest.limits.memoryLimitMiB
  mode : config.judgeMode = manifest.judgeMode
  checker : config.checkerPinned = true → config.checker = manifest.checker
  special : config.specialJudge = true ↔ manifest.checker = .special

section Both

variable {sha256 : Bytes → Bytes} {submission : Task} {config : ExecutionConfig} {artifact : Artifact}
  {contents : List (GoString × GoString)} {responses : List ExecuteResponse}

theorem MatchingConfig.positive (matching : MatchingConfig config manifest) (valid : manifest.validate = .ok ()) :
    ¬ (config.timeLimitMillis ≤ 0 ∨ config.memoryLimitMB ≤ 0) := by
  have limits := (ValidManifest.of_validate valid).limits
  have time := limits.time
  have memory := limits.memory
  rw [matching.time, matching.memory]
  omega

theorem MatchingConfig.agrees (matching : MatchingConfig config artifact.manifest) (valid : artifact.manifest.validate = .ok ())
    (acm : artifact.manifest.judgeMode = .acm) (plain : artifact.manifest.checker = .exact ∨ artifact.manifest.checker = .token) :
    configDisagrees config artifact = none := by
  have unjudged := plain_unjudged plain
  have bare : ¬ config.specialJudge = true := fun judged => unjudged (matching.special.mp judged)
  have pinned : ¬ (config.checkerPinned = true ∧ config.checker ≠ artifact.manifest.checker) :=
    fun differs => differs.2 (matching.checker differs.1)
  have limited : ¬ (artifact.manifest.limits.timeLimitMillis ≠ config.timeLimitMillis ∨
      artifact.manifest.limits.memoryLimitMiB ≠ config.memoryLimitMB) := by
    simp [matching.time, matching.memory]
  have scoreless : ¬ (artifact.manifest.judgeMode = .oi ∧ artifact.manifest.totalScore ≠ some config.totalScore) := by
    simp [acm]
  unfold configDisagrees
  rw [if_neg (matching.positive valid), if_neg limited, if_neg (not_not.mpr matching.mode), if_neg pinned,
    if_neg scoreless, if_neg unjudged, if_neg bare]

private theorem BundlePipeline.executeArtifact_run {pipeline : BundlePipeline} (attempts : 0 < pipeline.maxInfraAttempts)
    (valid : artifact.manifest.validate = .ok ()) (positive : ¬ (config.timeLimitMillis ≤ 0 ∨ config.memoryLimitMB ≤ 0))
    (read : List.Forall₂ (fun testCase content => artifact.readCase testCase = some content) artifact.manifest.cases contents)
    (each : responses.length = contents.length) (known : ∀ response ∈ responses, isKnownContestantStatus response.status = true)
    (answers : AnswersCalls fleet submission config artifact.manifest.checker contents responses) :
    ∃ result, pipeline.executeArtifact fleet submission config artifact = .ok result ∧
      (result.status, result.exitCode) =
        firstFailure (List.zipWith (caseVerdict artifact.manifest.checker) contents responses) := by
  obtain ⟨result, executed, verdict⟩ := @executeCases_run pipeline fleet submission config artifact attempts _ _ _ read each known 0
    (fun offset content response contentAt responseAt => by
      rw [Nat.zero_add]
      exact answers offset content response contentAt responseAt) ⟨bareResult .accepted [], []⟩ rfl
  refine ⟨result, checked_run (rejectIf_pass positive) ?_, verdict⟩
  rw [valid]
  exact executed

private theorem firstFailure_known {checker : Checker} {pairs : List (ExecuteBatchV1Case × GoString)}
    (known : ∀ response ∈ responses, isKnownContestantStatus response.status = true) :
    (firstFailure (List.zipWith (batchVerdict sha256 checker) pairs responses)).1 ≠ .systemError := by
  induction responses generalizing pairs with
  | nil => simp
  | cons response rest ih =>
    cases pairs with
    | nil => simp
    | cons prepared pairs =>
      obtain ⟨first, others⟩ := List.forall_mem_cons.mp known
      rw [List.zipWith_cons_cons, firstFailure_cons]
      split_ifs with accepted
      · exact ih others
      · exact localStatus_known first

private theorem batchVerdict_sent (noCollisions : Function.Injective sha256) (plain : checker = .exact ∨ checker = .token)
    (expectedFits : content.2.length < 2 ^ 63) (outputFits : response.stdout.length < 2 ^ 63) :
    batchVerdict sha256 checker (sentCase sha256 checker testCase content) response = caseVerdict checker content response := by
  obtain ⟨kept, keeps, sent⟩ := @expectedOutput_sent sha256 checker plain testCase content
  have agrees := outputMatchesExpectedCheck_eq noCollisions plain keeps outputFits expectedFits
  rw [sent]
  simp [batchVerdict, caseVerdict, localStatus, comparedStatus, agrees, plain_unjudged plain]

private theorem batchVerdicts_sent (noCollisions : Function.Injective sha256) (plain : checker = .exact ∨ checker = .token)
    (expectedFit : ∀ content ∈ contents, content.2.length < 2 ^ 63)
    (outputsFit : ∀ response ∈ responses, response.stdout.length < 2 ^ 63) (each : cases.length = contents.length) :
    List.zipWith (batchVerdict sha256 checker) (List.zipWith (sentCase sha256 checker) cases contents) responses =
      List.zipWith (caseVerdict checker) contents responses := by
  induction cases generalizing contents responses with
  | nil =>
    obtain rfl := List.length_eq_zero_iff.mp each.symm
    rfl
  | cons testCase cases ih =>
    cases contents with
    | nil => cases each
    | cons content contents =>
      cases responses with
      | nil => rfl
      | cons response responses =>
        obtain ⟨expected, expectedFit⟩ := List.forall_mem_cons.mp expectedFit
        obtain ⟨output, outputsFit⟩ := List.forall_mem_cons.mp outputsFit
        rw [List.zipWith_cons_cons, List.zipWith_cons_cons, List.zipWith_cons_cons,
          batchVerdict_sent noCollisions plain expected output, ih expectedFit outputsFit (Nat.succ.inj each)]

private theorem BatchBundlePipeline.executeArtifact_run (attempts : 0 < pipeline.maxInfraAttempts)
    (fits : FitsBatch sha256 pipeline submission artifact contents) (agrees : configDisagrees config artifact = none)
    (each : responses.length = contents.length) (known : ∀ response ∈ responses, isKnownContestantStatus response.status = true)
    (answers : AnswersBatch contestant (sentRequest sha256 submission artifact.manifest contents) responses)
    (checker : SandboxFleet) :
    ∃ result, pipeline.executeArtifact sha256 contestant checker submission config artifact = .ok result ∧
      (result.status, result.exitCode) = firstFailure (List.zipWith (batchVerdict sha256 artifact.manifest.checker)
        (sentCases sha256 artifact.manifest contents) responses) := by
  have read := fits.read.length_eq
  have count := (ValidManifest.of_validate fits.valid).count
  have asked : (sentRequest sha256 submission artifact.manifest contents).cases.length = contents.length := by
    simp [sentRequest, sentCases, read]
  have some : (sentRequest sha256 submission artifact.manifest contents).cases ≠ [] := by
    apply List.ne_nil_of_length_pos
    omega
  obtain ⟨valid, stream⟩ := stoppedStream_answers (each.trans asked.symm) some rfl known
  have ran := answers.runs attempts valid
  have verdict := (@answeredResult_failure sha256 artifact.manifest.checker (sentCases sha256 artifact.manifest contents)
    (untilFailure responses)).trans firstFailure_untilFailure
  have unfailed : (answeredResult sha256 artifact.manifest.checker (sentCases sha256 artifact.manifest contents)
      (untilFailure responses)).status ≠ .systemError := by
    have status := @firstFailure_known sha256 responses artifact.manifest.checker (sentCases sha256 artifact.manifest contents) known
    rw [← verdict] at status
    exact status
  have batch := runContestant_answers fits.prepares rfl ran stream unfailed
  refine ⟨callbackResult (answeredResult sha256 artifact.manifest.checker (sentCases sha256 artifact.manifest contents)
    (untilFailure responses)), ?_, verdict⟩
  have canonical : executeCanonical sha256 pipeline (canonicalInput submission) artifact contestant checker = .ok _ :=
    checked_run batch (checked_run (if_neg fun judging => plain_unjudged fits.plain judging.1) (applyManifestScoring_acm fits.acm))
  unfold BatchBundlePipeline.executeArtifact
  rw [agrees]
  dsimp only
  rw [canonical]
  rfl

end Both

/-- The batch of a submission and its single calls end with the same status and exit code.
Go strings are shorter than the largest `int`. -/
theorem batch_refines_calls (sha256 : Bytes → Bytes) (noCollisions : Function.Injective sha256) (batches : BatchBundlePipeline)
    (calls : BundlePipeline) (submission : Task) (config : ExecutionConfig) (artifact : Artifact)
    (contents : List (GoString × GoString)) (responses : List ExecuteResponse) (contestant checker : SandboxFleet) (fleet : CaseFleet)
    (batchAttempts : 0 < batches.maxInfraAttempts) (callAttempts : 0 < calls.maxInfraAttempts)
    (matching : MatchingConfig config artifact.manifest) (fits : FitsBatch sha256 batches submission artifact contents)
    (expectedFit : ∀ content ∈ contents, content.2.length < 2 ^ 63)
    (each : responses.length = artifact.manifest.cases.length)
    (known : ∀ response ∈ responses, isKnownContestantStatus response.status = true)
    (outputsFit : ∀ response ∈ responses, response.stdout.length < 2 ^ 63)
    (batch : AnswersBatch contestant (sentRequest sha256 submission artifact.manifest contents) responses)
    (single : AnswersCalls fleet submission config artifact.manifest.checker contents responses) :
    ∃ batched called, batches.executeArtifact sha256 contestant checker submission config artifact = .ok batched ∧
      calls.executeArtifact fleet submission config artifact = .ok called ∧
      batched.status = called.status ∧ batched.exitCode = called.exitCode := by
  have read := fits.read.length_eq
  have agrees := matching.agrees fits.valid fits.acm fits.plain
  obtain ⟨batched, ran, verdict⟩ :=
    BatchBundlePipeline.executeArtifact_run batchAttempts fits agrees (each.trans read) known batch checker
  obtain ⟨called, executed, judged⟩ := BundlePipeline.executeArtifact_run callAttempts fits.valid
    (matching.positive fits.valid) fits.read (each.trans read) known single
  have same := batchVerdicts_sent noCollisions fits.plain expectedFit outputsFit read
  have both : (batched.status, batched.exitCode) = (called.status, called.exitCode) := by
    rw [verdict, judged, sentCases, same]
  exact ⟨batched, called, ran, executed, congrArg Prod.fst both, congrArg Prod.snd both⟩

def contestArtifact : Artifact :=
  { manifest :=
      { schemaVersion := 1
        judgeMode := .acm
        checker := .token
        limits := ⟨1000, 256⟩
        totalScore := none
        specialJudge := none
        cases := [⟨lit "1", lit "1.in", lit "1.out", 1⟩, ⟨lit "2", lit "2.in", lit "2.out", 1⟩] }
    readCase := fun testCase => some (testCase.input, lit "3 4")
    readSpecialJudge := none }

def contestConfig : ExecutionConfig := ⟨1000, 256, .acm, .token, true, 0, false, [], []⟩

def contestTask : Task := ⟨lit "cpp", lit "int main() \x7b\x7d"⟩

def contestContents : List (GoString × GoString) := [(lit "1.in", lit "3 4"), (lit "2.in", lit "3 4")]

/-- The first output is wrong, though the sandbox accepts it; the second run fails. -/
def contestResponses : List ExecuteResponse :=
  [⟨lit "Accepted", 0, lit "34", [], [], [], 5, 64⟩, ⟨lit "Runtime Error", 9, [], [], [], [], 5, 64⟩]

def contestFleet : CaseFleet where
  selectSandbox _ := .ok (lit "sandbox")
  execute call _ _ := .ok contestResponses[call]?

private theorem contest_fits : FitsBatch id (newBatchBundlePipeline 3) contestTask contestArtifact contestContents where
  valid := by decide +kernel
  acm := rfl
  plain := .inr rfl
  count := by decide
  language := by decide +kernel
  code := by decide
  read := .cons rfl (.cons rfl .nil)
  requestFits := by decide +kernel
  checksFit := by decide +kernel

theorem batch_refines_calls_sample :
    ∃ batched called,
      (newBatchBundlePipeline 3).executeArtifact id (steadyFleet (stoppedStream (sentRequest id contestTask contestArtifact.manifest
        contestContents) contestResponses)) (steadyFleet []) contestTask contestConfig contestArtifact = .ok batched ∧
      (newBundlePipeline 3).executeArtifact contestFleet contestTask contestConfig contestArtifact = .ok called ∧
      batched.status = called.status ∧ batched.exitCode = called.exitCode := by
  refine batch_refines_calls id Function.injective_id (newBatchBundlePipeline 3) (newBundlePipeline 3) contestTask contestConfig
    contestArtifact contestContents contestResponses _ _ contestFleet (by decide) (by decide) ?_ contest_fits ?_ rfl ?_ ?_ ?_ ?_
  · exact ⟨rfl, rfl, rfl, fun _ => rfl, by decide⟩
  · decide
  · decide +kernel
  · decide
  · exact ⟨lit "sandbox-0:50051", rfl, rfl⟩
  · intro call content response _ answered
    exact ⟨lit "sandbox", rfl, congrArg Except.ok answered⟩

end JudgingServer.Proofs
