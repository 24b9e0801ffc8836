import Mathlib.Data.List.Forall2
import JudgingServer.Proofs.EventGrammar

/-! What the stream of a batch looks like once it was accepted, and what the
pipeline draws from it. -/

namespace JudgingServer.Proofs
open Go Bundle Library Sandbox Service

variable {pipeline : BatchBundlePipeline}

/-! ### Accepted streams -/

theorem Answers.carries (answers : Answers request responses events) (member : response ∈ responses) :
    ∃ event, some event ∈ events ∧ event.result = some response := by
  have within := answers.within
  obtain ⟨index, below, rfl⟩ := List.getElem_of_mem member
  refine ⟨⟨.caseResult, request.cases[index].caseID, some responses[index]⟩, ?_, rfl⟩
  rw [answers.stream]
  exact List.mem_append_left _ (List.mem_of_getElem? (List.getElem?_zipWith_eq_some.mpr
    ⟨request.cases[index], responses[index], List.getElem?_eq_getElem _, List.getElem?_eq_getElem below, rfl⟩))

theorem Answers.event_at (answers : Answers request responses events) {slot : Nat}
    (streamed : events.dropLast[slot]? = some (some event)) :
    ∃ requestCase response, request.cases[slot]? = some requestCase ∧ responses[slot]? = some response ∧
      event = ⟨.caseResult, requestCase.caseID, some response⟩ := by
  rw [answers.stream, List.dropLast_concat] at streamed
  obtain ⟨requestCase, response, caseAt, responseAt, same⟩ := List.getElem?_zipWith_eq_some.mp streamed
  exact ⟨requestCase, response, caseAt, responseAt, (Option.some.inj same).symm⟩

private theorem filterMap_caseEvents {α : Type} {reads : Option ExecuteBatchV1Event → Option α} {value : ExecuteResponse → α}
    (carried : ∀ testCase response, reads (caseEvent testCase response) = some (value response)) (cases : List ExecuteBatchV1Case)
    (responses : List ExecuteResponse) (within : responses.length ≤ cases.length) :
    (List.zipWith caseEvent cases responses).filterMap reads = responses.map value := by
  induction cases generalizing responses with
  | nil =>
    rw [List.length_eq_zero_iff.mp (Nat.le_zero.mp within)]
    rfl
  | cons testCase rest ih =>
    cases responses with
    | nil => rfl
    | cons response others =>
      rw [List.zipWith_cons_cons, List.filterMap_cons_some (carried testCase response), ih others (Nat.le_of_succ_le_succ within)]
      rfl

theorem Answers.filterMap {α : Type} {reads : Option ExecuteBatchV1Event → Option α} {value : ExecuteResponse → α}
    (answers : Answers request responses events)
    (carried : ∀ testCase response, reads (caseEvent testCase response) = some (value response))
    (ended : reads completion = none) : events.filterMap reads = responses.map value := by
  rw [answers.stream, List.filterMap_append, filterMap_caseEvents carried _ _ answers.within, List.filterMap_cons_none ended]
  exact List.append_nil _

/-- The responses a stream reports for cases. -/
def caseResponses (events : List (Option ExecuteBatchV1Event)) : List ExecuteResponse :=
  events.filterMap fun event => event.bind fun event => if event.kind = .caseResult then event.result else none

theorem Answers.reported (answers : Answers request responses events) : caseResponses events = responses := by
  have read : caseResponses events = responses.map id := answers.filterMap (fun _ _ => rfl) rfl
  rw [read, List.map_id]

private theorem acceptEvents_ok (taken : acceptEvents request events = .ok (some accepted)) :
    accepted = events ∧ validateBatchEvents request events = .ok () := by
  unfold acceptEvents at taken
  split at taken
  next valid => exact ⟨(Option.some.inj (Except.ok.inj taken)).symm, valid⟩
  next => cases taken
  next => cases taken

private theorem attemptBatch_ok (remaining : Nat)
    (ran : attemptBatch maximum fleet request remaining attempt attempted last = .ok (some events)) :
    (∃ attempt address, fleet.executeBatch attempt address request = .ok events) ∧
      validateBatchEvents request events = .ok () := by
  induction remaining generalizing attempt attempted last with
  | zero => cases last <;> cases ran
  | succ remaining ih =>
    unfold attemptBatch at ran
    split at ran
    next => cases ran
    next => cases ran
    next address _ =>
      simp only at ran
      split at ran
      next => cases ran
      next code _ =>
        split at ran
        next => exact ih ran
        next => cases ran
      next answered executed =>
        obtain ⟨rfl, valid⟩ := acceptEvents_ok ran
        exact ⟨⟨attempt, address, executed⟩, valid⟩

theorem runBatch_ok (ran : pipeline.runBatch fleet request = .ok (some events)) :
    (∃ attempt address, fleet.executeBatch attempt address request = .ok events) ∧
      validateBatchEvents request events = .ok () :=
  attemptBatch_ok _ (mapError_ok ran)

/-! ### The contestant request -/

/-- A case of the request and the local check of its expected output. -/
structure PreparedCase (sha256 : Bytes → Bytes) (artifact : Artifact) (testCase : Case) (prepared : ExecuteBatchV1Case × GoString) :
    Prop where
  named : prepared.1.caseID = testCase.id
  reads : ∃ expected kept, artifact.readCase testCase = some (prepared.1.stdin, expected) ∧
    expectedOutput sha256 artifact.manifest.checker expected = .ok kept ∧ kept.check = prepared.2

/-- The case of the contestant request for a case of the manifest. -/
def builtCase (sha256 : Bytes → Bytes) (artifact : Artifact) (testCase : Case) : Except CanonicalError ExecuteBatchV1Case :=
  match artifact.readCase testCase with
  | none => .error .caseUnreadable
  | some (input, expected) => do
    let kept ← expectedOutput sha256 artifact.manifest.checker expected
    return ⟨testCase.id, input, kept.forSandbox, artifact.manifest.checker == .exact, kept.tokenSHA256⟩

/-- A case is charged with what it takes as a field of the request. -/
theorem batchCaseWireBytes_eq : batchCaseWireBytes = fun testCase => sizeMessageField 6 testCase.size := rfl

theorem size_split (request : ExecuteBatchV1Request) :
    (request.size : Int) = { request with cases := [] }.size + (request.cases.map batchCaseWireBytes).sum := by
  rw [batchCaseWireBytes_eq]
  simp [ExecuteBatchV1Request.size]

/-- The case is part of the draft, and the request with it keeps to the limit. -/
structure Drafts (pipeline : BatchBundlePipeline) (draft next : BatchDraft) (requestCase : ExecuteBatchV1Case) : Prop where
  cases : next.cases = draft.cases ++ [requestCase]
  bytes : next.requestBytes = draft.requestBytes + batchCaseWireBytes requestCase
  fits : next.requestBytes ≤ pipeline.maxBatchRequestBytes

theorem appendCase_ok (appended : appendCase sha256 pipeline artifact draft testCase = .ok next) :
    ∃ prepared, PreparedCase sha256 artifact testCase prepared ∧ next.expectedChecks = draft.expectedChecks ++ [prepared.2] ∧
      Drafts pipeline draft next prepared.1 ∧ builtCase sha256 artifact testCase = .ok prepared.1 := by
  unfold appendCase at appended
  split at appended
  next => cases appended
  next input expected read =>
    obtain ⟨kept, keeps, appended⟩ := checked_ok appended
    obtain ⟨_, _, appended⟩ := checked_ok appended
    obtain ⟨_, within, appended⟩ := checked_ok appended
    obtain rfl := Except.ok.inj appended
    refine ⟨(_, _), ⟨rfl, expected, kept, read, keeps, rfl⟩, rfl, ⟨rfl, rfl, Int.not_lt.mp (rejectIf_ok within)⟩, ?_⟩
    simp only [builtCase, read]
    exact checked_run keeps rfl

theorem appendCases_ok (cases : List Case) (appended : appendCases sha256 pipeline artifact cases draft = .ok next) :
    ∃ pairs, List.Forall₂ (PreparedCase sha256 artifact) cases pairs ∧ next.cases = draft.cases ++ pairs.map Prod.fst ∧
      next.expectedChecks = draft.expectedChecks ++ pairs.map Prod.snd ∧
      next.requestBytes = draft.requestBytes + ((pairs.map Prod.fst).map batchCaseWireBytes).sum ∧
      (draft.requestBytes ≤ pipeline.maxBatchRequestBytes → next.requestBytes ≤ pipeline.maxBatchRequestBytes) := by
  induction cases generalizing draft with
  | nil =>
    obtain rfl := Except.ok.inj appended
    exact ⟨[], .nil, by simp, by simp, by simp, id⟩
  | cons testCase rest ih =>
    obtain ⟨middle, first, appended⟩ := checked_ok appended
    obtain ⟨prepared, fits, checkOf, drafts, -⟩ := appendCase_ok first
    obtain ⟨pairs, all, cases, checks, bytes, within⟩ := ih appended
    refine ⟨prepared :: pairs, .cons fits all, by simp [cases, drafts.cases], by simp [checks, checkOf], ?_, fun _ => within drafts.fits⟩
    rw [bytes, drafts.bytes, List.map_cons, List.map_cons, List.sum_cons]
    omega

structure PreparedBatch (sha256 : Bytes → Bytes) (input : CanonicalExecutionRequest) (artifact : Artifact)
    (request : ExecuteBatchV1Request) (pairs : List (ExecuteBatchV1Case × GoString)) : Prop where
  valid : artifact.manifest.validate = .ok ()
  stops : request.stopOnFailure =
    (input.stopOnFailure && artifact.manifest.judgeMode == .acm && artifact.manifest.checker != .special)
  cases : request.cases = pairs.map Prod.fst
  all : List.Forall₂ (PreparedCase sha256 artifact) artifact.manifest.cases pairs

theorem prepareBatch_ok (prepared : prepareBatch sha256 pipeline input artifact = .ok (request, checks)) :
    ∃ pairs, PreparedBatch sha256 input artifact request pairs ∧ checks = pairs.map Prod.snd := by
  unfold prepareBatch at prepared
  obtain ⟨_, _, prepared⟩ := checked_ok prepared
  obtain ⟨_, valid, prepared⟩ := checked_ok prepared
  obtain ⟨_, _, prepared⟩ := checked_ok prepared
  obtain ⟨_, _, prepared⟩ := checked_ok prepared
  obtain ⟨draft, appended, prepared⟩ := checked_ok prepared
  obtain ⟨pairs, all, cases, keptChecks, -, -⟩ := appendCases_ok _ appended
  obtain ⟨rfl, rfl⟩ := Prod.mk.inj (Except.ok.inj prepared)
  exact ⟨pairs, ⟨mapError_ok valid, rfl, by simpa using cases, all⟩, by simpa using keptChecks⟩

theorem PreparedBatch.length (prepared : PreparedBatch sha256 input artifact request pairs) :
    request.cases.length = artifact.manifest.cases.length := by
  rw [prepared.cases, List.length_map, prepared.all.length_eq]

theorem prepared_named (all : List.Forall₂ (PreparedCase sha256 artifact) cases pairs) :
    (pairs.map fun pair => pair.1.caseID) = cases.map Case.id := by
  induction all with
  | nil => rfl
  | cons one _ ih => rw [List.map_cons, List.map_cons, one.named, ih]

/-! ### Aggregation -/

/-- The status a case is reported with before any special judge. -/
def localStatus (sha256 : Bytes → Bytes) (checker : Checker) (check : GoString) (response : ExecuteResponse) : Callback.Status :=
  if response.status = lit "Accepted" ∧ checker ≠ .special ∧ outputMatchesExpectedCheck sha256 checker response.stdout check = false
  then .wrongAnswer
  else mapBundleStatus response.status

def report (sha256 : Bytes → Bytes) (checker : Checker) (prepared : ExecuteBatchV1Case × GoString) (response : ExecuteResponse) :
    CanonicalCaseResult :=
  ⟨prepared.1.caseID, localStatus sha256 checker prepared.2 response, boundedMetric response.timeUsed maxTimeUsedMillis,
    boundedMetric response.memoryUsed maxMemoryUsedKB, none, none⟩

def overallStatus (cases : List CanonicalCaseResult) : Callback.Status :=
  ((cases.find? fun item => item.status ≠ .accepted).map CanonicalCaseResult.status).getD .accepted

theorem overallStatus_accepted : overallStatus cases = .accepted ↔ ∀ item ∈ cases, item.status = .accepted := by
  unfold overallStatus
  cases found : cases.find? fun item => item.status ≠ .accepted with
  | none => simpa using found
  | some item =>
    have failed := List.find?_some found
    have member := List.mem_of_find?_eq_some found
    simp only [Option.map_some, Option.getD_some]
    exact ⟨fun accepted => absurd accepted (by simpa using failed), fun all => all item member⟩

theorem overallStatus_append (cases : List CanonicalCaseResult) (item : CanonicalCaseResult) :
    overallStatus (cases ++ [item]) =
      if overallStatus cases = .accepted ∧ item.status ≠ .accepted then item.status else overallStatus cases := by
  unfold overallStatus
  rw [List.find?_append]
  cases found : cases.find? fun item => item.status ≠ .accepted with
  | none => by_cases accepted : item.status = .accepted <;> simp [accepted]
  | some failure =>
    have failed := List.find?_some found
    simp only [ne_eq, decide_eq_true_eq] at failed
    simp [failed]

private theorem caseStatus_run (found : checks[index]? = some check) (response : ExecuteResponse) :
    caseStatus sha256 checker checks index response = .ok (localStatus sha256 checker check response) := by
  unfold caseStatus localStatus
  by_cases compared : response.status = lit "Accepted" ∧ checker ≠ .special
  · rw [if_pos compared, found]
    cases agrees : outputMatchesExpectedCheck sha256 checker response.stdout check with
    | false => simp [compared, dereference, agrees]
    | true => simp [dereference, agrees]
  · rw [if_neg compared, if_neg fun fails => compared ⟨fails.1, fails.2.1⟩]

def gathered (sha256 : Bytes → Bytes) (checker : Checker) :
    List (ExecuteBatchV1Case × GoString) → List ExecuteResponse → Aggregation → Aggregation
  | prepared :: pairs, response :: responses, state =>
    gathered sha256 checker pairs responses
      (state.append prepared.1.caseID response (localStatus sha256 checker prepared.2 response))
  | _, _, state => state

section Gathering

variable (pairs : List (ExecuteBatchV1Case × GoString)) (responses : List ExecuteResponse)

private theorem aggregateCases_run (state : Aggregation) (aligned : checks.drop index = pairs.map Prod.snd) :
    aggregateCases sha256 checker checks index (List.zipWith caseEvent (pairs.map Prod.fst) responses) state =
      .ok (gathered sha256 checker pairs responses state) := by
  induction pairs generalizing responses index state with
  | nil => rfl
  | cons prepared pairs ih =>
    cases responses with
    | nil => rfl
    | cons response responses =>
      have found : checks[index]? = some prepared.2 := by
        rw [← Nat.add_zero index, ← List.getElem?_drop, aligned]
        rfl
      have rest : checks.drop (index + 1) = pairs.map Prod.snd := by
        rw [← List.drop_drop, aligned]
        rfl
      have step : aggregateCase sha256 checker checks index state (caseEvent prepared.1 response) =
          .ok (state.append prepared.1.caseID response (localStatus sha256 checker prepared.2 response)) := by
        unfold aggregateCase caseEvent dereference
        simp only [bind, Except.bind, caseStatus_run found]
        rfl
      rw [List.map_cons, List.zipWith_cons_cons, aggregateCases, step]
      exact ih responses _ rest

private theorem gathered_outputs (sha256 : Bytes → Bytes) (checker : Checker) (state : Aggregation)
    (within : responses.length ≤ pairs.length) :
    (gathered sha256 checker pairs responses state).actualOutputs =
      state.actualOutputs ++ responses.map ExecuteResponse.stdout := by
  induction pairs generalizing responses state with
  | nil =>
    obtain rfl := List.length_eq_zero_iff.mp (Nat.le_zero.mp within)
    simp [gathered]
  | cons prepared pairs ih =>
    cases responses with
    | nil => simp [gathered]
    | cons response responses =>
      rw [gathered, ih responses _ (Nat.le_of_succ_le_succ within)]
      simp [Aggregation.append]

private theorem gathered_cases (state : Aggregation) :
    (gathered sha256 checker pairs responses state).result.cases =
      state.result.cases ++ List.zipWith (report sha256 checker) pairs responses := by
  induction pairs generalizing responses state with
  | nil => simp [gathered]
  | cons prepared pairs ih =>
    cases responses with
    | nil => simp [gathered]
    | cons response responses =>
      rw [gathered, ih]
      simp [Aggregation.append, report]

private theorem gathered_status (state : Aggregation) (agrees : state.result.status = overallStatus state.result.cases) :
    (gathered sha256 checker pairs responses state).result.status =
      overallStatus (gathered sha256 checker pairs responses state).result.cases := by
  induction pairs generalizing responses state with
  | nil => exact agrees
  | cons prepared pairs ih =>
    cases responses with
    | nil => exact agrees
    | cons response responses =>
      refine ih responses _ ?_
      simp only [Aggregation.append, overallStatus_append, agrees]

/-- The result of a stream that answers cases, with the outputs it carries. -/
def answeredResult (sha256 : Bytes → Bytes) (checker : Checker) (pairs : List (ExecuteBatchV1Case × GoString))
    (responses : List ExecuteResponse) : CanonicalResult :=
  let result := (gathered sha256 checker pairs responses ⟨acceptedResult, [], []⟩).result
  { result with exitCode := if result.status = .accepted then 0 else result.exitCode }

theorem answeredResult_cases :
    (answeredResult sha256 checker pairs responses).cases = List.zipWith (report sha256 checker) pairs responses :=
  gathered_cases pairs responses ⟨acceptedResult, [], []⟩

theorem answeredResult_status :
    (answeredResult sha256 checker pairs responses).status = overallStatus (answeredResult sha256 checker pairs responses).cases :=
  gathered_status pairs responses ⟨acceptedResult, [], []⟩ rfl

end Gathering

theorem aggregateBatchResult_answers (sha256 : Bytes → Bytes) (manifest : Manifest) (answers : Answers request responses events)
    (cases : request.cases = pairs.map Prod.fst) :
    aggregateBatchResult sha256 manifest (pairs.map Prod.snd) events =
      .ok (answeredResult sha256 manifest.checker pairs responses, responses.map ExecuteResponse.stdout) := by
  have stream := answers.stream
  have within := answers.within
  rw [cases] at stream within
  rw [List.length_map] at within
  have gather : aggregateCases sha256 manifest.checker (pairs.map Prod.snd) 0 events.dropLast ⟨acceptedResult, [], []⟩ =
      .ok (gathered sha256 manifest.checker pairs responses ⟨acceptedResult, [], []⟩) := by
    rw [stream, List.dropLast_concat]
    exact aggregateCases_run pairs responses _ rfl
  have outputs := gathered_outputs _ _ sha256 manifest.checker ⟨acceptedResult, [], []⟩ within
  obtain ⟨response, others, rfl⟩ := List.exists_cons_of_ne_nil answers.nonempty
  obtain ⟨prepared, rest, rfl⟩ := List.exists_cons_of_length_pos (Nat.lt_of_lt_of_le (Nat.succ_pos _) within)
  have first : dereference events.head?.join = .ok ⟨.caseResult, prepared.1.caseID, some response⟩ := by
    rw [stream]
    rfl
  rw [aggregateBatchResult, first]
  simp only [bind, Except.bind, gather]
  rw [outputs]
  rfl

theorem aggregateBatchResult_compile (compile : event.kind = .compileError) :
    aggregateBatchResult sha256 manifest checks [some event] = .ok (compileErrorResult, []) := by
  unfold aggregateBatchResult
  simp only [List.head?_cons, Option.join_some, dereference, bind, Except.bind, compile, reduceIte]
  rfl

/-! ### Scores -/

def earned (item : CanonicalCaseResult) (testCase : Case) : Int := if item.status = .accepted then testCase.weight else 0

def scoreItem (item : CanonicalCaseResult) (testCase : Case) : CanonicalCaseResult :=
  { item with score := some (earned item testCase), maxScore := some testCase.weight }

private theorem scoreCases_run (items : List CanonicalCaseResult) (cases : List Case) (score : Int)
    (within : items.length ≤ cases.length) :
    scoreCases items cases score = .ok (List.zipWith scoreItem items cases, score + (List.zipWith earned items cases).sum) := by
  induction items generalizing cases score with
  | nil => simp [scoreCases]
  | cons item rest ih =>
    cases cases with
    | nil => cases within
    | cons testCase cases =>
      have tail := ih cases (score + earned item testCase) (Nat.le_of_succ_le_succ within)
      rw [scoreCases]
      simp only [earned] at tail
      simp only [tail, bind, Except.bind, List.zipWith_cons_cons, List.sum_cons, scoreItem, earned]
      rw [← Int.add_assoc]
      rfl

/-- A result is scored in OI mode only; the reported cases keep their statuses. -/
theorem applyManifestScoring_oi (oi : manifest.judgeMode = .oi) (scores : manifest.totalScore = some total)
    (within : result.cases.length ≤ manifest.cases.length) :
    ∃ scored, applyManifestScoring manifest result = .ok scored ∧ scored.cases = List.zipWith scoreItem result.cases manifest.cases ∧
      scored.score = some (List.zipWith earned result.cases manifest.cases).sum ∧ scored.totalScore = some total ∧
      scored.status = if result.status = .compileError then .compileError
        else if (List.zipWith earned result.cases manifest.cases).sum = total then .accepted else .wrongAnswer := by
  unfold applyManifestScoring
  have run := scoreCases_run result.cases manifest.cases 0 within
  rw [Int.zero_add] at run
  simp only [oi, scores, run, bind, Except.bind]
  refine ⟨_, rfl, ?_⟩
  split
  next compile => exact ⟨rfl, rfl, rfl, compile⟩
  next =>
    split
    next => exact ⟨rfl, rfl, rfl, rfl⟩
    next => exact ⟨rfl, rfl, rfl, rfl⟩

/-- Scoring leaves the metrics and texts as they are, and an accepted result exits with zero. -/
theorem applyManifestScoring_keeps (returned : applyManifestScoring manifest result = .ok scored) :
    (scored.timeUsedMillis = result.timeUsedMillis ∧ scored.memoryUsedKB = result.memoryUsedKB ∧ scored.stderr = result.stderr ∧
      scored.compileError = result.compileError) ∧
      ((result.status = .accepted → result.exitCode = 0) → scored.status = .accepted → scored.exitCode = 0) := by
  unfold applyManifestScoring at returned
  split at returned
  next =>
    obtain ⟨⟨cases, score⟩, _, returned⟩ := checked_ok returned
    obtain rfl := Except.ok.inj returned
    simp only
    split
    next compile => exact ⟨⟨rfl, rfl, rfl, rfl⟩, fun exits => exits⟩
    next =>
      split
      next => exact ⟨⟨rfl, rfl, rfl, rfl⟩, fun _ _ => rfl⟩
      next => exact ⟨⟨rfl, rfl, rfl, rfl⟩, nofun⟩
  next =>
    obtain rfl := Except.ok.inj returned
    exact ⟨⟨rfl, rfl, rfl, rfl⟩, fun exits => exits⟩

theorem applyManifestScoring_acm (acm : manifest.judgeMode = .acm) : applyManifestScoring manifest result = .ok result := by
  unfold applyManifestScoring
  rw [acm]

section Grammar

private theorem AcceptedStream.aggregates (accepted : AcceptedStream request events) (sha256 : Bytes → Bytes)
    (manifest : Manifest)
    (each : checks.length = request.cases.length) :
    ∃ result, aggregateBatchResult sha256 manifest checks events = .ok result := by
  cases accepted with
  | compilation failed => exact ⟨_, aggregateBatchResult_compile rfl⟩
  | @results responses within nonempty known ends continued =>
    have answers := AcceptedStream.answers within nonempty known ends
    have cases : request.cases = (request.cases.zip checks).map Prod.fst :=
      (List.map_fst_zip (Nat.le_of_eq each.symm)).symm
    have kept : checks = (request.cases.zip checks).map Prod.snd := (List.map_snd_zip (Nat.le_of_eq each)).symm
    rw [kept]
    exact ⟨_, aggregateBatchResult_answers sha256 manifest answers cases⟩

/-- The validator reads no missing event and accepts exactly the two shapes. What it accepts
is aggregated without a missing index or event. -/
theorem event_stream_grammar (request : ExecuteBatchV1Request) (events : List (Option ExecuteBatchV1Event)) :
    validateBatchEvents request events ≠ .error .nilDereference ∧
    (validateBatchEvents request events = .ok () ↔ AcceptedStream request events) ∧
    ∀ sha256 manifest expectedChecks, expectedChecks.length = request.cases.length →
      validateBatchEvents request events = .ok () →
      ∃ result, aggregateBatchResult sha256 manifest expectedChecks events = .ok result := by
  refine ⟨validateBatchEvents_iff.1, validateBatchEvents_iff.2, fun sha256 manifest expectedChecks each valid => ?_⟩
  have accepted := validateBatchEvents_iff.2.mp valid
  exact accepted.aggregates sha256 manifest each

end Grammar

end JudgingServer.Proofs
