import JudgingServer.Proofs.SpecialJudge
import JudgingServer.Worker.Runner

/-! Two executions that see the same sandbox traffic, apart from its texts, publish
the same result. -/

namespace JudgingServer.Proofs
open Go Bundle Library Sandbox Service Worker

variable {sha256 : Bytes → Bytes} {checker : Checker}

/-! ### Visible traffic -/

/-- What of a response may reach a result besides its status. -/
structure Shown where
  status : GoString
  exitCode : Int
  timeUsed : Int
  memoryUsed : Int

def shown (response : ExecuteResponse) : Shown := ⟨response.status, response.exitCode, response.timeUsed, response.memoryUsed⟩

/-- An event without the texts of its response. -/
structure VisibleEvent where
  kind : EventKind
  caseID : GoString
  result : Option Shown

def visible (event : Option ExecuteBatchV1Event) : Option VisibleEvent :=
  event.map fun event => ⟨event.kind, event.caseID, event.result.map shown⟩

section

variable (sha256 : Bytes → Bytes)

/-- For each answered case, whether its output matches the expected one. -/
def matching (checker : Checker) (checks : List GoString) (responses : List ExecuteResponse) : List Bool :=
  List.zipWith (fun check response => outputMatchesExpectedCheck sha256 checker response.stdout check) checks responses

/-- The accepted flag of a checker's answer. -/
def acceptedFlag (event : Option ExecuteBatchV1Event) : Option Bool :=
  (event.bind ExecuteBatchV1Event.result).bind fun response => parseSpecialJudgeOutput response.stdout

private theorem caseResponses_visible (events : List (Option ExecuteBatchV1Event)) :
    (caseResponses events).map shown =
      (events.map visible).filterMap fun event => event.bind fun event => if event.kind = .caseResult then event.result else none := by
  unfold caseResponses
  rw [List.map_filterMap, List.filterMap_map]
  refine List.filterMap_congr fun event _ => ?_
  cases event with
  | none => rfl
  | some event =>
    simp only [Option.bind_some, Function.comp, visible, Option.map_some]
    split <;> rfl

/-- Everything an execution depends on. -/
structure Execution where
  pipeline : BatchBundlePipeline
  input : CanonicalExecutionRequest
  artifact : Artifact
  contestant : SandboxFleet
  checker : SandboxFleet

namespace Execution

def run (execution : Execution) : Except CanonicalError CanonicalResult :=
  executeCanonical sha256 execution.pipeline execution.input execution.artifact execution.contestant execution.checker

/-- The contestant batch is answered with `events`, and `checks` are its local checks. -/
def Contestant (execution : Execution) (checks : List GoString) (events : List (Option ExecuteBatchV1Event)) :
    Prop :=
  ∃ request, prepareBatch sha256 execution.pipeline execution.input execution.artifact = .ok (request, checks) ∧
    execution.pipeline.runBatch execution.contestant request = .ok (some events)

/-- The checker batch that follows the contestant batch is answered with `events`. -/
def Checked (execution : Execution) (events : List (Option ExecuteBatchV1Event)) : Prop :=
  ∃ batch request indexes,
    runContestant sha256 execution.pipeline execution.input execution.artifact execution.contestant = .ok batch ∧
    prepareSpecialJudge execution.pipeline execution.artifact batch.request batch.expectedChecks batch.actualOutputs batch.result =
      .ok (request, indexes) ∧
    execution.pipeline.runBatch execution.checker request = .ok (some events)

end Execution

/-- Two executions of one manifest whose traffic differs in texts only. -/
structure SameTraffic (left right : Execution) : Prop where
  manifest : left.artifact.manifest = right.artifact.manifest
  contestant : ∀ checks events checks' events', left.Contestant sha256 checks events → right.Contestant sha256 checks' events' →
    events.map visible = events'.map visible
  outputs : left.artifact.manifest.checker ≠ .special → ∀ checks events checks' events', left.Contestant sha256 checks events →
    right.Contestant sha256 checks' events' →
    matching sha256 left.artifact.manifest.checker checks (caseResponses events) =
      matching sha256 left.artifact.manifest.checker checks' (caseResponses events')
  checker : left.artifact.manifest.checker = .special → ∀ events events', left.Checked sha256 events → right.Checked sha256 events' →
    events.map visible = events'.map visible ∧ events.map acceptedFlag = events'.map acceptedFlag

end

/-! ### The contestant batch -/

private theorem localStatus_agrees (same : shown response = shown response')
    (outputs : checker ≠ .special → outputMatchesExpectedCheck sha256 checker response.stdout check = outputMatchesExpectedCheck sha256 checker response'.stdout check') :
    localStatus sha256 checker check response = localStatus sha256 checker check' response' := by
  have status : response.status = response'.status := congrArg Shown.status same
  unfold localStatus
  rw [status]
  by_cases special : checker = .special
  · rw [if_neg fun fails => fails.2.1 special, if_neg fun fails => fails.2.1 special]
  · rw [outputs special]

private theorem gathered_agrees (pairs pairs' : List (ExecuteBatchV1Case × GoString))
    (responses responses' : List ExecuteResponse)
    {state state' : Aggregation} (ids : (pairs.map fun pair => pair.1.caseID) = pairs'.map fun pair => pair.1.caseID)
    (same : responses.map shown = responses'.map shown)
    (outputs : checker ≠ .special → matching sha256 checker (pairs.map Prod.snd) responses = matching sha256 checker (pairs'.map Prod.snd) responses')
    (results : state.result = state'.result) (summaries : state.summaries = state'.summaries) :
    (gathered sha256 checker pairs responses state).result = (gathered sha256 checker pairs' responses' state').result := by
  induction pairs generalizing pairs' responses responses' state state' with
  | nil =>
    obtain rfl : pairs' = [] := List.map_eq_nil_iff.mp ids.symm
    exact results
  | cons prepared pairs ih =>
    obtain ⟨prepared', pairs', rfl⟩ := List.exists_cons_of_length_eq_add_one (show pairs'.length = pairs.length + 1 by
      simpa using congrArg List.length ids.symm)
    obtain ⟨sameID, ids⟩ := List.cons.inj ids
    cases responses with
    | nil =>
      obtain rfl : responses' = [] := List.map_eq_nil_iff.mp same.symm
      exact results
    | cons response responses =>
      obtain ⟨response', responses', rfl⟩ := List.exists_cons_of_length_eq_add_one (show responses'.length = responses.length + 1 by
        simpa using congrArg List.length same.symm)
      obtain ⟨sameResponse, same⟩ := List.cons.inj same
      have status := localStatus_agrees sameResponse fun special => (List.cons.inj (outputs special)).1
      obtain ⟨sandboxStatus, exitCode, timeUsed, memoryUsed⟩ := Shown.mk.inj sameResponse
      refine ih pairs' responses responses' ids same (fun special => (List.cons.inj (outputs special)).2) ?_ ?_
      · simp only [Aggregation.append, results, summaries, sameID, status, sandboxStatus, exitCode, timeUsed, memoryUsed]
      · simp only [Aggregation.append, summaries, sameID, status, sandboxStatus]

theorem Answers.length (answers : Answers request responses events) : 2 ≤ events.length := by
  have positive := List.length_pos_iff.mpr answers.nonempty
  have within := answers.within
  rw [answers.stream, List.length_append, List.length_zipWith]
  simp only [List.length_singleton]
  omega

private theorem SameTraffic.contestant_result (traffic : SameTraffic sha256 left right)
    (runs : runContestant sha256 left.pipeline left.input left.artifact left.contestant = .ok batch)
    (runs' : runContestant sha256 right.pipeline right.input right.artifact right.contestant = .ok batch') :
    batch.result = batch'.result := by
  obtain ⟨pairs, run⟩ := runContestant_ok runs
  obtain ⟨pairs', run'⟩ := runContestant_ok runs'
  have contestant : left.Contestant sha256 batch.expectedChecks batch.events := ⟨batch.request, run.prepares, run.ran⟩
  have contestant' : right.Contestant sha256 batch'.expectedChecks batch'.events := ⟨batch'.request, run'.prepares, run'.ran⟩
  have same := traffic.contestant _ _ _ _ contestant contestant'
  have lengths : batch.events.length = batch'.events.length := by simpa using congrArg List.length same
  cases run.ends with
  | inl failed =>
    obtain ⟨event, stream, _, compile⟩ := failed
    cases run'.ends with
    | inl failed' =>
      obtain ⟨_, _, _, compile'⟩ := failed'
      rw [compile, compile']
    | inr answered' =>
      obtain ⟨_, answers', _⟩ := answered'
      have long := answers'.length
      rw [← lengths, stream] at long
      simp at long
  | inr answered =>
    obtain ⟨responses, answers, aggregated, _⟩ := answered
    cases run'.ends with
    | inl failed' =>
      obtain ⟨_, stream, _, _⟩ := failed'
      have long := answers.length
      rw [lengths, stream] at long
      simp at long
    | inr answered' =>
      obtain ⟨responses', answers', aggregated', _⟩ := answered'
      have ids : (pairs.map fun pair => pair.1.caseID) = pairs'.map fun pair => pair.1.caseID := by
        rw [prepared_named run.prepared.all, prepared_named run'.prepared.all, traffic.manifest]
      have answersSame : responses.map shown = responses'.map shown := by
        rw [← answers.reported, ← answers'.reported, caseResponses_visible, caseResponses_visible, same]
      have outputs : left.artifact.manifest.checker ≠ .special →
          matching sha256 left.artifact.manifest.checker (pairs.map Prod.snd) responses =
            matching sha256 left.artifact.manifest.checker (pairs'.map Prod.snd) responses' := by
        intro plain
        have agrees := traffic.outputs plain _ _ _ _ contestant contestant'
        rwa [answers.reported, answers'.reported, run.checks, run'.checks] at agrees
      have gathers : (gathered sha256 left.artifact.manifest.checker pairs responses ⟨acceptedResult, [], []⟩).result =
          (gathered sha256 left.artifact.manifest.checker pairs' responses' ⟨acceptedResult, [], []⟩).result :=
        gathered_agrees pairs pairs' responses responses' ids answersSame outputs rfl rfl
      rw [aggregated, aggregated', ← traffic.manifest]
      unfold answeredResult
      rw [gathers]

/-! ### The checker batch -/

private theorem judgeCase_agrees (same : visible event = visible event') (flags : acceptedFlag event = acceptedFlag event')
    (judged : judgeCase indexes slot cases event = .ok next) (judged' : judgeCase indexes slot cases event' = .ok next') :
    next = next' := by
  obtain ⟨index, item, response, verdict, indexAt, itemAt, ⟨present, streamed, carries, _, parsed⟩, rfl⟩ := judgeCase_ok judged
  obtain ⟨index', item', response', verdict', indexAt', itemAt', ⟨present', streamed', carries', _, parsed'⟩, rfl⟩ :=
    judgeCase_ok judged'
  obtain rfl := Option.some.inj streamed
  obtain rfl := Option.some.inj streamed'
  obtain rfl := Option.some.inj (indexAt.symm.trans indexAt')
  obtain rfl := Option.some.inj (itemAt.symm.trans itemAt')
  have verdicts : verdict = verdict' := by
    simpa [acceptedFlag, carries, carries', parsed, parsed'] using flags
  have responses : shown response = shown response' := by
    have results := congrArg VisibleEvent.result (Option.some.inj same)
    simpa [carries, carries'] using results
  obtain ⟨_, _, timeUsed, memoryUsed⟩ := Shown.mk.inj responses
  simp only [CanonicalCaseResult.judged, verdicts, timeUsed, memoryUsed]

private theorem judgeCases_agrees (events events' : List (Option ExecuteBatchV1Event))
    (same : events.map visible = events'.map visible)
    (flags : events.map acceptedFlag = events'.map acceptedFlag) (judged : judgeCases indexes first events cases = .ok next)
    (judged' : judgeCases indexes first events' cases = .ok next') : next = next' := by
  induction events generalizing events' first cases with
  | nil =>
    obtain rfl : events' = [] := List.map_eq_nil_iff.mp same.symm
    exact Except.ok.inj (judged.symm.trans judged')
  | cons event rest ih =>
    obtain ⟨event', rest', rfl⟩ := List.exists_cons_of_length_eq_add_one (show events'.length = rest.length + 1 by
      simpa using congrArg List.length same.symm)
    obtain ⟨sameFirst, same⟩ := List.cons.inj same
    obtain ⟨flagsFirst, flags⟩ := List.cons.inj flags
    obtain ⟨middle, one, judged⟩ := checked_ok judged
    obtain ⟨middle', one', judged'⟩ := checked_ok judged'
    obtain rfl := judgeCase_agrees sameFirst flagsFirst one one'
    exact ih rest' same flags judged judged'

private theorem SameTraffic.judged_result (traffic : SameTraffic sha256 left right)
    (runs : runContestant sha256 left.pipeline left.input left.artifact left.contestant = .ok batch)
    (runs' : runContestant sha256 right.pipeline right.input right.artifact right.contestant = .ok batch')
    (judges : judgeContestant left.pipeline left.artifact left.checker batch = .ok judged)
    (judges' : judgeContestant right.pipeline right.artifact right.checker batch' = .ok judged') : judged = judged' := by
  have same := traffic.contestant_result runs runs'
  unfold judgeContestant at judges judges'
  rw [← traffic.manifest, ← same] at judges'
  split at judges
  next judging =>
    rw [if_pos judging] at judges'
    cases applySpecialJudge_ok judges with
    | inl unjudged =>
      obtain ⟨_, none, rfl⟩ := unjudged
      cases applySpecialJudge_ok judges' with
      | inl unjudged' => exact unjudged'.2.2.symm
      | inr checked' =>
        obtain ⟨_, _, _, some', _⟩ := checked'
        exact absurd none some'
    | inr checked =>
      obtain ⟨request, events, cases, some, _, prepares, ran, judgements, rfl⟩ := checked
      cases applySpecialJudge_ok judges' with
      | inl unjudged' => exact absurd unjudged'.2.1 some
      | inr checked' =>
        obtain ⟨request', events', cases', _, _, prepares', ran', judgements', rfl⟩ := checked'
        obtain ⟨agrees, flags⟩ := traffic.checker judging.1 events events' ⟨batch, request, _, runs, prepares, ran⟩
          ⟨batch', request', _, runs', same ▸ prepares', ran'⟩
        rw [judgeCases_agrees _ _ (by rw [List.map_dropLast, List.map_dropLast, agrees])
          (by rw [List.map_dropLast, List.map_dropLast, flags]) judgements judgements']
  next skipped =>
    rw [if_neg skipped] at judges'
    exact Except.ok.inj (judges.symm.trans judges')

/-- The texts of the sandbox have no influence on what is published. -/
theorem sandbox_text_redacted (sha256 : Bytes → Bytes) (left right : Execution) (traffic : SameTraffic sha256 left right)
    (result result' : CanonicalResult) (returned : left.run sha256 = .ok result) (returned' : right.run sha256 = .ok result') :
    result = result' ∧ callbackResult result = callbackResult result' := by
  obtain ⟨batch, runs, returned⟩ := checked_ok returned
  obtain ⟨batch', runs', returned'⟩ := checked_ok returned'
  obtain ⟨judged, judges, scored⟩ := checked_ok returned
  obtain ⟨judged', judges', scored'⟩ := checked_ok returned'
  obtain rfl := traffic.judged_result runs runs' judges judges'
  rw [← traffic.manifest] at scored'
  obtain rfl := Except.ok.inj (scored.symm.trans scored')
  exact ⟨rfl, rfl⟩

/-- An execution in which the first case prints `output` and the checker comments with `answer`. -/
def judgedExecution (output answer : GoString) : Execution :=
  { pipeline := newBatchBundlePipeline 3
    input := sampleInput
    artifact := judgedArtifact
    contestant := steadyFleet
      [caseResult (lit "1") (lit "Accepted") output, caseResult (lit "2") (lit "Runtime Error") output, completion]
    checker := steadyFleet [caseResult (lit "1") (lit "Accepted") answer, completion] }

def silentAnswer : GoString := lit "\x7b\"schemaVersion\":1,\"accepted\":true\x7d"

def chattyAnswer : GoString := lit "\x7b\"schemaVersion\":1,\"accepted\":true,\"message\":\"key is 7\"\x7d"

private theorem judgedExecution_traffic :
    SameTraffic id (judgedExecution (lit "4 3") silentAnswer) (judgedExecution (lit "a secret") chattyAnswer) := by
  refine ⟨rfl, ?_, fun plain => absurd rfl plain, ?_⟩
  · rintro checks events checks' events' ⟨_, _, ran⟩ ⟨_, _, ran'⟩
    obtain ⟨⟨_, _, executed⟩, _⟩ := runBatch_ok ran
    obtain ⟨⟨_, _, executed'⟩, _⟩ := runBatch_ok ran'
    rw [← Except.ok.inj executed, ← Except.ok.inj executed']
    rfl
  · rintro _ events events' ⟨_, _, _, _, _, ran⟩ ⟨_, _, _, _, _, ran'⟩
    obtain ⟨⟨_, _, executed⟩, _⟩ := runBatch_ok ran
    obtain ⟨⟨_, _, executed'⟩, _⟩ := runBatch_ok ran'
    rw [← Except.ok.inj executed, ← Except.ok.inj executed']
    exact ⟨rfl, by decide +kernel⟩

/-- The first case is accepted by the checker, whose time is added to it. -/
def redactedResult : CanonicalResult :=
  { status := .wrongAnswer
    exitCode := 0
    timeUsedMillis := 10
    memoryUsedKB := 64
    stderr := lit "case=1 status=ACCEPTED;case=2 status=RUNTIME_ERROR"
    compileError := []
    score := some 60
    totalScore := some 100
    cases := [⟨lit "1", .accepted, 10, 64, some 60, some 60⟩, ⟨lit "2", .runtimeError, 5, 64, some 0, some 40⟩] }

theorem sandbox_text_redacted_sample :
    (judgedExecution (lit "4 3") silentAnswer).run id = .ok redactedResult ∧
      ∃ result, (judgedExecution (lit "a secret") chattyAnswer).run id = .ok result ∧ redactedResult = result ∧
        callbackResult redactedResult = callbackResult result := by
  have returned : (judgedExecution (lit "4 3") silentAnswer).run id = .ok redactedResult := by decide +kernel
  have returns : ((judgedExecution (lit "a secret") chattyAnswer).run id).isOk = true := by decide +kernel
  refine ⟨returned, ?_⟩
  cases returned' : (judgedExecution (lit "a secret") chattyAnswer).run id with
  | error error =>
    rw [returned'] at returns
    cases returns
  | ok result =>
    exact ⟨result, rfl, sandbox_text_redacted id _ _ judgedExecution_traffic redactedResult result returned returned'⟩

end JudgingServer.Proofs
