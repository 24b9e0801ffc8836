import JudgingServer.Service.BatchPipeline

/-! The special judge of a bundle: a second batch that is given the output of
every accepted case and answers with one JSON document per case. -/

namespace JudgingServer.Service
open Go Bundle Library Sandbox

def maxSpecialJudgeProtocolBytesV1 : Int := 4 * 1048576

def maxSpecialJudgeResultBytesV1 : Nat := 65536

/-! ### The checker's input -/

def jsonStringCost (segment : Segment) : Int :=
  let character := segment.rune
  if character = 34 ∨ character = 92 ∨ character = 8 ∨ character = 12 ∨ character = 10 ∨ character = 13 ∨ character = 9 then 2
  else if character < 0x20 ∨ character = 60 ∨ character = 62 ∨ character = 38 then 6
  else if character < 0x80 then 1
  else if character = 0x2028 ∨ character = 0x2029 then 6
  else segment.bytes.length

def chargeRunes : List Segment → Int → Option Int
  | [], remaining => some remaining
  | segment :: rest, remaining =>
    if remaining < jsonStringCost segment then none else chargeRunes rest (remaining - jsonStringCost segment)

def consumeJSONStringBudget (value : GoString) (remaining : Int) : Option Int :=
  if remaining < 0 ∨ !validString value then none else chargeRunes (segments value) remaining

def specialJudgePayloadWithinPreEncodeLimit (caseID input expected actual : GoString) : Bool :=
  ([caseID, input, expected, actual].foldlM (fun remaining value => consumeJSONStringBudget value remaining)
    (maxSpecialJudgeProtocolBytesV1 - 256)).isSome

/-- `json.Marshal(specialJudgeInputV1{...})`. -/
def specialJudgeInputV1 (caseID input expectedOutput actualOutput : GoString) : Bytes :=
  Json.marshal (.object [(lit "schemaVersion", .int 1), (lit "caseId", .string caseID), (lit "input", .string input),
    (lit "expectedOutput", .string expectedOutput), (lit "actualOutput", .string actualOutput)])

structure CheckerDraft where
  cases : List ExecuteBatchV1Case
  requestBytes : Int
  caseIndexes : List Nat
deriving DecidableEq, Repr

variable (pipeline : BatchBundlePipeline)

def appendCheckerCase (contestantRequest : ExecuteBatchV1Request)
    (expectedOutputs actualOutputs : List GoString) (index : Nat) (draft : CheckerDraft) (item : CanonicalCaseResult) :
    Except CanonicalError CheckerDraft :=
  if item.status ≠ .accepted then .ok draft
  else do
    let contestantCase ← dereference contestantRequest.cases[index]?
    let expected ← dereference expectedOutputs[index]?
    let actual ← dereference actualOutputs[index]?
    rejectIf (!specialJudgePayloadWithinPreEncodeLimit item.caseID contestantCase.stdin expected actual)
      .specialJudgeInputTooLarge
    let payload := specialJudgeInputV1 item.caseID contestantCase.stdin expected actual
    rejectIf (maxSpecialJudgeProtocolBytesV1 < payload.length) .specialJudgeInputTooLarge
    let requestCase : ExecuteBatchV1Case := ⟨item.caseID, payload, [], false, []⟩
    let requestBytes := draft.requestBytes + batchCaseWireBytes requestCase
    rejectIf (pipeline.maxBatchRequestBytes < requestBytes) .specialJudgeBatchTooLarge
    return ⟨draft.cases ++ [requestCase], requestBytes, draft.caseIndexes ++ [index]⟩

def appendCheckerCases (pipeline : BatchBundlePipeline) (contestantRequest : ExecuteBatchV1Request)
    (expectedOutputs actualOutputs : List GoString) :
    Nat → List CanonicalCaseResult → CheckerDraft → Except CanonicalError CheckerDraft
  | _, [], draft => .ok draft
  | index, item :: rest, draft => do
    let draft ← appendCheckerCase pipeline contestantRequest expectedOutputs actualOutputs index draft item
    appendCheckerCases pipeline contestantRequest expectedOutputs actualOutputs (index + 1) rest draft

/-- The request for the checker batch, and for each of its cases the index of the
reported case it is about. -/
def prepareSpecialJudge (artifact : Artifact) (contestantRequest : ExecuteBatchV1Request)
    (expectedOutputs actualOutputs : List GoString) (result : CanonicalResult) :
    Except CanonicalError (ExecuteBatchV1Request × List Nat) :=
  let manifest := artifact.manifest
  match artifact.readSpecialJudge, manifest.specialJudge with
  | some source, some judge => do
    rejectIf (result.cases.length ≠ manifest.cases.length ∨ contestantRequest.cases.length ≠ manifest.cases.length ∨
        expectedOutputs.length ≠ manifest.cases.length ∨ actualOutputs.length ≠ manifest.cases.length)
      .specialJudgeIncomplete
    rejectIf ((source.getD []).isEmpty) .specialJudgeSourceUnavailable
    let request : ExecuteBatchV1Request :=
      { language := judge.language
        sourceCode := source.getD []
        timeout := timeoutSeconds judge.timeLimitMillis
        memoryLimit := boundedInt32 judge.memoryLimitMiB
        stopOnFailure := false
        cases := [] }
    let draft ← appendCheckerCases pipeline contestantRequest expectedOutputs actualOutputs 0 result.cases
      ⟨[], request.size, []⟩
    return ({ request with cases := draft.cases }, draft.caseIndexes)
  | _, _ => .error .specialJudgeIncomplete

/-! ### The checker's output -/

structure SpecialJudgeOutputV1 where
  schemaVersion : Int
  accepted : Option Bool
  message : GoString
deriving DecidableEq, Repr

def specialJudgeOutputFields : List (Json.Field SpecialJudgeOutputV1) :=
  [⟨lit "schemaVersion", fun value output => do return { output with schemaVersion := ← Json.decodeInt value output.schemaVersion }⟩,
   ⟨lit "accepted", fun value output => do return { output with accepted := ← Json.decodeBoolPointer value }⟩,
   ⟨lit "message", fun value output => do return { output with message := ← Json.decodeString value output.message }⟩]

/-- Whether the checker accepted; no answer means that its output is invalid. -/
def parseSpecialJudgeOutput (data : GoString) : Option Bool :=
  if data.length = 0 ∨ maxSpecialJudgeResultBytesV1 < data.length ∨ !validString data then none
  else do
    let document ← Json.parseDocument data
    let output ← Json.decodeStruct specialJudgeOutputFields document ⟨0, none, []⟩
    if output.schemaVersion ≠ 1 ∨ 1024 < Callback.utf16Len output.message then none else output.accepted

def CanonicalCaseResult.judged (item : CanonicalCaseResult) (response : ExecuteResponse) (accepted : Bool) :
    CanonicalCaseResult :=
  { item with
    timeUsedMillis := item.timeUsedMillis + boundedMetric response.timeUsed maxTimeUsedMillis
    memoryUsedKB := max item.memoryUsedKB (boundedMetric response.memoryUsed maxMemoryUsedKB)
    status := if accepted then .accepted else .wrongAnswer }

def judgeCase (caseIndexes : List Nat) (eventIndex : Nat) (cases : List CanonicalCaseResult)
    (event : Option ExecuteBatchV1Event) : Except CanonicalError (List CanonicalCaseResult) := do
  let event ← dereference event
  match event.result with
  | none => .error .specialJudgeResponseInvalid
  | some response =>
    rejectIf (response.status ≠ lit "Accepted") .specialJudgeRunFailed
    match parseSpecialJudgeOutput response.stdout with
    | none => .error .specialJudgeOutputInvalid
    | some accepted => do
      let index ← dereference caseIndexes[eventIndex]?
      let item ← dereference cases[index]?
      return cases.set index (item.judged response accepted)

def judgeCases (caseIndexes : List Nat) :
    Nat → List (Option ExecuteBatchV1Event) → List CanonicalCaseResult → Except CanonicalError (List CanonicalCaseResult)
  | _, [], cases => .ok cases
  | eventIndex, event :: rest, cases => do
    let cases ← judgeCase caseIndexes eventIndex cases event
    judgeCases caseIndexes (eventIndex + 1) rest cases

def judgedSummary (item : CanonicalCaseResult) : GoString :=
  lit "case=" ++ item.caseID ++ lit " status=" ++ item.status.text

/-- One round of the loop of `recomputeCanonicalVerdict`. -/
def CanonicalResult.tally (result : CanonicalResult) (item : CanonicalCaseResult) : CanonicalResult :=
  { result with
    status := if result.status = .accepted ∧ item.status ≠ .accepted then item.status else result.status
    timeUsedMillis := max result.timeUsedMillis item.timeUsedMillis
    memoryUsedKB := max result.memoryUsedKB item.memoryUsedKB }

def recomputeCanonicalVerdict (result : CanonicalResult) : CanonicalResult :=
  let tallied := result.cases.foldl CanonicalResult.tally
    { result with status := .accepted, exitCode := 0, timeUsedMillis := 0, memoryUsedKB := 0 }
  { tallied with
    stderr := Callback.truncateUTF16 (join (lit ";") (result.cases.map judgedSummary)) maxStderrUnits }

def applyJudgements (request : ExecuteBatchV1Request) (caseIndexes : List Nat) (result : CanonicalResult)
    (response : Option (List (Option ExecuteBatchV1Event))) : Except CanonicalError CanonicalResult :=
  match response with
  | none => .error .specialJudgeResponseInvalid
  | some events => do
    rejectIf (events.length ≠ request.cases.length + 1) .specialJudgeResponseInvalid
    let first ← dereference (events.head?.join)
    rejectIf (first.kind = .compileError) .specialJudgeCompilationFailed
    let cases ← judgeCases caseIndexes 0 events.dropLast result.cases
    return recomputeCanonicalVerdict { result with cases := cases }

def applySpecialJudge (fleet : SandboxFleet) (artifact : Artifact)
    (contestantRequest : ExecuteBatchV1Request) (expectedOutputs actualOutputs : List GoString) (result : CanonicalResult) :
    Except CanonicalError CanonicalResult := do
  let (request, caseIndexes) ← prepareSpecialJudge pipeline artifact contestantRequest expectedOutputs actualOutputs result
  if request.cases.isEmpty then return recomputeCanonicalVerdict result
  let response ← pipeline.runBatch fleet request
  applyJudgements request caseIndexes result response

/-! ### The whole execution -/

/-- The contestant batch as it ended, with the result drawn from its events. -/
structure ContestantBatch where
  request : ExecuteBatchV1Request
  expectedChecks : List GoString
  events : List (Option ExecuteBatchV1Event)
  result : CanonicalResult
  actualOutputs : List GoString

def runContestant (sha256 : Bytes → Bytes) (pipeline : BatchBundlePipeline) (input : CanonicalExecutionRequest)
    (artifact : Artifact) (contestant : SandboxFleet) : Except CanonicalError ContestantBatch := do
  let (request, expectedChecks) ← prepareBatch sha256 pipeline input artifact
  match ← pipeline.runBatch contestant request with
  | none => .error .batchResponseInvalid
  | some events => do
    let (result, actualOutputs) ← aggregateBatchResult sha256 artifact.manifest expectedChecks events
    rejectIf (result.status = .systemError) .sandboxSystemError
    return ⟨request, expectedChecks, events, result, actualOutputs⟩

/-- The checker is run unless the aggregated status is a compile error. -/
def judgeContestant (artifact : Artifact) (checker : SandboxFleet) (batch : ContestantBatch) :
    Except CanonicalError CanonicalResult :=
  if artifact.manifest.checker = .special ∧ batch.result.status ≠ .compileError then
    applySpecialJudge pipeline checker artifact batch.request batch.expectedChecks batch.actualOutputs batch.result
  else .ok batch.result

/-- `ExecuteCanonical`. The sandboxes may have changed between the two batches. -/
def executeCanonical (sha256 : Bytes → Bytes) (pipeline : BatchBundlePipeline) (input : CanonicalExecutionRequest)
    (artifact : Artifact) (contestant checker : SandboxFleet) : Except CanonicalError CanonicalResult := do
  let batch ← runContestant sha256 pipeline input artifact contestant
  let result ← judgeContestant pipeline artifact checker batch
  applyManifestScoring artifact.manifest result

end JudgingServer.Service
