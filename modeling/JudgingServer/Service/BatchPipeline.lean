import JudgingServer.Callback.Client
import JudgingServer.Service.BatchExecution

/-! Canonical execution of a submission on the cases of a bundle. The contestant
program runs as one batch; a special judge runs as a second one. -/

namespace JudgingServer.Service
open Go Bundle Library Sandbox

inductive CanonicalError where
  | requestRequired
  | manifestInvalid
  | tooManyCases
  | submissionTooLarge
  | caseUnreadable
  | unsupportedChecker
  | expectedChecksTooLarge
  | bundleTooLarge
  | batchResponseInvalid
  | sandboxSystemError
  | specialJudgeIncomplete
  | specialJudgeSourceUnavailable
  | specialJudgeInputTooLarge
  | specialJudgeBatchTooLarge
  | specialJudgeResponseInvalid
  | specialJudgeCompilationFailed
  | specialJudgeRunFailed
  | specialJudgeOutputInvalid
  | batch (error : BatchError)
  | panicked
deriving DecidableEq, Repr

/-- The failure is the tenant's special judge: `errors.Is(err, ErrTenantCheckerFailure)`. -/
def canonicalInfrastructureText : GoString := lit "canonical execution infrastructure failed: "

def tenantCheckerText : GoString := canonicalInfrastructureText ++ lit "tenant special judge failed: "

/-- The text of an error, for those the pipeline words itself. -/
def CanonicalError.text (error : CanonicalError) : Option GoString :=
  match error with
  | .requestRequired => some (lit "canonical execution request and test artifact are required")
  | .manifestInvalid => some (canonicalInfrastructureText ++ lit "bundle manifest became invalid")
  | .tooManyCases => some (canonicalInfrastructureText ++ lit "bundle exceeds sandbox batch case limit")
  | .submissionTooLarge => some (canonicalInfrastructureText ++ lit "submission exceeds sandbox batch byte limit")
  | .caseUnreadable => some (canonicalInfrastructureText ++ lit "bundle case could not be read")
  | .unsupportedChecker => some (canonicalInfrastructureText ++ lit "unsupported checker")
  | .expectedChecksTooLarge => some (canonicalInfrastructureText ++ lit "bundle exceeds local expected-check retention limit")
  | .bundleTooLarge => some (canonicalInfrastructureText ++ lit "bundle exceeds sandbox batch byte limit")
  | .batchResponseInvalid => some (canonicalInfrastructureText ++ lit "sandbox batch response was invalid")
  | .sandboxSystemError => some (canonicalInfrastructureText ++ lit "sandbox returned a system error")
  | .specialJudgeIncomplete => some (canonicalInfrastructureText ++ lit "special judge artifact is incomplete")
  | .specialJudgeSourceUnavailable => some (canonicalInfrastructureText ++ lit "special judge source is unavailable")
  | .specialJudgeResponseInvalid => some (canonicalInfrastructureText ++ lit "special judge sandbox response was invalid")
  | .specialJudgeInputTooLarge => some (tenantCheckerText ++ lit "special judge ABI input exceeds its limit")
  | .specialJudgeBatchTooLarge => some (tenantCheckerText ++ lit "special judge batch exceeds sandbox byte limit")
  | .specialJudgeCompilationFailed => some (tenantCheckerText ++ lit "special judge compilation failed")
  | .specialJudgeRunFailed => some (tenantCheckerText ++ lit "special judge did not execute successfully")
  | .specialJudgeOutputInvalid => some (tenantCheckerText ++ lit "special judge output was invalid")
  | .batch _ | .panicked => none

def maxSandboxBatchCasesV1 : Nat := 256

def maxSandboxBatchRequestBytesV1 : Int := 64 * 1048576

structure BatchBundlePipeline where
  maxInfraAttempts : Int
  maxRequestBytes : Int
  maxExpectedCheckBytes : Int
deriving DecidableEq, Repr

def newBatchBundlePipeline (maxInfraAttempts : Int) : BatchBundlePipeline :=
  ⟨if maxInfraAttempts ≤ 0 then 3 else maxInfraAttempts, maxSandboxBatchRequestBytesV1, maxSandboxBatchRequestBytesV1⟩

def BatchBundlePipeline.maxBatchRequestBytes (pipeline : BatchBundlePipeline) : Int :=
  if 0 < pipeline.maxRequestBytes then pipeline.maxRequestBytes else maxSandboxBatchRequestBytesV1

def BatchBundlePipeline.maxRetainedCheckBytes (pipeline : BatchBundlePipeline) : Int :=
  if 0 < pipeline.maxExpectedCheckBytes then pipeline.maxExpectedCheckBytes else maxSandboxBatchRequestBytesV1

structure CanonicalExecutionRequest where
  language : GoString
  sourceCode : GoString
  stopOnFailure : Bool
deriving DecidableEq, Repr

/-- A verified bundle: a failed read is `none`, and a bundle that is no
`SpecialJudgeArtifact` has no special judge at all. -/
structure Artifact where
  manifest : Manifest
  readCase : Case → Option (GoString × GoString)
  readSpecialJudge : Option (Option GoString)

structure CanonicalCaseResult where
  caseID : GoString
  status : Callback.Status
  timeUsedMillis : Int
  memoryUsedKB : Int
  score : Option Int
  maxScore : Option Int
deriving DecidableEq, Repr

structure CanonicalResult where
  status : Callback.Status
  exitCode : Int
  timeUsedMillis : Int
  memoryUsedKB : Int
  stderr : GoString
  compileError : GoString
  score : Option Int
  totalScore : Option Int
  cases : List CanonicalCaseResult
deriving DecidableEq, Repr

/-- The callback form of a result; the caller adds the identity of the submission. -/
def callbackResult (result : CanonicalResult) : Callback.Result :=
  { resultID := []
    submissionID := 0
    attemptNo := 0
    status := result.status
    exitCode := result.exitCode
    timeUsedMillis := result.timeUsedMillis
    memoryUsedKB := result.memoryUsedKB
    score := result.score
    totalScore := result.totalScore
    stdout := []
    stderr := result.stderr
    compileError := result.compileError }

/-! ### The contestant batch -/

/-- What the sandbox and the judging server keep of an expected output: the text
sent to the sandbox, the token digest sent to it and the local check. -/
structure ExpectedOutput where
  forSandbox : GoString
  tokenSHA256 : GoString
  check : GoString
deriving DecidableEq, Repr

variable (sha256 : Bytes → Bytes)

def expectedOutput (checker : Checker) (expected : GoString) : Except CanonicalError ExpectedOutput :=
  match checker with
  | .exact => .ok ⟨expected, [], expected⟩
  | .token => .ok ⟨[], tokenOutputSHA256 sha256 expected, tokenOutputSHA256 sha256 expected⟩
  -- the expected output stays in memory until the checker is run
  | .special => .ok ⟨[], [], expected⟩
  | .other _ => .error .unsupportedChecker

def executeBatchCasesFieldNumber : Nat := 6

def batchCaseWireBytes (requestCase : ExecuteBatchV1Case) : Nat :=
  let caseBytes := requestCase.size
  sizeTag executeBatchCasesFieldNumber + sizeVarint caseBytes + caseBytes

structure BatchDraft where
  cases : List ExecuteBatchV1Case
  expectedChecks : List GoString
  retainedExpectedCheckBytes : Int
  requestBytes : Int
deriving DecidableEq, Repr

def appendCase (pipeline : BatchBundlePipeline) (artifact : Artifact) (draft : BatchDraft)
    (testCase : Case) : Except CanonicalError BatchDraft :=
  match artifact.readCase testCase with
  | none => .error .caseUnreadable
  | some (input, expected) => do
    let kept ← expectedOutput sha256 artifact.manifest.checker expected
    let retained := draft.retainedExpectedCheckBytes + kept.check.length
    rejectIf (pipeline.maxRetainedCheckBytes < retained) .expectedChecksTooLarge
    let requestCase : ExecuteBatchV1Case :=
      ⟨testCase.id, input, kept.forSandbox, artifact.manifest.checker == .exact, kept.tokenSHA256⟩
    let requestBytes := draft.requestBytes + batchCaseWireBytes requestCase
    rejectIf (pipeline.maxBatchRequestBytes < requestBytes) .bundleTooLarge
    return ⟨draft.cases ++ [requestCase], draft.expectedChecks ++ [kept.check], retained, requestBytes⟩

def appendCases (sha256 : Bytes → Bytes) (pipeline : BatchBundlePipeline) (artifact : Artifact) :
    List Case → BatchDraft → Except CanonicalError BatchDraft
  | [], draft => .ok draft
  | testCase :: rest, draft => do
    let draft ← appendCase sha256 pipeline artifact draft testCase
    appendCases sha256 pipeline artifact rest draft

/-- The first half of `ExecuteCanonical`: the request for the contestant batch
and the local checks of the expected outputs. -/
def prepareBatch (pipeline : BatchBundlePipeline) (input : CanonicalExecutionRequest)
    (artifact : Artifact) : Except CanonicalError (ExecuteBatchV1Request × List GoString) := do
  rejectIf ((trimSpace input.language).isEmpty ∨ input.sourceCode.isEmpty) .requestRequired
  let manifest := artifact.manifest
  manifest.validate.mapError fun _ => .manifestInvalid
  rejectIf (maxSandboxBatchCasesV1 < manifest.cases.length) .tooManyCases
  let request : ExecuteBatchV1Request :=
    { language := input.language
      sourceCode := input.sourceCode
      timeout := timeoutSeconds manifest.limits.timeLimitMillis
      memoryLimit := boundedInt32 manifest.limits.memoryLimitMiB
      stopOnFailure := input.stopOnFailure && manifest.judgeMode == .acm && manifest.checker != .special
      cases := [] }
  rejectIf (pipeline.maxBatchRequestBytes < request.size) .submissionTooLarge
  let draft ← appendCases sha256 pipeline artifact manifest.cases ⟨[], [], 0, request.size⟩
  return ({ request with cases := draft.cases }, draft.expectedChecks)

def BatchBundlePipeline.runBatch (pipeline : BatchBundlePipeline) (fleet : SandboxFleet) (request : ExecuteBatchV1Request) :
    Except CanonicalError (Option (List (Option ExecuteBatchV1Event))) :=
  (executeBatch pipeline.maxInfraAttempts fleet request).mapError .batch

/-! ### The verdict of a batch -/

def dereference {α : Type} (pointer : Option α) : Except CanonicalError α :=
  match pointer with
  | some value => .ok value
  | none => .error .panicked

structure Aggregation where
  result : CanonicalResult
  actualOutputs : List GoString
  summaries : List GoString
deriving DecidableEq, Repr

def maxTimeUsedMillis : Int := 86400000

def maxMemoryUsedKB : Int := 2147483647

def maxStderrUnits : Int := 65536

def compilationFailedText : GoString := lit "compilation failed; diagnostics redacted"

def caseStatus (checker : Checker) (expectedChecks : List GoString) (index : Nat)
    (response : ExecuteResponse) : Except CanonicalError Callback.Status :=
  if response.status = lit "Accepted" ∧ checker ≠ .special then do
    let expectedCheck ← dereference expectedChecks[index]?
    return if outputMatchesExpectedCheck sha256 checker response.stdout expectedCheck then mapBundleStatus response.status
      else .wrongAnswer
  else .ok (mapBundleStatus response.status)

def caseSummary (caseID sandboxStatus : GoString) (status : Callback.Status) : GoString :=
  lit "case=" ++ caseID ++ lit " sandboxStatus=" ++ sandboxStatus ++ lit " status=" ++ status.text

def Aggregation.append (state : Aggregation) (caseID : GoString) (response : ExecuteResponse) (status : Callback.Status) :
    Aggregation :=
  let result := state.result
  let time := boundedMetric response.timeUsed maxTimeUsedMillis
  let memory := boundedMetric response.memoryUsed maxMemoryUsedKB
  let fails := result.status = .accepted ∧ status ≠ .accepted
  let summaries := state.summaries ++ [caseSummary caseID response.status status]
  { result :=
      { result with
        status := if fails then status else result.status
        exitCode := if fails then response.exitCode else result.exitCode
        timeUsedMillis := max result.timeUsedMillis time
        memoryUsedKB := max result.memoryUsedKB memory
        stderr := Callback.truncateUTF16 (join (lit ";") summaries) maxStderrUnits
        compileError := if status = .compileError then compilationFailedText else result.compileError
        cases := result.cases ++ [⟨caseID, status, time, memory, none, none⟩] }
    actualOutputs := state.actualOutputs ++ [response.stdout]
    summaries := summaries }

def aggregateCase (checker : Checker) (expectedChecks : List GoString) (index : Nat)
    (state : Aggregation) (event : Option ExecuteBatchV1Event) : Except CanonicalError Aggregation := do
  let event ← dereference event
  let response ← dereference event.result
  let status ← caseStatus sha256 checker expectedChecks index response
  return state.append event.caseID response status

def aggregateCases (sha256 : Bytes → Bytes) (checker : Checker) (expectedChecks : List GoString) :
    Nat → List (Option ExecuteBatchV1Event) → Aggregation → Except CanonicalError Aggregation
  | _, [], state => .ok state
  | index, event :: rest, state => do
    let state ← aggregateCase sha256 checker expectedChecks index state event
    aggregateCases sha256 checker expectedChecks (index + 1) rest state

def acceptedResult : CanonicalResult := ⟨.accepted, 0, 0, 0, [], [], none, none, []⟩

def compileErrorResult : CanonicalResult :=
  { acceptedResult with
    status := .compileError
    compileError := compilationFailedText
    stderr := lit "compilation failed" }

def aggregateBatchResult (manifest : Manifest) (expectedChecks : List GoString)
    (events : List (Option ExecuteBatchV1Event)) : Except CanonicalError (CanonicalResult × List GoString) := do
  let first ← dereference (events.head?.join)
  if first.kind = .compileError then return (compileErrorResult, [])
  let state ← aggregateCases sha256 manifest.checker expectedChecks 0 events.dropLast ⟨acceptedResult, [], []⟩
  let result := state.result
  return ({ result with exitCode := if result.status = .accepted then 0 else result.exitCode }, state.actualOutputs)

/-! ### Scoring -/

/-- The loop of `applyManifestScoring`, with the score so far. -/
def scoreCases : List CanonicalCaseResult → List Case → Int → Except CanonicalError (List CanonicalCaseResult × Int)
  | [], _, score => .ok ([], score)
  | _ :: _, [], _ => .error .panicked
  | item :: rest, testCase :: cases, score => do
    let caseScore := if item.status = .accepted then testCase.weight else 0
    let (scored, score) ← scoreCases rest cases (score + caseScore)
    return ({ item with score := some caseScore, maxScore := some testCase.weight } :: scored, score)

def applyManifestScoring (manifest : Manifest) (result : CanonicalResult) : Except CanonicalError CanonicalResult :=
  match manifest.judgeMode, manifest.totalScore with
  | .oi, some total => do
    let (cases, score) ← scoreCases result.cases manifest.cases 0
    let scored := { result with cases := cases, score := some score, totalScore := some total }
    return if result.status = .compileError then scored
      else if score = total then { scored with status := .accepted, exitCode := 0 }
      else { scored with status := .wrongAnswer }
  | _, _ => .ok result

end JudgingServer.Service
