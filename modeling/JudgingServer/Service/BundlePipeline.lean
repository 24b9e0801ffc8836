import JudgingServer.Service.SpecialJudge

/-! Execution of a submission on a bundle, as the judging service asks for it: case by case
with one call to a sandbox each, or as one batch. -/

namespace JudgingServer.Service
open Go Bundle Library Sandbox

/-- What the pipelines read of `model.Task`. -/
structure Task where
  language : GoString
  code : GoString
deriving DecidableEq, Repr

structure ExecutionConfig where
  timeLimitMillis : Int
  memoryLimitMB : Int
  judgeMode : JudgeMode
  checker : Checker
  checkerPinned : Bool
  totalScore : Int
  specialJudge : Bool
  specialJudgeLanguage : GoString
  specialJudgeSource : GoString
deriving DecidableEq, Repr

def bareResult (status : Callback.Status) (stderr : GoString) : Callback.Result :=
  ⟨[], 0, 0, status, 0, 0, 0, none, none, [], stderr, []⟩

def systemErrorResult (summary : GoString) : Callback.Result :=
  bareResult .systemError (Callback.truncateUTF16 summary maxStderrUnits)

/-! ### Case by case -/

structure ExecuteRequest where
  language : GoString
  sourceCode : GoString
  stdin : GoString
  timeout : Int
  memoryLimit : Int
  expectedOutput : GoString
deriving DecidableEq, Repr

/-- The sandboxes as the calls of one submission meet them: what the selector and the
client answer at each call. -/
structure CaseFleet where
  selectSandbox : Nat → Except GoString GoString
  execute : Nat → GoString → ExecuteRequest → Except StatusCode (Option ExecuteResponse)

inductive BundleError where
  | requestRequired
  | selectSandbox (reason : GoString)
  | executeCase (code : StatusCode)
  | attemptsExhausted (attempts : Int) (last : StatusCode)
deriving DecidableEq, Repr

structure BundlePipeline where
  maxInfraAttempts : Int
deriving DecidableEq, Repr

def newBundlePipeline (maxInfraAttempts : Int) : BundlePipeline := ⟨if maxInfraAttempts ≤ 0 then 3 else maxInfraAttempts⟩

/-- The loop of `executeCase`; no response means that the attempts are used up. With the
response comes the number of the next call. -/
def attemptCase (pipeline : BundlePipeline) (fleet : CaseFleet) (request : ExecuteRequest) :
    Nat → Nat → Option StatusCode → Bool → Except BundleError (Option ExecuteResponse × Nat)
  | 0, _, some code, false => .error (.attemptsExhausted pipeline.maxInfraAttempts code)
  | 0, call, _, _ => .ok (none, call)
  | remaining + 1, call, lastRetryableError, receivedInvalidResponse =>
    match fleet.selectSandbox call with
    | .error reason => .error (.selectSandbox reason)
    | .ok address =>
      match fleet.execute call address request with
      | .error code =>
        if code.retryable then attemptCase pipeline fleet request remaining (call + 1) (some code) receivedInvalidResponse
        else .error (.executeCase code)
      | .ok none => attemptCase pipeline fleet request remaining (call + 1) lastRetryableError true
      | .ok (some response) =>
        if isKnownContestantStatus response.status then .ok (some response, call + 1)
        else attemptCase pipeline fleet request remaining (call + 1) lastRetryableError true

def caseRequest (submission : Task) (config : ExecutionConfig) (checker : Checker) (input expected : GoString) : ExecuteRequest :=
  ⟨submission.language, submission.code, input, timeoutSeconds config.timeLimitMillis, boundedInt32 config.memoryLimitMB,
    if checker = .exact then expected else []⟩

def executeCase (pipeline : BundlePipeline) (fleet : CaseFleet) (submission : Task) (config : ExecutionConfig)
    (checker : Checker) (input expected : GoString) (call : Nat) : Except BundleError (Option ExecuteResponse × Nat) :=
  attemptCase pipeline fleet (caseRequest submission config checker input expected) pipeline.maxInfraAttempts.toNat call none false

structure CaseProgress where
  result : Callback.Result
  summaries : List GoString
deriving DecidableEq, Repr

def CaseProgress.summarise (progress : CaseProgress) (summary : GoString) : CaseProgress :=
  let summaries := progress.summaries ++ [summary]
  ⟨{ progress.result with stderr := Callback.truncateUTF16 (join (lit ";") summaries) maxStderrUnits }, summaries⟩

def CaseProgress.append (progress : CaseProgress) (caseID : GoString) (response : ExecuteResponse) (status : Callback.Status) :
    CaseProgress :=
  let result := progress.result
  let counted : Callback.Result :=
    { result with
      status := status
      exitCode := response.exitCode
      timeUsedMillis := max result.timeUsedMillis (boundedMetric response.timeUsed maxTimeUsedMillis)
      memoryUsedKB := max result.memoryUsedKB (boundedMetric response.memoryUsed maxMemoryUsedKB)
      compileError := if status = .compileError then compilationFailedText else result.compileError }
  CaseProgress.summarise ⟨counted, progress.summaries⟩ (caseSummary caseID response.status status)

def comparedStatus (checker : Checker) (expected : GoString) (response : ExecuteResponse) : Callback.Status :=
  if response.status = lit "Accepted" ∧ !outputsMatch checker response.stdout expected then .wrongAnswer
  else mapBundleStatus response.status

def executeCases (pipeline : BundlePipeline) (fleet : CaseFleet) (submission : Task) (config : ExecutionConfig)
    (artifact : Artifact) : List Case → Nat → CaseProgress → Except BundleError Callback.Result
  | [], _, progress => .ok { progress.result with exitCode := 0 }
  | testCase :: rest, call, progress =>
    match artifact.readCase testCase with
    | none => .ok (systemErrorResult (lit "bundle case could not be read"))
    | some (input, expected) => do
      match ← executeCase pipeline fleet submission config artifact.manifest.checker input expected call with
      | (none, _) =>
        let ended := progress.summarise (lit "case=" ++ testCase.id ++ lit " status=SYSTEM_ERROR")
        return { ended.result with status := .systemError }
      | (some response, call) =>
        let status := comparedStatus artifact.manifest.checker expected response
        let progress := progress.append testCase.id response status
        if status ≠ .accepted then return progress.result
        executeCases pipeline fleet submission config artifact rest call progress

/-- `BundlePipeline.ExecuteArtifact`. -/
def BundlePipeline.executeArtifact (pipeline : BundlePipeline) (fleet : CaseFleet) (submission : Task) (config : ExecutionConfig)
    (artifact : Artifact) : Except BundleError Callback.Result := do
  rejectIf (config.timeLimitMillis ≤ 0 ∨ config.memoryLimitMB ≤ 0) .requestRequired
  match artifact.manifest.validate with
  | .error _ => return systemErrorResult (lit "bundle manifest became invalid")
  | .ok _ =>
    executeCases pipeline fleet submission config artifact artifact.manifest.cases 0 ⟨bareResult .accepted [], []⟩

/-! ### As one batch -/

/-- The immutable configuration of the problem against the manifest of its bundle. -/
def configDisagrees (config : ExecutionConfig) (artifact : Artifact) : Option GoString :=
  let manifest := artifact.manifest
  if config.timeLimitMillis ≤ 0 ∨ config.memoryLimitMB ≤ 0 then some (lit "immutable execution limits must be positive")
  else if manifest.limits.timeLimitMillis ≠ config.timeLimitMillis ∨ manifest.limits.memoryLimitMiB ≠ config.memoryLimitMB then
    some (lit "immutable execution limits disagree with test bundle manifest")
  else if config.judgeMode ≠ manifest.judgeMode then some (lit "immutable judge mode disagrees with test bundle manifest")
  else if config.checkerPinned ∧ config.checker ≠ manifest.checker then
    some (lit "immutable checker disagrees with test bundle manifest")
  else if manifest.judgeMode = .oi ∧ manifest.totalScore ≠ some config.totalScore then
    some (lit "immutable total score disagrees with test bundle manifest")
  else if manifest.checker = .special then
    match artifact.readSpecialJudge, manifest.specialJudge with
    | some source, some judge =>
      if !config.specialJudge ∨ config.specialJudgeLanguage ≠ judge.language then
        some (lit "immutable special judge metadata disagrees with test bundle manifest")
      else if source ≠ some config.specialJudgeSource then
        some (lit "immutable special judge source disagrees with test bundle manifest")
      else none
    | _, _ => some (lit "immutable special judge metadata disagrees with test bundle manifest")
  else if config.specialJudge then some (lit "immutable special judge config requires a special checker bundle")
  else none

def canonicalInput (submission : Task) : CanonicalExecutionRequest := ⟨submission.language, submission.code, true⟩

/-- `BatchBundlePipeline.ExecuteArtifact`. -/
def BatchBundlePipeline.executeArtifact (sha256 : Bytes → Bytes) (pipeline : BatchBundlePipeline)
    (contestant checker : SandboxFleet) (submission : Task) (config : ExecutionConfig) (artifact : Artifact) :
    Except CanonicalError Callback.Result :=
  match configDisagrees config artifact with
  | some summary => .ok (systemErrorResult summary)
  | none => (executeCanonical sha256 pipeline (canonicalInput submission) artifact contestant checker).map callbackResult

end JudgingServer.Service
