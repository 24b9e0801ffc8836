import JudgingServer.Sandbox.Protocol
import JudgingServer.Service.Outputs

/-! Running one batch: the event stream of a sandbox is checked as a whole, and
endpoints that are unavailable are replaced by others. -/

namespace JudgingServer.Service
open Go Bundle Library Sandbox

inductive EventsError where
  | responseEmpty
  | compileEventMalformed
  | nilEvent (index : Nat)
  | continuedAfterVerdict
  | caseEventMalformed (index : Nat)
  | completionEventMalformed
  | completedEarly
  | unexpectedKind (kind : EventKind)
  | completionMissing
  | nilDereference
deriving DecidableEq, Repr

/-- `events[eventIndex-1].Result.Status`, where `previous` is the event before. -/
def previousStatus (previous : Option ExecuteBatchV1Event) : Except EventsError GoString :=
  match previous with
  | some ⟨_, _, some response⟩ => .ok response.status
  | _ => .error .nilDereference

variable (request : ExecuteBatchV1Request)

def checkContinued (caseIndex : Nat) (previous : Option ExecuteBatchV1Event) :
    Except EventsError Unit :=
  if request.stopOnFailure = true ∧ 0 < caseIndex then do
    let status ← previousStatus previous
    rejectIf (status ≠ lit "Accepted") .continuedAfterVerdict
  else .ok ()

def checkCaseEvent (eventIndex caseIndex : Nat) (event : ExecuteBatchV1Event) :
    Except EventsError Unit :=
  match request.cases[caseIndex]?, event.result with
  | some requestCase, some response =>
    rejectIf (event.caseID ≠ requestCase.caseID ∨ !isKnownContestantStatus response.status) (.caseEventMalformed eventIndex)
  | _, _ => .error (.caseEventMalformed eventIndex)

def checkCompleted (isLast : Bool) (caseIndex : Nat) (event : ExecuteBatchV1Event)
    (previous : Option ExecuteBatchV1Event) : Except EventsError Unit := do
  rejectIf (!isLast ∨ event.caseID ≠ [] ∨ event.result ≠ none ∨ caseIndex = 0) .completionEventMalformed
  let lastStatus ← previousStatus previous
  rejectIf (caseIndex ≠ request.cases.length ∧ (!request.stopOnFailure ∨ lastStatus = lit "Accepted")) .completedEarly

/-- The loop over the events, with the indexes of the next event and the next
case and the event before. -/
def scanEvents (request : ExecuteBatchV1Request) :
    List (Option ExecuteBatchV1Event) → Nat → Nat → Option ExecuteBatchV1Event → Except EventsError Unit
  | [], _, _, _ => .error .completionMissing
  | none :: _, eventIndex, _, _ => .error (.nilEvent eventIndex)
  | some event :: rest, eventIndex, caseIndex, previous =>
    match event.kind with
    | .caseResult => do
      checkContinued request caseIndex previous
      checkCaseEvent request eventIndex caseIndex event
      scanEvents request rest (eventIndex + 1) (caseIndex + 1) (some event)
    | .completed => checkCompleted request rest.isEmpty caseIndex event previous
    | kind => .error (.unexpectedKind kind)

def isCompileEvent (event : ExecuteBatchV1Event) : Bool := event.kind == .compileError

def checkCompileEvent (event : ExecuteBatchV1Event) : Except EventsError Unit :=
  match event.result with
  | none => .error .compileEventMalformed
  | some response =>
    rejectIf (event.caseID ≠ [] ∨ response.status ≠ lit "Compile Error") .compileEventMalformed

variable (events : List (Option ExecuteBatchV1Event))

def validateBatchEvents :
    Except EventsError Unit :=
  match events with
  | [] => .error .responseEmpty
  | [some event] => if isCompileEvent event then checkCompileEvent event else scanEvents request events 0 0 none
  | events => scanEvents request events 0 0 none

inductive StatusCode where
  | unavailable
  | resourceExhausted
  | other (code : Nat)
deriving DecidableEq, Repr

def StatusCode.retryable (code : StatusCode) : Bool := code == .unavailable || code == .resourceExhausted

inductive ExecuteFailure where
  | invalidBatchStream
  | status (code : StatusCode)
deriving DecidableEq, Repr

/-- The sandboxes as one batch meets them: what the selector and the client
answer at each attempt. -/
structure SandboxFleet where
  /-- The selector is a `SandboxExcludingSelector`. -/
  excludes : Bool
  selectSandbox : Nat → List GoString → Except GoString GoString
  executeBatch : Nat → GoString → ExecuteBatchV1Request → Except ExecuteFailure (List (Option ExecuteBatchV1Event))

inductive BatchError where
  | selectSandbox (reason : GoString)
  | executeBatch (code : StatusCode)
  | distinctEndpointsExhausted (attempts : Nat) (last : StatusCode)
  | attemptsExhausted (attempts : Int) (last : StatusCode)
  | panicked
deriving DecidableEq, Repr

def selectUntriedSandbox (fleet : SandboxFleet) (attempt : Nat) (attempted : List GoString) : Except GoString GoString :=
  if fleet.excludes then fleet.selectSandbox attempt attempted
  else do
    let address ← fleet.selectSandbox attempt []
    rejectIf (attempted.contains address) (lit "selector returned an already attempted sandbox endpoint")
    return address

/-- The answer of one attempt: the events, `none` for an invalid response, or an
error that ends the batch. -/
def acceptEvents :
    Except BatchError (Option (List (Option ExecuteBatchV1Event))) :=
  match validateBatchEvents request events with
  | .ok _ => .ok (some events)
  | .error .nilDereference => .error .panicked
  | .error _ => .ok none

def attemptBatch (maxInfraAttempts : Int) (fleet : SandboxFleet) (request : ExecuteBatchV1Request) :
    Nat → Nat → List GoString → Option StatusCode → Except BatchError (Option (List (Option ExecuteBatchV1Event)))
  | 0, _, _, some code => .error (.attemptsExhausted maxInfraAttempts code)
  | 0, _, _, none => .ok none
  | remaining + 1, attempt, attempted, lastRetryable =>
    match selectUntriedSandbox fleet attempt attempted, lastRetryable with
    | .error _, some code => .error (.distinctEndpointsExhausted attempted.length code)
    | .error reason, none => .error (.selectSandbox reason)
    | .ok address, _ =>
      let attempted := attempted.insert address
      match fleet.executeBatch attempt address request with
      | .error .invalidBatchStream => .ok none
      | .error (.status code) =>
        if code.retryable then attemptBatch maxInfraAttempts fleet request remaining (attempt + 1) attempted (some code)
        else .error (.executeBatch code)
      | .ok events => acceptEvents request events

/-- `executeBatch`; no events means that the response was invalid. -/
def executeBatch (maxInfraAttempts : Int) (fleet : SandboxFleet) (request : ExecuteBatchV1Request) :
    Except BatchError (Option (List (Option ExecuteBatchV1Event))) :=
  attemptBatch maxInfraAttempts fleet request maxInfraAttempts.toNat 0 [] none

end JudgingServer.Service
