import JudgingServer.External.JobStore

/-! The calls of the job API: `Submit` with its coordination, its object and its
compensation, and `Cancel`, `Get` and `List`. -/

namespace JudgingServer.External
open Go Library

/-- What a submission is called with: its arguments, what it draws, how often it gets to poll
before its contexts end, and the deadline of its context. -/
structure SubmitCall where
  tenantExternalID : GoString
  idempotencyKey : GoString
  request : JudgeJobRequest
  draws : SubmissionDraws
  assigned : AssignedIDs
  coordinationPolls : Nat
  sourcePolls : Nat
  deadline : Instant
deriving DecidableEq, Repr

def submissionCompensationAllowance : Duration := minute

def sourceReservationAdmissionLease : Duration := 25 * minute

/-- The lease outlasts the context of the submission. -/
def submissionCoordinationLease (deadline now : Instant) : Duration := max (deadline - now) 0 + submissionCompensationAllowance

variable (submission : Submission) (repository : JobRepository)

namespace MySQLJobRepository

def findSubmitReplay : JobProcess (Except RepositoryError (Option SubmitJobResult)) := do
  match ← (JobCall.findReplayRecord submission).ask with
  | .error error => return .error (.unavailable "read submit replay" error)
  | .ok none => return .ok none
  | .ok (some record) =>
    if record.requestHash ≠ submission.requestHash then return .error .externalJobConflict
    else
      match ← (JobCall.getExternalJob submission.tenantExternalID record.resourceExternalID).ask with
      | .error error => return .error (.unavailable "read replayed job" error)
      | .ok job => return .ok (some ⟨job, true⟩)

def preflightReferences (tenantID : Nat) : JobProcess (Except RepositoryError Unit) := do
  match ← (JobCall.bundleExists tenantID submission.request.bundleID).ask with
  | .error error => return .error (.unavailable "preflight tenant bundle" error)
  | .ok false => return .error (.annotated .externalJobInvalid "bundle is unavailable")
  | .ok true =>
    if submission.request.callbackID = [] then return .ok ()
    else
      match ← (JobCall.callbackExists tenantID submission.request.callbackID).ask with
      | .error error => return .error (.unavailable "preflight tenant callback" error)
      | .ok false => return .error (.annotated .externalJobInvalid "callback is unavailable")
      | .ok true => return .ok ()

def preflightSubmit : JobProcess (Except RepositoryError Unit) := do
  match ← (JobCall.preflightTenant submission.tenantExternalID).ask with
  | .error error => return .error (.unavailable "preflight tenant policy" error)
  | .ok (tenantID, encodedPolicy) =>
    match decodeTenantPolicy encodedPolicy with
    | none => return .error .externalJobUnavailable
    | some policy =>
      if policy.maxSourceBytes < submission.request.sourceCode.length then
        return .error (.annotated .externalJobInvalid "source code exceeds current tenant policy")
      else
        match ← (JobCall.countQueuedJobs tenantID).ask with
        | .error error => return .error (.unavailable "preflight queued quota" error)
        | .ok queued =>
          if policy.maxQueuedJobs ≤ queued then return .error .queuedQuotaExceeded
          else preflightReferences submission tenantID

def tryAcquireSourceReservation (claim : SourceReservationClaim) (lease : Duration) : JobProcess (Except RepositoryError Bool) := do
  match ← (JobCall.insertReservation claim.objectKey claim.ownerToken lease).ask with
  | .error error => return .error error
  | .ok true => return .ok true
  | .ok false => (JobCall.takeOverReservation claim.objectKey claim.ownerToken lease).ask

/-- What a wait returns once its context has ended. -/
def contextEnded (operation : String) : RepositoryError := .unavailable operation (.detail "context deadline exceeded")

/-- One round of the coordination: a replay, the reservation, or another wait. -/
def pollCoordination (deadline : Instant)
    (wait : JobProcess (Except RepositoryError (Option SubmitJobResult))) :
    JobProcess (Except RepositoryError (Option SubmitJobResult)) := do
  match ← findSubmitReplay submission with
  | .error error => return .error error
  | .ok (some replay) => return .ok (some replay)
  | .ok none =>
    let now ← JobCall.now.ask
    match ← tryAcquireSourceReservation submission.coordination (submissionCoordinationLease deadline now) with
    | .ok true => return .ok none
    | .ok false => wait
    | .error error =>
      if isTransientDatabaseError error then wait else return .error (.unavailable "reserve idempotent submission" error)

/-- `acquireSubmissionCoordination`: a job to replay, or nothing once the reservation is held. -/
def acquireSubmissionCoordination (submission : Submission) (deadline : Instant) :
    Nat → JobProcess (Except RepositoryError (Option SubmitJobResult))
  | 0 => pollCoordination submission deadline (return .error (contextEnded "wait for concurrent idempotent submission"))
  | polls + 1 => pollCoordination submission deadline (acquireSubmissionCoordination submission deadline polls)

def pollSourceReservation (wait : String → JobProcess (Except RepositoryError Unit)) :
    JobProcess (Except RepositoryError Unit) := do
  match ← tryAcquireSourceReservation submission.sourceReservation sourceReservationAdmissionLease with
  | .ok true => return .ok ()
  | .ok false => wait "wait for source reservation"
  | .error error =>
    if isTransientDatabaseError error then wait "wait after source reservation contention"
    else return .error (.unavailable "reserve encrypted source object" error)

def acquireSourceReservation (submission : Submission) : Nat → JobProcess (Except RepositoryError Unit)
  | 0 => pollSourceReservation submission fun operation => return .error (contextEnded operation)
  | polls + 1 => pollSourceReservation submission fun _ => acquireSourceReservation submission polls

/-- `releaseAllReservations`, which leaves them to the sweeper once the context has ended. -/
def releaseAllReservations (claims : List SourceReservationClaim) : JobProcess Unit := do
  if ← JobCall.contextDone.ask then return ()
  else
    let _ ← (JobCall.deleteReservations claims).ask
    return ()

/-- The submission's transaction, and what follows where it did not commit. -/
def publishSubmission (assigned : AssignedIDs) : JobProcess (Except RepositoryError SubmitJobResult) := do
  match ← (JobCall.submitTransaction submission assigned).ask with
  | .ok result => return .ok result
  | .error abort =>
    let outcome : Except RepositoryError SubmitJobResult := match abort with
      | .failed error => .error error
      | .replayed result => .ok result
    if abort.outcomeUnknown then return outcome
    else
      match ← (JobCall.deleteObject submission.sourceKey).ask with
      | .error _ => return .error (.annotated .externalJobUnavailable "source compensation failed")
      | .ok () =>
        releaseAllReservations [submission.sourceReservation, submission.coordination]
        return outcome

def storeSubmission (assigned : AssignedIDs) : JobProcess (Except RepositoryError SubmitJobResult) := do
  match ← (JobCall.createObject submission.sourceKey submission.encrypted.ciphertext).ask with
  | .error .objectExists =>
    match ← findSubmitReplay submission with
    | .ok (some replay) =>
      releaseAllReservations [submission.sourceReservation, submission.coordination]
      return .ok replay
    | _ => return .error (.annotated .externalJobUnavailable "persist encrypted source")
  | .error (.failed _) => return .error (.annotated .externalJobUnavailable "persist encrypted source")
  | .ok () =>
    match ← JobCall.beginSubmit.ask with
    | .ok () => publishSubmission submission assigned
    | .error error =>
      match ← (JobCall.deleteObject submission.sourceKey).ask with
      | .error _ => return .error (.unavailable "begin submit transaction" error)
      | .ok () =>
        releaseAllReservations [submission.sourceReservation, submission.coordination]
        return .error (.unavailable "begin submit transaction" error)

/-- The submission once its coordination is held: a predecessor may have committed since the lookup. -/
def submitCoordinated (assigned : AssignedIDs) (sourcePolls : Nat) :
    JobProcess (Except RepositoryError SubmitJobResult) := do
  match ← findSubmitReplay submission with
  | .error error =>
    releaseAllReservations [submission.coordination]
    return .error error
  | .ok (some replay) =>
    releaseAllReservations [submission.coordination]
    return .ok replay
  | .ok none =>
    match ← (JobCall.admission submission).ask with
    | .error error =>
      releaseAllReservations [submission.coordination]
      return .error error
    | .ok () =>
      match ← acquireSourceReservation submission sourcePolls with
      | .error error =>
        releaseAllReservations [submission.coordination]
        return .error error
      | .ok () => storeSubmission submission assigned

def submitPrepared (call : SubmitCall) : JobProcess (Except RepositoryError SubmitJobResult) := do
  match ← findSubmitReplay submission with
  | .error error => return .error error
  | .ok (some replay) => return .ok replay
  | .ok none =>
    match ← preflightSubmit submission with
    | .error error => return .error error
    | .ok () =>
      match ← acquireSubmissionCoordination submission call.deadline call.coordinationPolls with
      | .error error => return .error error
      | .ok (some replay) => return .ok replay
      | .ok none => submitCoordinated submission call.assigned call.sourcePolls

def prepare (call : SubmitCall) : Except RepositoryError Submission :=
  prepareSubmission repository call.draws call.tenantExternalID call.idempotencyKey call.request

def submit (call : SubmitCall) : JobProcess (Except RepositoryError SubmitJobResult) :=
  match prepare repository call with
  | .error error => return .error error
  | .ok submission => submitPrepared submission call

def get (tenantExternalID jobExternalID : GoString) : JobProcess (Except RepositoryError ExternalJobRecord) := do
  if !matchesExternalID tenantExternalID ∨ !matchesExternalID jobExternalID then return .error .externalJobNotFound
  else return readJob (← (JobCall.getExternalJob tenantExternalID jobExternalID).ask)

def list (codec : JobCursorCodec) (tenantExternalID : GoString) (options : JobListOptions) :
    JobProcess (Except RepositoryError JobListResult) := do
  match listQuery codec tenantExternalID options with
  | .error error => return .error error
  | .ok query =>
    match ← (JobCall.selectJobs query).ask with
    | .error error => return .error (.unavailable "list jobs" error)
    | .ok rows => return readJobs codec query rows

def cancel (eventEntropy : List Bytes) (tenantExternalID jobExternalID : GoString) : JobProcess (Except RepositoryError ExternalJobRecord) :=
  (JobCall.cancel eventEntropy tenantExternalID jobExternalID).ask

end MySQLJobRepository

inductive JobRequest where
  | submit (call : SubmitCall)
  | cancel (eventEntropy : List Bytes) (tenantExternalID jobExternalID : GoString)
  | get (tenantExternalID jobExternalID : GoString)
  | list (tenantExternalID : GoString) (options : JobListOptions)

def JobRequest.tenantExternalID : JobRequest → GoString
  | .submit call => call.tenantExternalID
  | .cancel _ tenantExternalID _ => tenantExternalID
  | .get tenantExternalID _ => tenantExternalID
  | .list tenantExternalID _ => tenantExternalID

inductive JobResponse where
  | submitted (outcome : Except RepositoryError SubmitJobResult)
  | job (outcome : Except RepositoryError ExternalJobRecord)
  | page (outcome : Except RepositoryError JobListResult)

def JobRequest.process (codec : JobCursorCodec) : JobRequest → JobProcess JobResponse
  | .submit call => do return .submitted (← MySQLJobRepository.submit repository call)
  | .cancel eventEntropy tenantExternalID jobExternalID => do
    return .job (← MySQLJobRepository.cancel eventEntropy tenantExternalID jobExternalID)
  | .get tenantExternalID jobExternalID => do return .job (← MySQLJobRepository.get tenantExternalID jobExternalID)
  | .list tenantExternalID options => do return .page (← MySQLJobRepository.list codec tenantExternalID options)

end JudgingServer.External
