import JudgingServer.External.JobWorker

/-! What happens to a claimed job: heartbeats, completion, infrastructure failures
and cancellation. -/

namespace JudgingServer.External
open Go Library Transaction

variable (claim : WorkerJobClaim)

def heartbeat (leaseDuration : Duration) : Tx Unit := do
  ensure (validWorkerClaim claim ∧ validLeaseDuration leaseDuration) .staleJobClaim
  let now ← query Db.now
  let leaseUntil := now.add leaseDuration
  let affected ← updateJobs (fun job => job.heldBy claim now) (fun job => { job with leaseUntil := some leaseUntil })
  ensure (affected = 1) .staleJobClaim
  let affected ← updateAttempts (fun attempt => attempt.jobID = claim.job.internalID ∧
      attempt.attemptNo = claim.attemptNo ∧ attempt.workerID = claim.workerID ∧
      attempt.leaseToken = some claim.leaseToken ∧ attempt.status = .running)
    (fun attempt => { attempt with leaseUntil })
  ensure (affected = 1) .staleJobClaim

/-- Locks the tenant, then the claimed job. Answers whether the job's cancellation
was requested, and the tenant's policy. -/
def lockActiveClaimAndPolicy (now : Time) : Tx (Bool × Json) := do
  let owner ← require (fun db => db.jobs.find? fun job => job.id = claim.job.internalID) .staleJobClaim
  let tenant ← require (fun db => db.tenants.find? fun tenant => tenant.id = owner.tenantID)
    (.unavailable "lock active claim tenant" .noRows)
  let job ← require (fun db => db.jobs.find? fun job => job.tenantID = owner.tenantID ∧ job.heldBy claim now) .staleJobClaim
  return (job.cancelRequestedAt.isSome, tenant.policyJSON)

def claimCancelled : Tx Bool := do
  ensure (validWorkerClaim claim) .staleJobClaim
  let job ← require (fun db => db.jobs.find? fun job => job.heldBy claim db.now) .staleJobClaim
  return job.cancelRequestedAt.isSome

/-- The row a claim was made for, as the last update of a settlement finds it. -/
def JobRow.claimedBy (job : JobRow) : Bool :=
  job.id = claim.job.internalID ∧ job.status = .running ∧ job.attemptNo = claim.attemptNo ∧
    job.workerID = some claim.workerID ∧ job.leaseToken = some claim.leaseToken

def completedJob (cancelled : Bool) (result : DurableJobResult) (now : Time) (job : JobRow) : JobRow :=
  { job.releaseLease with
    status := if cancelled then .cancelled else .succeeded
    result := if cancelled then none else some result.stored
    failureCode := none
    completedAt := some now }

variable (repository : JobRepository)

def complete (eventEntropy : List Bytes) (claim : WorkerJobClaim) (result : DurableJobResult) :
    Tx Unit := do
  ensure (validWorkerClaim claim ∧ validateDurableJobResult result) .invalidJobState
  let now ← query Db.now
  let (cancelled, _) ← lockActiveClaimAndPolicy claim now
  let affected ← updateJobs (fun job => job.claimedBy claim) (completedJob cancelled result now)
  ensure (affected = 1) .staleJobClaim
  -- A valid case list is trusted accounting evidence even when the job was cancelled.
  let chargeFullReservation : Bool := result.cases.length = 0 ∧ (cancelled ∨ result.compileStatus = lit "FAILED")
  let consumedMillis ← settleAttemptReservation claim now result.cases chargeFullReservation
  finishAttempt claim (if cancelled then .cancelled else .succeeded) [] consumedMillis now
  publishTerminal repository eventEntropy now claim.job.internalID "read completed job"

structure InfrastructureFailure where
  code : GoString
  retryDelay : Duration
  chargeFullReservation : Bool
  permanent : Bool
deriving DecidableEq, Repr

inductive FailureDisposition where
  | requeued
  | terminal
  | cancelled
deriving DecidableEq, Repr

def failureDisposition (cancelled : Bool) (failure : InfrastructureFailure) (attemptNo : Nat) (policy : TenantPolicy) :
    FailureDisposition :=
  if cancelled then .cancelled
  else if !failure.permanent ∧ (attemptNo : Int) < policy.maxInfrastructureTries then .requeued
  else .terminal

def failedJob (disposition : FailureDisposition) (failure : InfrastructureFailure) (now : Time) (job : JobRow) : JobRow :=
  match disposition with
  | .requeued => { job.releaseLease with
      status := .queued, nextAttemptAt := now.add failure.retryDelay, failureCode := none, completedAt := none }
  | .terminal => { job.releaseLease with
      status := .failed, nextAttemptAt := now, failureCode := some failure.code, completedAt := some now }
  | .cancelled => { job.releaseLease with
      status := .cancelled, nextAttemptAt := now, failureCode := none, completedAt := some now }

def failInfrastructure (eventEntropy : List Bytes) (claim : WorkerJobClaim)
    (failure : InfrastructureFailure) : Tx FailureDisposition := do
  ensure (validWorkerClaim claim ∧ matchesInfrastructureCode failure.code ∧ 0 ≤ failure.retryDelay ∧
    failure.retryDelay ≤ hour) .invalidJobState
  let now ← query Db.now
  let (cancelled, encodedPolicy) ← lockActiveClaimAndPolicy claim now
  let policy ← require (fun _ => decodeTenantPolicy encodedPolicy) .externalJobUnavailable
  let disposition := failureDisposition cancelled failure claim.attemptNo policy
  let affected ← updateJobs (fun job => job.claimedBy claim) (failedJob disposition failure now)
  ensure (affected = 1) .staleJobClaim
  let consumedMillis ← settleAttemptReservation claim now [] failure.chargeFullReservation
  finishAttempt claim (if cancelled then .cancelled else .failed) (if cancelled then [] else failure.code) consumedMillis now
  if disposition ≠ .requeued then
    publishTerminal repository eventEntropy now claim.job.internalID "read terminal failed job"
    return disposition
  else return disposition

def cancelQueued (now : Time) (job : JobRow) : JobRow :=
  { job.releaseLease with status := .cancelled, cancelRequestedAt := some now, completedAt := some now }

def cancel (eventEntropy : List Bytes) (tenantExternalID jobExternalID : GoString) :
    Tx ExternalJobRecord := do
  ensure (matchesExternalID tenantExternalID ∧ matchesExternalID jobExternalID) .externalJobNotFound
  let _ ← require (fun db => db.tenants.find? fun tenant => tenant.externalID = tenantExternalID) .externalJobNotFound
  let job ← wrap (fun error => if error = .noRows then .externalJobNotFound else .unavailable "lock job for cancellation" error)
    (attempt (getExternalJob tenantExternalID jobExternalID))
  let now ← query Db.now
  match job.status with
  | .queued =>
    let _ ← updateJobs (fun row => row.id = job.internalID ∧ row.status = .queued) (cancelQueued now)
    let job ← unavailableOn "read cancelled job" (getExternalJob tenantExternalID jobExternalID)
    let _ ← insertTerminalWebhookEvent repository.webhookDeliveryWindow eventEntropy now job
    return job
  | .running =>
    if job.cancelRequested.isNone then
      let _ ← updateJobs (fun row => row.id = job.internalID ∧ row.status = .running)
        (fun row => { row with cancelRequestedAt := some now })
      unavailableOn "read cancelled job" (getExternalJob tenantExternalID jobExternalID)
    else unavailableOn "read cancelled job" (getExternalJob tenantExternalID jobExternalID)
  | _ => unavailableOn "read cancelled job" (getExternalJob tenantExternalID jobExternalID)

end JudgingServer.External
