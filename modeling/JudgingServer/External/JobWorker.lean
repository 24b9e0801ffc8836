import JudgingServer.External.WebhookEvent

/-! The worker side of the job repository: claiming a job under a lease, renewing
the lease, and settling the attempt. Every operation is one database transaction. -/

namespace JudgingServer.External
open Go Bundle Library Transaction

/-- The cryptographic functions, which are not modelled further. -/
structure Digests where
  sha256 : Bytes → Bytes
  hmac : Bytes → Bytes → Bytes

structure JobRepository where
  digests : Digests
  idempotencyPepper : Bytes
  idempotencyTTL : Duration
  webhookDeliveryWindow : Duration

structure WorkerJobClaim where
  job : ExternalJobRecord
  workerID : GoString
  attemptNo : Nat
  leaseToken : Bytes
  leaseUntil : Time
deriving DecidableEq, Repr

def validWorkerID (workerID : GoString) : Bool :=
  if workerID.length = 0 ∨ 128 < workerID.length ∨ trimSpace workerID ≠ workerID then false
  else workerID.all fun byte => between 0x21 0x7e byte

variable (claim : WorkerJobClaim)

def validWorkerClaim : Bool :=
  0 < claim.job.internalID ∧ 0 < claim.attemptNo ∧ validWorkerID claim.workerID ∧ claim.leaseToken.length = 32

def validLeaseDuration (leaseDuration : Duration) : Bool := 0 < leaseDuration ∧ leaseDuration ≤ 15 * minute

section Statements

variable {ε : Type}

def updateJobs (p : JobRow → Bool) (f : JobRow → JobRow) : Transaction Db ε Nat := fun db =>
  .ok (Table.affected p f db.jobs, { db with jobs := Table.update p f db.jobs })

def updateAttempts (p : AttemptRow → Bool) (f : AttemptRow → AttemptRow) : Transaction Db ε Nat := fun db =>
  .ok (Table.affected p f db.attempts, { db with attempts := Table.update p f db.attempts })

def updateDaily (p : DailyRow → Bool) (f : DailyRow → DailyRow) : Transaction Db ε Nat := fun db =>
  .ok (Table.affected p f db.daily, { db with daily := Table.update p f db.daily })

def advanceTenantFairness (tenantID : Nat) (now : Time) : Transaction Db ε Unit :=
  execute fun db => { db with
    tenants := Table.update (fun tenant => tenant.id = tenantID) (fun tenant => { tenant with lastClaimedAt := some now }) db.tenants }

end Statements

def JobRow.releaseLease (job : JobRow) : JobRow :=
  { job with workerID := none, leaseToken := none, leaseUntil := none }

def JobRow.leaseExpired (now : Time) (job : JobRow) : Bool :=
  job.status = .running ∧ job.leaseUntil.any (fun lease => decide (lease ≤ now))

def JobRow.heldBy (now : Time) (job : JobRow) : Bool :=
  job.id = claim.job.internalID ∧ job.status = .running ∧ job.attemptNo = claim.attemptNo ∧
    job.workerID = some claim.workerID ∧ job.leaseToken = some claim.leaseToken ∧
    job.leaseUntil.any (fun lease => decide (now < lease))

inductive DailyReservationDecision where
  | allowed
  | deferred
  | impossible
deriving DecidableEq, Repr

def ensureDailyRow (tenantID : Nat) (day : Day) (rows : List DailyRow) : List DailyRow :=
  if rows.any fun row => row.tenantID = tenantID ∧ row.accountingDay = day then rows
  else rows ++ [⟨tenantID, day, 0, 0⟩]

def reserveDailyExecution (tenantID : Nat) (accountingDay : Day) (dailyLimit reserveMillis : Int) :
    Tx DailyReservationDecision := do
  ensure (0 < dailyLimit ∧ 0 < reserveMillis) .externalJobUnavailable
  if dailyLimit < reserveMillis then return .impossible
  else
    execute fun db => { db with daily := ensureDailyRow tenantID accountingDay db.daily }
    let row ← require (fun db => db.daily.find? fun row => row.tenantID = tenantID ∧ row.accountingDay = accountingDay)
      (.unavailable "lock daily execution ledger" .noRows)
    if dailyLimit - reserveMillis < row.consumedMillis ∨
        dailyLimit - reserveMillis - row.consumedMillis < row.reservedMillis then return .deferred
    else
      let affected ← updateDaily (fun row => row.tenantID = tenantID ∧ row.accountingDay = accountingDay)
        (fun row => { row with reservedMillis := row.reservedMillis + reserveMillis })
      ensure (affected = 1) (.unavailable "reserve daily execution" .externalJobUnavailable)
      return .allowed

def cappedCaseExecutionFrom (reservation : Int) : List DurableCaseResult → Int → Int
  | [], total => total
  | item :: rest, total =>
    if wrapInt64 (reservation - total) ≤ item.timeMillis then reservation
    else cappedCaseExecutionFrom reservation rest (wrapInt64 (total + item.timeMillis))

def cappedCaseExecutionMillis (cases : List DurableCaseResult) (reservation : Int) : Int :=
  if reservation ≤ 0 then 0 else cappedCaseExecutionFrom reservation cases 0

/-- Settles the ledger for a running attempt and wakes the jobs that were deferred
from its day. Returns the time that was charged. -/
def releaseAttemptReservation (tenantID jobID attemptNo : Nat) (now : Time) (cases : List DurableCaseResult)
    (chargeFullReservation : Bool) : Tx Int := do
  let attempt ← require (fun db => db.attempts.find? fun attempt => attempt.tenantID = tenantID ∧
    attempt.jobID = jobID ∧ attempt.attemptNo = attemptNo ∧ attempt.status = .running) .staleJobClaim
  let reserved := attempt.reservedExecutionMillis
  match attempt.accountingDay with
  | none => fail .externalJobUnavailable
  | some day =>
    ensure (0 < reserved) .externalJobUnavailable
    let consumedMillis := if chargeFullReservation then reserved else cappedCaseExecutionMillis cases reserved
    let affected ← updateDaily
      (fun row => row.tenantID = tenantID ∧ row.accountingDay = day ∧ reserved ≤ row.reservedMillis)
      (fun row => { row with
        reservedMillis := row.reservedMillis - reserved, consumedMillis := row.consumedMillis + consumedMillis })
    ensure (affected = 1) (.unavailable "settle daily execution ledger" .externalJobUnavailable)
    let _ ← updateJobs (fun job => job.tenantID = tenantID ∧ job.status = .queued ∧ job.nextAttemptAt = day.next.start)
      (fun job => { job with nextAttemptAt := now })
    return consumedMillis

def settleAttemptReservation (now : Time) (cases : List DurableCaseResult)
    (chargeFullReservation : Bool) : Tx Int :=
  releaseAttemptReservation claim.job.tenantInternalID claim.job.internalID claim.attemptNo now cases chargeFullReservation

def expireAttempt (tenantID jobID attemptNo : Nat) (now : Time) : Tx Unit := do
  let _ ← releaseAttemptReservation tenantID jobID attemptNo now [] false
  let affected ← updateAttempts (fun attempt => attempt.tenantID = tenantID ∧ attempt.jobID = jobID ∧
      attempt.attemptNo = attemptNo ∧ attempt.status = .running)
    (fun attempt => { attempt with
      status := .expired, leaseToken := none, finishedAt := some now, failureCode := some (lit "LEASE_EXPIRED")
      reservedExecutionMillis := 0 })
  ensure (affected = 1) .staleJobClaim

def finishAttempt (status : AttemptStatus) (failureCode : GoString) (consumedMillis : Int)
    (now : Time) : Tx Unit := do
  let affected ← updateAttempts (fun attempt => attempt.jobID = claim.job.internalID ∧
      attempt.attemptNo = claim.attemptNo ∧ attempt.workerID = claim.workerID ∧
      attempt.leaseToken = some claim.leaseToken ∧ attempt.status = .running)
    (fun attempt => { attempt with
      status, leaseToken := none, finishedAt := some now
      failureCode := if failureCode.isEmpty then none else some failureCode
      reservedExecutionMillis := 0, consumedExecutionMillis := consumedMillis })
  ensure (affected = 1) .staleJobClaim

/-- The last statements of a transaction that ended a job: the job is read back and
its event is put into the outbox. -/
def publishTerminal (repository : JobRepository) (entropy : List Bytes) (now : Time) (jobID : Nat) (operation : String) :
    Tx Unit := do
  let job ← unavailableOn operation (getExternalJobByInternalID jobID)
  let _ ← insertTerminalWebhookEvent repository.webhookDeliveryWindow entropy now job

def failImpossibleDailyExecution (repository : JobRepository) (entropy : List Bytes) (tenantID jobID : Nat)
    (status : JobStatus) (attemptNo : Nat) (now : Time) : Tx Unit := do
  let affected ← updateJobs (fun job => job.tenantID = tenantID ∧ job.id = jobID ∧ job.status = status ∧
      job.attemptNo = attemptNo)
    (fun job => { job.releaseLease with
      status := .failed, failureCode := some (lit "DAILY_EXECUTION_LIMIT_TOO_LOW"), completedAt := some now })
  ensure (affected = 1) .jobNotClaimable
  advanceTenantFairness tenantID now
  publishTerminal repository entropy now jobID "read impossible daily execution job"

end JudgingServer.External
