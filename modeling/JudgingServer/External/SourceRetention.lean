import JudgingServer.External.SourceReservation
import Mathlib.Data.List.Sort

/-! The retention of source objects: which jobs are due for removal, the fenced claim of a
source, the record of a failed delete, and the removal of a job with its source. -/

namespace JudgingServer.External
open Go Library Transaction

inductive RetentionEvent where
  | marked
  | deleteRetry
  | deleted
deriving DecidableEq, Repr

/-- `t_external_retention_audit`. -/
structure RetentionAuditRow where
  tenantID : Nat
  jobExternalID : GoString
  sourceExternalID : GoString
  eventType : RetentionEvent
  eventAt : Time
deriving DecidableEq, Repr

/-- The judge database with the audit of the retention worker. -/
structure RetentionDb extends Db where
  audit : List RetentionAuditRow
deriving Repr

inductive RetentionError where
  | notAvailable
  | contention
  | deleteFailed
  | joined (first second : RetentionError)
  | repository (error : RepositoryError)
deriving DecidableEq, Repr

abbrev RetentionTx := Transaction RetentionDb RetentionError

structure SourceRetentionClaim where
  tenantInternalID : Nat
  jobInternalID : Nat
  sourceInternalID : Nat
  jobExternalID : GoString
  sourceExternalID : GoString
  objectKey : GoString
  deleteToken : Bytes
deriving DecidableEq, Repr

variable (claim : SourceRetentionClaim)

def validSourceRetentionClaim : Bool :=
  0 < claim.tenantInternalID ∧ 0 < claim.jobInternalID ∧ 0 < claim.sourceInternalID ∧ matchesExternalID claim.jobExternalID ∧
    matchesExternalID claim.sourceExternalID ∧ validSourceObjectKey claim.objectKey ∧ claim.deleteToken.length = 32

/-! ### Candidates -/

def judgeJobResource : GoString := lit "judge-job"

def IdempotencyRow.blocks (tenantID : Nat) (jobExternalID : GoString) (now : Time) (record : IdempotencyRow) : Bool :=
  record.tenantID = tenantID ∧ record.resourceType = judgeJobResource ∧ record.resourceExternalID = jobExternalID ∧
    now < record.expiresAt

def SourceRow.deletable (now : Time) (source : SourceRow) : Bool :=
  source.deletedAt.isNone ∧ (source.deleteMarkedAt.isNone ∨
    source.deleteNextAttemptAt.any (fun next => decide (next ≤ now)) ∧ source.deleteLeaseUntil.any (fun lease => decide (lease ≤ now)))

/-- How many rows still need the job or its source. -/
def retentionBlockers (db : Db) : Nat :=
  db.outbox.countP (fun row => row.jobID = claim.jobInternalID) +
    db.idempotency.countP (IdempotencyRow.blocks claim.tenantInternalID claim.jobExternalID db.now) +
    db.jobs.countP fun other => other.sourceObjectID = claim.sourceInternalID ∧ other.id ≠ claim.jobInternalID

def retentionCandidate (job : JobRow) (source : SourceRow) : SourceRetentionClaim :=
  ⟨job.tenantID, job.id, source.id, job.externalID, source.externalID, source.objectKey, []⟩

/-- A job that has been terminal for the retention time, with the source it can be removed with. -/
def retainedJob (retention : Duration) (db : Db) (job : JobRow) : Option (Time × SourceRetentionClaim) := do
  let source ← db.sources.find? fun source => source.id = job.sourceObjectID ∧ source.tenantID = job.tenantID
  let completedAt ← job.completedAt
  if job.status.isTerminal ∧ completedAt.instant ≤ db.now.instant - microseconds retention ∧ source.deletable db.now ∧
      retentionBlockers (retentionCandidate job source) db = 0 then some (completedAt, retentionCandidate job source)
  else none

def retentionOrder (candidate : Time × SourceRetentionClaim) : Nat ×ₗ Nat := toLex (candidate.1, candidate.2.jobInternalID)

def sourceRetentionCandidates (retention : Duration) (limit : Nat) (db : Db) : List SourceRetentionClaim :=
  let candidates := db.jobs.filterMap (retainedJob retention db)
  let ranked := candidates.filter fun candidate => candidates.all fun other =>
    other.2.tenantInternalID ≠ candidate.2.tenantInternalID ∨ retentionOrder candidate ≤ retentionOrder other
  ((ranked.insertionSort fun left right => retentionOrder left ≤ retentionOrder right).take limit).map Prod.snd

/-! ### Statements -/

/-- The tenant and the terminal job of a claim are locked, in this order. -/
def lockTerminalJob (missing : RetentionError) (claim : SourceRetentionClaim) (completedBefore : Option Instant) : RetentionTx Unit := do
  let _ ← require (fun db : RetentionDb => db.tenants.find? fun tenant => tenant.id = claim.tenantInternalID) missing
  let job ← require (fun db : RetentionDb => db.jobs.find? fun job => job.id = claim.jobInternalID ∧ job.tenantID = claim.tenantInternalID)
    missing
  ensure (job.status.isTerminal ∧ job.sourceObjectID = claim.sourceInternalID ∧ job.externalID = claim.jobExternalID ∧
    job.completedAt.any fun completedAt => completedBefore.all fun limit => decide (completedAt.instant ≤ limit)) .notAvailable

def lockRetentionTenantJobForClaim (completedBefore : Instant) : RetentionTx Unit :=
  lockTerminalJob .contention claim (some completedBefore)

def lockRetentionTenantJob (completedBefore : Option Instant) : RetentionTx Unit :=
  lockTerminalJob .notAvailable claim completedBefore

def insertRetentionAudit (eventType : RetentionEvent) (now : Time) : RetentionTx Unit :=
  execute fun db => { db with
    audit := db.audit ++ [⟨claim.tenantInternalID, claim.jobExternalID, claim.sourceExternalID, eventType, now⟩] }

/-- `UPDATE t_external_source_object` where one row matches, which every such update also changes. -/
def updateSource (p : SourceRow → Bool) (f : SourceRow → SourceRow) : RetentionTx Unit := do
  let affected ← query fun db : RetentionDb => db.sources.countP p
  ensure (affected = 1) .notAvailable
  execute fun db => { db with sources := Table.update p f db.sources }

def SourceRow.mark (token : Bytes) (now leaseUntil : Time) (source : SourceRow) : SourceRow :=
  { source with
    deleteMarkedAt := some (source.deleteMarkedAt.getD now)
    deleteToken := some token
    deleteLeaseUntil := some leaseUntil
    deleteNextAttemptAt := some now }

def claimSourceRetentionCandidate (token : Option Bytes) (retention leaseDuration : Duration) :
    RetentionTx SourceRetentionClaim := do
  let now ← query fun db : RetentionDb => db.now
  lockRetentionTenantJobForClaim claim (now.instant - retention)
  let source ← require (fun db : RetentionDb => db.sources.find? fun source => source.id = claim.sourceInternalID ∧
    source.tenantID = claim.tenantInternalID ∧ source.deletable now) .contention
  let claim := { claim with sourceExternalID := source.externalID, objectKey := source.objectKey }
  let blockers ← query fun db : RetentionDb => retentionBlockers claim db.toDb
  ensure (blockers = 0) .notAvailable
  let token ← require (fun _ => token) (.repository (.unavailable "generate source retention fence" (.detail "unexpected EOF")))
  updateSource (fun source => source.id = claim.sourceInternalID ∧ source.tenantID = claim.tenantInternalID ∧ source.deletedAt.isNone)
    (SourceRow.mark token now (now.add leaseDuration))
  let claim := { claim with deleteToken := token }
  if source.deleteMarkedAt.isNone then
    insertRetentionAudit claim .marked now
    return claim
  else return claim

def SourceRetentionClaim.holds (now : Time) (source : SourceRow) : Bool :=
  source.id = claim.sourceInternalID ∧ source.tenantID = claim.tenantInternalID ∧ source.deleteToken = some claim.deleteToken ∧
    source.deleteLeaseUntil.any (fun lease => decide (now < lease)) ∧ source.deletedAt.isNone

def SourceRow.retry (now nextAttempt : Time) (source : SourceRow) : SourceRow :=
  { source with deleteLeaseUntil := some now, deleteNextAttemptAt := some nextAttempt }

def recordSourceRetentionFailure (retryDelay : Duration) : RetentionTx Unit := do
  ensure (validSourceRetentionClaim claim ∧ 0 < retryDelay ∧ retryDelay ≤ hour) .notAvailable
  let now ← query fun db : RetentionDb => db.now
  lockRetentionTenantJob claim none
  updateSource (claim.holds now) (SourceRow.retry now (now.add retryDelay))
  insertRetentionAudit claim .deleteRetry now

/-- `DELETE` of one row. -/
def deleteOne {α : Type} (rows : RetentionDb → List α) (put : List α → RetentionDb → RetentionDb) (p : α → Bool) : RetentionTx Unit := do
  let affected ← query fun db => (rows db).countP p
  ensure (affected = 1) .notAvailable
  execute fun db => put (Table.delete p (rows db)) db

def finalizeSourceRetention : RetentionTx Unit := do
  ensure (validSourceRetentionClaim claim) .notAvailable
  let now ← query fun db : RetentionDb => db.now
  lockRetentionTenantJob claim none
  let source ← require (fun db : RetentionDb => db.sources.find? fun source => claim.holds now source ∧ source.deleteMarkedAt.isSome)
    .notAvailable
  ensure (source.objectKey = claim.objectKey) .notAvailable
  let blockers ← query fun db : RetentionDb => retentionBlockers claim db.toDb
  ensure (blockers = 0) .notAvailable
  insertRetentionAudit claim .deleted now
  execute fun db => { db with
    attempts := Table.delete (fun attempt => attempt.tenantID = claim.tenantInternalID ∧ attempt.jobID = claim.jobInternalID) db.attempts }
  deleteOne (fun db => db.jobs) (fun jobs db => { db with jobs })
    fun job => job.tenantID = claim.tenantInternalID ∧ job.id = claim.jobInternalID
  deleteOne (fun db => db.sources) (fun sources db => { db with sources })
    fun source => source.tenantID = claim.tenantInternalID ∧ source.id = claim.sourceInternalID ∧
      source.deleteToken = some claim.deleteToken

end JudgingServer.External
