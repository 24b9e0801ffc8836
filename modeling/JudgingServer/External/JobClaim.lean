import JudgingServer.External.JobWorker
import Mathlib.Data.Prod.Lex

/-! `ClaimNext`: the choice of the tenant and of its job, the recovery of an expired
lease, the daily reservation and the start of a new attempt. -/

namespace JudgingServer.External
open Go Bundle Library Transaction

/-- What one claim transaction meets: the date of the database session, the rows
other transactions have locked, and what it draws from the random source. -/
structure ClaimSession where
  accountingDay : Day
  lockedTenants : List Nat
  lockedJobs : List Nat
  leaseToken : Option Bytes
  eventEntropy : List Bytes
deriving DecidableEq, Repr

structure ClaimFailure where
  error : RepositoryError
  retry : Bool
deriving DecidableEq, Repr

abbrev ClaimTx := Transaction Db ClaimFailure

def claimStep {α : Type} (tx : Tx α) : ClaimTx α := wrap (fun error => ⟨error, false⟩) tx

def hasExpiredJob (now : Time) (db : Db) (tenantID : Nat) : Bool :=
  db.jobs.any fun job => job.tenantID = tenantID ∧ job.leaseExpired now

def hasDueJob (now : Time) (db : Db) (tenantID : Nat) : Bool :=
  db.jobs.any fun job => job.tenantID = tenantID ∧ job.status = .queued ∧ job.nextAttemptAt ≤ now

def runningJobs (db : Db) (tenantID : Nat) : Nat :=
  db.jobs.countP fun job => job.tenantID = tenantID ∧ job.status = .running

def belowRunningLimit (db : Db) (tenant : TenantRow) : Bool :=
  (jsonInteger tenant.policyJSON (lit "maxRunningJobs")).any fun limit => (runningJobs db tenant.id : Int) < castUnsigned limit

def claimEligible (now : Time) (db : Db) (tenant : TenantRow) : Bool :=
  hasExpiredJob now db tenant.id || decide (tenant.status = .active) &&
    (jsonInteger tenant.policyJSON (lit "maxInfrastructureTries")).any
      (fun tries => 1 ≤ castUnsigned tries ∧ castUnsigned tries ≤ 10) &&
    belowRunningLimit db tenant && hasDueJob now db tenant.id

/-- Expired leases first, then tenants that were never claimed, then the oldest claim. -/
def claimOrder (now : Time) (db : Db) (tenant : TenantRow) : Nat ×ₗ Nat ×ₗ Nat :=
  toLex (if hasExpiredJob now db tenant.id then 0 else 1,
    toLex (tenant.lastClaimedAt.elim 0 (fun claimed => claimed + 1), tenant.id))

def selectClaimTenant (locked : List Nat) (now : Time) (db : Db) : Option TenantRow :=
  Table.first (fun tenant => claimEligible now db tenant && !locked.contains tenant.id) (claimOrder now db) db.tenants

/-- Some tenant has work, so finding none was due to locks. -/
def claimContended (now : Time) (db : Db) : Bool :=
  db.tenants.any fun tenant => hasExpiredJob now db tenant.id || decide (tenant.status = .active) &&
    belowRunningLimit db tenant && hasDueJob now db tenant.id

structure ClaimJobRow where
  job : JobRow
  bundle : BundleRow
deriving Repr

def joinBundle (db : Db) (job : JobRow) : Option ClaimJobRow :=
  (db.bundles.find? fun bundle => bundle.id = job.bundleID ∧ bundle.tenantID = job.tenantID).map fun bundle => ⟨job, bundle⟩

def claimableJob (tenant : TenantRow) (now : Time) (job : JobRow) : Bool :=
  job.tenantID = tenant.id ∧
    ((tenant.status = .active ∧ job.status = .queued ∧ job.nextAttemptAt ≤ now) ∨ job.leaseExpired now)

def jobOrder (row : ClaimJobRow) : Nat ×ₗ Nat ×ₗ Nat ×ₗ Nat :=
  toLex (if row.job.status = .running then 0 else 1, toLex (row.job.nextAttemptAt, toLex (row.job.createdAt, row.job.id)))

def selectClaimJob (locked : List Nat) (tenant : TenantRow) (now : Time) (db : Db) : Option ClaimJobRow :=
  Table.first (fun row => claimableJob tenant now row.job && !locked.contains row.job.id) jobOrder
    (db.jobs.filterMap (joinBundle db))

/-- The policy of an active tenant; a disabled tenant's policy is not read. -/
def claimPolicy (tenant : TenantRow) : Except ClaimFailure TenantPolicy :=
  if tenant.status = .active then
    match decodeTenantPolicy tenant.policyJSON with
    | some policy => .ok policy
    | none => .error ⟨.externalJobUnavailable, false⟩
  else .ok ⟨0, 0, 0, 0, 0, 0, 0, 0⟩

/-- The execution time to reserve for a bundle that passes its tenant's ceilings. -/
def claimReservation (tenant : TenantRow) (policy : TenantPolicy) (bundle : BundleRow) : Except ClaimFailure Int :=
  match parseManifest bundle.manifestJSON with
  | none => .error ⟨.unavailable "validate claim bundle execution limits" .externalJobInvalid, false⟩
  | some manifest =>
    if tenant.status = .active ∧
        !manifestWithinExecutionCeilings manifest policy.maxTimeLimitMillis policy.maxMemoryLimitMiB then
      .error ⟨.unavailable "validate claim bundle execution limits" .externalJobInvalid, false⟩
    else
      match maximumManifestExecutionMillis manifest with
      | none => .error ⟨.unavailable "calculate claim execution reservation" .externalJobInvalid, false⟩
      | some reserved => .ok reserved

structure ClaimTarget where
  tenant : TenantRow
  policy : TenantPolicy
  job : JobRow
  reservedExecutionMillis : Int
deriving Repr

def lockClaimTarget (session : ClaimSession) (leaseNow : Time) : ClaimTx ClaimTarget := do
  match ← query (selectClaimTenant session.lockedTenants leaseNow) with
  | none =>
    let due ← query (claimContended leaseNow)
    fail ⟨.jobNotClaimable, due⟩
  | some candidate =>
    let tenant ← require (fun db => db.tenants.find? fun tenant => tenant.id = candidate.id)
      ⟨.unavailable "lock claim tenant" .noRows, false⟩
    let policy ← attempt fun _ => claimPolicy tenant
    let row ← require (selectClaimJob session.lockedJobs tenant leaseNow) ⟨.jobNotClaimable, true⟩
    let reserved ← attempt fun _ => claimReservation tenant policy row.bundle
    return ⟨tenant, policy, row.job, reserved⟩

variable (repository : JobRepository)

/-- Ends a job whose lease expired, after its attempt was expired. -/
def settleExpiredJob (session : ClaimSession) (leaseNow : Time) (job : JobRow)
    (change : JobRow → JobRow) (operation : String) : Tx Unit := do
  let _ ← updateJobs (fun row => row.id = job.id ∧ row.status = .running ∧ row.attemptNo = job.attemptNo) change
  publishTerminal repository session.eventEntropy leaseNow job.id operation

def settleDisabledTenantJob (session : ClaimSession) (leaseNow : Time) (job : JobRow) :
    Tx Unit :=
  settleExpiredJob repository session leaseNow job
    (fun row => { row.releaseLease with
      status := .failed, failureCode := some (lit "TENANT_DISABLED"), completedAt := some leaseNow })
    "read disabled tenant job"

def recoverExpiredCancellation (session : ClaimSession) (leaseNow : Time) (job : JobRow) :
    Tx Unit :=
  settleExpiredJob repository session leaseNow job
    (fun row => { row.releaseLease with
      status := .cancelled, result := none, failureCode := none, completedAt := some leaseNow })
    "read recovered cancellation"

def finishExhaustedJob (session : ClaimSession) (leaseNow : Time) (job : JobRow) :
    Tx Unit :=
  settleExpiredJob repository session leaseNow job
    (fun row => { row.releaseLease with
      status := .failed, failureCode := some (lit "LEASE_EXPIRED"), completedAt := some leaseNow })
    "read exhausted expired job"

/-- A recovered job for which the day has no budget left goes back into the queue. -/
def deferRecoveredJob (session : ClaimSession) (leaseNow : Time) (tenantID : Nat) (job : JobRow) : Tx Unit := do
  let _ ← updateJobs (fun row => row.id = job.id ∧ row.status = .running ∧ row.attemptNo = job.attemptNo)
    (fun row => { row.releaseLease with status := .queued, nextAttemptAt := session.accountingDay.next.start })
  advanceTenantFairness tenantID leaseNow

def deferQueuedJob (session : ClaimSession) (leaseNow : Time) (tenantID : Nat) (job : JobRow) : Tx Unit := do
  let _ ← updateJobs (fun row => row.id = job.id ∧ row.status = .queued)
    (fun row => { row with nextAttemptAt := session.accountingDay.next.start })
  advanceTenantFairness tenantID leaseNow

/-- The branch for a running job whose lease expired. It answers whether a new
attempt is to be started; otherwise the job was settled or deferred. -/
def recoverExpiredJob (session : ClaimSession) (leaseNow : Time) (target : ClaimTarget) :
    Tx Bool := do
  expireAttempt target.tenant.id target.job.id target.job.attemptNo leaseNow
  if target.tenant.status ≠ .active then
    settleDisabledTenantJob repository session leaseNow target.job
    return false
  else if target.job.cancelRequestedAt.isSome then
    recoverExpiredCancellation repository session leaseNow target.job
    return false
  else if target.policy.maxInfrastructureTries ≤ target.job.attemptNo then
    finishExhaustedJob repository session leaseNow target.job
    return false
  else
    match ← reserveDailyExecution target.tenant.id session.accountingDay target.policy.dailyExecutionMillis
      target.reservedExecutionMillis with
    | .impossible =>
      failImpossibleDailyExecution repository session.eventEntropy target.tenant.id target.job.id target.job.status
        target.job.attemptNo leaseNow
      return false
    | .deferred =>
      deferRecoveredJob session leaseNow target.tenant.id target.job
      return false
    | .allowed => return true

def admitQueuedJob (session : ClaimSession) (leaseNow : Time) (target : ClaimTarget) :
    ClaimTx Bool := do
  let running ← query fun db => runningJobs db target.tenant.id
  ensure ((running : Int) < target.policy.maxRunningJobs) ⟨.jobNotClaimable, true⟩
  ensure (0 < target.reservedExecutionMillis) ⟨.externalJobUnavailable, false⟩
  match ← claimStep (reserveDailyExecution target.tenant.id session.accountingDay target.policy.dailyExecutionMillis
    target.reservedExecutionMillis) with
  | .impossible =>
    claimStep (failImpossibleDailyExecution repository session.eventEntropy target.tenant.id target.job.id
      target.job.status target.job.attemptNo leaseNow)
    return false
  | .deferred =>
    claimStep (deferQueuedJob session leaseNow target.tenant.id target.job)
    return false
  | .allowed => return true

def maxUint32 : Nat := 2 ^ 32 - 1

def startedJob (workerID : GoString) (leaseToken : Bytes) (leaseUntil leaseNow : Time) (newAttemptNo : Nat)
    (job : JobRow) : JobRow :=
  { job with
    status := .running
    attemptNo := newAttemptNo
    workerID := some workerID
    leaseToken := some leaseToken
    leaseUntil := some leaseUntil
    startedAt := some (job.startedAt.getD leaseNow)
    failureCode := none }

def insertAttempt (attempt : AttemptRow) : Tx Unit := do
  let taken ← query fun db => db.attempts.any fun other =>
    other.jobID = attempt.jobID ∧ other.attemptNo = attempt.attemptNo
  ensure (!taken) (.unavailable "persist worker attempt" .duplicateKey)
  execute fun db => { db with attempts := db.attempts ++ [attempt] }

def startedAttempt (workerID : GoString) (leaseToken : Bytes) (leaseUntil leaseNow : Time) (accountingDay : Day)
    (target : ClaimTarget) : AttemptRow :=
  { tenantID := target.tenant.id
    jobID := target.job.id
    attemptNo := target.job.attemptNo + 1
    workerID
    leaseToken := some leaseToken
    status := .running
    leaseUntil
    accountingDay := some accountingDay
    reservedExecutionMillis := target.reservedExecutionMillis
    consumedExecutionMillis := 0
    startedAt := leaseNow
    finishedAt := none
    failureCode := none }

def startAttempt (session : ClaimSession) (workerID : GoString) (leaseDuration : Duration) (leaseNow : Time)
    (target : ClaimTarget) : Tx WorkerJobClaim := do
  ensure (target.job.attemptNo ≠ maxUint32) .externalJobUnavailable
  let leaseToken ← require (fun _ => session.leaseToken) (.unavailable "generate lease token" (.detail "unexpected EOF"))
  let newAttemptNo := target.job.attemptNo + 1
  let leaseUntil := leaseNow.add leaseDuration
  let affected ← updateJobs (fun row => row.id = target.job.id ∧ row.status = target.job.status ∧
    row.attemptNo = target.job.attemptNo) (startedJob workerID leaseToken leaseUntil leaseNow newAttemptNo)
  ensure (affected = 1) .jobNotClaimable
  insertAttempt (startedAttempt workerID leaseToken leaseUntil leaseNow session.accountingDay target)
  advanceTenantFairness target.tenant.id leaseNow
  let job ← unavailableOn "read claimed job" (getExternalJobByInternalID target.job.id)
  return ⟨job, workerID, newAttemptNo, leaseToken, leaseUntil⟩

/-- A committed claim transaction hands out a claim, or it only settled or deferred
a job and is to be retried. -/
inductive ClaimOutcome where
  | claimed (claim : WorkerJobClaim)
  | recovered
deriving DecidableEq, Repr

/-- What a claim does before it starts an attempt; it answers whether to start one. -/
def prepareAttempt (session : ClaimSession) (leaseNow : Time) (target : ClaimTarget) :
    ClaimTx Bool :=
  match target.job.status with
  | .running => claimStep (recoverExpiredJob repository session leaseNow target)
  | .queued => admitQueuedJob repository session leaseNow target
  | _ => fail ⟨.jobNotClaimable, false⟩

def claimOne (session : ClaimSession) (workerID : GoString) (leaseDuration : Duration) :
    ClaimTx ClaimOutcome := do
  let leaseNow ← query Db.now
  let target ← lockClaimTarget session leaseNow
  let start ← prepareAttempt repository session leaseNow target
  if start then
    let claim ← claimStep (startAttempt session workerID leaseDuration leaseNow target)
    return .claimed claim
  else return .recovered

end JudgingServer.External
