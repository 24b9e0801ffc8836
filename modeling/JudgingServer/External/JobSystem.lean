import JudgingServer.External.JobClaim
import JudgingServer.External.JobSettlement
import JudgingServer.External.Submission
import JudgingServer.Library.Runs

/-! The job system: the transactions of submitters, workers and callers as atomic
steps on one database. -/

namespace JudgingServer.External
open Go Library

/-- One step of the system. Provisioning may write any tenants, bundles and callbacks;
time passes in steps of its own. -/
inductive Event where
  | tick (elapsed : Nat)
  | provision (tenants : List TenantRow) (bundles : List BundleRow) (callbacks : List CallbackRow)
  | reserve (objectKey : GoString) (ownerToken : Bytes) (lease : Duration)
  | release (claim : SourceReservationClaim)
  | submit (draws : SubmissionDraws) (tenantExternalID idempotencyKey : GoString) (request : JudgeJobRequest)
      (assigned : AssignedIDs)
  | claim (session : ClaimSession) (workerID : GoString) (leaseDuration : Duration)
  | heartbeat (claim : WorkerJobClaim) (leaseDuration : Duration)
  | complete (eventEntropy : List Bytes) (claim : WorkerJobClaim) (result : DurableJobResult)
  | failInfrastructure (eventEntropy : List Bytes) (claim : WorkerJobClaim) (failure : InfrastructureFailure)
  | cancel (eventEntropy : List Bytes) (tenantExternalID jobExternalID : GoString)

/-- The error a step ends with, if it ends with one, and the database it leaves. -/
def settleOutcome {ε α : Type} (report : ε → Option RepositoryError) (outcome : Except ε α × Db) : Option RepositoryError × Db :=
  match outcome with
  | (.ok _, db) => (none, db)
  | (.error error, db) => (report error, db)

def SubmitAbort.error : SubmitAbort → Option RepositoryError
  | .failed error => some error
  | .replayed _ => none

variable (repository : JobRepository)

/-- A claim needs valid arguments; `ClaimNext` checks them before its first transaction. -/
def claimTransaction (session : ClaimSession) (workerID : GoString) (leaseDuration : Duration) :
    ClaimTx ClaimOutcome := do
  Transaction.ensure (validWorkerID workerID ∧ validLeaseDuration leaseDuration) ⟨.invalidJobState, false⟩
  claimOne repository session workerID leaseDuration

def perform (event : Event) (db : Db) : Option RepositoryError × Db :=
  match event with
  | .tick elapsed => (none, { db with now := db.now + elapsed })
  | .provision tenants bundles callbacks => (none, { db with tenants, bundles, callbacks })
  | .reserve objectKey ownerToken lease => (none, (tryAcquireSourceReservation objectKey ownerToken lease db).2)
  | .release claim => (none, { db with reservations := Table.delete claim.owns db.reservations })
  | .submit draws tenantExternalID idempotencyKey request assigned =>
    match prepareSubmission repository draws tenantExternalID idempotencyKey request with
    | .error error => (some error, db)
    | .ok submission => settleOutcome SubmitAbort.error ((submitTransaction repository submission assigned).commit db)
  | .claim session workerID leaseDuration =>
    settleOutcome (fun failure => some failure.error)
      ((claimTransaction repository session workerID leaseDuration).commit db)
  | .heartbeat claim leaseDuration => settleOutcome some ((heartbeat claim leaseDuration).commit db)
  | .complete eventEntropy claim result => settleOutcome some ((complete repository eventEntropy claim result).commit db)
  | .failInfrastructure eventEntropy claim failure =>
    settleOutcome some ((failInfrastructure repository eventEntropy claim failure).commit db)
  | .cancel eventEntropy tenantExternalID jobExternalID =>
    settleOutcome some ((cancel repository eventEntropy tenantExternalID jobExternalID).commit db)

def step (event : Event) (db : Db) : Db := (perform repository event db).2

end JudgingServer.External
