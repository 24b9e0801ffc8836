import JudgingServer.External.Schema
import JudgingServer.Library.Table
import JudgingServer.Library.Transaction

/-! Reading jobs: the errors of the job repository, public identifiers and the
record that is scanned from a job row joined with the rows it refers to. -/

namespace JudgingServer.External
open Go Library

inductive RepositoryError where
  | jobNotClaimable
  | staleJobClaim
  | invalidJobState
  | externalJobNotFound
  | externalJobConflict
  | externalJobInvalid
  | externalJobUnavailable
  | queuedQuotaExceeded
  | noRows
  | duplicateKey
  | detail (text : String)
  | annotated (error : RepositoryError) (text : String)
  | unavailable (operation : String) (cause : RepositoryError)
deriving DecidableEq, Repr

/-- `errors.Is`: an unavailable repository also is what made it unavailable. -/
def RepositoryError.is : RepositoryError → RepositoryError → Bool
  | .annotated error text, target => decide (.annotated error text = target) || error.is target
  | .unavailable operation cause, target =>
    decide (.unavailable operation cause = target) || decide (target = .externalJobUnavailable) || cause.is target
  | error, target => decide (error = target)

abbrev Tx := Transaction Db RepositoryError

/-- `^[a-z2-7]{26}$` -/
def matchesExternalID (id : GoString) : Bool :=
  id.length == 26 && id.all fun byte => isLower byte || between 50 55 byte

/-- `^[A-Z][A-Z0-9_]{0,63}$` -/
def matchesCode (code : GoString) : Bool :=
  match code with
  | [] => false
  | first :: rest => isUpper first && decide (rest.length ≤ 63) && rest.all fun byte => isUpper byte || isDigit byte || byte == 95

/-- The next identifier, drawn from the 16-byte reads that the random source has left. -/
def generateExternalID : List Bytes → Except RepositoryError (GoString × List Bytes)
  | [] => .error (.detail "generate external ID: unexpected EOF")
  | buffer :: rest =>
    let value := encodeBase32Lower buffer
    if matchesExternalID value then .ok (value, rest) else .error (.detail "generated external ID is invalid")

structure SourceObjectMetadata where
  internalID : Nat
  externalID : GoString
  objectKey : GoString
  sha256 : Bytes
  sizeBytes : Int
  keyVersion : Nat
  nonce : Bytes
deriving DecidableEq, Repr

structure ExternalJobRecord where
  internalID : Nat
  tenantInternalID : Nat
  externalID : GoString
  tenantExternalID : GoString
  bundleExternalID : GoString
  source : SourceObjectMetadata
  callbackID : GoString
  status : JobStatus
  language : GoString
  stopOnFailure : Bool
  clientReference : GoString
  attemptNo : Nat
  workerID : GoString
  leaseUntil : Option Time
  cancelRequested : Option Time
  result : Option DurableJobResult
  failureCode : GoString
  createdAt : Time
  startedAt : Option Time
  completedAt : Option Time
deriving DecidableEq, Repr

/-- A row of `externalJobSelect`: a job joined with its tenant, bundle and source,
and with its callback if it has one. -/
structure ExternalJobRow where
  job : JobRow
  tenant : TenantRow
  bundle : BundleRow
  source : SourceRow
  callback : Option CallbackRow
deriving Repr

def joinExternalJob (db : Db) (job : JobRow) : Option ExternalJobRow := do
  let tenant ← db.tenants.find? fun tenant => tenant.id = job.tenantID
  let bundle ← db.bundles.find? fun bundle => bundle.id = job.bundleID ∧ bundle.tenantID = job.tenantID
  let source ← db.sources.find? fun source => source.id = job.sourceObjectID ∧ source.tenantID = job.tenantID
  return ⟨job, tenant, bundle, source,
    db.callbacks.find? fun callback => some callback.id = job.callbackID ∧ callback.tenantID = job.tenantID⟩

def externalJobSelect (db : Db) : List ExternalJobRow := db.jobs.filterMap (joinExternalJob db)

def scanExternalJob (row : ExternalJobRow) : Except RepositoryError ExternalJobRecord :=
  if row.source.keyVersion = 0 ∨ 65535 < row.source.keyVersion then .error (.detail "invalid source key version")
  else if row.job.result.any fun result => !validateDurableJobResult result then
    .error (.detail "invalid persisted job result")
  else .ok
    { internalID := row.job.id
      tenantInternalID := row.job.tenantID
      externalID := row.job.externalID
      tenantExternalID := row.tenant.externalID
      bundleExternalID := row.bundle.externalID
      source := ⟨row.source.id, row.source.externalID, row.source.objectKey, row.source.sha256,
        row.source.sizeBytes, row.source.keyVersion, row.source.nonce⟩
      callbackID := (row.callback.map CallbackRow.externalID).getD []
      status := row.job.status
      language := row.job.languageID
      stopOnFailure := row.job.stopOnFailure
      clientReference := row.job.clientReference.getD []
      attemptNo := row.job.attemptNo
      workerID := row.job.workerID.getD []
      leaseUntil := row.job.leaseUntil
      cancelRequested := row.job.cancelRequestedAt
      result := row.job.result
      failureCode := row.job.failureCode.getD []
      createdAt := row.job.createdAt
      startedAt := row.job.startedAt
      completedAt := row.job.completedAt }

/-- `QueryRow` on `externalJobSelect` with a condition, and the scan of its row. -/
def getExternalJobWhere (p : ExternalJobRow → Bool) (db : Db) : Except RepositoryError ExternalJobRecord :=
  match (externalJobSelect db).find? p with
  | none => .error .noRows
  | some row => scanExternalJob row

def getExternalJob (tenantExternalID jobExternalID : GoString) : Db → Except RepositoryError ExternalJobRecord :=
  getExternalJobWhere fun row => row.tenant.externalID = tenantExternalID ∧ row.job.externalID = jobExternalID

def getExternalJobByInternalID (jobInternalID : Nat) : Db → Except RepositoryError ExternalJobRecord :=
  getExternalJobWhere fun row => row.job.id = jobInternalID

/-- A statement whose error is reported with `repositoryUnavailable`. -/
def unavailableOn {α : Type} (operation : String) (read : Db → Except RepositoryError α) : Tx α :=
  Transaction.wrap (.unavailable operation) (Transaction.attempt read)

end JudgingServer.External
