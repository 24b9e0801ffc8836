import JudgingServer.External.JobRecord
import JudgingServer.Library.Runs
import Mathlib.Data.Prod.Lex

/-! The bundle repository: the commit of an upload, the publication lease of a bundle
row and its ends, and the reads of the upload service and the staging collector. -/

namespace JudgingServer.External
open Go Bundle Library Transaction

inductive BundleError where
  | invalidBundle
  | bundleTooLarge
  | bundleNotFound
  | idempotencyConflict
  | invalidIdempotency
  | bundlePublishing
  | bundleAbandoned
  | stagingReferenceRace
  | noRows
  | duplicateKey
  | detail (text : String)
  | annotated (error : BundleError) (text : String)
  | failed (operation : String) (cause : BundleError)
  | repository (error : RepositoryError)
deriving DecidableEq, Repr

/-- `errors.Is`. -/
def BundleError.is : BundleError → BundleError → Bool
  | .annotated error text, target => decide (.annotated error text = target) || error.is target
  | .failed operation cause, target => decide (.failed operation cause = target) || cause.is target
  | error, target => decide (error = target)

structure BundleMetadata where
  bundleID : GoString
  sha256 : GoString
  sizeBytes : Int
  caseCount : Int
  manifestVersion : Int
  createdAt : Instant
deriving DecidableEq, Repr

/-- A row of `t_external_bundle` with all the columns of its publication. -/
structure StoredBundle extends BundleRow where
  sha256 : Bytes
  objectKey : GoString
  stagingObjectKey : Option GoString
  sizeBytes : Int
  caseCount : Int
  manifestVersion : Int
  createdAt : Time
  publishLeaseToken : Option GoString
  publishLeaseUntil : Option Time
  publishAttemptCount : Nat
  publishNextAttemptAt : Time
  publishLastErrorCode : Option GoString
  publishAbandonedAt : Option Time
deriving Repr

/-- An idempotency record of an upload. The response column holds the JSON value of the metadata. -/
structure UploadRecord extends IdempotencyRow where
  responseStatus : Nat
  response : BundleMetadata
deriving DecidableEq, Repr

structure BundleDb where
  now : Time
  tenants : List TenantRow
  bundles : List StoredBundle
  uploads : List UploadRecord
deriving Repr

abbrev BundleTx := Transaction BundleDb BundleError

structure BundleCommitInput where
  tenantID : GoString
  idempotencyDigest : Bytes
  requestHash : Bytes
  objectKey : GoString
  stagingObjectKey : GoString
  manifestJSON : Json
  timeLimitMillis : Int
  memoryLimitMiB : Int
  metadata : BundleMetadata
  idempotencyExpiresAt : Instant
deriving Repr

structure BundleCommitResult where
  metadata : BundleMetadata
  replay : Bool
  status : PublicationStatus
  stagingKey : GoString
deriving DecidableEq, Repr

structure BundleUploadLookup where
  status : PublicationStatus
  requestHash : Bytes
  stagingKey : GoString
  metadata : BundleMetadata
deriving DecidableEq, Repr

structure BundlePublicationClaim where
  tenantID : GoString
  bundleID : GoString
  objectKey : GoString
  stagingKey : GoString
  requestHash : Bytes
  sizeBytes : Int
  leaseToken : GoString
  attemptCount : Nat
deriving DecidableEq, Repr

def bundleUploadOperationScope : GoString := lit "bundle-upload"

/-! ### Keys and checks -/

/-- `path.Join`. -/
def pathJoin (elements : List GoString) : GoString :=
  let kept := elements.filter fun element => !element.isEmpty
  if kept.isEmpty then [] else cleanPath (join [47] kept)

def bundleObjectKey (tenantID : GoString) (digest : Bytes) : GoString :=
  pathJoin [lit "external", tenantID, lit "sha256", encodeHex digest ++ lit ".zip"]

def stagingBundleObjectKey (tenantID uploadID : GoString) (digest : Bytes) : GoString :=
  pathJoin [lit "external-staging", tenantID, uploadID, encodeHex digest ++ lit ".zip"]

def validStagingObjectKey (tenantID key digestHex : GoString) : Bool :=
  match split 47 key with
  | [first, second, third, fourth] =>
    first = lit "external-staging" ∧ second = tenantID ∧ matchesExternalID third ∧ fourth = digestHex ++ lit ".zip"
  | _ => false

def validBundleMetadata (metadata : BundleMetadata) : Bool :=
  matchesExternalID metadata.bundleID ∧ metadata.sha256.length = 64 ∧ 0 < metadata.sizeBytes ∧ 0 < metadata.caseCount ∧
    0 < metadata.manifestVersion ∧ metadata.createdAt ≠ 0 ∧ metadata.sha256.all isHexDigit

def validBundleCommitInput (input : BundleCommitInput) : Bool :=
  match parseManifest input.manifestJSON with
  | none => false
  | some manifest =>
    matchesExternalID input.tenantID ∧ matchesExternalID input.metadata.bundleID ∧
      input.metadata.sha256 = encodeHex input.requestHash ∧
      input.objectKey = bundleObjectKey input.tenantID input.requestHash ∧
      validStagingObjectKey input.tenantID input.stagingObjectKey (encodeHex input.requestHash) ∧
      input.metadata.caseCount = manifest.cases.length ∧ input.metadata.manifestVersion = manifest.schemaVersion ∧
      validBundleMetadata input.metadata ∧ input.timeLimitMillis = manifest.limits.timeLimitMillis ∧
      input.memoryLimitMiB = manifest.limits.memoryLimitMiB ∧ input.metadata.createdAt < input.idempotencyExpiresAt

-- A manifest without bytes is no JSON value and fails the check of the commit input already.
def bundleWithinTenantPolicy (input : BundleCommitInput) (policy : TenantPolicy) : Bool :=
  if input.timeLimitMillis ≤ 0 ∨ input.memoryLimitMiB ≤ 0 ∨ policy.maxTimeLimitMillis < input.timeLimitMillis ∨
      policy.maxMemoryLimitMiB < input.memoryLimitMiB then false
  else
    match parseManifest input.manifestJSON with
    | none => false
    | some manifest => manifestWithinExecutionCeilings manifest policy.maxTimeLimitMillis policy.maxMemoryLimitMiB

variable (row : StoredBundle)

section

variable (claim : BundlePublicationClaim)

def validBundlePublicationClaim : Bool :=
  matchesExternalID claim.tenantID ∧ matchesExternalID claim.bundleID ∧ matchesExternalID claim.leaseToken ∧
    0 < claim.sizeBytes ∧ 0 < claim.attemptCount ∧ claim.objectKey = bundleObjectKey claim.tenantID claim.requestHash ∧
    validStagingObjectKey claim.tenantID claim.stagingKey (encodeHex claim.requestHash)

def validFailureCode : GoString → Bool := matchesCode

def bundlePublicationNeedsFreshStaging (status : PublicationStatus) (stagingKey : GoString) : Bool :=
  status = .abandoned ∨ stagingKey = []

def statusForBundleCommit (existing : Bool) : Nat := if existing then 200 else 201

/-! ### Statements -/

def TenantRow.isActive (externalID : GoString) (tenant : TenantRow) : Bool :=
  tenant.externalID = externalID ∧ tenant.status = .active

def activeTenant (externalID : GoString) (db : BundleDb) : Option TenantRow := db.tenants.find? (TenantRow.isActive externalID)

/-- `UPDATE t_external_bundle` where one row matches, which every such update also changes. -/
def updateBundle (p : StoredBundle → Bool) (f : StoredBundle → StoredBundle) (error : BundleError) : BundleTx Unit := do
  let affected ← query fun db => db.bundles.countP p
  ensure (affected = 1) error
  execute fun db => { db with bundles := Table.update p f db.bundles }

section

variable (tenantID : Nat)

def UploadRecord.isFor (keyDigest : Bytes) (record : UploadRecord) : Bool :=
  record.tenantID = tenantID ∧ record.operationScope = bundleUploadOperationScope ∧ record.keyDigest = keyDigest

def expireUploads (keyDigest : Bytes) (db : BundleDb) : BundleDb :=
  { db with uploads := Table.delete (fun record => record.isFor tenantID keyDigest ∧ record.expiresAt ≤ db.now) db.uploads }

def recordedBundle (db : BundleDb) (record : UploadRecord) : Option StoredBundle :=
  db.bundles.find? fun row =>
    row.tenantID = record.tenantID ∧ row.externalID = record.resourceExternalID ∧ row.deletedAt.isNone

def joinUpload (db : BundleDb) (record : UploadRecord) : Option (UploadRecord × StoredBundle) :=
  (recordedBundle db record).map fun row => (record, row)

def findUpload (keyDigest : Bytes) (db : BundleDb) : Option (UploadRecord × StoredBundle) :=
  ((db.uploads.filter (UploadRecord.isFor tenantID keyDigest)).filterMap (joinUpload db)).head?

def scanUpload (record : UploadRecord) : Except BundleError Unit :=
  if record.requestHash.length ≠ 32 then .error (.detail "stored bundle idempotency hash is invalid")
  else if !validBundleMetadata record.response then .error (.detail "stored bundle idempotency response is invalid")
  else .ok ()

def StoredBundle.hasDigest (digest : Bytes) (row : StoredBundle) : Bool :=
  row.tenantID = tenantID ∧ row.sha256 = digest ∧ row.deletedAt.isNone

def StoredBundle.metadata : BundleMetadata :=
  ⟨row.externalID, encodeHex row.sha256, row.sizeBytes, row.caseCount, row.manifestVersion, row.createdAt.instant⟩

def scanBundleMetadata : Except BundleError BundleMetadata :=
  if row.sha256.length ≠ 32 then .error (.detail "stored bundle digest is invalid")
  else if !validBundleMetadata row.metadata then .error (.detail "stored bundle metadata is invalid")
  else .ok row.metadata

def findBundleByDigest (digest : Bytes) (db : BundleDb) :
    Except BundleError (Option (BundleMetadata × PublicationStatus × GoString)) :=
  match db.bundles.find? (StoredBundle.hasDigest tenantID digest) with
  | none => .ok none
  | some row =>
    match scanBundleMetadata row with
    | .error error => .error (.failed "find immutable bundle by digest" error)
    | .ok metadata => .ok (some (metadata, row.publicationStatus, row.stagingObjectKey.getD []))

def newBundle (id tenantID : Nat) (input : BundleCommitInput) (now : Time) : StoredBundle :=
  { id
    externalID := input.metadata.bundleID
    tenantID
    manifestJSON := input.manifestJSON
    publicationStatus := .pending
    readyAt := none
    deleteMarkedAt := none
    deletedAt := none
    sha256 := input.requestHash
    objectKey := input.objectKey
    stagingObjectKey := some input.stagingObjectKey
    sizeBytes := input.metadata.sizeBytes
    caseCount := input.metadata.caseCount
    manifestVersion := input.metadata.manifestVersion
    createdAt := Instant.stored input.metadata.createdAt
    publishLeaseToken := none
    publishLeaseUntil := none
    publishAttemptCount := 0
    publishNextAttemptAt := now
    publishLastErrorCode := none
    publishAbandonedAt := none }

/-- The unique keys of the table take in the deleted rows too. -/
def StoredBundle.clashes (row other : StoredBundle) : Bool :=
  other.id = row.id ∨ other.externalID = row.externalID ∨ other.tenantID = row.tenantID ∧ other.sha256 = row.sha256

def insertBundle : BundleTx Unit := do
  let taken ← query fun db => db.bundles.any row.clashes
  ensure (!taken) (.failed "insert immutable bundle metadata" .duplicateKey)
  execute fun db => { db with bundles := db.bundles ++ [row] }

def uploadRecord (input : BundleCommitInput) (metadata : BundleMetadata) (existing : Bool) : UploadRecord :=
  { tenantID
    operationScope := bundleUploadOperationScope
    keyDigest := input.idempotencyDigest
    requestHash := input.requestHash
    resourceType := lit "bundle"
    resourceExternalID := metadata.bundleID
    expiresAt := Instant.stored input.idempotencyExpiresAt
    responseStatus := statusForBundleCommit existing
    response := metadata }

def insertUpload (record : UploadRecord) : BundleTx Unit := do
  let taken ← query fun db => db.uploads.any (UploadRecord.isFor record.tenantID record.keyDigest)
  ensure (!taken) (.failed "insert bundle idempotency" .duplicateKey)
  execute fun db => { db with uploads := db.uploads ++ [record] }

/-! ### Commits of uploads -/

def StoredBundle.revivable (bundleID : GoString) (digest : Bytes) (row : StoredBundle) : Bool :=
  row.tenantID = tenantID ∧ row.externalID = bundleID ∧ row.sha256 = digest ∧ row.deletedAt.isNone ∧
    (row.publicationStatus = .abandoned ∨ row.stagingObjectKey.isNone)

def StoredBundle.revive (stagingKey : GoString) (nextAttempt : Time) (row : StoredBundle) : StoredBundle :=
  { row with
    stagingObjectKey := some stagingKey
    publicationStatus := .pending
    readyAt := none
    publishLeaseToken := none
    publishLeaseUntil := none
    publishAttemptCount := 0
    publishNextAttemptAt := nextAttempt
    publishLastErrorCode := none
    publishAbandonedAt := none
    deleteMarkedAt := none }

def reviveBundlePublication (bundleID : GoString) (input : BundleCommitInput) : BundleTx Unit :=
  updateBundle (StoredBundle.revivable tenantID bundleID input.requestHash)
    (StoredBundle.revive input.stagingObjectKey (Instant.stored input.metadata.createdAt))
    (.detail "revive immutable bundle publication: state changed concurrently")

/-- `UPDATE t_external_bundle SET delete_marked_at = NULL`. -/
def retainBundle (bundleID : GoString) (db : BundleDb) : BundleDb :=
  let live (row : StoredBundle) : Bool := row.tenantID = tenantID ∧ row.externalID = bundleID ∧ row.deletedAt.isNone
  { db with bundles := Table.update live (fun row => { row with deleteMarkedAt := none }) db.bundles }

def replayUpload (input : BundleCommitInput) (record : UploadRecord) (row : StoredBundle) :
    BundleTx BundleCommitResult := do
  ensure (record.requestHash.length = 32) (.detail "stored bundle idempotency hash is invalid")
  ensure (record.requestHash = input.requestHash) .idempotencyConflict
  ensure (validBundleMetadata record.response) (.detail "stored bundle idempotency response is invalid")
  let stagingKey := row.stagingObjectKey.getD []
  if bundlePublicationNeedsFreshStaging row.publicationStatus stagingKey then
    reviveBundlePublication tenantID record.response.bundleID input
    return ⟨record.response, true, .pending, input.stagingObjectKey⟩
  else return ⟨record.response, true, row.publicationStatus, stagingKey⟩

def storeBundle (id tenantID : Nat) (input : BundleCommitInput) : BundleTx BundleCommitResult := do
  match ← attempt (findBundleByDigest tenantID input.requestHash) with
  | none =>
    let now ← query BundleDb.now
    insertBundle (newBundle id tenantID input now)
    return ⟨input.metadata, false, .pending, input.stagingObjectKey⟩
  | some (metadata, status, stagingKey) =>
    if bundlePublicationNeedsFreshStaging status stagingKey then
      reviveBundlePublication tenantID metadata.bundleID input
      return ⟨metadata, true, .pending, input.stagingObjectKey⟩
    else
      execute (retainBundle tenantID metadata.bundleID)
      return ⟨metadata, true, status, stagingKey⟩

/-- `CommitBundleUpload`; the database assigns the identifier of a new row. -/
def commitBundleUpload (id : Nat) (input : BundleCommitInput) : BundleTx BundleCommitResult := do
  ensure (validBundleCommitInput input) (.detail "bundle commit input is invalid")
  let tenant ← require (activeTenant input.tenantID) .bundleNotFound
  let policy ← require (fun _ => decodeTenantPolicy tenant.policyJSON) (.annotated .invalidBundle "bundle tenant policy is invalid")
  ensure (bundleWithinTenantPolicy input policy) (.annotated .invalidBundle "execution limits exceed tenant maximum")
  execute (expireUploads tenant.id input.idempotencyDigest)
  match ← query (findUpload tenant.id input.idempotencyDigest) with
  | some (record, row) => replayUpload tenant.id input record row
  | none =>
    let result ← storeBundle id tenant.id input
    insertUpload (uploadRecord tenant.id input result.metadata result.replay)
    return result

/-! ### Publication -/

def StoredBundle.claimable (now : Instant) (row : StoredBundle) : Bool :=
  row.stagingObjectKey.isSome ∧ row.deletedAt.isNone ∧ row.publishAbandonedAt.isNone ∧
    (row.publicationStatus = .pending ∧ row.publishNextAttemptAt.instant ≤ now ∨
      row.publicationStatus = .publishing ∧ row.publishLeaseUntil.any fun lease => decide (lease.instant ≤ now))

def StoredBundle.awaits (bundleID : GoString) (now : Instant) (row : StoredBundle) : Bool :=
  row.tenantID = tenantID ∧ row.externalID = bundleID ∧ row.claimable now

def StoredBundle.lease (token : GoString) (leaseUntil : Time) (row : StoredBundle) : StoredBundle :=
  { row with
    publicationStatus := .publishing
    publishLeaseToken := some token
    publishLeaseUntil := some leaseUntil
    publishAttemptCount := row.publishAttemptCount + 1
    publishLastErrorCode := none }

def scanBundlePublicationClaim (tenant : TenantRow) (row : StoredBundle) : Except BundleError BundlePublicationClaim :=
  let claim : BundlePublicationClaim :=
    { tenantID := tenant.externalID
      bundleID := row.externalID
      objectKey := row.objectKey
      stagingKey := row.stagingObjectKey.getD []
      requestHash := row.sha256
      sizeBytes := row.sizeBytes
      leaseToken := row.publishLeaseToken.getD []
      attemptCount := row.publishAttemptCount }
  if row.sha256.length ≠ 32 then .error (.detail "stored bundle publication digest is invalid")
  else if !validBundlePublicationClaim claim then .error (.detail "stored bundle publication claim is invalid")
  else .ok claim

def loadBundlePublicationClaim (bundleID token : GoString) (db : BundleDb) :
    Except BundleError BundlePublicationClaim :=
  match db.bundles.find? (fun row => row.tenantID = tenantID ∧ row.externalID = bundleID ∧ row.publishLeaseToken = some token),
    db.tenants.find? (fun tenant => tenant.id = tenantID) with
  | some row, some tenant => scanBundlePublicationClaim tenant row
  | _, _ => .error .noRows

end

/-- `ClaimBundlePublication`. Where no row can be claimed, the transaction is rolled back. -/
def claimBundlePublication (tenantID bundleID leaseToken : GoString) (now leaseUntil : Instant) :
    BundleTx (Option BundlePublicationClaim) := do
  ensure (matchesExternalID tenantID ∧ matchesExternalID bundleID ∧ matchesExternalID leaseToken ∧ now < leaseUntil)
    (.detail "bundle publication claim is invalid")
  let tenant ← require (activeTenant tenantID) .bundleNotFound
  let affected ← query fun db => db.bundles.countP (StoredBundle.awaits tenant.id bundleID now)
  if affected ≠ 1 then return none
  else
    let lease := StoredBundle.lease leaseToken (Instant.stored leaseUntil)
    execute fun db => { db with bundles := Table.update (StoredBundle.awaits tenant.id bundleID now) lease db.bundles }
    let claim ← wrap (.failed "load bundle publication claim") (attempt (loadBundlePublicationClaim tenant.id bundleID leaseToken))
    return some claim

/-- The row that `ClaimNextBundlePublication` claims next. -/
def selectNextBundlePublication (now : Instant) (db : BundleDb) : Option (GoString × GoString) :=
  let active (row : StoredBundle) : Option TenantRow :=
    db.tenants.find? fun tenant => tenant.id = row.tenantID ∧ tenant.status = .active
  (Table.first (fun row => row.claimable now && (active row).isSome)
    (fun row => (toLex (row.publishNextAttemptAt, row.id) : Nat ×ₗ Nat)) db.bundles).bind fun row =>
      (active row).map fun tenant => (tenant.externalID, row.externalID)

/-- The row is leased to the claim; neither of the statements below asks for the time. -/
def BundlePublicationClaim.holds (tenantID : Nat) (row : StoredBundle) : Bool :=
  row.tenantID = tenantID ∧ row.externalID = claim.bundleID ∧ row.sha256 = claim.requestHash ∧
    row.publicationStatus = .publishing ∧ row.publishLeaseToken = some claim.leaseToken ∧ row.deletedAt.isNone

def StoredBundle.complete (readyAt : Time) (row : StoredBundle) : StoredBundle :=
  { row with
    publicationStatus := .ready
    readyAt := some readyAt
    publishLeaseToken := none
    publishLeaseUntil := none
    publishLastErrorCode := none }

def completeBundlePublication (readyAt : Instant) : BundleTx Unit := do
  ensure (validBundlePublicationClaim claim ∧ readyAt ≠ 0) (.detail "bundle publication completion is invalid")
  let tenant ← require (activeTenant claim.tenantID) (.failed "lock bundle publication tenant" .noRows)
  updateBundle (claim.holds tenant.id) (StoredBundle.complete (Instant.stored readyAt)) .bundlePublishing

def StoredBundle.fail (abandoned : Bool) (code : GoString) (nextAttempt : Time) (row : StoredBundle) : StoredBundle :=
  { row with
    publicationStatus := if abandoned then .abandoned else .pending
    publishLeaseToken := none
    publishLeaseUntil := none
    publishNextAttemptAt := nextAttempt
    publishLastErrorCode := some code
    publishAbandonedAt := if abandoned then some nextAttempt else none }

def failBundlePublication (errorCode : GoString) (nextAttempt : Instant) (maxAttempts : Nat) :
    BundleTx Bool := do
  ensure (validBundlePublicationClaim claim ∧ validFailureCode errorCode ∧ nextAttempt ≠ 0 ∧ 0 < maxAttempts)
    (.detail "bundle publication failure is invalid")
  let abandoned : Bool := maxAttempts ≤ claim.attemptCount
  let tenant ← require (activeTenant claim.tenantID) (.failed "lock failed bundle publication tenant" .noRows)
  updateBundle (claim.holds tenant.id) (StoredBundle.fail abandoned errorCode (Instant.stored nextAttempt)) .bundlePublishing
  return abandoned

end

def StoredBundle.unrecoverable (before : Instant) (now : Time) (row : StoredBundle) : Bool :=
  row.stagingObjectKey.isNone ∧ row.readyAt.isNone ∧ row.createdAt.instant < before ∧
    (row.publicationStatus = .pending ∨ row.publicationStatus = .publishing) ∧
    row.publishLeaseUntil.all fun lease => decide (lease < now)

def StoredBundle.abandon (now : Time) (row : StoredBundle) : StoredBundle :=
  { row with
    publicationStatus := .abandoned
    publishAbandonedAt := some now
    publishLastErrorCode := some (lit "STAGING_OBJECT_UNAVAILABLE")
    publishLeaseToken := none
    publishLeaseUntil := none }

/-- `SweepUnrecoverableBundlePublications`. The rows are visited in an order the statement leaves open. -/
def sweepUnrecoverableBundlePublications (visits : List Nat) (before : Instant) (limit : Nat) : BundleTx Nat := do
  ensure (before ≠ 0 ∧ 0 < limit ∧ limit ≤ 1000) (.detail "bundle publication sweep is invalid")
  let now ← query BundleDb.now
  let matching ← query fun db => (db.bundles.filter (StoredBundle.unrecoverable before now)).map fun row => row.id
  let swept := (visits.filter matching.contains).take limit
  let hit (row : StoredBundle) : Bool := row.unrecoverable before now && swept.contains row.id
  let affected ← query fun db => db.bundles.countP hit
  execute fun db => { db with bundles := Table.update hit (StoredBundle.abandon now) db.bundles }
  return affected

/-! ### Reads -/

def findBundleUpload (tenantID : GoString) (keyDigest : Bytes) (db : BundleDb) :
    Except BundleError (Option BundleUploadLookup) :=
  if !matchesExternalID tenantID then .error (.detail "bundle repository is not configured")
  else
    let joined := (db.uploads.filter fun record =>
        db.tenants.any (fun tenant => tenant.id = record.tenantID ∧ tenant.isActive tenantID) ∧
          record.operationScope = bundleUploadOperationScope ∧ record.keyDigest = keyDigest ∧ db.now < record.expiresAt).filterMap
      (joinUpload db)
    match joined.head? with
    | none => .ok none
    | some (record, row) => do
      scanUpload record
      return some ⟨row.publicationStatus, record.requestHash, row.stagingObjectKey.getD [], record.response⟩

def findBundle (tenantID bundleID : GoString) (db : BundleDb) : Except BundleError BundleMetadata :=
  if !matchesExternalID tenantID ∨ !matchesExternalID bundleID then .error .bundleNotFound
  else
    match db.bundles.find? fun row =>
      db.tenants.any (fun tenant => tenant.id = row.tenantID ∧ tenant.isActive tenantID) ∧ row.externalID = bundleID ∧
        row.publicationStatus = .ready ∧ row.readyAt.isSome ∧ row.deletedAt.isNone with
    | none => .error .bundleNotFound
    | some row =>
      match scanBundleMetadata row with
      | .error error => .error (.failed "find tenant bundle" error)
      | .ok metadata => .ok metadata

/-- A live row still has to be published from the staging object. -/
def StoredBundle.references (key : GoString) (row : StoredBundle) : Bool :=
  row.stagingObjectKey = some key ∧ (row.publicationStatus = .pending ∨ row.publicationStatus = .publishing) ∧ row.deletedAt.isNone

def validBundleStagingGCKey (key : GoString) : Bool :=
  match split 47 key with
  | [first, second, third, fourth] =>
    first = lit "external-staging" ∧ matchesExternalID second ∧ matchesExternalID third ∧
      (lit ".zip").isSuffixOf fourth ∧ matchesLowerSHA256 (fourth.take (fourth.length - 4))
  | _ => false

def isBundleStagingReferenced (key : GoString) (db : BundleDb) : Except BundleError Bool :=
  if validBundleStagingGCKey key then .ok (db.bundles.any (StoredBundle.references key))
  else .error (.detail "bundle staging reference lookup is invalid")

/-! ### The system -/

structure PublicationState where
  db : BundleDb
  granted : List (BundlePublicationClaim × Time)
deriving Repr

/-- One step of the repository. A completion or a failure carries a claim that was granted before;
tenants may change at any time. -/
inductive BundleEvent where
  | tick (elapsed : Nat)
  | provision (tenants : List TenantRow)
  | upload (id : Nat) (input : BundleCommitInput)
  | claim (tenantID bundleID leaseToken : GoString) (now leaseUntil : Instant)
  | complete (claim : BundlePublicationClaim) (readyAt : Instant)
  | fail (claim : BundlePublicationClaim) (errorCode : GoString) (nextAttempt : Instant) (maxAttempts : Nat)
  | sweep (visits : List Nat) (before : Instant) (limit : Nat)

def PublicationState.holds (state : PublicationState) (claim : BundlePublicationClaim) : Bool :=
  state.granted.any fun entry => entry.1 = claim

def grantedClaim (leaseUntil : Instant) (outcome : Except BundleError (Option BundlePublicationClaim)) :
    List (BundlePublicationClaim × Time) :=
  match outcome with
  | .ok (some claim) => [(claim, Instant.stored leaseUntil)]
  | _ => []

def bundleStep (event : BundleEvent) (state : PublicationState) : PublicationState :=
  match event with
  | .tick elapsed => { state with db := { state.db with now := state.db.now + elapsed } }
  | .provision tenants => { state with db := { state.db with tenants } }
  | .upload id input => { state with db := ((commitBundleUpload id input).commit state.db).2 }
  | .claim tenantID bundleID leaseToken now leaseUntil =>
    let outcome := (claimBundlePublication tenantID bundleID leaseToken now leaseUntil).commit state.db
    ⟨outcome.2, state.granted ++ grantedClaim leaseUntil outcome.1⟩
  | .complete claim readyAt =>
    if state.holds claim then { state with db := ((completeBundlePublication claim readyAt).commit state.db).2 } else state
  | .fail claim errorCode nextAttempt maxAttempts =>
    if state.holds claim then
      { state with db := ((failBundlePublication claim errorCode nextAttempt maxAttempts).commit state.db).2 }
    else state
  | .sweep visits before limit => { state with db := ((sweepUnrecoverableBundlePublications visits before limit).commit state.db).2 }

end JudgingServer.External
