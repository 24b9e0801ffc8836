import JudgingServer.External.JobWorker

/-! `Submit`: the values a submission is prepared with, the statements it runs and
the transaction that creates the job. -/

namespace JudgingServer.External
open Go Library Transaction

structure JudgeJobRequest where
  bundleID : GoString
  language : GoString
  sourceCode : Bytes
  stopOnFailure : Bool
  callbackID : GoString
  clientReference : GoString
deriving DecidableEq, Repr

/-- `^[a-z][a-z0-9._-]{1,31}$` -/
def matchesLanguageID (id : GoString) : Bool :=
  match id with
  | [] => false
  | first :: rest =>
    isLower first && decide (1 ≤ rest.length) && decide (rest.length ≤ 31) &&
      rest.all fun byte => isLower byte || isDigit byte || byte == 46 || byte == 95 || byte == 45

def validateIdempotencyKey (key : GoString) : Except String Unit :=
  if key.length < 16 ∨ 128 < key.length then
    .error "idempotency key must contain 16 to 128 visible ASCII characters"
  else if !key.all fun byte => between 0x21 0x7e byte then
    .error "idempotency key must contain visible ASCII without whitespace"
  else .ok ()

variable (digests : Digests)

def digestIdempotencyKey (key : GoString) (pepper : Bytes) : Except String Bytes := do
  validateIdempotencyKey key
  rejectIf (pepper.length < 32) "idempotency pepper must contain at least 256 bits"
  return digests.hmac pepper key

def canonicalRequestJSON (request : JudgeJobRequest) : Json :=
  .object ([(lit "bundleId", .string request.bundleID), (lit "language", .string request.language),
    (lit "sourceSha256", .string (encodeHex (digests.sha256 request.sourceCode))),
    (lit "sourceSizeBytes", .int request.sourceCode.length), (lit "stopOnFailure", .bool request.stopOnFailure)] ++
    jsonOptionalText (lit "callbackId") request.callbackID ++
    jsonOptionalText (lit "clientReference") request.clientReference)

def canonicalJobRequestHash (request : JudgeJobRequest) (maxSourceBytes : Int) : Except String Bytes :=
  if !matchesExternalID request.bundleID then .error "bundle ID is invalid"
  else if !matchesLanguageID request.language then .error "language ID is invalid"
  else if maxSourceBytes ≤ 0 ∨ request.sourceCode.length = 0 ∨ maxSourceBytes < request.sourceCode.length ∨
      !validString request.sourceCode then
    .error "source code is empty, oversized, or not UTF-8"
  else if request.callbackID ≠ [] ∧ !matchesExternalID request.callbackID then .error "callback ID is invalid"
  else if 255 < request.clientReference.length ∨ !validString request.clientReference then
    .error "client reference is oversized or not UTF-8"
  else .ok (digests.sha256 (canonicalRequestJSON digests request).marshal)

def sourceObjectKey (tenantID sourceID : GoString) : Except String GoString :=
  if matchesExternalID tenantID ∧ matchesExternalID sourceID then
    .ok (lit "external/" ++ tenantID ++ lit "/sources/" ++ sourceID ++ lit ".bin")
  else .error "tenant or source object ID is invalid"

def submissionSourceExternalID (tenantExternalID : GoString) (keyDigest : Bytes) : GoString :=
  encodeBase32Lower ((digests.sha256 (tenantExternalID ++ [0] ++ keyDigest)).take 16)

structure EncryptedSource where
  ciphertext : Bytes
  nonce : Bytes
  keyVersion : Nat
  sha256 : Bytes
  sizeBytes : Int
deriving DecidableEq, Repr

/-- What a submission draws from the random source, and what the cipher makes of
its source code. -/
structure SubmissionDraws where
  externalIDs : List Bytes
  encrypted : Option EncryptedSource
  coordinationToken : Option Bytes
  sourceToken : Option Bytes
deriving DecidableEq, Repr

structure Submission where
  tenantExternalID : GoString
  keyDigest : Bytes
  requestHash : Bytes
  request : JudgeJobRequest
  coordinationKey : GoString
  sourceExternalID : GoString
  jobExternalID : GoString
  sourceKey : GoString
  encrypted : EncryptedSource
  coordinationToken : Bytes
  sourceToken : Bytes
deriving DecidableEq, Repr

def drawn {α : Type} (operation : String) (value : Option α) : Except RepositoryError α :=
  match value with
  | some value => .ok value
  | none => .error (.unavailable operation (.detail "unexpected EOF"))

variable (repository : JobRepository)

def prepareSubmission (draws : SubmissionDraws) (tenantExternalID idempotencyKey : GoString)
    (request : JudgeJobRequest) : Except RepositoryError Submission := do
  let digests := repository.digests
  rejectIf (!matchesExternalID tenantExternalID) .externalJobInvalid
  let keyDigest ← (digestIdempotencyKey digests idempotencyKey repository.idempotencyPepper).mapError
    fun _ => .annotated .externalJobInvalid "invalid idempotency key"
  let requestHash ← (canonicalJobRequestHash digests request request.sourceCode.length).mapError
    (.annotated .externalJobInvalid)
  let coordinationKey ← (sourceObjectKey tenantExternalID (submissionSourceExternalID digests tenantExternalID keyDigest)).mapError
    fun text => .unavailable "derive submission reservation key" (.detail text)
  let (sourceExternalID, left) ← (generateExternalID draws.externalIDs).mapError (.unavailable "generate source object ID")
  let (jobExternalID, _) ← (generateExternalID left).mapError (.unavailable "generate job ID")
  let sourceKey ← (sourceObjectKey tenantExternalID sourceExternalID).mapError
    fun text => .unavailable "derive source object key" (.detail text)
  let encrypted ← drawn "encrypt source" draws.encrypted
  let coordinationToken ← drawn "generate submission reservation token" draws.coordinationToken
  let sourceToken ← drawn "generate source reservation token" draws.sourceToken
  return { tenantExternalID, keyDigest, requestHash, request, coordinationKey, sourceExternalID, jobExternalID,
           sourceKey, encrypted, coordinationToken, sourceToken }

def submitJobIdempotencyScope : GoString := lit "judge-job-submit"

variable (submission : Submission)

/-- The unexpired idempotency record `findSubmitReplay` looks for. -/
def findReplayRecord (db : Db) : Option IdempotencyRow :=
  db.idempotency.find? fun record =>
    db.tenants.any (fun tenant => tenant.id = record.tenantID ∧ tenant.externalID = submission.tenantExternalID) ∧
      record.operationScope = submitJobIdempotencyScope ∧ record.keyDigest = submission.keyDigest ∧ db.now < record.expiresAt

structure SubmitJobResult where
  job : ExternalJobRecord
  replayed : Bool
deriving DecidableEq, Repr

/-- What an idempotency record means for the submission: a replay of its job, or a
conflict with another request. -/
def replayRecord (record : IdempotencyRow) (db : Db) : Except RepositoryError SubmitJobResult :=
  if record.requestHash ≠ submission.requestHash then .error .externalJobConflict
  else
    match getExternalJob submission.tenantExternalID record.resourceExternalID db with
    | .error error => .error (.unavailable "read replayed job" error)
    | .ok job => .ok ⟨job, true⟩

section

variable (objectKey : GoString)

/-- `INSERT IGNORE` of a reservation; it fails to insert where the key exists. -/
def reservationTaken (db : Db) : Bool :=
  db.reservations.any fun reservation => reservation.objectKey = objectKey

variable (ownerToken : Bytes)

def insertReservation (lease : Duration) (db : Db) : Db :=
  { db with reservations := db.reservations ++ [⟨objectKey, ownerToken, db.now.add lease, db.now⟩] }

def expiredReservation (now : Time) (reservation : ReservationRow) : Bool :=
  reservation.objectKey = objectKey ∧ reservation.leaseUntil ≤ now

def takeOver (lease : Duration) (now : Time) (reservation : ReservationRow) : ReservationRow :=
  { reservation with ownerToken, leaseUntil := now.add lease, createdAt := now }

def takeOverReservation (lease : Duration) (db : Db) : Db :=
  { db with reservations := Table.update (expiredReservation objectKey db.now) (takeOver ownerToken lease db.now) db.reservations }

/-- `tryAcquireSourceReservation`: both statements, with nothing in between. -/
def tryAcquireSourceReservation (lease : Duration) (db : Db) : Bool × Db :=
  if reservationTaken objectKey db then
    (Table.affected (expiredReservation objectKey db.now) (takeOver ownerToken lease db.now) db.reservations == 1,
      takeOverReservation objectKey ownerToken lease db)
  else (true, insertReservation objectKey ownerToken lease db)

end

structure SourceReservationClaim where
  objectKey : GoString
  ownerToken : Bytes
deriving DecidableEq, Repr

def Submission.coordination : SourceReservationClaim :=
  ⟨submission.coordinationKey, submission.coordinationToken⟩

def Submission.sourceReservation : SourceReservationClaim :=
  ⟨submission.sourceKey, submission.sourceToken⟩

def SourceReservationClaim.owns (claim : SourceReservationClaim) (reservation : ReservationRow) : Bool :=
  reservation.objectKey = claim.objectKey ∧ reservation.ownerToken = claim.ownerToken

def reservationHeld (claim : SourceReservationClaim) (db : Db) : Bool :=
  db.reservations.any fun reservation => claim.owns reservation ∧ db.now < reservation.leaseUntil

def lockSubmissionReservations (first second : SourceReservationClaim) : Tx Unit := do
  let (first, second) := if second.objectKey < first.objectKey then (second, first) else (first, second)
  ensure (← query (reservationHeld first)) (.unavailable "lock encrypted source reservation" .noRows)
  ensure (← query (reservationHeld second)) (.unavailable "lock encrypted source reservation" .noRows)

def lockTenantPolicy (tenantExternalID : GoString) : Tx (Nat × TenantPolicy) := do
  let tenant ← require (fun db => db.tenants.find? fun tenant => tenant.externalID = tenantExternalID)
    (.unavailable "lock tenant policy" .noRows)
  ensure (tenant.status = .active) .externalJobUnavailable
  let policy ← require (fun _ => decodeTenantPolicy tenant.policyJSON) .externalJobUnavailable
  return (tenant.id, policy)

variable (tenantID : Nat)

def IdempotencyRow.isFor (keyDigest : Bytes) (record : IdempotencyRow) : Bool :=
  record.tenantID = tenantID ∧ record.operationScope = submitJobIdempotencyScope ∧ record.keyDigest = keyDigest

def expireIdempotency (keyDigest : Bytes) (now : Time) (db : Db) : Db :=
  { db with idempotency := Table.delete (fun record => record.isFor tenantID keyDigest ∧ record.expiresAt ≤ now) db.idempotency }

def findIdempotency (keyDigest : Bytes) (db : Db) : Option IdempotencyRow :=
  db.idempotency.find? fun record => record.isFor tenantID keyDigest

def queuedJobs (db : Db) (tenantID : Nat) : Nat :=
  db.jobs.countP fun job => job.tenantID = tenantID ∧ job.status = .queued

def BundleRow.available (externalID : GoString) (bundle : BundleRow) : Bool :=
  bundle.tenantID = tenantID ∧ bundle.externalID = externalID ∧ bundle.publicationStatus = .ready ∧
    bundle.readyAt.isSome ∧ bundle.deleteMarkedAt.isNone ∧ bundle.deletedAt.isNone

def CallbackRow.available (externalID : GoString) (callback : CallbackRow) : Bool :=
  callback.tenantID = tenantID ∧ callback.externalID = externalID ∧ callback.disabledAt.isNone ∧
    callback.secretNonce.any (fun nonce => decide (nonce.length = 12)) ∧ 16 < callback.secretCiphertext.length ∧
    0 < callback.secretKeyVersion

/-- The bundle and the callback a new job will refer to, once the limits allow it. -/
def admitSubmission (policy : TenantPolicy) : Tx (Nat × Option Nat) := do
  ensure ((submission.request.sourceCode.length : Int) ≤ policy.maxSourceBytes)
    (.annotated .externalJobInvalid "source code exceeds current tenant policy")
  let queued ← query fun db => queuedJobs db tenantID
  ensure ((queued : Int) < policy.maxQueuedJobs) .queuedQuotaExceeded
  let bundle ← require (fun db => db.bundles.find? fun bundle => bundle.available tenantID submission.request.bundleID)
    (.annotated .externalJobInvalid "bundle is unavailable")
  if submission.request.callbackID = [] then return (bundle.id, none)
  else
    let callback ← require
      (fun db => db.callbacks.find? fun callback => callback.available tenantID submission.request.callbackID)
      (.annotated .externalJobInvalid "callback is unavailable")
    return (bundle.id, some callback.id)

def submittedSource (tenantID sourceID : Nat) : SourceRow :=
  { id := sourceID
    externalID := submission.sourceExternalID
    tenantID
    objectKey := submission.sourceKey
    sha256 := submission.encrypted.sha256
    sizeBytes := submission.encrypted.sizeBytes
    keyVersion := submission.encrypted.keyVersion
    nonce := submission.encrypted.nonce
    deleteMarkedAt := none
    deleteToken := none
    deleteLeaseUntil := none
    deleteNextAttemptAt := none
    deletedAt := none }

def insertSource (source : SourceRow) : Tx Unit := do
  let taken ← query fun db => db.sources.any fun other =>
    other.id = source.id ∨ other.externalID = source.externalID ∨ other.objectKey = source.objectKey
  ensure (!taken) (.unavailable "persist source metadata" .duplicateKey)
  execute fun db => { db with sources := db.sources ++ [source] }

def submittedJob (tenantID bundleID sourceID jobID : Nat) (callbackID : Option Nat) (now : Time) :
    JobRow :=
  { id := jobID
    externalID := submission.jobExternalID
    tenantID
    bundleID
    sourceObjectID := sourceID
    callbackID
    status := .queued
    languageID := submission.request.language
    stopOnFailure := submission.request.stopOnFailure
    clientReference := if submission.request.clientReference.isEmpty then none else some submission.request.clientReference
    requestHash := submission.requestHash
    attemptNo := 0
    workerID := none
    leaseToken := none
    leaseUntil := none
    nextAttemptAt := now
    cancelRequestedAt := none
    result := none
    failureCode := none
    createdAt := now
    startedAt := none
    completedAt := none }

def insertJob (job : JobRow) : Tx Unit := do
  let taken ← query fun db => db.jobs.any fun other => other.id = job.id ∨ other.externalID = job.externalID
  ensure (!taken) (.unavailable "persist queued job" .duplicateKey)
  execute fun db => { db with jobs := db.jobs ++ [job] }

def submittedRecord (tenantID : Nat) (now : Time) : IdempotencyRow :=
  { tenantID
    operationScope := submitJobIdempotencyScope
    keyDigest := submission.keyDigest
    requestHash := submission.requestHash
    resourceType := lit "judge-job"
    resourceExternalID := submission.jobExternalID
    expiresAt := now.add repository.idempotencyTTL }

def insertIdempotency (record : IdempotencyRow) : Tx Unit := do
  let taken ← query fun db => db.idempotency.any fun other => other.tenantID = record.tenantID ∧
    other.operationScope = record.operationScope ∧ other.keyDigest = record.keyDigest
  ensure (!taken) (.unavailable "persist idempotency record" .duplicateKey)
  execute fun db => { db with idempotency := db.idempotency ++ [record] }

def Submission.ownsReservation (reservation : ReservationRow) : Bool :=
  submission.coordination.owns reservation || submission.sourceReservation.owns reservation

def publishReservations : Tx Unit := do
  let owned ← query fun db => db.reservations.countP submission.ownsReservation
  execute fun db => { db with reservations := Table.delete submission.ownsReservation db.reservations }
  ensure (owned = 2)
    (.unavailable "confirm published source reservations" (.detail ("affected reservations: " ++ toString owned)))

structure AssignedIDs where
  source : Nat
  job : Nat
deriving DecidableEq, Repr

/-- The statements from the insertion of the source to the read of the new job. -/
def createJob (assigned : AssignedIDs) (tenantID bundleID : Nat)
    (callbackID : Option Nat) (now : Time) : Tx ExternalJobRecord := do
  insertSource (submittedSource submission tenantID assigned.source)
  insertJob (submittedJob submission tenantID bundleID assigned.source assigned.job callbackID now)
  insertIdempotency (submittedRecord repository submission tenantID now)
  publishReservations submission
  unavailableOn "read submitted job" (getExternalJob submission.tenantExternalID submission.jobExternalID)

/-- A submission's transaction is also rolled back when it finds a job to replay. -/
inductive SubmitAbort where
  | failed (error : RepositoryError)
  | replayed (result : SubmitJobResult)
deriving DecidableEq, Repr

def submitTransaction (assigned : AssignedIDs) :
    Transaction Db SubmitAbort SubmitJobResult := do
  wrap .failed (lockSubmissionReservations submission.coordination submission.sourceReservation)
  let (tenantID, policy) ← wrap .failed (lockTenantPolicy submission.tenantExternalID)
  let now ← query Db.now
  execute (expireIdempotency tenantID submission.keyDigest now)
  match ← query (findIdempotency tenantID submission.keyDigest) with
  | some record =>
    let replay ← wrap .failed (attempt (replayRecord submission record))
    fail (.replayed replay)
  | none =>
    let (bundleID, callbackID) ← wrap .failed (admitSubmission submission tenantID policy)
    let job ← wrap .failed (createJob repository submission assigned tenantID bundleID callbackID now)
    return ⟨job, false⟩

end JudgingServer.External
