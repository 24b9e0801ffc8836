import JudgingServer.External.BundleStore
import JudgingServer.External.Submission

/-! The bundle service: the upload of a bundle, its publication, the reconciler that
takes up publications where they were left, and the collector of staging objects that
no row refers to. -/

namespace JudgingServer.External
open Go Bundle Library

structure BundleService where
  digests : Digests
  inspectArchive : Bytes → Except String (Manifest × Json)
  maxUploadBytes : Nat
  maxTimeLimitMillis : Int
  maxMemoryLimitMiB : Int
  idempotencyTTL : Duration
  idempotencyPepper : Bytes
  publicationLease : Duration
  publicationRetry : Duration
  maxPublishAttempts : Nat
  pendingAbandonAfter : Duration

def maxExternalBundleCasesV1 : Nat := 256

/-- What an upload is called with: the stream as far as it could be read, the admission if there
is one, and what is drawn from the random source. -/
structure BundleUpload where
  tenantID : GoString
  idempotencyKey : GoString
  source : Except BundleError Bytes
  admission : Option (Int → Except BundleError Unit)
  random : List Bytes

structure InspectedUpload where
  tenantID : GoString
  idempotencyDigest : Bytes
  requestHash : Bytes
  written : Nat
  manifest : Manifest
  manifestJSON : Json

def runAdmission (admission : Option (Int → Except BundleError Unit)) (size : Int) : Except BundleError Unit :=
  match admission with
  | some admission => admission size
  | none => .ok ()

variable (service : BundleService)

def inspectUpload (upload : BundleUpload) : Except BundleError InspectedUpload := do
  rejectIf (!matchesExternalID upload.tenantID) (.annotated .invalidBundle "tenant and bundle stream are required")
  let idempotencyDigest ← (digestIdempotencyKey service.digests upload.idempotencyKey service.idempotencyPepper).mapError
    fun _ => .invalidIdempotency
  let content ← upload.source
  rejectIf (service.maxUploadBytes < content.length) .bundleTooLarge
  rejectIf (content.length = 0) (.annotated .invalidBundle "upload is empty")
  runAdmission upload.admission content.length
  let (manifest, manifestJSON) ← (service.inspectArchive content).mapError (.annotated .invalidBundle)
  rejectIf (maxExternalBundleCasesV1 < manifest.cases.length) (.annotated .invalidBundle "manifest exceeds 256 cases")
  rejectIf (!manifestWithinExecutionCeilings manifest service.maxTimeLimitMillis service.maxMemoryLimitMiB)
    (.annotated .invalidBundle "execution limits exceed platform maximum")
  return ⟨upload.tenantID, idempotencyDigest, service.digests.sha256 content, content.length, manifest, manifestJSON⟩

/-! ### Publication -/

def promotionFailureCode : GoString := lit "OBJECT_PROMOTION_FAILED"

def publishOwnedBundle (tenantID bundleID : GoString) (digest : Bytes) (random : List Bytes) :
    BundleProcess (Except BundleError Unit) := do
  match generateExternalID random with
  | .error error => return .error (.repository error)
  | .ok (leaseToken, _) =>
    let now ← clockNow
    match ← Repository.claimBundlePublication tenantID bundleID leaseToken now (now + service.publicationLease) with
    | .error error => return .error error
    | .ok none =>
      match ← Repository.findBundle tenantID bundleID with
      | .ok _ => return .ok ()
      | .error _ => return .error .bundlePublishing
    | .ok (some claim) =>
      if claim.requestHash ≠ digest then return .error (.detail "claimed bundle digest does not match upload")
      else
        match ← promote claim.stagingKey claim.objectKey claim.sizeBytes claim.requestHash with
        | .error error =>
          let _ ← Repository.failBundlePublication claim promotionFailureCode (now + service.publicationRetry)
            service.maxPublishAttempts
          return .error (.failed "promote immutable bundle object" error)
        | .ok () =>
          let readyAt ← clockNow
          match ← Repository.completeBundlePublication claim readyAt with
          | .error error => return .error (.failed "complete immutable bundle publication" error)
          | .ok () =>
            let _ ← discard claim.stagingKey
            return .ok ()

/-! ### Uploads -/

variable (inspected : InspectedUpload)

def commitInput (bundleID stagingKey : GoString) (now : Instant) :
    BundleCommitInput :=
  { tenantID := inspected.tenantID
    idempotencyDigest := inspected.idempotencyDigest
    requestHash := inspected.requestHash
    objectKey := bundleObjectKey inspected.tenantID inspected.requestHash
    stagingObjectKey := stagingKey
    manifestJSON := inspected.manifestJSON
    timeLimitMillis := inspected.manifest.limits.timeLimitMillis
    memoryLimitMiB := inspected.manifest.limits.memoryLimitMiB
    metadata := ⟨bundleID, encodeHex inspected.requestHash, inspected.written, inspected.manifest.cases.length,
      inspected.manifest.schemaVersion, now⟩
    idempotencyExpiresAt := now + service.idempotencyTTL }

def publishUpload (stagingKey : GoString) (random : List Bytes)
    (result : BundleCommitResult) : BundleProcess (Except BundleError (BundleMetadata × Bool)) := do
  if result.stagingKey ≠ stagingKey then
    let _ ← discard stagingKey
  if result.status = .ready then return .ok (result.metadata, result.replay)
  else if result.status = .abandoned then return .error .bundleAbandoned
  else
    match ← publishOwnedBundle service inspected.tenantID result.metadata.bundleID inspected.requestHash random with
    | .error error => return .error error
    | .ok () => return .ok (result.metadata, result.replay)

def storeUpload (uploadID bundleID : GoString) (random : List Bytes) :
    BundleProcess (Except BundleError (BundleMetadata × Bool)) := do
  let stagingKey := stagingBundleObjectKey inspected.tenantID uploadID inspected.requestHash
  match ← stage stagingKey inspected.written inspected.requestHash with
  | .error error => return .error (.failed "stage immutable bundle object" error)
  | .ok () =>
    let now ← clockNow
    match ← Repository.commitBundleUpload (commitInput service inspected bundleID stagingKey now) with
    | .error error =>
      if error.is .idempotencyConflict ∨ error.is .bundleNotFound ∨ error.is .invalidBundle then
        let _ ← discard stagingKey
      return .error error
    | .ok result => publishUpload service inspected stagingKey random result

def newUpload (random : List Bytes) :
    BundleProcess (Except BundleError (BundleMetadata × Bool)) :=
  match generateExternalID random with
  | .error error => return .error (.repository error)
  | .ok (uploadID, random) =>
    match generateExternalID random with
    | .error error => return .error (.repository error)
    | .ok (bundleID, random) => storeUpload service inspected uploadID bundleID random

def uploadWithAdmission (upload : BundleUpload) :
    BundleProcess (Except BundleError (BundleMetadata × Bool)) := do
  match inspectUpload service upload with
  | .error error => return .error error
  | .ok inspected =>
    match ← Repository.findBundleUpload inspected.tenantID inspected.idempotencyDigest with
    | .error error => return .error (.failed "find bundle upload idempotency" error)
    | .ok none => newUpload service inspected upload.random
    | .ok (some lookup) =>
      if lookup.requestHash ≠ inspected.requestHash then return .error .idempotencyConflict
      else if lookup.status = .ready then return .ok (lookup.metadata, true)
      else if bundlePublicationNeedsFreshStaging lookup.status lookup.stagingKey then
        newUpload service inspected upload.random
      else
        match ← publishOwnedBundle service inspected.tenantID lookup.metadata.bundleID inspected.requestHash upload.random with
        | .error error => return .error error
        | .ok () => return .ok (lookup.metadata, true)

/-- `BundleService.Get`. -/
def getBundle (tenantID bundleID : GoString) (db : BundleDb) : Except BundleError BundleMetadata :=
  if !matchesExternalID tenantID ∨ !matchesExternalID bundleID then .error .bundleNotFound else findBundle tenantID bundleID db

/-! ### Reconciliation -/

/-- `ClaimNextBundlePublication`: a read and the claim of what it found. -/
def claimNextBundlePublication (leaseToken : GoString) (now leaseUntil : Instant) :
    BundleProcess (Except BundleError (Option BundlePublicationClaim)) := do
  if !matchesExternalID leaseToken ∨ leaseUntil ≤ now then return .error (.detail "next bundle publication claim is invalid")
  else
    match ← Repository.selectNextBundlePublication now with
    | .error error => return .error (.failed "select next bundle publication" error)
    | .ok none => return .ok none
    | .ok (some (tenantID, bundleID)) => Repository.claimBundlePublication tenantID bundleID leaseToken now leaseUntil

def publishClaimed (claim : BundlePublicationClaim) (now : Instant) :
    BundleProcess (Bool × Option BundleError) := do
  match ← promote claim.stagingKey claim.objectKey claim.sizeBytes claim.requestHash with
  | .error error =>
    match ← Repository.failBundlePublication claim promotionFailureCode (now + service.publicationRetry)
      service.maxPublishAttempts with
    | .error recordError => return (true, some (.failed "promote bundle; record failure" recordError))
    | .ok abandoned =>
      if abandoned then
        let _ ← discard claim.stagingKey
      return (true, some (.failed "promote bundle" error))
  | .ok () =>
    let readyAt ← clockNow
    match ← Repository.completeBundlePublication claim readyAt with
    | .error error => return (true, some (.failed "complete reconciled bundle publication" error))
    | .ok () =>
      let _ ← discard claim.stagingKey
      return (true, none)

def reconcileOnce (random : List Bytes) : BundleProcess (Bool × Option BundleError) := do
  let now ← clockNow
  match generateExternalID random with
  | .error error => return (false, some (.repository error))
  | .ok (leaseToken, _) =>
    match ← claimNextBundlePublication leaseToken now (now + service.publicationLease) with
    | .error error => return (false, some error)
    | .ok none =>
      match ← Repository.sweepUnrecoverableBundlePublications (now - service.pendingAbandonAfter) 100 with
      | .error error => return (false, some error)
      | .ok swept => return (decide (0 < swept), none)
    | .ok (some claim) => publishClaimed service claim now

/-! ### Collection -/

structure BundleStagingGarbageCollector where
  minimumAge : Duration
  batchSize : Nat
deriving DecidableEq, Repr

/-- The result of a sweep: the objects removed, the error that ended it, and where the next one starts. -/
structure StagingSweep where
  removed : Nat
  error : Option BundleError
  cursor : GoString
deriving DecidableEq, Repr

/-- The loop of `SweepOnce` over the candidates it has listed. -/
def collectStaging (cutoff : Instant) : List BundleStagingObject → Nat → BundleProcess (Nat × Option BundleError)
  | [], removed => return (removed, none)
  | candidate :: rest, removed => do
    if !validBundleStagingGCKey candidate.key ∨ candidate.lastModified = 0 ∨ cutoff ≤ candidate.lastModified then
      collectStaging cutoff rest removed
    else
      match ← Repository.isBundleStagingReferenced candidate.key with
      | .error error => return (removed, some error)
      | .ok true => collectStaging cutoff rest removed
      | .ok false =>
        match ← Repository.isBundleStagingReferenced candidate.key with
        | .error error => return (removed, some error)
        | .ok true => collectStaging cutoff rest removed
        | .ok false =>
          match ← discard candidate.key with
          | .error error => return (removed, some error)
          | .ok () =>
            match ← Repository.isBundleStagingReferenced candidate.key with
            | .error error => return (removed, some error)
            | .ok true => return (removed, some .stagingReferenceRace)
            | .ok false => collectStaging cutoff rest (removed + 1)

variable (collector : BundleStagingGarbageCollector)

def sweepOnce (cursor : GoString) : BundleProcess StagingSweep := do
  let now ← clockNow
  let cutoff := now - collector.minimumAge
  match ← listStaging cutoff cursor collector.batchSize with
  | .error error => return ⟨0, some error, cursor⟩
  | .ok (candidates, next) =>
    match ← collectStaging cutoff candidates 0 with
    | (removed, some error) => return ⟨removed, some error, cursor⟩
    | (removed, none) => return ⟨removed, none, next⟩

/-! ### The processes of a deployment -/

inductive BundleTask where
  | upload (request : BundleUpload)
  | publish (tenantID bundleID : GoString) (digest : Bytes) (random : List Bytes)
  | reconcile (random : List Bytes)
  | collect (cursor : GoString)

def BundleTask.process : BundleTask → BundleProcess Unit
  | .upload request => do
    let _ ← uploadWithAdmission service request
    return ()
  | .publish tenantID bundleID digest random => do
    let _ ← publishOwnedBundle service tenantID bundleID digest random
    return ()
  | .reconcile random => do
    let _ ← reconcileOnce service random
    return ()
  | .collect cursor => do
    let _ ← sweepOnce collector cursor
    return ()

def BundleTask.stagingKey : BundleTask → Option GoString
  | .upload request =>
    match inspectUpload service request, generateExternalID request.random with
    | .ok inspected, .ok (uploadID, _) => some (stagingBundleObjectKey inspected.tenantID uploadID inspected.requestHash)
    | _, _ => none
  | _ => none

def BundleTask.stagedSize : BundleTask → Int
  | .upload request =>
    match inspectUpload service request with
    | .ok inspected => inspected.written
    | .error _ => 0
  | _ => 0

end JudgingServer.External
