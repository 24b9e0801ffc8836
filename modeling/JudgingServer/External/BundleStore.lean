import JudgingServer.External.BundleRepository
import JudgingServer.Library.Concurrent

/-! The world that the bundle service, the reconciler and the staging collector share:
the database, the object store and the clock, the calls they make on it, and the object
store's operations as sequences of such calls. -/

namespace JudgingServer.External
open Go Bundle Library Transaction

structure StoredObject where
  size : Int
  sha256 : GoString
  lastModified : Instant
deriving DecidableEq, Repr

/-- The shared world. The last two fields are its history: what was put into the store, and
when a key became the staging key of a row. -/
structure BundleWorld where
  clock : Instant
  db : BundleDb
  objects : GoString → Option StoredObject
  staged : GoString → Option StoredObject
  attached : List (GoString × Instant)

inductive BundleCall where
  | now
  | findBundleUpload (tenantID : GoString) (keyDigest : Bytes)
  | commitBundleUpload (input : BundleCommitInput)
  | claimBundlePublication (tenantID bundleID leaseToken : GoString) (now leaseUntil : Instant)
  | selectNextBundlePublication (now : Instant)
  | completeBundlePublication (claim : BundlePublicationClaim) (readyAt : Instant)
  | failBundlePublication (claim : BundlePublicationClaim) (errorCode : GoString) (nextAttempt : Instant) (maxAttempts : Nat)
  | sweepUnrecoverableBundlePublications (before : Instant) (limit : Nat)
  | findBundle (tenantID bundleID : GoString)
  | isBundleStagingReferenced (key : GoString)
  | putObject (key : GoString) (size : Int) (sha256 : GoString)
  | statObject (key : GoString)
  | copyObject (source target sha256 : GoString)
  | removeObject (key : GoString)
  | listObjects (after : GoString) (limit : Nat)

structure BundleStagingObject where
  key : GoString
  lastModified : Instant
deriving DecidableEq, Repr

abbrev BundleCall.Answer : BundleCall → Type
  | .now => Instant
  | .findBundleUpload .. => Except BundleError (Option BundleUploadLookup)
  | .commitBundleUpload .. => Except BundleError BundleCommitResult
  | .claimBundlePublication .. => Except BundleError (Option BundlePublicationClaim)
  | .selectNextBundlePublication .. => Except BundleError (Option (GoString × GoString))
  | .completeBundlePublication .. => Except BundleError Unit
  | .failBundlePublication .. => Except BundleError Bool
  | .sweepUnrecoverableBundlePublications .. => Except BundleError Nat
  | .findBundle .. => Except BundleError BundleMetadata
  | .isBundleStagingReferenced .. => Except BundleError Bool
  | .putObject .. => Except BundleError Int
  | .statObject .. => Except BundleError (Option StoredObject)
  | .copyObject .. => Except BundleError Unit
  | .removeObject .. => Except BundleError Unit
  | .listObjects .. => Except BundleError (List BundleStagingObject)

abbrev BundleProcess := Process BundleCall BundleCall.Answer

/-! ### What the calls do -/

/-- An error of the driver or the store, which none of the service's own errors is. -/
def Fault (error : BundleError) : Prop := ∃ operation text, error = .failed operation (.detail text)

def reads {α : Type} (read : BundleDb → Except BundleError α) (world : BundleWorld) : Except BundleError α × BundleWorld :=
  (read world.db, world)

def runs {α : Type} (tx : BundleTx α) (world : BundleWorld) : Except BundleError α × BundleWorld :=
  ((tx.commit world.db).1, { world with db := (tx.commit world.db).2 })

/-- The commit of an upload; its staging key becomes that of a row where the result says so. -/
def commits (id : Nat) (input : BundleCommitInput) (world : BundleWorld) : Except BundleError BundleCommitResult × BundleWorld :=
  let (result, after) := runs (commitBundleUpload id input) world
  match result with
  | .ok committed =>
    if committed.stagingKey = input.stagingObjectKey then
      (result, { after with attached := (input.stagingObjectKey, world.clock) :: world.attached })
    else (result, after)
  | .error _ => (result, after)

def puts (key : GoString) (size : Int) (sha256 : GoString) (world : BundleWorld) : Except BundleError Int × BundleWorld :=
  let object : StoredObject := ⟨size, sha256, world.clock⟩
  (.ok size, { world with
    objects := Function.update world.objects key (some object)
    staged := Function.update world.staged key (some object) })

def copies (source target sha256 : GoString) (world : BundleWorld) : Except BundleError Unit × BundleWorld :=
  match world.objects source with
  | none => (.error (.detail "The specified key does not exist."), world)
  | some object =>
    (.ok (), { world with objects := Function.update world.objects target (some ⟨object.size, sha256, world.clock⟩) })

def removes (key : GoString) (world : BundleWorld) : Except BundleError Unit × BundleWorld :=
  (.ok (), { world with objects := Function.update world.objects key none })

def Listing (world : BundleWorld) (entries : List BundleStagingObject) : Prop :=
  ∀ entry ∈ entries, ∃ object, world.objects entry.key = some object ∧ object.lastModified = entry.lastModified

def BundleCall.performs (request : BundleCall) (world : BundleWorld) (answer : request.Answer) (next : BundleWorld) : Prop :=
  match request with
  | .now => answer = world.clock ∧ next = world
  | .findBundleUpload tenantID keyDigest => Returns (reads (External.findBundleUpload tenantID keyDigest)) Fault world answer next
  | .commitBundleUpload input => ∃ id, Returns (commits id input) Fault world answer next
  | .claimBundlePublication tenantID bundleID leaseToken time leaseUntil =>
    Returns (runs (External.claimBundlePublication tenantID bundleID leaseToken time leaseUntil)) Fault world answer next
  | .selectNextBundlePublication time =>
    Returns (reads fun db => .ok (External.selectNextBundlePublication time db)) Fault world answer next
  | .completeBundlePublication claim readyAt => Returns (runs (External.completeBundlePublication claim readyAt)) Fault world answer next
  | .failBundlePublication claim errorCode nextAttempt maxAttempts =>
    Returns (runs (External.failBundlePublication claim errorCode nextAttempt maxAttempts)) Fault world answer next
  | .sweepUnrecoverableBundlePublications before limit =>
    ∃ visits, Returns (runs (External.sweepUnrecoverableBundlePublications visits before limit)) Fault world answer next
  | .findBundle tenantID bundleID => Returns (reads (External.findBundle tenantID bundleID)) Fault world answer next
  | .isBundleStagingReferenced key => Returns (reads (External.isBundleStagingReferenced key)) Fault world answer next
  | .putObject key size sha256 => Returns (puts key size sha256) Fault world answer next
  | .statObject key => Returns (fun world => (.ok (world.objects key), world)) Fault world answer next
  | .copyObject source target sha256 => Returns (copies source target sha256) Fault world answer next
  | .removeObject key => Returns (removes key) Fault world answer next
  | .listObjects _ _ => ∃ entries, Listing world entries ∧ Returns (fun world => (.ok entries, world)) Fault world answer next

/-- What changes without a call of the service: the clocks run, tenants are provisioned under
the identifiers they keep, and idempotency records are removed. -/
inductive BundleWorld.Drifts (world : BundleWorld) : BundleWorld → Prop where
  | tick (elapsed : Nat) : Drifts world { world with clock := world.clock + elapsed }
  | databaseTick (elapsed : Nat) : Drifts world { world with db := { world.db with now := world.db.now + elapsed } }
  | provision (tenants : List TenantRow)
      (kept : ∀ tenant ∈ world.db.tenants, ∃ row ∈ tenants, row.id = tenant.id ∧ row.externalID = tenant.externalID)
      (names : Table.Keyed TenantRow.externalID tenants) : Drifts world { world with db := { world.db with tenants } }
  | expire (uploads : List UploadRecord) : Drifts world { world with db := { world.db with uploads } }

/-! ### The calls as processes -/

def BundleCall.ask (request : BundleCall) : BundleProcess request.Answer := Process.ask request

def clockNow : BundleProcess Instant := BundleCall.now.ask

namespace Repository

def findBundleUpload (tenantID : GoString) (keyDigest : Bytes) : BundleProcess (Except BundleError (Option BundleUploadLookup)) :=
  (BundleCall.findBundleUpload tenantID keyDigest).ask

def commitBundleUpload (input : BundleCommitInput) : BundleProcess (Except BundleError BundleCommitResult) :=
  (BundleCall.commitBundleUpload input).ask

def claimBundlePublication (tenantID bundleID leaseToken : GoString) (now leaseUntil : Instant) :
    BundleProcess (Except BundleError (Option BundlePublicationClaim)) :=
  (BundleCall.claimBundlePublication tenantID bundleID leaseToken now leaseUntil).ask

def selectNextBundlePublication (now : Instant) : BundleProcess (Except BundleError (Option (GoString × GoString))) :=
  (BundleCall.selectNextBundlePublication now).ask

def completeBundlePublication (claim : BundlePublicationClaim) (readyAt : Instant) : BundleProcess (Except BundleError Unit) :=
  (BundleCall.completeBundlePublication claim readyAt).ask

def failBundlePublication (claim : BundlePublicationClaim) (errorCode : GoString) (nextAttempt : Instant) (maxAttempts : Nat) :
    BundleProcess (Except BundleError Bool) :=
  (BundleCall.failBundlePublication claim errorCode nextAttempt maxAttempts).ask

def sweepUnrecoverableBundlePublications (before : Instant) (limit : Nat) : BundleProcess (Except BundleError Nat) :=
  (BundleCall.sweepUnrecoverableBundlePublications before limit).ask

def findBundle (tenantID bundleID : GoString) : BundleProcess (Except BundleError BundleMetadata) :=
  (BundleCall.findBundle tenantID bundleID).ask

def isBundleStagingReferenced (key : GoString) : BundleProcess (Except BundleError Bool) := (BundleCall.isBundleStagingReferenced key).ask

end Repository

namespace Client

def putObject (key : GoString) (size : Int) (sha256 : GoString) : BundleProcess (Except BundleError Int) :=
  (BundleCall.putObject key size sha256).ask

def statObject (key : GoString) : BundleProcess (Except BundleError (Option StoredObject)) := (BundleCall.statObject key).ask

def copyObject (source target sha256 : GoString) : BundleProcess (Except BundleError Unit) := (BundleCall.copyObject source target sha256).ask

def removeObject (key : GoString) : BundleProcess (Except BundleError Unit) := (BundleCall.removeObject key).ask

def listObjects (after : GoString) (limit : Nat) : BundleProcess (Except BundleError (List BundleStagingObject)) :=
  (BundleCall.listObjects after limit).ask

end Client

/-! ### The object store -/

/-- `strings.EqualFold` with a text of ASCII letters and digits. -/
def equalFold (left right : GoString) : Bool :=
  let lower (byte : UInt8) : UInt8 := if isUpper byte then byte + 32 else byte
  left.map lower == right.map lower

def verifyBundleObject (info : StoredObject) (size : Int) (digest : Bytes) : Except BundleError Unit :=
  if info.size ≠ size ∨ !equalFold info.sha256 (encodeHex digest) then
    .error (.detail "immutable bundle object size or SHA-256 metadata mismatch")
  else .ok ()

def stat (key : GoString) : BundleProcess (Except BundleError (Option StoredObject)) := do
  match ← Client.statObject key with
  | .ok info => return .ok info
  | .error error => return .error (.failed "stat immutable bundle object" error)

/-- `Stage`; an upload's temporary file holds the bytes. -/
def stage (key : GoString) (size : Int) (digest : Bytes) : BundleProcess (Except BundleError Unit) := do
  if key = [] ∨ size ≤ 0 then return .error (.detail "bundle object staging is not configured")
  else
    match ← Client.putObject key size (encodeHex digest) with
    | .error error => return .error (.failed "stage immutable bundle object" error)
    | .ok uploaded =>
      if uploaded ≠ size then return .error (.detail "stage immutable bundle object: committed size mismatch")
      else
        match ← Client.statObject key with
        | .error error => return .error (.failed "verify staged immutable bundle object" error)
        | .ok none => return .error (.failed "verify staged immutable bundle object" (.detail "The specified key does not exist."))
        | .ok (some info) => return verifyBundleObject info size digest

def copyVerified (stagingKey finalKey : GoString) (size : Int) (digest : Bytes) : BundleProcess (Except BundleError Unit) := do
  match ← Client.copyObject stagingKey finalKey (encodeHex digest) with
  | .error error => return .error (.failed "promote immutable bundle object" error)
  | .ok () =>
    match ← stat finalKey with
    | .error error => return .error error
    | .ok none => return .error (.detail "promoted immutable bundle object is missing")
    | .ok (some published) => return verifyBundleObject published size digest

def promote (stagingKey finalKey : GoString) (size : Int) (digest : Bytes) : BundleProcess (Except BundleError Unit) := do
  if stagingKey = [] ∨ finalKey = [] ∨ size ≤ 0 then return .error (.detail "bundle object promotion is not configured")
  else
    match ← stat finalKey with
    | .error error => return .error error
    | .ok (some info) => return verifyBundleObject info size digest
    | .ok none =>
      match ← stat stagingKey with
      | .error error => return .error error
      | .ok none => return .error (.detail "staged immutable bundle object is missing")
      | .ok (some staged) =>
        match verifyBundleObject staged size digest with
        | .error error => return .error error
        | .ok () => copyVerified stagingKey finalKey size digest

def discard (key : GoString) : BundleProcess (Except BundleError Unit) := do
  if key = [] then return .error (.detail "bundle object discard is not configured")
  else
    match ← Client.removeObject key with
    | .error error => return .error (.failed "discard staged immutable bundle object" error)
    | .ok () => return .ok ()

def validBundleStagingContinuation (value : GoString) : Bool :=
  (lit "external-staging/").length < value.length ∧ value.length ≤ 1024 ∧ (lit "external-staging/").isPrefixOf value ∧
    (segments value).all fun segment => !(decide (segment.rune < 0x20) || segment.rune == 0x7f)

/-- The keys a bounded scan collects, and the last one it looked at if it was cut off. -/
def scanStaging (before : Instant) (limit : Nat) (entries : List BundleStagingObject) : List BundleStagingObject × GoString :=
  let scanned := entries.take limit
  (scanned.filter fun entry => validBundleStagingGCKey entry.key && entry.lastModified != 0 && decide (entry.lastModified < before),
    if scanned.length < limit then [] else (scanned.getLast?.map BundleStagingObject.key).getD [])

def listStaging (before : Instant) (after : GoString) (limit : Nat) :
    BundleProcess (Except BundleError (List BundleStagingObject × GoString)) := do
  if before = 0 ∨ limit < 1 ∨ 1000 < limit ∨ after ≠ [] ∧ !validBundleStagingContinuation after then
    return .error (.detail "bundle staging list is not configured")
  else
    match ← Client.listObjects after limit with
    | .error error => return .error (.failed "list staged immutable bundle objects" error)
    | .ok entries => return .ok (scanStaging before limit entries)

end JudgingServer.External
