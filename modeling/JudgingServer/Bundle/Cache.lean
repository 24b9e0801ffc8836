import JudgingServer.Go.Time
import JudgingServer.Library.Table
import Mathlib.Data.List.Sort

/-! The bundle cache and the provider over it, with the calls that share them. A locked
section or one access to the directory is one step of a call. -/

namespace JudgingServer.Bundle
open Go Library.Table

structure Metadata where
  objectKey : GoString
  sha256 : GoString
  sizeBytes : Int
deriving DecidableEq, Repr

/-- An entry of the map with its key. The path is that of the file named by the checksum. -/
structure CacheEntry where
  checksum : GoString
  size : Int
  lastUsed : Instant
deriving DecidableEq, Repr

structure CacheFlight where
  checksum : GoString
  id : Nat
deriving DecidableEq, Repr

structure Cache where
  maxBytes : Int
  maxObjectBytes : Int
  ttl : Duration
  entries : List CacheEntry
  flights : List CacheFlight
  /-- The next flight that `Resolve` allocates. -/
  launched : Nat
deriving DecidableEq, Repr

def newCache (directory : GoString) (maxBytes maxObjectBytes : Int) (ttl : Duration) : Option Cache :=
  if trimSpace directory = [] ∨ maxBytes ≤ 0 ∨ maxObjectBytes ≤ 0 ∨ ttl ≤ 0 then none
  else some { maxBytes, maxObjectBytes, ttl, entries := [], flights := [], launched := 0 }

inductive CacheError where
  | missingManifest
  | metadata
  | checksum
  | context
  | disagrees
  | openFailed
  | noObject
  | sizeMismatch
  | streamMismatch
  | digestMismatch
  | archive
deriving DecidableEq, Repr

def CacheError.text : CacheError → GoString
  | .missingManifest => lit "test bundle metadata is missing or invalid"
  | .metadata => lit "bundle metadata size or object key is invalid"
  | .checksum => lit "bundle metadata SHA-256 is invalid"
  | .context => lit "context canceled"
  | .disagrees => lit "bundle metadata disagrees with coalesced cache entry: "
  | .openFailed | .noObject => lit "open bundle object: "
  | .sizeMismatch => lit "bundle object metadata size mismatch"
  | .streamMismatch => lit "bundle object stream size mismatch"
  | .digestMismatch => lit "bundle object SHA-256 mismatch"
  | .archive => lit "open bundle ZIP: "

/-- `IsInvalid`: the caller takes the bundle for defective. -/
def CacheError.isInvalid : CacheError → Bool
  | .context | .openFailed => false
  | _ => true

/-- `strings.ToLower` of a hexadecimal text. -/
def toLowerHex (text : GoString) : GoString := text.map fun byte => if isUpper byte then byte + 32 else byte

def Cache.validateMetadata (cache : Cache) (metadata : Metadata) : Except CacheError Unit :=
  if trimSpace metadata.objectKey = [] ∨ 512 < metadata.objectKey.length ∨ 0 ∈ metadata.objectKey ∨
      !validString metadata.objectKey ∨ metadata.sizeBytes ≤ 0 ∨ cache.maxObjectBytes < metadata.sizeBytes ∨
      cache.maxBytes < metadata.sizeBytes then .error .metadata
  else if !metadata.sha256.all isHexDigit ∨ metadata.sha256.length ≠ 64 then .error .checksum
  else .ok ()

def expired (ttl : Duration) (now : Instant) (entry : CacheEntry) : Bool := decide (ttl ≤ now - entry.lastUsed)

def totalBytes (entries : List CacheEntry) : Int := (entries.map CacheEntry.size).sum

/-- `totalBytesLocked` adds the sizes up in an `int64`, which wraps around. -/
def totalBytesLocked (entries : List CacheEntry) : Int := (totalBytes entries).bmod (2 ^ 64)

/-- The inner loop of `evictLRULocked`. -/
def oldestOther (protectedChecksum : GoString) : List CacheEntry → Option CacheEntry → Option CacheEntry
  | [], oldest => oldest
  | entry :: rest, oldest =>
    if entry.checksum = protectedChecksum then oldestOther protectedChecksum rest oldest
    else
      match oldest with
      | none => oldestOther protectedChecksum rest (some entry)
      | some found =>
        oldestOther protectedChecksum rest (some (if entry.lastUsed < found.lastUsed then entry else found))

/-- The runtime visits the entries of a map in any order: the order ranks their keys. -/
def visitedEntries (order : GoString → Nat) (entries : List CacheEntry) : List CacheEntry :=
  entries.insertionSort fun first second => order first.checksum ≤ order second.checksum

/-- The entries that `evictLRULocked` keeps. A round removes an entry, so as many rounds
as there are entries suffice. -/
def evictLRU (maxBytes : Int) (protectedChecksum : GoString) (order : GoString → Nat) : Nat → List CacheEntry → List CacheEntry
  | 0, entries => entries
  | rounds + 1, entries =>
    if maxBytes < totalBytesLocked entries then
      match oldestOther protectedChecksum (visitedEntries order entries) none with
      | none => entries
      | some oldest =>
        evictLRU maxBytes protectedChecksum order rounds (delete (fun entry => entry.checksum == oldest.checksum) entries)
    else entries

/-- The files under the cache directory, by the checksum they are named after. -/
abbrev Files := GoString → Option Bytes

def Files.without (files : Files) (entries kept : List CacheEntry) : Files := fun checksum =>
  if checksum ∈ entries.map CacheEntry.checksum ∧ checksum ∉ kept.map CacheEntry.checksum then none else files checksum

/-- What the cache rests on: the object store, SHA-256 in hexadecimal, and whether the
archive reader opens a file with a manifest. -/
structure Backing where
  objects : GoString → Option Bytes
  digest : Bytes → GoString
  opens : Bytes → GoString → Bool

variable (backing : Backing)

def verifyCachedFile (files : Files) (checksum : GoString) (sizeBytes : Int) : Bool :=
  match files checksum with
  | none => false
  | some bytes => decide ((bytes.length : Int) = sizeBytes) && backing.digest bytes == checksum

/-- The download of `resolveOne`; a store that is not sized reports no size. -/
def download (metadata : Metadata) (checksum : GoString) (sized : Bool) : Except CacheError Bytes :=
  match backing.objects metadata.objectKey with
  | none => .error .noObject
  | some bytes =>
    if sized ∧ (bytes.length : Int) ≠ metadata.sizeBytes then .error .sizeMismatch
    else
      let written := bytes.take (metadata.sizeBytes + 1).toNat
      if (written.length : Int) ≠ metadata.sizeBytes then .error .streamMismatch
      else if backing.digest written ≠ checksum then .error .digestMismatch
      else .ok written

/-- Where the leader of a flight is in `resolveOne` and after it. -/
inductive FlightStage where
  | verify
  | remove
  | fetch
  | rename (bytes : Bytes)
  | record
  | settle (result : Except CacheError Unit)
deriving DecidableEq

/-- Where a call is. After `Resolve` a call of `OpenMetadata` opens the archive. -/
inductive CachePhase where
  | resolving
  | waiting (flight : Nat)
  | checking
  | recording
  | leading (flight : Nat) (stage : FlightStage)
  | opening
  | returned (result : Except CacheError Unit)
deriving DecidableEq

/-- A call of `OpenMetadata` with its manifest, or of `Resolve` without one. -/
structure CacheCall where
  metadata : Metadata
  manifestJSON : Option GoString
  phase : CachePhase
deriving DecidableEq

def CacheCall.checksum (call : CacheCall) : GoString := toLowerHex call.metadata.sha256

structure CacheSystem where
  now : Instant
  files : Files
  cache : Cache
  /-- The path and the error of a flight whose channel is closed. -/
  results : Nat → Option (Except CacheError Unit)
  calls : Nat → Option CacheCall
  cancelled : Nat → Bool

/-- One step of one call, or what happens around the calls. -/
inductive CacheEvent where
  | elapse (duration : Nat)
  | call (caller : Nat) (metadata : Metadata) (manifestJSON : Option GoString)
  | cancel (caller : Nat)
  | abort (caller : Nat)
  | advance (caller : Nat) (order : GoString → Nat) (sized : Bool)

variable (system : CacheSystem)

namespace CacheSystem

def move (caller : Nat) (call : CacheCall) (phase : CachePhase) : CacheSystem :=
  { system with calls := Function.update system.calls caller (some { call with phase }) }

def pruneExpiredLocked : CacheSystem :=
  let kept := delete (expired system.cache.ttl system.now) system.cache.entries
  { system with files := system.files.without system.cache.entries kept, cache := { system.cache with entries := kept } }

def recorded (checksum : GoString) (size : Int) : List CacheEntry :=
  { checksum, size, lastUsed := system.now } :: delete (fun entry => entry.checksum == checksum) system.cache.entries

def record (checksum : GoString) (size : Int) (order : GoString → Nat) : CacheSystem :=
  let entries := system.recorded checksum size
  let kept := evictLRU system.cache.maxBytes checksum order entries.length entries
  { system with files := system.files.without entries kept, cache := { system.cache with entries := kept } }

def resolvedPhase (call : CacheCall) : Except CacheError Unit → CachePhase
  | .error error => .returned (.error error)
  | .ok _ => if call.manifestJSON.isSome then .opening else .returned (.ok ())

def findFlight (cache : Cache) (checksum : GoString) : Option CacheFlight :=
  cache.flights.find? fun flight => flight.checksum == checksum

/-- `Resolve` up to the flight that it joins or leads. -/
def resolve (caller : Nat) (call : CacheCall) : CacheSystem :=
  if call.manifestJSON = some [] then system.move caller call (.returned (.error .missingManifest))
  else
    match system.cache.validateMetadata call.metadata with
    | .error error => system.move caller call (.returned (.error error))
    | .ok _ =>
      let pruned := system.pruneExpiredLocked
      match findFlight pruned.cache call.checksum with
      | some flight => pruned.move caller call (.waiting flight.id)
      | none =>
        { pruned with
          cache := { pruned.cache with
            flights := { checksum := call.checksum, id := pruned.cache.launched } :: pruned.cache.flights
            launched := pruned.cache.launched + 1 } }.move caller call (.leading pruned.cache.launched .verify)

def lead (system : CacheSystem) (caller : Nat) (call : CacheCall) (flight : Nat) (order : GoString → Nat)
    (sized : Bool) : FlightStage → CacheSystem
  | .verify =>
    if verifyCachedFile backing system.files call.checksum call.metadata.sizeBytes then
      system.move caller call (.leading flight .record)
    else system.move caller call (.leading flight .remove)
  | .remove =>
    { system with files := Function.update system.files call.checksum none }.move caller call (.leading flight .fetch)
  | .fetch =>
    match download backing call.metadata call.checksum sized with
    | .error error => system.move caller call (.leading flight (.settle (.error error)))
    | .ok bytes => system.move caller call (.leading flight (.rename bytes))
  | .rename bytes =>
    { system with files := Function.update system.files call.checksum (some bytes) }.move caller call (.leading flight .record)
  | .record =>
    (system.record call.checksum call.metadata.sizeBytes order).move caller call (.leading flight (.settle (.ok ())))
  | .settle result =>
    { system with
      results := Function.update system.results flight (some result)
      cache := { system.cache with flights := delete (fun flight => flight.checksum == call.checksum) system.cache.flights }
      }.move caller call (resolvedPhase call result)

def openArchive (files : Files) (checksum manifestJSON : GoString) : Except CacheError Unit :=
  match files checksum with
  | none => .error .archive
  | some bytes => if backing.opens bytes manifestJSON then .ok () else .error .archive

def advance (system : CacheSystem) (caller : Nat) (call : CacheCall) (order : GoString → Nat) (sized : Bool) :
    CachePhase → CacheSystem
  | .resolving => system.resolve caller call
  | .waiting flight =>
    match system.results flight with
    | none => system
    | some (.error error) => system.move caller call (.returned (.error error))
    | some (.ok _) => system.move caller call .checking
  | .checking =>
    if verifyCachedFile backing system.files call.checksum call.metadata.sizeBytes then system.move caller call .recording
    else system.move caller call (.returned (.error .disagrees))
  | .recording => (system.record call.checksum call.metadata.sizeBytes order).move caller call (resolvedPhase call (.ok ()))
  | .leading flight stage => lead backing system caller call flight order sized stage
  | .opening => system.move caller call (.returned (openArchive backing system.files call.checksum (call.manifestJSON.getD [])))
  | .returned _ => system

/-- A cancelled context is noticed while the call waits or downloads. -/
def abort (caller : Nat) (call : CacheCall) : CachePhase → CacheSystem
  | .waiting _ => system.move caller call (.returned (.error .context))
  | .leading flight .fetch => system.move caller call (.leading flight (.settle (.error .openFailed)))
  | _ => system

def step (event : CacheEvent) (system : CacheSystem) : CacheSystem :=
  match event with
  | .elapse duration => { system with now := system.now + duration }
  | .call caller metadata manifestJSON =>
    match system.calls caller with
    | none => system.move caller { metadata, manifestJSON, phase := .resolving } .resolving
    | some _ => system
  | .cancel caller => { system with cancelled := Function.update system.cancelled caller true }
  | .abort caller =>
    match system.calls caller with
    | none => system
    | some call => if system.cancelled caller then system.abort caller call call.phase else system
  | .advance caller order sized =>
    match system.calls caller with
    | none => system
    | some call => system.advance backing caller call order sized call.phase

def start (cache : Cache) (now : Instant) : CacheSystem where
  now
  files := fun _ => none
  cache
  results := fun _ => none
  calls := fun _ => none
  cancelled := fun _ => false

end CacheSystem
end JudgingServer.Bundle
