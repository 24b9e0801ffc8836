import JudgingServer.External.JobQueries
import JudgingServer.External.JobSettlement
import JudgingServer.External.SourceRetention
import JudgingServer.Library.Concurrent

/-! The world that the calls of the job API, the reservation sweeper and the retention
worker share: the database, the store of encrypted sources and the clock, and the
statements and object operations that they make on it one by one. -/

namespace JudgingServer.External
open Go Library Transaction

inductive SourceStoreError where
  | objectExists
  | failed (text : String)
deriving DecidableEq, Repr

/-- The shared world. The last three fields are its history: the object keys that were
reserved, the submissions that were admitted, and those whose transaction was committed. -/
structure JobWorld where
  clock : Instant
  db : Db
  audit : List RetentionAuditRow
  objects : GoString → Option Bytes
  reserved : List GoString
  admitted : List Submission
  committed : List Submission

inductive JobCall where
  | now
  | contextDone
  | findReplayRecord (submission : Submission)
  | getExternalJob (tenantExternalID jobExternalID : GoString)
  | selectJobs (query : JobListQuery)
  | preflightTenant (tenantExternalID : GoString)
  | countQueuedJobs (tenantID : Nat)
  | bundleExists (tenantID : Nat) (externalID : GoString)
  | callbackExists (tenantID : Nat) (externalID : GoString)
  | insertReservation (objectKey : GoString) (ownerToken : Bytes) (lease : Duration)
  | takeOverReservation (objectKey : GoString) (ownerToken : Bytes) (lease : Duration)
  | deleteReservations (claims : List SourceReservationClaim)
  | admission (submission : Submission)
  | createObject (key : GoString) (ciphertext : Bytes)
  | deleteObject (key : GoString)
  | beginSubmit
  | submitTransaction (submission : Submission) (assigned : AssignedIDs)
  | cancel (eventEntropy : List Bytes) (tenantExternalID jobExternalID : GoString)
  | claimSourceReservation (ownerToken : Bytes) (minimumAge : Duration)
  | countSources (objectKey : GoString)
  | sourceRetentionCandidates (retention : Duration) (limit : Nat)
  | claimSourceRetentionCandidate (candidate : SourceRetentionClaim) (token : Option Bytes) (retention leaseDuration : Duration)
  | recordSourceRetentionFailure (claim : SourceRetentionClaim) (retryDelay : Duration)
  | finalizeSourceRetention (claim : SourceRetentionClaim)

abbrev JobCall.Answer : JobCall → Type
  | .now => Instant
  | .contextDone => Bool
  | .findReplayRecord .. => Except RepositoryError (Option IdempotencyRow)
  | .getExternalJob .. => Except RepositoryError ExternalJobRecord
  | .selectJobs .. => Except RepositoryError (List ExternalJobRow)
  | .preflightTenant .. => Except RepositoryError (Nat × Json)
  | .countQueuedJobs .. => Except RepositoryError Nat
  | .bundleExists .. => Except RepositoryError Bool
  | .callbackExists .. => Except RepositoryError Bool
  | .insertReservation .. => Except RepositoryError Bool
  | .takeOverReservation .. => Except RepositoryError Bool
  | .deleteReservations .. => Except RepositoryError Nat
  | .admission .. => Except RepositoryError Unit
  | .createObject .. => Except SourceStoreError Unit
  | .deleteObject .. => Except SourceStoreError Unit
  | .beginSubmit => Except RepositoryError Unit
  | .submitTransaction .. => Except SubmitAbort SubmitJobResult
  | .cancel .. => Except RepositoryError ExternalJobRecord
  | .claimSourceReservation .. => Except RepositoryError (Option SourceReservationClaim)
  | .countSources .. => Except RepositoryError Nat
  | .sourceRetentionCandidates .. => Except RepositoryError (List SourceRetentionClaim)
  | .claimSourceRetentionCandidate .. => Except RetentionError SourceRetentionClaim
  | .recordSourceRetentionFailure .. => Except RetentionError Unit
  | .finalizeSourceRetention .. => Except RetentionError Unit

abbrev JobProcess := Process JobCall JobCall.Answer

/-! ### Faults -/

/-- What the driver says when MySQL has given up a statement for another transaction. -/
def lockWaitTimeout : String := "Error 1205 (HY000): Lock wait timeout exceeded; try restarting transaction"

def deadlockFound : String := "Error 1213 (40001): Deadlock found when trying to get lock; try restarting transaction"

def isTransientDatabaseError : RepositoryError → Bool
  | .detail text => text = lockWaitTimeout ∨ text = deadlockFound
  | .annotated error _ => isTransientDatabaseError error
  | .unavailable _ cause => isTransientDatabaseError cause
  | _ => false

/-- An error of the driver that leaves open whether the statement took effect. -/
def DriverFault (error : RepositoryError) : Prop := ∃ text, error = .detail text ∧ !isTransientDatabaseError error

/-- How a single statement ends. A statement that was given up for another transaction has
not taken effect. -/
def Executes {α : Type} (effect : JobWorld → Except RepositoryError α × JobWorld) (world : JobWorld) (answer : Except RepositoryError α)
    (next : JobWorld) : Prop :=
  Returns effect DriverFault world answer next ∨
    (∃ error, isTransientDatabaseError error ∧ answer = .error error) ∧ next = world

/-- An error of the driver inside a transaction, reported with the statement it came from. -/
def TransactionFault (error : RepositoryError) : Prop := ∃ operation text, error = .unavailable operation (.detail text)

def commitSubmittedJob : String := "commit submitted job with unknown outcome"

def SubmitAbort.outcomeUnknown : SubmitAbort → Bool
  | .failed (.unavailable operation (.detail _)) => operation = commitSubmittedJob
  | _ => false

/-- A statement of the submission's transaction failed, which rolls the transaction back. -/
def SubmitAbort.rolledBack (abort : SubmitAbort) : Prop :=
  ∃ operation text, abort = .failed (.unavailable operation (.detail text)) ∧ operation ≠ commitSubmittedJob

def StoreFault (error : SourceStoreError) : Prop := ∃ text, error = .failed text

def RetentionFault (error : RetentionError) : Prop := ∃ operation text, error = .repository (.unavailable operation (.detail text))

/-! ### What the calls do -/

def JobWorld.reads {α : Type} (read : Db → Except RepositoryError α) (world : JobWorld) : Except RepositoryError α × JobWorld :=
  (read world.db, world)

def JobWorld.runs {α : Type} (tx : Tx α) (world : JobWorld) : Except RepositoryError α × JobWorld :=
  ((tx.commit world.db).1, { world with db := (tx.commit world.db).2 })

def JobWorld.retains {α : Type} (tx : RetentionTx α) (world : JobWorld) : Except RetentionError α × JobWorld :=
  let outcome := tx.commit ⟨world.db, world.audit⟩
  (outcome.1, { world with db := outcome.2.toDb, audit := outcome.2.audit })

def preflightTenant (tenantExternalID : GoString) (db : Db) : Except RepositoryError (Nat × Json) :=
  match db.tenants.find? fun tenant => tenant.externalID = tenantExternalID ∧ tenant.status = .active with
  | some tenant => .ok (tenant.id, tenant.policyJSON)
  | none => .error .noRows

/-- The first statement of `tryAcquireSourceReservation`, `INSERT IGNORE`. -/
def JobWorld.inserts (objectKey : GoString) (ownerToken : Bytes) (lease : Duration) (world : JobWorld) :
    Except RepositoryError Bool × JobWorld :=
  if reservationTaken objectKey world.db then (.ok false, world)
  else (.ok true, { world with db := insertReservation objectKey ownerToken lease world.db, reserved := objectKey :: world.reserved })

/-- The second one, which takes over an expired reservation. -/
def JobWorld.takesOver (objectKey : GoString) (ownerToken : Bytes) (lease : Duration) (world : JobWorld) :
    Except RepositoryError Bool × JobWorld :=
  let now := world.db.now
  (.ok (Table.affected (expiredReservation objectKey now) (takeOver ownerToken lease now) world.db.reservations == 1),
    { world with db := takeOverReservation objectKey ownerToken lease world.db })

def ownedByAny (claims : List SourceReservationClaim) (reservation : ReservationRow) : Bool := claims.any fun claim => claim.owns reservation

/-- `DELETE FROM t_external_source_reservation`. -/
def JobWorld.releases (claims : List SourceReservationClaim) (world : JobWorld) : Except RepositoryError Nat × JobWorld :=
  (.ok (world.db.reservations.countP (ownedByAny claims)),
    { world with db := { world.db with reservations := Table.delete (ownedByAny claims) world.db.reservations } })

/-- The transaction of a submission; its commit enters the history. -/
def JobWorld.submits (repository : JobRepository) (submission : Submission) (assigned : AssignedIDs) (world : JobWorld) :
    Except SubmitAbort SubmitJobResult × JobWorld :=
  match (submitTransaction repository submission assigned).commit world.db with
  | (.ok result, db) => (.ok result, { world with db, committed := submission :: world.committed })
  | (.error abort, _) => (.error abort, world)

/-- `Create`, which never overwrites an object. -/
def JobWorld.creates (key : GoString) (ciphertext : Bytes) (world : JobWorld) : Except SourceStoreError Unit × JobWorld :=
  if !validSourceObjectKey key ∨ ciphertext.length = 0 ∨ maximumEncryptedSourceObjectBytes < ciphertext.length then
    (.error (.failed "encrypted source object create request is invalid"), world)
  else if (world.objects key).isSome then (.error .objectExists, world)
  else (.ok (), { world with objects := Function.update world.objects key (some ciphertext) })

def JobWorld.deletes (key : GoString) (world : JobWorld) : Except SourceStoreError Unit × JobWorld :=
  if !validSourceObjectKey key then (.error (.failed "encrypted source object delete request is invalid"), world)
  else (.ok (), { world with objects := Function.update world.objects key none })

def JobCall.performs (repository : JobRepository) (request : JobCall) (world : JobWorld) (answer : request.Answer) (next : JobWorld) :
    Prop :=
  match request with
  | .now => answer = world.clock ∧ next = world
  | .contextDone => next = world
  | .findReplayRecord submission => Executes (JobWorld.reads fun db => .ok (External.findReplayRecord submission db)) world answer next
  | .getExternalJob tenantExternalID jobExternalID =>
    Executes (JobWorld.reads (External.getExternalJob tenantExternalID jobExternalID)) world answer next
  | .selectJobs query => Executes (JobWorld.reads fun db => .ok (External.selectJobs query db)) world answer next
  | .preflightTenant tenantExternalID => Executes (JobWorld.reads (External.preflightTenant tenantExternalID)) world answer next
  | .countQueuedJobs tenantID => Executes (JobWorld.reads fun db => .ok (queuedJobs db tenantID)) world answer next
  | .bundleExists tenantID externalID =>
    Executes (JobWorld.reads fun db => .ok (db.bundles.any (BundleRow.available tenantID externalID))) world answer next
  | .callbackExists tenantID externalID =>
    Executes (JobWorld.reads fun db => .ok (db.callbacks.any (CallbackRow.available tenantID externalID))) world answer next
  | .insertReservation objectKey ownerToken lease =>
    Executes (JobWorld.inserts objectKey ownerToken lease) world answer next
  | .takeOverReservation objectKey ownerToken lease =>
    Executes (JobWorld.takesOver objectKey ownerToken lease) world answer next
  | .deleteReservations claims => Executes (JobWorld.releases claims) world answer next
  | .admission submission => next = { world with admitted := submission :: world.admitted }
  | .createObject key ciphertext => Returns (JobWorld.creates key ciphertext) StoreFault world answer next
  | .deleteObject key => Returns (JobWorld.deletes key) StoreFault world answer next
  | .beginSubmit => Executes (fun world => (.ok (), world)) world answer next
  | .submitTransaction submission assigned =>
    Returns (JobWorld.submits repository submission assigned) (fun abort => abort.outcomeUnknown) world answer next ∨
      (∃ abort, SubmitAbort.rolledBack abort ∧ answer = .error abort) ∧ next = world
  | .cancel eventEntropy tenantExternalID jobExternalID =>
    Returns (JobWorld.runs (External.cancel repository eventEntropy tenantExternalID jobExternalID)) TransactionFault world answer next
  | .claimSourceReservation ownerToken minimumAge =>
    ∃ locked, Returns (JobWorld.runs (External.claimSourceReservation locked ownerToken minimumAge)) TransactionFault world answer next
  | .countSources objectKey =>
    Executes (JobWorld.reads fun db => .ok (db.sources.countP fun source => source.objectKey = objectKey)) world answer next
  | .sourceRetentionCandidates retention limit =>
    Executes (JobWorld.reads fun db => .ok (External.sourceRetentionCandidates retention limit db)) world answer next
  | .claimSourceRetentionCandidate candidate token retention leaseDuration =>
    Returns (JobWorld.retains (External.claimSourceRetentionCandidate candidate token retention leaseDuration)) RetentionFault world answer
      next ∨ answer = .error .contention ∧ next = world
  | .recordSourceRetentionFailure claim retryDelay =>
    Returns (JobWorld.retains (External.recordSourceRetentionFailure claim retryDelay)) RetentionFault world answer next
  | .finalizeSourceRetention claim => Returns (JobWorld.retains (External.finalizeSourceRetention claim)) RetentionFault world answer next

def JobCall.ask (request : JobCall) : JobProcess request.Answer := Process.ask request

/-- Time passes on the database and on the server. -/
inductive JobWorld.Passes (world : JobWorld) : JobWorld → Prop where
  | tick (elapsed : Nat) : Passes world { world with clock := world.clock + elapsed }
  | databaseTick (elapsed : Nat) : Passes world { world with db := { world.db with now := world.db.now + elapsed } }

end JudgingServer.External
