import JudgingServer.Library.Relational
import JudgingServer.Proofs.TenantRows

/-! The transactions of a tenant's submissions and cancellations, run in two states that
agree on the tenant's rows: they end alike, and the states still agree. -/

namespace JudgingServer.Proofs
open Go External Library Table Transaction

variable {rows : List ReservationRow} {row : OutboxRow} {claim : SourceReservationClaim} {now : Time}

/-- The prefix of the object keys of a tenant's sources. -/
def sourcePrefix (tenantExternalID : GoString) : GoString := lit "external/" ++ tenantExternalID ++ lit "/sources/"

/-- The object key belongs to the tenant. -/
def Under (tenantExternalID key : GoString) : Prop := (sourcePrefix tenantExternalID).isPrefixOf key = true

instance (tenantExternalID key : GoString) : Decidable (Under tenantExternalID key) := inferInstanceAs (Decidable (_ = true))

theorem sourceObjectKey_under (derived : sourceObjectKey tenantExternalID sourceID = .ok key) : Under tenantExternalID key := by
  unfold sourceObjectKey at derived
  split at derived
  · obtain rfl := Except.ok.inj derived
    simp [Under, sourcePrefix, List.append_assoc]
  · cases derived

/-- The identifiers that a tenant's calls draw or are assigned. -/
structure Identifiers where
  sourceIDs : Nat → Prop
  sourceNames : GoString → Prop
  objectKeys : GoString → Prop
  jobIDs : Nat → Prop
  jobNames : GoString → Prop
  eventIDs : GoString → Prop

/-- No row of another tenant has one of the identifiers. -/
structure Apart (tenantID : Nat) (drawn : Identifiers) (db : Db) : Prop where
  sources : ∀ row ∈ db.sources, drawn.sourceIDs row.id ∨ drawn.sourceNames row.externalID ∨ drawn.objectKeys row.objectKey →
    row.tenantID = tenantID
  jobs : ∀ row ∈ db.jobs, drawn.jobIDs row.id ∨ drawn.jobNames row.externalID → row.tenantID = tenantID
  events : ∀ row ∈ db.outbox, drawn.eventIDs row.eventID → row.tenantID = tenantID

/-- Every event in the outbox is one of an existing job, under the tenant of the job. -/
def Announced (db : Db) : Prop := ∀ row ∈ db.outbox, ∃ job ∈ db.jobs, job.id = row.jobID ∧ job.tenantID = row.tenantID

/-- Two states that agree on everything a tenant's calls can get to see. -/
structure Twins (tenant : Tenant) (drawn : Identifiers) (db twin : Db) : Prop extends Beside tenant db twin where
  outbox : Shared (fun row => row.tenantID = tenant.id) db.outbox twin.outbox
  reservations : Shared (fun row => Under tenant.externalID row.objectKey) db.reservations twin.reservations
  apart : Apart tenant.id drawn db
  apartTwin : Apart tenant.id drawn twin
  announced : Announced db
  announcedTwin : Announced twin

/-- A state that knows the tenant and in which its draws collide with no row of another one. -/
structure Hosts (tenant : Tenant) (drawn : Identifiers) (db : Db) : Prop where
  keys : UniqueKeys db
  registered : tenant.Registered db
  apart : Apart tenant.id drawn db
  announced : Announced db

/-- The transaction ends alike in states that agree on the tenant, and they still agree. -/
abbrev KeepsTwins {α ε : Type} (tenant : Tenant) (drawn : Identifiers) (tx : Transaction Db ε α) : Prop :=
  Couples (Twins tenant drawn) tx fun _ => Twins tenant drawn

section Statements

variable {tenant : Tenant} {drawn : Identifiers} {db twin : Db}

theorem Twins.hosts (twins : Twins tenant drawn db twin) : Hosts tenant drawn db :=
  ⟨twins.keys, twins.registered, twins.apart, twins.announced⟩

theorem Twins.hostsTwin (twins : Twins tenant drawn db twin) : Hosts tenant drawn twin :=
  ⟨twins.keysTwin, twins.registeredTwin, twins.apartTwin, twins.announcedTwin⟩

theorem Hosts.twinsOf (hosts : Hosts tenant drawn db) (hostsTwin : Hosts tenant drawn twin) (now : twin.now = db.now)
    (rows : AgreeOn tenant.id db twin) (outbox : Shared (fun row => row.tenantID = tenant.id) db.outbox twin.outbox)
    (reservations : Shared (fun row => Under tenant.externalID row.objectKey) db.reservations twin.reservations) :
    Twins tenant drawn db twin :=
  { keys := hosts.keys, keysTwin := hostsTwin.keys, registered := hosts.registered, now, rows, outbox, reservations
    apart := hosts.apart, apartTwin := hostsTwin.apart, announced := hosts.announced, announcedTwin := hostsTwin.announced }

/-! ### Reservations -/

theorem Twins.any_reservation (twins : Twins tenant drawn db twin) {p : ReservationRow → Bool}
    (under : ∀ row, p row = true → Under tenant.externalID row.objectKey) : twin.reservations.any p = db.reservations.any p :=
  twins.reservations.any (fun row _ holds => under row holds) fun row _ holds => under row holds

theorem Twins.countP_reservation (twins : Twins tenant drawn db twin) {p : ReservationRow → Bool}
    (under : ∀ row, p row = true → Under tenant.externalID row.objectKey) : twin.reservations.countP p = db.reservations.countP p :=
  twins.reservations.countP twins.keys.reservations twins.keysTwin.reservations (fun row _ holds => under row holds)
    fun row _ holds => under row holds

theorem owns_under {row : ReservationRow} (under : Under tenant.externalID claim.objectKey) (owns : claim.owns row = true) :
    Under tenant.externalID row.objectKey := by
  have key : row.objectKey = claim.objectKey := (of_decide_eq_true owns).1
  rw [key]
  exact under

theorem Twins.reservationHeld (twins : Twins tenant drawn db twin) (under : Under tenant.externalID claim.objectKey) :
    External.reservationHeld claim twin = External.reservationHeld claim db := by
  unfold External.reservationHeld
  rw [twins.now]
  exact twins.any_reservation fun row holds => owns_under under (of_decide_eq_true holds).1

theorem Hosts.withReservations (hosts : Hosts tenant drawn db) (keyed : Keyed ReservationRow.objectKey rows) :
    Hosts tenant drawn { db with reservations := rows } :=
  { hosts with keys := { hosts.keys with reservations := keyed }, apart := { hosts.apart with } }

theorem Twins.withReservations (twins : Twins tenant drawn db twin) {rows' : List ReservationRow}
    (shared : Shared (fun row => Under tenant.externalID row.objectKey) rows rows')
    (keyed : Keyed ReservationRow.objectKey rows) (keyed' : Keyed ReservationRow.objectKey rows') :
    Twins tenant drawn { db with reservations := rows } { twin with reservations := rows' } :=
  (twins.hosts.withReservations keyed).twinsOf (twins.hostsTwin.withReservations keyed') twins.now { twins.rows with } twins.outbox shared

theorem Twins.deleteReservations (twins : Twins tenant drawn db twin) (p : ReservationRow → Bool) :
    Twins tenant drawn { db with reservations := delete p db.reservations } { twin with reservations := delete p twin.reservations } :=
  twins.withReservations (twins.reservations.delete p) (twins.keys.reservations.delete p) (twins.keysTwin.reservations.delete p)

/-! ### Rows that a submission writes -/

private theorem Hosts.withIdempotency (hosts : Hosts tenant drawn db) {rows : List IdempotencyRow}
    (keyed : Keyed recordKey rows) :
    Hosts tenant drawn { db with idempotency := rows } :=
  { hosts with keys := { hosts.keys with records := keyed }, apart := { hosts.apart with } }

private theorem Twins.withIdempotency (twins : Twins tenant drawn db twin) {rows rows' : List IdempotencyRow}
    (shared : Shared (fun row => row.tenantID = tenant.id) rows rows') (keyed : Keyed recordKey rows) (keyed' : Keyed recordKey rows') :
    Twins tenant drawn { db with idempotency := rows } { twin with idempotency := rows' } :=
  (twins.hosts.withIdempotency keyed).twinsOf (twins.hostsTwin.withIdempotency keyed') twins.now
    { twins.rows with idempotency := shared } twins.outbox twins.reservations

theorem Twins.expireIdempotency (twins : Twins tenant drawn db twin) (tenantID : Nat) (keyDigest : Bytes) (now : Time) :
    Twins tenant drawn (External.expireIdempotency tenantID keyDigest now db) (External.expireIdempotency tenantID keyDigest now twin) :=
  twins.withIdempotency (twins.rows.idempotency.delete _) (twins.keys.records.delete _) (twins.keysTwin.records.delete _)

theorem Hosts.insertSource (hosts : Hosts tenant drawn db) {row : SourceRow} (owned : row.tenantID = tenant.id)
    (fresh : ∀ other ∈ db.sources, other.id ≠ row.id) : Hosts tenant drawn { db with sources := db.sources ++ [row] } :=
  { hosts with
    keys := { hosts.keys with sourceIDs := hosts.keys.sourceIDs.insert fresh }
    apart := { hosts.apart with sources := List.forall_mem_append.mpr ⟨hosts.apart.sources, by simp [owned]⟩ } }

theorem Hosts.insertJob (hosts : Hosts tenant drawn db) {row : JobRow} (owned : row.tenantID = tenant.id)
    (fresh : ∀ other ∈ db.jobs, other.id ≠ row.id ∧ other.externalID ≠ row.externalID) :
    Hosts tenant drawn { db with jobs := db.jobs ++ [row] } where
  keys := { hosts.keys with
    jobIDs := hosts.keys.jobIDs.insert fun other member => (fresh other member).1
    jobNames := hosts.keys.jobNames.insert fun other member => (fresh other member).2 }
  registered := hosts.registered
  apart := { hosts.apart with jobs := List.forall_mem_append.mpr ⟨hosts.apart.jobs, by simp [owned]⟩ }
  announced event member := by
    obtain ⟨job, inside, id, owner⟩ := hosts.announced event member
    exact ⟨job, List.mem_append_left _ inside, id, owner⟩

/-! ### Submissions -/

/-- The identifiers of the submission are among those drawn. -/
structure DrawnFrom (drawn : Identifiers) (submission : Submission) (assigned : AssignedIDs) : Prop where
  sourceID : drawn.sourceIDs assigned.source
  sourceName : drawn.sourceNames submission.sourceExternalID
  objectKey : drawn.objectKeys submission.sourceKey
  jobID : drawn.jobIDs assigned.job
  jobName : drawn.jobNames submission.jobExternalID

/-- The submission is one of the tenant, under identifiers that are drawn. -/
structure SubmittedBy (tenant : Tenant) (drawn : Identifiers) (submission : Submission) (assigned : AssignedIDs) : Prop
    extends DrawnFrom drawn submission assigned where
  named : submission.tenantExternalID = tenant.externalID
  coordinationKey : Under tenant.externalID submission.coordinationKey
  sourceKey : Under tenant.externalID submission.sourceKey

private theorem lockSubmissionReservations_couples {first second : SourceReservationClaim}
    (under : Under tenant.externalID first.objectKey)
    (under' : Under tenant.externalID second.objectKey) :
    KeepsTwins tenant drawn (lockSubmissionReservations first second) := by
  have held {claim : SourceReservationClaim} (under : Under tenant.externalID claim.objectKey) :
      KeepsTwins tenant drawn (query (External.reservationHeld claim) : Tx Bool) :=
    .query_same fun _ _ twins => twins.reservationHeld under
  have both {first second : SourceReservationClaim} (under : Under tenant.externalID first.objectKey)
      (under' : Under tenant.externalID second.objectKey) : KeepsTwins tenant drawn (do
        ensure (← query (External.reservationHeld first)) (.unavailable "lock encrypted source reservation" .noRows)
        ensure (← query (External.reservationHeld second)) (.unavailable "lock encrypted source reservation" .noRows) : Tx Unit) := by
    refine .bind (held under) fun _ => .bind .ensure_same fun _ => .bind (held under') fun _ => ?_
    exact .ensure_same
  unfold lockSubmissionReservations
  split
  next swapped =>
    split at swapped
    · obtain ⟨rfl, rfl⟩ := Prod.mk.inj swapped
      exact both under' under
    · obtain ⟨rfl, rfl⟩ := Prod.mk.inj swapped
      exact both under under'

private theorem lockTenantPolicy_couples :
    Couples (Twins tenant drawn) (lockTenantPolicy tenant.externalID) fun locked db twin => locked.1 = tenant.id ∧ Twins tenant drawn db twin := by
  have found : Couples (Twins tenant drawn) (require (fun db => db.tenants.find? fun row => row.externalID = tenant.externalID)
      (.unavailable "lock tenant policy" .noRows) : Tx TenantRow) fun row db twin => row.id = tenant.id ∧ Twins tenant drawn db twin := by
    refine .require (fun _ _ twins => twins.find?_tenant fun row holds => of_decide_eq_true holds) fun db twin row twins found => ?_
    obtain ⟨member, named⟩ := find?_row found
    exact ⟨(twins.registered.named twins.keys member).mp named, twins⟩
  unfold lockTenantPolicy
  refine .bind found fun row => .bind .ensure_same fun _ => ?_
  exact .bind (.require_same fun _ _ _ => rfl) fun policy => .pure fun _ _ known => known

namespace Twins

variable (twins : Twins tenant drawn db twin)
include twins

theorem findIdempotency (keyDigest : Bytes) :
    External.findIdempotency tenant.id keyDigest twin = External.findIdempotency tenant.id keyDigest db := by
  apply find?_owned twins.rows.idempotency twins.keysTwin.records
  intro record holds
  obtain ⟨owner, scope, digest⟩ := of_decide_eq_true holds
  exact ⟨owner, congrArg₂ Prod.mk owner (congrArg₂ Prod.mk scope digest)⟩

theorem queuedJobs : External.queuedJobs twin tenant.id = External.queuedJobs db tenant.id :=
  twins.rows.jobs.countP twins.keys.jobIDs twins.keysTwin.jobIDs (fun _ _ holds => (of_decide_eq_true holds).1)
    fun _ _ holds => (of_decide_eq_true holds).1

private theorem find?_bundle (externalID : GoString) :
    twin.bundles.find? (BundleRow.available tenant.id externalID) = db.bundles.find? (BundleRow.available tenant.id externalID) :=
  find?_owned twins.rows.bundles twins.keysTwin.bundleNames fun _ holds =>
    ⟨(of_decide_eq_true holds).1, (of_decide_eq_true holds).2.1⟩

private theorem find?_callback (externalID : GoString) :
    twin.callbacks.find? (CallbackRow.available tenant.id externalID) = db.callbacks.find? (CallbackRow.available tenant.id externalID) :=
  find?_owned twins.rows.callbacks twins.keysTwin.callbackNames fun _ holds =>
    ⟨(of_decide_eq_true holds).1, (of_decide_eq_true holds).2.1⟩

end Twins

private theorem admitSubmission_couples : KeepsTwins tenant drawn (admitSubmission submission tenant.id policy) := by
  unfold admitSubmission
  refine .bind .ensure_same fun _ => ?_
  refine .bind (.query_same fun _ _ twins => twins.queuedJobs) fun _ => ?_
  refine .bind .ensure_same fun _ => ?_
  refine .bind (.require_same fun _ _ twins => twins.find?_bundle _) fun bundle => ?_
  split
  · exact .pure fun _ _ twins => twins
  · refine .bind (.require_same fun _ _ twins => twins.find?_callback _) fun callback => ?_
    exact .pure fun _ _ twins => twins

/-- An insertion that looks for a clash first, with a condition that only rows of the tenant meet. -/
theorem insert_couples {α : Type} {rows : Db → List α} {put : Db → Db} {own : α → Prop} {clash : α → Bool} {error : RepositoryError}
    (shared : ∀ db twin, Twins tenant drawn db twin → Shared own (rows db) (rows twin))
    (owned : ∀ db, Hosts tenant drawn db → ∀ row ∈ rows db, clash row = true → own row)
    (inserted : ∀ db twin, Twins tenant drawn db twin → (∀ other ∈ rows db, clash other = false) →
      (∀ other ∈ rows twin, clash other = false) → Twins tenant drawn (put db) (put twin)) :
    KeepsTwins tenant drawn (do
      let taken ← query fun db => (rows db).any clash
      ensure (!taken) error
      execute put : Tx Unit) := by
  have same (db twin : Db) (twins : Twins tenant drawn db twin) : (rows twin).any clash = (rows db).any clash :=
    (shared db twin twins).any (owned db twins.hosts) (owned twin twins.hostsTwin)
  have looked : Couples (Twins tenant drawn) (query fun db => (rows db).any clash : Tx Bool) fun taken db twin =>
      ((rows db).any clash = taken ∧ (rows twin).any clash = taken) ∧ Twins tenant drawn db twin :=
    .query same fun db twin twins => ⟨⟨rfl, same db twin twins⟩, twins⟩
  refine .bind looked fun taken => .bind .ensure fun _ => .execute fun db twin known => ?_
  obtain ⟨untaken, ⟨taken, takenTwin⟩, twins⟩ := known
  rw [Bool.not_eq_true'] at untaken
  rw [untaken, List.any_eq_false] at taken takenTwin
  exact inserted db twin twins (fun other member => by simpa using taken other member) fun other member => by simpa using takenTwin other member

private theorem insertSource_couples (of : SubmittedBy tenant drawn submission assigned) :
    KeepsTwins tenant drawn (External.insertSource (submittedSource submission tenant.id assigned.source)) := by
  refine insert_couples (fun db twin twins => twins.rows.sources) (fun db hosts row member clash => ?_)
    fun db twin twins free freeTwin => ?_
  · refine hosts.apart.sources row member ?_
    rcases of_decide_eq_true clash with same | same | same
    · exact .inl (same ▸ of.sourceID)
    · exact .inr (.inl (same ▸ of.sourceName))
    · exact .inr (.inr (same ▸ of.objectKey))
  · exact (twins.hosts.insertSource rfl fun other member same => of_decide_eq_false (free other member) (.inl same)).twinsOf
      (twins.hostsTwin.insertSource rfl fun other member same => of_decide_eq_false (freeTwin other member) (.inl same)) twins.now
      { twins.rows with sources := twins.rows.sources.append _ } twins.outbox twins.reservations

private theorem insertJob_couples (of : SubmittedBy tenant drawn submission assigned) (bundleID : Nat)
    (callbackID : Option Nat) (now : Time) :
    KeepsTwins tenant drawn
      (External.insertJob (submittedJob submission tenant.id bundleID assigned.source assigned.job callbackID now)) := by
  refine insert_couples (fun db twin twins => twins.rows.jobs) (fun db hosts row member clash => ?_)
    fun db twin twins free freeTwin => ?_
  · refine hosts.apart.jobs row member ?_
    rcases of_decide_eq_true clash with same | same
    · exact .inl (same ▸ of.jobID)
    · exact .inr (same ▸ of.jobName)
  · exact (twins.hosts.insertJob rfl fun other member => not_or.mp (of_decide_eq_false (free other member))).twinsOf
      (twins.hostsTwin.insertJob rfl fun other member => not_or.mp (of_decide_eq_false (freeTwin other member))) twins.now
      { twins.rows with jobs := twins.rows.jobs.append _ } twins.outbox twins.reservations

private theorem insertIdempotency_couples (now : Time) :
    KeepsTwins tenant drawn (External.insertIdempotency (submittedRecord repository submission tenant.id now)) := by
  refine insert_couples (fun db twin twins => twins.rows.idempotency) (fun db hosts row member clash => ?_)
    fun db twin twins free freeTwin => ?_
  · exact (of_decide_eq_true clash).1
  · have fresh (other : IdempotencyRow) (free : decide (other.tenantID = tenant.id ∧ other.operationScope = submitJobIdempotencyScope ∧
        other.keyDigest = submission.keyDigest) = false) :
        recordKey other ≠ recordKey (submittedRecord repository submission tenant.id now) := by
      intro same
      simp only [recordKey, submittedRecord, Prod.mk.injEq] at same
      exact of_decide_eq_false free same
    refine twins.withIdempotency (twins.rows.idempotency.append _) ?_ ?_
    · exact twins.keys.records.insert fun other member => fresh other (free other member)
    · exact twins.keysTwin.records.insert fun other member => fresh other (freeTwin other member)

private theorem publishReservations_couples (of : SubmittedBy tenant drawn submission assigned) :
    KeepsTwins tenant drawn (publishReservations submission) := by
  have under (row : ReservationRow) (owns : submission.ownsReservation row = true) : Under tenant.externalID row.objectKey := by
    rcases Bool.or_eq_true_iff.mp owns with owns | owns
    · exact owns_under of.coordinationKey owns
    · exact owns_under of.sourceKey owns
  unfold publishReservations
  refine .bind (.query_same fun _ _ twins => twins.countP_reservation under) fun _ => ?_
  refine .bind (.execute fun _ _ twins => twins.deleteReservations _) fun _ => ?_
  exact .ensure_same

private theorem unavailableOn_couples :
    KeepsTwins tenant drawn (unavailableOn operation (External.getExternalJob tenant.externalID jobExternalID)) :=
  .wrap (.attempt_same fun _ _ twins => twins.getExternalJob _)

theorem submitTransaction_couples (of : SubmittedBy tenant drawn submission assigned) :
    KeepsTwins tenant drawn (submitTransaction repository submission assigned) := by
  unfold submitTransaction
  refine .bind (.wrap (lockSubmissionReservations_couples of.coordinationKey of.sourceKey)) fun _ => ?_
  rw [of.named]
  refine .bind (.wrap lockTenantPolicy_couples) fun locked => ?_
  obtain ⟨tenantID, policy⟩ := locked
  rintro db twin ⟨rfl, twins⟩
  refine Couples.bind (.query_same fun _ _ twins => twins.now) (fun now => ?_) db twin twins
  refine .bind (.execute fun _ _ twins => twins.expireIdempotency _ _ _) fun _ => ?_
  refine .bind (.query_same fun _ _ twins => twins.findIdempotency _) fun found => ?_
  cases found with
  | some record =>
    refine .bind (.wrap (.attempt_same fun _ _ twins => twins.replayRecord of.named record)) fun _ => ?_
    exact .fail
  | none =>
    refine .bind (.wrap admitSubmission_couples) fun references => .bind (.wrap ?_) fun _ => .pure fun _ _ twins => twins
    unfold createJob
    refine .bind (insertSource_couples of) fun _ => .bind (insertJob_couples of _ _ _) fun _ => ?_
    refine .bind (insertIdempotency_couples _) fun _ => .bind (publishReservations_couples of) fun _ => ?_
    rw [of.named]
    exact unavailableOn_couples

/-! ### Cancellations -/

def OwnsJob (tenant : Tenant) (jobID : Nat) (db : Db) : Prop := ∃ job ∈ db.jobs, job.id = jobID ∧ job.tenantID = tenant.id

theorem getExternalJob_ownsJob (keys : UniqueKeys db) (registered : tenant.Registered db)
    (read : External.getExternalJob tenant.externalID jobExternalID db = .ok record) : OwnsJob tenant record.internalID db := by
  unfold External.getExternalJob getExternalJobWhere at read
  split at read
  next => cases read
  next row found =>
    obtain ⟨member, holds⟩ := find?_row found
    obtain ⟨-, id, -⟩ := scanExternalJob_ok read
    exact ⟨row.job, (mem_externalJobSelect.mp member).1, id.symm, selected_owned keys registered member holds.1⟩

/-- A change of jobs that leaves their identity alone. -/
structure KeepsIdentity (f : JobRow → JobRow) : Prop where
  id : ∀ job, (f job).id = job.id
  externalID : ∀ job, (f job).externalID = job.externalID
  tenantID : ∀ job, (f job).tenantID = job.tenantID

theorem Hosts.updateJobs (hosts : Hosts tenant drawn db) (keeps : KeepsIdentity f) :
    Hosts tenant drawn { db with jobs := update p f db.jobs } where
  keys := { hosts.keys with
    jobIDs := hosts.keys.jobIDs.update fun job _ => keeps.id job
    jobNames := hosts.keys.jobNames.update fun job _ => keeps.externalID job }
  registered := hosts.registered
  apart := by
    refine ⟨hosts.apart.sources, fun row member taken => ?_, hosts.apart.events⟩
    rcases mem_update.mp member with ⟨old, inside, -, rfl⟩ | ⟨inside, -⟩
    · rw [keeps.id, keeps.externalID] at taken
      rw [keeps.tenantID]
      exact hosts.apart.jobs old inside taken
    · exact hosts.apart.jobs row inside taken
  announced row member := by
    obtain ⟨job, inside, id, owner⟩ := hosts.announced row member
    by_cases holds : p job = true
    · exact ⟨f job, mem_update.mpr (.inl ⟨job, inside, holds, rfl⟩), (keeps.id job).trans id, (keeps.tenantID job).trans owner⟩
    · exact ⟨job, mem_update.mpr (.inr ⟨inside, by simpa using holds⟩), id, owner⟩

theorem Twins.updateJobs (twins : Twins tenant drawn db twin) (keeps : KeepsIdentity f) :
    Twins tenant drawn { db with jobs := update p f db.jobs } { twin with jobs := update p f twin.jobs } :=
  (twins.hosts.updateJobs keeps).twinsOf (twins.hostsTwin.updateJobs keeps) twins.now
    { twins.rows with jobs := twins.rows.jobs.update fun job _ owned => (keeps.tenantID job).symm.trans owned }
    twins.outbox twins.reservations

theorem Twins.owns (twins : Twins tenant drawn db twin) (owns : OwnsJob tenant jobID db) : OwnsJob tenant jobID twin := by
  obtain ⟨job, member, id, owner⟩ := owns
  exact ⟨job, (twins.rows.jobs job owner).mp member, id, owner⟩

theorem OwnsJob.tenantID (owns : OwnsJob tenant jobID db) (keys : UniqueKeys db) {job : JobRow} (member : job ∈ db.jobs)
    (id : job.id = jobID) : job.tenantID = tenant.id := by
  obtain ⟨own, inside, same, owner⟩ := owns
  rw [keys.jobIDs.eq member inside (id.trans same.symm), owner]

private theorem Twins.find?_job (twins : Twins tenant drawn db twin) (owns : OwnsJob tenant jobID db) :
    twin.jobs.find? (fun row => row.id = jobID) = db.jobs.find? fun row => row.id = jobID := by
  refine twins.rows.jobs.find? (fun row member holds => ?_) (fun row member holds => ?_) fun left first right second holds holds' => ?_
  · exact owns.tenantID twins.keys member (of_decide_eq_true holds)
  · exact (twins.owns owns).tenantID twins.keysTwin member (of_decide_eq_true holds)
  · exact twins.keysTwin.jobIDs.eq first second ((of_decide_eq_true holds).trans (of_decide_eq_true holds').symm)

private theorem Hosts.eventOwner (hosts : Hosts tenant drawn db) (owns : OwnsJob tenant jobID db) (member : row ∈ db.outbox)
    (id : row.jobID = jobID) : row.tenantID = tenant.id := by
  obtain ⟨job, inside, same, owner⟩ := hosts.announced row member
  exact owner.symm.trans (owns.tenantID hosts.keys inside (same.trans id))

private theorem Hosts.insertEvent (hosts : Hosts tenant drawn db) (owns : OwnsJob tenant row.jobID db)
    (owned : row.tenantID = tenant.id) (fresh : ∀ other ∈ db.outbox, other.jobID ≠ row.jobID) :
    Hosts tenant drawn { db with outbox := db.outbox ++ [row] } where
  keys := { hosts.keys with events := hosts.keys.events.insert fresh }
  registered := hosts.registered
  apart := { hosts.apart with events := List.forall_mem_append.mpr ⟨hosts.apart.events, by simp [owned]⟩ }
  announced other member := by
    rcases List.mem_append.mp member with inside | new
    · exact hosts.announced other inside
    · obtain ⟨job, inside, id, owner⟩ := owns
      rw [List.mem_singleton.mp new]
      exact ⟨job, inside, id, owner.trans owned.symm⟩

/-- The states agree, and the job is one of the tenant. -/
private def TwinsOwning (tenant : Tenant) (drawn : Identifiers) (jobID : Nat) (db twin : Db) : Prop :=
  OwnsJob tenant jobID db ∧ Twins tenant drawn db twin

private theorem persistTerminalEvent_couples (attempts : Nat) (entropy : List Bytes)
    (events : ∀ buffer ∈ entropy, drawn.eventIDs (encodeBase32Lower buffer)) :
    Couples (TwinsOwning tenant drawn job.internalID) (persistTerminalEvent window now job tenant.id callbackID attempts entropy)
      fun _ => Twins tenant drawn := by
  induction attempts generalizing entropy with
  | zero => exact .fail
  | succ attempts ih =>
    cases entropy with
    | nil => exact .fail
    | cons buffer rest =>
      unfold persistTerminalEvent generateExternalID
      dsimp only
      split
      next => exact .fail
      next eventID left given =>
        split at given
        · obtain ⟨rfl, rfl⟩ := Prod.mk.inj (Except.ok.inj given)
          split
          next => exact .fail
          next eventType payloadBody encoded =>
            rintro db twin ⟨owns, twins⟩
            set row := outboxRow window now job tenant.id callbackID (encodeBase32Lower buffer) eventType payloadBody
            have owned {db : Db} (hosts : Hosts tenant drawn db) (owns : OwnsJob tenant job.internalID db) (other : OutboxRow)
                (member : other ∈ db.outbox) (clash : decide (other.eventID = row.eventID ∨ other.jobID = row.jobID) = true) :
                other.tenantID = tenant.id := by
              rcases of_decide_eq_true clash with same | same
              · exact hosts.apart.events other member (same ▸ events buffer (List.mem_cons_self ..))
              · exact hosts.eventOwner owns member same
            have conflict : outboxConflict row twin = outboxConflict row db :=
              twins.outbox.any (owned twins.hosts owns) (owned twins.hostsTwin (twins.owns owns))
            have existing : twin.outbox.find? (fun other => other.jobID = job.internalID) =
                db.outbox.find? fun other => other.jobID = job.internalID := by
              refine twins.outbox.find? (fun other member holds => ?_) (fun other member holds => ?_)
                fun left first right second holds holds' => ?_
              · exact twins.hosts.eventOwner owns member (of_decide_eq_true holds)
              · exact twins.hostsTwin.eventOwner (twins.owns owns) member (of_decide_eq_true holds)
              · exact twins.keysTwin.events.eq first second ((of_decide_eq_true holds).trans (of_decide_eq_true holds').symm)
            dsimp only
            rw [conflict, existing]
            split
            · split
              · exact ih rest (fun buffer member => events buffer (List.mem_cons_of_mem _ member)) db twin ⟨owns, twins⟩
              · split
                · exact .ok twins
                · exact .error _
            next free =>
              have freeTwin : outboxConflict row twin = false := by rw [conflict]; simpa using free
              have fresh {db : Db} (free : outboxConflict row db = false) (other : OutboxRow) (member : other ∈ db.outbox) :
                  other.jobID ≠ row.jobID := by
                intro same
                have clear := List.any_eq_false.mp free other member
                simp [same] at clear
              exact .ok ((twins.hosts.insertEvent owns rfl (fresh (by simpa using free))).twinsOf
                (twins.hostsTwin.insertEvent (twins.owns owns) rfl (fresh freeTwin)) twins.now { twins.rows with }
                (twins.outbox.append row) twins.reservations)
        · cases given

private theorem insertTerminalWebhookEvent_couples (events : ∀ buffer ∈ entropy, drawn.eventIDs (encodeBase32Lower buffer)) :
    Couples (TwinsOwning tenant drawn job.internalID) (insertTerminalWebhookEvent window entropy now job) fun _ => Twins tenant drawn := by
  have owner : Couples (TwinsOwning tenant drawn job.internalID) (require (fun db => db.jobs.find? fun row => row.id = job.internalID)
      (.unavailable "read terminal webhook ownership" .noRows) : Tx JobRow)
      fun row db twin => row.tenantID = tenant.id ∧ TwinsOwning tenant drawn job.internalID db twin := by
    refine .require (fun _ _ known => known.2.find?_job known.1) fun db twin row known found => ⟨?_, known⟩
    obtain ⟨member, holds⟩ := find?_row found
    exact known.1.tenantID known.2.keys member holds
  unfold insertTerminalWebhookEvent
  refine .bind owner fun row => ?_
  cases row.callbackID with
  | none => exact .pure fun _ _ known => known.2.2
  | some callbackID =>
    rintro db twin ⟨owned, known⟩
    rw [owned]
    exact persistTerminalEvent_couples _ _ events db twin known

/-- The number of rows that an update has changed is not looked at. -/
theorem updateJobs_couples (p : JobRow → Bool) (f : JobRow → JobRow) (keeps : KeepsIdentity f) {rest : Tx ExternalJobRecord}
    (after : KeepsTwins tenant drawn rest) : KeepsTwins tenant drawn (updateJobs p f >>= fun _ => rest) :=
  fun _ _ twins => after _ _ (twins.updateJobs keeps)

private theorem readOwned_couples :
    Couples (Twins tenant drawn) (unavailableOn operation (External.getExternalJob tenant.externalID jobExternalID))
      fun job => TwinsOwning tenant drawn job.internalID :=
  .wrap (.attempt (fun _ _ twins => twins.getExternalJob _)
    fun _ _ _ twins read => ⟨getExternalJob_ownsJob twins.keys twins.registered read, twins⟩)

theorem cancel_couples (events : ∀ buffer ∈ entropy, drawn.eventIDs (encodeBase32Lower buffer)) :
    KeepsTwins tenant drawn (cancel repository entropy tenant.externalID jobExternalID) := by
  unfold cancel
  refine .bind .ensure_same fun _ => .bind (.require_same fun _ _ twins => ?_) fun _ => ?_
  · exact twins.find?_tenant fun row holds => of_decide_eq_true holds
  refine .bind (.wrap (.attempt_same fun _ _ twins => twins.getExternalJob _)) fun job => ?_
  refine .bind (.query_same fun _ _ twins => twins.now) fun now => ?_
  cases job.status with
  | queued =>
    refine updateJobs_couples _ (cancelQueued now) ⟨fun _ => rfl, fun _ => rfl, fun _ => rfl⟩ (.bind readOwned_couples fun job => ?_)
    exact .bind (insertTerminalWebhookEvent_couples events) fun _ => .pure fun _ _ twins => twins
  | running =>
    dsimp only
    split
    · exact updateJobs_couples _ (fun row => { row with cancelRequestedAt := some now }) ⟨fun _ => rfl, fun _ => rfl, fun _ => rfl⟩
        unavailableOn_couples
    · exact unavailableOn_couples
  | succeeded | failed | cancelled => exact unavailableOn_couples

end Statements

end JudgingServer.Proofs
