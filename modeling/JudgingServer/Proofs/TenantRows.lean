import JudgingServer.External.JobQueries
import JudgingServer.Library.Shared
import JudgingServer.Proofs.Announcements

/-! What the reads of the job API depend on: the rows that belong to the tenant they are
made for, and the clock. -/

namespace JudgingServer.Proofs
open Go External Library Table Transaction

variable {query : JobListQuery}

/-- The key of an idempotency record. -/
def recordKey (record : IdempotencyRow) : Nat × GoString × Bytes := (record.tenantID, record.operationScope, record.keyDigest)

/-- The unique keys of the schema. -/
structure UniqueKeys (db : Db) : Prop where
  tenantIDs : Keyed TenantRow.id db.tenants
  tenantNames : Keyed TenantRow.externalID db.tenants
  bundleIDs : Keyed BundleRow.id db.bundles
  bundleNames : Keyed BundleRow.externalID db.bundles
  callbackIDs : Keyed CallbackRow.id db.callbacks
  callbackNames : Keyed CallbackRow.externalID db.callbacks
  sourceIDs : Keyed SourceRow.id db.sources
  jobIDs : Keyed JobRow.id db.jobs
  jobNames : Keyed JobRow.externalID db.jobs
  records : Keyed recordKey db.idempotency
  reservations : Keyed ReservationRow.objectKey db.reservations
  events : Keyed OutboxRow.jobID db.outbox

/-- A tenant under its two identifiers. -/
structure Tenant where
  id : Nat
  externalID : GoString
deriving DecidableEq, Repr

def Tenant.Registered (tenant : Tenant) (db : Db) : Prop :=
  ∃ row ∈ db.tenants, row.id = tenant.id ∧ row.externalID = tenant.externalID

/-- The two states have the same rows of a tenant: its own row, its bundles, callbacks, sources,
jobs and idempotency records. -/
structure AgreeOn (tenantID : Nat) (db twin : Db) : Prop where
  tenant : Shared (fun row => row.id = tenantID) db.tenants twin.tenants
  bundles : Shared (fun row => row.tenantID = tenantID) db.bundles twin.bundles
  callbacks : Shared (fun row => row.tenantID = tenantID) db.callbacks twin.callbacks
  sources : Shared (fun row => row.tenantID = tenantID) db.sources twin.sources
  jobs : Shared (fun row => row.tenantID = tenantID) db.jobs twin.jobs
  idempotency : Shared (fun row => row.tenantID = tenantID) db.idempotency twin.idempotency

theorem AgreeOn.refl (tenantID : Nat) (db : Db) : AgreeOn tenantID db db :=
  ⟨.refl _ _, .refl _ _, .refl _ _, .refl _ _, .refl _ _, .refl _ _⟩

/-- Two states at the same time that agree on a tenant they both know. -/
structure Beside (tenant : Tenant) (db twin : Db) : Prop where
  keys : UniqueKeys db
  keysTwin : UniqueKeys twin
  registered : tenant.Registered db
  now : twin.now = db.now
  rows : AgreeOn tenant.id db twin

section Reads

variable {tenant : Tenant}

theorem Tenant.Registered.named (registered : tenant.Registered db) (keys : UniqueKeys db) {row : TenantRow} (member : row ∈ db.tenants) :
    row.externalID = tenant.externalID ↔ row.id = tenant.id := by
  obtain ⟨own, inside, id, name⟩ := registered
  constructor
  · intro same
    rw [keys.tenantNames.eq member inside (same.trans name.symm), id]
  · intro same
    rw [keys.tenantIDs.eq member inside (same.trans id.symm), name]

theorem Beside.registeredTwin (beside : Beside tenant db twin) : tenant.Registered twin := by
  obtain ⟨row, member, id, name⟩ := beside.registered
  exact ⟨row, (beside.rows.tenant row id).mp member, id, name⟩

theorem Beside.find?_tenant (beside : Beside tenant db twin) {p : TenantRow → Bool}
    (named : ∀ row, p row = true → row.externalID = tenant.externalID) : twin.tenants.find? p = db.tenants.find? p := by
  have owned {db : Db} (keys : UniqueKeys db) (registered : tenant.Registered db) (row : TenantRow) (member : row ∈ db.tenants)
      (holds : p row = true) : row.id = tenant.id := (registered.named keys member).mp (named row holds)
  refine beside.rows.tenant.find? (owned beside.keys beside.registered) (owned beside.keysTwin beside.registeredTwin) ?_
  intro left first right second holds holds'
  exact beside.keysTwin.tenantNames.eq first second ((named left holds).trans (named right holds').symm)

theorem find?_owned {α κ : Type} {key : α → κ} {value : κ} {own : α → Prop} {rows twin : List α} {p : α → Bool}
    (shared : Shared own rows twin) (keyed : Keyed key twin) (named : ∀ row, p row = true → own row ∧ key row = value) :
    twin.find? p = rows.find? p := by
  refine shared.find? (fun row _ holds => (named row holds).1) (fun row _ holds => (named row holds).1) ?_
  intro left first right second holds holds'
  exact keyed.eq first second ((named left holds).2.trans (named right holds').2.symm)

theorem Beside.join (beside : Beside tenant db twin) (owned : job.tenantID = tenant.id) :
    joinExternalJob twin job = joinExternalJob db job := by
  unfold joinExternalJob
  rw [owned, find?_owned beside.rows.tenant beside.keysTwin.tenantIDs, find?_owned beside.rows.bundles beside.keysTwin.bundleIDs,
    find?_owned beside.rows.sources beside.keysTwin.sourceIDs, find?_owned beside.rows.callbacks beside.keysTwin.callbackIDs]
  · exact fun row holds => ⟨(of_decide_eq_true holds).2, congrArg (Option.getD · 0) (of_decide_eq_true holds).1⟩
  · exact fun row holds => (of_decide_eq_true holds).symm
  · exact fun row holds => (of_decide_eq_true holds).symm
  · exact fun row holds => ⟨of_decide_eq_true holds, of_decide_eq_true holds⟩

theorem mem_externalJobSelect : row ∈ externalJobSelect db ↔ row.job ∈ db.jobs ∧ joinExternalJob db row.job = some row := by
  unfold externalJobSelect
  rw [List.mem_filterMap]
  constructor
  · rintro ⟨job, member, joined⟩
    obtain ⟨rfl, -, -⟩ := joinExternalJob_some joined
    exact ⟨member, joined⟩
  · rintro ⟨member, joined⟩
    exact ⟨row.job, member, joined⟩

theorem Beside.select (beside : Beside tenant db twin) :
    Shared (fun row : ExternalJobRow => row.job.tenantID = tenant.id) (externalJobSelect db) (externalJobSelect twin) := by
  intro row owned
  rw [mem_externalJobSelect, mem_externalJobSelect, beside.join owned, beside.rows.jobs row.job owned]

theorem selected_owned (keys : UniqueKeys db) (registered : tenant.Registered db) (member : row ∈ externalJobSelect db)
    (named : row.tenant.externalID = tenant.externalID) : row.job.tenantID = tenant.id := by
  obtain ⟨-, inside, id⟩ := joinExternalJob_some (mem_externalJobSelect.mp member).2
  exact id.symm.trans ((registered.named keys inside).mp named)

theorem Beside.getExternalJob (beside : Beside tenant db twin) (jobExternalID : GoString) :
    External.getExternalJob tenant.externalID jobExternalID twin = External.getExternalJob tenant.externalID jobExternalID db := by
  unfold External.getExternalJob getExternalJobWhere
  rw [beside.select.find?]
  · intro row member holds
    exact selected_owned beside.keys beside.registered member (of_decide_eq_true holds).1
  · intro row member holds
    exact selected_owned beside.keysTwin beside.registeredTwin member (of_decide_eq_true holds).1
  · intro left first right second holds holds'
    obtain ⟨inside, joined⟩ := mem_externalJobSelect.mp first
    obtain ⟨inside', joined'⟩ := mem_externalJobSelect.mp second
    have same := (of_decide_eq_true holds).2.trans (of_decide_eq_true holds').2.symm
    rw [beside.keysTwin.jobNames.eq inside inside' same] at joined
    exact Option.some.inj (joined.symm.trans joined')

theorem Beside.get (beside : Beside tenant db twin) (jobExternalID : GoString) :
    External.get tenant.externalID jobExternalID twin = External.get tenant.externalID jobExternalID db := by
  unfold External.get
  rw [beside.getExternalJob]

/-! ### Lists -/

theorem externalJobSelect_sublist (db : Db) : List.Sublist ((externalJobSelect db).map ExternalJobRow.job) db.jobs := by
  unfold externalJobSelect
  generalize db.jobs = jobs
  induction jobs with
  | nil => exact .slnil
  | cons job rest ih =>
    cases joined : joinExternalJob db job with
    | none =>
      rw [List.filterMap_cons_none joined]
      exact ih.cons job
    | some row =>
      rw [List.filterMap_cons_some joined, List.map_cons, (joinExternalJob_some joined).1]
      exact ih.cons_cons job

theorem externalJobSelect_keyed (ids : Keyed JobRow.id db.jobs) :
    Keyed (fun row : ExternalJobRow => row.job.id) (externalJobSelect db) := by
  have listed := (externalJobSelect_sublist db).map JobRow.id
  rw [List.map_map] at listed
  exact List.Nodup.sublist listed ids

private theorem insertionSort_perm (same : rows.Perm rows') (keyed : Keyed (fun row : ExternalJobRow => row.job.id) rows) :
    rows.insertionSort (fun left right => jobListOrder right ≤ jobListOrder left) =
      rows'.insertionSort fun left right => jobListOrder right ≤ jobListOrder left := by
  set order : ExternalJobRow → ExternalJobRow → Prop := fun left right => jobListOrder right ≤ jobListOrder left
  have total : Std.Total order := ⟨fun left right => le_total (jobListOrder right) (jobListOrder left)⟩
  have transitive : IsTrans ExternalJobRow order := ⟨fun _ _ _ first second => le_trans second first⟩
  have perm := ((List.perm_insertionSort order rows).trans same).trans (List.perm_insertionSort order rows').symm
  refine perm.eq_of_pairwise ?_ (List.pairwise_insertionSort order rows) (List.pairwise_insertionSort order rows')
  intro left right inside inside' below above
  have equal : jobListOrder left = jobListOrder right := le_antisymm above below
  have id : left.job.id = right.job.id := congrArg (fun order => (ofLex order).2) equal
  have member := (List.mem_insertionSort order).mp inside
  have member' := same.mem_iff.mpr ((List.mem_insertionSort order).mp inside')
  exact keyed.eq member member' id

theorem Beside.selectJobs (beside : Beside tenant db twin) (named : query.tenantExternalID = tenant.externalID) :
    External.selectJobs query twin = External.selectJobs query db := by
  have own {db : Db} (keys : UniqueKeys db) (registered : tenant.Registered db) : (externalJobSelect db).filter query.selects =
      ((externalJobSelect db).filter fun row => decide (row.job.tenantID = tenant.id)).filter query.selects := by
    rw [List.filter_filter]
    refine List.filter_congr fun row member => ?_
    by_cases selected : query.selects row = true
    · have holds : row.tenant.externalID = query.tenantExternalID := (of_decide_eq_true selected).1
      simp [selected, selected_owned keys registered member (holds.trans named)]
    · simp [selected]
  have perm := (beside.select.perm (externalJobSelect_keyed beside.keys.jobIDs) (externalJobSelect_keyed beside.keysTwin.jobIDs)).filter query.selects
  rw [← own beside.keys beside.registered, ← own beside.keysTwin beside.registeredTwin] at perm
  unfold External.selectJobs
  rw [insertionSort_perm perm]
  exact List.Nodup.sublist (List.filter_sublist.map _) (externalJobSelect_keyed beside.keysTwin.jobIDs)

theorem listQuery_tenant (queried : listQuery codec tenantExternalID options = .ok query) :
    query.tenantExternalID = tenantExternalID := by
  unfold listQuery at queried
  split at queried
  · cases queried
  split at queried
  · exact congrArg JobListQuery.tenantExternalID (Except.ok.inj queried).symm
  split at queried
  · cases queried
  · exact congrArg JobListQuery.tenantExternalID (Except.ok.inj queried).symm

theorem Beside.list (beside : Beside tenant db twin) (codec : JobCursorCodec) (options : JobListOptions) :
    External.list codec tenant.externalID options twin = External.list codec tenant.externalID options db := by
  unfold External.list
  cases queried : listQuery codec tenant.externalID options with
  | error error => rfl
  | ok query => simp only [beside.selectJobs (listQuery_tenant queried)]

/-! ### Replays -/

private theorem findReplayRecord_eq (keys : UniqueKeys db) (registered : tenant.Registered db)
    (named : submission.tenantExternalID = tenant.externalID) :
    findReplayRecord submission db = db.idempotency.find? fun record =>
      record.tenantID = tenant.id ∧ record.operationScope = submitJobIdempotencyScope ∧ record.keyDigest = submission.keyDigest ∧
        db.now < record.expiresAt := by
  have owner (record : IdempotencyRow) : (db.tenants.any fun row => decide (row.id = record.tenantID ∧
      row.externalID = submission.tenantExternalID)) = decide (record.tenantID = tenant.id) := by
    rw [Bool.eq_iff_iff, List.any_eq_true]
    simp only [decide_eq_true_eq]
    constructor
    · rintro ⟨row, member, id, name⟩
      exact id.symm.trans ((registered.named keys member).mp (name.trans named))
    · intro same
      obtain ⟨row, member, id, name⟩ := registered
      exact ⟨row, member, id.trans same.symm, name.trans named.symm⟩
  unfold findReplayRecord
  congr 1
  funext record
  rw [owner record]
  simp

namespace Beside

variable (beside : Beside tenant db twin)
include beside

theorem findReplayRecord (named : submission.tenantExternalID = tenant.externalID) :
    External.findReplayRecord submission twin = External.findReplayRecord submission db := by
  rw [findReplayRecord_eq beside.keys beside.registered named, findReplayRecord_eq beside.keysTwin beside.registeredTwin named,
    beside.now]
  apply find?_owned beside.rows.idempotency beside.keysTwin.records
  intro record holds
  obtain ⟨owner, scope, digest, -⟩ := of_decide_eq_true holds
  exact ⟨owner, congrArg₂ Prod.mk owner (congrArg₂ Prod.mk scope digest)⟩

theorem replayRecord (named : submission.tenantExternalID = tenant.externalID) (record : IdempotencyRow) :
    External.replayRecord submission record twin = External.replayRecord submission record db := by
  unfold External.replayRecord
  rw [named, beside.getExternalJob]

theorem findSubmitReplay (named : submission.tenantExternalID = tenant.externalID) :
    External.findSubmitReplay submission twin = External.findSubmitReplay submission db := by
  unfold External.findSubmitReplay
  rw [beside.findReplayRecord named]
  cases External.findReplayRecord submission db with
  | none => rfl
  | some record => simp only [beside.replayRecord named]

end Beside

end Reads

end JudgingServer.Proofs
