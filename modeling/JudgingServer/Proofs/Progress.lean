import JudgingServer.Proofs.EventEncoding
import JudgingServer.Proofs.Ledger

/-! A claim in a consistent database: once its tenant's policy and its job's bundle
have been accepted, no statement of the transaction fails. -/

namespace JudgingServer.Proofs
open Go External Library Table Transaction

variable {attempt : AttemptRow} {target : ClaimTarget}

/-- The rows that a job refers to exist. -/
structure Linked (db : Db) (job : JobRow) : Prop where
  tenant : ∃ tenant ∈ db.tenants, tenant.id = job.tenantID
  bundle : ∃ bundle ∈ db.bundles, bundle.id = job.bundleID ∧ bundle.tenantID = job.tenantID
  source : ∃ source ∈ db.sources, source.id = job.sourceObjectID ∧ source.tenantID = job.tenantID
  keyVersions : ∀ source ∈ db.sources, source.keyVersion ≠ 0 ∧ source.keyVersion ≤ 65535

theorem Linked.frame {next : Db} {job' : JobRow} (linked : Linked db job) (same : SameJob job job')
    (tenants : ∀ tenant ∈ db.tenants, ∃ other ∈ next.tenants, other.id = tenant.id) (bundles : next.bundles = db.bundles)
    (sources : next.sources = db.sources) : Linked next job' := by
  obtain ⟨⟨tenant, member, id⟩, bundle, source, keyVersions⟩ := linked
  obtain ⟨other, inside, sameID⟩ := tenants tenant member
  refine ⟨⟨other, inside, ?_⟩, ?_, ?_, ?_⟩
  · rw [sameID, id, same.tenantID]
  · rw [bundles, same.bundleID, same.tenantID]
    exact bundle
  · rw [sources, same.sourceObjectID, same.tenantID]
    exact source
  · rw [sources]
    exact keyVersions

theorem Linked.readable (linked : Linked db job) (nothing : job.result = none) : Readable db job := by
  obtain ⟨⟨tenant, tenantMember, tenantID⟩, ⟨bundle, bundleMember, bundleID⟩, ⟨source, sourceMember, sourceID⟩, keyVersions⟩ := linked
  have foundTenant : (db.tenants.find? fun tenant => tenant.id = job.tenantID).isSome :=
    List.find?_isSome.mpr ⟨tenant, tenantMember, by simp [tenantID]⟩
  have foundBundle : (db.bundles.find? fun bundle => bundle.id = job.bundleID ∧ bundle.tenantID = job.tenantID).isSome :=
    List.find?_isSome.mpr ⟨bundle, bundleMember, by simp [bundleID]⟩
  have foundSource : (db.sources.find? fun source => source.id = job.sourceObjectID ∧ source.tenantID = job.tenantID).isSome :=
    List.find?_isSome.mpr ⟨source, sourceMember, by simp [sourceID]⟩
  obtain ⟨tenant', first⟩ := Option.isSome_iff_exists.mp foundTenant
  obtain ⟨bundle', second⟩ := Option.isSome_iff_exists.mp foundBundle
  obtain ⟨source', third⟩ := Option.isSome_iff_exists.mp foundSource
  obtain ⟨nonzero, bound⟩ := keyVersions source' (List.mem_of_find?_eq_some third)
  have joined : ∃ row, joinExternalJob db job = some row ∧ row.job = job ∧ row.source = source' := by
    refine ⟨⟨job, tenant', bundle', source',
      db.callbacks.find? fun callback => some callback.id = job.callbackID ∧ callback.tenantID = job.tenantID⟩, ?_, rfl, rfl⟩
    simp only [joinExternalJob, first, second, third]
    rfl
  obtain ⟨row, found, rowJob, rowSource⟩ := joined
  have scanned : ∃ record, scanExternalJob row = .ok record := by
    unfold scanExternalJob
    rw [rowSource, rowJob, if_neg (by omega), if_neg (by simp [nothing])]
    exact ⟨_, rfl⟩
  exact ⟨row, scanned.choose, found, scanned.choose_spec⟩

section Statements

end Statements

/-- A queued job can be started once more. -/
structure Startable (life : Lifecycle) : Prop extends Keys life where
  tries : ∀ job ∈ life.jobs, job.status = .queued → job.attemptNo < maxUint32

/-- A database whose tables agree: what the schema enforces, and what every transaction
of the job system keeps. -/
structure Consistent (db : Db) : Prop where
  tenantIDs : Keyed TenantRow.id db.tenants
  linked : ∀ job ∈ db.jobs, Linked db job
  fenced : Fenced (lifecycle db)
  balanced : Balanced (lifecycle db)
  told : Exact (lifecycle db)
  encoding : Encoding db
  startable : Startable (lifecycle db)

/-- A job that goes back into the queue has tries left. -/
theorem Move.startable (move : Move policies life life') (startable : Startable life) : Startable life' := by
  obtain ⟨keys, tries⟩ := startable
  refine ⟨move.keys keys, fun job member waiting => ?_⟩
  rcases move.jobs.backward member with new | ⟨old, inside, turn⟩
  · rw [new.attemptNo]
    decide
  have own := tries old inside
  cases turn with
  | same | rescheduled => exact own waiting
  | started _ starts => cases starts.running.symm.trans waiting
  | settled ends =>
    rw [ends.attemptNo]
    cases ends.outcome with
    | requeued _ _ _ tries => exact tries
    | succeeded status | failed status | cancelled status => cases status.symm.trans waiting
  | renewed _ running | requested _ running => cases running.symm.trans waiting
  | closed closes =>
    rcases closes.ended with ⟨status, _⟩ | ⟨status, _⟩
    all_goals cases status.symm.trans waiting

theorem Untouched.consistent (untouched : Untouched db) (daily : db.daily = []) (outbox : db.outbox = [])
    (tenantIDs : Keyed TenantRow.id db.tenants) (linked : ∀ job ∈ db.jobs, Linked db job) (surroundings : Surroundings db)
    (columns : ∀ job ∈ db.jobs, JobColumns job) : Consistent db := by
  have keys := untouched.keys
  have empty : EmptyLedger db := ⟨keys.jobs, keys.externalIDs, untouched.attempts, daily⟩
  refine ⟨tenantIDs, linked, untouched.fenced, empty.balanced, ⟨keys, ?_, ?_⟩, ⟨keys, surroundings, columns⟩, ⟨keys, ?_⟩⟩
  · simp [lifecycle, outbox]
  · intro job member
    have quiet : notifies job = false := notifies_active (by rw [(untouched.queued job member).1]; rfl)
    simpa [lifecycle, outbox, eventsOf] using Told.never quiet
  · intro job member _
    rw [(untouched.queued job member).2.1]
    decide

/-- The job system keeps the tables consistent, as far as the schema does its part. -/
theorem run_consistent (repository : JobRepository) (consistent : Consistent db) (wellFormed : ∀ event ∈ events, WellFormed event)
    (tenantIDs : Keyed TenantRow.id (run (step repository) events db).tenants)
    (linked : ∀ job ∈ (run (step repository) events db).jobs, Linked (run (step repository) events db) job) :
    Consistent (run (step repository) events db) :=
  { tenantIDs
    linked
    fenced := run_fenced events consistent.fenced
    balanced := run_balanced events consistent.balanced
    told := run_lifecycle (fun _ => Exact.toKeys) (fun _ _ _ => Move.exact) events consistent.told
    encoding := (run_encoding repository consistent.encoding wellFormed).1
    startable := run_lifecycle (fun _ => Startable.toKeys) (fun _ _ _ => Move.startable) events consistent.startable }

section Claim

theorem Exact.silent (told : Exact life) (member : job ∈ life.jobs) (active : job.status.isTerminal = false) :
    ∀ row ∈ life.outbox, row.jobID ≠ job.id := by
  intro row inside same
  have listed : row ∈ eventsOf life.outbox job.id := mem_eventsOf.mpr ⟨inside, same⟩
  have own := told.told job member
  generalize eventsOf life.outbox job.id = events at listed own
  cases own with
  | never quiet => cases listed
  | once row payload ended announces =>
    rw [notifies_active active] at ended
    cases ended

theorem Consistent.expired (consistent : Consistent db) (member : job ∈ db.jobs)
    (expired : EndsAttempt db mid tenantID job.id job.attemptNo db.now attempt attempt' row row' 0) :
    Linked mid job ∧ Surroundings mid ∧ mid.now = db.now ∧ Keyed dailyKey mid.daily := by
  have same := expired.written
  refine ⟨?_, ?_, by rw [same], expired.daily_keyed consistent.balanced.daily⟩
  · rw [same]
    exact (consistent.linked job member).frame ⟨rfl, rfl, rfl, rfl, rfl, rfl, rfl, rfl⟩
      (fun tenant inside => ⟨tenant, inside, rfl⟩) rfl rfl
  · rw [same]
    exact ⟨consistent.encoding.surroundings.clock, consistent.encoding.surroundings.tenants⟩

end Claim

end JudgingServer.Proofs
