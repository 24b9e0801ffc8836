import JudgingServer.External.Migrations
import JudgingServer.Proofs.Blockers
import JudgingServer.Proofs.Frames
import JudgingServer.Proofs.Outbox

/-! Does the event encoder accept every job that a transaction ends? The columns it
looks at are followed from an upgraded database through every run. -/

namespace JudgingServer.Proofs
open Go External Library Table Transaction

/-! ### Columns along moves -/

section Moves

theorem Named.same (named : Named job) (same : SameJob job job') : Named job' := by
  refine ⟨by rw [same.externalID]; exact named.externalID, ?_⟩
  rw [same.clientReference]
  exact named.reference

theorem Ends.columns (ends : Ends job job') (columns : JobColumns job) : JobColumns job' := by
  have nothing : job.result = none := columns.unfinished (by rw [ends.running]; rfl)
  refine ⟨columns.named.same ends.same, fun active => ?_, fun running => ?_⟩
  · cases ends.outcome with
    | requeued status result => rw [result, nothing]
    | succeeded status | failed status | cancelled status =>
      rw [status] at active
      cases active
  · cases ends.outcome with
    | requeued status | succeeded status | failed status | cancelled status =>
      rw [status] at running
      cases running

theorem Closes.columns (closes : Closes job job') (columns : JobColumns job) : JobColumns job' := by
  refine ⟨columns.named.same closes.same, fun active => ?_, fun running => ?_⟩
  all_goals rcases closes.ended with ⟨status, _⟩ | ⟨status, _⟩
  · rw [status] at active
    cases active
  · rw [status] at active
    cases active
  · rw [status] at running
    cases running
  · rw [status] at running
    cases running

theorem Move.columns (move : Move policies life life') (columns : ∀ job ∈ life.jobs, JobColumns job) :
    ∀ job ∈ life'.jobs, JobColumns job := by
  intro job member
  rcases move.jobs.backward member with new | ⟨old, inside, turn⟩
  · exact ⟨new.named, fun _ => new.result, fun _ => new.failureCode⟩
  have own := columns old inside
  cases turn with
  | same => exact own
  | rescheduled | renewed | requested => exact ⟨⟨own.named.externalID, own.named.reference⟩, own.unfinished, own.running⟩
  | started _ starts =>
    refine ⟨own.named.same starts.same, fun _ => ?_, fun _ => starts.failureCode⟩
    rw [starts.result]
    exact own.unfinished (by rw [starts.queued]; rfl)
  | settled ends => exact ends.columns own
  | closed closes => exact closes.columns own

/-- No queued job that has a callback carries a failure code. -/
def Clear (jobs : List JobRow) : Prop :=
  ∀ job ∈ jobs, job.status = .queued → job.callbackID.isSome → job.failureCode.getD [] = []

/-- Only the migrations leave a failure code on a queued job. -/
theorem Move.clear (move : Move policies life life') (columns : ∀ job ∈ life.jobs, JobColumns job) (clear : Clear life.jobs) :
    Clear life'.jobs := by
  intro job member waiting subscribed
  rcases move.jobs.backward member with new | ⟨old, inside, turn⟩
  · rw [new.failureCode]
    rfl
  have own := clear old inside
  cases turn with
  | same | rescheduled => exact own waiting subscribed
  | started _ starts =>
    rw [starts.failureCode]
    rfl
  | settled ends =>
    have free : old.failureCode = none := (columns old inside).running ends.running
    cases ends.outcome with
    | requeued status result failureCode =>
      rw [free, or_self] at failureCode
      rw [failureCode]
      rfl
    | succeeded status | failed status | cancelled status =>
      rw [status] at waiting
      cases waiting
  | renewed _ running | requested _ running => cases running.symm.trans waiting
  | closed closes =>
    rcases closes.ended with ⟨status, _⟩ | ⟨status, _⟩
    all_goals
      rw [status] at waiting
      cases waiting

end Moves

/-! ### Columns along runs -/

/-- Provisioning gives tenants well-formed identifiers. -/
def WellFormed : Event → Prop
  | .provision tenants _ _ => ∀ tenant ∈ tenants, matchesExternalID tenant.externalID = true
  | _ => True

/-- The clock has started and the tenants have well-formed identifiers. -/
structure Surroundings (db : Db) : Prop where
  clock : 0 < db.now
  tenants : ∀ tenant ∈ db.tenants, matchesExternalID tenant.externalID = true

theorem Surroundings.workerFrame : WorkerFrame Surroundings := by
  refine ⟨?_, ?_, ?_, ?_, ?_⟩
  all_goals intro db _
  · exact fun _ kept => ⟨kept.clock, kept.tenants⟩
  · exact fun kept => ⟨kept.clock, kept.tenants⟩
  · exact fun kept => ⟨kept.clock, kept.tenants⟩
  · exact fun kept => ⟨kept.clock, kept.tenants⟩
  · intro now kept
    refine ⟨kept.clock, fun tenant member => ?_⟩
    rcases mem_update.mp member with ⟨old, inside, _, rfl⟩ | ⟨inside, _⟩
    · exact kept.tenants old inside
    · exact kept.tenants tenant inside

private theorem Surroundings.submitFrame : SubmitFrame Surroundings :=
  ⟨fun _ _ kept => ⟨kept.clock, kept.tenants⟩, fun _ _ kept => ⟨kept.clock, kept.tenants⟩,
    fun _ _ kept => ⟨kept.clock, kept.tenants⟩, fun _ _ kept => ⟨kept.clock, kept.tenants⟩⟩

private theorem step_surroundings (kept : Surroundings db) (wellFormed : WellFormed event) : Surroundings
    (step repository event db) := by
  refine step_keeps Surroundings.workerFrame (fun elapsed => ?_) (fun _ => ⟨kept.clock, kept.tenants⟩) ?_ ?_ kept
  · exact ⟨Nat.lt_of_lt_of_le kept.clock (Nat.le_add_right _ _), kept.tenants⟩
  · rintro tenants bundles callbacks rfl
    exact ⟨kept.clock, wellFormed⟩
  · intro _ _ _ _ _ _ submission
    exact submitTransaction_keeps Surroundings.submitFrame

/-- What the encoder relies on, together with the unique keys. -/
structure Encoding (db : Db) : Prop where
  keys : Keys (lifecycle db)
  surroundings : Surroundings db
  jobs : ∀ job ∈ db.jobs, JobColumns job

theorem Encoding.columns (encoding : Encoding db) : Columns db :=
  ⟨encoding.surroundings.clock, encoding.surroundings.tenants, encoding.jobs⟩

private theorem step_encoding (encoding : Encoding db) (wellFormed : WellFormed event) : Encoding (step repository event db) := by
  have moves := step_moves repository event encoding.keys
  have kept : ∀ life life', Move (ActivePolicy db) life life' → (∀ job ∈ life.jobs, JobColumns job) →
      ∀ job ∈ life'.jobs, JobColumns job := fun _ _ => Move.columns
  exact ⟨moves.keys encoding.keys, step_surroundings encoding.surroundings wellFormed, moves.invariant kept encoding.jobs⟩

private theorem step_clear (encoding : Encoding db) (clear : Clear db.jobs) : Clear (step repository event db).jobs := by
  have moves := step_moves repository event encoding.keys
  have kept : ∀ life life', Move (ActivePolicy db) life life' → (∀ job ∈ life.jobs, JobColumns job) ∧ Clear life.jobs →
      (∀ job ∈ life'.jobs, JobColumns job) ∧ Clear life'.jobs :=
    fun _ _ move before => ⟨move.columns before.1, move.clear before.1 before.2⟩
  exact (moves.invariant kept ⟨encoding.jobs, clear⟩).2

theorem run_encoding (repository : JobRepository) (encoding : Encoding db) (wellFormed : ∀ event ∈ events, WellFormed event) :
    Encoding (run (step repository) events db) ∧ (Clear db.jobs → Clear (run (step repository) events db).jobs) := by
  induction events generalizing db with
  | nil => exact ⟨encoding, id⟩
  | cons event rest ih =>
    obtain ⟨reached, kept⟩ := ih (step_encoding encoding (wellFormed event (by simp)))
      fun later member => wellFormed later (by simp [member])
    exact ⟨reached, fun clear => kept (step_clear encoding clear)⟩

/-! ### A queued job that cannot be cancelled -/

section Cancel

private theorem getExternalJob_joined (keyed : Keyed JobRow.externalID db.jobs) (member : job ∈ db.jobs)
    (joined : joinExternalJob db job = some row) :
    getExternalJob row.tenant.externalID job.externalID db = scanExternalJob row := by
  obtain ⟨rfl, _, _⟩ := joinExternalJob_some joined
  refine getExternalJobWhere_joined member joined (by simp) fun other inside selected => ?_
  simp only [decide_eq_true_eq] at selected
  exact keyed.eq inside member selected.2

/-- Cancelling a job changes neither the rows it is joined with nor whether it can be scanned. -/
theorem cancelQueued_readable (jobs : List JobRow) (now : Time) (joined : joinExternalJob db job = some row)
    (scanned : scanExternalJob row = .ok record) :
    joinExternalJob { db with jobs } (cancelQueued now job) = some { row with job := cancelQueued now job } ∧
    ∃ record', scanExternalJob { row with job := cancelQueued now job } = .ok record' := by
  constructor
  · unfold joinExternalJob at joined ⊢
    simp only [Option.bind_eq_bind, Option.bind_eq_some_iff, Option.pure_def, Option.some.injEq] at joined ⊢
    obtain ⟨tenant, first, bundle, second, source, third, rfl⟩ := joined
    exact ⟨tenant, first, bundle, second, source, third, rfl⟩
  · obtain ⟨same, _, _⟩ := joinExternalJob_some joined
    unfold scanExternalJob at scanned ⊢
    split at scanned
    next => cases scanned
    next version =>
      split at scanned
      next => cases scanned
      next valid =>
        rw [same] at valid
        exact ⟨_, by rw [if_neg version, if_neg (by simpa [cancelQueued, JobRow.releaseLease] using valid)]⟩

private theorem encodeTerminalWebhookEvent_rejects (event : TerminalWebhookEvent) (invalid : ¬ Final event.job) :
    ∃ error, encodeTerminalWebhookEvent event = .error error := by
  unfold encodeTerminalWebhookEvent
  split
  next => exact ⟨_, rfl⟩
  next =>
    cases encoded : terminalPayload event with
    | error error => exact ⟨error, rfl⟩
    | ok payload => exact (invalid ((terminalPayload_some_iff event).mp ⟨payload, encoded⟩)).elim

theorem generateExternalID_zero : generateExternalID [List.replicate 16 0] = .ok (encodeBase32Lower (List.replicate 16 0), []) := by
  decide +kernel

/-- Cancelling a queued job that carries a failure code runs into the encoder. -/
theorem cancel_rejected (repository : JobRepository) (keys : Keys (lifecycle db)) (columns : Columns db) (member : job ∈ db.jobs)
    (waiting : job.status = .queued) (subscribed : job.callbackID.isSome) (joined : joinExternalJob db job = some row)
    (scanned : scanExternalJob row = .ok record) (carried : job.failureCode.getD [] ≠ []) :
    ∃ cause, cancel repository [List.replicate 16 0] row.tenant.externalID job.externalID db =
      .error (.unavailable Blocker.eventEncoder.operation cause) := by
  obtain ⟨callbackID, callback⟩ := Option.isSome_iff_exists.mp subscribed
  obtain ⟨sameJob, tenantMember, _⟩ := joinExternalJob_some joined
  have found : getExternalJob row.tenant.externalID job.externalID db = .ok record :=
    (getExternalJob_joined keys.externalIDs member joined).trans scanned
  obtain ⟨_, internalID, _, _, _, status, _⟩ := scanExternalJob_ok scanned
  rw [sameJob] at internalID status
  have tenant : ∃ owner, (db.tenants.find? fun tenant => tenant.externalID = row.tenant.externalID) = some owner := by
    rw [← Option.isSome_iff_exists, List.find?_isSome]
    exact ⟨row.tenant, tenantMember, by simp⟩
  obtain ⟨owner, tenantFound⟩ := tenant
  let next : Db := { db with
    jobs := update (fun other => other.id = record.internalID ∧ other.status = .queued) (cancelQueued db.now) db.jobs }
  have jobs : Replaced job (cancelQueued db.now job) db.jobs next.jobs := by
    refine update_replaced keys.jobs member (by simp [internalID, waiting]) fun other _ picked => ?_
    simp only [decide_eq_true_eq] at picked
    exact picked.1.trans internalID
  have written := keys.replace_job jobs rfl rfl
  obtain ⟨rejoined, record', rescanned⟩ := cancelQueued_readable next.jobs db.now joined scanned
  have reread : getExternalJob row.tenant.externalID job.externalID next = .ok record' :=
    (getExternalJob_joined written.externalIDs jobs.mem_right rejoined).trans rescanned
  obtain ⟨_, internalID', _, _, _, status', _, _, _, failureCode'⟩ := scanExternalJob_ok rescanned
  have invalid : ¬ Final record' := by
    rintro (⟨ended⟩ | ⟨ended⟩ | ⟨-, -, free⟩)
    · cases ended.symm.trans status'
    · cases ended.symm.trans status'
    · exact carried (failureCode'.symm.trans free)
  obtain ⟨cause, rejected⟩ :=
    encodeTerminalWebhookEvent_rejects ⟨encodeBase32Lower (List.replicate 16 0), db.now, record'⟩ invalid
  have owned : (next.jobs.find? fun other => other.id = record'.internalID) = some (cancelQueued db.now job) :=
    written.jobs.find? jobs.mem_right (by simp [internalID']) fun _ id => (of_decide_eq_true id).trans internalID'
  refine ⟨cause, ?_⟩
  refine Eq.trans (ensure_bind ?_ _) ?_
  · simp [columns.tenants row.tenant tenantMember, (columns.jobs job member).named.externalID]
  refine Eq.trans (require_bind (by exact tenantFound) _) ?_
  refine Eq.trans (bind_run (wrap_run (attempt_run (by exact found))) _) ?_
  rw [query_bind, status.trans waiting]
  refine Eq.trans (bind_run rfl _) ?_
  refine Eq.trans (bind_run (wrap_run (attempt_run (by exact reread))) _) ?_
  refine bind_error (Eq.trans (require_bind (by exact owned) _) ?_) _
  simp only [cancelQueued, JobRow.releaseLease, callback, maximumEventIDAttempts, persistTerminalEvent, generateExternalID_zero, rejected]
  rfl

end Cancel

/-- Every queued job with a callback that a caller can read is free of a failure code. -/
def Cancellable (db : Db) : Prop :=
  ∀ job ∈ db.jobs, job.status = .queued → job.callbackID.isSome → Readable db job → job.failureCode.getD [] = []

private theorem Encoding.neverBlocked_iff (encoding : Encoding db) (repository : JobRepository) :
    NeverBlocked .eventEncoder repository db ↔ Cancellable db := by
  constructor
  · intro free job member waiting subscribed readable
    obtain ⟨row, record, joined, scanned⟩ := readable
    by_contra carried
    obtain ⟨cause, failed⟩ :=
      cancel_rejected repository encoding.keys encoding.columns member waiting subscribed joined scanned carried
    exact free.cancel _ _ _ _ failed ⟨cause, rfl⟩
  · intro clear
    refine ⟨fun _ _ _ => ?_, fun _ _ _ => ?_, fun _ _ _ => ?_, fun _ _ _ => ?_⟩
    · exact claimTransaction_avoids encoding.keys (by simp) fun _ => encoding.columns
    · exact complete_avoids encoding.keys (by simp) fun _ => encoding.columns
    · exact failInfrastructure_avoids encoding.keys (by simp) fun _ => encoding.columns
    · exact cancel_avoids encoding.keys (fun _ => encoding.columns) fun _ => clear

/-! ### Upgraded databases -/

/-- What every version of the server keeps of the rows the encoder looks at. -/
structure Draft (db : Db) : Prop where
  keys : Keys (lifecycle db)
  surroundings : Surroundings db
  named : ∀ job ∈ db.jobs, Named job
  unfinished : ∀ job ∈ db.jobs, job.status.isTerminal = false → job.result = none

/-- A database before an upgrade, with the first `seen` migrations applied. That a
running job has no failure code is a rule of the present version only. -/
structure Legacy (seen : Nat) (db : Db) : Prop extends Draft db where
  current : migrations.length ≤ seen → ∀ job ∈ db.jobs, job.status = .running → job.failureCode = none

/-- A migration rewrites jobs without touching their names and results, and ends none
that it leaves unfinished. -/
structure Rewrites (p : JobRow → Bool) (f : JobRow → JobRow) : Prop where
  id : ∀ job, (f job).id = job.id
  externalID : ∀ job, (f job).externalID = job.externalID
  reference : ∀ job, (f job).clientReference = job.clientReference
  result : ∀ job, (f job).result = job.result
  unfinished : ∀ job, p job = true → (f job).status.isTerminal = false → job.status.isTerminal = false

section

variable (draft : Draft db)
include draft

private theorem Draft.rewrite (rewrites : Rewrites p f) (keyed : Keyed attemptKey attempts) :
    Draft { db with jobs := update p f db.jobs, attempts } := by
  obtain ⟨⟨ids, externalIDs, _, daily⟩, surroundings, named, unfinished⟩ := draft
  refine ⟨⟨ids.update fun job _ => rewrites.id job, externalIDs.update fun job _ => rewrites.externalID job, keyed, daily⟩,
    ⟨surroundings.clock, surroundings.tenants⟩, fun job member => ?_, fun job member active => ?_⟩
  all_goals rcases mem_update.mp member with ⟨old, inside, selected, rfl⟩ | ⟨inside, _⟩
  · refine ⟨by rw [rewrites.externalID]; exact (named old inside).externalID, ?_⟩
    rw [rewrites.reference]
    exact (named old inside).reference
  · exact named job inside
  · rw [rewrites.result]
    exact unfinished old inside (rewrites.unfinished old selected active)
  · exact unfinished job inside active

private theorem durableJobFencing_draft : Draft (durableJobFencing db) := by
  have expired := draft.keys.attempts.update (p := fun attempt => attempt.status = .running)
    (f := fun attempt => { attempt with
      status := .expired, finishedAt := some (attempt.finishedAt.getD db.now), failureCode := some (lit "MIGRATION_RECLAIM") })
    fun _ _ => rfl
  have reclaimed := draft.rewrite (p := fun job => job.status = .running)
    (f := fun job => { job.releaseLease with
      status := .queued, nextAttemptAt := db.now, failureCode := some (lit "MIGRATION_RECLAIM") })
    ⟨fun _ => rfl, fun _ => rfl, fun _ => rfl, fun _ => rfl, fun job running _ => by simp_all [JobStatus.isTerminal]⟩ expired
  exact reclaimed.rewrite ⟨fun _ => rfl, fun _ => rfl, fun _ => rfl, fun _ => rfl, fun _ _ => id⟩
    (expired.update fun _ _ => rfl)

private theorem tenantPolicyExecutionCeilings_draft : Draft (tenantPolicyExecutionCeilings db) := by
  refine ⟨draft.keys, ⟨draft.surroundings.clock, fun tenant member => ?_⟩, draft.named, draft.unfinished⟩
  obtain ⟨old, inside, rfl⟩ := List.mem_map.mp member
  exact draft.surroundings.tenants old inside

private theorem durableWebhookOutbox_draft : Draft (durableWebhookOutbox db) :=
  ⟨draft.keys, ⟨draft.surroundings.clock, draft.surroundings.tenants⟩, draft.named, draft.unfinished⟩

private theorem executionAccountingRetention_draft : Draft (executionAccountingRetention db) :=
  draft.rewrite ⟨fun _ => rfl, fun _ => rfl, fun _ => rfl, fun _ => rfl, fun job running _ => by simp_all [JobStatus.isTerminal]⟩
    (draft.keys.attempts.update fun _ _ => rfl)

end

private theorem migration_draft (listed : migration ∈ migrations) (draft : Draft db) : Draft (migration db) := by
  simp only [migrations, List.mem_cons, List.not_mem_nil, or_false] at listed
  rcases listed with rfl | rfl | rfl | rfl
  · exact durableJobFencing_draft draft
  · exact tenantPolicyExecutionCeilings_draft draft
  · exact durableWebhookOutbox_draft draft
  · exact executionAccountingRetention_draft draft

private theorem executionAccountingRetention_stops (member : job ∈ (executionAccountingRetention db).jobs) :
    job.status ≠ .running := by
  rcases mem_update.mp member with ⟨old, _, _, rfl⟩ | ⟨_, other⟩
  · simp
  · simpa using other

private theorem upgrade_draft (seen : Nat) (draft : Draft db) : Draft (upgrade seen db) := by
  have each : ∀ pending : List (Db → Db), (∀ migration ∈ pending, migration ∈ migrations) → ∀ {db : Db}, Draft db →
      Draft (pending.foldl (fun db migration => migration db) db) := by
    intro pending listed
    induction pending with
    | nil => exact id
    | cons migration rest ih =>
      intro db draft
      exact ih (fun other inside => listed other (by simp [inside])) (migration_draft (listed migration (by simp)) draft)
  exact each _ (fun migration => List.mem_of_mem_drop) draft

private theorem upgrade_encoding (legacy : Legacy seen db) : Encoding (upgrade seen db) := by
  obtain ⟨keys, surroundings, named, unfinished⟩ := upgrade_draft seen legacy.toDraft
  refine ⟨keys, surroundings, fun job member => ⟨named job member, unfinished job member, fun running => ?_⟩⟩
  match seen, legacy with
  | 0, _ | 1, _ | 2, _ | 3, _ => exact (executionAccountingRetention_stops member running).elim
  | seen + 4, legacy =>
    have same : upgrade (seen + 4) db = db := by simp [upgrade, migrations]
    rw [same] at member
    exact legacy.current (by simp [migrations]) job member running

/-- Does the event encoder ever roll a transaction back? From an upgraded database, in
every reachable state: no transaction is blocked by the encoder exactly when no queued
job that has a callback and can be read carries a failure code. The migrations are the
only source of such codes: without them in the upgraded queue there are none later. -/
theorem event_encoding (repository : JobRepository) (events : List Event) {seen : Nat} {db : Db} (legacy : Legacy seen db)
    (wellFormed : ∀ event ∈ events, WellFormed event) :
    (NeverBlocked .eventEncoder repository (run (step repository) events (upgrade seen db)) ↔
      Cancellable (run (step repository) events (upgrade seen db))) ∧
    (Clear (upgrade seen db).jobs → Cancellable (run (step repository) events (upgrade seen db))) := by
  obtain ⟨reached, kept⟩ := run_encoding repository (upgrade_encoding legacy) wellFormed
  exact ⟨reached.neverBlocked_iff repository, fun clear job member waiting subscribed _ => kept clear job member waiting subscribed⟩

def sampleLegacy : Db :=
  let job : JobRow := { sampleJob with
    callbackID := some 1, status := .running, attemptNo := 1, workerID := some (lit "worker-1"), leaseUntil := some 50 }
  { sampleDb with callbacks := [sampleCallback], jobs := [job] }

private theorem sampleLegacy_legacy : Legacy 0 sampleLegacy :=
  { keys := ⟨by decide, by decide, by decide, by decide⟩
    surroundings := ⟨by decide, by decide⟩
    named := by
      intro job member
      obtain rfl := List.mem_singleton.mp member
      exact ⟨by decide, by decide⟩
    unfinished := by decide
    current := by simp [migrations] }

theorem event_encoding_sample :
    (NeverBlocked .eventEncoder sampleRepository (run (step sampleRepository) [sampleClaim] (upgrade 0 sampleLegacy)) ↔
      Cancellable (run (step sampleRepository) [sampleClaim] (upgrade 0 sampleLegacy))) ∧
    (run (step sampleRepository) [sampleClaim] (upgrade 0 sampleLegacy)).jobs.map JobRow.failureCode = [none] :=
  ⟨(event_encoding sampleRepository [sampleClaim] sampleLegacy_legacy (by simp [sampleClaim, WellFormed])).1, rfl⟩

/-- After the upgrade the job waits with the failure code of the migration, and until it
is claimed every attempt to cancel it is rolled back. -/
theorem event_encoding_blocks_cancel :
    Legacy 0 sampleLegacy ∧
    (upgrade 0 sampleLegacy).jobs.map (fun job => (job.status, job.failureCode)) = [(.queued, some (lit "MIGRATION_RECLAIM"))] ∧
    (perform sampleRepository (.cancel [List.replicate 16 5] sampleTenant.externalID sampleJob.externalID)
      (upgrade 0 sampleLegacy)).1 =
        some (.unavailable "encode terminal webhook event" (.detail "cancelled webhook state is invalid")) ∧
    step sampleRepository (.cancel [List.replicate 16 5] sampleTenant.externalID sampleJob.externalID) (upgrade 0 sampleLegacy) =
      upgrade 0 sampleLegacy := by
  have failed : (perform sampleRepository (.cancel [List.replicate 16 5] sampleTenant.externalID sampleJob.externalID)
      (upgrade 0 sampleLegacy)).1 =
        some (.unavailable "encode terminal webhook event" (.detail "cancelled webhook state is invalid")) := by
    decide +kernel
  exact ⟨sampleLegacy_legacy, rfl, failed, perform_failed failed⟩

/-- The job of the claim does not run, or runs under a later number. -/
def Superseded (claim : WorkerJobClaim) (life : Lifecycle) : Prop :=
  Keys life ∧ ∃ job ∈ life.jobs, job.id = claim.job.internalID ∧ claim.attemptNo ≤ job.attemptNo ∧
    (job.status = .running → claim.attemptNo < job.attemptNo)

theorem Move.superseded (move : Move policies life life') (superseded : Superseded claim life) : Superseded claim life' := by
  obtain ⟨keys, job, member, id, number, later⟩ := superseded
  obtain ⟨job', member', turn⟩ := move.jobs.forward member
  refine ⟨move.keys keys, job', member', turn.sameJob.id.trans id, ?_⟩
  cases turn with
  | same | rescheduled | renewed | requested => exact ⟨number, later⟩
  | started _ starts =>
    rw [starts.attemptNo]
    exact ⟨by omega, fun _ => by omega⟩
  | settled ends =>
    rw [ends.attemptNo]
    exact ⟨number, fun _ => later ends.running⟩
  | closed closes =>
    rw [closes.attemptNo]
    refine ⟨number, fun running => ?_⟩
    rcases closes.ended with ⟨ended, -⟩ | ⟨ended, -⟩
    all_goals
      rw [ended] at running
      cases running

theorem Superseded.unheld (superseded : Superseded claim (lifecycle db)) (member : job ∈ db.jobs) :
    job.heldBy claim db.now = false := by
  by_contra held
  obtain ⟨id, running, number, -⟩ := heldBy_iff.mp (by simpa using held)
  obtain ⟨keys, other, inside, same, -, later⟩ := superseded
  obtain rfl := keys.jobs.eq inside member (same.trans id.symm)
  have later := later running
  omega

private theorem upgrade_attemptNo (seen : Nat) (db : Db) :
    (upgrade seen db).jobs.map (fun job => (job.id, job.attemptNo)) = db.jobs.map fun job => (job.id, job.attemptNo) := by
  match seen with
  | 0 =>
    refine ((map_update ?_) _).trans (((map_update ?_) _).trans ((map_update ?_) _))
    all_goals exact fun _ _ => rfl
  | 1 | 2 | 3 => exact (map_update fun _ _ => by rfl) _
  | seen + 4 => simp [upgrade, migrations]

/-- A worker that holds a claim from before an upgrade changes nothing any more, however its job
is claimed, settled or cancelled afterwards. -/
theorem upgrade_fences_workers (repository : JobRepository) (events : List Event) {seen : Nat} {db : Db} (legacy : Legacy seen db)
    (pending : seen < migrations.length) {claim : WorkerJobClaim}
    (granted : ∃ job ∈ db.jobs, job.id = claim.job.internalID ∧ claim.attemptNo ≤ job.attemptNo)
    (operation : WorkerOperation claim event) :
    step repository event (run (step repository) events (upgrade seen db)) = run (step repository) events (upgrade seen db) := by
  obtain ⟨old, inside, id, number⟩ := granted
  have kept : (old.id, old.attemptNo) ∈ (upgrade seen db).jobs.map fun job => (job.id, job.attemptNo) := by
    rw [upgrade_attemptNo]
    exact List.mem_map_of_mem inside
  obtain ⟨job, member, same⟩ := List.mem_map.mp kept
  obtain ⟨sameID, sameNo⟩ := Prod.mk.inj same
  have stopped : job.status ≠ .running := by
    match seen, pending, member with
    | 0, _, member | 1, _, member | 2, _, member | 3, _, member => exact executionAccountingRetention_stops member
  have start : Superseded claim (lifecycle (upgrade seen db)) :=
    ⟨(upgrade_draft seen legacy.toDraft).keys, job, member, sameID.trans id, sameNo ▸ number, fun running => absurd running stopped⟩
  have superseded : Superseded claim (lifecycle (run (step repository) events (upgrade seen db))) :=
    run_lifecycle (fun _ => And.left) (fun _ _ _ => Move.superseded) events start
  exact operation.unheld superseded.1 (fun _ => superseded.unheld) repository

def staleClaim : WorkerJobClaim :=
  ⟨⟨1, 1, [], [], [], ⟨1, [], [], [], 0, 0, []⟩, [], .running, [], false, [], 1, [], none, none, none, [], 0, none, none⟩,
    lit "worker-1", 1, [], 50⟩

/-- The job is claimed anew after the upgrade. -/
theorem upgrade_fences_workers_sample :
    step sampleRepository (.heartbeat staleClaim hour) (run (step sampleRepository) [sampleClaim] (upgrade 0 sampleLegacy)) =
      run (step sampleRepository) [sampleClaim] (upgrade 0 sampleLegacy) :=
  upgrade_fences_workers sampleRepository [sampleClaim] sampleLegacy_legacy (by decide)
    ⟨_, List.mem_singleton_self _, rfl, le_rfl⟩ (.heartbeat hour)

end JudgingServer.Proofs
