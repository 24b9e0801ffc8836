import JudgingServer.Proofs.Quotas

/-! How often a job is claimed. Every claim counts the job's attempts up by one, and a
job is put back into the queue, or restarted, only while its policy has tries left. -/

namespace JudgingServer.Proofs
open Go External Library Table Transaction

variable {jobs : List JobRow}

def HasTries (db : Db) (job : JobRow) : Prop :=
  ∃ policy, HasPolicy db job.tenantID policy ∧ (job.attemptNo : Int) < policy.maxInfrastructureTries

inductive RowTurn (db : Db) (job job' : JobRow) : Prop where
  | carried (tenantID : job'.tenantID = job.tenantID) (number : job'.attemptNo = job.attemptNo)
      (queued : job'.status = .queued → job.status = .queued ∨ HasTries db job)
  | started (tenantID : job'.tenantID = job.tenantID) (number : job'.attemptNo = job.attemptNo + 1)
      (running : job'.status = .running) (allowed : job.status = .queued ∨ HasTries db job)

theorem RowTurn.refl (db : Db) (job : JobRow) : RowTurn db job job := .carried rfl rfl .inl

/-- Every row of the table is new or comes from a row that was there. -/
def RowsTurn (db : Db) (jobs : List JobRow) : Prop :=
  ∀ job' ∈ jobs, job'.attemptNo = 0 ∨ ∃ job ∈ db.jobs, RowTurn db job job'

section Rows

theorem RowsTurn.same : RowsTurn db db.jobs := fun job member => .inr ⟨job, member, .refl db job⟩

theorem RowsTurn.replaced (jobs : Replaced job job' db.jobs jobs') (turn : RowTurn db job job') : RowsTurn db jobs' := by
  intro other member
  obtain rfl | inside := jobs.subset member
  · exact .inr ⟨job, jobs.mem_left, turn⟩
  · exact RowsTurn.same other inside

theorem RowsTurn.woken (rows : RowsTurn db jobs) :
    RowsTurn db (update p (fun job => { job with nextAttemptAt := now }) jobs) := by
  intro job' member
  obtain ⟨old, inside, -, rfl⟩ | ⟨inside, -⟩ := mem_update.mp member
  · obtain new | ⟨job, there, turn⟩ := rows old inside
    · exact .inl new
    · refine .inr ⟨job, there, ?_⟩
      cases turn with
      | carried tenantID number queued => exact .carried tenantID number queued
      | started tenantID number running allowed => exact .started tenantID number running allowed
  · exact rows job' inside

theorem Readied.replaced (readied : Readied db target mid) (member : target.job ∈ db.jobs)
    (jobs : Replaced target.job job' mid.jobs jobs') (turn : RowTurn db target.job job') : RowsTurn db jobs' := by
  have rows : RowsTurn db mid.jobs := by
    cases readied with
    | waiting queued => exact .same
    | recovered running expired =>
      rw [expired.written]
      exact RowsTurn.same.woken
  intro other inside
  obtain rfl | there := jobs.subset inside
  · exact .inr ⟨target.job, member, turn⟩
  · exact rows other there

private theorem TriesLeft.hasTries (allowed : TriesLeft target) (targets : Targets db now target) :
    target.job.status = .queued ∨ HasTries db target.job :=
  allowed.2.imp_right fun more => ⟨target.policy, targets.hasPolicy allowed.1, more⟩

theorem ClaimTurn.rows (turn : ClaimTurn session db db' target claim) : RowsTurn db db'.jobs := by
  obtain ⟨mid, readied, decided⟩ := turn.decided
  cases decided with
  | ended same terminal number jobs daily =>
    refine readied.replaced turn.targets.member jobs (.carried same.2.1 number fun queued => ?_)
    rw [queued] at terminal
    cases terminal
  | deferred allowed same queued number waits jobs daily member rowKey short =>
    exact readied.replaced turn.targets.member jobs (.carried same.2.1 number fun _ => allowed.hasTries turn.targets)
  | started allowed handed same running number jobs daily =>
    exact readied.replaced turn.targets.member jobs (.started same.2.1 number running (allowed.hasTries turn.targets))

theorem SettleTurn.rows (turn : SettleTurn db db' job job') : RowsTurn db db'.jobs := by
  obtain ⟨jobs', _, _, _, _, _, _, jobs, ended, -⟩ := turn.settled
  have written : RowsTurn db jobs' :=
    .replaced jobs (.carried turn.ends.same.tenantID turn.ends.attemptNo fun queued => .inr (turn.requeued queued))
  have woken : db'.jobs = update _ _ jobs' := congrArg Db.jobs ended.written
  rw [woken]
  exact written.woken

private theorem step_rows (event : Event) (keys : Keys (lifecycle db)) : RowsTurn db (step repository event db).jobs := by
  have turn := step_turn repository event keys
  generalize step repository event db = next at turn ⊢
  cases turn with
  | kept rows =>
    have same : next.jobs = db.jobs := congrArg Lifecycle.jobs rows
    rw [same]
    exact .same
  | submitted prepared submits =>
    rw [submits.written]
    intro job member
    obtain inside | new := List.mem_append.mp member
    · exact RowsTurn.same job inside
    · exact .inl (by rw [List.mem_singleton.mp new]; rfl)
  | claimed ran locked turn => exact turn.rows
  | renewed committed =>
    obtain ⟨job, attempt, -, -, -, -, jobs, -⟩ := heartbeat_ok keys committed
    exact .replaced jobs (.carried rfl rfl .inl)
  | settled turn => exact turn.rows
  | cancelled cancels =>
    cases cancels with
    | closed job member named queued jobs => exact .replaced jobs (.carried rfl rfl fun _ => .inl queued)
    | requested job member named running unset jobs => exact .replaced jobs (.carried rfl rfl .inl)
    | nothing job member named settled same =>
      rw [same]
      exact .same

end Rows

/-! ### Counting claims -/

private def attemptsMade (jobs : List JobRow) (jobID : Nat) : Int :=
  (jobs.map fun job => if job.id = jobID then (job.attemptNo : Int) else 0).sum

/-- The job that a step hands out to a worker. -/
def claimedJob (repository : JobRepository) (event : Event) (db : Db) : Option Nat :=
  match event with
  | .claim session workerID leaseDuration =>
    match claimTransaction repository session workerID leaseDuration db with
    | .ok (.claimed claim, _) => some claim.job.internalID
    | _ => none
  | _ => none

/-- How often the claims of a run hand out the job. -/
def timesClaimed (repository : JobRepository) (jobID : Nat) : List Event → Db → Nat
  | [], _ => 0
  | event :: rest, db =>
    (if claimedJob repository event db = some jobID then 1 else 0) + timesClaimed repository jobID rest (step repository event db)

private theorem attemptsMade_replaced (replaced : Replaced job job' jobs jobs') (id : job'.id = job.id) (jobID : Nat) :
    attemptsMade jobs' jobID = attemptsMade jobs jobID + if job.id = jobID then (job'.attemptNo : Int) - job.attemptNo else 0 := by
  unfold attemptsMade
  rw [replaced.sum, id]
  split <;> omega

private theorem attemptsMade_kept (replaced : Replaced job job' jobs jobs') (id : job'.id = job.id)
    (number : job'.attemptNo = job.attemptNo) (jobID : Nat) : attemptsMade jobs' jobID = attemptsMade jobs jobID := by
  rw [attemptsMade_replaced replaced id, number]
  simp

private theorem attemptsMade_woken (p : JobRow → Bool) (now : Time) (jobs : List JobRow) (jobID : Nat) :
    attemptsMade (update p (fun job => { job with nextAttemptAt := now }) jobs) jobID = attemptsMade jobs jobID := by
  unfold attemptsMade
  rw [map_update]
  exact fun _ _ => rfl

private theorem attemptsMade_absent (absent : ∀ job ∈ jobs, job.id ≠ jobID) : attemptsMade jobs jobID = 0 := by
  refine List.sum_eq_zero fun value member => ?_
  obtain ⟨job, inside, rfl⟩ := List.mem_map.mp member
  exact if_neg (absent job inside)

private theorem attemptsMade_eq (keyed : Keyed JobRow.id jobs) (member : job ∈ jobs) :
    attemptsMade jobs job.id = job.attemptNo := by
  induction jobs with
  | nil => cases member
  | cons first rest ih =>
    obtain ⟨apart, keyed⟩ := List.nodup_cons.mp keyed
    have split : attemptsMade (first :: rest) job.id =
        (if first.id = job.id then (first.attemptNo : Int) else 0) + attemptsMade rest job.id := by simp [attemptsMade]
    rw [split]
    rcases List.mem_cons.mp member with rfl | inside
    · have others : ∀ other ∈ rest, other.id ≠ job.id := fun other there same => apart (same ▸ List.mem_map_of_mem there)
      rw [if_pos rfl, attemptsMade_absent others, add_zero]
    · have different : first.id ≠ job.id := fun same => apart (same ▸ List.mem_map_of_mem inside)
      rw [if_neg different, zero_add]
      exact ih keyed inside

private theorem Move.attemptsMade (move : Move (fun _ _ => False) life life') (jobID : Nat) :
    Proofs.attemptsMade life'.jobs jobID = Proofs.attemptsMade life.jobs jobID := by
  have rows := move.jobs
  generalize life'.jobs = jobs' at rows ⊢
  cases rows with
  | added new => simp [Proofs.attemptsMade, new.attemptNo]
  | turned rows =>
    refine congrArg List.sum (map_forall₂ (fun job job' turn => ?_) rows)
    have number : job'.attemptNo = job.attemptNo := by
      cases turn with
      | same | rescheduled | renewed | requested => rfl
      | started active => exact active.elim
      | settled ends => exact ends.attemptNo
      | closed closes => exact closes.attemptNo
    rw [turn.sameJob.id, number]

private theorem Moves.attemptsMade (moves : Moves (fun _ _ => False) life life') (jobID : Nat) :
    Proofs.attemptsMade life'.jobs jobID = Proofs.attemptsMade life.jobs jobID := by
  induction moves with
  | refl => rfl
  | tail _ move ih => exact (move.attemptsMade jobID).trans ih

private theorem ClaimTurn.attemptsMade (turn : ClaimTurn session db db' target claim) (jobID : Nat) :
    Proofs.attemptsMade db'.jobs jobID = Proofs.attemptsMade db.jobs jobID +
      if claim.map (fun claim => claim.job.internalID) = some jobID then 1 else 0 := by
  obtain ⟨mid, readied, decided⟩ := turn.decided
  have kept : Proofs.attemptsMade mid.jobs jobID = Proofs.attemptsMade db.jobs jobID := by
    cases readied with
    | waiting queued => rfl
    | recovered running expired =>
      rw [expired.written]
      exact attemptsMade_woken _ _ _ jobID
  cases decided with
  | ended same terminal number jobs daily => simp [attemptsMade_kept jobs same.1 number jobID, kept]
  | deferred allowed same queued number waits jobs daily member rowKey short =>
    simp [attemptsMade_kept jobs same.1 number jobID, kept]
  | started allowed handed same running number jobs daily =>
    rw [attemptsMade_replaced jobs same.1 jobID, kept, number, Option.map_some, handed]
    simp

/-! ### Runs -/

section Runs

private theorem step_attemptsMade (event : Event) (keys : Keys (lifecycle db)) (jobID : Nat) :
    attemptsMade (step repository event db).jobs jobID =
      attemptsMade db.jobs jobID + if claimedJob repository event db = some jobID then 1 else 0 := by
  have turn := step_turn repository event keys
  obtain ⟨moves, unclaimed⟩ | ⟨session, workerID, lease, outcome, target, rfl, ran, turn⟩ := turn.quiet_or_claimed keys
  · have nothing : claimedJob repository event db = none := by
      unfold claimedJob
      split
      next session workerID lease =>
        obtain ⟨failure, ran⟩ := unclaimed session workerID lease rfl
        rw [ran]
      next => rfl
    rw [nothing, if_neg (by simp), add_zero]
    exact (moves fun _ _ => False).attemptsMade jobID
  · rw [turn.attemptsMade jobID]
    simp only [claimedJob, ran]
    cases outcome <;> rfl

private theorem run_attemptsMade (events : List Event) (keys : Keys (lifecycle db)) (jobID : Nat) :
    attemptsMade (run (step repository) events db).jobs jobID =
      attemptsMade db.jobs jobID + timesClaimed repository jobID events db := by
  induction events generalizing db with
  | nil => simp [timesClaimed]
  | cons event rest ih =>
    have moves := step_moves repository event keys
    rw [run_cons, ih (moves.keys keys), step_attemptsMade event keys jobID, timesClaimed]
    split <;> push_cast <;> omega

/-- A tenant's jobs have made no more attempts than its policy allows, and those in the
queue have one left. -/
structure TriesBounded (tenantID : Nat) (policy : TenantPolicy) (jobs : List JobRow) : Prop where
  attempts : ∀ job ∈ jobs, job.tenantID = tenantID → (job.attemptNo : Int) ≤ policy.maxInfrastructureTries
  queued : ∀ job ∈ jobs, job.tenantID = tenantID → job.status = .queued → (job.attemptNo : Int) < policy.maxInfrastructureTries

theorem TriesBounded.turn (bounded : TriesBounded tenantID policy db.jobs)
    (only : ∀ other, HasPolicy db tenantID other → other = policy) (positive : 0 < policy.maxInfrastructureTries)
    (rows : RowsTurn db jobs) : TriesBounded tenantID policy jobs := by
  have more : ∀ job ∈ db.jobs, job.tenantID = tenantID → job.status = .queued ∨ HasTries db job →
      (job.attemptNo : Int) < policy.maxInfrastructureTries := by
    rintro job member own (queued | ⟨other, has, below⟩)
    · exact bounded.queued job member own queued
    · rw [own] at has
      rwa [only other has] at below
  constructor
  · intro job' member own
    obtain new | ⟨job, inside, turn⟩ := rows job' member
    · omega
    · cases turn with
      | carried tenantID number queued =>
        rw [number]
        exact bounded.attempts job inside (tenantID.symm.trans own)
      | started tenantID number running allowed =>
        have below := more job inside (tenantID.symm.trans own) allowed
        omega
  · intro job' member own queued
    obtain new | ⟨job, inside, turn⟩ := rows job' member
    · omega
    · cases turn with
      | carried tenantID number carried =>
        rw [number]
        exact more job inside (tenantID.symm.trans own) (carried queued)
      | started tenantID number running allowed =>
        rw [queued] at running
        cases running

/-- What a step keeps while the tenant's policy stays. -/
structure BoundedJobs (tenantID : Nat) (policyJSON : Json) (policy : TenantPolicy) (db : Db) : Prop where
  bounded : TriesBounded tenantID policy db.jobs
  keys : Keys (lifecycle db)
  governed : Governed tenantID policyJSON db.tenants

private theorem step_boundedJobs (decoded : decodeTenantPolicy policyJSON = some policy)
    (sound : BoundedJobs tenantID policyJSON policy db) (keeps : KeepsPolicy tenantID policyJSON event) :
    BoundedJobs tenantID policyJSON policy (step repository event db) := by
  have moves := step_moves repository event sound.keys
  have positive := (validate_ok (decodeTenantPolicy_ok decoded)).2.2.1
  exact ⟨sound.bounded.turn (fun _ => sound.governed.policy decoded) positive (step_rows event sound.keys), moves.keys sound.keys,
    step_governed sound.governed keeps⟩

end Runs

/-- Every job of the tenant was claimed as often as it counts attempts and no more than
the policy allows; a job in the queue was claimed less often than that. -/
def ClaimsBounded (repository : JobRepository) (tenantID : Nat) (policy : TenantPolicy) (events : List Event) (db : Db) : Prop :=
  ∀ job ∈ (run (step repository) events db).jobs, job.tenantID = tenantID →
    timesClaimed repository job.id events db = job.attemptNo ∧
    (job.attemptNo : Int) ≤ policy.maxInfrastructureTries ∧
    (job.status = .queued → (job.attemptNo : Int) < policy.maxInfrastructureTries)

/-- From an untouched queue, and as long as a tenant keeps its valid policy, no job of
the tenant is claimed more often than the policy has tries, and every queued job has
made fewer attempts than that. -/
theorem attempts_bounded (repository : JobRepository) {events : List Event} {db : Db} {tenantID : Nat} {policyJSON : Json}
    {policy : TenantPolicy} (untouched : Untouched db) (decoded : decodeTenantPolicy policyJSON = some policy)
    (governed : Governed tenantID policyJSON db.tenants) (unchanged : ∀ event ∈ events, KeepsPolicy tenantID policyJSON event) :
    ClaimsBounded repository tenantID policy events db := by
  have positive := (validate_ok (decodeTenantPolicy_ok decoded)).2.2.1
  have fresh : ∀ job ∈ db.jobs, job.attemptNo = 0 := fun job member => (untouched.queued job member).2.1
  have start : BoundedJobs tenantID policyJSON policy db := by
    refine ⟨⟨?_, ?_⟩, untouched.keys, governed⟩
    · intro job member _
      rw [fresh job member]
      omega
    · intro job member _ _
      rw [fresh job member]
      omega
  have sound : BoundedJobs tenantID policyJSON policy (run (step repository) events db) :=
    run_preserves (fun _ _ => step_boundedJobs decoded) events start (along_of_mem unchanged db)
  intro job member own
  have none : attemptsMade db.jobs job.id = 0 := by
    refine List.sum_eq_zero fun value inside => ?_
    obtain ⟨other, there, rfl⟩ := List.mem_map.mp inside
    simp [fresh other there]
  have counted : (job.attemptNo : Int) = timesClaimed repository job.id events db :=
    calc (job.attemptNo : Int)
        = attemptsMade (run (step repository) events db).jobs job.id := (attemptsMade_eq sound.keys.jobs member).symm
      _ = attemptsMade db.jobs job.id + timesClaimed repository job.id events db := run_attemptsMade events untouched.keys job.id
      _ = timesClaimed repository job.id events db := by rw [none, zero_add]
  exact ⟨by exact_mod_cast counted.symm, sound.bounded.attempts job member own, sound.bounded.queued job member own⟩

private theorem sampleTenant_governed : Governed sampleTenant.id samplePolicy sampleDb.tenants := by
  intro tenant member _
  obtain rfl : tenant = sampleTenant := List.mem_singleton.mp member
  rfl

def lapsingClaims : List Event :=
  [sampleClaim, .tick 60000, sampleClaim, .tick 60000, sampleClaim, .tick 60000, sampleClaim]

theorem attempts_bounded_sample : ∃ policy, decodeTenantPolicy samplePolicy = some policy ∧ policy.maxInfrastructureTries = 3 ∧
    ClaimsBounded sampleRepository sampleTenant.id policy lapsingClaims sampleDb ∧
    timesClaimed sampleRepository sampleJob.id lapsingClaims sampleDb = 3 ∧
    (run (step sampleRepository) lapsingClaims sampleDb).jobs.map JobRow.status = [.failed] := by
  obtain ⟨policy, decoded, three⟩ :
      ∃ policy, decodeTenantPolicy samplePolicy = some policy ∧ policy.maxInfrastructureTries = 3 := ⟨_, rfl, rfl⟩
  refine ⟨policy, decoded, three, ?_, by decide +kernel, by decide +kernel⟩
  exact attempts_bounded sampleRepository sampleDb_untouched decoded sampleTenant_governed
    (by simp [lapsingClaims, sampleClaim, KeepsPolicy])

end JudgingServer.Proofs
