import JudgingServer.Proofs.Frames
import JudgingServer.Proofs.Outbox

/-! The job quotas of a tenant: how many of its jobs run, and how many of them wait or run. -/

namespace JudgingServer.Proofs
open Go External Library Table Transaction

variable {job job' : JobRow} {tenantID : Nat}

private def isRunning (tenantID : Nat) (job : JobRow) : Bool := job.tenantID = tenantID ∧ job.status = .running

private def isLive (tenantID : Nat) (job : JobRow) : Bool := job.tenantID = tenantID ∧ job.status.isTerminal = false

private theorem SameJob.isRunning (same : SameJob job job') (status : job'.status = .running → job.status = .running)
    (running : isRunning tenantID job' = true) : isRunning tenantID job = true := by
  simp only [Proofs.isRunning, decide_eq_true_eq] at running ⊢
  exact ⟨same.tenantID.symm.trans running.1, status running.2⟩

private theorem SameJob.isLive (same : SameJob job job') (open_ : job.status.isTerminal = false)
    (live : isLive tenantID job' = true) :
    isLive tenantID job = true := by
  simp only [Proofs.isLive, decide_eq_true_eq] at live ⊢
  exact ⟨same.tenantID.symm.trans live.1, open_⟩

private theorem live_eq (db : Db) (tenantID : Nat) : db.jobs.countP
    (isLive tenantID) = queuedJobs db tenantID + runningJobs db tenantID := by
  unfold queuedJobs runningJobs
  induction db.jobs with
  | nil => rfl
  | cons job rest ih =>
    have one : (if isLive tenantID job then 1 else 0) =
        (if job.tenantID = tenantID ∧ job.status = .queued then 1 else 0) +
          (if job.tenantID = tenantID ∧ job.status = .running then 1 else 0) := by
      unfold isLive
      generalize job.status = status
      cases status <;> simp [JobStatus.isTerminal]
    simp only [List.countP_cons, ih, one, decide_eq_true_eq]
    omega

private theorem countP_rescheduled {p q : JobRow → Bool} {time : Time}
    (same : ∀ job, q { job with nextAttemptAt := time } = q job)
    (jobs : List JobRow) : (update p (fun job => { job with nextAttemptAt := time }) jobs).countP q = jobs.countP q :=
  countP_update (fun job _ => same job) jobs

private theorem Ends.notRunning (ends : Ends job job') : job'.status ≠ .running := by
  cases ends.outcome <;> simp_all

private theorem Move.running_le (move : Move (fun _ _ => False) life life') (tenantID : Nat) :
    life'.jobs.countP (isRunning tenantID) ≤ life.jobs.countP (isRunning tenantID) := by
  have rows := move.jobs
  generalize life'.jobs = jobs' at rows ⊢
  cases rows with
  | added new => simp [isRunning, new.queued]
  | turned rows =>
    refine countP_forall₂_le (fun job job' turn => turn.sameJob.isRunning fun running => ?_) rows
    cases turn with
    | same | rescheduled | renewed | requested => exact running
    | started active => exact active.elim
    | settled ends => exact absurd running ends.notRunning
    | closed closes => obtain ⟨cancelled, _⟩ | ⟨failed, _⟩ := closes.ended <;> simp_all

private theorem Move.live_le (move : Move policies life life') (tenantID : Nat) :
    life'.jobs.countP (isLive tenantID) + life.jobs.length ≤ life.jobs.countP (isLive tenantID) + life'.jobs.length := by
  have rows := move.jobs
  generalize life'.jobs = jobs' at rows ⊢
  cases rows with
  | @added job new =>
    rw [List.countP_append, List.length_append]
    have counted := List.countP_le_length (p := isLive tenantID) (l := [job])
    omega
  | turned rows =>
    rw [rows.length_eq]
    refine Nat.add_le_add_right (countP_forall₂_le (fun job job' turn live => ?_) rows) _
    cases ended : job.status.isTerminal with
    | true => rwa [turn.terminal ended] at live
    | false => exact turn.sameJob.isLive ended live

private theorem Moves.running_le (moves : Moves (fun _ _ => False) life life') (tenantID : Nat) :
    life'.jobs.countP (isRunning tenantID) ≤ life.jobs.countP (isRunning tenantID) := by
  induction moves with
  | refl => exact le_rfl
  | tail _ move ih => exact (move.running_le tenantID).trans ih

private theorem Moves.live_le (moves : Moves policies life life') (tenantID : Nat) :
    life'.jobs.countP (isLive tenantID) + life.jobs.length ≤ life.jobs.countP (isLive tenantID) + life'.jobs.length := by
  induction moves with
  | refl => exact le_rfl
  | tail _ move ih =>
    have next := move.live_le tenantID
    omega

section Steps

private theorem ClaimTurn.running_le (turn : ClaimTurn session db db' target claim) (tenantID : Nat) :
    runningJobs db' tenantID ≤ runningJobs db tenantID ∨ runningJobs db' tenantID ≤ runningJobs db tenantID + 1 ∧
      ∃ policy, HasPolicy db tenantID policy ∧ (runningJobs db tenantID : Int) < policy.maxRunningJobs := by
  cases claim with
  | none =>
    have moves : Moves (fun _ _ => False) (lifecycle db) (lifecycle db') := turn.moves nofun
    exact .inl (moves.running_le tenantID)
  | some claim =>
    obtain ⟨mid, readied, decided⟩ := turn.decided
    cases decided with
    | started allowed handed same again number jobs daily _ _ _ _ _ _ _ _ _ room =>
      cases readied with
      | waiting queued =>
        by_cases own : target.tenant.id = tenantID
        · subst own
          refine .inr ⟨?_, target.policy, turn.targets.tenantID ▸ turn.targets.hasPolicy allowed.1, room queued⟩
          have counted : _ = _ := jobs.countP (isRunning target.tenant.id)
          unfold runningJobs
          unfold isRunning at counted
          split_ifs at counted <;> omega
        · refine .inl (jobs.countP_le fun running => ?_)
          simp only [decide_eq_true_eq] at running
          exact absurd (turn.targets.tenantID.symm.trans (same.2.1.symm.trans running.1)) own
      | recovered running expired status =>
        -- A job that runs is replaced by the same job, running again.
        have restarted := jobs.countP_le (p := isRunning tenantID) fun again => by
          simp only [isRunning, decide_eq_true_eq] at again ⊢
          exact ⟨same.2.1.symm.trans again.1, running⟩
        rw [expired.written, countP_rescheduled fun _ => rfl] at restarted
        exact .inl restarted

private theorem step_running_le (repository : JobRepository) (event : Event) (keys : Keys (lifecycle db)) (tenantID : Nat) :
    runningJobs (step repository event db) tenantID ≤ runningJobs db tenantID ∨
      runningJobs (step repository event db) tenantID ≤ runningJobs db tenantID + 1 ∧
        ∃ policy, HasPolicy db tenantID policy ∧ (runningJobs db tenantID : Int) < policy.maxRunningJobs := by
  have turn := step_turn repository event keys
  obtain ⟨moves, -⟩ | ⟨_, _, _, _, _, -, -, turn⟩ := turn.quiet_or_claimed keys
  · exact .inl ((moves fun _ _ => False).running_le tenantID)
  · exact turn.running_le tenantID

private theorem lengthFrame (count : Nat) : WorkerFrame fun db => db.jobs.length = count :=
  ⟨fun _ _ _ same => (length_update ..).trans same, fun _ _ => id, fun _ _ => id, fun _ _ => id, fun _ _ _ => id⟩

private theorem step_live_le (repository : JobRepository) (event : Event) (keys : Keys (lifecycle db)) (tenantID : Nat) :
    (step repository event db).jobs.countP (isLive tenantID) ≤ db.jobs.countP (isLive tenantID) ∨
      (step repository event db).jobs.countP (isLive tenantID) ≤ db.jobs.countP (isLive tenantID) + 1 ∧
        ∃ policy, HasPolicy db tenantID policy ∧ (queuedJobs db tenantID : Int) < policy.maxQueuedJobs := by
  by_cases submission : ∃ draws tenantExternalID idempotencyKey request assigned,
      event = .submit draws tenantExternalID idempotencyKey request assigned
  · obtain ⟨draws, tenantExternalID, idempotencyKey, request, assigned, rfl⟩ := submission
    unfold step
    simp only [perform]
    split
    next => exact .inl le_rfl
    next submission prepared =>
      obtain ⟨result, next, ran, committed⟩ | ⟨error, ran, rolledBack⟩ :=
        commit_cases (submitTransaction repository submission assigned) db
      · simp only [committed, settleOutcome]
        obtain ⟨tenant, policy, bundleID, callbackID, submits⟩ := submitTransaction_ok ran
        rw [submits.written, List.countP_append, List.countP_singleton]
        by_cases own : tenant.id = tenantID
        · subst own
          refine .inr ⟨by split <;> omega, policy, ⟨tenant, List.mem_of_find?_eq_some submits.found, rfl, submits.decoded⟩, ?_⟩
          exact submits.room
        · exact .inl (by simp [isLive, submittedJob, own])
      · simp only [rolledBack, settleOutcome]
        exact .inl le_rfl
  · have length : (step repository event db).jobs.length = db.jobs.length := by
      refine step_keeps (lengthFrame db.jobs.length) (fun _ => rfl) (fun _ => rfl) (fun _ _ _ _ => rfl) ?_ rfl
      intro draws tenantExternalID idempotencyKey request assigned same
      exact absurd ⟨draws, tenantExternalID, idempotencyKey, request, assigned, same⟩ submission
    have moves := step_moves repository event keys
    have live := moves.live_le tenantID
    simp only [lifecycle, length] at live
    exact .inl (by omega)

/-! ### Runs under one policy -/

/-- Every row of the tenant has this policy. -/
def Governed (tenantID : Nat) (policyJSON : Json) (tenants : List TenantRow) : Prop :=
  ∀ tenant ∈ tenants, tenant.id = tenantID → tenant.policyJSON = policyJSON

/-- Provisioning leaves the tenant's policy alone. -/
def KeepsPolicy (tenantID : Nat) (policyJSON : Json) : Event → Prop
  | .provision tenants _ _ => Governed tenantID policyJSON tenants
  | _ => True

theorem step_governed (governed : Governed tenantID policyJSON db.tenants) (keeps : KeepsPolicy tenantID policyJSON event) :
    Governed tenantID policyJSON (step repository event db).tenants := by
  have frame : WorkerFrame fun db => Governed tenantID policyJSON db.tenants := by
    refine ⟨fun _ _ _ => id, fun _ _ => id, fun _ _ => id, fun _ _ => id, ?_⟩
    intro db p now governed tenant member
    obtain ⟨old, inside, _, rfl⟩ | ⟨inside, _⟩ := mem_update.mp member
    · exact governed old inside
    · exact governed tenant inside
  have submits : SubmitFrame fun db => Governed tenantID policyJSON db.tenants :=
    ⟨fun _ _ => id, fun _ _ => id, fun _ _ => id, fun _ _ => id⟩
  refine step_keeps frame (fun _ => governed) (fun _ => governed) ?_ ?_ governed
  · rintro tenants bundles callbacks rfl
    exact keeps
  · intro _ _ _ _ _ _ submission
    exact submitTransaction_keeps submits

theorem Governed.policy {policy other : TenantPolicy} (governed : Governed tenantID policyJSON db.tenants)
    (decoded : decodeTenantPolicy policyJSON = some policy) (has : HasPolicy db tenantID other) : other = policy := by
  obtain ⟨tenant, member, own, read⟩ := has
  rw [governed tenant member own, decoded] at read
  exact (Option.some.inj read).symm

/-- The jobs of a tenant are within its limits. -/
structure WithinQuotas (tenantID : Nat) (policy : TenantPolicy) (db : Db) : Prop where
  running : (runningJobs db tenantID : Int) ≤ policy.maxRunningJobs
  live : (queuedJobs db tenantID + runningJobs db tenantID : Int) ≤ policy.maxQueuedJobs + policy.maxRunningJobs

structure Quota (tenantID : Nat) (policyJSON : Json) (policy : TenantPolicy) (db : Db) : Prop
    extends WithinQuotas tenantID policy db where
  keys : Keys (lifecycle db)
  governed : Governed tenantID policyJSON db.tenants

private theorem step_quota (decoded : decodeTenantPolicy policyJSON = some policy) (quota : Quota tenantID policyJSON policy db)
    (keeps : KeepsPolicy tenantID policyJSON event) : Quota tenantID policyJSON policy (step repository event db) := by
  have moves := step_moves repository event quota.keys
  have limits := quota.toWithinQuotas
  have before := live_eq db tenantID
  have after := live_eq (step repository event db) tenantID
  have running : (runningJobs (step repository event db) tenantID : Int) ≤ policy.maxRunningJobs := by
    have kept := limits.running
    obtain fewer | ⟨more, other, has, room⟩ := step_running_le repository event quota.keys tenantID
    · omega
    · rw [quota.governed.policy decoded has] at room
      omega
  refine { running, live := ?_, keys := moves.keys quota.keys, governed := step_governed quota.governed keeps }
  have kept := limits.live
  have ran := limits.running
  obtain fewer | ⟨more, other, has, room⟩ := step_live_le repository event quota.keys tenantID
  · omega
  · rw [quota.governed.policy decoded has] at room
    omega

end Steps

/-- From a database without jobs, and as long as a tenant keeps its policy, no more of
its jobs run than the policy allows, and no more of them wait or run than both limits
allow together. -/
theorem job_quotas (repository : JobRepository) {events : List Event} {db : Db} {tenantID : Nat} {policyJSON : Json}
    {policy : TenantPolicy} (keys : Keys (lifecycle db)) (empty : db.jobs = [])
    (decoded : decodeTenantPolicy policyJSON = some policy) (governed : Governed tenantID policyJSON db.tenants)
    (unchanged : ∀ event ∈ events, KeepsPolicy tenantID policyJSON event) :
    WithinQuotas tenantID policy (run (step repository) events db) := by
  have limits := validate_ok (decodeTenantPolicy_ok decoded)
  have start : Quota tenantID policyJSON policy db :=
    { running := by simp [runningJobs, empty]; omega, live := by simp [runningJobs, queuedJobs, empty]; omega, keys, governed }
  exact (run_preserves (fun _ _ => step_quota decoded) events start (along_of_mem unchanged db)).toWithinQuotas

/-- The sample job is submitted and then claimed. -/
def claimedDb : Db := run (step sampleRepository) (sampleEvents.dropLast ++ [sampleClaim]) sampleStart

theorem job_quotas_sample : runningJobs claimedDb sampleTenant.id = 1 ∧ ∃ policy, decodeTenantPolicy samplePolicy = some policy ∧
    policy.maxRunningJobs = 2 ∧ WithinQuotas sampleTenant.id policy claimedDb := by
  have keys : Keys (lifecycle sampleStart) := ⟨List.nodup_nil, List.nodup_nil, List.nodup_nil, List.nodup_nil⟩
  have governed : Governed sampleTenant.id samplePolicy sampleStart.tenants := by
    intro tenant member _
    obtain rfl : tenant = sampleTenant := List.mem_singleton.mp member
    rfl
  have unchanged : ∀ event ∈ sampleEvents.dropLast ++ [sampleClaim], KeepsPolicy sampleTenant.id samplePolicy event := by
    unfold sampleEvents
    split <;> simp [sampleClaim, KeepsPolicy]
  exact ⟨by decide +kernel, _, rfl, rfl, job_quotas sampleRepository keys rfl rfl governed unchanged⟩

end JudgingServer.Proofs
