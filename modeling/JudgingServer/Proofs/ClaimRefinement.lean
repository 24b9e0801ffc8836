import JudgingServer.Proofs.Refinement
import JudgingServer.Proofs.ExecutionTimes

/-! What a committed claim did: which job it locked, how the attempt of an expired lease was given
up, what was decided, and where the tenant stands in the order of claims. Such a turn is a sequence
of moves. -/

namespace JudgingServer.Proofs
open Go External Library Table Transaction

variable {attempt' : AttemptRow} {outcome : ClaimOutcome} {row' : DailyRow} {reserved : Int} {job' : JobRow}
  {jobs' : List JobRow} {tenantID : Nat} {tenant : TenantRow}

variable {attempt : AttemptRow} {start : Bool} {target : ClaimTarget} {row : DailyRow} {db : Db} {lease : Duration}
  {policy : TenantPolicy} {now : Time}

structure Targets (db : Db) (now : Time) (target : ClaimTarget) : Prop where
  tenant : db.tenants.find? (fun tenant => tenant.id = target.tenant.id) = some target.tenant
  policy : target.tenant.status = .active → decodeTenantPolicy target.tenant.policyJSON = some target.policy
  member : target.job ∈ db.jobs
  tenantID : target.job.tenantID = target.tenant.id
  claimable : (target.tenant.status = .active ∧ target.job.status = .queued ∧ target.job.nextAttemptAt ≤ now) ∨
    target.job.leaseExpired now = true
  positive : 0 < target.reservedExecutionMillis

theorem Targets.active (targets : Targets db now target) (active : target.tenant.status = .active) :
    ActivePolicy db target.job.tenantID target.policy := by
  refine ⟨target.tenant, ?_, active, targets.policy active⟩
  rw [targets.tenantID]
  exact targets.tenant

private theorem claimPolicy_ok (read : claimPolicy tenant = .ok policy) (active : tenant.status = .active) :
    decodeTenantPolicy tenant.policyJSON = some policy := by
  unfold claimPolicy at read
  rw [if_pos active] at read
  split at read
  next decoded found => rw [found, Except.ok.inj read]
  next => cases read

private theorem claimReservation_pos (computed : claimReservation tenant policy bundle = .ok reserved) : 0 < reserved := by
  unfold claimReservation at computed
  split at computed
  next => cases computed
  next =>
    split at computed
    next => cases computed
    next =>
      split at computed
      next => cases computed
      next found => exact Except.ok.inj computed ▸ maximumManifestExecutionMillis_pos found

theorem lockClaimTarget_ok (ran : lockClaimTarget session now db = .ok (target, db')) :
    db = db' ∧ Targets db now target ∧ ∃ row, joinBundle db target.job = some row ∧
      claimReservation target.tenant target.policy row.bundle = .ok target.reservedExecutionMillis := by
  unfold lockClaimTarget at ran
  obtain ⟨selected, _, read, ran⟩ := bind_ok ran
  obtain ⟨-, rfl⟩ := query_ok read
  cases selected with
  | none =>
    obtain ⟨_, _, _, ran⟩ := bind_ok ran
    exact (fail_ok ran).elim
  | some candidate =>
    obtain ⟨tenant, found, ran⟩ := after_require ran
    obtain ⟨policy, decoded, ran⟩ := after_attempt ran
    obtain ⟨row, picked, ran⟩ := after_require ran
    obtain ⟨reserved, computed, ran⟩ := after_attempt ran
    obtain ⟨rfl, rfl⟩ := pure_ok ran
    have same : tenant.id = candidate.id := (find?_row found).2
    obtain ⟨joined, holds⟩ := first_some picked
    obtain ⟨job, member, paired⟩ := List.mem_filterMap.mp joined
    have jobs : row.job = job := by
      unfold joinBundle at paired
      obtain ⟨bundle, _, rfl⟩ := Option.map_eq_some_iff.mp paired
      rfl
    simp only [claimableJob, Bool.and_eq_true, decide_eq_true_eq] at holds
    refine ⟨rfl, ⟨?_, claimPolicy_ok decoded, jobs ▸ member, holds.1.1, holds.1.2, claimReservation_pos computed⟩, row,
      jobs ▸ paired, computed⟩
    simpa only [same] using found

theorem Targets.hasPolicy (targets : Targets db now target) (active : target.tenant.status = .active) :
    HasPolicy db target.job.tenantID target.policy :=
  ⟨target.tenant, List.mem_of_find?_eq_some targets.tenant, targets.tenantID.symm, targets.policy active⟩

/-- The state in which a claim decides: a queued job is there as it was locked, and an
expired one has given up its attempt. -/
inductive Readied (db : Db) (target : ClaimTarget) : Db → Prop where
  | waiting (queued : target.job.status = .queued) : Readied db target db
  | recovered {attempt attempt' : AttemptRow} {row row' : DailyRow} (running : target.job.status = .running)
      (expired : EndsAttempt db mid target.tenant.id target.job.id target.job.attemptNo db.now attempt attempt' row row' 0)
      (status : attempt'.status = .expired) : Readied db target mid

/-- The columns of a job that no claim writes. -/
def SameOwner (job job' : JobRow) : Prop := job'.id = job.id ∧ job'.tenantID = job.tenantID ∧ job'.bundleID = job.bundleID

/-- Another attempt of the job is allowed: it was queued, or its policy has tries left. -/
def TriesLeft (target : ClaimTarget) : Prop :=
  target.tenant.status = .active ∧
    (target.job.status = .queued ∨ (target.job.attemptNo : Int) < target.policy.maxInfrastructureTries)

/-- The tenant rows after a claim of the tenant was served. -/
def advanced (tenantID : Nat) (now : Time) (tenants : List TenantRow) : List TenantRow :=
  update (fun tenant => tenant.id = tenantID) (fun tenant => { tenant with lastClaimedAt := some now }) tenants

/-- An expired job is put back into the queue, as an intermediate state of its recovery. -/
def requeuedJob (job : JobRow) : JobRow := { job.releaseLease with status := .queued }

/-- What the claim did with the job. Only the recovery of an expired lease may leave the tenant where
it stands. -/
inductive Decided (session : ClaimSession) (now : Time) (target : ClaimTarget) (mid db' : Db) : Option WorkerJobClaim → Prop where
  | ended {job' : JobRow} (same : SameOwner target.job job') (terminal : job'.status.isTerminal = true)
      (number : job'.attemptNo = target.job.attemptNo) (jobs : Replaced target.job job' mid.jobs db'.jobs)
      (daily : db'.daily = mid.daily) (attempts : db'.attempts = mid.attempts) (emits : Emits job' mid.outbox db'.outbox)
      (closes : target.job.status = .queued → Closes target.job job')
      (ends : target.job.status = .running → Ends target.job job' ∧ job'.status ≠ .succeeded)
      (cursor : target.job.status = .queued → db'.tenants = advanced target.tenant.id now mid.tenants) :
      Decided session now target mid db' none
  | deferred {job' : JobRow} {row : DailyRow} (allowed : TriesLeft target) (same : SameOwner target.job job')
      (queued : job'.status = .queued) (number : job'.attemptNo = target.job.attemptNo)
      (waits : job'.nextAttemptAt = session.accountingDay.next.start) (jobs : Replaced target.job job' mid.jobs db'.jobs)
      (daily : db'.daily = ensureDailyRow target.tenant.id session.accountingDay mid.daily) (member : row ∈ db'.daily)
      (rowKey : dailyKey row = (target.tenant.id, session.accountingDay))
      (short : target.policy.dailyExecutionMillis - target.reservedExecutionMillis < row.consumedMillis ∨
        target.policy.dailyExecutionMillis - target.reservedExecutionMillis - row.consumedMillis < row.reservedMillis)
      (attempts : db'.attempts = mid.attempts) (outbox : db'.outbox = mid.outbox)
      (moved : target.job.status = .queued → db'.jobs = update (fun row => row.id = target.job.id ∧ row.status = .queued)
        (fun row => { row with nextAttemptAt := session.accountingDay.next.start }) mid.jobs)
      (ends : target.job.status = .running → Ends target.job job')
      (cursor : db'.tenants = advanced target.tenant.id now mid.tenants) : Decided session now target mid db' none
  | started {job' : JobRow} {row : DailyRow} {attempt : AttemptRow} (allowed : TriesLeft target)
      (handed : claim.job.internalID = target.job.id) (same : SameOwner target.job job') (running : job'.status = .running)
      (number : job'.attemptNo = target.job.attemptNo + 1) (jobs : Replaced target.job job' mid.jobs db'.jobs)
      (daily : Replaced row { row with reservedMillis := row.reservedMillis + target.reservedExecutionMillis }
        (ensureDailyRow target.tenant.id session.accountingDay mid.daily) db'.daily)
      (rowTenant : row.tenantID = target.tenant.id)
      (within : row.reservedMillis + row.consumedMillis + target.reservedExecutionMillis ≤ target.policy.dailyExecutionMillis)
      (fresh : ∀ other ∈ mid.attempts, attemptKey other ≠ attemptKey attempt) (attempts : db'.attempts = mid.attempts ++ [attempt])
      (rowDay : attempt.accountingDay = some row.accountingDay)
      (amount : attempt.reservedExecutionMillis = target.reservedExecutionMillis) (outbox : db'.outbox = mid.outbox)
      (starts : target.job.status = .queued → Starts target.job job' attempt)
      (restarts : target.job.status = .running →
        Ends target.job (requeuedJob target.job) ∧ Starts (requeuedJob target.job) job' attempt)
      (room : target.job.status = .queued → (runningJobs mid target.tenant.id : Int) < target.policy.maxRunningJobs)
      (cursor : db'.tenants = advanced target.tenant.id now mid.tenants) : Decided session now target mid db' (some claim)

structure ClaimTurn (session : ClaimSession) (db db' : Db) (target : ClaimTarget) (claim : Option WorkerJobClaim) : Prop where
  targets : Targets db db.now target
  decided : ∃ mid, Readied db target mid ∧ Decided session db.now target mid db' claim

section Claim

variable {db mid db' : Db} {repository : JobRepository} {session : ClaimSession} {target : ClaimTarget} {now : Time}

theorem Readied.frame (readied : Readied db target mid) (keys : Keys (lifecycle db)) (targets : Targets db db.now target) :
    Keyed JobRow.id mid.jobs ∧ target.job ∈ mid.jobs ∧ mid.outbox = db.outbox ∧ mid.tenants = db.tenants ∧
      Keyed dailyKey mid.daily := by
  cases readied with
  | waiting queued => exact ⟨keys.jobs, targets.member, rfl, rfl, keys.daily⟩
  | recovered running expired status =>
    obtain ⟨keyed, present, outbox, tenants⟩ := expired.frame keys.jobs targets.member (by simp [running])
    exact ⟨keyed, present, outbox, tenants, expired.daily_keyed keys.daily⟩

theorem ClaimTurn.cursor (turn : ClaimTurn session db db' target claim) (queued : target.job.status = .queued) :
    db'.tenants = advanced target.tenant.id db.now db.tenants := by
  obtain ⟨mid, readied, decided⟩ := turn.decided
  cases readied with
  | recovered running => exact absurd (queued.symm.trans running) (by decide)
  | waiting queued =>
    cases decided with
    | ended _ _ _ _ _ _ _ _ _ cursor => exact cursor queued
    | deferred _ _ _ _ _ _ _ _ _ _ _ _ _ _ cursor => exact cursor
    | started _ _ _ _ _ _ _ _ _ _ _ _ _ _ _ _ _ cursor => exact cursor

/-! ### The rows that a claim writes -/

theorem insertAttempt_ok (ran : insertAttempt attempt db = .ok (done, db')) :
    (∀ other ∈ db.attempts, attemptKey other ≠ attemptKey attempt) ∧ db' = { db with attempts := db.attempts ++ [attempt] } := by
  unfold insertAttempt at ran
  have ran := after_query ran
  obtain ⟨free, ran⟩ := after_ensure ran
  refine ⟨?_, execute_ok ran⟩
  simpa [attemptKey] using free

private theorem startedJob_starts (queued : job.status = .queued) (id : job.id = target.job.id)
    (tenantID : job.tenantID = target.tenant.id)
    (attemptNo : job.attemptNo = target.job.attemptNo) (positive : 0 < target.reservedExecutionMillis) :
    Starts job (startedJob workerID token leaseUntil now (target.job.attemptNo + 1) job)
      (startedAttempt workerID token leaseUntil now day target) :=
  { same := ⟨rfl, rfl, rfl, rfl, rfl, rfl, rfl, rfl⟩, queued, running := rfl, attemptNo := by rw [attemptNo]; rfl, workerID := rfl,
    leaseToken := rfl, leased := rfl, leaseUntil := rfl, failureCode := rfl, result := rfl, cancelRequestedAt := rfl,
    jobID := id.symm, tenantID := tenantID.symm, number := by rw [attemptNo]; rfl, active := rfl, reserved := positive,
    consumed := rfl }

private theorem startAttempt_ok (keyed : Keyed JobRow.id settled.jobs) (member : target.job ∈ settled.jobs)
    (targets : Targets db now target) (allowed : TriesLeft target)
    (room : target.job.status = .queued → (runningJobs settled target.tenant.id : Int) < target.policy.maxRunningJobs)
    (requeues : target.job.status = .running → Ends target.job (requeuedJob target.job))
    (reserves : Reserves settled mid target.tenant.id session.accountingDay target.policy.dailyExecutionMillis target.reservedExecutionMillis .allowed)
    (ran : startAttempt session workerID lease now target mid = .ok (claim, db')) :
    Decided session now target settled db' (some claim) := by
  cases reserves with
  | allowed row tenant accountingDay positive within daily written =>
    unfold startAttempt at ran
    obtain ⟨-, ran⟩ := after_ensure ran
    obtain ⟨token, -, ran⟩ := after_require ran
    have ran := after_ok ran rfl
    obtain ⟨-, ran⟩ := after_ensure ran
    obtain ⟨_, _, insert, ran⟩ := bind_ok ran
    obtain ⟨fresh, rfl⟩ := insertAttempt_ok insert
    have ran := after_execute ran
    obtain ⟨record, _, read, ran⟩ := bind_ok ran
    obtain ⟨scanned, rfl⟩ := unavailableOn_ok read
    obtain ⟨rfl, rfl⟩ := pure_ok ran
    obtain ⟨found, id, reads⟩ := getExternalJobByInternalID_ok scanned
    have rows : mid.jobs = settled.jobs ∧ mid.attempts = settled.attempts ∧ mid.outbox = settled.outbox ∧
        mid.tenants = settled.tenants := by
      rw [written]
      exact ⟨rfl, rfl, rfl, rfl⟩
    have jobs : Replaced target.job (startedJob workerID token (now.add lease) now (target.job.attemptNo + 1) target.job)
        settled.jobs (update (fun row => row.id = target.job.id ∧ row.status = target.job.status ∧
          row.attemptNo = target.job.attemptNo) (startedJob workerID token (now.add lease) now (target.job.attemptNo + 1))
          mid.jobs) := by
      rw [rows.1]
      refine update_replaced keyed member (by simp) fun other _ selected => ?_
      simp only [decide_eq_true_eq] at selected
      exact selected.1
    have same : SameOwner target.job (startedJob workerID token (now.add lease) now (target.job.attemptNo + 1) target.job) :=
      ⟨rfl, rfl, rfl⟩
    have restarts : Starts (requeuedJob target.job)
        (startedJob workerID token (now.add lease) now (target.job.attemptNo + 1) (requeuedJob target.job))
        (startedAttempt workerID token (now.add lease) now session.accountingDay target) :=
      startedJob_starts rfl rfl targets.tenantID rfl positive
    rw [rows.2.1] at fresh
    exact .started allowed (reads.internalID.trans id) same rfl rfl jobs daily tenant within fresh (by rw [← rows.2.1])
      (by rw [accountingDay]; rfl) rfl rows.2.2.1 (fun queued => startedJob_starts queued rfl targets.tenantID rfl positive)
      (fun running => ⟨requeues running, restarts⟩) room (by rw [← rows.2.2.2]; rfl)

theorem updateRunning_ok (change : JobRow → JobRow) (keyed : Keyed JobRow.id db.jobs) (member : job ∈ db.jobs)
    (running : job.status = .running) :
    Replaced job (change job) db.jobs
      (update (fun row => row.id = job.id ∧ row.status = .running ∧ row.attemptNo = job.attemptNo) change db.jobs) := by
  refine update_replaced keyed member (by simp [running]) ?_
  intro other _ selected
  simp only [decide_eq_true_eq] at selected
  exact selected.1

private theorem settleExpiredJob_decided (keyed : Keyed JobRow.id db.jobs) (member : target.job ∈ db.jobs)
    (ends : Ends target.job (change target.job)) (terminal : (change target.job).status.isTerminal = true)
    (unfinished : (change target.job).status ≠ .succeeded)
    (ran : settleExpiredJob repository session now target.job change operation db = .ok (done, db')) :
    Decided session now target db db' none := by
  unfold settleExpiredJob at ran
  have publish := after_ok ran rfl
  have jobs := updateRunning_ok change keyed member ends.running
  obtain ⟨emits, last⟩ := publishTerminal_ok (jobs.keyed keyed ends.same.id) jobs.mem_right ends.same.id publish
  have queued : target.job.status ≠ .queued := by simp [ends.running]
  refine .ended ⟨ends.same.id, ends.same.tenantID, ends.same.bundleID⟩ terminal ends.attemptNo ?_ ?_ ?_ emits
    (fun waiting => absurd waiting queued) (fun _ => ⟨ends, unfinished⟩) (fun waiting => absurd waiting queued)
  · rw [last]
    exact jobs
  · rw [last]
  · rw [last]

theorem failedJob_settled (running : job.status = .running) (matched : matchesInfrastructureCode code = true)
    (honoured : job.cancelRequestedAt.isSome = true → code = lit "TENANT_DISABLED") :
    Ends job { job.releaseLease with status := .failed, failureCode := some code, completedAt := some now } :=
  ⟨⟨rfl, rfl, rfl, rfl, rfl, rfl, rfl, rfl⟩, running, rfl, ⟨rfl, rfl, rfl⟩, rfl, .failed rfl rfl ⟨_, rfl, matched⟩,
    fun requested => ⟨.inr ⟨rfl, congrArg some (honoured requested)⟩, .inr rfl⟩⟩

theorem cancelledJob_settled (running : job.status = .running) :
    Ends job { job.releaseLease with status := .cancelled, result := none, failureCode := none, completedAt := some now } :=
  ⟨⟨rfl, rfl, rfl, rfl, rfl, rfl, rfl, rfl⟩, running, rfl, ⟨rfl, rfl, rfl⟩, rfl, .cancelled rfl (.inl rfl) rfl,
    fun _ => ⟨.inl rfl, .inl rfl⟩⟩

def impossibleJob (now : Time) (job : JobRow) : JobRow :=
  { job.releaseLease with
    status := .failed, failureCode := some (lit "DAILY_EXECUTION_LIMIT_TOO_LOW"), completedAt := some now }

theorem impossibleJob_closes (queued : job.status = .queued) : Closes job (impossibleJob now job) :=
  ⟨⟨rfl, rfl, rfl, rfl, rfl, rfl, rfl, rfl⟩, queued, rfl, ⟨rfl, rfl, rfl⟩, rfl, .inr ⟨rfl, _, rfl, by decide⟩⟩

private theorem failImpossibleDailyExecution_decided (keyed : Keyed JobRow.id db.jobs) (member : target.job ∈ db.jobs)
    (ends : target.job.status = .running → Ends target.job (impossibleJob now target.job))
    (ran : failImpossibleDailyExecution repository session.eventEntropy target.tenant.id target.job.id target.job.status
      target.job.attemptNo now db = .ok (done, db')) : Decided session now target db db' none := by
  unfold failImpossibleDailyExecution at ran
  have ran := after_ok ran rfl
  obtain ⟨one, ran⟩ := after_ensure ran
  have publish := after_execute ran
  have jobs := update_known keyed member (fun other selected => selected.2.1) (of_decide_eq_true one)
  have same : (impossibleJob now target.job).id = target.job.id := rfl
  obtain ⟨emits, last⟩ := publishTerminal_ok (jobs.keyed keyed rfl) jobs.mem_right same publish
  have owner : SameOwner target.job (impossibleJob now target.job) := ⟨rfl, rfl, rfl⟩
  refine .ended owner rfl rfl ?_ ?_ ?_ emits impossibleJob_closes
    (fun running => ⟨ends running, by simp [impossibleJob]⟩) fun _ => ?_
  · rw [last]
    exact jobs
  · rw [last]
  · rw [last]
  · rw [last]
    rfl

private def deferredJob (day : Day) (job : JobRow) : JobRow :=
  { job.releaseLease with status := .queued, nextAttemptAt := day.next.start }

/-! ### The branches of a claim -/

/-- How a branch ends: it has decided, or time was reserved for the next attempt. -/
inductive Branched (session : ClaimSession) (now : Time) (target : ClaimTarget) (mid db' : Db) : Bool → Prop where
  | decided (decided : Decided session now target mid db' none) : Branched session now target mid db' false
  | reserved (allowed : TriesLeft target)
      (room : target.job.status = .queued → (runningJobs mid target.tenant.id : Int) < target.policy.maxRunningJobs)
      (requeues : target.job.status = .running → Ends target.job (requeuedJob target.job))
      (reserves : Reserves mid db' target.tenant.id session.accountingDay target.policy.dailyExecutionMillis
        target.reservedExecutionMillis .allowed) : Branched session now target mid db' true

private theorem recoverExpiredJob_ok (keys : Keys (lifecycle db)) (targets : Targets db db.now target)
    (running : target.job.status = .running)
    (ran : recoverExpiredJob repository session db.now target db = .ok (start, db')) :
    ∃ mid, Readied db target mid ∧ Branched session db.now target mid db' start := by
  have waiting : target.job.status ≠ .queued := by simp [running]
  unfold recoverExpiredJob at ran
  obtain ⟨_, mid, expire, ran⟩ := bind_ok ran
  obtain ⟨attempt, attempt', row, row', expired, status⟩ := expireAttempt_ok keys.daily keys.attempts expire
  have readied : Readied db target mid := .recovered running expired status
  obtain ⟨keyed, present, -, -, daily⟩ := readied.frame keys targets
  refine ⟨mid, readied, ?_⟩
  split at ran
  next =>
    obtain ⟨_, _, settle, ran⟩ := bind_ok ran
    obtain ⟨rfl, rfl⟩ := pure_ok ran
    exact .decided (settleExpiredJob_decided keyed present (failedJob_settled running (by decide) fun _ => rfl) rfl (by simp) settle)
  next active =>
    split at ran
    next =>
      obtain ⟨_, _, settle, ran⟩ := bind_ok ran
      obtain ⟨rfl, rfl⟩ := pure_ok ran
      exact .decided (settleExpiredJob_decided keyed present (cancelledJob_settled running) rfl (by simp) settle)
    next unrequested =>
      have failed_ : ∀ {code : GoString}, matchesInfrastructureCode code = true →
          Ends target.job { target.job.releaseLease with status := .failed, failureCode := some code, completedAt := some db.now } :=
        fun matched => failedJob_settled running matched fun requested => absurd requested unrequested
      split at ran
      next =>
        obtain ⟨_, _, settle, ran⟩ := bind_ok ran
        obtain ⟨rfl, rfl⟩ := pure_ok ran
        exact .decided (settleExpiredJob_decided keyed present (failed_ (by decide)) rfl (by simp) settle)
      next more =>
        have enabled : target.tenant.status = .active := by simpa using active
        have allowed : TriesLeft target := ⟨enabled, .inr (Int.not_le.mp more)⟩
        have requeues (time : Time) : Ends target.job { requeuedJob target.job with nextAttemptAt := time } :=
          ⟨⟨rfl, rfl, rfl, rfl, rfl, rfl, rfl, rfl⟩, running, rfl, ⟨rfl, rfl, rfl⟩, rfl,
            .requeued rfl rfl (.inr rfl) (attemptNo_lt_max (targets.policy enabled) (Int.not_le.mp more)),
            fun requested => absurd requested unrequested⟩
        obtain ⟨decision, reserved, reserve, ran⟩ := bind_ok ran
        have reserves := reserveDailyExecution_ok daily reserve
        cases decision with
        | impossible =>
          obtain ⟨_, last, failed, ran⟩ := bind_ok ran
          obtain ⟨rfl, rfl⟩ := pure_ok ran
          cases reserves with
          | impossible unchanged =>
            subst unchanged
            exact .decided (failImpossibleDailyExecution_decided keyed present (fun _ => failed_ (by decide)) failed)
        | deferred =>
          obtain ⟨_, last, defer, ran⟩ := bind_ok ran
          obtain ⟨rfl, rfl⟩ := pure_ok ran
          cases reserves with
          | deferred opened inside rowKey short =>
            subst opened
            have advance := after_ok defer rfl
            obtain rfl := execute_ok advance
            have jobs := updateRunning_ok (deferredJob session.accountingDay) keyed present running
            have same : SameOwner target.job (deferredJob session.accountingDay target.job) := ⟨rfl, rfl, rfl⟩
            exact .decided (.deferred allowed same rfl rfl rfl jobs rfl inside rowKey short rfl rfl
              (fun queued => absurd queued waiting) (fun _ => requeues _) rfl)
        | allowed =>
          obtain ⟨rfl, rfl⟩ := pure_ok ran
          exact .reserved allowed (fun queued => absurd queued waiting) (fun _ => requeues _) reserves

private theorem admitQueuedJob_ok (keys : Keys (lifecycle db)) (targets : Targets db now target)
    (queued : target.job.status = .queued)
    (active : target.tenant.status = .active) (committed : admitQueuedJob repository session now target db = .ok (start, db')) :
    Branched session now target db db' start := by
  have running : target.job.status ≠ .running := by simp [queued]
  unfold admitQueuedJob at committed
  have committed := after_query committed
  obtain ⟨room, committed⟩ := after_ensure committed
  obtain ⟨-, committed⟩ := after_ensure committed
  obtain ⟨decision, reserved, reserve, committed⟩ := bind_ok committed
  have reserves := reserveDailyExecution_ok keys.daily (wrap_ok reserve)
  cases decision with
  | impossible =>
    obtain ⟨_, last, failed, committed⟩ := bind_ok committed
    obtain ⟨rfl, rfl⟩ := pure_ok committed
    cases reserves with
    | impossible unchanged =>
      subst unchanged
      exact .decided (failImpossibleDailyExecution_decided keys.jobs targets.member (fun ran => absurd ran running) (wrap_ok failed))
  | deferred =>
    obtain ⟨_, last, defer, committed⟩ := bind_ok committed
    obtain ⟨rfl, rfl⟩ := pure_ok committed
    cases reserves with
    | deferred opened inside rowKey short =>
      subst opened
      have advance := after_ok (wrap_ok defer) rfl
      obtain rfl := execute_ok advance
      have jobs : Replaced target.job { target.job with nextAttemptAt := session.accountingDay.next.start } db.jobs _ :=
        update_replaced (p := fun row => row.id = target.job.id ∧ row.status = .queued)
          (f := fun row => { row with nextAttemptAt := session.accountingDay.next.start })
          keys.jobs targets.member (by simp [queued]) fun other _ selected => by
            simp only [decide_eq_true_eq] at selected
            exact selected.1
      have same : SameOwner target.job { target.job with nextAttemptAt := session.accountingDay.next.start } := ⟨rfl, rfl, rfl⟩
      exact .decided (.deferred ⟨active, .inl queued⟩ same queued rfl rfl jobs rfl inside rowKey short rfl rfl
        (fun _ => rfl) (fun ran => absurd ran running) rfl)
  | allowed =>
    obtain ⟨rfl, rfl⟩ := pure_ok committed
    exact .reserved ⟨active, .inl queued⟩ (fun _ => by simpa using room) (fun ran => absurd ran running) reserves

theorem Targets.enabled (targets : Targets db now target) (queued : target.job.status = .queued) :
    target.tenant.status = .active := by
  obtain ⟨active, -⟩ | expired := targets.claimable
  · exact active
  · simp [JobRow.leaseExpired, queued] at expired

theorem prepareAttempt_ok (keys : Keys (lifecycle db)) (targets : Targets db db.now target)
    (ran : prepareAttempt repository session db.now target db = .ok (start, db')) :
    ∃ mid, Readied db target mid ∧ Branched session db.now target mid db' start := by
  unfold prepareAttempt at ran
  cases status : target.job.status with
  | running =>
    simp only [status] at ran
    exact recoverExpiredJob_ok keys targets status (wrap_ok ran)
  | queued =>
    simp only [status] at ran
    exact ⟨db, .waiting status, admitQueuedJob_ok keys targets status (targets.enabled status) ran⟩
  | succeeded | failed | cancelled =>
    simp only [status] at ran
    exact (fail_ok ran).elim

/-- The claim that a committed transaction hands out. -/
def ClaimOutcome.claim : ClaimOutcome → Option WorkerJobClaim
  | .claimed claim => some claim
  | .recovered => none

private theorem claimOne_turn (keys : Keys (lifecycle db))
    (ran : claimOne repository session workerID lease db = .ok (outcome, db')) :
    ∃ target, lockClaimTarget session db.now db = .ok (target, db) ∧ ClaimTurn session db db' target (ClaimOutcome.claim outcome) := by
  unfold claimOne at ran
  have ran := after_query ran
  obtain ⟨target, _, lock, ran⟩ := bind_ok ran
  obtain ⟨rfl, targets, -⟩ := lockClaimTarget_ok lock
  obtain ⟨start, mid, branch, ran⟩ := bind_ok ran
  obtain ⟨settled, readied, branched⟩ := prepareAttempt_ok keys targets branch
  obtain ⟨keyed, present, -⟩ := readied.frame keys targets
  refine ⟨target, lock, targets, settled, readied, ?_⟩
  cases branched with
  | decided decided =>
    obtain ⟨rfl, rfl⟩ := pure_ok ran
    exact decided
  | reserved allowed room requeues reserves =>
    obtain ⟨claim, _, begin_, ran⟩ := bind_ok ran
    obtain ⟨rfl, rfl⟩ := pure_ok ran
    exact startAttempt_ok keyed present targets allowed room requeues reserves (wrap_ok begin_)

theorem claimTransaction_turn (keys : Keys (lifecycle db))
    (ran : claimTransaction repository session workerID lease db = .ok (outcome, db')) :
    ∃ target, lockClaimTarget session db.now db = .ok (target, db) ∧
      ClaimTurn session db db' target (ClaimOutcome.claim outcome) := by
  obtain ⟨-, ran⟩ := after_ensure ran
  exact claimOne_turn keys ran

/-! ### Moves -/

section Moves

private theorem reserve_start_moves {life : Lifecycle} {job : JobRow} {daily' : List DailyRow}
    (active : policies job.tenantID policy)
    (starts : Starts job job' attempt) (fresh : ∀ other ∈ life.attempts, attemptKey other ≠ attemptKey attempt)
    (jobs : Replaced job job' life.jobs jobs') (rowTenant : row.tenantID = job.tenantID)
    (rowDay : attempt.accountingDay = some row.accountingDay)
    (daily : Replaced row { row with reservedMillis := row.reservedMillis + attempt.reservedExecutionMillis } (ensureDailyRow tenantID day life.daily) daily')
    (within : row.reservedMillis + row.consumedMillis + attempt.reservedExecutionMillis ≤ policy.dailyExecutionMillis) :
    Moves policies life ⟨jobs', life.attempts ++ [attempt], daily', life.outbox⟩ := by
  have opened : Move policies life { life with daily := ensureDailyRow tenantID day life.daily } := .openDay tenantID day
  exact (Relation.ReflTransGen.single opened).tail (.start policy active starts fresh jobs rowTenant rowDay daily within)

private theorem recover_moves (expired : EndsAttempt db mid tenantID job.id job.attemptNo now attempt attempt' row row' 0)
    (status : attempt'.status = .expired) (ends : Ends job job') (unfinished : job'.status ≠ .succeeded)
    (jobs : Replaced job job' mid.jobs jobs') (outbox : Publishes job' db.outbox outbox') :
    Moves policies (lifecycle db) ⟨jobs', mid.attempts, mid.daily, outbox'⟩ := by
  have woken : Move policies (lifecycle db) { lifecycle db with jobs := mid.jobs } := by
    rw [expired.written]
    exact .reschedule _ _ fun _ _ waits => (awaitsNext_iff.mp waits).2.1
  have succeeded : attempt'.status = .succeeded ↔ job'.status = .succeeded := by
    rw [status]
    simp [unfinished]
  have settles : Settles job job' attempt attempt' row row' 0 :=
    { toAttemptSettles := expired.toAttemptSettles, ends, jobID := expired.jobID, number := expired.attemptNo, succeeded }
  exact (Relation.ReflTransGen.single woken).tail (.settle settles jobs expired.attempts expired.daily outbox)

private theorem lifecycle_eq (sameJobs : db.jobs = jobs) (sameAttempts : db.attempts = attempts) (sameDaily : db.daily = daily)
    (sameOutbox : db.outbox = outbox) : lifecycle db = ⟨jobs, attempts, daily, outbox⟩ := by
  unfold lifecycle
  rw [sameJobs, sameAttempts, sameDaily, sameOutbox]

private theorem Decided.waiting_moves (decided : Decided session now target db db' claim) (targets : Targets db now target)
    (queued : target.job.status = .queued) (active : claim.isSome → policies target.job.tenantID target.policy) :
    Moves policies (lifecycle db) (lifecycle db') := by
  cases decided with
  | ended same terminal number jobs daily attempts emits closes ends cursor =>
    rw [lifecycle_eq rfl attempts daily rfl]
    exact .single (.close (closes queued) jobs (.emits terminal emits))
  | deferred allowed same _ number waits jobs daily member rowKey short attempts outbox moved ends cursor =>
    rw [lifecycle_eq (moved queued) attempts daily outbox]
    have opening : Move policies (lifecycle db) _ := .openDay target.tenant.id session.accountingDay
    refine (Relation.ReflTransGen.single opening).tail (.reschedule _ _ ?_)
    intro job _ selected
    simp only [decide_eq_true_eq] at selected
    exact selected.2
  | started allowed handed same running number jobs daily rowTenant within fresh attempts rowDay amount outbox starts =>
    rw [lifecycle_eq rfl attempts rfl outbox]
    rw [← amount] at daily within
    exact reserve_start_moves (active rfl) (starts queued) fresh jobs (rowTenant.trans targets.tenantID.symm) rowDay daily within

private theorem Decided.recovered_moves (decided : Decided session now target mid db' claim) (targets : Targets db now target)
    (running : target.job.status = .running)
    (expired : EndsAttempt db mid target.tenant.id target.job.id target.job.attemptNo db.now attempt attempt' row row' 0)
    (status : attempt'.status = .expired) (active : claim.isSome → policies target.job.tenantID target.policy) :
    Moves policies (lifecycle db) (lifecycle db') := by
  have quiet : mid.outbox = db.outbox := by rw [expired.written]
  cases decided with
  | ended same terminal number jobs daily attempts emits closes ends cursor =>
    rw [lifecycle_eq rfl attempts daily rfl]
    exact recover_moves expired status (ends running).1 (ends running).2 jobs (.emits terminal (quiet ▸ emits))
  | deferred allowed same queued number waits jobs daily member rowKey short attempts outbox moved ends cursor =>
    have recovered : Moves policies (lifecycle db) ⟨db'.jobs, mid.attempts, mid.daily, db.outbox⟩ :=
      recover_moves expired status (ends running) (by simp [queued]) jobs (.quiet (by rw [queued]; rfl))
    rw [lifecycle_eq rfl attempts daily (outbox.trans quiet)]
    exact recovered.tail (.openDay target.tenant.id session.accountingDay)
  | started allowed handed same again number jobs daily rowTenant within fresh attempts rowDay amount outbox starts restarts =>
    -- The row is written once. As two moves it passes through the queue.
    obtain ⟨requeues, starts⟩ := restarts running
    obtain ⟨between, first, second⟩ := jobs.through (requeuedJob target.job)
    have recovered : Moves policies (lifecycle db) ⟨between, mid.attempts, mid.daily, db.outbox⟩ :=
      recover_moves expired status requeues (by simp [requeuedJob]) first (.quiet rfl)
    have policy : policies (requeuedJob target.job).tenantID target.policy := active rfl
    rw [← amount] at daily within
    rw [lifecycle_eq rfl attempts rfl (outbox.trans quiet)]
    exact recovered.trans (reserve_start_moves policy starts fresh second (rowTenant.trans targets.tenantID.symm) rowDay daily within)

theorem ClaimTurn.moves (turn : ClaimTurn session db db' target claim)
    (active : claim.isSome → policies target.job.tenantID target.policy) : Moves policies (lifecycle db) (lifecycle db') := by
  obtain ⟨mid, readied, decided⟩ := turn.decided
  cases readied with
  | waiting queued => exact decided.waiting_moves turn.targets queued active
  | recovered running expired status => exact decided.recovered_moves turn.targets running expired status active

theorem ClaimTurn.active (turn : ClaimTurn session db db' target claim) (handed : claim.isSome) :
    ActivePolicy db target.job.tenantID target.policy := by
  obtain ⟨mid, readied, decided⟩ := turn.decided
  cases decided with
  | ended => cases handed
  | deferred => cases handed
  | started allowed => exact turn.targets.active allowed.1

end Moves

end Claim

end JudgingServer.Proofs
