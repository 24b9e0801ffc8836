import JudgingServer.Proofs.Announcements

/-! Every committed transaction is a sequence of moves. -/

namespace JudgingServer.Proofs
open Go External Library Table Transaction

variable {failure : InfrastructureFailure}

/-- The tenant is active and has this policy. -/
def ActivePolicy (db : Db) (tenantID : Nat) (policy : TenantPolicy) : Prop :=
  ∃ tenant, db.tenants.find? (fun tenant => tenant.id = tenantID) = some tenant ∧ tenant.status = .active ∧
    decodeTenantPolicy tenant.policyJSON = some policy

def HasPolicy (db : Db) (tenantID : Nat) (policy : TenantPolicy) : Prop :=
  ∃ tenant ∈ db.tenants, tenant.id = tenantID ∧ decodeTenantPolicy tenant.policyJSON = some policy

/-- A worker settled its job: the row was written, then the attempt was ended and the waiting jobs
were woken, and last the end of the job was published. Only a job with tries left goes back into the queue. -/
structure SettleTurn (db db' : Db) (job job' : JobRow) : Prop where
  ends : Ends job job'
  requeued : job'.status = .queued →
    ∃ policy, HasPolicy db job.tenantID policy ∧ (job.attemptNo : Int) < policy.maxInfrastructureTries
  outbox : Publishes job' db.outbox db'.outbox
  settled : ∃ jobs' tenantID attempt attempt' row row' consumed, Replaced job job' db.jobs jobs' ∧
    EndsAttempt { db with jobs := jobs' } { db' with outbox := db.outbox } tenantID job.id job.attemptNo db.now
      attempt attempt' row row' consumed ∧
    (attempt'.status = .succeeded ↔ job'.status = .succeeded)

section Settlement

variable {db : Db} {job : JobRow}

theorem Publishes.quiet (open_ : job.status.isTerminal = false) : Publishes job outbox outbox := by
  simp [Publishes, open_]

theorem Publishes.emits (ended : job.status.isTerminal = true) (emits : Emits job outbox outbox') :
    Publishes job outbox outbox' := by
  simpa [Publishes, ended] using emits

theorem SettleTurn.moves (turn : SettleTurn db db' job job') : Moves policies (lifecycle db) (lifecycle db') := by
  obtain ⟨jobs', tenantID, attempt, attempt', row, row', consumed, jobs, ended, succeeded⟩ := turn.settled
  have settles : Settles job job' attempt attempt' row row' consumed :=
    { toAttemptSettles := ended.toAttemptSettles, ends := turn.ends, jobID := ended.jobID, number := ended.attemptNo, succeeded }
  have settled : Move policies (lifecycle db) ⟨jobs', db'.attempts, db'.daily, db'.outbox⟩ :=
    .settle settles jobs ended.attempts ended.daily turn.outbox
  have woken : db'.jobs = update (awaitsNext tenantID row.accountingDay) (fun job => { job with nextAttemptAt := db.now }) jobs' :=
    congrArg Db.jobs ended.written
  refine (Relation.ReflTransGen.single settled).tail ?_
  unfold lifecycle
  rw [woken]
  exact .reschedule _ _ fun _ _ waits => (awaitsNext_iff.mp waits).2.1

section Parts

variable {attempt : AttemptRow}

private theorem publishTerminal_settled (keys : Keys (lifecycle db)) (ends : Ends job job')
    (terminal : job'.status.isTerminal = true)
    (jobs : Replaced job job' db.jobs jobs')
    (ended : EndsAttempt { db with jobs := jobs' } mid tenantID job.id job.attemptNo db.now attempt attempt' row row' consumed)
    (publish : publishTerminal repository entropy db.now job.id operation mid = .ok (done, db')) :
    db' = { mid with outbox := db'.outbox } ∧ Publishes job' db.outbox db'.outbox := by
  have awake : job'.status ≠ .queued := by
    intro waiting
    rw [waiting] at terminal
    cases terminal
  obtain ⟨keyed, present, outbox, -⟩ := ended.frame (jobs.keyed keys.jobs ends.same.id) jobs.mem_right awake
  obtain ⟨emits, last⟩ := publishTerminal_ok keyed present ends.same.id publish
  rw [outbox] at emits
  exact ⟨last, .emits terminal emits⟩

theorem SettleTurn.of (ends : Ends job job') (jobs : Replaced job job' db.jobs jobs')
    (ended : EndsAttempt { db with jobs := jobs' } mid tenantID job.id job.attemptNo db.now attempt attempt' row row' consumed)
    (succeeded : attempt'.status = .succeeded ↔ job'.status = .succeeded)
    (requeued : job'.status = .queued →
      ∃ policy, HasPolicy db job.tenantID policy ∧ (job.attemptNo : Int) < policy.maxInfrastructureTries)
    (last : db' = { mid with outbox := db'.outbox }) (outbox : Publishes job' db.outbox db'.outbox) :
    SettleTurn db db' job job' := by
  have quiet : mid.outbox = db.outbox := by rw [ended.written]
  have kept : mid = { db' with outbox := db.outbox } := by rw [last, ← quiet]
  exact ⟨ends, requeued, outbox, jobs', tenantID, attempt, attempt', row, row', consumed, jobs, kept ▸ ended, succeeded⟩

end Parts

theorem lockActiveClaimAndPolicy_ok (ran : lockActiveClaimAndPolicy claim now db = .ok ((cancelled, encoded), db')) :
    db = db' ∧ ∃ job ∈ db.jobs, job.heldBy claim now = true ∧ cancelled = job.cancelRequestedAt.isSome ∧
      ∀ policy, decodeTenantPolicy encoded = some policy → HasPolicy db job.tenantID policy := by
  unfold lockActiveClaimAndPolicy at ran
  obtain ⟨owner, -, ran⟩ := after_require ran
  obtain ⟨tenant, owned, ran⟩ := after_require ran
  obtain ⟨job, found, ran⟩ := after_require ran
  obtain ⟨same, rfl⟩ := pure_ok ran
  obtain ⟨member, holds⟩ := find?_row found
  obtain ⟨inside, id⟩ := find?_row owned
  obtain ⟨rfl, rfl⟩ := Prod.mk.inj same
  refine ⟨rfl, job, member, holds.2, rfl, fun policy decoded => ?_⟩
  exact ⟨tenant, inside, id.trans holds.1.symm, decoded⟩

theorem heldBy_iff :
    job.heldBy claim now = true ↔ job.id = claim.job.internalID ∧ job.status = .running ∧ job.attemptNo = claim.attemptNo ∧
      job.workerID = some claim.workerID ∧ job.leaseToken = some claim.leaseToken ∧
      ∃ lease, job.leaseUntil = some lease ∧ now < lease := by
  simp [JobRow.heldBy, Option.any_eq_true]

theorem claimedBy_iff :
    job.claimedBy claim = true ↔ job.id = claim.job.internalID ∧ job.status = .running ∧ job.attemptNo = claim.attemptNo ∧
      job.workerID = some claim.workerID ∧ job.leaseToken = some claim.leaseToken := by
  simp [JobRow.claimedBy]

theorem updateClaimed_ok (keyed : Keyed JobRow.id db.jobs) (member : job ∈ db.jobs) (held : job.claimedBy claim = true) :
    Replaced job (f job) db.jobs (update (fun job => job.claimedBy claim) f db.jobs) := by
  refine update_replaced keyed member held ?_
  intro other _ selected
  exact (claimedBy_iff.mp selected).1.trans (claimedBy_iff.mp held).1.symm

theorem completedJob_ends (result : DurableJobResult) (now : Time) (running : job.status = .running) :
    Ends job (completedJob job.cancelRequestedAt.isSome result now job) := by
  refine ⟨⟨rfl, rfl, rfl, rfl, rfl, rfl, rfl, rfl⟩, running, rfl, ⟨rfl, rfl, rfl⟩, rfl, ?_, fun requested => ?_⟩
  · cases job.cancelRequestedAt.isSome with
    | true => exact .cancelled rfl (.inl rfl) rfl
    | false => exact .succeeded rfl rfl rfl
  · rw [requested]
    exact ⟨.inl rfl, .inl rfl⟩

/-- A job goes back into the queue only while its policy allows another try. -/
theorem failureDisposition_requeued (requeued : failureDisposition cancelled failure attemptNo policy = .requeued) :
    (attemptNo : Int) < policy.maxInfrastructureTries := by
  unfold failureDisposition at requeued
  split_ifs at requeued with requested more
  exact more.2

theorem failureDisposition_cancelled (requested : cancelled = true) :
    failureDisposition cancelled failure attemptNo policy = .cancelled :=
  if_pos requested

theorem failedJob_ends (disposition : FailureDisposition) (now : Time) (running : job.status = .running)
    (code : matchesInfrastructureCode failure.code = true) (tries : disposition = .requeued → job.attemptNo < maxUint32)
    (honoured : job.cancelRequestedAt.isSome = true → disposition = .cancelled) :
    Ends job (failedJob disposition failure now job) := by
  have yields : job.cancelRequestedAt.isSome = true → Yields (failedJob disposition failure now job) ∧
      ((failedJob disposition failure now job).result = none ∨ (failedJob disposition failure now job).result = job.result) := by
    intro requested
    rw [honoured requested]
    exact ⟨.inl rfl, .inr rfl⟩
  cases disposition with
  | requeued => exact ⟨⟨rfl, rfl, rfl, rfl, rfl, rfl, rfl, rfl⟩, running, rfl, ⟨rfl, rfl, rfl⟩, rfl, .requeued rfl rfl (.inl rfl) (tries rfl), yields⟩
  | terminal => exact ⟨⟨rfl, rfl, rfl, rfl, rfl, rfl, rfl, rfl⟩, running, rfl, ⟨rfl, rfl, rfl⟩, rfl, .failed rfl rfl ⟨_, rfl, code⟩, yields⟩
  | cancelled => exact ⟨⟨rfl, rfl, rfl, rfl, rfl, rfl, rfl, rfl⟩, running, rfl, ⟨rfl, rfl, rfl⟩, rfl, .cancelled rfl (.inr rfl) rfl, yields⟩

theorem validated_cases (valid : validateDurableJobResult result = true) :
    ∀ item ∈ result.cases, boundedText 128 item.caseID = true ∧ boundedText 64 item.verdict = true ∧ 0 ≤ item.timeMillis ∧
      0 ≤ item.memoryBytes ∧ validScorePair item.score item.maxScore = true := by
  have scanned : ∀ {scored sums'} {cases : List DurableCaseResult} (sums), scanDurableCases scored cases sums = some sums' →
      ∀ item ∈ cases, boundedText 128 item.caseID = true ∧ boundedText 64 item.verdict = true ∧ 0 ≤ item.timeMillis ∧
        0 ≤ item.memoryBytes ∧ validScorePair item.score item.maxScore = true := by
    intro scored sums' cases
    induction cases with
    | nil => simp
    | cons first rest ih =>
      intro sums scan item member
      unfold scanDurableCases at scan
      split at scan
      next checks =>
        rcases List.mem_cons.mp member with rfl | inside
        · exact ⟨checks.1, checks.2.1, checks.2.2.1, checks.2.2.2.1, checks.2.2.2.2.1⟩
        · exact ih _ scan item inside
      next => cases scan
  unfold validateDurableJobResult at valid
  split at valid
  next =>
    split at valid
    next => cases valid
    next sums scan => exact scanned _ scan
  next => cases valid

section

variable (keys : Keys (lifecycle db))
include keys

theorem heartbeat_ok (ran : heartbeat claim lease db = .ok (done, db')) :
    ∃ job attempt, job.heldBy claim db.now = true ∧ attempt.jobID = job.id ∧ attempt.attemptNo = job.attemptNo ∧
      attempt.status = .running ∧ Replaced job { job with leaseUntil := some (db.now.add lease) } db.jobs db'.jobs ∧
      Replaced attempt { attempt with leaseUntil := db.now.add lease } db.attempts db'.attempts ∧
      db' = { db with jobs := db'.jobs, attempts := db'.attempts } := by
  unfold heartbeat at ran
  obtain ⟨-, ran⟩ := after_ensure ran
  have ran := after_query ran
  have ran := after_ok ran rfl
  obtain ⟨one, ran⟩ := after_ensure ran
  have ran := after_ok ran rfl
  obtain ⟨two, rfl⟩ := ensure_ok ran
  obtain ⟨job, _, held, jobs⟩ := update_one keys.jobs (fun left right first second =>
    (heldBy_iff.mp first).1.trans (heldBy_iff.mp second).1.symm) (of_decide_eq_true one)
  obtain ⟨attempt, _, active, attempts⟩ := update_one keys.attempts (fun left right first second => by
    simp only [decide_eq_true_eq] at first second
    exact Prod.ext (first.1.trans second.1.symm) (first.2.1.trans second.2.1.symm)) (of_decide_eq_true two)
  obtain ⟨id, running, number, _⟩ := heldBy_iff.mp held
  simp only [decide_eq_true_eq] at active
  exact ⟨job, attempt, held, active.1.trans id.symm, active.2.1.trans number.symm, active.2.2.2.2, jobs, attempts, rfl⟩

theorem heartbeat_moves (ran : heartbeat claim lease db = .ok (done, db')) :
    Moves policies (lifecycle db) (lifecycle db') := by
  obtain ⟨job, attempt, held, jobID, number, active, jobs, attempts, written⟩ := heartbeat_ok keys ran
  have frame : lifecycle db' = { lifecycle db with jobs := db'.jobs, attempts := db'.attempts } := congrArg lifecycle written
  rw [frame]
  exact .single (.renew _ (heldBy_iff.mp held).2.1 jobID number active jobs attempts)

theorem complete_turn (ran : complete repository entropy claim result db = .ok (done, db')) :
    ∃ job ∈ db.jobs, job.heldBy claim db.now = true ∧ ∃ job', SettleTurn db db' job job' := by
  unfold complete at ran
  obtain ⟨valid, ran⟩ := after_ensure ran
  simp only [decide_eq_true_eq] at valid
  have ran := after_query ran
  obtain ⟨⟨cancelled, policy⟩, _, lock, ran⟩ := bind_ok ran
  obtain ⟨rfl, job, member, held, rfl, -⟩ := lockActiveClaimAndPolicy_ok lock
  have ran := after_ok ran rfl
  obtain ⟨-, ran⟩ := after_ensure ran
  obtain ⟨consumed, settled, release, ran⟩ := bind_ok ran
  obtain ⟨_, finished, finish, publish⟩ := bind_ok ran
  obtain ⟨id, running, number, worker, token, _⟩ := heldBy_iff.mp held
  have jobs := updateClaimed_ok (f := completedJob job.cancelRequestedAt.isSome result db.now) keys.jobs member
    (claimedBy_iff.mpr ⟨id, running, number, worker, token⟩)
  obtain ⟨attempt, attempt', row, row', ended, status⟩ := finishAttempt_ok release finish keys.daily keys.attempts
    (fun item member => (validated_cases valid.2 item member).2.2.1) (by split <;> simp)
  rw [← id, ← number] at ended
  rw [← id] at publish
  have ends := completedJob_ends result db.now running
  have terminal : (completedJob job.cancelRequestedAt.isSome result db.now job).status.isTerminal = true := by
    simp only [completedJob]
    split <;> rfl
  obtain ⟨last, outbox⟩ := publishTerminal_settled keys ends terminal jobs ended publish
  refine ⟨job, member, held, _, .of ends jobs ended ?_ (fun queued => ?_) last outbox⟩
  · rw [status]
    simp only [completedJob]
    split <;> simp
  · rw [queued] at terminal
    cases terminal

theorem failInfrastructure_turn (ran : failInfrastructure repository entropy claim failure db = .ok (outcome, db')) :
    ∃ job ∈ db.jobs, job.heldBy claim db.now = true ∧ ∃ job', SettleTurn db db' job job' := by
  unfold failInfrastructure at ran
  obtain ⟨valid, ran⟩ := after_ensure ran
  simp only [decide_eq_true_eq] at valid
  have ran := after_query ran
  obtain ⟨⟨cancelled, encoded⟩, _, lock, ran⟩ := bind_ok ran
  obtain ⟨rfl, job, member, held, rfl, owned⟩ := lockActiveClaimAndPolicy_ok lock
  obtain ⟨policy, decoded, ran⟩ := after_require ran
  have ran := after_ok ran rfl
  obtain ⟨-, ran⟩ := after_ensure ran
  obtain ⟨consumed, settled, release, ran⟩ := bind_ok ran
  obtain ⟨_, finished, finish, ran⟩ := bind_ok ran
  obtain ⟨id, running, number, worker, token, _⟩ := heldBy_iff.mp held
  generalize chosen : failureDisposition job.cancelRequestedAt.isSome failure claim.attemptNo policy = disposition at *
  have jobs := updateClaimed_ok (f := failedJob disposition failure db.now) keys.jobs member
    (claimedBy_iff.mpr ⟨id, running, number, worker, token⟩)
  obtain ⟨attempt, attempt', row, row', ended, status⟩ := finishAttempt_ok release finish keys.daily keys.attempts
    (by simp) (by split <;> simp)
  rw [← id, ← number] at ended
  have ends := failedJob_ends disposition db.now running valid.2.1
    (fun requeued => number ▸ attemptNo_lt_max decoded (failureDisposition_requeued (chosen.trans requeued)))
    (fun requested => chosen.symm.trans (failureDisposition_cancelled requested))
  have succeeded : attempt'.status = .succeeded ↔ (failedJob disposition failure db.now job).status = .succeeded := by
    rw [status]
    cases disposition <;> simp only [failedJob] <;> split <;> simp
  have requeued : (failedJob disposition failure db.now job).status = .queued →
      ∃ policy, HasPolicy db job.tenantID policy ∧ (job.attemptNo : Int) < policy.maxInfrastructureTries := by
    intro queued
    cases disposition with
    | requeued => exact ⟨policy, owned policy decoded, number ▸ failureDisposition_requeued chosen⟩
    | terminal | cancelled => cases queued
  have published : db' = { finished with outbox := db'.outbox } ∧
      Publishes (failedJob disposition failure db.now job) db.outbox db'.outbox := by
    cases disposition with
    | requeued =>
      simp only [ne_eq, not_true_eq_false, if_false] at ran
      obtain ⟨-, rfl⟩ := pure_ok ran
      have outbox : finished.outbox = db.outbox := by rw [ended.written]
      exact ⟨rfl, outbox ▸ .quiet rfl⟩
    | terminal | cancelled =>
      obtain ⟨_, _, publish, ran⟩ := bind_ok ran
      obtain ⟨-, rfl⟩ := pure_ok ran
      rw [← id] at publish
      exact publishTerminal_settled keys ends rfl jobs ended publish
  exact ⟨job, member, held, _, .of ends jobs ended succeeded requeued published.1 published.2⟩

end

theorem cancelQueued_closes (keyed : Keyed JobRow.id db.jobs) (reads : Reads db job record) (waiting : job.status = .queued) :
    Replaced job (cancelQueued db.now job) db.jobs
      (update (fun row => row.id = record.internalID ∧ row.status = .queued) (cancelQueued db.now) db.jobs) ∧
    Closes job (cancelQueued db.now job) := by
  constructor
  · refine update_replaced keyed reads.member (by simp [reads.internalID, waiting]) ?_
    intro other _ picked
    simp only [decide_eq_true_eq] at picked
    exact picked.1.trans reads.internalID
  · exact ⟨⟨rfl, rfl, rfl, rfl, rfl, rfl, rfl, rfl⟩, waiting, rfl, ⟨rfl, rfl, rfl⟩, rfl, .inl ⟨rfl, rfl⟩⟩

/-- What a cancellation did: it ended a queued job, it asked a running job to stop,
or there was nothing left to do. -/
inductive Cancels (db db' : Db) (jobExternalID : GoString) (record : ExternalJobRecord) : Prop where
  | closed (job : JobRow) (member : job ∈ db.jobs) (named : job.externalID = jobExternalID) (queued : job.status = .queued)
      (jobs : Replaced job (cancelQueued db.now job) db.jobs db'.jobs) (closes : Closes job (cancelQueued db.now job))
      (emits : Emits (cancelQueued db.now job) db.outbox db'.outbox)
      (frame : db' = { db with jobs := db'.jobs, outbox := db'.outbox }) (told : record.status = .cancelled)
  | requested (job : JobRow) (member : job ∈ db.jobs) (named : job.externalID = jobExternalID) (running : job.status = .running)
      (unset : job.cancelRequestedAt = none)
      (jobs : Replaced job { job with cancelRequestedAt := some db.now } db.jobs db'.jobs)
      (frame : db' = { db with jobs := db'.jobs })
  | nothing (job : JobRow) (member : job ∈ db.jobs) (named : job.externalID = jobExternalID)
      (settled : job.status.isTerminal = true ∨ job.status = .running ∧ job.cancelRequestedAt.isSome = true) (same : db' = db)

theorem cancel_ok (keys : Keys (lifecycle db))
    (ran : cancel repository entropy tenantExternalID jobExternalID db = .ok (record, db')) :
    Cancels db db' jobExternalID record := by
  unfold cancel at ran
  obtain ⟨-, ran⟩ := after_ensure ran
  obtain ⟨_, -, ran⟩ := after_require ran
  obtain ⟨first, _, read, ran⟩ := bind_ok ran
  obtain ⟨scanned, rfl⟩ := attempt_ok (wrap_ok read)
  obtain ⟨⟨job, _, _, _, _⟩, selected, _, reads⟩ := getExternalJobWhere_ok scanned
  simp only [decide_eq_true_eq] at selected
  have ran := after_query ran
  have unchanged : ∀ {read : Db → Except RepositoryError ExternalJobRecord} {operation : String} {last : Db},
      unavailableOn operation read last = .ok (record, db') → last = db' := fun run => (unavailableOn_ok run).2
  have status := reads.status
  cases stage : first.status with
  | queued =>
    simp only [stage] at ran
    have ran := after_ok ran rfl
    obtain ⟨second, _, read, ran⟩ := bind_ok ran
    obtain ⟨rescanned, rfl⟩ := unavailableOn_ok read
    obtain ⟨_, published, insert, ran⟩ := bind_ok ran
    obtain ⟨rfl, rfl⟩ := pure_ok ran
    have waiting : job.status = .queued := status.symm.trans stage
    obtain ⟨jobs, closes⟩ := cancelQueued_closes keys.jobs reads waiting
    obtain ⟨⟨other, _, _, _, _⟩, again, _, rereads⟩ := getExternalJobWhere_ok rescanned
    have written := keys.replace_job jobs closes.same.id closes.same.externalID
    obtain rfl : other = cancelQueued db.now job := by
      simp only [decide_eq_true_eq] at again
      exact written.externalIDs.eq rereads.member jobs.mem_right (again.2.trans selected.2.symm)
    obtain ⟨emits, last⟩ := insertTerminalWebhookEvent_ok written.jobs rereads insert
    have rows : published.jobs = update (fun row => row.id = first.internalID ∧ row.status = .queued) (cancelQueued db.now) db.jobs := by
      rw [last]
    exact .closed job reads.member selected.2 waiting (by rw [rows]; exact jobs) closes emits (by rw [last]) rereads.status
  | running =>
    simp only [stage] at ran
    have active : job.status = .running := status.symm.trans stage
    split at ran
    next unset =>
      have ran := after_ok ran rfl
      obtain rfl := unchanged ran
      have jobs : Replaced job { job with cancelRequestedAt := some db.now } db.jobs
          (update (fun row => row.id = first.internalID ∧ row.status = .running)
            (fun row => { row with cancelRequestedAt := some db.now }) db.jobs) := by
        refine update_replaced keys.jobs reads.member (by simp [reads.internalID, active]) ?_
        intro other _ picked
        simp only [decide_eq_true_eq] at picked
        exact picked.1.trans reads.internalID
      rw [reads.cancelRequested, Option.isNone_iff_eq_none] at unset
      exact .requested job reads.member selected.2 active unset jobs rfl
    next requested =>
      rw [reads.cancelRequested] at requested
      exact .nothing job reads.member selected.2 (.inr ⟨active, by simpa [Option.isSome_iff_ne_none] using requested⟩)
        (unchanged ran).symm
  | succeeded | failed | cancelled =>
    simp only [stage] at ran
    exact .nothing job reads.member selected.2 (.inl (by rw [← status, stage]; rfl)) (unchanged ran).symm

theorem Cancels.moves (cancels : Cancels db db' jobExternalID record) : Moves policies (lifecycle db) (lifecycle db') := by
  cases cancels with
  | closed job member named queued jobs closes emits frame told =>
    have rows : lifecycle db' = { lifecycle db with jobs := db'.jobs, outbox := db'.outbox } := congrArg lifecycle frame
    rw [rows]
    exact .single (.close closes jobs (.emits rfl emits))
  | requested job member named running unset jobs frame =>
    have rows : lifecycle db' = { lifecycle db with jobs := db'.jobs } := congrArg lifecycle frame
    rw [rows]
    exact .single (.requestCancel _ running unset jobs)
  | nothing job member named settled same =>
    rw [same]
    exact .refl

private theorem submittedJob_named (prepared : Prepared repository tenantExternalID idempotencyKey request submission)
    (tenantID bundleID sourceID jobID : Nat) (callbackID : Option Nat) (now : Time) :
    Named (submittedJob submission tenantID bundleID sourceID jobID callbackID now) := by
  have reference : ((submittedJob submission tenantID bundleID sourceID jobID callbackID now).clientReference.getD []) =
      request.clientReference := by
    simp only [submittedJob, prepared.request]
    cases request.clientReference <;> rfl
  refine ⟨prepared.jobExternalID, ?_⟩
  rw [reference]
  exact canonicalJobRequestHash_ok prepared.requestHash

theorem Submits.moves {assigned : AssignedIDs} {tenant : TenantRow} {bundleID : Nat} {callbackID : Option Nat}
    {result : SubmitJobResult}
    (submits : Submits repository submission assigned db db' tenant policy bundleID callbackID result)
    (prepared : Prepared repository tenantExternalID idempotencyKey request submission) :
    Moves policies (lifecycle db) (lifecycle db') := by
  rw [submits.written]
  exact .single (.enqueue _ ⟨submittedJob_named prepared .., rfl, rfl, ⟨rfl, rfl, rfl⟩, rfl, rfl, rfl⟩ submits.freshJob)

end Settlement

end JudgingServer.Proofs
