import JudgingServer.Proofs.Lifecycle

/-! Lease fencing: a job has a running attempt exactly while it runs, and that
attempt is the only one that holds the job's worker and lease. -/

namespace JudgingServer.Proofs
open Go External Library Table

def attemptsOf (attempts : List AttemptRow) (jobID : Nat) : List AttemptRow :=
  attempts.filter fun attempt => attempt.jobID = jobID

/-- A job and its own attempts agree on who holds the lease. -/
structure JobFenced (job : JobRow) (own : List AttemptRow) : Prop where
  numbers : own.map AttemptRow.attemptNo = List.range' 1 job.attemptNo
  tenantID : ∀ attempt ∈ own, attempt.tenantID = job.tenantID
  running : ∀ attempt ∈ own, attempt.status = .running ↔ job.status = .running ∧ attempt.attemptNo = job.attemptNo
  held : ∀ attempt ∈ own, attempt.status = .running →
    job.workerID = some attempt.workerID ∧ job.leaseToken = attempt.leaseToken ∧ job.leaseUntil = some attempt.leaseUntil
  leased : job.status = .running →
    0 < job.attemptNo ∧ job.workerID.isSome ∧ job.leaseToken.isSome ∧ job.leaseUntil.isSome
  unleased : job.status ≠ .running → Unleased job
  succeeded : ∀ attempt ∈ own, attempt.status = .succeeded → job.status = .succeeded ∧ attempt.attemptNo = job.attemptNo

structure Fenced (life : Lifecycle) : Prop extends Keys life where
  owned : ∀ attempt ∈ life.attempts, ∃ job ∈ life.jobs, job.id = attempt.jobID
  each : ∀ job ∈ life.jobs, JobFenced job (attemptsOf life.attempts job.id)

theorem mem_attemptsOf : attempt ∈ attemptsOf attempts jobID ↔ attempt ∈ attempts ∧ attempt.jobID = jobID := by
  simp [attemptsOf]

namespace JobFenced

variable (fenced : JobFenced job own)
include fenced

theorem attempt_le (member : attempt ∈ own) : 1 ≤ attempt.attemptNo ∧ attempt.attemptNo ≤ job.attemptNo := by
  have listed : attempt.attemptNo ∈ own.map AttemptRow.attemptNo := List.mem_map_of_mem member
  rw [fenced.numbers, List.mem_range'_1] at listed
  omega

theorem keyed : Keyed AttemptRow.attemptNo own := by
  unfold Keyed
  rw [fenced.numbers]
  exact List.nodup_range'

theorem current (running : job.status = .running) :
    ∃ attempt ∈ own, attempt.status = .running ∧ attempt.attemptNo = job.attemptNo := by
  have listed : job.attemptNo ∈ own.map AttemptRow.attemptNo := by
    have positive := (fenced.leased running).1
    rw [fenced.numbers, List.mem_range'_1]
    omega
  obtain ⟨attempt, member, number⟩ := List.mem_map.mp listed
  exact ⟨attempt, member, (fenced.running attempt member).mpr ⟨running, number⟩, number⟩

theorem frame (tenantID : job'.tenantID = job.tenantID)
    (status : job'.status = job.status) (attemptNo : job'.attemptNo = job.attemptNo) (workerID : job'.workerID = job.workerID)
    (leaseToken : job'.leaseToken = job.leaseToken) (leaseUntil : job'.leaseUntil = job.leaseUntil) : JobFenced job' own := by
  obtain ⟨numbers, tenant, running, held, leased, unleased, succeeded⟩ := fenced
  constructor
  all_goals simp only [tenantID, status, attemptNo, workerID, leaseToken, leaseUntil, Unleased] at *
  all_goals assumption

end JobFenced

theorem JobFenced.new (new : New job) : JobFenced job [] := by
  refine ⟨by simp [new.attemptNo], by simp, by simp, by simp, ?_, fun _ => new.unleased, by simp⟩
  intro running
  rw [new.queued] at running
  cases running

theorem JobFenced.start {job job' : JobRow} {attempt : AttemptRow} {own : List AttemptRow} (fenced : JobFenced job own)
    (starts : Starts job job' attempt) : JobFenced job' (own ++ [attempt]) := by
  have idle : ∀ other ∈ own, other.status ≠ .running := by
    intro other member active
    have running := ((fenced.running other member).mp active).1
    rw [starts.queued] at running
    cases running
  constructor
  case numbers =>
    rw [List.map_append, fenced.numbers, starts.attemptNo, List.range'_1_concat]
    simp [starts.number, Nat.add_comm]
  case tenantID =>
    intro other member
    rcases List.mem_append.mp member with inside | single
    · exact (fenced.tenantID other inside).trans starts.same.tenantID.symm
    · rw [List.mem_singleton.mp single, starts.tenantID, starts.same.tenantID]
  case running =>
    intro other member
    rcases List.mem_append.mp member with inside | single
    · -- Older attempts have smaller numbers and none of them runs.
      have bound := (fenced.attempt_le inside).2
      refine ⟨fun active => absurd active (idle other inside), fun current => ?_⟩
      have number := current.2
      rw [starts.attemptNo] at number
      omega
    · rw [List.mem_singleton.mp single, starts.number, starts.attemptNo]
      simp [starts.active, starts.running]
  case held =>
    intro other member active
    rcases List.mem_append.mp member with inside | single
    · exact absurd active (idle other inside)
    · rw [List.mem_singleton.mp single]
      exact ⟨starts.workerID, starts.leaseToken, starts.leaseUntil⟩
  case leased =>
    intro _
    rw [starts.workerID, starts.leaseToken, starts.leaseUntil, starts.attemptNo]
    exact ⟨Nat.succ_pos _, rfl, starts.leased, rfl⟩
  case unleased => exact fun idle => absurd starts.running idle
  case succeeded =>
    intro other member ended
    rcases List.mem_append.mp member with inside | single
    · have finished := (fenced.succeeded other inside ended).1
      rw [starts.queued] at finished
      cases finished
    · rw [List.mem_singleton.mp single, starts.active] at ended
      cases ended

theorem JobFenced.settle {job job' : JobRow} {attempt attempt' : AttemptRow} {row row' : DailyRow} {consumed : Int}
    {own own' : List AttemptRow} (fenced : JobFenced job own)
    (settles : Settles job job' attempt attempt' row row' consumed) (replaced : Replaced attempt attempt' own own') :
    JobFenced job' own' := by
  have same := settles.ends.same
  have number' : attempt'.attemptNo = attempt.attemptNo := congrArg Prod.snd settles.key
  have stopped : job'.status ≠ .running := by
    cases settles.ends.outcome with
    | requeued status | succeeded status | failed status | cancelled status => rw [status]; simp
  have old : ∀ other ∈ own', other = attempt' ∨ (other ∈ own ∧ other.attemptNo ≠ job.attemptNo) := by
    intro other member
    rw [← settles.number]
    exact (replaced.mem_iff fenced.keyed).mp member
  have idle : ∀ other ∈ own', other.status ≠ .running := by
    intro other member active
    rcases old other member with rfl | ⟨inside, different⟩
    · exact settles.settled active
    · exact different ((fenced.running other inside).mp active).2
  constructor
  case numbers => rw [settles.ends.attemptNo, ← fenced.numbers, replaced.map_eq number']
  case tenantID =>
    intro other member
    rcases old other member with rfl | ⟨inside, _⟩
    · rw [settles.tenantID, fenced.tenantID attempt replaced.mem_left, same.tenantID]
    · rw [fenced.tenantID other inside, same.tenantID]
  case running =>
    intro other member
    exact ⟨fun active => absurd active (idle other member), fun current => absurd current.1 stopped⟩
  case held => exact fun other member active => absurd active (idle other member)
  case leased => exact fun running => absurd running stopped
  case unleased => exact fun _ => settles.ends.unleased
  case succeeded =>
    intro other member ended
    rcases old other member with rfl | ⟨inside, _⟩
    · exact ⟨settles.succeeded.mp ended, by rw [number', settles.number, settles.ends.attemptNo]⟩
    · have finished := (fenced.succeeded other inside ended).1
      rw [settles.ends.running] at finished
      cases finished

theorem JobFenced.renew {job : JobRow} {attempt : AttemptRow} {own own' : List AttemptRow} {lease : Time}
    (fenced : JobFenced job own) (running : job.status = .running)
    (number : attempt.attemptNo = job.attemptNo) (replaced : Replaced attempt { attempt with leaseUntil := lease } own own') :
    JobFenced { job with leaseUntil := some lease } own' := by
  have old : ∀ other ∈ own', other = { attempt with leaseUntil := lease } ∨ (other ∈ own ∧ other.attemptNo ≠ job.attemptNo) := by
    intro other member
    rw [← number]
    exact (replaced.mem_iff fenced.keyed).mp member
  have member := replaced.mem_left
  constructor
  case numbers => exact (replaced.map_eq rfl).trans fenced.numbers
  case tenantID =>
    intro other present
    rcases old other present with rfl | ⟨inside, _⟩
    · exact fenced.tenantID attempt member
    · exact fenced.tenantID other inside
  case running =>
    intro other present
    rcases old other present with rfl | ⟨inside, _⟩
    · exact fenced.running attempt member
    · exact fenced.running other inside
  case held =>
    intro other present active
    rcases old other present with rfl | ⟨inside, different⟩
    · obtain ⟨worker, token, _⟩ := fenced.held attempt member active
      exact ⟨worker, token, rfl⟩
    · exact absurd ((fenced.running other inside).mp active).2 different
  case leased =>
    intro _
    obtain ⟨positive, worker, token, _⟩ := fenced.leased running
    exact ⟨positive, worker, token, rfl⟩
  case unleased => exact fun idle => absurd running idle
  case succeeded =>
    intro other present ended
    rcases old other present with rfl | ⟨inside, _⟩
    · exact fenced.succeeded attempt member ended
    · exact fenced.succeeded other inside ended

theorem JobFenced.close {job job' : JobRow} {own : List AttemptRow} (fenced : JobFenced job own)
    (closes : Closes job job') : JobFenced job' own := by
  have stopped : job'.status ≠ .running := by
    rcases closes.ended with ⟨status, _⟩ | ⟨status, _⟩ <;> rw [status] <;> simp
  have idle : ∀ attempt ∈ own, attempt.status ≠ .running := by
    intro attempt member active
    have running := ((fenced.running attempt member).mp active).1
    rw [closes.queued] at running
    cases running
  constructor
  case numbers => rw [closes.attemptNo, fenced.numbers]
  case tenantID => exact fun attempt member => (fenced.tenantID attempt member).trans closes.same.tenantID.symm
  case running => exact fun attempt member =>
    ⟨fun active => absurd active (idle attempt member), fun current => absurd current.1 stopped⟩
  case held => exact fun attempt member active => absurd active (idle attempt member)
  case leased => exact fun running => absurd running stopped
  case unleased => exact fun _ => closes.unleased
  case succeeded =>
    intro attempt member ended
    have finished := (fenced.succeeded attempt member ended).1
    rw [closes.queued] at finished
    cases finished

private theorem Fenced.replace (fenced : Fenced life) (keys : Keys life') (jobs : Replaced job job' life.jobs life'.jobs)
    (id : job'.id = job.id) (inside : ∀ attempt ∈ life'.attempts, attempt.jobID = job.id ∨ attempt ∈ life.attempts)
    (others : ∀ jobID, jobID ≠ job.id → attemptsOf life'.attempts jobID = attemptsOf life.attempts jobID)
    (own : JobFenced job' (attemptsOf life'.attempts job.id)) : Fenced life' := by
  refine { toKeys := keys, owned := ?_, each := ?_ }
  · intro attempt member
    by_cases mine : attempt.jobID = job.id
    · exact ⟨job', jobs.mem_right, id.trans mine.symm⟩
    · obtain ⟨owner, present, same⟩ := fenced.owned attempt ((inside attempt member).resolve_left mine)
      refine ⟨owner, (jobs.mem_iff fenced.jobs).mpr (.inr ⟨present, ?_⟩), same⟩
      rwa [same]
  · intro other member
    rcases (jobs.mem_iff fenced.jobs).mp member with rfl | ⟨present, different⟩
    · rwa [id]
    · rw [others other.id different]
      exact fenced.each other present

section Attempts

private theorem attemptsOf_other (replaced : Replaced attempt attempt' attempts attempts')
    (key : attemptKey attempt' = attemptKey attempt) (own : attempt.jobID = jobID) {other : Nat} (different : other ≠ jobID) :
    attemptsOf attempts' other = attemptsOf attempts other := by
  have same : attempt'.jobID = attempt.jobID := congrArg Prod.fst key
  exact replaced.filter_of_not (by simpa [own] using different.symm) (by simpa [same, own] using different.symm)

private theorem attemptsOf_own (replaced : Replaced attempt attempt' attempts attempts')
    (key : attemptKey attempt' = attemptKey attempt) (own : attempt.jobID = jobID) :
    Replaced attempt attempt' (attemptsOf attempts jobID) (attemptsOf attempts' jobID) := by
  have same : attempt'.jobID = attempt.jobID := congrArg Prod.fst key
  exact replaced.filter (by simp [own]) (by simp [same, own])

private theorem attempts_inside (replaced : Replaced attempt attempt' attempts attempts')
    (key : attemptKey attempt' = attemptKey attempt) (own : attempt.jobID = jobID) :
    ∀ other ∈ attempts', other.jobID = jobID ∨ other ∈ attempts := by
  intro other member
  rcases replaced.subset member with rfl | inside
  · exact .inl ((congrArg Prod.fst key).trans own)
  · exact .inr inside

end Attempts

theorem Move.fenced (move : Move policies life life') (fenced : Fenced life) : Fenced life' := by
  have keys := move.keys fenced.toKeys
  cases move with
  | reschedule p time queued =>
    refine { toKeys := keys, owned := ?_, each := ?_ }
    · intro attempt member
      obtain ⟨job, inside, id⟩ := fenced.owned attempt member
      by_cases holds : p job = true
      · exact ⟨_, mem_update.mpr (.inl ⟨job, inside, holds, rfl⟩), id⟩
      · exact ⟨job, mem_update.mpr (.inr ⟨inside, by simpa using holds⟩), id⟩
    · intro job member
      rcases mem_update.mp member with ⟨old, inside, _, rfl⟩ | ⟨inside, _⟩
      · exact (fenced.each old inside).frame rfl rfl rfl rfl rfl rfl
      · exact fenced.each job inside
  | openDay tenantID day => exact { toKeys := keys, owned := fenced.owned, each := fenced.each }
  | enqueue job new fresh =>
    refine { toKeys := keys, owned := ?_, each := ?_ }
    · intro attempt member
      obtain ⟨owner, inside, id⟩ := fenced.owned attempt member
      exact ⟨owner, List.mem_append_left _ inside, id⟩
    · intro other member
      rcases List.mem_append.mp member with inside | single
      · exact fenced.each other inside
      · have empty : attemptsOf life.attempts job.id = [] := by
          apply List.filter_eq_nil_iff.mpr
          intro attempt present
          obtain ⟨owner, inside, id⟩ := fenced.owned attempt present
          simpa using fun same => (fresh owner inside).1 (id.trans same)
        rw [List.mem_singleton.mp single, empty]
        exact JobFenced.new new
  | @start job job' attempt jobs' row daily' policy active starts fresh jobs rowTenant rowDay daily within =>
    refine fenced.replace keys jobs starts.same.id ?_ ?_ ?_
    · intro other member
      rcases List.mem_append.mp member with inside | single
      · exact .inr inside
      · exact .inl (List.mem_singleton.mp single ▸ starts.jobID)
    · intro jobID different
      simp [attemptsOf, starts.jobID, different.symm]
    · have own : attemptsOf (life.attempts ++ [attempt]) job.id = attemptsOf life.attempts job.id ++ [attempt] := by
        simp [attemptsOf, starts.jobID]
      rw [own]
      exact (fenced.each job jobs.mem_left).start starts
  | @settle job job' attempt attempt' row row' consumed jobs' attempts' daily' outbox' settles jobs attempts daily outbox =>
    refine fenced.replace keys jobs settles.ends.same.id ?_ ?_ ?_
    · exact attempts_inside attempts settles.key settles.jobID
    · exact fun _ different => attemptsOf_other attempts settles.key settles.jobID different
    · exact (fenced.each job jobs.mem_left).settle settles (attemptsOf_own attempts settles.key settles.jobID)
  | @renew job jobs' attempt attempts' lease running jobID number active jobs attempts =>
    refine fenced.replace keys jobs rfl ?_ ?_ ?_
    · exact attempts_inside attempts rfl jobID
    · exact fun _ different => attemptsOf_other attempts rfl jobID different
    · exact (fenced.each job jobs.mem_left).renew running number (attemptsOf_own attempts rfl jobID)
  | @requestCancel job jobs' time running unset jobs =>
    refine fenced.replace keys jobs rfl (fun _ member => .inr member) (fun _ _ => rfl) ?_
    exact (fenced.each job jobs.mem_left).frame rfl rfl rfl rfl rfl rfl
  | @close job job' jobs' outbox' closes jobs outbox =>
    refine fenced.replace keys jobs closes.same.id (fun _ member => .inr member) (fun _ _ => rfl) ?_
    exact (fenced.each job jobs.mem_left).close closes

theorem JobTurn.terminal (turn : JobTurn policies job job') (ended : job.status.isTerminal = true) : job' = job := by
  cases turn with
  | same => rfl
  | rescheduled _ status | renewed _ status | requested _ status => simp [status, JobStatus.isTerminal] at ended
  | started _ starts => simp [starts.queued, JobStatus.isTerminal] at ended
  | settled ends => simp [ends.running, JobStatus.isTerminal] at ended
  | closed closes => simp [closes.queued, JobStatus.isTerminal] at ended

/-- A job that has ended is never written again. -/
theorem Move.terminal_stays (move : Move policies life life') (member : job ∈ life.jobs)
    (ended : job.status.isTerminal = true) : job ∈ life'.jobs := by
  obtain ⟨job', inside, turn⟩ := move.jobs.forward member
  rwa [turn.terminal ended] at inside

theorem Moves.terminal_stays (moves : Moves policies life life') (member : job ∈ life.jobs) (ended : job.status.isTerminal = true) :
    job ∈ life'.jobs :=
  moves.invariant (fun _ _ move held => move.terminal_stays held ended) member

end JudgingServer.Proofs
