import JudgingServer.Proofs.LeaseFencing
import JudgingServer.Worker.Runner

/-! Cancellation is final: a job that was asked to stop is not started again, stores
no result and ends as cancelled, or as failed with its tenant. -/

namespace JudgingServer.Proofs
open Go External Library Table Transaction Worker

variable {next : Db} {numbers : List Nat} {jobExternalID : GoString} {job origin : JobRow}

variable {policies : Nat → TenantPolicy → Prop} {life life' : Lifecycle}

def attemptNumbers (attempts : List AttemptRow) (jobID : Nat) : List Nat := (attemptsOf attempts jobID).map AttemptRow.attemptNo

private theorem attemptNumbers_replaced {attempt attempt' : AttemptRow} {attempts attempts' : List AttemptRow}
    (replaced : Replaced attempt attempt' attempts attempts') (key : attemptKey attempt' = attemptKey attempt) (jobID : Nat) :
    attemptNumbers attempts' jobID = attemptNumbers attempts jobID := by
  obtain ⟨sameJob, sameNumber⟩ := Prod.mk.inj key
  unfold attemptNumbers attemptsOf
  by_cases own : attempt.jobID = jobID
  · exact (replaced.filter (by simpa using own) (by simpa [sameJob] using own)).map_eq sameNumber
  · rw [replaced.filter_of_not (by simpa using own) (by simpa [sameJob] using own)]

private theorem Move.attemptNumbers (move : Move policies life life') (keys : Keys life) (member : job ∈ life.jobs)
    (idle : job.status ≠ .queued) : attemptNumbers life'.attempts job.id = attemptNumbers life.attempts job.id := by
  cases move with
  | reschedule | openDay | enqueue | requestCancel | close => rfl
  | @start other _ attempt _ _ _ policy active starts fresh jobs =>
    have apart : attempt.jobID ≠ job.id := by
      intro same
      rw [starts.jobID] at same
      rw [keys.jobs.eq jobs.mem_left member same] at starts
      exact idle starts.queued
    simp [Proofs.attemptNumbers, attemptsOf, List.filter_append, apart]
  | settle settles jobs attempts => exact attemptNumbers_replaced attempts settles.key job.id
  | renew lease running jobID number active jobs attempts => exact attemptNumbers_replaced attempts rfl job.id

/-! ### Jobs that were asked to stop -/

/-- What is left of a job whose cancellation was requested while it ran. -/
structure Stopped (origin job : JobRow) : Prop where
  id : job.id = origin.id
  externalID : job.externalID = origin.externalID
  cancelRequestedAt : job.cancelRequestedAt = origin.cancelRequestedAt
  result : job.result = none ∨ job.result = origin.result
  status : job.status = .running ∨ Yields job

structure Stopping (origin : JobRow) (numbers : List Nat) (life : Lifecycle) : Prop extends Keys life where
  row : ∃ job ∈ life.jobs, Stopped origin job
  tried : attemptNumbers life.attempts origin.id = numbers

theorem Yields.terminal (yields : Yields job) : job.status.isTerminal = true := by
  obtain cancelled | ⟨failed, _⟩ := yields
  · rw [cancelled]
    rfl
  · rw [failed]
    rfl

theorem Stopped.idle (stopped : Stopped origin job) : job.status ≠ .queued := by
  obtain running | yields := stopped.status
  · rw [running]
    decide
  · intro queued
    have terminal := yields.terminal
    rw [queued] at terminal
    cases terminal

theorem Move.stopped (move : Move policies life life') (member : job ∈ life.jobs)
    (requested : origin.cancelRequestedAt.isSome = true) (stopped : Stopped origin job) :
    ∃ job' ∈ life'.jobs, Stopped origin job' := by
  obtain ⟨job', inside, turn⟩ := move.jobs.forward member
  refine ⟨job', inside, ?_⟩
  cases turn with
  | same => exact stopped
  | rescheduled time queued => exact absurd queued stopped.idle
  | started _ starts => exact absurd starts.queued stopped.idle
  | settled ends =>
    obtain ⟨yields, result⟩ := ends.yields (stopped.cancelRequestedAt ▸ requested)
    refine ⟨ends.same.id.trans stopped.id, ends.same.externalID.trans stopped.externalID,
      ends.cancelRequestedAt.trans stopped.cancelRequestedAt, ?_, .inr yields⟩
    obtain none | kept := result
    · exact .inl none
    · rw [kept]
      exact stopped.result
  | renewed lease running => exact ⟨stopped.id, stopped.externalID, stopped.cancelRequestedAt, stopped.result, .inl running⟩
  | requested time running unset =>
    rw [← stopped.cancelRequestedAt, unset] at requested
    cases requested
  | closed closes => exact absurd closes.queued stopped.idle

private theorem Move.stopping (requested : origin.cancelRequestedAt.isSome = true) (move : Move policies life life')
    (stopping : Stopping origin numbers life) : Stopping origin numbers life' := by
  obtain ⟨job, member, stopped⟩ := stopping.row
  refine { toKeys := move.keys stopping.toKeys, row := move.stopped member requested stopped, tried := ?_ }
  have same := move.attemptNumbers stopping.toKeys member stopped.idle
  rw [stopped.id] at same
  exact same.trans stopping.tried

/-- A job that has ended is not written and not started again. -/
structure Ended (origin : JobRow) (numbers : List Nat) (life : Lifecycle) : Prop extends Keys life where
  row : origin ∈ life.jobs
  tried : attemptNumbers life.attempts origin.id = numbers

theorem Move.ended (terminal : origin.status.isTerminal = true) (move : Move policies life life')
    (ended : Ended origin numbers life) : Ended origin numbers life' := by
  have idle : origin.status ≠ .queued := by
    intro queued
    rw [queued] at terminal
    cases terminal
  exact { toKeys := move.keys ended.toKeys
          row := move.terminal_stays ended.row terminal
          tried := (move.attemptNumbers ended.toKeys ended.row idle).trans ended.tried }

variable (events : List Event)

section Runs

variable {repository : JobRepository} {db : Db}

private theorem run_stopping (keys : Keys (lifecycle db)) (member : job ∈ db.jobs)
    (running : job.status = .running) (requested : job.cancelRequestedAt.isSome = true) :
    Stopping job (attemptNumbers db.attempts job.id) (lifecycle (run (step repository) events db)) := by
  have start : Stopping job (attemptNumbers db.attempts job.id) (lifecycle db) :=
    { toKeys := keys, row := ⟨job, member, rfl, rfl, rfl, .inr rfl, .inl running⟩, tried := rfl }
  exact run_lifecycle (fun _ => Stopping.toKeys) (fun _ _ _ => Move.stopping requested) events start

private theorem run_ended (keys : Keys (lifecycle db)) (member : job ∈ db.jobs) (terminal : job.status.isTerminal = true) :
    Ended job (attemptNumbers db.attempts job.id) (lifecycle (run (step repository) events db)) := by
  have start : Ended job (attemptNumbers db.attempts job.id) (lifecycle db) := { toKeys := keys, row := member, tried := rfl }
  exact run_lifecycle (fun _ => Ended.toKeys) (fun _ _ _ => Move.ended terminal) events start

/-! ### Cancelling again -/

private def Halted (jobExternalID : GoString) (life : Lifecycle) : Prop :=
  ∃ job ∈ life.jobs, job.externalID = jobExternalID ∧
    (job.status.isTerminal = true ∨ job.status = .running ∧ job.cancelRequestedAt.isSome = true)

private theorem Cancels.halted (cancels : Cancels db next jobExternalID record) : Halted jobExternalID (lifecycle next) := by
  cases cancels with
  | closed job member named queued jobs => exact ⟨cancelQueued db.now job, jobs.mem_right, named, .inl rfl⟩
  | requested job member named running unset jobs => exact ⟨_, jobs.mem_right, named, .inr ⟨running, rfl⟩⟩
  | nothing job member named settled same =>
    rw [same]
    exact ⟨job, member, named, settled⟩

private theorem run_halted (keys : Keys (lifecycle db)) (halted : Halted jobExternalID (lifecycle db)) :
    Keys (lifecycle (run (step repository) events db)) ∧ Halted jobExternalID (lifecycle (run (step repository) events db)) := by
  obtain ⟨job, member, named, terminal | ⟨running, requested⟩⟩ := halted
  · have ended : Ended job _ (lifecycle (run (step repository) events db)) := run_ended events keys member terminal
    exact ⟨ended.toKeys, job, ended.row, named, .inl terminal⟩
  · have stopping : Stopping job _ (lifecycle (run (step repository) events db)) := run_stopping events keys member running requested
    obtain ⟨row, inside, stopped⟩ := stopping.row
    refine ⟨stopping.toKeys, row, inside, stopped.externalID.trans named, ?_⟩
    obtain still | yields := stopped.status
    · exact .inr ⟨still, stopped.cancelRequestedAt ▸ requested⟩
    · exact .inl yields.terminal

private theorem Halted.cancel_again (halted : Halted jobExternalID (lifecycle db)) (keys : Keys (lifecycle db))
    (entropy : List Bytes) :
    step repository (.cancel entropy tenantExternalID jobExternalID) db = db := by
  obtain ⟨row, inside, named, settled⟩ := halted
  have unique : ∀ {job : JobRow}, job ∈ db.jobs → job.externalID = jobExternalID → job = row :=
    fun member same => keys.externalIDs.eq member inside (same.trans named.symm)
  obtain ⟨record, next, ran, committed⟩ | ⟨error, ran, rolledBack⟩ :=
    commit_cases (cancel repository entropy tenantExternalID jobExternalID) db
  · unfold step perform
    simp only [committed, settleOutcome]
    cases cancel_ok keys ran with
    | closed job member named queued jobs =>
      rw [unique member named] at queued
      rw [queued] at settled
      obtain terminal | ⟨running, _⟩ := settled
      · cases terminal
      · cases running
    | requested job member named running unset jobs =>
      rw [unique member named] at running unset
      rw [running, unset] at settled
      obtain terminal | ⟨_, requested⟩ := settled
      · cases terminal
      · cases requested
    | nothing job member named settled same => exact same
  · unfold step perform
    simp only [rolledBack, settleOutcome]

private theorem claimCancelled_ok (told : claimCancelled claim db = .ok (true, next)) :
    ∃ job ∈ db.jobs, job.id = claim.job.internalID ∧ job.status = .running ∧ job.cancelRequestedAt.isSome = true := by
  obtain ⟨-, told⟩ := after_ensure told
  obtain ⟨job, found, told⟩ := after_require told
  obtain ⟨requested, -⟩ := pure_ok told
  have held := heldBy_iff.mp (List.find?_some found)
  exact ⟨job, List.mem_of_find?_eq_some found, held.1, held.2.1, requested⟩

private theorem completeCancellation_step (entropy : List Bytes) (claim : WorkerJobClaim) :
    (completeCancellation repository entropy claim db).2 = step repository (.complete entropy claim cancellationPlaceholder) db := by
  simp only [completeCancellation, step, perform]
  generalize (complete repository entropy claim cancellationPlaceholder).commit db = outcome
  obtain ⟨error | _, _⟩ := outcome <;> rfl

end Runs

/-- Cancellation is final, from every database with unique keys. A running job that was
asked to stop keeps the request, gets no new attempt and no result, and leaves
`RUNNING` only as `Yields` allows; the placeholder of a worker that was told of the
cancellation is no exception. A queued job is cancelled at once and for good, and
after a cancellation every other one changes nothing. -/
theorem cancellation_final (repository : JobRepository) (events : List Event) {db : Db} (keys : Keys (lifecycle db)) :
    (∀ job ∈ db.jobs, job.status = .running → job.cancelRequestedAt.isSome = true →
      Stopping job (attemptNumbers db.attempts job.id) (lifecycle (run (step repository) events db))) ∧
    (∀ claim next entropy, claimCancelled claim db = .ok (true, next) → ∃ job ∈ db.jobs, job.id = claim.job.internalID ∧
      Stopping job (attemptNumbers db.attempts job.id)
        (lifecycle (completeCancellation repository entropy claim (run (step repository) events db)).2)) ∧
    ∀ entropy tenantExternalID jobExternalID record next,
      cancel repository entropy tenantExternalID jobExternalID db = .ok (record, next) →
      (∀ job ∈ db.jobs, job.externalID = jobExternalID → job.status = .queued → record.status = .cancelled ∧
        ∃ job' ∈ next.jobs, job'.id = job.id ∧ job'.status = .cancelled ∧
          Ended job' (attemptNumbers db.attempts job.id) (lifecycle (run (step repository) events next))) ∧
      ∀ again, step repository (.cancel again tenantExternalID jobExternalID) (run (step repository) events next) =
        run (step repository) events next := by
  refine ⟨fun job member running requested => run_stopping events keys member running requested, ?_, ?_⟩
  · intro claim next entropy told
    obtain ⟨job, member, id, running, requested⟩ := claimCancelled_ok told
    refine ⟨job, member, id, ?_⟩
    have stopping : Stopping job _ (lifecycle (run (step repository) (events ++ [.complete entropy claim cancellationPlaceholder]) db)) :=
      run_stopping _ keys member running requested
    rw [run_append] at stopping
    rw [completeCancellation_step]
    exact stopping
  · intro entropy tenantExternalID jobExternalID record next committed
    have cancels := cancel_ok keys committed
    have moved : Moves (fun _ _ => False) (lifecycle db) (lifecycle next) := cancels.moves
    have kept := moved.keys keys
    refine ⟨fun job member named queued => ?_, fun again => ?_⟩
    · have unique : ∀ {other : JobRow}, other ∈ db.jobs → other.externalID = jobExternalID → other = job :=
        fun inside same => keys.externalIDs.eq inside member (same.trans named.symm)
      cases cancels with
      | closed other inside same waiting jobs closes emits frame told =>
        obtain rfl := unique inside same
        have ended : Ended (cancelQueued db.now other) _ (lifecycle (run (step repository) events next)) :=
          run_ended events kept jobs.mem_right rfl
        have attempts : next.attempts = db.attempts := by rw [frame]
        rw [attempts] at ended
        exact ⟨told, _, jobs.mem_right, rfl, rfl, ended⟩
      | requested other inside same running =>
        rw [unique inside same, queued] at running
        cases running
      | nothing other inside same settled =>
        rw [unique inside same, queued] at settled
        obtain terminal | ⟨running, _⟩ := settled
        · cases terminal
        · cases running
    · obtain ⟨keys', halted⟩ := run_halted events kept cancels.halted
      exact halted.cancel_again keys' again

def stoppingDb : Db :=
  run (step sampleRepository) [sampleClaim, .cancel [] sampleTenant.externalID sampleJob.externalID] sampleDb

theorem cancellation_final_sample :
    ∃ job ∈ stoppingDb.jobs, job.status = .running ∧ job.cancelRequestedAt.isSome = true ∧
      Stopping job (attemptNumbers stoppingDb.attempts job.id) (lifecycle (run (step sampleRepository) [sampleClaim] stoppingDb)) := by
  have keys : Keys (lifecycle stoppingDb) := run_lifecycle (fun _ => id) (fun _ _ _ => Move.keys) _ sampleDb_untouched.keys
  have stopping : ∃ job ∈ stoppingDb.jobs, job.status = .running ∧ job.cancelRequestedAt.isSome = true := by decide +kernel
  obtain ⟨job, member, running, requested⟩ := stopping
  have final := cancellation_final sampleRepository [sampleClaim] keys
  exact ⟨job, member, running, requested, final.1 job member running requested⟩

end JudgingServer.Proofs
