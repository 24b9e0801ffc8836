import JudgingServer.Proofs.LeaseFencing

/-! The transactional outbox: a job with a callback gets its event in the transaction
that ends it, and no other row is ever added. -/

namespace JudgingServer.Proofs
open Go External Library Table Transaction

variable {added : List OutboxRow}

def eventsOf (outbox : List OutboxRow) (jobID : Nat) : List OutboxRow := outbox.filter fun row => row.jobID = jobID

theorem mem_eventsOf : row ∈ eventsOf outbox jobID ↔ row ∈ outbox ∧ row.jobID = jobID := by
  simp [eventsOf]

/-- The job has ended and its callback is to be told. -/
def notifies (job : JobRow) : Bool := job.status.isTerminal && job.callbackID.isSome

/-- The events a job should have. -/
inductive Told (job : JobRow) : List OutboxRow → Prop where
  | never (quiet : notifies job = false) : Told job []
  | once (row : OutboxRow) (payload : TerminalWebhookPayload) (ended : notifies job = true)
      (announces : Announces job row payload) : Told job [row]

structure Exact (life : Lifecycle) : Prop extends Keys life where
  owned : ∀ row ∈ life.outbox, ∃ job ∈ life.jobs, job.id = row.jobID
  told : ∀ job ∈ life.jobs, Told job (eventsOf life.outbox job.id)

section Moves

theorem notifies_active (active : job.status.isTerminal = false) : notifies job = false := by
  simp [notifies, active]

theorem Exact.quiet (exact_ : Exact life) (member : job ∈ life.jobs) (active : job.status.isTerminal = false) :
    eventsOf life.outbox job.id = [] := by
  have told := exact_.told job member
  generalize eventsOf life.outbox job.id = events at told
  cases told with
  | never => rfl
  | once row payload ended =>
    rw [notifies_active active] at ended
    cases ended

theorem Publishes.told (publishes : Publishes job outbox outbox') (quiet : eventsOf outbox job.id = []) :
    ∃ added, outbox' = outbox ++ added ∧ Told job added ∧ ∀ row ∈ added, row.jobID = job.id := by
  unfold Publishes at publishes
  split at publishes
  next ended =>
    cases publishes with
    | silent none => exact ⟨[], by simp, .never (by simp [notifies, none]), by simp⟩
    | announced row payload announces fresh =>
      refine ⟨[row], rfl, .once row payload ?_ announces, by simp [announces.jobID]⟩
      simp [notifies, ended, announces.callbackID]
    | repeated row member jobID =>
      have inside := mem_eventsOf.mpr ⟨member, jobID⟩
      rw [quiet] at inside
      cases inside
  next active =>
    rw [publishes]
    exact ⟨[], by simp, .never (notifies_active (by simpa using active)), by simp⟩

private theorem eventsOf_append_same (own : ∀ row ∈ added, row.jobID = jobID) :
    eventsOf (outbox ++ added) jobID = eventsOf outbox jobID ++ added := by
  have all : added.filter (fun row => row.jobID = jobID) = added := List.filter_eq_self.mpr (by simpa using own)
  unfold eventsOf
  rw [List.filter_append, all]

private theorem eventsOf_append_other (own : ∀ row ∈ added, row.jobID = jobID) (different : other ≠ jobID) :
    eventsOf (outbox ++ added) other = eventsOf outbox other := by
  have none : added.filter (fun row => row.jobID = other) = [] := by
    refine List.filter_eq_nil_iff.mpr fun row member => ?_
    simpa [own row member] using different.symm
  unfold eventsOf
  rw [List.filter_append, none, List.append_nil]

theorem Exact.write (exact_ : Exact life) (keys : Keys ⟨jobs', attempts', daily', outbox'⟩)
    (jobs : Replaced job job' life.jobs jobs') (id : job'.id = job.id) (active : job.status.isTerminal = false)
    (publishes : Publishes job' life.outbox outbox') : Exact ⟨jobs', attempts', daily', outbox'⟩ := by
  have quiet : eventsOf life.outbox job'.id = [] := by
    rw [id]
    exact exact_.quiet jobs.mem_left active
  obtain ⟨added, rfl, told, own⟩ := publishes.told quiet
  refine { toKeys := keys, owned := ?_, told := ?_ }
  · intro row member
    rcases List.mem_append.mp member with old | new
    · obtain ⟨other, inside, owner⟩ := exact_.owned row old
      by_cases same : other.id = job.id
      · exact ⟨job', jobs.mem_right, (id.trans same.symm).trans owner⟩
      · exact ⟨other, (jobs.mem_iff exact_.jobs).mpr (.inr ⟨inside, same⟩), owner⟩
    · exact ⟨job', jobs.mem_right, (own row new).symm⟩
  · intro other member
    rcases (jobs.mem_iff exact_.jobs).mp member with rfl | ⟨inside, different⟩
    · rw [eventsOf_append_same own, quiet]
      exact told
    · rw [eventsOf_append_other own (id ▸ different)]
      exact exact_.told other inside

theorem Move.exact (move : Move policies life life') (exact_ : Exact life) : Exact life' := by
  have keys := move.keys exact_.toKeys
  cases move with
  | reschedule p time queued =>
    refine { toKeys := keys, owned := ?_, told := ?_ }
    · intro row member
      obtain ⟨job, inside, owner⟩ := exact_.owned row member
      by_cases picked : p job = true
      · exact ⟨_, mem_update.mpr (.inl ⟨job, inside, picked, rfl⟩), owner⟩
      · exact ⟨job, mem_update.mpr (.inr ⟨inside, by simpa using picked⟩), owner⟩
    · intro job member
      rcases mem_update.mp member with ⟨old, inside, picked, rfl⟩ | ⟨inside, _⟩
      · have active : old.status.isTerminal = false := by rw [queued old inside picked]; rfl
        have none := exact_.quiet inside active
        simp only [none]
        exact .never (notifies_active active)
      · exact exact_.told job inside
  | openDay tenantID day => exact { exact_ with toKeys := keys }
  | enqueue job new fresh =>
    refine { toKeys := keys, owned := ?_, told := ?_ }
    · intro row member
      obtain ⟨other, inside, owner⟩ := exact_.owned row member
      exact ⟨other, List.mem_append_left _ inside, owner⟩
    · intro other member
      rcases List.mem_append.mp member with inside | last
      · exact exact_.told other inside
      · obtain rfl := List.mem_singleton.mp last
        have none : eventsOf life.outbox other.id = [] := by
          refine List.filter_eq_nil_iff.mpr fun row member => ?_
          obtain ⟨owner, inside, id⟩ := exact_.owned row member
          simpa [← id] using (fresh owner inside).1
        simp only [none]
        exact .never (notifies_active (by rw [new.queued]; rfl))
  | start policy active starts fresh jobs rowTenant rowDay daily within =>
    exact exact_.write keys jobs starts.same.id (by rw [starts.queued]; rfl) (.quiet (by rw [starts.running]; rfl))
  | settle settles jobs attempts daily outbox =>
    exact exact_.write keys jobs settles.ends.same.id (by rw [settles.ends.running]; rfl) outbox
  | renew lease running jobID number active jobs attempts =>
    exact exact_.write keys jobs rfl (by rw [running]; rfl) (.quiet (by simp only [running]; rfl))
  | requestCancel time running unset jobs =>
    exact exact_.write keys jobs rfl (by rw [running]; rfl) (.quiet (by simp only [running]; rfl))
  | close closes jobs outbox =>
    exact exact_.write keys jobs closes.same.id (by rw [closes.queued]; rfl) outbox

end Moves

structure EmptyQueue (db : Db) : Prop where
  jobs : db.jobs = []
  attempts : db.attempts = []
  daily : db.daily = []
  outbox : db.outbox = []

theorem EmptyQueue.exact (empty : EmptyQueue db) : Exact (lifecycle db) := by
  obtain ⟨jobs, attempts, daily, outbox⟩ := empty
  have keys : Keys (lifecycle db) := by
    refine ⟨?_, ?_, ?_, ?_⟩ <;> simp [lifecycle, jobs, attempts, daily, Keyed]
  refine { toKeys := keys, owned := ?_, told := ?_ } <;> simp [lifecycle, jobs, outbox]

def sampleCallback : CallbackRow :=
  ⟨1, lit "eeeeeeeeeeeeeeeeeeeeeeeeee", 1, List.replicate 17 0, some (List.replicate 12 0), 1, none⟩

def sampleStart : Db := { sampleDb with sources := [], jobs := [], callbacks := [sampleCallback] }

def sampleRequest : JudgeJobRequest :=
  ⟨sampleBundle.externalID, lit "go", lit "package main", false, sampleCallback.externalID, []⟩

def sampleDraws : SubmissionDraws :=
  ⟨[List.replicate 16 1, List.replicate 16 2], some ⟨[], [], 1, [], 12⟩, some (List.replicate 32 3), some (List.replicate 32 4)⟩

def sampleEvents : List Event :=
  match prepareSubmission sampleRepository sampleDraws sampleTenant.externalID (lit "0123456789abcdef") sampleRequest with
  | .error _ => []
  | .ok submission =>
    [.reserve submission.coordinationKey submission.coordinationToken minute,
     .reserve submission.sourceKey submission.sourceToken minute,
     .submit sampleDraws sampleTenant.externalID (lit "0123456789abcdef") sampleRequest ⟨1, 1⟩,
     .cancel [List.replicate 16 5] sampleTenant.externalID submission.jobExternalID]

/-- A job has a result exactly when it succeeded, and a well-formed failure code exactly when it failed. -/
structure Recorded (job : JobRow) : Prop where
  result : job.result.isSome ↔ job.status = .succeeded
  failed : job.failureCode.isSome ↔ job.status = .failed
  failureCode : ∀ code, job.failureCode = some code → matchesInfrastructureCode code = true

theorem Move.recorded (move : Move policies life life') (recorded : ∀ job ∈ life.jobs, Recorded job) :
    ∀ job ∈ life'.jobs, Recorded job := by
  intro job member
  rcases move.jobs.backward member with new | ⟨old, inside, turn⟩
  · constructor <;> simp [new.result, new.failureCode, new.queued]
  obtain ⟨result, failed, failureCode⟩ := recorded old inside
  cases turn with
  | same | rescheduled | renewed | requested => exact ⟨result, failed, failureCode⟩
  | started _ starts =>
    rw [starts.queued] at result
    constructor <;> simp_all [starts.result, starts.failureCode, starts.running]
  | settled ends =>
    rw [ends.running] at result failed
    cases ends.outcome <;> constructor <;> grind
  | closed closes =>
    rw [closes.queued] at result failed
    constructor <;> grind [closes.result, closes.ended]

/-- From an empty database, in every reachable state the columns of every job agree with its status. -/
theorem jobs_recorded (repository : JobRepository) (events : List Event) {db : Db} (empty : EmptyQueue db) :
    ∀ job ∈ (run (step repository) events db).jobs, Recorded job := by
  have start : Keys (lifecycle db) ∧ ∀ job ∈ (lifecycle db).jobs, Recorded job :=
    ⟨empty.exact.toKeys, by simp [lifecycle, empty.jobs]⟩
  exact (run_lifecycle (fun _ => And.left) (fun _ _ _ move kept => ⟨move.keys kept.1, move.recorded kept.2⟩) events start).2

theorem jobs_recorded_sample :
    (run (step sampleRepository) sampleEvents sampleStart).jobs.map JobRow.status = [.cancelled] ∧
    ∀ job ∈ (run (step sampleRepository) sampleEvents sampleStart).jobs, Recorded job :=
  ⟨by decide +kernel, jobs_recorded sampleRepository sampleEvents ⟨rfl, rfl, rfl, rfl⟩⟩

end JudgingServer.Proofs
