import JudgingServer.Proofs.JobRuns

/-! What lease fencing means for the tables: who holds a job, and what a claim can
still do once it no longer holds one. -/

namespace JudgingServer.Proofs
open Go External Library Table Transaction

/-- A queue of jobs that no worker has touched. -/
structure Untouched (db : Db) : Prop where
  keys : Keys (lifecycle db)
  queued : ∀ job ∈ db.jobs, job.status = .queued ∧ job.attemptNo = 0 ∧ Unleased job
  attempts : db.attempts = []

theorem Untouched.fenced (untouched : Untouched db) : Fenced (lifecycle db) := by
  refine { toKeys := untouched.keys, owned := ?_, each := ?_ }
  · intro attempt member
    simp [lifecycle, untouched.attempts] at member
  · intro job member
    obtain ⟨queued, number, unleased⟩ := untouched.queued job member
    have none : attemptsOf (lifecycle db).attempts job.id = [] := by simp [lifecycle, untouched.attempts, attemptsOf]
    rw [none]
    refine ⟨by simp [number], by simp, by simp, by simp, ?_, fun _ => unleased, by simp⟩
    intro running
    rw [queued] at running
    cases running

/-- A claim that holds its job no longer: a later attempt was started, its own attempt
was settled, or its lease ran out. -/
inductive Lapsed (db : Db) (claim : WorkerJobClaim) : Prop where
  | superseded (job : JobRow) (member : job ∈ db.jobs) (id : job.id = claim.job.internalID)
      (later : claim.attemptNo < job.attemptNo)
  | finished (attempt : AttemptRow) (member : attempt ∈ db.attempts) (jobID : attempt.jobID = claim.job.internalID)
      (number : attempt.attemptNo = claim.attemptNo) (settled : attempt.status ≠ .running)
  | expired (attempt : AttemptRow) (member : attempt ∈ db.attempts) (jobID : attempt.jobID = claim.job.internalID)
      (number : attempt.attemptNo = claim.attemptNo) (late : attempt.leaseUntil ≤ db.now)

section Claims

private theorem Lapsed.not_held (lapsed : Lapsed db claim) (fenced : Fenced (lifecycle db)) (member : job ∈ db.jobs) :
    job.heldBy claim db.now = false := by
  by_contra held
  obtain ⟨id, running, number, worker, token, lease, leased, early⟩ := heldBy_iff.mp (by simpa using held)
  have each := fenced.each job member
  cases lapsed with
  | superseded other inside same later =>
    rw [fenced.jobs.eq inside member (same.trans id.symm)] at later
    omega
  | finished attempt inside jobID attemptNo settled =>
    have own := mem_attemptsOf.mpr ⟨inside, jobID.trans id.symm⟩
    exact settled ((each.running attempt own).mpr ⟨running, attemptNo.trans number.symm⟩)
  | expired attempt inside jobID attemptNo late =>
    have own := mem_attemptsOf.mpr ⟨inside, jobID.trans id.symm⟩
    have active := (each.running attempt own).mpr ⟨running, attemptNo.trans number.symm⟩
    rw [(each.held attempt own active).2.2, Option.some.injEq] at leased
    exact (Nat.not_le_of_lt early) (leased ▸ late)

/-- The worker's operations on its claim. -/
inductive WorkerOperation (claim : WorkerJobClaim) : Event → Prop where
  | heartbeat (lease : Duration) : WorkerOperation claim (.heartbeat claim lease)
  | complete (entropy : List Bytes) (result : DurableJobResult) : WorkerOperation claim (.complete entropy claim result)
  | failInfrastructure (entropy : List Bytes) (failure : InfrastructureFailure) :
      WorkerOperation claim (.failInfrastructure entropy claim failure)

private theorem commit_unchanged {ε α : Type} {tx : Transaction Db ε α} {report : ε → Option RepositoryError}
    (rejected : ∀ value next, tx db ≠ .ok (value, next)) : (settleOutcome report (tx.commit db)).2 = db := by
  obtain ⟨value, next, run, _⟩ | ⟨error, _, rolledBack⟩ := commit_cases tx db
  · exact (rejected value next run).elim
  · rw [rolledBack]
    rfl

theorem WorkerOperation.unheld (operation : WorkerOperation claim event) (keys : Keys (lifecycle db))
    (unheld : ∀ job ∈ db.jobs, job.heldBy claim db.now = false) (repository : JobRepository) :
    step repository event db = db := by
  have absurd {job : JobRow} (member : job ∈ db.jobs) (held : job.heldBy claim db.now = true) : False := by
    rw [unheld job member] at held
    cases held
  cases operation with
  | heartbeat lease =>
    refine commit_unchanged fun _ _ ran => ?_
    obtain ⟨_, _, held, -, -, -, jobs, -⟩ := heartbeat_ok keys ran
    exact absurd jobs.mem_left held
  | complete entropy result =>
    refine commit_unchanged fun _ _ ran => ?_
    obtain ⟨_, member, held, -⟩ := complete_turn keys ran
    exact absurd member held
  | failInfrastructure entropy failure =>
    refine commit_unchanged fun _ _ ran => ?_
    obtain ⟨_, member, held, -⟩ := failInfrastructure_turn keys ran
    exact absurd member held

theorem Lapsed.unchanged (lapsed : Lapsed db claim) (fenced : Fenced (lifecycle db)) (repository : JobRepository)
    (operation : WorkerOperation claim event) : step repository event db = db :=
  operation.unheld fenced.toKeys (fun _ => lapsed.not_held fenced) repository

end Claims

/-- The tables agree on who works on which job. -/
structure LeaseFenced (db : Db) : Prop where
  owned : ∀ attempt ∈ db.attempts, ∃ job ∈ db.jobs, job.id = attempt.jobID
  running : ∀ job ∈ db.jobs, job.status = .running ↔
    ∃ attempt ∈ db.attempts, attempt.jobID = job.id ∧ attempt.status = .running
  single : ∀ job ∈ db.jobs, job.status = .running →
    ∃ attempt, (attemptsOf db.attempts job.id).filter (fun attempt => attempt.status = .running) = [attempt] ∧
      attempt.attemptNo = job.attemptNo ∧ job.workerID = some attempt.workerID ∧ job.leaseToken = attempt.leaseToken
  leased : ∀ job ∈ db.jobs, job.status = .running →
    job.workerID.isSome ∧ job.leaseToken.isSome ∧ job.leaseUntil.isSome
  unleased : ∀ job ∈ db.jobs, job.status ≠ .running → Unleased job
  numbers : ∀ job ∈ db.jobs, (attemptsOf db.attempts job.id).map AttemptRow.attemptNo = List.range' 1 job.attemptNo
  succeeded : ∀ job ∈ db.jobs,
    ((attemptsOf db.attempts job.id).filter (fun attempt => attempt.status = .succeeded)).length ≤ 1

theorem JobFenced.filter_length {own : List AttemptRow} (fenced : JobFenced job own) {p : AttemptRow → Bool}
    (number : ∀ attempt ∈ own, p attempt = true → attempt.attemptNo = job.attemptNo) : (own.filter p).length ≤ 1 := by
  refine Table.Keyed.filter_length fenced.keyed fun left member right member' first second => ?_
  rw [number left member first, number right member' second]

private theorem Fenced.leaseFenced (fenced : Fenced (lifecycle db)) : LeaseFenced db := by
  refine ⟨fenced.owned, ?_, ?_, ?_, ?_, ?_, ?_⟩
  · intro job member
    constructor
    · intro running
      obtain ⟨attempt, own, active, _⟩ := (fenced.each job member).current running
      exact ⟨attempt, (mem_attemptsOf.mp own).1, (mem_attemptsOf.mp own).2, active⟩
    · rintro ⟨attempt, inside, jobID, active⟩
      exact (((fenced.each job member).running attempt (mem_attemptsOf.mpr ⟨inside, jobID⟩)).mp active).1
  · intro job member running
    have each : JobFenced job (attemptsOf db.attempts job.id) := fenced.each job member
    obtain ⟨attempt, own, active, number⟩ := each.current running
    have inside : attempt ∈ (attemptsOf db.attempts job.id).filter (fun attempt => attempt.status = .running) :=
      List.mem_filter.mpr ⟨own, by simpa using active⟩
    have one : ((attemptsOf db.attempts job.id).filter (fun attempt => attempt.status = .running)).length ≤ 1 :=
      each.filter_length fun attempt own active => ((each.running attempt own).mp (by simpa using active)).2
    obtain ⟨found, shape⟩ := List.length_eq_one_iff.mp (le_antisymm one (List.length_pos_of_mem inside))
    rw [shape, List.mem_singleton] at inside
    obtain ⟨worker, token, _⟩ := each.held attempt own active
    exact ⟨attempt, by rw [shape, inside], number, worker, token⟩
  · intro job member running
    exact ((fenced.each job member).leased running).2
  · exact fun job member => (fenced.each job member).unleased
  · exact fun job member => (fenced.each job member).numbers
  · intro job member
    have each : JobFenced job (attemptsOf db.attempts job.id) := fenced.each job member
    exact each.filter_length fun attempt own succeeded => (each.succeeded attempt own (by simpa using succeeded)).2

/-- Job lease fencing. From an untouched queue, in every reachable state: the job and
attempt tables agree on who holds each job; a claim that has lapsed changes nothing;
and a job that has ended is never written again. -/
theorem lease_fencing (repository : JobRepository) (events : List Event) {db : Db} (untouched : Untouched db) :
    LeaseFenced (run (step repository) events db) ∧
    (∀ claim event, Lapsed (run (step repository) events db) claim → WorkerOperation claim event →
      step repository event (run (step repository) events db) = run (step repository) events db) ∧
    (∀ later : List Event, ∀ job ∈ (run (step repository) events db).jobs, job.status.isTerminal = true →
      job ∈ (run (step repository) (events ++ later) db).jobs) := by
  have fenced : Fenced (lifecycle (run (step repository) events db)) := run_fenced events untouched.fenced
  refine ⟨fenced.leaseFenced, ?_, ?_⟩
  · intro claim event lapsed operation
    exact lapsed.unchanged fenced repository operation
  · intro later job member ended
    rw [run_append]
    exact run_terminal_stays later fenced.toKeys member ended

/-! ### A small database -/

def samplePolicy : Json :=
  .object [(lit "maxQueuedJobs", .int 10), (lit "maxRunningJobs", .int 2), (lit "maxSourceBytes", .int 65536),
    (lit "maxRetainedBundles", .int 5), (lit "dailyExecutionMillis", .int 60000), (lit "maxInfrastructureTries", .int 3),
    (lit "maxTimeLimitMillis", .int 10000), (lit "maxMemoryLimitMiB", .int 1024)]

def sampleManifest : Json :=
  .object [(lit "schemaVersion", .int 1), (lit "judgeMode", .string (lit "ACM")), (lit "checker", .string (lit "exact")),
    (lit "limits", .object [(lit "timeLimitMillis", .int 1000), (lit "memoryLimitMiB", .int 256)]),
    (lit "cases", .array [.object [(lit "id", .string (lit "a")), (lit "input", .string (lit "a.in")),
      (lit "output", .string (lit "a.out")), (lit "weight", .int 1)]])]

def sampleTenant : TenantRow := ⟨1, lit "aaaaaaaaaaaaaaaaaaaaaaaaaa", .active, samplePolicy, none⟩

def sampleBundle : BundleRow := ⟨1, lit "bbbbbbbbbbbbbbbbbbbbbbbbbb", 1, sampleManifest, .ready, some 0, none, none⟩

def sampleSource : SourceRow :=
  { id := 1, externalID := lit "cccccccccccccccccccccccccc", tenantID := 1, objectKey := lit "sources/c", sha256 := []
    sizeBytes := 10, keyVersion := 1, nonce := [], deleteMarkedAt := none, deleteToken := none, deleteLeaseUntil := none
    deleteNextAttemptAt := none, deletedAt := none }

def sampleJob : JobRow :=
  { id := 1, externalID := lit "dddddddddddddddddddddddddd", tenantID := 1, bundleID := 1, sourceObjectID := 1
    callbackID := none, status := .queued, languageID := lit "go", stopOnFailure := false, clientReference := none
    requestHash := [], attemptNo := 0, workerID := none, leaseToken := none, leaseUntil := none, nextAttemptAt := 0
    cancelRequestedAt := none, result := none, failureCode := none, createdAt := 0, startedAt := none, completedAt := none }

def sampleDb : Db :=
  { now := 100, tenants := [sampleTenant], bundles := [sampleBundle], callbacks := [], sources := [sampleSource]
    jobs := [sampleJob], attempts := [], daily := [], idempotency := [], outbox := [], reservations := [] }

def sampleRepository : JobRepository := ⟨⟨id, fun _ => id⟩, List.replicate 32 1, 24 * hour, hour⟩

def sampleClaim : Event := .claim ⟨20000, [], [], some (List.replicate 32 7), []⟩ (lit "worker-1") (30 * second)

theorem sampleDb_untouched : Untouched sampleDb :=
  { keys := ⟨by decide, by decide, by decide, by decide⟩
    queued := by
      intro job member
      obtain rfl : job = sampleJob := List.mem_singleton.mp member
      exact ⟨rfl, rfl, rfl, rfl, rfl⟩
    attempts := rfl }

theorem lease_fencing_sample :
    (run (step sampleRepository) [sampleClaim] sampleDb).jobs.map JobRow.status = [.running] ∧
    LeaseFenced (run (step sampleRepository) [sampleClaim] sampleDb) :=
  ⟨rfl, (lease_fencing sampleRepository [sampleClaim] sampleDb_untouched).1⟩

end JudgingServer.Proofs
