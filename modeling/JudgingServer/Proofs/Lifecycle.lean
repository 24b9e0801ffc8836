import JudgingServer.External.JobSystem

/-! The life of a job, seen apart from the statements that write it: which moves
the job, attempt, ledger and outbox tables make together. A committed transaction
is a sequence of such moves. -/

namespace JudgingServer.Proofs
open Go External Library Table

/-- The tables a job's life is recorded in. -/
structure Lifecycle where
  jobs : List JobRow
  attempts : List AttemptRow
  daily : List DailyRow
  outbox : List OutboxRow

def lifecycle (db : Db) : Lifecycle := ⟨db.jobs, db.attempts, db.daily, db.outbox⟩

def attemptKey (attempt : AttemptRow) : Nat × Nat := (attempt.jobID, attempt.attemptNo)

def dailyKey (row : DailyRow) : Nat × Day := (row.tenantID, row.accountingDay)

/-- The unique keys of the tables. -/
structure Keys (life : Lifecycle) : Prop where
  jobs : Keyed JobRow.id life.jobs
  externalIDs : Keyed JobRow.externalID life.jobs
  attempts : Keyed attemptKey life.attempts
  daily : Keyed dailyKey life.daily

/-- The columns of a job that are written once, when it is submitted. -/
structure SameJob (job job' : JobRow) : Prop where
  id : job'.id = job.id
  externalID : job'.externalID = job.externalID
  tenantID : job'.tenantID = job.tenantID
  bundleID : job'.bundleID = job.bundleID
  sourceObjectID : job'.sourceObjectID = job.sourceObjectID
  callbackID : job'.callbackID = job.callbackID
  clientReference : job'.clientReference = job.clientReference
  createdAt : job'.createdAt = job.createdAt

section

variable (job : JobRow)

def Unleased : Prop := job.workerID = none ∧ job.leaseToken = none ∧ job.leaseUntil = none

/-- The identity a job was submitted with is well formed. -/
structure Named : Prop where
  externalID : matchesExternalID job.externalID = true
  reference : (job.clientReference.getD []).length ≤ 255 ∧ validString (job.clientReference.getD []) = true

structure New : Prop where
  named : Named job
  queued : job.status = .queued
  attemptNo : job.attemptNo = 0
  unleased : Unleased job
  result : job.result = none
  failureCode : job.failureCode = none
  cancelRequestedAt : job.cancelRequestedAt = none

structure Starts (job job' : JobRow) (attempt : AttemptRow) : Prop where
  same : SameJob job job'
  queued : job.status = .queued
  running : job'.status = .running
  attemptNo : job'.attemptNo = job.attemptNo + 1
  workerID : job'.workerID = some attempt.workerID
  leaseToken : job'.leaseToken = attempt.leaseToken
  leased : attempt.leaseToken.isSome
  leaseUntil : job'.leaseUntil = some attempt.leaseUntil
  failureCode : job'.failureCode = none
  result : job'.result = job.result
  cancelRequestedAt : job'.cancelRequestedAt = job.cancelRequestedAt
  jobID : attempt.jobID = job.id
  tenantID : attempt.tenantID = job.tenantID
  number : attempt.attemptNo = job.attemptNo + 1
  active : attempt.status = .running
  reserved : 0 < attempt.reservedExecutionMillis
  consumed : attempt.consumedExecutionMillis = 0

/-- The columns that say how a job ended, or that it was put back into the queue. -/
inductive Outcome (job job' : JobRow) : Prop where
  | requeued (status : job'.status = .queued) (result : job'.result = job.result)
      (failureCode : job'.failureCode = none ∨ job'.failureCode = job.failureCode) (tries : job.attemptNo < maxUint32)
  | succeeded (status : job'.status = .succeeded) (result : job'.result.isSome) (failureCode : job'.failureCode = none)
  | failed (status : job'.status = .failed) (result : job'.result = job.result)
      (failureCode : ∃ code, job'.failureCode = some code ∧ matchesInfrastructureCode code = true)
  | cancelled (status : job'.status = .cancelled) (result : job'.result = none ∨ job'.result = job.result)
      (failureCode : job'.failureCode = none)

/-- The ends that are left to a running job once its cancellation was requested. -/
def Yields (job' : JobRow) : Prop :=
  job'.status = .cancelled ∨ job'.status = .failed ∧ job'.failureCode = some (lit "TENANT_DISABLED")

structure Ends (job job' : JobRow) : Prop where
  same : SameJob job job'
  running : job.status = .running
  attemptNo : job'.attemptNo = job.attemptNo
  unleased : Unleased job'
  cancelRequestedAt : job'.cancelRequestedAt = job.cancelRequestedAt
  outcome : Outcome job job'
  yields : job.cancelRequestedAt.isSome = true → Yields job' ∧ (job'.result = none ∨ job'.result = job.result)

/-- A running attempt is settled with the ledger row of its day. -/
structure AttemptSettles (attempt attempt' : AttemptRow) (row row' : DailyRow) (consumed : Int) : Prop where
  active : attempt.status = .running
  key : attemptKey attempt' = attemptKey attempt
  tenantID : attempt'.tenantID = attempt.tenantID
  accountingDay : attempt'.accountingDay = attempt.accountingDay
  settled : attempt'.status ≠ .running
  leaseToken : attempt'.leaseToken = none
  released : attempt'.reservedExecutionMillis = 0
  charged : attempt'.consumedExecutionMillis = consumed ∨
    consumed = 0 ∧ attempt'.consumedExecutionMillis = attempt.consumedExecutionMillis
  reserved : 0 < attempt.reservedExecutionMillis
  consumed_nonneg : 0 ≤ consumed
  consumed_le : consumed ≤ attempt.reservedExecutionMillis
  rowTenant : row.tenantID = attempt.tenantID
  rowDay : attempt.accountingDay = some row.accountingDay
  covered : attempt.reservedExecutionMillis ≤ row.reservedMillis
  settledRow : row' = { row with
    reservedMillis := row.reservedMillis - attempt.reservedExecutionMillis
    consumedMillis := row.consumedMillis + consumed }

structure Settles (job job' : JobRow) (attempt attempt' : AttemptRow) (row row' : DailyRow) (consumed : Int) : Prop
    extends AttemptSettles attempt attempt' row row' consumed where
  ends : Ends job job'
  jobID : attempt.jobID = job.id
  number : attempt.attemptNo = job.attemptNo
  succeeded : attempt'.status = .succeeded ↔ job'.status = .succeeded

/-- An outbox row tells the end of a job. -/
structure Announces (row : OutboxRow) (payload : TerminalWebhookPayload) : Prop where
  jobID : row.jobID = job.id
  tenantID : row.tenantID = job.tenantID
  callbackID : job.callbackID = some row.callbackID
  body : row.payloadBody = payload.json.marshal
  eventType : row.eventType = payload.eventType
  eventID : payload.eventID = row.eventID
  externalID : payload.jobID = job.externalID
  status : payload.status = job.status
  result : payload.result = if job.status = .succeeded then job.result else none
  resultSet : job.status = .succeeded → job.result.isSome
  failureCode : payload.failureCode = if job.status = .failed then job.failureCode.getD [] else []
  failureSet : job.status = .failed → job.failureCode.getD [] ≠ []

/-- What the end of a job adds to the outbox. -/
inductive Emits (job : JobRow) (outbox : List OutboxRow) : List OutboxRow → Prop where
  | silent (none : job.callbackID = none) : Emits job outbox outbox
  | announced (row : OutboxRow) (payload : TerminalWebhookPayload) (announces : Announces job row payload)
      (fresh : ∀ other ∈ outbox, other.jobID ≠ job.id) : Emits job outbox (outbox ++ [row])
  | repeated (row : OutboxRow) (member : row ∈ outbox) (jobID : row.jobID = job.id) (some : job.callbackID.isSome) :
      Emits job outbox outbox

/-- Only the end of a job is announced. -/
def Publishes (outbox outbox' : List OutboxRow) : Prop :=
  if job.status.isTerminal then Emits job outbox outbox' else outbox' = outbox

end

structure Closes (job job' : JobRow) : Prop where
  same : SameJob job job'
  queued : job.status = .queued
  attemptNo : job'.attemptNo = job.attemptNo
  unleased : Unleased job'
  result : job'.result = job.result
  ended : job'.status = .cancelled ∧ job'.failureCode = job.failureCode ∨
    job'.status = .failed ∧ ∃ code, job'.failureCode = some code ∧ matchesInfrastructureCode code = true

/-- One move of the tables. `policies` holds of the active tenants and their policies. -/
inductive Move (policies : Nat → TenantPolicy → Prop) (life : Lifecycle) : Lifecycle → Prop where
  | reschedule (p : JobRow → Bool) (time : Time) (queued : ∀ job ∈ life.jobs, p job = true → job.status = .queued) :
      Move policies life { life with jobs := update p (fun job => { job with nextAttemptAt := time }) life.jobs }
  | openDay (tenantID : Nat) (day : Day) : Move policies life { life with daily := ensureDailyRow tenantID day life.daily }
  | enqueue (job : JobRow) (new : New job)
      (fresh : ∀ other ∈ life.jobs, other.id ≠ job.id ∧ other.externalID ≠ job.externalID) :
      Move policies life { life with jobs := life.jobs ++ [job] }
  | start (policy : TenantPolicy) (active : policies job.tenantID policy) (starts : Starts job job' attempt)
      (fresh : ∀ other ∈ life.attempts, attemptKey other ≠ attemptKey attempt)
      (jobs : Replaced job job' life.jobs jobs')
      (rowTenant : row.tenantID = job.tenantID) (rowDay : attempt.accountingDay = some row.accountingDay)
      (daily : Replaced row { row with reservedMillis := row.reservedMillis + attempt.reservedExecutionMillis } life.daily daily')
      (within : row.reservedMillis + row.consumedMillis + attempt.reservedExecutionMillis ≤ policy.dailyExecutionMillis) :
      Move policies life ⟨jobs', life.attempts ++ [attempt], daily', life.outbox⟩
  | settle (settles : Settles job job' attempt attempt' row row' consumed) (jobs : Replaced job job' life.jobs jobs')
      (attempts : Replaced attempt attempt' life.attempts attempts') (daily : Replaced row row' life.daily daily')
      (outbox : Publishes job' life.outbox outbox') :
      Move policies life ⟨jobs', attempts', daily', outbox'⟩
  | renew (lease : Time)
      (running : job.status = .running) (jobID : attempt.jobID = job.id) (number : attempt.attemptNo = job.attemptNo)
      (active : attempt.status = .running)
      (jobs : Replaced job { job with leaseUntil := some lease } life.jobs jobs')
      (attempts : Replaced attempt { attempt with leaseUntil := lease } life.attempts attempts') :
      Move policies life { life with jobs := jobs', attempts := attempts' }
  | requestCancel (time : Time) (running : job.status = .running)
      (unset : job.cancelRequestedAt = none)
      (jobs : Replaced job { job with cancelRequestedAt := some time } life.jobs jobs') :
      Move policies life { life with jobs := jobs' }
  | close (closes : Closes job job')
      (jobs : Replaced job job' life.jobs jobs') (outbox : Publishes job' life.outbox outbox') :
      Move policies life { life with jobs := jobs', outbox := outbox' }

theorem ensureDailyRow_keyed (keyed : Keyed dailyKey rows) : Keyed dailyKey (ensureDailyRow tenantID day rows) := by
  unfold ensureDailyRow
  split
  next => exact keyed
  next absent =>
    apply keyed.insert
    intro other member same
    apply absent
    simp only [dailyKey, Prod.mk.injEq] at same
    exact List.any_eq_true.mpr ⟨other, member, by simpa using same⟩

theorem Keys.replace_job (keys : Keys life) (jobs : Replaced job job' life.jobs jobs') (id : job'.id = job.id)
    (externalID : job'.externalID = job.externalID) : Keys { life with jobs := jobs' } :=
  { keys with jobs := jobs.keyed keys.jobs id, externalIDs := jobs.keyed keys.externalIDs externalID }

theorem Move.keys (move : Move policies life life') (keys : Keys life) : Keys life' := by
  cases move with
  | reschedule p time queued =>
    exact { keys with jobs := keys.jobs.update fun _ _ => rfl, externalIDs := keys.externalIDs.update fun _ _ => rfl }
  | openDay tenantID day => exact { keys with daily := ensureDailyRow_keyed keys.daily }
  | enqueue job new fresh =>
    exact { keys with
      jobs := keys.jobs.insert fun other member => (fresh other member).1
      externalIDs := keys.externalIDs.insert fun other member => (fresh other member).2 }
  | start policy active starts fresh jobs rowTenant rowDay daily within =>
    have written := keys.replace_job jobs starts.same.id starts.same.externalID
    exact ⟨written.jobs, written.externalIDs, keys.attempts.insert fresh, daily.keyed keys.daily rfl⟩
  | settle settles jobs attempts daily outbox =>
    have written := keys.replace_job jobs settles.ends.same.id settles.ends.same.externalID
    refine ⟨written.jobs, written.externalIDs, attempts.keyed keys.attempts settles.key, ?_⟩
    exact daily.keyed keys.daily (by rw [settles.settledRow]; rfl)
  | renew lease running jobID number active jobs attempts =>
    exact { keys.replace_job jobs rfl rfl with attempts := attempts.keyed keys.attempts rfl }
  | requestCancel time running unset jobs => exact keys.replace_job jobs rfl rfl
  | close closes jobs outbox =>
    have written := keys.replace_job jobs closes.same.id closes.same.externalID
    exact ⟨written.jobs, written.externalIDs, keys.attempts, keys.daily⟩

theorem SameJob.refl (job : JobRow) : SameJob job job := ⟨rfl, rfl, rfl, rfl, rfl, rfl, rfl, rfl⟩

theorem SameJob.trans {first second third : JobRow} (one : SameJob first second) (two : SameJob second third) :
    SameJob first third where
  id := two.id.trans one.id
  externalID := two.externalID.trans one.externalID
  tenantID := two.tenantID.trans one.tenantID
  bundleID := two.bundleID.trans one.bundleID
  sourceObjectID := two.sourceObjectID.trans one.sourceObjectID
  callbackID := two.callbackID.trans one.callbackID
  clientReference := two.clientReference.trans one.clientReference
  createdAt := two.createdAt.trans one.createdAt

inductive JobTurn (policies : Nat → TenantPolicy → Prop) (job : JobRow) : JobRow → Prop where
  | same : JobTurn policies job job
  | rescheduled (time : Time) (queued : job.status = .queued) : JobTurn policies job { job with nextAttemptAt := time }
  | started (active : policies job.tenantID policy) (starts : Starts job job' attempt) : JobTurn policies job job'
  | settled (ends : Ends job job') : JobTurn policies job job'
  | renewed (lease : Time) (running : job.status = .running) : JobTurn policies job { job with leaseUntil := some lease }
  | requested (time : Time) (running : job.status = .running) (unset : job.cancelRequestedAt = none) :
      JobTurn policies job { job with cancelRequestedAt := some time }
  | closed (closes : Closes job job') : JobTurn policies job job'

theorem JobTurn.sameJob (turn : JobTurn policies job job') : SameJob job job' := by
  cases turn with
  | same | rescheduled | renewed | requested => exact ⟨rfl, rfl, rfl, rfl, rfl, rfl, rfl, rfl⟩
  | started _ starts => exact starts.same
  | settled ends => exact ends.same
  | closed closes => exact closes.same

/-- The rows of the jobs are turned one by one, or one is added. -/
inductive JobsTurn (policies : Nat → TenantPolicy → Prop) (jobs : List JobRow) : List JobRow → Prop where
  | turned (rows : List.Forall₂ (JobTurn policies) jobs jobs') : JobsTurn policies jobs jobs'
  | added (new : New job) : JobsTurn policies jobs (jobs ++ [job])

theorem Move.jobs (move : Move policies life life') : JobsTurn policies life.jobs life'.jobs := by
  have written : ∀ {job job' : JobRow} {jobs' : List JobRow}, Replaced job job' life.jobs jobs' → JobTurn policies job job' →
      JobsTurn policies life.jobs jobs' := fun replaced turn => .turned (replaced.forall₂ (fun _ => .same) turn)
  cases move with
  | reschedule p time queued =>
    exact .turned (forall₂_update (fun _ => .same) fun job member picked => .rescheduled time (queued job member picked))
  | openDay tenantID day => exact .turned (List.forall₂_same.mpr fun _ _ => .same)
  | enqueue job new fresh => exact .added new
  | start policy active starts fresh jobs => exact written jobs (.started active starts)
  | settle settles jobs => exact written jobs (.settled settles.ends)
  | renew lease running jobID number active jobs => exact written jobs (.renewed lease running)
  | requestCancel time running unset jobs => exact written jobs (.requested time running unset)
  | close closes jobs => exact written jobs (.closed closes)

theorem JobsTurn.forward (rows : JobsTurn policies jobs jobs') (member : job ∈ jobs) : ∃ job' ∈ jobs', JobTurn policies job job' := by
  cases rows with
  | turned rows => exact forall₂_mem_left rows member
  | added new => exact ⟨job, List.mem_append_left _ member, .same⟩

theorem JobsTurn.backward (rows : JobsTurn policies jobs jobs') (member : job' ∈ jobs') :
    New job' ∨ ∃ job ∈ jobs, JobTurn policies job job' := by
  cases rows with
  | turned rows => exact .inr (forall₂_mem_right rows member)
  | added new =>
    rcases List.mem_append.mp member with inside | last
    · exact .inr ⟨job', inside, .same⟩
    · exact .inl (List.mem_singleton.mp last ▸ new)

theorem Move.sameJob (move : Move policies life life') (member : job ∈ life.jobs) : ∃ job' ∈ life'.jobs, SameJob job job' := by
  obtain ⟨job', inside, turn⟩ := move.jobs.forward member
  exact ⟨job', inside, turn.sameJob⟩

/-- What a transaction does: any number of moves. -/
def Moves (policies : Nat → TenantPolicy → Prop) : Lifecycle → Lifecycle → Prop := Relation.ReflTransGen (Move policies)

/-- What every move preserves, a transaction preserves. -/
theorem Moves.invariant {invariant : Lifecycle → Prop}
    (keeps : ∀ life life', Move policies life life' → invariant life → invariant life') (moves : Moves policies life life')
    (start : invariant life) : invariant life' := by
  induction moves with
  | refl => exact start
  | tail _ move ih => exact keeps _ _ move ih

theorem Moves.keys (moves : Moves policies life life') (keys : Keys life) : Keys life' :=
  moves.invariant (fun _ _ => Move.keys) keys

end JudgingServer.Proofs
