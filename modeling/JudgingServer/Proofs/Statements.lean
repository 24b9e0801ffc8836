import JudgingServer.Proofs.Lifecycle

/-! What a commit says about the statements of a transaction. -/

namespace JudgingServer.Proofs
open Go External Library Table Transaction

variable {cases : List DurableCaseResult} {attemptNo : Nat} {policy : TenantPolicy}

theorem unavailableOn_ok {α : Type} {operation : String} {read : Db → Except RepositoryError α} {value : α}
    (ran : unavailableOn operation read db = .ok (value, db')) : read db = .ok value ∧ db = db' :=
  attempt_ok (wrap_ok ran)

/-! ### Policies -/

theorem validate_ok (valid : policy.validate = .ok done) :
    0 < policy.maxRunningJobs ∧ 0 < policy.dailyExecutionMillis ∧ 0 < policy.maxInfrastructureTries ∧
      policy.maxInfrastructureTries ≤ 10 ∧ 0 < policy.maxTimeLimitMillis ∧ 0 < policy.maxMemoryLimitMiB ∧
      0 < policy.maxQueuedJobs ∧ 0 < policy.maxRetainedBundles := by
  unfold TenantPolicy.validate at valid
  obtain ⟨_, jobs, valid⟩ := checked_ok valid
  have jobLimits := rejectIf_ok jobs
  obtain ⟨_, daily, valid⟩ := checked_ok valid
  have dailyLimit := rejectIf_ok daily
  obtain ⟨_, tries, valid⟩ := checked_ok valid
  have triesLimit := rejectIf_ok tries
  have executionLimits := rejectIf_ok valid
  omega

theorem decodeTenantPolicy_ok (decoded : decodeTenantPolicy encoded = some policy) : policy.validate = .ok () := by
  unfold decodeTenantPolicy at decoded
  obtain ⟨candidate, _, validated⟩ := Option.bind_eq_some_iff.mp decoded
  split at validated
  next valid =>
    obtain rfl := Option.some.inj validated
    exact valid
  next => cases validated

/-- The tries a policy allows are far from the end of the attempt counter. -/
theorem attemptNo_lt_max (decoded : decodeTenantPolicy encoded = some policy)
    (below : (attemptNo : Int) < policy.maxInfrastructureTries) : attemptNo < maxUint32 := by
  have limits := validate_ok (decodeTenantPolicy_ok decoded)
  unfold maxUint32
  omega

/-! ### The ledger -/

private theorem cappedCaseExecutionFrom_bounds (cases : List DurableCaseResult) (times : ∀ item ∈ cases, 0 ≤ item.timeMillis)
    (positive : 0 ≤ reservation) (nonneg : 0 ≤ total) (le : total ≤ max 0 (wrapInt64 reservation)) :
    0 ≤ cappedCaseExecutionFrom reservation cases total ∧ cappedCaseExecutionFrom reservation cases total ≤ reservation := by
  induction cases generalizing total with
  | nil =>
    unfold wrapInt64 at le
    exact ⟨nonneg, show total ≤ reservation by omega⟩
  | cons item rest ih =>
    have time := times item List.mem_cons_self
    unfold cappedCaseExecutionFrom
    split
    next => exact ⟨positive, le_refl _⟩
    next below =>
      have next : 0 ≤ wrapInt64 (total + item.timeMillis) ∧ wrapInt64 (total + item.timeMillis) ≤ max 0 (wrapInt64 reservation) := by
        unfold wrapInt64 at below le ⊢
        omega
      exact ih (fun other member => times other (List.mem_cons_of_mem _ member)) next.1 next.2

private theorem charge_bounds (full : Bool) (positive : 0 < reserved) (times : ∀ item ∈ cases, 0 ≤ item.timeMillis) :
    0 ≤ (if full then reserved else cappedCaseExecutionMillis cases reserved) ∧
      (if full then reserved else cappedCaseExecutionMillis cases reserved) ≤ reserved := by
  split
  next => exact ⟨by omega, le_refl _⟩
  next =>
    unfold cappedCaseExecutionMillis
    rw [if_neg (by omega)]
    exact cappedCaseExecutionFrom_bounds cases times positive.le (le_refl _) (le_max_left ..)

/-- The job waits for the end of the day. -/
def awaitsNext (tenantID : Nat) (day : Day) (job : JobRow) : Bool :=
  job.tenantID = tenantID ∧ job.status = .queued ∧ job.nextAttemptAt = day.next.start

theorem awaitsNext_iff : awaitsNext tenantID day job = true ↔
    job.tenantID = tenantID ∧ job.status = .queued ∧ job.nextAttemptAt = day.next.start := by
  simp [awaitsNext]

/-- The ledger side of a settlement: the attempt whose reservation was released and
the row of its day. The jobs that waited for the end of that day are woken. -/
structure Released (db db' : Db) (tenant job number : Nat) (now : Time) (consumed : Int) (attempt : AttemptRow) (row : DailyRow) :
    Prop where
  member : attempt ∈ db.attempts
  tenantID : attempt.tenantID = tenant
  jobID : attempt.jobID = job
  attemptNo : attempt.attemptNo = number
  active : attempt.status = .running
  reserved : 0 < attempt.reservedExecutionMillis
  rowTenant : row.tenantID = tenant
  rowDay : attempt.accountingDay = some row.accountingDay
  covered : attempt.reservedExecutionMillis ≤ row.reservedMillis
  daily : Replaced row { row with
    reservedMillis := row.reservedMillis - attempt.reservedExecutionMillis
    consumedMillis := row.consumedMillis + consumed } db.daily db'.daily
  written : db' = { db with
    daily := db'.daily
    jobs := update (awaitsNext tenant row.accountingDay) (fun job => { job with nextAttemptAt := now }) db.jobs }

theorem releaseAttemptReservation_ok (keyed : Keyed dailyKey db.daily)
    (ran : releaseAttemptReservation tenantID jobID attemptNo now cases full db = .ok (consumed, db')) :
    ∃ attempt row, Released db db' tenantID jobID attemptNo now consumed attempt row ∧
      consumed = if full then attempt.reservedExecutionMillis
        else cappedCaseExecutionMillis cases attempt.reservedExecutionMillis := by
  unfold releaseAttemptReservation at ran
  obtain ⟨attempt, found, ran⟩ := after_require ran
  obtain ⟨member, holds⟩ := find?_row found
  cases day : attempt.accountingDay with
  | none =>
    simp only [day] at ran
    exact (fail_ok ran).elim
  | some day' =>
    simp only [day] at ran
    obtain ⟨positive, ran⟩ := after_ensure ran
    have ran := after_ok ran rfl
    obtain ⟨one, ran⟩ := after_ensure ran
    have ran := after_ok ran rfl
    obtain ⟨rfl, rfl⟩ := pure_ok ran
    obtain ⟨row, _, matched, replaced⟩ := update_one keyed (fun left right first second => by
      simp only [decide_eq_true_eq] at first second
      exact Prod.ext (first.1.trans second.1.symm) (first.2.1.trans second.2.1.symm)) (of_decide_eq_true one)
    simp only [decide_eq_true_eq] at matched
    refine ⟨attempt, row, ⟨member, holds.1, holds.2.1, holds.2.2.1, holds.2.2.2,
      by simpa using positive, matched.1, by rw [day, matched.2.1], matched.2.2, replaced, ?_⟩, rfl⟩
    rw [matched.2.1]
    rfl

structure EndsAttempt (db db' : Db) (tenant job number : Nat) (now : Time) (attempt attempt' : AttemptRow) (row row' : DailyRow)
    (consumed : Int) : Prop extends AttemptSettles attempt attempt' row row' consumed where
  owner : attempt.tenantID = tenant
  jobID : attempt.jobID = job
  attemptNo : attempt.attemptNo = number
  attempts : Replaced attempt attempt' db.attempts db'.attempts
  daily : Replaced row row' db.daily db'.daily
  written : db' = { db with
    attempts := db'.attempts, daily := db'.daily
    jobs := update (awaitsNext tenant row.accountingDay) (fun job => { job with nextAttemptAt := now }) db.jobs }

private theorem Released.finish {tenant job number : Nat} {attempt : AttemptRow} {row : DailyRow}
    (released : Released db mid tenant job number now consumed attempt row) (keyed : Keyed attemptKey db.attempts)
    (bounds : 0 ≤ consumed ∧ consumed ≤ attempt.reservedExecutionMillis)
    (selects : ∀ other, p other = true → other.jobID = job ∧ other.attemptNo = number) (one : affected p f mid.attempts = 1)
    (last : db' = { mid with attempts := update p f mid.attempts }) (key : ∀ other, attemptKey (f other) = attemptKey other)
    (tenantID : ∀ other, (f other).tenantID = other.tenantID) (day : ∀ other, (f other).accountingDay = other.accountingDay)
    (settled : ∀ other, (f other).status ≠ .running) (token : ∀ other, (f other).leaseToken = none)
    (zero : ∀ other, (f other).reservedExecutionMillis = 0)
    (charged : ∀ other, (f other).consumedExecutionMillis = consumed ∨ consumed = 0 ∧ (f other).consumedExecutionMillis = other.consumedExecutionMillis) :
    EndsAttempt db db' tenant job number now attempt (f attempt) row { row with
      reservedMillis := row.reservedMillis - attempt.reservedExecutionMillis
      consumedMillis := row.consumedMillis + consumed } consumed := by
  have attempts : mid.attempts = db.attempts := by rw [released.written]
  rw [attempts] at one last
  obtain ⟨other, inside, selected, replaced⟩ := update_one keyed (fun left right first second =>
    Prod.ext ((selects left first).1.trans (selects right second).1.symm)
      ((selects left first).2.trans (selects right second).2.symm)) one
  obtain rfl : other = attempt := keyed.eq inside released.member
    (Prod.ext ((selects other selected).1.trans released.jobID.symm) ((selects other selected).2.trans released.attemptNo.symm))
  refine { active := released.active, key := key _, tenantID := tenantID _, accountingDay := day _, settled := settled _,
           leaseToken := token _, released := zero _, charged := charged _, reserved := released.reserved,
           consumed_nonneg := bounds.1, consumed_le := bounds.2,
           rowTenant := released.rowTenant.trans released.tenantID.symm, rowDay := released.rowDay,
           covered := released.covered, settledRow := rfl, owner := released.tenantID, jobID := released.jobID,
           attemptNo := released.attemptNo, attempts := by rw [last]; exact replaced,
           daily := by rw [last]; exact released.daily, written := ?_ }
  rw [last, released.written]

section Ended

variable {id : Nat} {attempt : AttemptRow}

private theorem mem_woken (member : job ∈ jobs) (awake : job.status ≠ .queued) :
    job ∈ update (awaitsNext tenant day) (fun job => { job with nextAttemptAt := now }) jobs := by
  refine mem_update.mpr (.inr ⟨member, ?_⟩)
  by_contra holds
  exact awake (awaitsNext_iff.mp (by simpa using holds)).2.1

namespace EndsAttempt

variable (ended : EndsAttempt db mid tenant id number now attempt attempt' row row' consumed)
include ended

/-- The end of an attempt leaves the keys, the running and the ended jobs, and the outbox as they were. -/
theorem frame (keyed : Keyed JobRow.id db.jobs) (member : job ∈ db.jobs) (awake : job.status ≠ .queued) :
    Keyed JobRow.id mid.jobs ∧ job ∈ mid.jobs ∧ mid.outbox = db.outbox ∧ mid.tenants = db.tenants := by
  rw [ended.written]
  exact ⟨keyed.update fun _ _ => rfl, mem_woken member awake, rfl, rfl⟩

theorem daily_keyed (keyed : Keyed dailyKey db.daily) : Keyed dailyKey mid.daily :=
  ended.daily.keyed keyed (by rw [ended.settledRow]; rfl)

end EndsAttempt

end Ended

theorem expireAttempt_ok (daily : Keyed dailyKey db.daily) (attempts : Keyed attemptKey db.attempts)
    (ran : expireAttempt tenantID jobID attemptNo now db = .ok (done, db')) :
    ∃ attempt attempt' row row', EndsAttempt db db' tenantID jobID attemptNo now attempt attempt' row row' 0 ∧
      attempt'.status = .expired := by
  unfold expireAttempt at ran
  obtain ⟨consumed, mid, release, ran⟩ := bind_ok ran
  obtain ⟨attempt, row, released, charge⟩ := releaseAttemptReservation_ok daily release
  have ran := after_ok ran rfl
  obtain ⟨one, rfl⟩ := ensure_ok ran
  have nothing : consumed = 0 := by
    have positive := released.reserved
    simp [charge, cappedCaseExecutionMillis, cappedCaseExecutionFrom]
  subst nothing
  refine ⟨attempt, _, row, _, released.finish attempts ⟨le_refl _, le_of_lt released.reserved⟩ ?_ (of_decide_eq_true one)
    rfl (fun _ => rfl) (fun _ => rfl) (fun _ => rfl) (fun _ => ?_) (fun _ => rfl) (fun _ => rfl)
    (fun _ => .inr ⟨rfl, rfl⟩), rfl⟩
  · intro other selected
    simp only [decide_eq_true_eq] at selected
    exact ⟨selected.2.1, selected.2.2.1⟩
  · simp

theorem finishAttempt_ok (release : settleAttemptReservation claim now cases full db = .ok (consumed, mid))
    (finish : finishAttempt claim status code consumed now mid = .ok (done, db')) (daily : Keyed dailyKey db.daily)
    (attempts : Keyed attemptKey db.attempts) (times : ∀ item ∈ cases, 0 ≤ item.timeMillis) (final : status ≠ .running) :
    ∃ attempt attempt' row row', EndsAttempt db db' claim.job.tenantInternalID claim.job.internalID claim.attemptNo
      now attempt attempt' row row' consumed ∧ attempt'.status = status := by
  obtain ⟨attempt, row, released, charge⟩ := releaseAttemptReservation_ok daily release
  have bounds := charge_bounds full released.reserved times
  rw [← charge] at bounds
  unfold finishAttempt at finish
  have finish := after_ok finish rfl
  obtain ⟨one, rfl⟩ := ensure_ok finish
  refine ⟨attempt, _, row, _, released.finish attempts bounds ?_ (of_decide_eq_true one) rfl (fun _ => rfl)
    (fun _ => rfl) (fun _ => rfl) (fun _ => final) (fun _ => rfl) (fun _ => rfl) (fun _ => .inl rfl), rfl⟩
  intro other selected
  simp only [decide_eq_true_eq] at selected
  exact ⟨selected.1, selected.2.1⟩

inductive Reserves (db db' : Db) (tenantID : Nat) (day : Day) (limit reserve : Int) : DailyReservationDecision → Prop where
  | impossible (same : db' = db) : Reserves db db' tenantID day limit reserve .impossible
  | deferred (opened : db' = { db with daily := ensureDailyRow tenantID day db.daily }) (member : row ∈ db'.daily)
      (rowKey : dailyKey row = (tenantID, day))
      (short : limit - reserve < row.consumedMillis ∨ limit - reserve - row.consumedMillis < row.reservedMillis) :
      Reserves db db' tenantID day limit reserve .deferred
  | allowed (row : DailyRow) (tenant : row.tenantID = tenantID) (accountingDay : row.accountingDay = day)
      (positive : 0 < reserve) (within : row.reservedMillis + row.consumedMillis + reserve ≤ limit)
      (daily : Replaced row { row with reservedMillis := row.reservedMillis + reserve }
        (ensureDailyRow tenantID day db.daily) db'.daily)
      (written : db' = { db with daily := db'.daily }) : Reserves db db' tenantID day limit reserve .allowed

theorem Reserves.frame (reserves : Reserves db db' tenantID day limit reserve decision) :
    db'.jobs = db.jobs ∧ db'.tenants = db.tenants := by
  cases reserves with
  | impossible same => exact ⟨by rw [same], by rw [same]⟩
  | deferred opened => exact ⟨by rw [opened], by rw [opened]⟩
  | allowed _ _ _ _ _ _ written => exact ⟨by rw [written], by rw [written]⟩

theorem reserveDailyExecution_ok (keyed : Keyed dailyKey db.daily)
    (ran : reserveDailyExecution tenantID day limit reserve db = .ok (decision, db')) :
    Reserves db db' tenantID day limit reserve decision := by
  unfold reserveDailyExecution at ran
  obtain ⟨positive, ran⟩ := after_ensure ran
  simp only [decide_eq_true_eq] at positive
  split at ran
  next =>
    obtain ⟨rfl, rfl⟩ := pure_ok ran
    exact .impossible rfl
  next =>
    have ran := after_execute ran
    obtain ⟨row, found, ran⟩ := after_require ran
    obtain ⟨member, holds⟩ := find?_row found
    split at ran
    next short =>
      obtain ⟨rfl, rfl⟩ := pure_ok ran
      exact .deferred rfl member (Prod.ext holds.1 holds.2) short
    next within =>
      have ran := after_ok ran rfl
      obtain ⟨one, ran⟩ := after_ensure ran
      obtain ⟨rfl, rfl⟩ := pure_ok ran
      refine .allowed row holds.1 holds.2 positive.2 (by omega) ?_ rfl
      refine update_replaced (ensureDailyRow_keyed keyed) member (by simpa using holds) ?_
      intro other _ selected
      simp only [decide_eq_true_eq] at selected
      exact Prod.ext (selected.1.trans holds.1.symm) (selected.2.trans holds.2.symm)

/-! ### The submission's transaction -/

theorem generateExternalID_matches {entropy left : List Bytes} {id : GoString} (drawn : generateExternalID entropy = .ok (id, left)) :
    matchesExternalID id = true := by
  unfold generateExternalID at drawn
  split at drawn
  next => cases drawn
  next =>
    simp only at drawn
    split at drawn
    next matched =>
      obtain ⟨rfl, -⟩ := Prod.mk.inj (Except.ok.inj drawn)
      exact matched
    next => cases drawn

structure Prepared (repository : JobRepository) (tenantExternalID idempotencyKey : GoString) (asked : JudgeJobRequest)
    (submission : Submission) : Prop where
  tenant : submission.tenantExternalID = tenantExternalID
  request : submission.request = asked
  keyDigest : digestIdempotencyKey repository.digests idempotencyKey repository.idempotencyPepper = .ok submission.keyDigest
  requestHash : canonicalJobRequestHash repository.digests asked asked.sourceCode.length = .ok submission.requestHash
  coordinationKey : sourceObjectKey tenantExternalID
    (submissionSourceExternalID repository.digests tenantExternalID submission.keyDigest) = .ok submission.coordinationKey
  jobExternalID : matchesExternalID submission.jobExternalID = true
  sourceKey : sourceObjectKey tenantExternalID submission.sourceExternalID = .ok submission.sourceKey

theorem prepareSubmission_ok
    (prepared : prepareSubmission repository draws tenantExternalID idempotencyKey request = .ok submission) :
    Prepared repository tenantExternalID idempotencyKey request submission := by
  unfold prepareSubmission at prepared
  obtain ⟨_, _, prepared⟩ := checked_ok prepared
  obtain ⟨keyDigest, digest, prepared⟩ := checked_ok prepared
  obtain ⟨requestHash, hash, prepared⟩ := checked_ok prepared
  obtain ⟨coordinationKey, coordination, prepared⟩ := checked_ok prepared
  obtain ⟨⟨sourceExternalID, left⟩, _, prepared⟩ := checked_ok prepared
  obtain ⟨⟨jobExternalID, _⟩, job, prepared⟩ := checked_ok prepared
  obtain ⟨sourceKey, source, prepared⟩ := checked_ok prepared
  obtain ⟨_, _, prepared⟩ := checked_ok prepared
  obtain ⟨_, _, prepared⟩ := checked_ok prepared
  obtain ⟨_, _, prepared⟩ := checked_ok prepared
  obtain rfl := Except.ok.inj prepared
  exact ⟨rfl, rfl, mapError_ok digest, mapError_ok hash, mapError_ok coordination, generateExternalID_matches (mapError_ok job),
    mapError_ok source⟩

theorem canonicalJobRequestHash_ok {digests : Digests} {hash : Bytes}
    (hashed : canonicalJobRequestHash digests request limit = .ok hash) :
    request.clientReference.length ≤ 255 ∧ validString request.clientReference = true := by
  unfold canonicalJobRequestHash at hashed
  split_ifs at hashed with bundle language source callback reference
  simpa using reference

section Submission

private theorem lockSubmissionReservations_ok {first second : SourceReservationClaim}
    (ran : lockSubmissionReservations first second db = .ok (done, db')) :
    reservationHeld first db = true ∧ reservationHeld second db = true ∧ db = db' := by
  unfold lockSubmissionReservations at ran
  -- The locks are taken in the order of the keys.
  obtain ⟨one, two, order, either⟩ : ∃ one two, (if second.objectKey < first.objectKey then (second, first) else (first, second)) =
      (one, two) ∧ (one = first ∧ two = second ∨ one = second ∧ two = first) := by
    split
    next => exact ⟨_, _, rfl, .inr ⟨rfl, rfl⟩⟩
    next => exact ⟨_, _, rfl, .inl ⟨rfl, rfl⟩⟩
  rw [order] at ran
  have ran := after_query ran
  obtain ⟨held, ran⟩ := after_ensure ran
  have ran := after_query ran
  obtain ⟨held', rfl⟩ := ensure_ok ran
  obtain ⟨rfl, rfl⟩ | ⟨rfl, rfl⟩ := either
  · exact ⟨held, held', rfl⟩
  · exact ⟨held', held, rfl⟩

private theorem lockTenantPolicy_ok (ran : lockTenantPolicy tenantExternalID db = .ok (locked, db')) :
    (∃ tenant, db.tenants.find? (fun tenant => tenant.externalID = tenantExternalID) = some tenant ∧ tenant.status = .active ∧
      decodeTenantPolicy tenant.policyJSON = some locked.2 ∧ tenant.id = locked.1) ∧ db = db' := by
  unfold lockTenantPolicy at ran
  obtain ⟨tenant, found, ran⟩ := after_require ran
  obtain ⟨active, ran⟩ := after_ensure ran
  obtain ⟨policy, decoded, ran⟩ := after_require ran
  obtain ⟨rfl, rfl⟩ := pure_ok ran
  exact ⟨⟨tenant, found, by simpa using active, decoded, rfl⟩, rfl⟩

private theorem admitSubmission_ok (ran : admitSubmission submission tenantID policy db = .ok (rows, db')) :
    (queuedJobs db tenantID : Int) < policy.maxQueuedJobs ∧ db = db' := by
  unfold admitSubmission at ran
  obtain ⟨-, ran⟩ := after_ensure ran
  have ran := after_query ran
  obtain ⟨room, ran⟩ := after_ensure ran
  obtain ⟨_, -, ran⟩ := after_require ran
  refine ⟨by simpa using room, ?_⟩
  split at ran
  next => exact (pure_ok ran).2
  next =>
    obtain ⟨_, -, ran⟩ := after_require ran
    exact (pure_ok ran).2

private theorem insertSource_ok (ran : insertSource source db = .ok (done, db')) :
    (∀ other ∈ db.sources, other.id ≠ source.id ∧ other.externalID ≠ source.externalID ∧ other.objectKey ≠ source.objectKey) ∧
      db' = { db with sources := db.sources ++ [source] } := by
  unfold insertSource at ran
  have ran := after_query ran
  obtain ⟨free, ran⟩ := after_ensure ran
  refine ⟨?_, execute_ok ran⟩
  simpa using free

private theorem insertJob_ok (ran : insertJob job db = .ok (done, db')) :
    (∀ other ∈ db.jobs, other.id ≠ job.id ∧ other.externalID ≠ job.externalID) ∧ db' = { db with jobs := db.jobs ++ [job] } := by
  unfold insertJob at ran
  have ran := after_query ran
  obtain ⟨free, ran⟩ := after_ensure ran
  refine ⟨?_, execute_ok ran⟩
  simpa using free

private theorem insertIdempotency_ok (ran : insertIdempotency record db = .ok (done, db')) :
    db' = { db with idempotency := db.idempotency ++ [record] } := by
  unfold insertIdempotency at ran
  obtain ⟨_, _, read, ran⟩ := bind_ok ran
  obtain ⟨-, rfl⟩ := query_ok read
  obtain ⟨-, ran⟩ := after_ensure ran
  exact execute_ok ran

private theorem publishReservations_ok (ran : publishReservations submission db = .ok (done, db')) :
    db' = { db with reservations := Table.delete submission.ownsReservation db.reservations } := by
  unfold publishReservations at ran
  obtain ⟨_, _, read, ran⟩ := bind_ok ran
  obtain ⟨-, rfl⟩ := query_ok read
  have ran := after_execute ran
  exact (ensure_ok ran).2.symm

/-- What a committed submission has checked and what it has written. -/
structure Submits (repository : JobRepository) (submission : Submission) (assigned : AssignedIDs) (db db' : Db) (tenant : TenantRow)
    (policy : TenantPolicy) (bundleID : Nat) (callbackID : Option Nat) (result : SubmitJobResult) : Prop where
  coordinated : reservationHeld submission.coordination db = true
  reserved : reservationHeld submission.sourceReservation db = true
  found : db.tenants.find? (fun tenant => tenant.externalID = submission.tenantExternalID) = some tenant
  active : tenant.status = .active
  decoded : decodeTenantPolicy tenant.policyJSON = some policy
  unused : findIdempotency tenant.id submission.keyDigest (expireIdempotency tenant.id submission.keyDigest db.now db) = none
  room : (queuedJobs db tenant.id : Int) < policy.maxQueuedJobs
  freshSource : ∀ other ∈ db.sources, other.id ≠ assigned.source ∧ other.externalID ≠ submission.sourceExternalID ∧
    other.objectKey ≠ submission.sourceKey
  freshJob : ∀ other ∈ db.jobs, other.id ≠ assigned.job ∧ other.externalID ≠ submission.jobExternalID
  written : db' = { db with
    sources := db.sources ++ [submittedSource submission tenant.id assigned.source]
    jobs := db.jobs ++ [submittedJob submission tenant.id bundleID assigned.source assigned.job callbackID db.now]
    idempotency := (expireIdempotency tenant.id submission.keyDigest db.now db).idempotency ++
      [submittedRecord repository submission tenant.id db.now]
    reservations := Table.delete submission.ownsReservation db.reservations }
  read : getExternalJob submission.tenantExternalID submission.jobExternalID db' = .ok result.job
  created : result.replayed = false

theorem submitTransaction_ok (ran : submitTransaction repository submission assigned db = .ok (result, db')) :
    ∃ tenant policy bundleID callbackID,
      Submits repository submission assigned db db' tenant policy bundleID callbackID result := by
  unfold submitTransaction at ran
  obtain ⟨_, _, lock, ran⟩ := bind_ok ran
  obtain ⟨coordinated, reserved, rfl⟩ := lockSubmissionReservations_ok (wrap_ok lock)
  obtain ⟨⟨tenantID, policy⟩, _, lock, ran⟩ := bind_ok ran
  obtain ⟨⟨tenant, found, active, decoded, rfl⟩, rfl⟩ := lockTenantPolicy_ok (wrap_ok lock)
  have ran := after_query ran
  have ran := after_execute ran
  obtain ⟨found, _, read, ran⟩ := bind_ok ran
  obtain ⟨unused, rfl⟩ := query_ok read
  cases found with
  | some record =>
    obtain ⟨_, _, _, ran⟩ := bind_ok ran
    exact (fail_ok ran).elim
  | none =>
    obtain ⟨⟨bundleID, callbackID⟩, _, admission, ran⟩ := bind_ok ran
    obtain ⟨room, rfl⟩ := admitSubmission_ok (wrap_ok admission)
    obtain ⟨job, _, create, ran⟩ := bind_ok ran
    obtain ⟨rfl, rfl⟩ := pure_ok ran
    have create := wrap_ok create
    unfold createJob at create
    obtain ⟨_, _, source, create⟩ := bind_ok create
    obtain ⟨freshSource, rfl⟩ := insertSource_ok source
    obtain ⟨_, _, job, create⟩ := bind_ok create
    obtain ⟨freshJob, rfl⟩ := insertJob_ok job
    obtain ⟨_, _, record, create⟩ := bind_ok create
    obtain rfl := insertIdempotency_ok record
    obtain ⟨_, _, publish, create⟩ := bind_ok create
    obtain rfl := publishReservations_ok publish
    obtain ⟨read, rfl⟩ := unavailableOn_ok create
    exact ⟨tenant, policy, bundleID, callbackID,
      { coordinated, reserved, found, active, decoded, unused, room, freshSource, freshJob, written := rfl, read
        created := rfl }⟩

end Submission

end JudgingServer.Proofs
