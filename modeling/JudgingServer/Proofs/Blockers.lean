import JudgingServer.Proofs.ClaimRefinement

/-! What can stop a transaction that is about to end a job: the guard of the ledger
settlement and the encoder of the terminal event. Under which conditions on the
tables neither of them does is shown statement by statement. -/

namespace JudgingServer.Proofs
open Go External Library Table Transaction

variable {entropy : List Bytes}

inductive Blocker where
  | ledgerGuard
  | eventEncoder
deriving DecidableEq, Repr

def Blocker.operation : Blocker → String
  | .ledgerGuard => "settle daily execution ledger"
  | .eventEncoder => "encode terminal webhook event"

def Blocker.Reports (blocker : Blocker) (error : RepositoryError) : Prop := ∃ cause, error = .unavailable blocker.operation cause

variable {attempt : AttemptRow} {record : ExternalJobRecord} {job : JobRow} {jobID : Nat} {operation : String} {now : Time}

@[simp] theorem Blocker.reports_unavailable {blocker : Blocker} :
    blocker.Reports (.unavailable operation cause) ↔ operation = blocker.operation := by
  simp [Blocker.Reports]

/-- The tables cover every settlement: the ledger row of a running attempt's day holds
at least the attempt's reservation. -/
structure Covered (attempts : List AttemptRow) (daily : List DailyRow) : Prop where
  keyed : Keyed dailyKey daily
  rows : ∀ attempt ∈ attempts, attempt.status = .running → ∃ row ∈ daily, row.tenantID = attempt.tenantID ∧
    attempt.accountingDay = some row.accountingDay ∧ attempt.reservedExecutionMillis ≤ row.reservedMillis

/-- The row of a running attempt's day is there, and taking the reservation out changes it. -/
theorem Covered.settles (covered : Covered attempts daily) (member : attempt ∈ attempts) (running : attempt.status = .running)
    (tenant : attempt.tenantID = tenantID) (accounted : attempt.accountingDay = some day)
    (positive : 0 < attempt.reservedExecutionMillis) (consumed : Int) :
    affected (fun row : DailyRow => row.tenantID = tenantID ∧ row.accountingDay = day ∧
        attempt.reservedExecutionMillis ≤ row.reservedMillis)
      (fun row => { row with
        reservedMillis := row.reservedMillis - attempt.reservedExecutionMillis
        consumedMillis := row.consumedMillis + consumed }) daily = 1 := by
  obtain ⟨row, present, rowTenant, rowDay, enough⟩ := covered.rows attempt member running
  obtain rfl : day = row.accountingDay := Option.some.inj (accounted.symm.trans rowDay)
  refine affected_one covered.keyed present (by simp [rowTenant, tenant, enough]) ?_ ?_
  · intro same
    have reserved := congrArg DailyRow.reservedMillis same
    simp only at reserved
    omega
  · intro other _ selected
    simp only [decide_eq_true_eq] at selected
    exact Prod.ext (selected.1.trans (tenant.symm.trans rowTenant.symm)) selected.2.1

/-- The columns of a job that its terminal event is made of. -/
structure JobColumns (job : JobRow) : Prop where
  named : Named job
  unfinished : job.status.isTerminal = false → job.result = none
  running : job.status = .running → job.failureCode = none

structure Columns (db : Db) : Prop where
  clock : 0 < db.now
  tenants : ∀ tenant ∈ db.tenants, matchesExternalID tenant.externalID = true
  jobs : ∀ job ∈ db.jobs, JobColumns job

/-! ### The encoder -/

/-- The status of a job agrees with its result and its failure code. -/
inductive Final (record : ExternalJobRecord) : Prop where
  | succeeded (status : record.status = .succeeded) (result : DurableJobResult) (stored : record.result = some result)
      (valid : validateDurableJobResult result = true) (failureCode : record.failureCode = [])
  | failed (status : record.status = .failed) (result : record.result = none)
      (failureCode : matchesInfrastructureCode record.failureCode = true)
  | cancelled (status : record.status = .cancelled) (result : record.result = none) (failureCode : record.failureCode = [])

def Encodable (now : Time) (record : ExternalJobRecord) : Prop :=
  ∀ eventID, matchesExternalID eventID = true → ∃ event, encodeTerminalWebhookEvent ⟨eventID, now, record⟩ = .ok event

theorem terminalPayload_some_iff (event : TerminalWebhookEvent) :
    (∃ payload, terminalPayload event = .ok payload) ↔ Final event.job := by
  constructor
  · rintro ⟨payload, encoded⟩
    cases terminalPayload_iff.mp encoded with
    | succeeded status result stored valid failureCode => exact .succeeded status result stored valid failureCode
    | failed status result failureCode => exact .failed status result failureCode
    | cancelled status result failureCode => exact .cancelled status result failureCode
  · intro final
    cases final with
    | succeeded status result stored valid failureCode =>
      exact ⟨_, terminalPayload_iff.mpr (.succeeded status result stored valid failureCode)⟩
    | failed status result failureCode => exact ⟨_, terminalPayload_iff.mpr (.failed status result failureCode)⟩
    | cancelled status result failureCode => exact ⟨_, terminalPayload_iff.mpr (.cancelled status result failureCode)⟩

theorem Final.encodable (final : Final record) (clock : 0 < now) (tenant : matchesExternalID record.tenantExternalID = true)
    (externalID : matchesExternalID record.externalID = true)
    (reference : record.clientReference.length ≤ 255 ∧ validString record.clientReference = true) : Encodable now record := by
  intro eventID matched
  have nonzero : Time.isZero now = false := beq_eq_false_iff_ne.mpr (Nat.pos_iff_ne_zero.mp clock)
  have identity : validWebhookIdentity ⟨eventID, now, record⟩ = true := by
    simp [validWebhookIdentity, matched, nonzero, tenant, externalID, reference]
  obtain ⟨payload, encoded⟩ := (terminalPayload_some_iff ⟨eventID, now, record⟩).mpr final
  exact ⟨_, by simp only [encodeTerminalWebhookEvent, identity, encoded]; rfl⟩

section Columns

variable {db : Db} {job : JobRow} {record : ExternalJobRecord}

theorem Ends.final (ends : Ends job job') (columns : JobColumns job) (terminal : job'.status.isTerminal = true)
    (reads : Reads next job' record) : Final record := by
  have nothing : job.result = none := columns.unfinished (by rw [ends.running]; rfl)
  cases ends.outcome with
  | requeued status => simp [status, JobStatus.isTerminal] at terminal
  | succeeded status result failureCode =>
    obtain ⟨value, stored⟩ := Option.isSome_iff_exists.mp result
    exact .succeeded (reads.status.trans status) value (reads.result.trans stored) (reads.resultValid value stored)
      (by rw [reads.failureCode, failureCode]; rfl)
  | failed status result failureCode =>
    obtain ⟨code, stored, matched⟩ := failureCode
    refine .failed (reads.status.trans status) (by rw [reads.result, result, nothing]) ?_
    rw [reads.failureCode, stored]
    exact matched
  | cancelled status result failureCode =>
    refine .cancelled (reads.status.trans status) ?_ (by rw [reads.failureCode, failureCode]; rfl)
    rcases result with empty | same
    · rw [reads.result, empty]
    · rw [reads.result, same, nothing]

/-- A queued job that ends keeps the failure code it had when it is cancelled. -/
theorem Closes.final (closes : Closes job job') (columns : JobColumns job)
    (clear : job'.status = .cancelled → job.failureCode.getD [] = []) (reads : Reads next job' record) : Final record := by
  have nothing : record.result = none := by
    rw [reads.result, closes.result]
    exact columns.unfinished (by rw [closes.queued]; rfl)
  rcases closes.ended with ⟨status, code⟩ | ⟨status, code, stored, matched⟩
  · refine .cancelled (reads.status.trans status) nothing ?_
    rw [reads.failureCode, code]
    exact clear status
  · refine .failed (reads.status.trans status) nothing ?_
    rw [reads.failureCode, stored]
    exact matched

theorem JobColumns.encodable (columns : JobColumns job) (same : SameJob job job') (reads : Reads next job' record)
    (clock : 0 < now) (tenants : ∀ tenant ∈ next.tenants, matchesExternalID tenant.externalID = true) (final : Final record) :
    Encodable now record := by
  obtain ⟨tenant, member, _, owner⟩ := reads.tenant
  refine final.encodable clock ?_ ?_ ?_
  · rw [owner]
    exact tenants tenant member
  · rw [reads.externalID, same.externalID]
    exact columns.named.externalID
  · rw [reads.clientReference, same.clientReference]
    exact columns.named.reference

end Columns

/-! ### Statements -/

section Statements

variable {blocker : Blocker} {db : Db}

/-- Only the encoder itself can reject a job with its name, at whichever identifier. -/
theorem persistTerminalEvent_avoids (encodes : blocker = .eventEncoder → Encodable now record) (attempts : Nat)
    (entropy : List Bytes) :
    Avoids blocker.Reports (persistTerminalEvent window now record tenantID callbackID attempts entropy) db := by
  induction attempts generalizing entropy with
  | zero => exact .fail (by cases blocker <;> simp [Blocker.operation])
  | succ attempts ih =>
    unfold persistTerminalEvent
    cases drawn : generateExternalID entropy with
    | error error => exact .fail (by cases blocker <;> simp [Blocker.operation])
    | ok draw =>
      obtain ⟨id, left⟩ := draw
      simp only
      cases encoded : encodeTerminalWebhookEvent ⟨id, now, record⟩ with
      | error error =>
        refine .fail ?_
        cases blocker with
        | ledgerGuard => simp [Blocker.operation]
        | eventEncoder =>
          obtain ⟨event, accepted⟩ := encodes rfl id (generateExternalID_matches drawn)
          rw [encoded] at accepted
          cases accepted
      | ok event =>
        intro error failed
        simp only at failed
        split at failed
        next =>
          split at failed
          next => exact ih left error failed
          next =>
            split at failed
            next => cases failed
            next =>
              rw [← Except.error.inj failed]
              cases blocker <;> simp [Blocker.operation]
        next => cases failed

private theorem insertTerminalWebhookEvent_avoids
    (encodes : blocker = .eventEncoder → (∃ job ∈ db.jobs, job.id = record.internalID ∧ job.callbackID.isSome) → Encodable now record) :
    Avoids blocker.Reports (insertTerminalWebhookEvent window entropy now record) db := by
  refine .after_require (.require _ (by cases blocker <;> simp [Blocker.operation])) fun owner found => ?_
  cases callback : owner.callbackID with
  | none => exact .pure _
  | some callbackID =>
    refine persistTerminalEvent_avoids (fun encoder => encodes encoder ?_) _ _
    obtain ⟨member, owned⟩ := find?_row found
    exact ⟨owner, member, owned, by simp [callback]⟩

private theorem unavailableOn_avoids {α : Type} {read : Db → Except RepositoryError α} (other : operation ≠ blocker.operation) :
    Avoids blocker.Reports (unavailableOn operation read) db :=
  .wrap (.attempt fun _ _ => by simpa using other)

private theorem publishTerminal_avoids {repository : JobRepository} (other : operation ≠ blocker.operation)
    (encodes : blocker = .eventEncoder → ∀ job record, job.id = jobID → Reads db job record → Encodable now record) :
    Avoids blocker.Reports (publishTerminal repository entropy now jobID operation) db := by
  refine .bind (unavailableOn_avoids other) fun record next read => ?_
  obtain ⟨scanned, rfl⟩ := unavailableOn_ok read
  obtain ⟨job, id, reads⟩ := getExternalJobByInternalID_ok scanned
  exact .bind (insertTerminalWebhookEvent_avoids fun encoder _ => encodes encoder job record id reads) fun _ _ _ => .pure _

private theorem releaseAttemptReservation_avoids (covered : blocker = .ledgerGuard → Covered db.attempts db.daily) :
    Avoids blocker.Reports (releaseAttemptReservation tenantID jobID attemptNo now cases full) db := by
  refine .after_require (.require _ (by simp [Blocker.Reports])) fun attempt found => ?_
  obtain ⟨member, holds⟩ := find?_row found
  cases accounted : attempt.accountingDay with
  | none => exact .fail (by simp [Blocker.Reports])
  | some day =>
    simp only
    refine .after_ensure (.ensure fun _ => by simp [Blocker.Reports]) fun positive => ?_
    refine .after_ok rfl ?_
    refine .bind (.ensure fun failed => ?_) fun _ _ _ => .bind (.of_ok rfl) fun _ _ _ => .pure _
    cases blocker with
    | eventEncoder => simp [Blocker.operation]
    | ledgerGuard =>
      rw [decide_eq_false_iff_not] at failed
      exact (failed ((covered rfl).settles member holds.2.2.2 holds.1 accounted (of_decide_eq_true positive) _)).elim

private theorem lockActiveClaimAndPolicy_avoids : Avoids blocker.Reports (lockActiveClaimAndPolicy claim now) db := by
  refine .bind (.require _ (by simp [Blocker.Reports])) fun _ _ _ => ?_
  refine .bind (.require _ (by cases blocker <;> simp [Blocker.operation])) fun _ _ _ => ?_
  exact .bind (.require _ (by simp [Blocker.Reports])) fun _ _ _ => .pure _

private theorem finishAttempt_avoids : Avoids blocker.Reports (finishAttempt claim status code consumed now) db :=
  .bind (.of_ok rfl) fun _ _ _ => .ensure fun _ => by simp [Blocker.Reports]

private theorem expireAttempt_avoids (covered : blocker = .ledgerGuard → Covered db.attempts db.daily) :
    Avoids blocker.Reports (expireAttempt tenantID jobID attemptNo now) db :=
  .bind (releaseAttemptReservation_avoids covered) fun _ _ _ => .bind (.of_ok rfl) fun _ _ _ => .ensure fun _ => by
    simp [Blocker.Reports]

private theorem reserveDailyExecution_avoids : Avoids blocker.Reports (reserveDailyExecution tenantID day limit reserve) db := by
  refine .bind (.ensure fun _ => by simp [Blocker.Reports]) fun _ _ _ => ?_
  split
  next => exact .pure _
  next =>
    refine .bind (.execute _) fun _ _ _ => ?_
    refine .bind (.require _ (by cases blocker <;> simp [Blocker.operation])) fun _ _ _ => ?_
    split
    next => exact .pure _
    next =>
      refine .bind (.of_ok rfl) fun _ _ _ => ?_
      exact .bind (.ensure fun _ => by cases blocker <;> simp [Blocker.operation]) fun _ _ _ => .pure _

end Statements

/-! ### Transactions -/

section Transactions

variable {blocker : Blocker} {db : Db} {repository : JobRepository} {entropy : List Bytes}

section

variable (keys : Keys (lifecycle db))
include keys

private theorem publishEnded_avoids (ends : Ends job job') (terminal : job'.status.isTerminal = true)
    (jobs : Replaced job job' db.jobs jobs')
    (ended : EndsAttempt { db with jobs := jobs' } mid tenantID job.id job.attemptNo db.now attempt attempt' row row' consumed)
    (columns : blocker = .eventEncoder → Columns db) (other : operation ≠ blocker.operation) :
    Avoids blocker.Reports (publishTerminal repository entropy db.now job.id operation) mid := by
  refine publishTerminal_avoids other fun encoder found record id reads => ?_
  have awake : job'.status ≠ .queued := by
    intro waiting
    rw [waiting] at terminal
    cases terminal
  obtain ⟨keyed, present, -, tenants⟩ := ended.frame (jobs.keyed keys.jobs ends.same.id) jobs.mem_right awake
  obtain rfl : found = job' := keyed.eq reads.member present (id.trans ends.same.id.symm)
  have own := (columns encoder).jobs job jobs.mem_left
  exact own.encodable ends.same reads (columns encoder).clock (by rw [tenants]; exact (columns encoder).tenants)
    (ends.final own terminal reads)

section

variable (covered : blocker = .ledgerGuard → Covered db.attempts db.daily)
include covered

theorem complete_avoids
    (columns : blocker = .eventEncoder → Columns db) : Avoids blocker.Reports (complete repository entropy claim result) db := by
  refine .after_ensure (.ensure fun _ => by simp [Blocker.Reports]) fun valid => ?_
  simp only [decide_eq_true_eq] at valid
  refine .after_ok rfl ?_
  refine .bind lockActiveClaimAndPolicy_avoids fun ⟨cancelled, policy⟩ next lock => ?_
  obtain ⟨rfl, job, member, held, rfl, -⟩ := lockActiveClaimAndPolicy_ok lock
  refine .after_ok rfl ?_
  refine .after_ensure (.ensure fun _ => by simp [Blocker.Reports]) fun _ => ?_
  refine .bind (releaseAttemptReservation_avoids covered) fun consumed settled release => ?_
  refine .bind finishAttempt_avoids fun _ finished finish => ?_
  obtain ⟨id, running, number, worker, token, _⟩ := heldBy_iff.mp held
  have jobs := updateClaimed_ok (f := completedJob job.cancelRequestedAt.isSome result db.now) keys.jobs member
    (claimedBy_iff.mpr ⟨id, running, number, worker, token⟩)
  obtain ⟨attempt, attempt', row, row', ended, -⟩ := finishAttempt_ok release finish keys.daily keys.attempts
    (fun item member => (validated_cases valid.2 item member).2.2.1) (by split <;> simp)
  rw [← id, ← number] at ended
  rw [← id]
  refine publishEnded_avoids keys (completedJob_ends result db.now running) ?_ jobs ended columns
    (by cases blocker <;> simp [Blocker.operation])
  simp only [completedJob]
  split <;> rfl

theorem failInfrastructure_avoids {failure : InfrastructureFailure} (columns : blocker = .eventEncoder → Columns db) :
    Avoids blocker.Reports (failInfrastructure repository entropy claim failure) db := by
  refine .after_ensure (.ensure fun _ => by simp [Blocker.Reports]) fun valid => ?_
  simp only [decide_eq_true_eq] at valid
  refine .after_ok rfl ?_
  refine .bind lockActiveClaimAndPolicy_avoids fun ⟨cancelled, encoded⟩ next lock => ?_
  obtain ⟨rfl, job, member, held, rfl, -⟩ := lockActiveClaimAndPolicy_ok lock
  refine .after_require (.require _ (by simp [Blocker.Reports])) fun policy decoded => ?_
  refine .after_ok rfl ?_
  refine .after_ensure (.ensure fun _ => by simp [Blocker.Reports]) fun _ => ?_
  refine .bind (releaseAttemptReservation_avoids covered) fun consumed settled release => ?_
  refine .bind finishAttempt_avoids fun _ finished finish => ?_
  obtain ⟨id, running, number, worker, token, _⟩ := heldBy_iff.mp held
  generalize chosen : failureDisposition job.cancelRequestedAt.isSome failure claim.attemptNo policy = disposition at *
  have jobs := updateClaimed_ok (f := failedJob disposition failure db.now) keys.jobs member
    (claimedBy_iff.mpr ⟨id, running, number, worker, token⟩)
  obtain ⟨attempt, attempt', row, row', ended, -⟩ := finishAttempt_ok release finish keys.daily keys.attempts
    (by simp) (by split <;> simp)
  rw [← id, ← number] at ended
  rw [← id]
  have ends := failedJob_ends disposition db.now running valid.2.1
    (fun requeued => number ▸ attemptNo_lt_max decoded (failureDisposition_requeued (chosen.trans requeued)))
    (fun requested => chosen.symm.trans (failureDisposition_cancelled requested))
  split
  next open_ =>
    refine .bind (publishEnded_avoids keys ends ?_ jobs ended columns (by cases blocker <;> simp [Blocker.operation]))
      fun _ _ _ => .pure _
    cases disposition with
    | requeued => exact (open_ rfl).elim
    | terminal | cancelled => rfl
  next => exact .pure _

end

theorem cancel_avoids (columns : blocker = .eventEncoder → Columns db)
    (clear : blocker = .eventEncoder → ∀ job ∈ db.jobs, job.status = .queued → job.callbackID.isSome → Readable db job →
      job.failureCode.getD [] = []) : Avoids blocker.Reports (cancel repository entropy tenantExternalID jobExternalID) db := by
  refine .after_ensure (.ensure fun _ => by simp [Blocker.Reports]) fun _ => ?_
  refine .after_require (.require _ (by simp [Blocker.Reports])) fun _ _ => ?_
  refine .bind (.wrap (.attempt fun error _ => ?_)) fun first next read => ?_
  · split
    next => simp [Blocker.Reports]
    next => cases blocker <;> simp [Blocker.operation]
  obtain ⟨scanned, rfl⟩ := attempt_ok (wrap_ok read)
  obtain ⟨⟨job, _, _, _, _⟩, selected, readable, reads⟩ := getExternalJobWhere_ok scanned
  refine .after_ok rfl ?_
  have reread : ∀ {last : Db} {read : Db → Except RepositoryError ExternalJobRecord},
      Avoids blocker.Reports (unavailableOn "read cancelled job" read) last :=
    unavailableOn_avoids (by cases blocker <;> simp [Blocker.operation])
  cases stage : first.status with
  | queued =>
    simp only
    refine .after_ok rfl ?_
    refine .bind reread fun second next read => ?_
    obtain ⟨rescanned, rfl⟩ := unavailableOn_ok read
    have waiting : job.status = .queued := reads.status.symm.trans stage
    obtain ⟨jobs, closes⟩ := cancelQueued_closes keys.jobs reads waiting
    obtain ⟨⟨other, _, _, _, _⟩, again, _, rereads⟩ := getExternalJobWhere_ok rescanned
    have written := keys.replace_job jobs closes.same.id closes.same.externalID
    simp only [decide_eq_true_eq] at selected again
    obtain rfl : other = cancelQueued db.now job :=
      written.externalIDs.eq rereads.member jobs.mem_right (again.2.trans selected.2.symm)
    refine .bind (insertTerminalWebhookEvent_avoids fun encoder subscribed => ?_) fun _ _ _ => .pure _
    obtain ⟨owner, inside, id, some⟩ := subscribed
    obtain rfl : owner = cancelQueued db.now job := written.jobs.eq inside jobs.mem_right (id.trans rereads.internalID)
    have own := (columns encoder).jobs job reads.member
    refine own.encodable closes.same rereads (columns encoder).clock (columns encoder).tenants
      (closes.final own (fun _ => ?_) rereads)
    exact clear encoder job reads.member waiting some readable
  | running =>
    simp only
    split
    next => exact .bind (.of_ok rfl) fun _ _ _ => reread
    next => exact reread
  | succeeded | failed | cancelled => exact reread

end

private theorem lockClaimTarget_avoids : Avoids (fun failure => blocker.Reports failure.error)
    (lockClaimTarget session now) db := by
  refine .bind (.query _) fun selected _ _ => ?_
  cases selected with
  | none => exact .bind (.query _) fun _ _ _ => .fail (by simp [Blocker.Reports])
  | some candidate =>
    refine .bind (.require _ (by cases blocker <;> simp [Blocker.operation])) fun tenant _ _ => ?_
    refine .bind (.attempt fun failure failed => ?_) fun policy _ _ => ?_
    · unfold claimPolicy at failed
      split at failed
      next =>
        split at failed
        next => cases failed
        next =>
          rw [← Except.error.inj failed]
          simp [Blocker.Reports]
      next => cases failed
    refine .bind (.require _ (by simp [Blocker.Reports])) fun row _ _ => ?_
    refine .bind (.attempt fun failure failed => ?_) fun _ _ _ => .pure _
    unfold claimReservation at failed
    split at failed
    next =>
      rw [← Except.error.inj failed]
      cases blocker <;> simp [Blocker.operation]
    next =>
      split at failed
      next =>
        rw [← Except.error.inj failed]
        cases blocker <;> simp [Blocker.operation]
      next =>
        split at failed
        next =>
          rw [← Except.error.inj failed]
          cases blocker <;> simp [Blocker.operation]
        next => cases failed

private theorem startAttempt_avoids : Avoids blocker.Reports (startAttempt session workerID lease now target) db := by
  refine .bind (.ensure fun _ => by simp [Blocker.Reports]) fun _ _ _ => ?_
  refine .bind (.require _ (by cases blocker <;> simp [Blocker.operation])) fun _ _ _ => ?_
  refine .bind (.of_ok rfl) fun _ _ _ => ?_
  refine .bind (.ensure fun _ => by simp [Blocker.Reports]) fun _ _ _ => ?_
  refine .bind ?_ fun _ _ _ => .bind (.execute _) fun _ _ _ => ?_
  · refine .bind (.query _) fun _ _ _ => ?_
    exact .bind (.ensure fun _ => by cases blocker <;> simp [Blocker.operation]) fun _ _ _ => .execute _
  · exact .bind (unavailableOn_avoids (by cases blocker <;> simp [Blocker.operation])) fun _ _ _ => .pure _

private theorem settleExpiredJob_avoids (keys : Keys (lifecycle db)) (member : job ∈ db.jobs)
    (expired : EndsAttempt db mid tenantID job.id job.attemptNo db.now attempt attempt' row row' 0) (ends : Ends job (change job))
    (terminal : (change job).status.isTerminal = true) (columns : blocker = .eventEncoder → Columns db)
    (other : operation ≠ blocker.operation) :
    Avoids blocker.Reports (settleExpiredJob repository session db.now job change operation) mid := by
  obtain ⟨keyed, present, -, tenants⟩ := expired.frame keys.jobs member (by simp [ends.running])
  refine .after_ok rfl (publishTerminal_avoids other fun encoder found record id reads => ?_)
  have jobs := updateRunning_ok change keyed present ends.running
  obtain rfl : found = change job :=
    (jobs.keyed keyed ends.same.id).eq reads.member jobs.mem_right (id.trans ends.same.id.symm)
  have own := (columns encoder).jobs job member
  refine own.encodable ends.same reads (columns encoder).clock ?_ (ends.final own terminal reads)
  simp only
  rw [tenants]
  exact (columns encoder).tenants

private theorem failImpossibleDailyExecution_avoids (db : Db) (keyed : Keyed JobRow.id mid.jobs) (present : job ∈ mid.jobs)
    (tenants : mid.tenants = db.tenants) (columns : blocker = .eventEncoder → Columns db ∧ JobColumns job)
    (clock : now = db.now) (final : ∀ next record, JobColumns job → Reads next (impossibleJob now job) record → Final record) :
    Avoids blocker.Reports (failImpossibleDailyExecution repository entropy tenantID job.id job.status job.attemptNo now) mid := by
  refine .after_ok rfl ?_
  refine .after_ensure (.ensure fun _ => by simp [Blocker.Reports]) fun one => ?_
  refine .bind (.execute _) fun _ next advance => ?_
  obtain rfl := execute_ok advance
  refine publishTerminal_avoids (by cases blocker <;> simp [Blocker.operation]) fun encoder found record id reads => ?_
  have jobs := update_known keyed present (fun other selected => selected.2.1) (of_decide_eq_true one)
  obtain rfl : found = impossibleJob now job := (jobs.keyed keyed rfl).eq reads.member jobs.mem_right id
  obtain ⟨whole, own⟩ := columns encoder
  have same : SameJob job (impossibleJob now job) := ⟨rfl, rfl, rfl, rfl, rfl, rfl, rfl, rfl⟩
  refine own.encodable same reads (clock ▸ whole.clock) ?_ (final _ record own reads)
  intro tenant listed
  rcases mem_update.mp listed with ⟨old, known, _, rfl⟩ | ⟨known, _⟩
  · exact whole.tenants old (tenants ▸ known)
  · exact whole.tenants tenant (tenants ▸ known)

section

variable (keys : Keys (lifecycle db))
include keys

private theorem recoverExpiredJob_avoids (targets : Targets db db.now target)
    (running : target.job.status = .running) (covered : blocker = .ledgerGuard → Covered db.attempts db.daily)
    (columns : blocker = .eventEncoder → Columns db) :
    Avoids blocker.Reports (recoverExpiredJob repository session db.now target) db := by
  refine .bind (expireAttempt_avoids covered) fun _ settled expire => ?_
  obtain ⟨attempt, attempt', row, row', expired, status⟩ := expireAttempt_ok keys.daily keys.attempts expire
  have settle : ∀ (change : JobRow → JobRow) {operation : String}, Ends target.job (change target.job) →
      (change target.job).status.isTerminal = true → operation ≠ blocker.operation →
      Avoids blocker.Reports (settleExpiredJob repository session db.now target.job change operation) settled :=
    fun _ _ ends terminal other => settleExpiredJob_avoids keys targets.member expired ends terminal columns other
  split
  next =>
    refine .bind (settle _ ?_ rfl (by cases blocker <;> simp [Blocker.operation])) fun _ _ _ => .pure _
    exact failedJob_settled running (by decide) fun _ => rfl
  next =>
    split
    next =>
      refine .bind (settle _ ?_ rfl (by cases blocker <;> simp [Blocker.operation])) fun _ _ _ => .pure _
      exact cancelledJob_settled running
    next unrequested =>
      have failed : ∀ {code : GoString}, matchesInfrastructureCode code = true →
          Ends target.job { target.job.releaseLease with status := .failed, failureCode := some code, completedAt := some db.now } :=
        fun matched => failedJob_settled running matched fun requested => absurd requested unrequested
      split
      next =>
        refine .bind (settle _ ?_ rfl (by cases blocker <;> simp [Blocker.operation])) fun _ _ _ => .pure _
        exact failed (by decide)
      next =>
        refine .bind reserveDailyExecution_avoids fun decision reserved reserve => ?_
        have reserves := reserveDailyExecution_ok (expired.daily_keyed keys.daily) reserve
        cases decision with
        | impossible =>
          obtain ⟨jobs, present, -, same⟩ := expired.frame keys.jobs targets.member (by simp [running])
          rw [← reserves.frame.1] at jobs present
          refine .bind (failImpossibleDailyExecution_avoids db jobs present ?_ ?_ rfl ?_) fun _ _ _ => .pure _
          · rw [reserves.frame.2, same]
          · exact fun encoder => ⟨columns encoder, (columns encoder).jobs _ targets.member⟩
          · intro next record own reads
            have ends : Ends target.job (impossibleJob db.now target.job) := failed (by decide)
            exact ends.final own rfl reads
        | deferred => exact .bind (.bind (.of_ok rfl) fun _ _ _ => .execute _) fun _ _ _ => .pure _
        | allowed => exact .pure _

private theorem admitQueuedJob_avoids (targets : Targets db db.now target)
    (queued : target.job.status = .queued) (columns : blocker = .eventEncoder → Columns db) :
    Avoids (fun failure => blocker.Reports failure.error) (admitQueuedJob repository session db.now target) db := by
  refine .after_ok rfl ?_
  refine .after_ensure (.ensure fun _ => by simp [Blocker.Reports]) fun _ => ?_
  refine .after_ensure (.ensure fun _ => by simp [Blocker.Reports]) fun _ => ?_
  refine .bind (.wrap reserveDailyExecution_avoids) fun decision reserved reserve => ?_
  have reserves := reserveDailyExecution_ok keys.daily (wrap_ok reserve)
  cases decision with
  | impossible =>
    have jobs : Keyed JobRow.id reserved.jobs := reserves.frame.1 ▸ keys.jobs
    have present : target.job ∈ reserved.jobs := reserves.frame.1 ▸ targets.member
    refine .bind (.wrap (failImpossibleDailyExecution_avoids db jobs present reserves.frame.2 ?_ rfl ?_))
      fun _ _ _ => .pure _
    · exact fun encoder => ⟨columns encoder, (columns encoder).jobs _ targets.member⟩
    · intro next record own reads
      exact (impossibleJob_closes queued).final own (by simp [impossibleJob]) reads
  | deferred => exact .bind (.wrap (.bind (.of_ok rfl) fun _ _ _ => .execute _)) fun _ _ _ => .pure _
  | allowed => exact .pure _

theorem claimTransaction_avoids (covered : blocker = .ledgerGuard → Covered db.attempts db.daily)
    (columns : blocker = .eventEncoder → Columns db) :
    Avoids (fun failure => blocker.Reports failure.error) (claimTransaction repository session workerID lease) db := by
  refine .after_ensure (.ensure fun _ => by simp [Blocker.Reports]) fun _ => ?_
  refine .after_ok rfl ?_
  refine .bind lockClaimTarget_avoids fun target next lock => ?_
  obtain ⟨rfl, targets, -⟩ := lockClaimTarget_ok lock
  refine .bind ?_ fun start _ _ => ?_
  · unfold prepareAttempt
    cases status : target.job.status with
    | running => exact .wrap (recoverExpiredJob_avoids keys targets status covered columns)
    | queued => exact admitQueuedJob_avoids keys targets status columns
    | succeeded | failed | cancelled => exact .fail (by simp [Blocker.Reports])
  · split
    next => exact .bind (.wrap startAttempt_avoids) fun _ _ _ => .pure _
    next => exact .pure _

end

end Transactions

/-- No transaction that may end a job fails because of the blocker. -/
structure NeverBlocked (blocker : Blocker) (repository : JobRepository) (db : Db) : Prop where
  claim : ∀ session workerID lease,
    Avoids (fun failure => blocker.Reports failure.error) (claimTransaction repository session workerID lease) db
  complete : ∀ entropy claim result, Avoids blocker.Reports (complete repository entropy claim result) db
  failInfrastructure : ∀ entropy claim failure, Avoids blocker.Reports (failInfrastructure repository entropy claim failure) db
  cancel : ∀ entropy tenantExternalID jobExternalID,
    Avoids blocker.Reports (cancel repository entropy tenantExternalID jobExternalID) db

end JudgingServer.Proofs
