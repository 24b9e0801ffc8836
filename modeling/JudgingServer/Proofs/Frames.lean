import JudgingServer.External.JobSystem

/-! What the transactions leave alone: the workers' transactions write the job,
attempt, ledger and outbox tables and the tenants' claim times, and nothing else. -/

namespace JudgingServer.Proofs
open Go External Library Transaction

variable {invariant : Db → Prop}

/-- A property of the database that does not look at what workers write. -/
structure WorkerFrame (invariant : Db → Prop) : Prop where
  jobs : ∀ db p f, invariant db → invariant { db with jobs := Table.update p f db.jobs }
  attempts : ∀ db attempts, invariant db → invariant { db with attempts }
  daily : ∀ db daily, invariant db → invariant { db with daily }
  outbox : ∀ db outbox, invariant db → invariant { db with outbox }
  fairness : ∀ db p now, invariant db → invariant { db with
    tenants := Table.update p (fun tenant => { tenant with lastClaimedAt := some now }) db.tenants }

private theorem unavailableOn_keeps {α : Type} {read : Db → Except RepositoryError α} :
    Keeps invariant (unavailableOn operation read) := .wrap (.attempt _)

private theorem lockActiveClaimAndPolicy_keeps : Keeps invariant (lockActiveClaimAndPolicy claim now) :=
  .bind (.require _) fun _ => .bind (.require _) fun _ => .bind (.require _) fun _ => .pure _

private theorem lockClaimTarget_keeps : Keeps invariant (lockClaimTarget session now) := by
  refine .bind (.query _) fun selected => ?_
  cases selected with
  | none => exact .bind (.query _) fun _ => .fail
  | some candidate =>
    exact .bind (.require _) fun _ => .bind (.attempt _) fun _ => .bind (.require _) fun _ => .bind (.attempt _) fun _ => .pure _

section Announcement

variable (outbox : ∀ db outbox, invariant db → invariant { db with outbox })
include outbox

private theorem persistTerminalEvent_keeps (attempts : Nat) (entropy : List Bytes) :
    Keeps invariant (persistTerminalEvent window now record tenantID callbackID attempts entropy) := by
  induction attempts generalizing entropy with
  | zero => exact .fail
  | succ attempts ih =>
    unfold persistTerminalEvent
    split
    next => exact .fail
    next =>
      split
      next => exact .fail
      next =>
        intro db eventID next ran holds
        simp only at ran
        split at ran
        next =>
          split at ran
          next => exact ih _ db eventID next ran holds
          next =>
            split at ran
            next =>
              obtain ⟨-, rfl⟩ := Prod.mk.inj (Except.ok.inj ran)
              exact holds
            next => cases ran
        next =>
          obtain ⟨-, rfl⟩ := Prod.mk.inj (Except.ok.inj ran)
          exact outbox db _ holds

theorem insertTerminalWebhookEvent_keeps : Keeps invariant (insertTerminalWebhookEvent window entropy now record) := by
  refine .bind (.require _) fun owner => ?_
  cases owner.callbackID with
  | none => exact .pure _
  | some callbackID => exact persistTerminalEvent_keeps outbox _ _

private theorem publishTerminal_keeps : Keeps invariant (publishTerminal repository entropy now jobID operation) :=
  .bind unavailableOn_keeps fun _ => .bind (insertTerminalWebhookEvent_keeps outbox) fun _ => .pure _

end Announcement

section Worker

variable (frame : WorkerFrame invariant)
include frame

private theorem updateJobs_keeps {ε : Type} : Keeps invariant (updateJobs p f : Transaction Db ε Nat) := by
  intro db _ next ran holds
  obtain ⟨-, rfl⟩ := Prod.mk.inj (Except.ok.inj ran)
  exact frame.jobs db p f holds

private theorem updateAttempts_keeps {ε : Type} : Keeps invariant (updateAttempts p f : Transaction Db ε Nat) := by
  intro db _ next ran holds
  obtain ⟨-, rfl⟩ := Prod.mk.inj (Except.ok.inj ran)
  exact frame.attempts db _ holds

private theorem updateDaily_keeps {ε : Type} : Keeps invariant (updateDaily p f : Transaction Db ε Nat) := by
  intro db _ next ran holds
  obtain ⟨-, rfl⟩ := Prod.mk.inj (Except.ok.inj ran)
  exact frame.daily db _ holds

private theorem advanceTenantFairness_keeps {ε : Type} : Keeps invariant
    (advanceTenantFairness tenantID now : Transaction Db ε Unit) :=
  .execute fun db holds => frame.fairness db _ now holds

private theorem releaseAttemptReservation_keeps :
    Keeps invariant (releaseAttemptReservation tenantID jobID attemptNo now cases full) := by
  refine .bind (.require _) fun attempt => ?_
  cases attempt.accountingDay with
  | none => exact .fail
  | some day =>
    exact .bind .ensure fun _ => .bind (updateDaily_keeps frame) fun _ => .bind .ensure fun _ =>
      .bind (updateJobs_keeps frame) fun _ => .pure _

private theorem finishAttempt_keeps : Keeps invariant (finishAttempt claim status code consumed now) :=
  .bind (updateAttempts_keeps frame) fun _ => .ensure

private theorem heartbeat_keeps : Keeps invariant (heartbeat claim lease) :=
  .bind .ensure fun _ => .bind (.query _) fun _ => .bind (updateJobs_keeps frame) fun _ => .bind .ensure fun _ =>
    .bind (updateAttempts_keeps frame) fun _ => .ensure

private theorem complete_keeps : Keeps invariant (complete repository entropy claim result) :=
  .bind .ensure fun _ => .bind (.query _) fun _ => .bind lockActiveClaimAndPolicy_keeps fun _ =>
    .bind (updateJobs_keeps frame) fun _ => .bind .ensure fun _ => .bind (releaseAttemptReservation_keeps frame) fun _ =>
      .bind (finishAttempt_keeps frame) fun _ => publishTerminal_keeps frame.outbox

private theorem failInfrastructure_keeps {failure : InfrastructureFailure} :
    Keeps invariant (failInfrastructure repository entropy claim failure) := by
  refine .bind .ensure fun _ => .bind (.query _) fun _ => .bind lockActiveClaimAndPolicy_keeps fun _ => ?_
  refine .bind (.require _) fun _ => .bind (updateJobs_keeps frame) fun _ => .bind .ensure fun _ => ?_
  refine .bind (releaseAttemptReservation_keeps frame) fun _ => .bind (finishAttempt_keeps frame) fun _ => ?_
  split
  next => exact .bind (publishTerminal_keeps frame.outbox) fun _ => .pure _
  next => exact .pure _

private theorem cancel_keeps : Keeps invariant (cancel repository entropy tenantExternalID jobExternalID) := by
  refine .bind .ensure fun _ => .bind (.require _) fun _ => .bind (.wrap (.attempt _)) fun job => .bind (.query _) fun _ => ?_
  cases job.status with
  | queued =>
    exact .bind (updateJobs_keeps frame) fun _ => .bind unavailableOn_keeps fun _ =>
      .bind (insertTerminalWebhookEvent_keeps frame.outbox) fun _ => .pure _
  | running =>
    simp only
    split
    next => exact .bind (updateJobs_keeps frame) fun _ => unavailableOn_keeps
    next => exact unavailableOn_keeps
  | succeeded | failed | cancelled => exact unavailableOn_keeps

private theorem reserveDailyExecution_keeps : Keeps invariant (reserveDailyExecution tenantID day limit reserve) := by
  refine .bind .ensure fun _ => ?_
  split
  next => exact .pure _
  next =>
    refine .bind (.execute fun db holds => frame.daily db _ holds) fun _ => .bind (.require _) fun _ => ?_
    split
    next => exact .pure _
    next => exact .bind (updateDaily_keeps frame) fun _ => .bind .ensure fun _ => .pure _

private theorem failImpossibleDailyExecution_keeps :
    Keeps invariant (failImpossibleDailyExecution repository entropy tenantID jobID status attemptNo now) :=
  .bind (updateJobs_keeps frame) fun _ => .bind .ensure fun _ => .bind (advanceTenantFairness_keeps frame) fun _ =>
    publishTerminal_keeps frame.outbox

private theorem recoverExpiredJob_keeps : Keeps invariant (recoverExpiredJob repository session now target) := by
  have settle : ∀ {change : JobRow → JobRow} {operation : String},
      Keeps invariant (settleExpiredJob repository session now target.job change operation) :=
    .bind (updateJobs_keeps frame) fun _ => publishTerminal_keeps frame.outbox
  refine .bind (.bind (releaseAttemptReservation_keeps frame) fun _ => .bind (updateAttempts_keeps frame) fun _ => .ensure)
    fun _ => ?_
  split
  next => exact .bind settle fun _ => .pure _
  next =>
    split
    next => exact .bind settle fun _ => .pure _
    next =>
      split
      next => exact .bind settle fun _ => .pure _
      next =>
        refine .bind (reserveDailyExecution_keeps frame) fun decision => ?_
        cases decision with
        | impossible => exact .bind (failImpossibleDailyExecution_keeps frame) fun _ => .pure _
        | deferred =>
          exact .bind (.bind (updateJobs_keeps frame) fun _ => advanceTenantFairness_keeps frame) fun _ => .pure _
        | allowed => exact .pure _

private theorem admitQueuedJob_keeps : Keeps invariant (admitQueuedJob repository session now target) := by
  refine .bind (.query _) fun _ => .bind .ensure fun _ => .bind .ensure fun _ => ?_
  refine .bind (.wrap (reserveDailyExecution_keeps frame)) fun decision => ?_
  cases decision with
  | impossible => exact .bind (.wrap (failImpossibleDailyExecution_keeps frame)) fun _ => .pure _
  | deferred =>
    exact .bind (.wrap (.bind (updateJobs_keeps frame) fun _ => advanceTenantFairness_keeps frame)) fun _ => .pure _
  | allowed => exact .pure _

private theorem startAttempt_keeps : Keeps invariant (startAttempt session workerID lease now target) := by
  refine .bind .ensure fun _ => .bind (.require _) fun _ => .bind (updateJobs_keeps frame) fun _ => .bind .ensure fun _ => ?_
  refine .bind (.bind (.query _) fun _ => .bind .ensure fun _ => .execute fun db holds => frame.attempts db _ holds) fun _ => ?_
  exact .bind (advanceTenantFairness_keeps frame) fun _ => .bind unavailableOn_keeps fun _ => .pure _

private theorem claimTransaction_keeps : Keeps invariant (claimTransaction repository session workerID lease) := by
  refine .bind .ensure fun _ => .bind (.query _) fun _ => .bind lockClaimTarget_keeps fun target => .bind ?_ fun start => ?_
  · unfold prepareAttempt
    cases target.job.status with
    | running => exact .wrap (recoverExpiredJob_keeps frame)
    | queued => exact admitQueuedJob_keeps frame
    | succeeded | failed | cancelled => exact .fail
  · split
    next => exact .bind (.wrap (startAttempt_keeps frame)) fun _ => .pure _
    next => exact .pure _

end Worker

/-- A property of the database that does not look at what a submission writes. -/
structure SubmitFrame (invariant : Db → Prop) : Prop where
  sources : ∀ db sources, invariant db → invariant { db with sources }
  jobs : ∀ db jobs, invariant db → invariant { db with jobs }
  idempotency : ∀ db idempotency, invariant db → invariant { db with idempotency }
  reservations : ∀ db reservations, invariant db → invariant { db with reservations }

theorem submitTransaction_keeps (frame : SubmitFrame invariant) :
    Keeps invariant (submitTransaction repository submission assigned) := by
  have locks : ∀ first second, Keeps invariant (lockSubmissionReservations first second) :=
    fun _ _ => .bind (.query _) fun _ => .bind .ensure fun _ => .bind (.query _) fun _ => .ensure
  have policy : ∀ tenantExternalID, Keeps invariant (lockTenantPolicy tenantExternalID) :=
    fun _ => .bind (.require _) fun _ => .bind .ensure fun _ => .bind (.require _) fun _ => .pure _
  refine .bind (.wrap (locks _ _)) fun _ => .bind (.wrap (policy _)) fun _ => .bind (.query _) fun _ => ?_
  refine .bind (.execute fun db holds => frame.idempotency db _ holds) fun _ => .bind (.query _) fun found => ?_
  cases found with
  | some record => exact .bind (.wrap (.attempt _)) fun _ => .fail
  | none =>
    refine .bind (.wrap ?_) fun _ => .bind (.wrap ?_) fun _ => .pure _
    · refine .bind .ensure fun _ => .bind (.query _) fun _ => .bind .ensure fun _ => .bind (.require _) fun _ => ?_
      split
      next => exact .pure _
      next => exact .bind (.require _) fun _ => .pure _
    · refine .bind (.bind (.query _) fun _ => .bind .ensure fun _ => .execute fun db holds => frame.sources db _ holds) fun _ => ?_
      refine .bind (.bind (.query _) fun _ => .bind .ensure fun _ => .execute fun db holds => frame.jobs db _ holds) fun _ => ?_
      refine .bind (.bind (.query _) fun _ => .bind .ensure fun _ => .execute fun db holds => frame.idempotency db _ holds) fun _ => ?_
      refine .bind (.bind (.query _) fun _ => .bind (.execute fun db holds => frame.reservations db _ holds) fun _ => .ensure) fun _ => ?_
      exact unavailableOn_keeps

private theorem settleOutcome_snd {ε α : Type} {report : ε → Option RepositoryError} (outcome : Except ε α × Db) :
    (settleOutcome report outcome).2 = outcome.2 := by
  obtain ⟨result, db⟩ := outcome
  cases result <;> rfl

/-- A step keeps what the workers do not look at, if the clock, the reservations, the
provisioned tables and the submissions keep it too. -/
theorem step_keeps {db : Db} {event : Event} (frame : WorkerFrame invariant)
    (clock : ∀ elapsed, invariant { db with now := db.now + elapsed })
    (reservations : ∀ reservations, invariant { db with reservations })
    (provisioned : ∀ tenants bundles callbacks, event = .provision tenants bundles callbacks → invariant { db with tenants, bundles, callbacks })
    (submitted : ∀ draws tenantExternalID idempotencyKey request assigned, event = .submit draws tenantExternalID idempotencyKey request assigned → ∀ submission, Keeps invariant (submitTransaction repository submission assigned))
    (holds : invariant db) : invariant (step repository event db) := by
  unfold step perform
  cases event with
  | tick elapsed => exact clock elapsed
  | provision tenants bundles callbacks => exact provisioned tenants bundles callbacks rfl
  | reserve objectKey token lease =>
    simp only [tryAcquireSourceReservation]
    split
    next => exact reservations _
    next => exact reservations _
  | release claim => exact reservations _
  | submit draws tenantExternalID idempotencyKey request assigned =>
    simp only
    split
    next => exact holds
    next submission _ =>
      rw [settleOutcome_snd]
      exact (submitted _ _ _ _ _ rfl submission).commit holds
  | claim session workerID lease =>
    rw [settleOutcome_snd]
    exact (claimTransaction_keeps frame).commit holds
  | heartbeat claim lease =>
    rw [settleOutcome_snd]
    exact (heartbeat_keeps frame).commit holds
  | complete entropy claim result =>
    rw [settleOutcome_snd]
    exact (complete_keeps frame).commit holds
  | failInfrastructure entropy claim failure =>
    rw [settleOutcome_snd]
    exact (failInfrastructure_keeps frame).commit holds
  | cancel entropy tenantExternalID jobExternalID =>
    rw [settleOutcome_snd]
    exact (cancel_keeps frame).commit holds

end JudgingServer.Proofs
