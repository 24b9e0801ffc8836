import JudgingServer.Proofs.ClaimRefinement
import JudgingServer.Proofs.Fencing

/-! Every step of the job system is a sequence of moves, so that what the moves keep
holds along every run. -/

namespace JudgingServer.Proofs
open Go External Library Table Transaction

/-- What a step did: the claims, the settlements and the cancellations that committed, the jobs that
were submitted, or nothing to the tables of the jobs. -/
inductive StepTurn (repository : JobRepository) (db db' : Db) : Event → Prop where
  | kept (rows : lifecycle db' = lifecycle db)
      (tenants : (∀ tenants bundles callbacks, event ≠ .provision tenants bundles callbacks) → db'.tenants = db.tenants)
      (unclaimed : ∀ session workerID lease, event = .claim session workerID lease →
        ∃ failure, claimTransaction repository session workerID lease db = .error failure) : StepTurn repository db db' event
  | submitted (prepared : Prepared repository tenantExternalID idempotencyKey request submission)
      (submits : Submits repository submission assigned db db' tenant policy bundleID callbackID result) :
      StepTurn repository db db' (.submit draws tenantExternalID idempotencyKey request assigned)
  | claimed (ran : claimTransaction repository session workerID lease db = .ok (outcome, db'))
      (locked : lockClaimTarget session db.now db = .ok (target, db))
      (turn : ClaimTurn session db db' target (ClaimOutcome.claim outcome)) :
      StepTurn repository db db' (.claim session workerID lease)
  | renewed (committed : heartbeat claim lease db = .ok ((), db')) :
      StepTurn repository db db' (.heartbeat claim lease)
  | settled (turn : SettleTurn db db' job job')
      (unclaimed : ∀ session workerID lease, event ≠ .claim session workerID lease) : StepTurn repository db db' event
  | cancelled (cancels : Cancels db db' jobExternalID record) :
      StepTurn repository db db' (.cancel entropy tenantExternalID jobExternalID)

variable (events : List Event)

section Steps

private theorem settleOutcome_failed {ε α : Type} {tx : Transaction Db ε α} {report : ε → Option RepositoryError}
    (failed : (settleOutcome report (tx.commit db)).1 = some error) : (settleOutcome report (tx.commit db)).2 = db := by
  obtain ⟨value, next, _, committed⟩ | ⟨_, _, rolledBack⟩ := commit_cases tx db
  · rw [committed] at failed
    cases failed
  · rw [rolledBack]
    rfl

/-- A step that reports an error leaves the database as it was. -/
theorem perform_failed (failed : (perform repository event db).1 = some error) : step repository event db = db := by
  cases event with
  | tick elapsed => cases failed
  | provision tenants bundles callbacks => cases failed
  | reserve objectKey token lease => cases failed
  | release claim => cases failed
  | submit draws tenantExternalID idempotencyKey request assigned =>
    unfold step
    simp only [perform] at failed ⊢
    split at failed
    next => rfl
    next => exact settleOutcome_failed failed
  | claim session workerID lease => exact settleOutcome_failed failed
  | heartbeat claim lease => exact settleOutcome_failed failed
  | complete entropy claim result => exact settleOutcome_failed failed
  | failInfrastructure entropy claim failure => exact settleOutcome_failed failed
  | cancel entropy tenantExternalID jobExternalID => exact settleOutcome_failed failed

private theorem tryAcquireSourceReservation_frame (objectKey : GoString) (token : Bytes) (lease : Duration) (db : Db) :
    lifecycle (tryAcquireSourceReservation objectKey token lease db).2 = lifecycle db := by
  unfold tryAcquireSourceReservation
  split <;> rfl

private theorem commit_turn {ε α : Type} {tx : Transaction Db ε α} {report : ε → Option RepositoryError}
    (turns : ∀ value next, tx db = .ok (value, next) → StepTurn repository db next event)
    (unclaimed : ∀ session workerID lease, event ≠ .claim session workerID lease) :
    StepTurn repository db (settleOutcome report (tx.commit db)).2 event := by
  obtain ⟨value, next, run, committed⟩ | ⟨error, run, rolledBack⟩ := commit_cases tx db
  · rw [committed]
    exact turns value next run
  · rw [rolledBack]
    exact .kept rfl (fun _ => rfl) fun session workerID lease same => absurd same (unclaimed session workerID lease)

theorem step_turn (repository : JobRepository) (event : Event) (keys : Keys (lifecycle db)) :
    StepTurn repository db (step repository event db) event := by
  unfold step perform
  cases event with
  | tick elapsed => exact .kept rfl (fun _ => rfl) nofun
  | provision tenants bundles callbacks => exact .kept rfl (fun other => absurd rfl (other _ _ _)) nofun
  | reserve objectKey token lease =>
    refine .kept (tryAcquireSourceReservation_frame objectKey token lease db) (fun _ => ?_) nofun
    simp only [tryAcquireSourceReservation]
    split <;> rfl
  | release claim => exact .kept rfl (fun _ => rfl) nofun
  | submit draws tenantExternalID idempotencyKey request assigned =>
    cases prepared : prepareSubmission repository draws tenantExternalID idempotencyKey request with
    | error error =>
      simp only [prepared]
      exact .kept rfl (fun _ => rfl) nofun
    | ok submission =>
      simp only [prepared]
      refine commit_turn (fun result next committed => ?_) nofun
      obtain ⟨tenant, policy, bundleID, callbackID, submits⟩ := submitTransaction_ok committed
      exact .submitted (prepareSubmission_ok prepared) submits
  | claim session workerID lease =>
    obtain ⟨outcome, next, ran, committed⟩ | ⟨failure, ran, rolledBack⟩ :=
      commit_cases (claimTransaction repository session workerID lease) db
    · simp only [committed, settleOutcome]
      obtain ⟨target, locked, turn⟩ := claimTransaction_turn keys ran
      exact .claimed ran locked turn
    · simp only [rolledBack, settleOutcome]
      refine .kept rfl (fun _ => rfl) fun _ _ _ same => ?_
      cases same
      exact ⟨failure, ran⟩
  | heartbeat claim lease => exact commit_turn (fun _ _ committed => .renewed committed) nofun
  | complete entropy claim result =>
    refine commit_turn (fun _ next committed => ?_) nofun
    obtain ⟨job, -, -, job', turn⟩ := complete_turn keys committed
    exact .settled turn nofun
  | failInfrastructure entropy claim failure =>
    refine commit_turn (fun _ next committed => ?_) nofun
    obtain ⟨job, -, -, job', turn⟩ := failInfrastructure_turn keys committed
    exact .settled turn nofun
  | cancel entropy tenantExternalID jobExternalID =>
    exact commit_turn (fun record next committed => .cancelled (cancel_ok keys committed)) nofun

theorem StepTurn.quiet_or_claimed (turn : StepTurn repository db db' event) (keys : Keys (lifecycle db)) :
    ((∀ policies, Moves policies (lifecycle db) (lifecycle db')) ∧ ∀ session workerID lease, event = .claim session workerID lease →
      ∃ failure, claimTransaction repository session workerID lease db = .error failure) ∨
    ∃ session workerID lease outcome target, event = .claim session workerID lease ∧
      claimTransaction repository session workerID lease db = .ok (outcome, db') ∧
      ClaimTurn session db db' target (ClaimOutcome.claim outcome) := by
  cases turn with
  | kept rows tenants unclaimed => exact .inl ⟨fun _ => rows ▸ .refl, unclaimed⟩
  | submitted prepared submits => exact .inl ⟨fun _ => submits.moves prepared, nofun⟩
  | claimed ran locked turn => exact .inr ⟨_, _, _, _, _, rfl, ran, turn⟩
  | renewed committed => exact .inl ⟨fun _ => heartbeat_moves keys committed, nofun⟩
  | settled turn unclaimed => exact .inl ⟨fun _ => turn.moves, fun _ _ _ same => absurd same (unclaimed _ _ _)⟩
  | cancelled cancels => exact .inl ⟨fun _ => cancels.moves, nofun⟩

theorem step_moves (repository : JobRepository) (event : Event) (keys : Keys (lifecycle db)) :
    Moves (ActivePolicy db) (lifecycle db) (lifecycle (step repository event db)) := by
  have turn := step_turn repository event keys
  obtain ⟨moves, -⟩ | ⟨_, _, _, _, _, -, -, turn⟩ := turn.quiet_or_claimed keys
  · exact moves _
  · exact turn.moves turn.active

/-- What every move keeps holds in every reachable state. -/
theorem run_lifecycle {invariant : Lifecycle → Prop} (keyed : ∀ life, invariant life → Keys life)
    (keeps : ∀ policies life life', Move policies life life' → invariant life → invariant life') (events : List Event)
    (start : invariant (lifecycle db)) : invariant (lifecycle (run (step repository) events db)) := by
  have steps : ∀ db event, invariant (lifecycle db) → invariant (lifecycle (step repository event db)) := by
    intro db event holds
    have moves := step_moves repository event (keyed _ holds)
    exact moves.invariant (keeps _) holds
  exact run_invariant steps events start

theorem run_fenced (fenced : Fenced (lifecycle db)) : Fenced (lifecycle (run (step repository) events db)) :=
  run_lifecycle (fun _ => Fenced.toKeys) (fun _ _ _ => Move.fenced) events fenced

theorem run_sameJob (keys : Keys (lifecycle db)) (member : job ∈ db.jobs) :
    ∃ job' ∈ (run (step repository) events db).jobs, SameJob job job' := by
  have keeps : ∀ policies life life', Move policies life life' → Keys life ∧ (∃ job' ∈ life.jobs, SameJob job job') →
      Keys life' ∧ ∃ job' ∈ life'.jobs, SameJob job job' := by
    rintro policies life life' move ⟨keys, job', inside, same⟩
    obtain ⟨last, there, again⟩ := move.sameJob inside
    exact ⟨move.keys keys, last, there, same.trans again⟩
  exact (run_lifecycle (fun _ => And.left) keeps events ⟨keys, job, member, .refl job⟩).2

theorem run_terminal_stays (keys : Keys (lifecycle db)) (member : job ∈ db.jobs)
    (ended : job.status.isTerminal = true) : job ∈ (run (step repository) events db).jobs := by
  have keeps : ∀ policies life life', Move policies life life' → Keys life ∧ job ∈ life.jobs → Keys life' ∧ job ∈ life'.jobs :=
    fun _ _ _ move held => ⟨move.keys held.1, move.terminal_stays held.2 ended⟩
  exact (run_lifecycle (fun _ => And.left) keeps events ⟨keys, member⟩).2

end Steps

end JudgingServer.Proofs
