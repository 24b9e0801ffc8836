import JudgingServer.Proofs.WebhookSettlements

/-! The times of the webhook worker: how long it backs off, and what it takes for the time
of the database while it delivers. -/

namespace JudgingServer.Proofs
open Go External

/-! ### Backoff -/

/-- The values that the delay has in the loop of `webhookBackoff`, one more than it has iterations. -/
def delays (maximum : Duration) : Nat → Duration → List Duration
  | 0, delay => [delay]
  | remaining + 1, delay =>
    if delay < maximum then delay :: if maximum / 2 < delay then [maximum] else delays maximum remaining (2 * delay)
    else [delay]

/-- Every number that `webhookBackoff` computes from an accepted input and a random word. -/
def backoffValues (base maximum : Duration) (attempt : Nat) (word : UInt64) : List Int :=
  let delay := doubleDelay maximum (attempt - 1) base
  let high := mulHigh word (.ofNat delay.toNat)
  delays maximum (attempt - 1) base ++ [maximum / 2, delay / 2, high.toNat, delay / 2 + high.toNat]

section Backoff

variable {base maximum delay retryAfter : Int}

private theorem doubleDelay_eq (remaining : Nat) (positive : 0 < delay) (within : delay ≤ maximum) :
    doubleDelay maximum remaining delay = min maximum (delay * 2 ^ remaining) := by
  induction remaining generalizing delay with
  | zero => simp [doubleDelay, within]
  | succ remaining ih =>
    unfold doubleDelay
    have grows : 2 * delay ≤ delay * 2 ^ (remaining + 1) := by
      have power : (1 : Int) ≤ 2 ^ remaining := Int.pow_pos (by decide)
      calc 2 * delay = delay * 2 * 1 := by omega
        _ ≤ delay * 2 * 2 ^ remaining := Int.mul_le_mul_of_nonneg_left power (by omega)
        _ = delay * 2 ^ (remaining + 1) := by rw [Int.mul_assoc, Int.pow_succ']
    split_ifs with below half
    · have crossed : maximum / 2 < delay := half
      have full : maximum ≤ delay * 2 ^ (remaining + 1) := by omega
      exact (min_eq_left full).symm
    · have small : delay ≤ maximum / 2 := Int.not_lt.mp half
      rw [ih (by omega) (by omega), Int.mul_comm 2 delay, Int.mul_assoc, ← Int.pow_succ']
    · have reached : delay = maximum := Int.le_antisymm within (Int.not_lt.mp below)
      rw [min_eq_left (by omega), reached]

private theorem delays_last (maximum : Int) (remaining : Nat) (delay : Int) :
    (delays maximum remaining delay).getLast? = some (doubleDelay maximum remaining delay) := by
  induction remaining generalizing delay with
  | zero => rfl
  | succ remaining ih =>
    unfold delays doubleDelay
    split_ifs
    · rfl
    · rw [List.getLast?_cons, ih]
      rfl
    · rfl

private theorem delays_within (remaining : Nat) (positive : 0 < delay) (within : delay ≤ maximum) :
    ∀ value ∈ delays maximum remaining delay, 0 < value ∧ value ≤ maximum := by
  induction remaining generalizing delay with
  | zero => simpa [delays] using ⟨positive, within⟩
  | succ remaining ih =>
    unfold delays
    split_ifs with below half
    · simpa using ⟨⟨positive, within⟩, Int.lt_of_lt_of_le positive within⟩
    · have small : delay ≤ maximum / 2 := Int.not_lt.mp half
      exact List.forall_mem_cons.mpr ⟨⟨positive, within⟩, ih (by omega) (by omega)⟩
    · simpa using ⟨positive, within⟩

/-- A delay can be doubled only as often as the maximum allows. -/
theorem delays_length (remaining doublings : Nat) (positive : 0 < delay) (reach : maximum ≤ delay * 2 ^ doublings) :
    (delays maximum remaining delay).length ≤ doublings + 2 := by
  induction remaining generalizing delay doublings with
  | zero => simp [delays]
  | succ remaining ih =>
    unfold delays
    split_ifs with below half
    · simp
    · cases doublings with
      | zero =>
        have less : delay < maximum := below
        omega
      | succ doublings =>
        have rest := ih doublings (show 0 < 2 * delay by omega) (by rwa [Int.mul_comm 2, Int.mul_assoc, ← Int.pow_succ'])
        simpa using rest
    · simp

private theorem mulHigh_toNat (word : UInt64) (positive : 0 ≤ delay) (within : delay < 2 ^ 63) :
    ((mulHigh word (.ofNat delay.toNat)).toNat : Int) = word.toNat * delay / 2 ^ 64 := by
  obtain ⟨size, rfl⟩ := Int.eq_ofNat_of_zero_le positive
  have small : size < 2 ^ 63 := by exact_mod_cast within
  have product : word.toNat * size / 2 ^ 64 < 2 ^ 64 := by
    apply Nat.div_lt_of_lt_mul
    have word : word.toNat < 2 ^ 64 := word.toNat_lt
    exact Nat.mul_lt_mul_of_lt_of_lt word (by omega)
  simp only [mulHigh, Int.toNat_natCast, UInt64.toNat_ofNat']
  rw [Nat.mod_eq_of_lt (show size < 2 ^ 64 by omega), Nat.mod_eq_of_lt product]
  exact_mod_cast rfl

end Backoff

/-- The backoff is its closed form over the unbounded integers; nothing that is computed on
the way leaves 64 bits, and the loop stops after few iterations for any attempt. -/
theorem webhook_backoff_exact (base maximum retryAfter result : Int) (attempt : Nat) (word : UInt64)
    (accepted : webhookBackoff base maximum attempt retryAfter (some word) = .ok result) :
    (∀ d : Int, d = min maximum (base * 2 ^ (attempt - 1)) →
      result = max (min maximum (max 0 retryAfter)) (min maximum (d / 2 + word.toNat * d / 2 ^ 64))) ∧
    (∀ value ∈ backoffValues base maximum attempt word, 0 ≤ value ∧ value < 2 ^ 63) ∧
    (delays maximum (attempt - 1) base).getLast? = some (doubleDelay maximum (attempt - 1) base) ∧
    (delays maximum (attempt - 1) base).length ≤ 63 + 1 := by
  unfold webhookBackoff at accepted
  split_ifs at accepted with invalid
  push Not at invalid
  obtain ⟨positive, ordered, bounded, -⟩ := invalid
  have limit : maximum ≤ 900000000000 := bounded
  have positive : 0 < base := positive
  have within := delays_within (attempt - 1) positive ordered
  have few := delays_length (attempt - 1) 40 positive (show maximum ≤ base * 2 ^ 40 by omega)
  have closed := doubleDelay_eq (attempt - 1) positive ordered
  obtain ⟨doubled, same⟩ : ∃ doubled : Int, doubleDelay maximum (attempt - 1) base = doubled := ⟨_, rfl⟩
  have bounds : base ≤ doubled ∧ doubled ≤ maximum := same ▸ doubleDelay_bounds (attempt - 1) (Int.le_refl base) positive ordered
  have high := mulHigh_toNat word (show 0 ≤ doubled by omega) (by omega)
  have jitter : 0 ≤ word.toNat * doubled / 2 ^ 64 ∧ word.toNat * doubled / 2 ^ 64 ≤ doubled := by
    have size : (word.toNat : Int) ≤ 2 ^ 64 := by exact_mod_cast word.toNat_lt.le
    refine ⟨Int.ediv_nonneg (Int.mul_nonneg (Int.natCast_nonneg _) (by omega)) (by decide), ?_⟩
    apply Int.ediv_le_of_le_mul (by decide)
    rw [Int.mul_comm doubled]
    exact Int.mul_le_mul_of_nonneg_right size (by omega)
  refine ⟨fun d capped => ?_, fun value listed => ?_, delays_last maximum (attempt - 1) base, by omega⟩
  · obtain rfl := Except.ok.inj accepted
    obtain rfl : doubled = d := same.symm.trans (closed.trans capped.symm)
    rw [same, high]
    have floor {jittered : Int} : max 0 (max (min maximum jittered) (min maximum (max 0 retryAfter))) =
        max (min maximum (max 0 retryAfter)) (min maximum jittered) := by omega
    exact floor
  · simp only [backoffValues, same, high] at listed
    rcases List.mem_append.mp listed with stage | last
    · have bound : 0 < value ∧ value ≤ maximum := within value stage
      omega
    · simp only [List.mem_cons, List.not_mem_nil, or_false] at last
      rcases last with rfl | rfl | rfl | rfl <;> omega

theorem webhook_backoff_exact_sample :
    webhookBackoff 5000000000 60000000000 3 7000000000 (some 0x8000000000000000) = .ok 20000000000 ∧
    (20000000000 : Int) = max (min 60000000000 (max 0 7000000000)) (min 60000000000 (20000000000 / 2 + 2 ^ 63 * 20000000000 / 2 ^ 64)) := by
  have accepted : webhookBackoff 5000000000 60000000000 3 7000000000 (some 0x8000000000000000) = .ok 20000000000 := by decide +kernel
  exact ⟨accepted, (webhook_backoff_exact _ _ _ _ 3 0x8000000000000000 accepted).1 20000000000 (by decide)⟩

/-! ### The time of the database -/

/-- What the worker measures between two moments of the database clock: its own clock is ahead by a fixed offset. -/
def elapsedBetween (offset : Duration) (earlier later : Instant) : Duration := later + offset - (earlier + offset)

/-- The database time that a round of a claim reads for its lease. -/
def leaseTime (round : WebhookRound) : Instant := Time.instant (round.db.now + round.session.waited)

/-- A round that a claim gets to. -/
def Reached (repository : MySQLWebhookOutboxRepository) (worker : WebhookWorker) (rounds : Nat → WebhookRound) (index : Nat) : Prop :=
  index < maintenanceBudget ∧
    ∀ earlier < index, roundResult repository worker.workerID worker.leaseDuration (rounds earlier) = .ok none

section Estimates

/-- A measured duration is never shorter than the time that has passed since the estimate it is added to. -/
theorem estimated_late {known since earlier moment : Int} (behind : since ≤ known) (offset : Int) (before : earlier ≤ since) :
    moment ≤ estimatedWebhookDatabaseTime known (elapsedBetween offset earlier moment) := by
  change moment ≤ known + max 0 (moment + offset - (earlier + offset))
  omega

private theorem claimNextWebhook_lease (claimed : claimNextWebhook repository worker.workerID worker.leaseDuration rounds = .ok claim) :
    ∃ index, Reached repository worker rounds index ∧ claim.leaseUntil = leaseTime (rounds index) + worker.leaseDuration := by
  unfold claimNextWebhook at claimed
  split_ifs at claimed
  obtain ⟨index, -, below, before, next, run⟩ := webhookRounds_ok claimed
  obtain ⟨joined, -, -, _, -, -, given⟩ := claimWebhook_cases run
  obtain ⟨token, -, rfl⟩ := given claim rfl
  exact ⟨index, ⟨by omega, fun earlier less => before earlier (Nat.zero_le _) less⟩, rfl⟩

private theorem processClaim_checks (settles : processClaim net worker turn claim = .settles settlement) :
    (∃ code ∈ withoutResponse, settlement = permanentSettlement code) ∨
      0 < remainingLease worker turn claim ∧ databaseNow worker turn claim < claim.leaseUntil := by
  obtain leaves | cancelled | ⟨code, listed, permanent⟩ | ⟨_, -, -, checks⟩ := processClaim_cases net worker turn claim
  · rw [leaves] at settles
    cases settles
  · rw [cancelled] at settles
    cases settles
  · rw [permanent] at settles
    exact .inl ⟨code, listed, (WebhookDecision.settles.inj settles).symm⟩
  · exact .inr checks

end Estimates

/-- The lease estimate is conservative. The worker starts a claim at one moment and has it at
another one, and the rounds in between read the clock of the database. -/
theorem lease_estimate_conservative (net : NetLibrary) (repository : MySQLWebhookOutboxRepository) (worker : WebhookWorker)
    (turn : WebhookTurn) (rounds : Nat → WebhookRound) (claim : WebhookClaim) (offset : Duration) (start received : Instant)
    (claimed : claimNextWebhook repository worker.workerID worker.leaseDuration rounds = .ok claim)
    (during : ∀ index, Reached repository worker rounds index → start ≤ leaseTime (rounds index) ∧ leaseTime (rounds index) ≤ received) :
    ∀ measured, received ≤ measured → turn.claimElapsed = elapsedBetween offset start measured →
      measured ≤ databaseReceiveTime worker turn claim ∧
      (∀ moment, measured ≤ moment → turn.elapsedBeforeDelivery = elapsedBetween offset received moment →
        moment ≤ databaseBeforeDelivery worker turn claim ∧
        (0 < remainingLease worker turn claim →
          moment < claim.leaseUntil ∧ remainingLease worker turn claim ≤ claim.leaseUntil - moment)) ∧
      (∀ moment, measured ≤ moment → turn.elapsedAfterDelivery = elapsedBetween offset received moment →
        moment ≤ databaseNow worker turn claim ∧
        (databaseNow worker turn claim < claim.leaseUntil → moment < claim.leaseUntil) ∧
        ∀ settlement, processClaim net worker turn claim = .settles settlement →
          (∃ code ∈ withoutResponse, settlement = permanentSettlement code) ∨ moment < claim.leaseUntil) := by
  obtain ⟨index, reached, lease⟩ := claimNextWebhook_lease claimed
  obtain ⟨since, -⟩ := during index reached
  intro measured later elapsed
  have receives : measured ≤ databaseReceiveTime worker turn claim := by
    unfold databaseReceiveTime
    rw [lease, elapsed, Int.add_sub_cancel]
    exact estimated_late since offset le_rfl
  refine ⟨receives, fun moment _ passed => ?_, fun moment _ passed => ?_⟩
  · have late : moment ≤ databaseBeforeDelivery worker turn claim := by
      unfold databaseBeforeDelivery
      rw [passed]
      exact estimated_late receives offset later
    refine ⟨late, fun remains => ⟨Int.lt_of_le_of_lt late (Int.lt_of_sub_pos remains), Int.sub_le_sub_left late _⟩⟩
  · have late : moment ≤ databaseNow worker turn claim := by
      unfold databaseNow
      rw [passed]
      exact estimated_late receives offset later
    refine ⟨late, fun unexpired => Int.lt_of_le_of_lt late unexpired, fun settlement settles => ?_⟩
    rcases processClaim_checks settles with early | ⟨-, unexpired⟩
    · exact .inl early
    · exact .inr (Int.lt_of_le_of_lt late unexpired)

theorem lease_estimate_conservative_sample :
    claimNextWebhook sampleWebhookRepository standardWorker.workerID standardWorker.leaseDuration (fun _ => dueRound) = .ok dueClaim ∧
    1001200000 < dueClaim.leaseUntil ∧ remainingLease standardWorker busyTurn dueClaim ≤ dueClaim.leaseUntil - 1001200000 := by
  have claimed : claimNextWebhook sampleWebhookRepository standardWorker.workerID standardWorker.leaseDuration (fun _ => dueRound) =
      .ok dueClaim := by decide +kernel
  have during (index : Nat) (_ : Reached sampleWebhookRepository standardWorker (fun _ => dueRound) index) :
      999500000 ≤ leaseTime dueRound ∧ leaseTime dueRound ≤ 1000200000 := by decide +kernel
  have late := lease_estimate_conservative exampleNet sampleWebhookRepository standardWorker busyTurn (fun _ => dueRound) dueClaim 5
    999500000 1000200000 claimed during 1000500000 (by decide) (by decide +kernel)
  have before := late.2.1 1001200000 (by decide) (by decide +kernel)
  exact ⟨claimed, before.2 (by decide +kernel)⟩

end JudgingServer.Proofs
