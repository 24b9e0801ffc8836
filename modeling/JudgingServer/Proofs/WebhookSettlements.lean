import JudgingServer.External.WebhookWorker
import JudgingServer.Proofs.Delivery

/-! The settlements that the webhook worker passes on. Whatever a delivery comes to, the
repository accepts its settlement, so that a worker is never stopped by one. -/

namespace JudgingServer.Proofs
open Go Library External Transaction Table

/-! ### Accepted configurations -/

structure ConfiguredWorker (worker : WebhookWorker) : Prop where
  workerID : validWorkerID worker.workerID = true
  lease : 0 < worker.leaseDuration ∧ worker.leaseDuration ≤ maximumWebhookRetryAfter
  base : 0 < worker.baseRetryDelay ∧ worker.baseRetryDelay ≤ worker.maximumRetryDelay
  maximum : worker.maximumRetryDelay ≤ maximumWebhookRetryAfter

private theorem newWebhookWorker_ok (accepted : newWebhookWorker config = .ok worker) : ConfiguredWorker worker := by
  obtain ⟨⟨⟩, named, accepted⟩ := checked_ok accepted
  obtain ⟨⟨⟩, timed, accepted⟩ := checked_ok accepted
  obtain ⟨⟨⟩, delayed, accepted⟩ := checked_ok accepted
  obtain ⟨⟨⟩, -, accepted⟩ := checked_ok accepted
  obtain ⟨⟨⟩, -, accepted⟩ := checked_ok accepted
  obtain rfl := Except.ok.inj accepted
  have timeouts := rejectIf_ok timed
  have delays := rejectIf_ok delayed
  push Not at timeouts delays
  obtain ⟨requests, exceeds, bounded, -, -⟩ := timeouts
  exact ⟨by simpa using rejectIf_ok named, ⟨Int.lt_trans requests exceeds, bounded⟩, ⟨delays.1, delays.2.1⟩, delays.2.2⟩

/-! ### Delays -/

theorem doubleDelay_bounds {maximum base delay : Int} (remaining : Nat) (low : base ≤ delay) (positive : 0 < base)
    (high : delay ≤ maximum) : base ≤ doubleDelay maximum remaining delay ∧ doubleDelay maximum remaining delay ≤ maximum := by
  induction remaining generalizing delay with
  | zero => exact ⟨low, high⟩
  | succ remaining ih =>
    unfold doubleDelay
    split_ifs with below half
    · exact ⟨Int.le_trans low high, Int.le_refl _⟩
    · have room : 2 * delay ≤ maximum := by
        have small : delay ≤ maximum / 2 := Int.not_lt.mp half
        omega
      exact ih (by omega) room
    · exact ⟨low, high⟩

private theorem webhookBackoff_bounds {base maximum retryAfter delay : Int} {attempt : Nat} (halves : 2 ≤ base)
    (backoff : webhookBackoff base maximum attempt retryAfter entropy = .ok delay) : 0 < delay ∧ delay ≤ maximum := by
  unfold webhookBackoff at backoff
  split_ifs at backoff with invalid
  push Not at invalid
  obtain ⟨positive, ordered, -, -⟩ := invalid
  cases entropy with
  | none => cases backoff
  | some word =>
    obtain rfl := Except.ok.inj backoff
    obtain ⟨doubled, same⟩ : ∃ doubled : Int, doubleDelay maximum (attempt - 1) base = doubled := ⟨_, rfl⟩
    have bounds : base ≤ doubled ∧ doubled ≤ maximum := same ▸ doubleDelay_bounds (attempt - 1) (Int.le_refl base) positive ordered
    rw [same]
    generalize (mulHigh word (.ofNat doubled.toNat)).toNat = jitter
    change (0 : Int) < max 0 (max (min maximum (doubled / 2 + jitter)) (min maximum (max 0 retryAfter))) ∧
      max 0 (max (min maximum (doubled / 2 + jitter)) (min maximum (max 0 retryAfter))) ≤ maximum
    omega

/-! ### Outcomes -/

/-- The codes of failures that no response was received for. -/
def withoutResponse : List GoString :=
  [webhookErrorUnsafeDestination, webhookErrorConfiguration, webhookErrorInvalidDelivery, webhookErrorCallbackDecrypt,
    webhookErrorDeliveryExpired]

private theorem withoutResponse_distinct (listed : code ∈ withoutResponse) : code ≠ webhookErrorHTTPPermanent := by
  revert code
  decide +kernel

private theorem permanentSettlement_valid (listed : code ∈ withoutResponse) :
    validWebhookSettlement (permanentSettlement code) = true := by
  have other := withoutResponse_distinct listed
  simp only [withoutResponse, List.mem_cons, List.not_mem_nil, or_false] at listed
  simp [validWebhookSettlement, permanentSettlement, other, listed]

/-- How a delivery ends, with what the repository asks of it. -/
inductive Classified : WebhookOutcome → Prop where
  | delivered (success : 200 ≤ status ∧ status ≤ 299) : Classified ⟨.delivered, status, 0, []⟩
  | retried (disposition : outcome.disposition = .retry)
      (reason : outcome.errorCode = webhookErrorNetwork ∧ outcome.httpStatus = 0 ∨
        outcome.errorCode = webhookErrorHTTPRetryable ∧ retryableWebhookHTTPStatus outcome.httpStatus = true) : Classified outcome
  | refused (permanent : permanentWebhookHTTPStatus status = true) :
      Classified ⟨.permanentFailure, status, 0, webhookErrorHTTPPermanent⟩
  | failed (listed : code ∈ withoutResponse) : Classified (permanentWebhookOutcome code)

section Outcomes

variable {worker : WebhookWorker} {claim : WebhookClaim}

private theorem classifyResponse_classified : Classified (classifyResponse net status retryAfter responseTime maximum) := by
  unfold classifyResponse
  split_ifs with outside success retry
  · exact .failed (by decide +kernel)
  · exact .delivered (by omega)
  · refine .retried rfl (.inr ⟨rfl, ?_⟩)
    simp only [retryableWebhookHTTPStatus, decide_eq_true_eq]
    omega
  · apply Classified.refused
    simp only [permanentWebhookHTTPStatus, retryableWebhookHTTPStatus, Bool.not_eq_true', decide_eq_true_eq, decide_eq_false_iff_not]
    omega

private theorem deliverOutcome_classified : Classified (deliverOutcome net deliverer delivery maximum) := by
  unfold deliverOutcome
  split
  next answer _ _ _ =>
    split_ifs
    · exact .failed (by decide +kernel)
    · exact .failed (by decide +kernel)
    · cases answer with
      | unsafeDestination => exact .failed (by decide +kernel)
      | failed | noResponse => exact .retried rfl (.inl ⟨rfl, rfl⟩)
      | response status retryAfter => exact classifyResponse_classified
  next => exact .failed (by decide +kernel)

private theorem retry_valid (positive : 0 < delay) (bounded : delay ≤ maximumWebhookRetryAfter)
    (reason : code = webhookErrorNetwork ∧ status = 0 ∨ code = webhookErrorHTTPRetryable ∧ retryableWebhookHTTPStatus status = true) :
    validWebhookSettlement ⟨.retry, status, code, 0, delay⟩ = true := by
  have known : ¬ (status ≠ 0 ∧ ¬ (100 ≤ status ∧ status ≤ 599)) := by
    rcases reason with ⟨-, none⟩ | ⟨-, retryable⟩
    · omega
    · simp only [retryableWebhookHTTPStatus, decide_eq_true_eq] at retryable
      omega
  unfold validWebhookSettlement
  rw [if_neg known]
  simp [Int.not_lt.mpr (Int.le_of_lt positive), positive, bounded, reason]

private theorem delivered_valid (success : 200 ≤ status ∧ status ≤ 299) :
    validWebhookSettlement ⟨.delivered, status, [], 0, 0⟩ = true := by
  have known : ¬ (status ≠ 0 ∧ ¬ (100 ≤ status ∧ status ≤ 599)) := by omega
  unfold validWebhookSettlement
  rw [if_neg known]
  simp [success]

private theorem refused_valid (permanent : permanentWebhookHTTPStatus status = true) :
    validWebhookSettlement ⟨.permanentFailure, status, webhookErrorHTTPPermanent, 0, 0⟩ = true := by
  have known : ¬ (status ≠ 0 ∧ ¬ (100 ≤ status ∧ status ≤ 599)) := by
    simp only [permanentWebhookHTTPStatus, decide_eq_true_eq] at permanent
    omega
  unfold validWebhookSettlement
  rw [if_neg known]
  simp [permanent]

/-- A settlement that the repository accepts and that gives no time of its own. -/
structure Relative (settlement : WebhookSettlement) : Prop where
  valid : validWebhookSettlement settlement = true
  relative : settlement.retryAt = 0

private theorem settleWebhookOutcome_valid (configured : ConfiguredWorker worker) (halves : 2 ≤ worker.baseRetryDelay)
    (classified : Classified outcome) (settles : settleWebhookOutcome worker claim outcome entropy = .settles settlement) :
    Relative settlement := by
  unfold settleWebhookOutcome at settles
  cases classified with
  | delivered success =>
    obtain rfl := WebhookDecision.settles.inj settles
    exact ⟨delivered_valid success, rfl⟩
  | refused permanent =>
    obtain rfl := WebhookDecision.settles.inj settles
    exact ⟨refused_valid permanent, rfl⟩
  | failed listed =>
    obtain rfl := WebhookDecision.settles.inj settles
    exact ⟨permanentSettlement_valid listed, rfl⟩
  | retried disposition reason =>
    simp only [disposition, reduceIte] at settles
    split_ifs at settles with attempts
    · split at settles
      next delay backoff =>
        obtain rfl := WebhookDecision.settles.inj settles
        obtain ⟨positive, within⟩ := webhookBackoff_bounds halves backoff
        exact ⟨retry_valid positive (Int.le_trans within configured.maximum) reason, rfl⟩
      next => cases settles
    · -- the last attempt is settled with half the base delay, which the repository does not use
      obtain rfl := WebhookDecision.settles.inj settles
      have positive : 0 < worker.baseRetryDelay / 2 :=
        Int.lt_of_lt_of_le Int.one_pos (Int.le_ediv_of_mul_le (by decide) (by simpa using halves))
      have within : worker.baseRetryDelay / 2 ≤ worker.baseRetryDelay := Int.ediv_le_self _ (Int.le_of_lt configured.base.1)
      exact ⟨retry_valid positive (Int.le_trans within (Int.le_trans configured.base.2 configured.maximum)) reason, rfl⟩

/-- What a claim comes to: an early end, or after both checks of its lease the settlement of a delivery. -/
theorem processClaim_cases (net : NetLibrary) (worker : WebhookWorker) (turn : WebhookTurn) (claim : WebhookClaim) :
    processClaim net worker turn claim = .leaves ∨ processClaim net worker turn claim = .fails .cancelled ∨
    (∃ code ∈ withoutResponse, processClaim net worker turn claim = .settles (permanentSettlement code)) ∨
    ∃ outcome, Classified outcome ∧ processClaim net worker turn claim = settleWebhookOutcome worker claim outcome turn.entropy ∧
      0 < remainingLease worker turn claim ∧ databaseNow worker turn claim < claim.leaseUntil := by
  unfold processClaim
  dsimp only
  split
  next => exact .inl rfl
  split
  next => exact .inr (.inr (.inl ⟨_, by decide +kernel, rfl⟩))
  split
  next => exact .inr (.inr (.inl ⟨_, by decide +kernel, rfl⟩))
  split
  next => exact .inr (.inr (.inl ⟨_, by decide +kernel, rfl⟩))
  split
  next => exact .inr (.inr (.inl ⟨_, by decide +kernel, rfl⟩))
  split
  next => exact .inl rfl
  next remains =>
    split
    next => exact .inr (.inl rfl)
    split
    next => exact .inl rfl
    next unexpired =>
      exact .inr (.inr (.inr ⟨_, deliverOutcome_classified, rfl, Int.not_le.mp remains, Int.not_le.mp unexpired⟩))

private theorem processClaim_valid (configured : ConfiguredWorker worker) (halves : 2 ≤ worker.baseRetryDelay)
    (settles : processClaim net worker turn claim = .settles settlement) : Relative settlement := by
  obtain leaves | cancelled | ⟨code, listed, permanent⟩ | ⟨outcome, classified, settled, -⟩ := processClaim_cases net worker turn claim
  · cases leaves.symm.trans settles
  · cases cancelled.symm.trans settles
  · obtain rfl := WebhookDecision.settles.inj (permanent.symm.trans settles)
    exact ⟨permanentSettlement_valid listed, rfl⟩
  · exact settleWebhookOutcome_valid configured halves classified (settled.symm.trans settles)

private theorem settleWebhookOutcome_fails (fails : settleWebhookOutcome worker claim outcome entropy = .fails error) :
    error = .backoffInput ∨ error = .retryJitter := by
  unfold settleWebhookOutcome at fails
  dsimp only at fails
  split at fails
  next =>
    split at fails
    next =>
      split at fails
      next => cases fails
      next failure backoff =>
        obtain rfl := WebhookDecision.fails.inj fails
        unfold webhookBackoff at backoff
        split at backoff
        next => exact .inl (Except.error.inj backoff).symm
        split at backoff
        next => exact .inr (Except.error.inj backoff).symm
        next => cases backoff
    next => cases fails
  next => cases fails

private theorem processClaim_fails (fails : processClaim net worker turn claim = .fails error) (reported : WebhookError) :
    error ≠ .repository reported := by
  obtain leaves | cancelled | ⟨code, listed, permanent⟩ | ⟨outcome, classified, settled, -⟩ := processClaim_cases net worker turn claim
  · cases leaves.symm.trans fails
  · obtain rfl := WebhookDecision.fails.inj (cancelled.symm.trans fails)
    simp
  · cases permanent.symm.trans fails
  · rcases settleWebhookOutcome_fails (settled.symm.trans fails) with rfl | rfl <;> simp

end Outcomes

/-! ### The repository -/

section Repository

variable {repository : MySQLWebhookOutboxRepository} {claim : WebhookClaim}

/-- The token of a lease has 32 bytes, and the keys of the outbox count from one. -/
structure SoundRound (round : WebhookRound) : Prop where
  token : ∀ token, round.session.leaseToken = some token → token.length = 32
  ids : ∀ row ∈ round.db.outbox, 0 < row.id

private theorem claimWebhook_valid (named : validWorkerID workerID = true) (sound : SoundRound ⟨session, db⟩)
    (committed : claimWebhook repository session workerID lease db = .ok (some claim, next)) :
    validWebhookClaim claim = true := by
  obtain ⟨joined, member, -, _, -, -, claimed⟩ := claimWebhook_cases committed
  obtain ⟨token, drawn, rfl⟩ := claimed claim rfl
  simp [validWebhookClaim, webhookClaim, named, sound.token token drawn, sound.ids joined.row member]

private theorem claimWebhook_avoids : Avoids (· = .settlementInvalid) (claimWebhook repository session workerID lease) db := by
  unfold claimWebhook
  refine .bind (.query _) fun _ _ _ => .bind (.require _ (by simp)) fun _ _ _ => .bind (.execute _) fun _ _ _ => ?_
  refine .bind (.query _) fun _ _ _ => ?_
  split
  next => exact .bind (.of_ok rfl) fun _ _ _ => .pure _
  next =>
    refine .bind (.require _ (by simp)) fun _ _ _ => .bind (.of_ok rfl) fun _ _ _ => ?_
    exact .bind (.ensure fun _ => by simp) fun _ _ _ => .pure _

/-- What one round of a claim comes to. -/
def roundResult (repository : MySQLWebhookOutboxRepository) (workerID : GoString) (lease : Duration) (round : WebhookRound) :
    Except WebhookError (Option WebhookClaim) :=
  ((claimWebhook repository round.session workerID lease).commit round.db).1

theorem webhookRounds_ok (claimed : webhookRounds repository workerID lease rounds remaining maintained = .ok claim) :
    ∃ index, maintained ≤ index ∧ index < maintained + remaining ∧
      (∀ earlier, maintained ≤ earlier → earlier < index → roundResult repository workerID lease (rounds earlier) = .ok none) ∧
      ∃ next, claimWebhook repository (rounds index).session workerID lease (rounds index).db = .ok (some claim, next) := by
  induction remaining generalizing maintained with
  | zero => cases claimed
  | succ remaining ih =>
    unfold webhookRounds at claimed
    obtain ⟨value, next, run, committed⟩ | ⟨error, run, rolledBack⟩ :=
      commit_cases (claimWebhook repository (rounds maintained).session workerID lease) (rounds maintained).db
    · rw [committed] at claimed
      cases value with
      | none =>
        obtain ⟨index, _, _, before, given⟩ := ih claimed
        refine ⟨index, by omega, by omega, fun earlier least less => ?_, given⟩
        rcases Nat.eq_or_lt_of_le least with rfl | later
        · exact congrArg Prod.fst committed
        · exact before earlier later less
      | some given =>
        obtain rfl := Except.ok.inj claimed
        exact ⟨maintained, le_rfl, by omega, fun earlier least less => by omega, next, run⟩
    · rw [rolledBack] at claimed
      cases claimed

private theorem webhookRounds_avoids (remaining maintained : Nat) :
    webhookRounds repository workerID lease rounds remaining maintained ≠ .error .settlementInvalid := by
  induction remaining generalizing maintained with
  | zero => simp [webhookRounds]
  | succ remaining ih =>
    unfold webhookRounds
    split
    next error failed =>
      intro same
      obtain rfl := Except.error.inj same
      exact claimWebhook_avoids.commit failed rfl
    next => simp
    next => exact ih (maintained + 1)

theorem Relative.delay (relative : Relative settlement) (retry : settlement.disposition = .retry) : 0 < settlement.retryDelay := by
  have valid := relative.valid
  by_contra none
  simp [validWebhookSettlement, retry, relative.relative, none] at valid

private theorem settleWebhook_avoids (claimed : validWebhookClaim claim = true) (relative : Relative settlement) :
    Avoids (· = .settlementInvalid) (settleWebhook repository claim settlement) db := by
  unfold settleWebhook
  refine .bind (.ensure fun fails => ?_) fun _ _ _ => .bind (.query _) fun now _ _ => .bind (.require _ (by simp)) fun row _ _ => ?_
  · simp [claimed, relative.valid] at fails
  · split
    next => exact .bind (.of_ok rfl) fun _ _ _ => .pure _
    next => exact .bind (.of_ok rfl) fun _ _ _ => .pure _
    next retry =>
      have near : settlement.retryTimeValid now = true := by
        simp [WebhookSettlement.retryTimeValid, relative.delay retry]
      refine .bind (.ensure fun fails => ?_) fun _ _ _ => ?_
      · rw [near] at fails
        cases fails
      · split
        next => exact .bind (.of_ok rfl) fun _ _ _ => .pure _
        next => exact .bind (.of_ok rfl) fun _ _ _ => .pure _
    next => exact .pure _

private theorem settle_avoids (claimed : validWebhookClaim claim = true) (relative : Relative settlement) :
    WebhookWorker.settle repository claim settlement db ≠ .error (.repository .settlementInvalid) := by
  have avoids : Avoids _ (settleWebhook repository claim settlement) db := settleWebhook_avoids claimed relative
  unfold WebhookWorker.settle
  split
  next => simp
  next => simp
  next error _ failed =>
    intro same
    exact avoids.commit failed (WebhookWorkerError.repository.inj (Except.error.inj same))

private theorem claimNextWebhook_valid {worker : WebhookWorker} (configured : ConfiguredWorker worker)
    {rounds : Nat → WebhookRound}
    (sound : ∀ index, SoundRound (rounds index)) :
    claimNextWebhook repository worker.workerID worker.leaseDuration rounds ≠ .error .settlementInvalid ∧
      ∀ claim, claimNextWebhook repository worker.workerID worker.leaseDuration rounds = .ok claim →
        validWebhookClaim claim = true := by
  have arguments : ¬ ((!validWorkerID worker.workerID) = true ∨ worker.leaseDuration ≤ 0 ∨ 15 * minute < worker.leaseDuration) := by
    rw [configured.workerID]
    push Not
    exact ⟨by decide, configured.lease⟩
  unfold claimNextWebhook
  rw [if_neg arguments]
  refine ⟨webhookRounds_avoids maintenanceBudget 0, fun claim claimed => ?_⟩
  obtain ⟨index, -, -, -, next, run⟩ := webhookRounds_ok claimed
  exact claimWebhook_valid configured.workerID (sound index) run

end Repository

/-- Every settlement that the worker passes on is accepted, so that no turn of it ends with
an invalid settlement. -/
theorem webhook_settlements_accepted (net : NetLibrary) (config : WebhookWorkerConfig) (worker : WebhookWorker)
    (accepted : newWebhookWorker config = .ok worker) (halves : 2 ≤ worker.baseRetryDelay) :
    (∀ turn claim settlement, 1 ≤ claim.attemptCount → processClaim net worker turn claim = .settles settlement →
      validWebhookSettlement settlement = true) ∧
    ∀ repository turn rounds settling, (∀ index, SoundRound (rounds index)) →
      processNext net repository worker turn rounds settling ≠ .error (.repository .settlementInvalid) := by
  have configured := newWebhookWorker_ok accepted
  constructor
  · intro turn claim settlement _ settles
    exact (processClaim_valid configured halves settles).valid
  · intro repository turn rounds settling sound
    obtain ⟨claims, valid⟩ := @claimNextWebhook_valid repository worker configured rounds sound
    unfold processNext
    split
    next => simp
    split
    next error failed =>
      intro same
      exact claims (failed.trans (congrArg _ (WebhookWorkerError.repository.inj (Except.error.inj same))))
    next claim claimed =>
      split
      next => simp
      next error fails =>
        intro same
        exact processClaim_fails fails _ (Except.error.inj same)
      next settlement settles =>
        exact settle_avoids (valid claim claimed) (processClaim_valid configured halves settles)

def standardWorker : WebhookWorker :=
  ⟨⟨lit "webhooks-1", minute, 30 * second, 5 * second, 5 * second, 15 * minute, 12, second, 30 * 24 * hour, 64⟩⟩

def exampleNet : NetLibrary where
  parseURL _ := some ⟨lit "https", lit "callback.example", lit "callback.example", [], false, [], []⟩
  parseAddr _ := false
  toLower text := text
  newRequest _ := true
  parseTime _ := none

def dueRound : WebhookRound := ⟨⟨[], 0, some (List.replicate 32 7)⟩, sampleWebhookDb⟩

def dueClaim : WebhookClaim := webhookClaim dueWebhook (lit "webhooks-1") (List.replicate 32 7) 61000000000

/-- The other side asks to come back after seven seconds. -/
def busyTurn : WebhookTurn where
  cancelled := false
  claimElapsed := millisecond
  decrypt _ _ _ _ := some (List.replicate 32 0)
  cachedDeliverer _ _ := some ⟨some (.response 503 (lit " 7")), some 0⟩
  elapsedBeforeDelivery := millisecond
  cancelledMeanwhile := false
  elapsedAfterDelivery := second
  entropy := some 0x8000000000000000

theorem webhook_settlements_accepted_sample :
    newWebhookWorker ⟨lit "webhooks-1", 0, 0, 0, 0, 0, 0, 0, 0, 0⟩ = .ok standardWorker ∧
    claimNextWebhook sampleWebhookRepository standardWorker.workerID standardWorker.leaseDuration (fun _ => dueRound) = .ok dueClaim ∧
    processClaim exampleNet standardWorker busyTurn dueClaim = .settles ⟨.retry, 503, webhookErrorHTTPRetryable, 0, 7 * second⟩ ∧
    validWebhookSettlement ⟨.retry, 503, webhookErrorHTTPRetryable, 0, 7 * second⟩ = true ∧
    processNext exampleNet sampleWebhookRepository standardWorker busyTurn (fun _ => dueRound)
      (run (webhookStep sampleWebhookRepository) [.claim dueRound.session standardWorker.workerID standardWorker.leaseDuration]
        sampleWebhookDb) ≠ .error (.repository .settlementInvalid) := by
  have accepted : newWebhookWorker ⟨lit "webhooks-1", 0, 0, 0, 0, 0, 0, 0, 0, 0⟩ = .ok standardWorker := by decide +kernel
  have settles : processClaim exampleNet standardWorker busyTurn dueClaim =
      .settles ⟨.retry, 503, webhookErrorHTTPRetryable, 0, 7 * second⟩ := by decide +kernel
  obtain ⟨valid, never⟩ := webhook_settlements_accepted exampleNet _ standardWorker accepted (by decide)
  have sound : SoundRound dueRound := ⟨by simp [dueRound], by decide⟩
  exact ⟨accepted, by decide +kernel, settles, valid busyTurn dueClaim _ (by decide) settles, never _ _ _ _ fun _ => sound⟩

end JudgingServer.Proofs
