import JudgingServer.External.RedisQuota
import JudgingServer.Library.TokenBucket
import JudgingServer.Proofs.Outputs
import Mathlib.Tactic.FieldSimp

/-! The quota script keeps a token bucket. What a key holds at a time is the level of the
bucket; every answer of the script is a function of that level, and removing a key after its
expiry does not change it. -/

namespace JudgingServer.Proofs
open Go Library External Library.TokenBucket

variable {cost : Int} {entry : QuotaEntry} {limit : QuotaLimit}

def refillRate (limit : QuotaLimit) : ℚ := limit.capacity / limit.periodMillis

/-! ### The level of a bucket -/

structure ValidLimit (limit : QuotaLimit) : Prop where
  capacity : 0 < limit.capacity
  period : 1 ≤ limit.periodMillis
  whole : limit.periodMillis * millisecond ≤ limit.refillPeriod

private theorem validLimit (valid : limit.validate = .ok ()) : ValidLimit limit := by
  have range := rejectIf_ok valid
  push Not at range
  obtain ⟨capacity, -, period, -⟩ := range
  have positive : (0 : Int) ≤ limit.refillPeriod := Int.le_trans (by decide) period
  have millis : limit.periodMillis = limit.refillPeriod / millisecond := Int.tdiv_eq_ediv_of_nonneg positive
  refine ⟨capacity, ?_, ?_⟩ <;> rw [millis]
  · exact Int.le_ediv_of_mul_le (by decide) (by simpa using period)
  · exact Int.ediv_mul_le _ (by decide)

section Level

variable {limit : QuotaLimit} {now later : Int} {tokens : ℚ}

private theorem ValidLimit.rate_pos (valid : ValidLimit limit) : 0 < refillRate limit :=
  div_pos (Int.cast_pos.mpr valid.capacity) (Int.cast_pos.mpr (Int.lt_of_lt_of_le Int.one_pos valid.period))

private theorem ValidLimit.period_rate (valid : ValidLimit limit) : limit.periodMillis * refillRate limit = limit.capacity := by
  have period : (limit.periodMillis : ℚ) ≠ 0 := Int.cast_ne_zero.mpr (Int.ne_of_gt valid.period)
  unfold refillRate
  field_simp

/-- What a key is worth at a time: a missing key counts as a full bucket. -/
def held (limit : QuotaLimit) (now : Int) (state : Option QuotaEntry) : ℚ :=
  match state with
  | none => limit.capacity
  | some entry => refill limit.capacity (refillRate limit) entry.tokens (now - entry.updatedMillis)

/-- The key holds so many tokens now. -/
structure BucketHolds (limit : QuotaLimit) (now : Int) (state : Option QuotaEntry) (tokens : ℚ) : Prop where
  level : held limit now state = tokens
  range : ∀ entry, state = some entry → 0 ≤ entry.tokens ∧ entry.tokens ≤ limit.capacity
  past : ∀ entry, state = some entry → entry.updatedMillis ≤ now
  lasts : ∀ entry, state = some entry → entry.updatedMillis + 2 * limit.periodMillis ≤ entry.expiresAtMillis

private theorem filled_none : BucketHolds limit now none limit.capacity := ⟨rfl, nofun, nofun, nofun⟩

theorem BucketHolds.advance (filled : BucketHolds limit now state tokens) (valid : ValidLimit limit) (forward : now ≤ later) :
    BucketHolds limit later state (refill limit.capacity (refillRate limit) tokens (later - now)) := by
  have more : (0 : ℚ) ≤ later - now := sub_nonneg.mpr (Int.cast_le.mpr forward)
  refine ⟨?_, filled.range, fun entry present => Int.le_trans (filled.past entry present) forward, filled.lasts⟩
  rw [← filled.level]
  cases state with
  | none => exact (min_eq_left (le_add_of_nonneg_right (mul_nonneg more (le_of_lt valid.rate_pos)))).symm
  | some entry =>
    simp only [held]
    rw [refill_refill (le_of_lt valid.rate_pos) more]
    congr 1
    ring

theorem BucketHolds.bounds (filled : BucketHolds limit now state tokens) (valid : ValidLimit limit) :
    0 ≤ tokens ∧ tokens ≤ limit.capacity := by
  have room : (0 : ℚ) ≤ limit.capacity := Int.cast_nonneg (Int.le_of_lt valid.capacity)
  rw [← filled.level]
  cases state with
  | none => exact ⟨room, le_refl _⟩
  | some entry =>
    have past : (0 : ℚ) ≤ now - entry.updatedMillis := sub_nonneg.mpr (Int.cast_le.mpr (filled.past entry rfl))
    exact ⟨refill_nonneg room (filled.range entry rfl).1 (le_of_lt valid.rate_pos) past, refill_le_capacity⟩

private theorem held_idle (valid : ValidLimit limit) (nonneg : 0 ≤ entry.tokens)
    (idle : entry.updatedMillis + limit.periodMillis ≤ now) :
    held limit now (some entry) = limit.capacity := by
  apply refill_full nonneg
  rw [← valid.period_rate]
  apply mul_le_mul_of_nonneg_right _ (le_of_lt valid.rate_pos)
  have enough : limit.periodMillis ≤ now - entry.updatedMillis := by omega
  exact_mod_cast enough

theorem BucketHolds.expired (filled : BucketHolds limit now (some entry) tokens) (valid : ValidLimit limit)
    (expired : entry.expiresAtMillis ≤ now) : tokens = limit.capacity := by
  have lasts := filled.lasts entry rfl
  have period := valid.period
  have idle : entry.updatedMillis + limit.periodMillis ≤ now := by omega
  rw [← filled.level]
  exact held_idle valid (filled.range entry rfl).1 idle

end Level

/-! ### The script -/

section Script

variable {limit : QuotaLimit} {now cost : Int} {tokens : ℚ}

private theorem script_level (filled : BucketHolds limit now state tokens) (valid : ValidLimit limit) :
    min (limit.capacity : ℚ) ((state.map QuotaEntry.tokens).getD limit.capacity +
      (min limit.periodMillis (max 0 (now - (state.map QuotaEntry.updatedMillis).getD now)) : Int) *
        limit.capacity / limit.periodMillis) = tokens := by
  have period := valid.period
  rw [← filled.level, mul_div_assoc]
  cases state with
  | none =>
    have clamp : min limit.periodMillis (max 0 (now - now)) = 0 := by omega
    simp only [Option.map_none, Option.getD_none, clamp, Int.cast_zero, zero_mul, add_zero, min_self, held]
  | some entry =>
    have past := filled.past entry rfl
    simp only [Option.map_some, Option.getD_some]
    by_cases idle : entry.updatedMillis + limit.periodMillis ≤ now
    · have clamp : min limit.periodMillis (max 0 (now - entry.updatedMillis)) = limit.periodMillis := by omega
      rw [clamp, held_idle valid (filled.range entry rfl).1 idle]
      exact refill_full (filled.range entry rfl).1 (le_of_eq valid.period_rate.symm)
    · have elapsed : min limit.periodMillis (max 0 (now - entry.updatedMillis)) = now - entry.updatedMillis := by omega
      rw [elapsed, Int.cast_sub]
      rfl

/-- What the script answers a request with, by the level it finds. -/
def replyAt (limit : QuotaLimit) (cost : Int) (tokens : ℚ) : ScriptReply :=
  if cost ≤ tokens then ⟨1, 0⟩ else ⟨0, ⌈(cost - tokens) * limit.periodMillis / limit.capacity⌉⟩

def leftAt (cost : Int) (tokens : ℚ) : ℚ := if cost ≤ tokens then tokens - cost else tokens

private theorem retry_bounds (valid : ValidLimit limit) (nonneg : 0 ≤ tokens) (within : cost ≤ limit.capacity) :
    0 ≤ (replyAt limit cost tokens).retryMillis ∧ (replyAt limit cost tokens).retryMillis ≤ limit.periodMillis := by
  have period : (0 : ℚ) < limit.periodMillis := Int.cast_pos.mpr (Int.lt_of_lt_of_le Int.one_pos valid.period)
  have capacity : (0 : ℚ) < limit.capacity := Int.cast_pos.mpr valid.capacity
  have affordable : (cost : ℚ) ≤ limit.capacity := Int.cast_le.mpr within
  unfold replyAt
  split_ifs with covered
  · exact ⟨Int.le_refl _, Int.le_trans Int.one_nonneg valid.period⟩
  · have missing : 0 ≤ (cost - tokens) * limit.periodMillis / limit.capacity :=
      div_nonneg (mul_nonneg (sub_nonneg.mpr (le_of_not_ge covered)) (le_of_lt period)) (le_of_lt capacity)
    refine ⟨Int.ceil_nonneg missing, Int.ceil_le.mpr ?_⟩
    rw [div_le_iff₀ capacity, mul_comm (limit.periodMillis : ℚ)]
    apply mul_le_mul_of_nonneg_right _ (le_of_lt period)
    linarith

/-- A refused request is covered from the retry time on, and not before. -/
theorem retry_least (valid : ValidLimit limit) (within : cost ≤ limit.capacity) (refused : ¬ cost ≤ tokens) (elapsed : Int) :
    (cost : ℚ) ≤ refill (limit.capacity : ℚ) (refillRate limit) tokens elapsed ↔
      (replyAt limit cost tokens).retryMillis ≤ elapsed := by
  have period : (0 : ℚ) < limit.periodMillis := Int.cast_pos.mpr (Int.lt_of_lt_of_le Int.one_pos valid.period)
  have capacity : (0 : ℚ) < limit.capacity := Int.cast_pos.mpr valid.capacity
  have affordable : (cost : ℚ) ≤ limit.capacity := Int.cast_le.mpr within
  rw [replyAt, if_neg refused, Int.ceil_le, div_le_iff₀ capacity, refill, le_min_iff, and_iff_right affordable,
    ← sub_le_iff_le_add', refillRate, ← mul_div_assoc, le_div_iff₀ period]

private theorem script_filled (filled : BucketHolds limit now state tokens) (valid : ValidLimit limit)
    (positive : 0 < cost) (within : cost ≤ limit.capacity) :
    (redisTokenBucketScript limit.capacity limit.periodMillis cost now state).1 = replyAt limit cost tokens ∧
      BucketHolds limit now (some (redisTokenBucketScript limit.capacity limit.periodMillis cost now state).2)
        (leftAt cost tokens) := by
  obtain ⟨nonneg, bounded⟩ := filled.bounds valid
  have level := script_level filled valid
  have retry := retry_bounds valid nonneg within
  unfold redisTokenBucketScript
  simp only [level]
  have left : 0 ≤ leftAt cost tokens ∧ leftAt cost tokens ≤ limit.capacity := by
    unfold leftAt
    split_ifs with covered
    · have spent : (0 : ℚ) < cost := Int.cast_pos.mpr positive
      exact ⟨sub_nonneg.mpr covered, by linarith⟩
    · exact ⟨nonneg, bounded⟩
  refine ⟨rfl, ?_, ?_, ?_, ?_⟩
  · simp only [held, sub_self]
    exact refill_zero left.2
  · rintro entry ⟨⟩
    exact left
  · rintro entry ⟨⟩
    exact Int.le_refl _
  · rintro entry ⟨⟩
    dsimp only
    omega

end Script

/-! ### Requests -/

/-- A valid request of the tenant and kind under the limit. -/
structure QuotaRequestOf (tenantID : GoString) (kind : QuotaKind) (limit : QuotaLimit) (request : QuotaRequest) : Prop where
  tenant : request.tenantID = tenantID
  kind : request.kind = kind
  limit : request.limit = limit
  valid : validateQuotaRequest request = .ok ()

private theorem validateQuotaRequest_cost (valid : validateQuotaRequest request = .ok ()) :
    0 < request.cost ∧ request.cost ≤ request.limit.capacity := by
  obtain ⟨⟨⟩, -, valid⟩ := checked_ok valid
  obtain ⟨⟨⟩, -, valid⟩ := checked_ok valid
  obtain ⟨⟨⟩, -, valid⟩ := checked_ok valid
  have range := rejectIf_ok valid
  push Not at range
  exact range

/-- The answer to a request, by the level it meets. -/
private def answerAt (limit : QuotaLimit) (cost : Int) (tokens : ℚ) (call : EvalCall) : QuotaAnswer :=
  match call with
  | .answered => ⟨.ok ⟨cost ≤ tokens, (replyAt limit cost tokens).retryMillis * millisecond⟩, cost ≤ tokens⟩
  | .answerLost => ⟨.error .unavailable, cost ≤ tokens⟩
  | .unreachable => ⟨.error .unavailable, false⟩

private def afterCall (cost : Int) (tokens : ℚ) (call : EvalCall) : ℚ := if call = .unreachable then tokens else leftAt cost tokens

private theorem answerAt_charge {limit : QuotaLimit} {cost : Int} {tokens : ℚ} (positive : 0 < cost) (nonneg : 0 ≤ tokens)
    (call : EvalCall) :
    0 ≤ (if (answerAt limit cost tokens call).charged then (cost : ℚ) else 0) ∧
      (if (answerAt limit cost tokens call).charged then (cost : ℚ) else 0) ≤ tokens ∧
      tokens - (if (answerAt limit cost tokens call).charged then (cost : ℚ) else 0) = afterCall cost tokens call := by
  have spent : (0 : ℚ) ≤ cost := Int.cast_nonneg (Int.le_of_lt positive)
  cases call <;> by_cases covered : cost ≤ tokens <;> simp [answerAt, afterCall, leftAt, covered, spent, nonneg]

section Requests

variable {quota : RedisQuota} {limit : QuotaLimit} {redis : Redis} {tokens : ℚ}

private theorem decodeReply_replyAt (valid : ValidLimit limit) (nonneg : 0 ≤ tokens) (within : cost ≤ limit.capacity) :
    decodeReply limit (replyAt limit cost tokens) =
      .ok ⟨cost ≤ tokens, (replyAt limit cost tokens).retryMillis * millisecond⟩ := by
  have bounds := retry_bounds valid nonneg within
  have flag : (replyAt limit cost tokens).allowed = if cost ≤ tokens then 1 else 0 := by
    unfold replyAt
    split_ifs <;> rfl
  unfold decodeReply
  rw [if_neg, if_neg, flag]
  · by_cases covered : cost ≤ tokens <;> simp [covered]
  · omega
  · rw [flag]
    split_ifs <;> simp

private theorem allow_filled (asked : QuotaRequestOf tenantID kind limit request) (valid : ValidLimit limit) (call : EvalCall)
    (filled : BucketHolds limit time.millis (redis (quota.key sha256 tenantID kind)) tokens) :
    (quota.allow sha256 request time call redis).1 = answerAt limit request.cost tokens call ∧
      BucketHolds limit time.millis ((quota.allow sha256 request time call redis).2 (quota.key sha256 tenantID kind))
        (afterCall request.cost tokens call) := by
  obtain ⟨rfl, rfl, rfl, accepted⟩ := asked
  obtain ⟨positive, within⟩ := validateQuotaRequest_cost accepted
  obtain ⟨reply, left⟩ := script_filled filled valid positive within
  have decoded := decodeReply_replyAt valid (filled.bounds valid).1 within
  have charged : ((replyAt request.limit request.cost tokens).allowed = 1) = (request.cost ≤ tokens) := by
    unfold replyAt
    split_ifs with covered <;> simp [covered]
  unfold RedisQuota.allow
  rw [accepted]
  dsimp only
  rw [reply]
  cases call with
  | answered => exact ⟨by simp only [answerAt, decoded, charged], by simpa [afterCall] using left⟩
  | answerLost => exact ⟨by simp only [answerAt, charged], by simpa [afterCall] using left⟩
  | unreachable => exact ⟨rfl, filled⟩

end Requests

/-! ### Runs -/

/-- The requests of a run are those of one tenant and kind, and the clock never goes back. -/
structure QuotaEvents (tenantID : GoString) (kind : QuotaKind) (limit : QuotaLimit) (events : List QuotaEvent) : Prop where
  requests : ∀ time request call, QuotaEvent.allow time request call ∈ events → QuotaRequestOf tenantID kind limit request
  clock : events.Pairwise fun first second => first.millis ≤ second.millis

/-- What was taken for a request of a run, with its time. -/
def chargedCost (record : QuotaRecord) : ℚ × ℚ := (record.time.millis, if record.answer.charged then record.request.cost else 0)

def QuotaEvent.isRequest : QuotaEvent → Bool
  | .allow _ _ _ => true
  | .expire _ _ => false

private theorem redisTime_nonneg (time : RedisTime) : 0 ≤ time.millis := by
  unfold RedisTime.millis
  omega

private theorem quotaEvent_nonneg (event : QuotaEvent) : 0 ≤ event.millis := by
  cases event <;> exact redisTime_nonneg _

section Runs

variable {quota : RedisQuota} {limit : QuotaLimit} {redis : Redis} {tokens : ℚ} {now : Int}

theorem QuotaEvents.head (run : QuotaEvents tenantID kind limit (event :: events)) :
    QuotaEvents tenantID kind limit events ∧ ∀ later ∈ events, event.millis ≤ later.millis := by
  obtain ⟨first, rest⟩ := List.pairwise_cons.mp run.clock
  exact ⟨⟨fun time request call member => run.requests time request call (List.mem_cons_of_mem _ member), rest⟩, first⟩

section

variable (valid : ValidLimit limit)
include valid

private theorem expireKey_filled {key other : GoString} (filled : BucketHolds limit now (redis key) tokens) :
    BucketHolds limit now (expireKey now other redis key) tokens := by
  unfold expireKey
  split_ifs with expired
  · by_cases same : key = other
    · subst same
      rw [Function.update_self]
      cases present : redis key with
      | none => simp [present] at expired
      | some entry =>
        rw [present] at filled expired
        rw [filled.expired valid (by simpa using expired)]
        exact filled_none
    · rwa [Function.update_of_ne same]
  · exact filled

section

variable (run : QuotaEvents tenantID kind limit events)
include run

private theorem quotaRun_covers (forward : ∀ event ∈ events, now ≤ event.millis)
    (filled : BucketHolds limit now (redis (quota.key sha256 tenantID kind)) tokens) :
    Covers (limit.capacity : ℚ) (refillRate limit) tokens now ((quotaRun sha256 quota events redis).1.map chargedCost) := by
  induction events generalizing redis tokens now with
  | nil => trivial
  | cons event events ih =>
    obtain ⟨rest, later⟩ := run.head
    have reached := filled.advance valid (forward event List.mem_cons_self)
    cases event with
    | expire time key =>
      have covers := ih rest later (@expireKey_filled limit redis _ _ valid _ key reached)
      exact covers.waited (le_of_lt valid.rate_pos) (Int.cast_le.mpr (forward _ List.mem_cons_self))
    | allow time request call =>
      have asked := run.requests time request call List.mem_cons_self
      obtain ⟨answer, left⟩ := allow_filled asked valid call reached
      obtain ⟨cost, covered, remaining⟩ :=
        @answerAt_charge limit request.cost _ (validateQuotaRequest_cost asked.valid).1 (reached.bounds valid).1 call
      have covers := ih rest later left
      rw [← remaining] at covers
      rw [← answer] at cost covered covers
      exact ⟨Int.cast_le.mpr (forward _ List.mem_cons_self), cost, covered, covers⟩

/-- The records of a run are a function of the level that it starts with: a run in which keys
are removed is answered as the run without. -/
theorem quotaRun_records (forward : ∀ event ∈ events, now ≤ event.millis)
    (filled : BucketHolds limit now (redis (quota.key sha256 tenantID kind)) tokens)
    (same : BucketHolds limit now (kept (quota.key sha256 tenantID kind)) tokens) :
    (quotaRun sha256 quota events redis).1 = (quotaRun sha256 quota (events.filter QuotaEvent.isRequest) kept).1 := by
  induction events generalizing redis kept tokens now with
  | nil => rfl
  | cons event events ih =>
    obtain ⟨rest, later⟩ := run.head
    have reached := filled.advance valid (forward event List.mem_cons_self)
    have keeps := same.advance valid (forward event List.mem_cons_self)
    cases event with
    | expire time key => exact ih rest later (expireKey_filled valid reached) keeps
    | allow time request call =>
      have asked := run.requests time request call List.mem_cons_self
      obtain ⟨answer, left⟩ := allow_filled asked valid call reached
      obtain ⟨again, stays⟩ := allow_filled asked valid call keeps
      have records := ih rest later left stays
      have split : (QuotaEvent.allow time request call :: events).filter QuotaEvent.isRequest =
          .allow time request call :: events.filter QuotaEvent.isRequest := rfl
      rw [split]
      simp only [quotaRun]
      rw [answer, again, records]

/-- Every run leaves the key at a level, and while nothing is taken the level only rises. -/
theorem quotaRun_filled {later : Int}
    (forward : ∀ event ∈ events, now ≤ event.millis ∧ event.millis ≤ later) (start : now ≤ later)
    (filled : BucketHolds limit now (redis (quota.key sha256 tenantID kind)) tokens) :
    ∃ left, BucketHolds limit later ((quotaRun sha256 quota events redis).2 (quota.key sha256 tenantID kind)) left ∧
      ((∀ record ∈ (quotaRun sha256 quota events redis).1, record.answer.charged = false) →
        left = refill (limit.capacity : ℚ) (refillRate limit) tokens (later - now)) := by
  induction events generalizing redis tokens now with
  | nil => exact ⟨_, filled.advance valid start, fun _ => rfl⟩
  | cons event events ih =>
    obtain ⟨rest, clock⟩ := run.head
    obtain ⟨past, ahead⟩ := forward event List.mem_cons_self
    have reached := filled.advance valid past
    have rises : refill (limit.capacity : ℚ) (refillRate limit)
        (refill (limit.capacity : ℚ) (refillRate limit) tokens (event.millis - now)) (later - event.millis) =
        refill (limit.capacity : ℚ) (refillRate limit) tokens (later - now) := by
      rw [refill_refill (le_of_lt valid.rate_pos) (sub_nonneg.mpr (Int.cast_le.mpr ahead))]
      congr 1
      ring
    have between : ∀ other ∈ events, event.millis ≤ other.millis ∧ other.millis ≤ later :=
      fun other member => ⟨clock other member, (forward other (List.mem_cons_of_mem _ member)).2⟩
    cases event with
    | expire time key =>
      obtain ⟨left, holds, level⟩ := ih rest between ahead (expireKey_filled valid reached)
      exact ⟨left, holds, fun idle => (level idle).trans rises⟩
    | allow time request call =>
      have asked := run.requests time request call List.mem_cons_self
      obtain ⟨answer, after⟩ := allow_filled asked valid call reached
      obtain ⟨left, holds, level⟩ := ih rest between ahead after
      refine ⟨left, holds, fun idle => ?_⟩
      obtain ⟨taken, idle⟩ := List.forall_mem_cons.mp idle
      have uncharged : ¬ (RedisQuota.allow sha256 quota request time call redis).1.charged = true := by
        apply Bool.eq_false_iff.mp
        exact taken
      obtain ⟨-, -, remaining⟩ :=
        @answerAt_charge limit request.cost _ (validateQuotaRequest_cost asked.valid).1 (reached.bounds valid).1 call
      rw [← answer, if_neg uncharged, sub_zero] at remaining
      rw [level idle, ← remaining]
      exact rises

end

end

theorem QuotaEvents.left (run : QuotaEvents tenantID kind limit (events ++ after)) : QuotaEvents tenantID kind limit events :=
  ⟨fun time request call member => run.requests time request call (List.mem_append_left _ member),
    (List.pairwise_append.mp run.clock).1⟩

private theorem answerAt_refused (refused : (answerAt limit cost tokens .answered).result = .ok ⟨false, retry⟩) :
    ¬ cost ≤ tokens ∧ retry = (replyAt limit cost tokens).retryMillis * millisecond := by
  simp only [answerAt, Except.ok.injEq, QuotaDecision.mk.injEq, decide_eq_false_iff_not] at refused
  exact ⟨refused.1, refused.2.symm⟩

private theorem answerAt_allowed : (answerAt limit cost tokens .answered).result = .ok ⟨true, 0⟩ ↔ cost ≤ tokens := by
  simp only [answerAt, Except.ok.injEq, QuotaDecision.mk.injEq, decide_eq_true_eq, and_iff_left_iff_imp]
  intro covered
  rw [replyAt, if_pos covered, Int.zero_mul]

/-- A refused request is admitted from its retry time on, while nothing is admitted in between. -/
theorem allow_retry (valid : ValidLimit limit) {time later : RedisTime}
    (filled : BucketHolds limit time.millis (redis (quota.key sha256 tenantID kind)) tokens) (refused : ¬ request.cost ≤ tokens)
    (run : QuotaEvents tenantID kind limit (.allow time request .answered :: (events ++ [.allow later request .answered])))
    (idle : ∀ record ∈ (quotaRun sha256 quota events (quota.allow sha256 request time .answered redis).2).1, record.answer.charged = false) :
    (quota.allow sha256 request later .answered
        (quotaRun sha256 quota events (quota.allow sha256 request time .answered redis).2).2).1.result = .ok ⟨true, 0⟩ ↔
      time.millis + (replyAt limit request.cost tokens).retryMillis ≤ later.millis := by
  have asked := run.requests time request .answered List.mem_cons_self
  have within : request.cost ≤ limit.capacity := by
    rw [← asked.limit]
    exact (validateQuotaRequest_cost asked.valid).2
  obtain ⟨-, left⟩ := allow_filled asked valid .answered filled
  have same : afterCall request.cost tokens .answered = tokens := by
    rw [afterCall, if_neg (by decide), leftAt, if_neg refused]
  rw [same] at left
  obtain ⟨rest, clock⟩ := run.head
  have ahead : ∀ event ∈ events, event.millis ≤ later.millis :=
    fun event member => (List.pairwise_append.mp rest.clock).2.2 event member _ (List.mem_singleton_self _)
  have between : ∀ event ∈ events, time.millis ≤ event.millis ∧ event.millis ≤ later.millis :=
    fun event member => ⟨clock event (List.mem_append_left _ member), ahead event member⟩
  have start : time.millis ≤ later.millis := clock _ (List.mem_append_right _ (List.mem_singleton_self _))
  obtain ⟨_, reached, rises⟩ := quotaRun_filled valid rest.left between start left
  obtain rfl := rises idle
  obtain ⟨answer, -⟩ := allow_filled asked valid .answered reached
  rw [answer, answerAt_allowed, ← Int.cast_sub, retry_least valid within refused]
  omega

end Runs

/-- Requests of one tenant and kind under a valid limit, with a clock that never goes back and
keys removed after their expiry. The script reads the refill period in whole milliseconds, and
so are windows measured. -/
theorem token_bucket_bound (sha256 : Bytes → Bytes) (quota : RedisQuota) (tenantID : GoString) (kind : QuotaKind)
    (limit : QuotaLimit) (valid : limit.validate = .ok ()) (events : List QuotaEvent) (run : QuotaEvents tenantID kind limit events)
    (redis : Redis) (unused : redis (quota.key sha256 tenantID kind) = none) :
    (∀ low high : ℚ, low ≤ high → spentWithin low high ((quotaRun sha256 quota events redis).1.map chargedCost) ≤
      limit.capacity + limit.capacity * (high - low) / limit.periodMillis) ∧
    (∀ before time request after retry, events = before ++ .allow time request .answered :: after →
      (quota.allow sha256 request time .answered (quotaRun sha256 quota before redis).2).1.result = .ok ⟨false, retry⟩ →
      0 ≤ retry ∧ retry ≤ limit.refillPeriod ∧ ∃ millis : Int, retry = millis * millisecond ∧
        ∀ between later,
          QuotaEvents tenantID kind limit (.allow time request .answered :: (between ++ [.allow later request .answered])) →
          (∀ record ∈ (quotaRun sha256 quota between
              (quota.allow sha256 request time .answered (quotaRun sha256 quota before redis).2).2).1,
            record.answer.charged = false) →
          ((quota.allow sha256 request later .answered (quotaRun sha256 quota between
              (quota.allow sha256 request time .answered (quotaRun sha256 quota before redis).2).2).2).1.result = .ok ⟨true, 0⟩ ↔
            time.millis + millis ≤ later.millis)) ∧
    (quotaRun sha256 quota events redis).1 = (quotaRun sha256 quota (events.filter QuotaEvent.isRequest) redis).1 := by
  have sound := validLimit valid
  have room : (0 : ℚ) ≤ limit.capacity := Int.cast_nonneg (Int.le_of_lt sound.capacity)
  -- The clock of every event is past the epoch, where the bucket is full.
  have full : ∀ now, BucketHolds limit now (redis (quota.key sha256 tenantID kind)) limit.capacity := by
    intro now
    rw [unused]
    exact filled_none
  have forward : ∀ event ∈ events, 0 ≤ event.millis := fun event _ => quotaEvent_nonneg event
  refine ⟨?_, ?_, quotaRun_records sound run forward (full 0) (full 0)⟩
  · intro low high window
    have bound := (quotaRun_covers sound run forward (full 0)).window room (le_of_lt sound.rate_pos) window
    rw [refillRate, ← mul_div_assoc, mul_comm (high - low)] at bound
    exact bound
  · rintro before time request after retry rfl refused
    have clock : ∀ event ∈ before, 0 ≤ event.millis ∧ event.millis ≤ time.millis :=
      fun event member => ⟨quotaEvent_nonneg event, (List.pairwise_append.mp run.clock).2.2 event member _ List.mem_cons_self⟩
    have asked := run.requests time request .answered (List.mem_append_right _ List.mem_cons_self)
    have within : request.cost ≤ limit.capacity := by
      rw [← asked.limit]
      exact (validateQuotaRequest_cost asked.valid).2
    obtain ⟨tokens, filled, -⟩ := quotaRun_filled sound run.left clock (redisTime_nonneg time) (full 0)
    obtain ⟨answer, -⟩ := allow_filled asked sound .answered filled
    rw [answer] at refused
    obtain ⟨short, rfl⟩ := answerAt_refused refused
    obtain ⟨least, most⟩ := retry_bounds sound (filled.bounds sound).1 within
    have nearest : (replyAt limit request.cost tokens).retryMillis * millisecond ≤ limit.periodMillis * millisecond :=
      Int.mul_le_mul_of_nonneg_right most (by decide)
    refine ⟨Int.mul_nonneg least (by decide), Int.le_trans nearest sound.whole, _, rfl, ?_⟩
    intro between later next idle
    exact allow_retry sound filled short next idle

def sampleQuota : RedisQuota := ⟨lit "judge"⟩

def repeated (limit : QuotaLimit) (times : List RedisTime) : List QuotaEvent :=
  times.map fun time => .allow time ⟨lit "t", .judgeSubmit, 1, limit⟩ .answered

private theorem repeated_events {times : List RedisTime} (valid : validateQuotaRequest ⟨lit "t", .judgeSubmit, 1, limit⟩ = .ok ())
    (clock : times.Pairwise fun first second => first.millis ≤ second.millis) :
    QuotaEvents (lit "t") .judgeSubmit limit (repeated limit times) := by
  refine ⟨?_, List.pairwise_map.mpr clock⟩
  intro time request call member
  obtain ⟨_, -, same⟩ := List.mem_map.mp member
  obtain ⟨-, rfl, -⟩ := QuotaEvent.allow.inj same
  exact ⟨rfl, rfl, rfl, valid⟩

theorem token_bucket_bound_sample :
    spentWithin 0 500
        ((quotaRun id sampleQuota (repeated ⟨1, second⟩ [⟨0, 0⟩, ⟨0, 500000⟩, ⟨1, 0⟩]) fun _ => none).1.map chargedCost) ≤
      1 + 1 * (500 - 0) / 1000 := by
  have run : QuotaEvents (lit "t") .judgeSubmit ⟨1, second⟩ (repeated ⟨1, second⟩ [⟨0, 0⟩, ⟨0, 500000⟩, ⟨1, 0⟩]) :=
    repeated_events (by decide +kernel) (by decide +kernel)
  have bound := (token_bucket_bound id sampleQuota (lit "t") .judgeSubmit ⟨1, second⟩ (by decide +kernel) _ run
    (fun _ => none) rfl).1 0 500 (by norm_num)
  exact_mod_cast bound

/-- A refill period of 1.5 ms counts as one millisecond: two tokens of a bucket for one are
admitted within a millisecond. -/
theorem fraction_of_period_dropped :
    QuotaLimit.validate ⟨1, 1500000⟩ = .ok () ∧
    QuotaEvents (lit "t") .judgeSubmit ⟨1, 1500000⟩ (repeated ⟨1, 1500000⟩ [⟨0, 0⟩, ⟨0, 1000⟩]) ∧
    ¬ spentWithin 0 1 ((quotaRun id sampleQuota (repeated ⟨1, 1500000⟩ [⟨0, 0⟩, ⟨0, 1000⟩]) fun _ => none).1.map chargedCost) ≤
      1 + 1 * ((1 - 0) * (millisecond : ℚ)) / (1500000 : Duration) := by
  refine ⟨by decide +kernel, repeated_events (by decide +kernel) (by decide +kernel), ?_⟩
  have spent : spentWithin 0 1
      ((quotaRun id sampleQuota (repeated ⟨1, 1500000⟩ [⟨0, 0⟩, ⟨0, 1000⟩]) fun _ => none).1.map chargedCost) = 2 := by
    decide +kernel
  rw [spent]
  norm_num [millisecond]

/-! ### Tenants -/

/-- The buckets of the tenant hold the same. -/
def SameBuckets (sha256 : Bytes → Bytes) (quota : RedisQuota) (tenantID : GoString) (redis twin : Redis) : Prop :=
  ∀ kind, redis (quota.key sha256 tenantID kind) = twin (quota.key sha256 tenantID kind)

def QuotaEvent.concerns (tenantID : GoString) : QuotaEvent → Bool
  | .allow _ request _ => request.tenantID = tenantID
  | .expire _ _ => true

section Tenants

variable {quota : RedisQuota} {redis twin : Redis}

private theorem quotaKey_tenant (noCollisions : Function.Injective sha256)
    (same : quota.key sha256 tenantID kind = quota.key sha256 other kind') : tenantID = other := by
  simp only [RedisQuota.key, List.append_assoc, List.append_cancel_left_eq] at same
  have plain : ∀ digest, (125 : UInt8) ∉ encodeHex digest := encodeHex_plain (by decide)
  exact noCollisions (encodeHex_inj (append_mark_inj (plain _) (plain _) same).1)

private theorem allow_own (same : SameBuckets sha256 quota request.tenantID redis twin) (time : RedisTime) (call : EvalCall) :
    (quota.allow sha256 request time call redis).1 = (quota.allow sha256 request time call twin).1 ∧
    SameBuckets sha256 quota request.tenantID (quota.allow sha256 request time call redis).2
      (quota.allow sha256 request time call twin).2 := by
  unfold RedisQuota.allow
  split
  · exact ⟨rfl, same⟩
  · dsimp only
    rw [← same request.kind]
    cases call with
    | unreachable => exact ⟨rfl, same⟩
    | answered | answerLost =>
      refine ⟨rfl, fun kind => ?_⟩
      simp only [Function.update_apply]
      split
      · rfl
      · exact same kind

private theorem allow_other (noCollisions : Function.Injective sha256) (other : request.tenantID ≠ tenantID)
    (same : SameBuckets sha256 quota tenantID redis twin) (time : RedisTime) (call : EvalCall) :
    SameBuckets sha256 quota tenantID (quota.allow sha256 request time call redis).2 twin := by
  intro kind
  rw [← same kind]
  have apart : quota.key sha256 tenantID kind ≠ quota.key sha256 request.tenantID request.kind :=
    fun shared => other (quotaKey_tenant noCollisions shared).symm
  unfold RedisQuota.allow
  split
  · rfl
  · cases call with
    | unreachable => rfl
    | answered | answerLost => exact Function.update_of_ne apart _ _

private theorem expireKey_same (same : SameBuckets sha256 quota tenantID redis twin) (now : Int) (key : GoString) :
    SameBuckets sha256 quota tenantID (expireKey now key redis) (expireKey now key twin) := by
  intro kind
  have own := same kind
  unfold expireKey
  by_cases here : quota.key sha256 tenantID kind = key
  · subst here
    rw [own]
    split_ifs <;> simp [own]
  · split_ifs <;> simp [here, own]

end Tenants

/-- The answers that a tenant gets do not depend on what other tenants ask for in between. -/
theorem quota_isolation (sha256 : Bytes → Bytes) (noCollisions : Function.Injective sha256) (quota : RedisQuota)
    (tenantID : GoString) (events : List QuotaEvent) {redis twin : Redis} (same : SameBuckets sha256 quota tenantID redis twin) :
    (quotaRun sha256 quota events redis).1.filter (fun record => record.request.tenantID = tenantID) =
      (quotaRun sha256 quota (events.filter (QuotaEvent.concerns tenantID)) twin).1 := by
  induction events generalizing redis twin with
  | nil => rfl
  | cons event rest ih =>
    cases event with
    | expire time key => exact ih (expireKey_same same time.millis key)
    | allow time request call =>
      by_cases own : request.tenantID = tenantID
      · subst own
        obtain ⟨answer, after⟩ := allow_own same time call
        simp [quotaRun, QuotaEvent.concerns, answer, ih after]
      · simp [quotaRun, QuotaEvent.concerns, own, ih (allow_other noCollisions own same time call)]

/-- Another tenant has taken the only token of its own bucket. -/
theorem quota_isolation_sample :
    (quotaRun id sampleQuota (.allow ⟨0, 0⟩ ⟨lit "u", .judgeSubmit, 1, ⟨1, second⟩⟩ .answered :: repeated ⟨1, second⟩ [⟨0, 0⟩])
        fun _ => none).1.filter (fun record => record.request.tenantID = lit "t") =
      (quotaRun id sampleQuota (repeated ⟨1, second⟩ [⟨0, 0⟩]) fun _ => none).1 :=
  quota_isolation id Function.injective_id sampleQuota (lit "t") _ fun _ => rfl

end JudgingServer.Proofs
