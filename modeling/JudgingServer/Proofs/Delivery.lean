import JudgingServer.External.WebhookOutbox

/-! The state machine of the webhook outbox: what a step does to the table, what every
row keeps, and when a row that waits is due before it expires. -/

namespace JudgingServer.Proofs
open Go External Library Table Transaction

variable {claim : WebhookClaim} {db : WebhookDb} {event : WebhookEvent} {settlement : WebhookSettlement}

/-- A row as `insertTerminalWebhookEvent` creates it. -/
def Inserted (row : WebhookRow) : Prop :=
  ∃ id window now job tenantID callbackID eventID eventType payloadBody, validDeliveryWindow window = true ∧
    row = newWebhook id (outboxRow window now job tenantID callbackID eventID eventType payloadBody)

/-- A row whose delivery has ended. -/
def Over (row : WebhookRow) : Prop := row.status = .delivered ∨ row.status = .dead

inductive Claimed (maximumAttempts : Nat) (row : WebhookRow) : WebhookRow → Prop where
  | leased (workerID : GoString) (token : Bytes) (leaseUntil : Time) (below : row.attemptCount < maximumAttempts) :
      Claimed maximumAttempts row (row.lease workerID token leaseUntil)
  | buried (code : GoString) (time : Time) : Claimed maximumAttempts row (row.bury code time)

inductive Settled (maximumAttempts : Nat) (settlement : WebhookSettlement) (now : Time) (row : WebhookRow) : WebhookRow → Prop where
  | delivered (disposition : settlement.disposition = .delivered) (status : 200 ≤ settlement.httpStatus ∧ settlement.httpStatus ≤ 299) :
      Settled maximumAttempts settlement now row (row.deliver settlement now)
  | dead : Settled maximumAttempts settlement now row (row.giveUp settlement now)
  | retried (disposition : settlement.disposition = .retry) (valid : settlement.retryTimeValid now = true)
      (below : row.attemptCount < maximumAttempts) (before : settlement.retryTime now < row.expiresAt.instant) :
      Settled maximumAttempts settlement now row (row.retry settlement (settlement.retryTime now))

inductive Delivery (maximumAttempts : Nat) (db : WebhookDb) : WebhookEvent → List WebhookRow → Prop where
  | idle (event : WebhookEvent) : Delivery maximumAttempts db event db.outbox
  | inserted {event : WebhookEvent} (row : WebhookRow) (inserted : Inserted row)
      (fresh : ∀ other ∈ db.outbox, other.id ≠ row.id) : Delivery maximumAttempts db event (db.outbox ++ [row])
  | claimed {session : WebhookSession} {workerID : GoString} {lease : Duration} {row row' : WebhookRow} {outbox : List WebhookRow}
      (claimable : row.claimable db.now = true) (claimed : Claimed maximumAttempts row row')
      (replaced : Replaced row row' db.outbox outbox) : Delivery maximumAttempts db (.claim session workerID lease) outbox
  | settled {claim : WebhookClaim} {settlement : WebhookSettlement} {row row' : WebhookRow} {outbox : List WebhookRow}
      (valid : validWebhookClaim claim = true ∧ validWebhookSettlement settlement = true)
      (holds : claim.holds db.now row = true) (settled : Settled maximumAttempts settlement db.now row row')
      (replaced : Replaced row row' db.outbox outbox) : Delivery maximumAttempts db (.settle claim settlement) outbox
  | swept {locked : List Nat} {retention : Duration} {limit : Int} (gone : WebhookRow → Bool)
      (old : ∀ row ∈ db.outbox, gone row = true → row.sweepable db.now retention = true) :
      Delivery maximumAttempts db (.sweep locked retention limit) (delete gone db.outbox)

section Steps

variable {repository : MySQLWebhookOutboxRepository} {db : WebhookDb}

private theorem update_webhook (keyed : Keyed WebhookRow.id db.outbox) (member : row ∈ db.outbox)
    (change : WebhookRow → WebhookRow) :
    Replaced row (change row) db.outbox (update (fun other => other.id = row.id) change db.outbox) :=
  update_replaced keyed member (by simp) fun _ _ selected => by simpa using selected

private theorem selectWebhook_some (found : selectWebhook locked now db = some joined) :
    joined.row ∈ db.outbox ∧ joined.row.claimable now = true := by
  obtain ⟨member, holds⟩ := first_some found
  obtain ⟨row, inside, paired⟩ := List.mem_filterMap.mp member
  simp only [Bool.and_eq_true] at holds
  unfold joinWebhook at paired
  split at paired
  next =>
    obtain rfl := Option.some.inj paired
    exact ⟨inside, holds.1.1⟩
  next => cases paired

private theorem webhookDeadCode_none (deliverable : webhookDeadCode maximumAttempts leaseNow joined = none) :
    joined.row.attemptCount < maximumAttempts := by
  unfold webhookDeadCode at deliverable
  split_ifs at deliverable with _ _ _ exhausted
  exact Nat.lt_of_not_le exhausted

theorem claimWebhook_cases {claim : Option WebhookClaim}
    (ran : claimWebhook repository session workerID lease db = .ok (claim, next)) :
    ∃ joined : ClaimableWebhook, joined.row ∈ db.outbox ∧ joined.row.claimable db.now = true ∧
      ∃ change, Claimed repository.maximumAttempts joined.row (change joined.row) ∧
        next.outbox = update (fun row => row.id = joined.row.id) change db.outbox ∧
        ∀ given, claim = some given → ∃ token, session.leaseToken = some token ∧
          given = webhookClaim joined workerID token ((db.now + session.waited).instant + lease) := by
  unfold claimWebhook at ran
  have ran := after_query ran
  obtain ⟨joined, found, ran⟩ := after_require ran
  obtain ⟨member, claimable⟩ := selectWebhook_some found
  refine ⟨joined, member, claimable, ?_⟩
  have ran := after_execute ran
  have ran := after_query ran
  cases dead : webhookDeadCode repository.maximumAttempts (db.now + session.waited) joined with
  | some code =>
    simp only [dead] at ran
    have ran := after_ok ran rfl
    obtain ⟨rfl, rfl⟩ := pure_ok ran
    exact ⟨_, .buried code _, rfl, fun given some => by cases some⟩
  | none =>
    simp only [dead] at ran
    obtain ⟨token, drawn, ran⟩ := after_require ran
    have ran := after_ok ran rfl
    obtain ⟨-, ran⟩ := after_ensure ran
    obtain ⟨rfl, rfl⟩ := pure_ok ran
    refine ⟨_, .leased workerID token _ (webhookDeadCode_none dead), rfl, fun given same => ⟨token, drawn, ?_⟩⟩
    exact (Option.some.inj same).symm

private theorem claimWebhook_ok {claim : Option WebhookClaim} (keyed : Keyed WebhookRow.id db.outbox)
    (ran : claimWebhook repository session workerID lease db = .ok (claim, next)) :
    Delivery repository.maximumAttempts db (.claim session workerID lease) next.outbox := by
  obtain ⟨joined, member, claimable, change, claimed, written, -⟩ := claimWebhook_cases ran
  rw [written]
  exact .claimed claimable claimed (update_webhook keyed member change)

private theorem validWebhookSettlement_delivered (valid : validWebhookSettlement settlement = true)
    (delivered : settlement.disposition = .delivered) : 200 ≤ settlement.httpStatus ∧ settlement.httpStatus ≤ 299 := by
  unfold validWebhookSettlement at valid
  split at valid
  next => cases valid
  next =>
    simp only [delivered, decide_eq_true_eq] at valid
    exact ⟨valid.1, valid.2.1⟩

private theorem holds_id (holds : claim.holds now row = true) : row.id = claim.outboxID := by
  simp only [WebhookClaim.holds, decide_eq_true_eq] at holds
  exact holds.1

private theorem settleWebhook_ok (keyed : Keyed WebhookRow.id db.outbox)
    (ran : settleWebhook repository claim settlement db = .ok (done, next)) :
    Delivery repository.maximumAttempts db (.settle claim settlement) next.outbox := by
  unfold settleWebhook at ran
  obtain ⟨valid, ran⟩ := after_ensure ran
  simp only [decide_eq_true_eq] at valid
  have ran := after_query ran
  obtain ⟨row, found, ran⟩ := after_require ran
  have member := List.mem_of_find?_eq_some found
  have holds := List.find?_some found
  have written : ∀ change : WebhookRow → WebhookRow, Replaced row (change row) db.outbox
      (update (fun row => row.id = claim.outboxID) change db.outbox) := by
    intro change
    rw [← holds_id holds]
    exact update_webhook keyed member change
  cases disposition : settlement.disposition with
  | delivered =>
    simp only [disposition] at ran
    have ran := after_ok ran rfl
    obtain ⟨-, rfl⟩ := pure_ok ran
    exact .settled valid holds (.delivered disposition (validWebhookSettlement_delivered valid.2 disposition)) (written _)
  | permanentFailure =>
    simp only [disposition] at ran
    have ran := after_ok ran rfl
    obtain ⟨-, rfl⟩ := pure_ok ran
    exact .settled valid holds .dead (written _)
  | retry =>
    simp only [disposition] at ran
    obtain ⟨near, ran⟩ := after_ensure ran
    split at ran
    next =>
      have ran := after_ok ran rfl
      obtain ⟨-, rfl⟩ := pure_ok ran
      exact .settled valid holds .dead (written _)
    next again =>
      obtain ⟨below, before⟩ := not_or.mp again
      have ran := after_ok ran rfl
      obtain ⟨-, rfl⟩ := pure_ok ran
      exact .settled valid holds (.retried disposition near (Nat.lt_of_not_le below) (Int.not_le.mp before)) (written _)
  | other text =>
    simp only [disposition] at ran
    obtain ⟨-, rfl⟩ := pure_ok ran
    exact .idle _

private theorem deleteWebhooks_ok (ran : deleteWebhooks ids db = .ok (deleted, next)) :
    next.outbox = delete (fun row => ids.contains row.id) db.outbox := by
  induction ids generalizing db deleted with
  | nil =>
    obtain ⟨-, rfl⟩ := pure_ok ran
    simp [delete]
  | cons id rest ih =>
    unfold deleteWebhooks at ran
    obtain ⟨_, _, count, ran⟩ := bind_ok ran
    obtain ⟨-, rfl⟩ := query_ok count
    have ran := after_execute ran
    obtain ⟨_, _, others, ran⟩ := bind_ok ran
    obtain ⟨-, rfl⟩ := pure_ok ran
    rw [ih others]
    simp only [delete, List.filter_filter]
    refine List.filter_congr fun row _ => ?_
    by_cases same : row.id = id <;> simp [same]

private theorem sweepTerminal_ok (keyed : Keyed WebhookRow.id db.outbox)
    (ran : sweepTerminal locked retention limit db = .ok (deleted, next)) :
    Delivery repository.maximumAttempts db (.sweep locked retention limit) next.outbox := by
  unfold sweepTerminal at ran
  obtain ⟨-, ran⟩ := after_ensure ran
  have ran := after_query ran
  have ran := after_query ran
  rw [deleteWebhooks_ok ran]
  refine .swept _ fun row member gone => ?_
  have chosen : row.id ∈ selectTerminal locked retention limit.toNat db.now db := by simpa using gone
  obtain ⟨other, inside, same⟩ := List.mem_map.mp chosen
  have kept := List.mem_filter.mp (List.mem_mergeSort.mp (List.mem_of_mem_take inside))
  rw [keyed.eq kept.1 member same] at kept
  exact (Bool.and_eq_true _ _ ▸ kept.2).1

private theorem webhookStep_delivery (event : WebhookEvent) (keyed : Keyed WebhookRow.id db.outbox) :
    Delivery repository.maximumAttempts db event (webhookStep repository event db).outbox := by
  cases event with
  | tick elapsed => exact .idle _
  | provision tenants callbacks => exact .idle _
  | insert id window job tenantID callbackID eventID eventType payloadBody =>
    simp only [webhookStep]
    split
    next => exact .idle _
    next fresh =>
      simp only [Bool.or_eq_true, Bool.not_eq_true', List.any_eq_true, decide_eq_true_eq, not_or, not_exists, not_and,
        Bool.not_eq_false] at fresh
      refine .inserted _ ⟨id, window, db.now, job, tenantID, callbackID, eventID, eventType, payloadBody, fresh.1, rfl⟩ ?_
      exact fun other member => (fresh.2 other member).1
  | claim session workerID lease =>
    obtain ⟨claim, next, ran, committed⟩ | ⟨error, ran, rolledBack⟩ := commit_cases (claimWebhook repository session workerID lease) db
    · simp only [webhookStep, committed]
      exact claimWebhook_ok keyed ran
    · simp only [webhookStep, rolledBack]
      exact .idle _
  | settle claim settlement =>
    obtain ⟨done, next, ran, committed⟩ | ⟨error, ran, rolledBack⟩ := commit_cases (settleWebhook repository claim settlement) db
    · simp only [webhookStep, committed]
      exact settleWebhook_ok keyed ran
    · simp only [webhookStep, rolledBack]
      exact .idle _
  | sweep locked retention limit =>
    obtain ⟨deleted, next, ran, committed⟩ | ⟨error, ran, rolledBack⟩ := commit_cases (sweepTerminal locked retention limit) db
    · simp only [webhookStep, committed]
      exact sweepTerminal_ok keyed ran
    · simp only [webhookStep, rolledBack]
      exact .idle _

end Steps

/-! ### What the steps keep -/

/-- What holds of every row at every time. -/
structure SoundRow (maximumAttempts : Nat) (row : WebhookRow) : Prop where
  attempts : row.attemptCount ≤ maximumAttempts
  leased : row.status = .delivering → row.workerID.isSome ∧ row.leaseToken.isSome ∧ row.leaseUntil.isSome
  unleased : row.status ≠ .delivering → row.workerID = none ∧ row.leaseToken = none ∧ row.leaseUntil = none
  delivered : row.status = .delivered → ∃ status, row.lastHTTPStatus = some status ∧ 200 ≤ status ∧ status ≤ 299

structure SoundOutbox (maximumAttempts : Nat) (outbox : List WebhookRow) : Prop where
  keyed : Keyed WebhookRow.id outbox
  rows : ∀ row ∈ outbox, SoundRow maximumAttempts row

def announced (row : WebhookRow) : Nat × GoString × Bytes := (row.id, row.eventID, row.payloadBody)

section Rows

theorem Inserted.sound (inserted : Inserted row) : SoundRow maximumAttempts row := by
  obtain ⟨id, window, now, job, tenantID, callbackID, eventID, eventType, payloadBody, _, rfl⟩ := inserted
  exact ⟨Nat.zero_le _, nofun, fun _ => ⟨rfl, rfl, rfl⟩, nofun⟩

theorem Claimed.announced (claimed : Claimed maximumAttempts row row') : Proofs.announced row' = Proofs.announced row := by
  cases claimed <;> rfl

theorem Settled.announced (settled : Settled maximumAttempts settlement now row row') :
    Proofs.announced row' = Proofs.announced row := by
  cases settled <;> rfl

theorem Claimed.sound (claimed : Claimed maximumAttempts row row') (sound : SoundRow maximumAttempts row) :
    SoundRow maximumAttempts row' := by
  cases claimed with
  | leased workerID token leaseUntil below => exact ⟨below, fun _ => ⟨rfl, rfl, rfl⟩, fun other => absurd rfl other, nofun⟩
  | buried code time => exact ⟨sound.attempts, nofun, fun _ => ⟨rfl, rfl, rfl⟩, nofun⟩

theorem Settled.sound (settled : Settled maximumAttempts settlement now row row') (sound : SoundRow maximumAttempts row) :
    SoundRow maximumAttempts row' := by
  cases settled with
  | delivered disposition status =>
    refine ⟨sound.attempts, nofun, fun _ => ⟨rfl, rfl, rfl⟩, fun _ => ⟨settlement.httpStatus, if_neg ?_, status⟩⟩
    omega
  | dead => exact ⟨sound.attempts, nofun, fun _ => ⟨rfl, rfl, rfl⟩, nofun⟩
  | retried => exact ⟨sound.attempts, nofun, fun _ => ⟨rfl, rfl, rfl⟩, nofun⟩

private theorem claimable_open (claimable : row.claimable now = true) : ¬ Over row := by
  simp only [WebhookRow.claimable, decide_eq_true_eq] at claimable
  rintro (delivered | dead)
  all_goals simp_all

private theorem sweepable_over (old : row.sweepable now retention = true) : Over row := by
  simp only [WebhookRow.sweepable, decide_eq_true_eq] at old
  exact old.imp And.left And.left

end Rows

theorem Delivery.sound (delivery : Delivery maximumAttempts db event outbox) (sound : SoundOutbox maximumAttempts db.outbox) :
    SoundOutbox maximumAttempts outbox := by
  have written : ∀ {row row' : WebhookRow} {outbox : List WebhookRow}, Replaced row row' db.outbox outbox →
      announced row' = announced row → (SoundRow maximumAttempts row → SoundRow maximumAttempts row') →
      SoundOutbox maximumAttempts outbox := by
    intro row row' outbox replaced same keeps
    refine ⟨replaced.keyed sound.keyed (congrArg Prod.fst same), fun other member => ?_⟩
    obtain rfl | inside := replaced.subset member
    · exact keeps (sound.rows row replaced.mem_left)
    · exact sound.rows other inside
  cases delivery with
  | idle => exact sound
  | inserted row inserted fresh =>
    refine ⟨sound.keyed.insert fresh, fun other member => ?_⟩
    obtain inside | single := List.mem_append.mp member
    · exact sound.rows other inside
    · rw [List.mem_singleton.mp single]
      exact inserted.sound
  | claimed claimable claimed replaced => exact written replaced claimed.announced claimed.sound
  | settled valid holds settled replaced => exact written replaced settled.announced settled.sound
  | swept gone old =>
    exact ⟨(List.filter_sublist.map _).nodup sound.keyed, fun row member => sound.rows row (List.mem_of_mem_filter member)⟩

/-- When the delivery of a row ended, and how. -/
def OverSince (row : WebhookRow) (time : Time) : Prop :=
  row.status = .delivered ∧ row.deliveredAt = some time ∨ row.status = .dead ∧ row.deadAt = some time

/-- What one step may do to the rows it finds. -/
structure SafeStep (db : WebhookDb) (event : WebhookEvent) (outbox : List WebhookRow) : Prop where
  identity : ∀ row ∈ db.outbox, ∀ row' ∈ outbox, row'.id = row.id → row'.eventID = row.eventID ∧ row'.payloadBody = row.payloadBody
  settlement : ∀ claim settlement, event = .settle claim settlement → ∀ row ∈ db.outbox, row ∉ outbox →
    row.id = claim.outboxID ∧ row.status = .delivering ∧ row.attemptCount = claim.attemptCount ∧
    row.workerID = some claim.workerID ∧ row.leaseToken = some claim.leaseToken ∧
    ∃ lease, row.leaseUntil = some lease ∧ db.now < lease
  delivered : ∀ row ∈ outbox, row.status = .delivered → row ∈ db.outbox ∨
    ∃ claim settlement, event = .settle claim settlement ∧ 200 ≤ settlement.httpStatus ∧ settlement.httpStatus ≤ 299
  terminal : ∀ row ∈ db.outbox, Over row → row ∈ outbox ∨ ∃ locked retention limit ended,
    event = .sweep locked retention limit ∧ OverSince row ended ∧ ended.instant + retention ≤ db.now.instant
  kept : ∀ row ∈ db.outbox, ¬ Over row → ∃ row' ∈ outbox, row'.id = row.id

private theorem holds_iff : claim.holds now row = true ↔
    row.id = claim.outboxID ∧ row.status = .delivering ∧ row.attemptCount = claim.attemptCount ∧
    row.workerID = some claim.workerID ∧ row.leaseToken = some claim.leaseToken ∧
    ∃ lease, row.leaseUntil = some lease ∧ now < lease := by
  simp [WebhookClaim.holds, Option.any_eq_true]

private theorem sweepable_ended (old : row.sweepable now retention = true) :
    ∃ ended, OverSince row ended ∧ ended.instant + retention ≤ now.instant := by
  simp only [WebhookRow.sweepable, decide_eq_true_eq, Option.any_eq_true] at old
  obtain ⟨status, ended, found, past⟩ | ⟨status, ended, found, past⟩ := old
  · exact ⟨ended, .inl ⟨status, found⟩, Int.add_le_of_le_sub_right past⟩
  · exact ⟨ended, .inr ⟨status, found⟩, Int.add_le_of_le_sub_right past⟩

private theorem Replaced.safe_step (replaced : Replaced row row' db.outbox outbox) (keyed : Keyed WebhookRow.id db.outbox)
    (same : announced row' = announced row) (open_ : ¬ Over row)
    (fenced : ∀ claim settlement, event = .settle claim settlement → claim.holds db.now row = true)
    (delivered : row'.status = .delivered → ∃ claim settlement, event = .settle claim settlement ∧ 200 ≤ settlement.httpStatus ∧ settlement.httpStatus ≤ 299) :
    SafeStep db event outbox := by
  obtain ⟨id, event, body⟩ : row'.id = row.id ∧ row'.eventID = row.eventID ∧ row'.payloadBody = row.payloadBody := by
    simpa [announced] using same
  have stays : ∀ {other : WebhookRow}, other ∈ db.outbox → other ≠ row → other ∈ outbox :=
    fun member different => Table.Replaced.stays replaced keyed member different
  refine ⟨?_, ?_, ?_, ?_, ?_⟩
  · intro old member new member' matched
    obtain rfl | inside := replaced.subset member'
    · rw [keyed.eq member replaced.mem_left (matched.symm.trans id)]
      exact ⟨event, body⟩
    · rw [keyed.eq inside member matched]
      exact ⟨rfl, rfl⟩
  · intro claim settlement settles old member gone
    by_cases written : old = row
    · rw [written]
      exact holds_iff.mp (fenced claim settlement settles)
    · exact absurd (stays member written) gone
  · intro new member status
    obtain rfl | inside := replaced.subset member
    · exact .inr (delivered status)
    · exact .inl inside
  · intro old member ended
    exact .inl (stays member fun written => open_ (written ▸ ended))
  · intro old member _
    by_cases written : old = row
    · exact ⟨row', replaced.mem_right, id.trans (congrArg WebhookRow.id written.symm)⟩
    · exact ⟨old, stays member written, rfl⟩

theorem Delivery.safe (delivery : Delivery maximumAttempts db event outbox) (keyed : Keyed WebhookRow.id db.outbox) :
    SafeStep db event outbox := by
  have same : ∀ row ∈ db.outbox, ∀ row' ∈ db.outbox, row'.id = row.id →
      row'.eventID = row.eventID ∧ row'.payloadBody = row.payloadBody := by
    intro row member row' member' id
    rw [keyed.eq member' member id]
    exact ⟨rfl, rfl⟩
  cases delivery with
  | idle =>
    exact ⟨same, fun _ _ _ _ member gone => absurd member gone, fun _ member _ => .inl member, fun _ member _ => .inl member,
      fun row member _ => ⟨row, member, rfl⟩⟩
  | inserted row inserted fresh =>
    have stays : ∀ other ∈ db.outbox, other ∈ db.outbox ++ [row] := fun other member => List.mem_append_left _ member
    refine ⟨?_, ?_, ?_, fun other member _ => .inl (stays other member), fun other member _ => ⟨other, stays other member, rfl⟩⟩
    · intro old member new member' id
      obtain inside | single := List.mem_append.mp member'
      · exact same old member new inside id
      · rw [List.mem_singleton.mp single] at id
        exact absurd id.symm (fresh old member)
    · exact fun _ _ _ other member gone => absurd (stays other member) gone
    · intro new member delivered
      obtain inside | single := List.mem_append.mp member
      · exact .inl inside
      · rw [List.mem_singleton.mp single] at delivered
        obtain ⟨_, _, _, _, _, _, _, _, _, _, rfl⟩ := inserted
        cases delivered
  | claimed claimable claimed replaced =>
    refine Replaced.safe_step replaced keyed claimed.announced (claimable_open claimable) nofun fun delivered => ?_
    cases claimed <;> cases delivered
  | @settled claim settlement row row' _ valid holds settled replaced =>
    have open_ : ¬ Over row := by
      have delivering := (holds_iff.mp holds).2.1
      rintro (delivered | dead)
      all_goals simp_all
    refine Replaced.safe_step replaced keyed settled.announced open_ ?_ fun delivered => ?_
    · rintro _ _ ⟨⟩
      exact holds
    · cases settled with
      | delivered disposition status => exact ⟨claim, settlement, rfl, status⟩
      | dead => cases delivered
      | retried => cases delivered
  | swept gone old =>
    have stays : ∀ row ∈ db.outbox, ¬ gone row = true → row ∈ delete gone db.outbox := by
      intro row member here
      exact List.mem_filter.mpr ⟨member, by simpa using here⟩
    refine ⟨fun row member row' member' => same row member row' (List.mem_of_mem_filter member'), nofun,
      fun row member _ => .inl (List.mem_of_mem_filter member), fun row member _ => ?_, fun row member open_ => ?_⟩
    · by_cases here : gone row = true
      · obtain ⟨ended, lapsed, past⟩ := sweepable_ended (old row member here)
        exact .inr ⟨_, _, _, ended, rfl, lapsed, past⟩
      · exact .inl (stays row member here)
    · exact ⟨row, stays row member fun here => open_ (sweepable_over (old row member here)), rfl⟩

/-! ### Deadlines -/

/-- Every row that waits is due before it expires. -/
def Punctual (db : WebhookDb) : Prop := ∀ row ∈ db.outbox, row.status = .pending → row.nextAttemptAt < row.expiresAt

/-- The settlement goes through and puts the row back into the queue. -/
structure Requeues (repository : MySQLWebhookOutboxRepository) (db : WebhookDb) (claim : WebhookClaim) (settlement : WebhookSettlement)
    (row : WebhookRow) : Prop where
  valid : validWebhookClaim claim = true ∧ validWebhookSettlement settlement = true
  disposition : settlement.disposition = .retry
  near : settlement.retryTimeValid db.now = true
  member : row ∈ db.outbox
  holds : claim.holds db.now row = true
  below : row.attemptCount < repository.maximumAttempts
  before : settlement.retryTime db.now < row.expiresAt.instant

/-- No retry falls into the last half millisecond before its row expires, which the
column rounds up. -/
def RetriesInTime (repository : MySQLWebhookOutboxRepository) (db : WebhookDb) (event : WebhookEvent) : Prop :=
  ∀ claim settlement row, event = .settle claim settlement → Requeues repository db claim settlement row →
    settlement.retryTime db.now + 500000 < row.expiresAt.instant

private theorem stored_lt_iff {instant : Instant} {time : Time} (positive : 0 < time) :
    instant.stored < time ↔ instant + 500000 < time.instant := by
  have floor : (instant + 500000) / millisecond < (time : Int) ↔ instant + 500000 < (time : Int) * millisecond :=
    Int.ediv_lt_iff_lt_mul (by decide)
  exact (Int.toNat_lt' positive).trans floor

private theorem retryTime_pos (near : settlement.retryTimeValid now = true) : 0 < settlement.retryTime now := by
  have clock : 0 ≤ now.instant := Int.mul_nonneg (Int.natCast_nonneg now) (by decide)
  simp only [WebhookSettlement.retryTimeValid, decide_eq_true_eq] at near
  unfold WebhookSettlement.retryTime
  split
  next delay => exact Int.add_pos_of_nonneg_of_pos clock delay
  next absolute => exact Int.lt_of_le_of_lt clock (near.resolve_left absolute).1

section Deadlines

variable {repository : MySQLWebhookOutboxRepository} {db : WebhookDb}

private theorem Requeues.stored_lt (requeues : Requeues repository db claim settlement row) :
    (settlement.retryTime db.now).stored < row.expiresAt ↔ settlement.retryTime db.now + 500000 < row.expiresAt.instant := by
  have later : 0 < row.expiresAt.instant := Int.lt_trans (retryTime_pos requeues.near) requeues.before
  refine stored_lt_iff (Nat.pos_of_ne_zero fun zero => ?_)
  rw [zero] at later
  exact absurd later (by decide)

theorem Requeues.step (requeues : Requeues repository db claim settlement row) (keyed : Keyed WebhookRow.id db.outbox) :
    row.retry settlement (settlement.retryTime db.now) ∈ (webhookStep repository (.settle claim settlement) db).outbox := by
  have found : db.outbox.find? (claim.holds db.now) = some row :=
    keyed.find? requeues.member requeues.holds fun _ holds => (holds_id holds).trans (holds_id requeues.holds).symm
  have again : ¬ (repository.maximumAttempts ≤ row.attemptCount ∨ row.expiresAt.instant ≤ settlement.retryTime db.now) :=
    not_or.mpr ⟨Nat.not_le.mpr requeues.below, Int.not_le.mpr requeues.before⟩
  have ran : settleWebhook repository claim settlement db = .ok ((), { db with
      outbox := update (fun row => row.id = claim.outboxID) (WebhookRow.retry settlement (settlement.retryTime db.now)) db.outbox }) := by
    unfold settleWebhook
    rw [ensure_bind (by simpa using requeues.valid), query_bind]
    refine Eq.trans (require_bind (by exact found) _) ?_
    simp only [requeues.disposition]
    rw [ensure_bind requeues.near, if_neg again]
    rfl
  simp only [webhookStep, commit, ran]
  exact mem_update.mpr (.inl ⟨row, requeues.member, by simpa using holds_id requeues.holds, rfl⟩)

theorem Inserted.punctual (inserted : Inserted row) : row.nextAttemptAt < row.expiresAt := by
  obtain ⟨id, window, now, job, tenantID, callbackID, eventID, eventType, payloadBody, valid, rfl⟩ := inserted
  have long : (60000000000 : Int) ≤ window := by
    simp only [validDeliveryWindow, decide_eq_true_eq] at valid
    exact valid.1
  have grows : (1 : Int) ≤ (window + 500000) / millisecond := by
    unfold millisecond
    omega
  exact Int.lt_toNat.mpr (Int.lt_add_of_pos_right _ grows)

private theorem webhookStep_punctual (event : WebhookEvent) (keyed : Keyed WebhookRow.id db.outbox) (punctual : Punctual db) :
    Punctual (webhookStep repository event db) ↔ RetriesInTime repository db event := by
  constructor
  · rintro kept claim settlement row rfl requeues
    exact requeues.stored_lt.mp (kept _ (requeues.step keyed) rfl)
  · intro inTime row member pending
    have delivery : Delivery repository.maximumAttempts db event (webhookStep repository event db).outbox :=
      webhookStep_delivery event keyed
    generalize (webhookStep repository event db).outbox = outbox at delivery member
    cases delivery with
    | idle => exact punctual row member pending
    | inserted new inserted fresh =>
      obtain inside | single := List.mem_append.mp member
      · exact punctual row inside pending
      · rw [List.mem_singleton.mp single]
        exact inserted.punctual
    | claimed claimable claimed replaced =>
      obtain rfl | inside := replaced.subset member
      · cases claimed <;> cases pending
      · exact punctual row inside pending
    | settled valid holds settled replaced =>
      obtain rfl | inside := replaced.subset member
      · cases settled with
        | delivered => cases pending
        | dead => cases pending
        | retried disposition near below before =>
          have requeues : Requeues repository db _ _ _ := ⟨valid, disposition, near, replaced.mem_left, holds, below, before⟩
          exact requeues.stored_lt.mpr (inTime _ _ _ rfl requeues)
      · exact punctual row inside pending
    | swept gone old => exact punctual row (List.mem_of_mem_filter member) pending

end Deadlines

/-- The outbox along every run that starts from rows as they are inserted: every row is
sound and every step is safe, and the rows that wait are due before they expire
throughout exactly the runs whose retries are in time. -/
theorem webhook_outbox (repository : MySQLWebhookOutboxRepository) (events : List WebhookEvent) {db : WebhookDb}
    (keyed : Keyed WebhookRow.id db.outbox) (inserted : ∀ row ∈ db.outbox, Inserted row) :
    (∀ row ∈ (run (webhookStep repository) events db).outbox, SoundRow repository.maximumAttempts row) ∧
    Along (webhookStep repository) (fun db event => SafeStep db event (webhookStep repository event db).outbox) events db ∧
    (Throughout (webhookStep repository) Punctual events db ↔
      Along (webhookStep repository) (RetriesInTime repository) events db) := by
  have start : SoundOutbox repository.maximumAttempts db.outbox := ⟨keyed, fun row member => (inserted row member).sound⟩
  have keeps : ∀ db event, SoundOutbox repository.maximumAttempts db.outbox →
      SoundOutbox repository.maximumAttempts (webhookStep repository event db).outbox :=
    fun db event sound => (webhookStep_delivery event sound.keyed).sound sound
  refine ⟨(run_invariant keeps events start).rows, ?_, ?_⟩
  · exact run_along keeps (fun db event sound => (webhookStep_delivery event sound.keyed).safe sound.keyed) events start
  · exact throughout_iff_along (fun db event sound _ => keeps db event sound)
      (fun db event sound _ punctual => webhookStep_punctual event sound.keyed punctual) (fun _ _ => trivial) start
      fun row member _ => (inserted row member).punctual

/-! ### A retry that is put back too late -/

def sampleWebhook : WebhookRow :=
  newWebhook 1 ⟨lit "eeeeeeeeeeeeeeeeeeeeeeeeee", 1, 1, 1, lit "judge.job.cancelled",
    lit "\x7b\"eventId\":\"eeeeeeeeeeeeeeeeeeeeeeeeee\"\x7d", .pending, 0, 1000, 1000, 61000⟩

def sampleDestination : WebhookCallback :=
  { id := 1, externalID := lit "ffffffffffffffffffffffffff", tenantID := 1, secretCiphertext := List.replicate 17 1
    secretNonce := some (List.replicate 12 1), secretKeyVersion := 1, disabledAt := none
    destinationURL := lit "https://callback.example/judge", allowedHost := lit "callback.example", allowedPort := 443 }

def dueWebhook : ClaimableWebhook := ⟨sampleWebhook, ⟨1, lit "aaaaaaaaaaaaaaaaaaaaaaaaaa", .active, .null, none⟩, sampleDestination⟩

def sampleWebhookDb : WebhookDb :=
  { now := 1000, tenants := [dueWebhook.tenant], callbacks := [sampleDestination], outbox := [sampleWebhook] }

def sampleWebhookRepository : MySQLWebhookOutboxRepository := ⟨12⟩

def sampleWebhookClaim : WebhookEvent := .claim ⟨[], 0, some (List.replicate 32 7)⟩ (lit "worker-1") (30 * second)

/-- The network failed and the jitter asks for a retry 0.3 ms before the row expires. -/
def lateRetry : WebhookEvent :=
  .settle (webhookClaim dueWebhook (lit "worker-1") (List.replicate 32 7) 31000000000)
    ⟨.retry, 0, webhookErrorNetwork, 0, 59999700000⟩

private def sampleCancelled : ExternalJobRecord :=
  { internalID := 1, tenantInternalID := 1, externalID := lit "dddddddddddddddddddddddddd"
    tenantExternalID := lit "aaaaaaaaaaaaaaaaaaaaaaaaaa", bundleExternalID := lit "bbbbbbbbbbbbbbbbbbbbbbbbbb"
    source := ⟨1, lit "cccccccccccccccccccccccccc", lit "sources/c", [], 10, 1, []⟩, callbackID := lit "ffffffffffffffffffffffffff"
    status := .cancelled, language := lit "go", stopOnFailure := false, clientReference := [], attemptNo := 0, workerID := []
    leaseUntil := none, cancelRequested := none, result := none, failureCode := [], createdAt := 0, startedAt := none
    completedAt := some 1000 }

private theorem sampleWebhook_inserted : ∀ row ∈ sampleWebhookDb.outbox, Inserted row := by
  intro row member
  obtain rfl : row = sampleWebhook := List.mem_singleton.mp member
  exact ⟨1, minute, 1000, sampleCancelled, 1, 1, _, _, _, rfl, rfl⟩

theorem webhook_outbox_late :
    (∀ row ∈ sampleWebhookDb.outbox, Inserted row) ∧
    ¬ Throughout (webhookStep sampleWebhookRepository) Punctual [sampleWebhookClaim, lateRetry] sampleWebhookDb := by
  have late : ∃ row ∈ (run (webhookStep sampleWebhookRepository) [sampleWebhookClaim, lateRetry] sampleWebhookDb).outbox,
      row.status = .pending ∧ ¬ row.nextAttemptAt < row.expiresAt := by decide +kernel
  obtain ⟨row, member, pending, overdue⟩ := late
  refine ⟨sampleWebhook_inserted, ?_⟩
  rintro ⟨_, _, punctual⟩
  exact overdue (punctual row member pending)

theorem webhook_outbox_sample :
    List.Forall (SoundRow 12) (run (webhookStep sampleWebhookRepository) [sampleWebhookClaim] sampleWebhookDb).outbox :=
  List.forall_iff_forall_mem.mpr
    (webhook_outbox sampleWebhookRepository [sampleWebhookClaim] (by decide) sampleWebhook_inserted).1

end JudgingServer.Proofs
