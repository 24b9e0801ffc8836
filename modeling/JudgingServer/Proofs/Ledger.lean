import JudgingServer.Library.Ledger
import JudgingServer.Proofs.Blockers
import JudgingServer.Proofs.LeaseFencing
import Mathlib.Algebra.Order.BigOperators.Group.List

/-! The daily execution ledger as a book of holds: a running attempt holds its
reservation on its tenant's day until it is settled. -/

namespace JudgingServer.Proofs
open Go External Library Table Transaction Ledger

abbrev Account := Nat × Day

/-- What a running attempt holds back. -/
def openHold (attempt : AttemptRow) : Option (Hold (Nat × Nat) Account) :=
  if attempt.status = .running then
    attempt.accountingDay.map fun day => ⟨attemptKey attempt, (attempt.tenantID, day), attempt.reservedExecutionMillis⟩
  else none

def chargeOn (account : Account) (attempt : AttemptRow) : Int :=
  if attempt.tenantID = account.1 ∧ attempt.accountingDay = some account.2 then attempt.consumedExecutionMillis else 0

section

variable (attempts : List AttemptRow)

/-- The book that the attempts amount to. -/
def book : Book (Nat × Nat) Account :=
  ⟨attempts.filterMap openHold, fun account => (attempts.map (chargeOn account)).sum⟩

/-- The reservations of a tenant's running attempts on a day. -/
def heldMillis (tenantID : Nat) (day : Day) : Int :=
  ((attempts.filter fun attempt => attempt.tenantID = tenantID ∧ attempt.accountingDay = some day ∧ attempt.status = .running).map
    AttemptRow.reservedExecutionMillis).sum

private theorem book_held (tenantID : Nat) (day : Day) : (book attempts).held
    (tenantID, day) = heldMillis attempts tenantID day := by
  unfold book heldMillis Book.held
  induction attempts with
  | nil => rfl
  | cons attempt rest ih =>
    simp only at ih
    by_cases running : attempt.status = .running
    · cases accounted : attempt.accountingDay with
      | none => simpa [openHold, running, accounted] using ih
      | some other =>
        by_cases same : attempt.tenantID = tenantID ∧ other = day
        · obtain ⟨rfl, rfl⟩ := same
          simpa [openHold, running, accounted] using ih
        · rw [not_and_or] at same
          rcases same with different | different <;> simpa [openHold, running, accounted, different] using ih
    · simpa [openHold, running] using ih

end

/-- The ledger rows show the book, and an attempt runs on a day that was opened. -/
structure Balanced (life : Lifecycle) : Prop extends Keys life where
  rows : ∀ row ∈ life.daily, row.reservedMillis = (book life.attempts).held (dailyKey row) ∧
    row.consumedMillis = (book life.attempts).charged (dailyKey row)
  opened : ∀ attempt ∈ life.attempts,
    ∃ row ∈ life.daily, attempt.tenantID = row.tenantID ∧ attempt.accountingDay = some row.accountingDay
  active : ∀ attempt ∈ life.attempts, attempt.status = .running →
    0 < attempt.reservedExecutionMillis ∧ attempt.consumedExecutionMillis = 0

/-- A reservation is admitted within the daily limit of an active tenant's policy. -/
def admittedBy (policies : Nat → TenantPolicy → Prop) (book : Book (Nat × Nat) Account) (hold : Hold (Nat × Nat) Account) : Prop :=
  ∃ policy, policies hold.account.1 policy ∧
    book.held hold.account + book.charged hold.account + hold.amount ≤ policy.dailyExecutionMillis

section Book

variable {attempts : List AttemptRow} {attempt : AttemptRow}

private theorem book_unused (account : Account)
    (unused : ∀ attempt ∈ attempts, ¬ (attempt.tenantID = account.1 ∧ attempt.accountingDay = some account.2)) :
    (book attempts).held account = 0 ∧ (book attempts).charged account = 0 := by
  constructor
  · rw [show account = (account.1, account.2) from rfl, book_held]
    have none : (attempts.filter fun attempt => attempt.tenantID = account.1 ∧ attempt.accountingDay = some account.2 ∧
        attempt.status = .running) = [] := by
      refine List.filter_eq_nil_iff.mpr fun attempt member => ?_
      have free := unused attempt member
      simp only [decide_eq_true_eq]
      tauto
    unfold heldMillis
    rw [none]
    rfl
  · refine List.sum_eq_zero fun value member => ?_
    obtain ⟨attempt, inside, rfl⟩ := List.mem_map.mp member
    simp [chargeOn, unused attempt inside]

private theorem book_start (running : attempt.status = .running) (accounted : attempt.accountingDay = some day)
    (unspent : attempt.consumedExecutionMillis = 0) :
    book (attempts ++ [attempt]) = { book attempts with
      holds := (book attempts).holds ++ [⟨attemptKey attempt, (attempt.tenantID, day), attempt.reservedExecutionMillis⟩] } := by
  unfold book
  congr 1
  · simp [openHold, running, accounted]
  · funext account
    simp [chargeOn, unspent]

private theorem book_settle (replaced : Replaced attempt attempt' attempts attempts') (running : attempt.status = .running)
    (accounted : attempt.accountingDay = some day) (unspent : attempt.consumedExecutionMillis = 0)
    (settled : attempt'.status ≠ .running) (tenantID : attempt'.tenantID = attempt.tenantID)
    (accountingDay : attempt'.accountingDay = attempt.accountingDay) :
    ∃ before after,
      (book attempts).holds = before ++ ⟨attemptKey attempt, (attempt.tenantID, day), attempt.reservedExecutionMillis⟩ :: after ∧
      book attempts' = ⟨before ++ after, Function.update (book attempts).charged (attempt.tenantID, day)
        ((book attempts).charged (attempt.tenantID, day) + attempt'.consumedExecutionMillis)⟩ := by
  have changed : ∀ account, (attempts'.map (chargeOn account)).sum =
      (attempts.map (chargeOn account)).sum - chargeOn account attempt + chargeOn account attempt' :=
    fun account => replaced.sum (chargeOn account)
  obtain ⟨before, after, rfl, rfl⟩ := replaced
  refine ⟨before.filterMap openHold, after.filterMap openHold, by simp [book, openHold, running, accounted], ?_⟩
  unfold book
  congr 1
  · simp [openHold, settled]
  · funext account
    rw [changed]
    by_cases same : account = (attempt.tenantID, day)
    · subst same
      simp [chargeOn, unspent, tenantID, accountingDay, accounted]
    · rw [Function.update_of_ne same]
      have apart : ¬ (attempt.tenantID = account.1 ∧ attempt.accountingDay = some account.2) := by
        rw [accounted]
        rintro ⟨tenant, sameDay⟩
        exact same (Prod.ext tenant.symm (Option.some.inj sameDay).symm)
      simp [chargeOn, tenantID, accountingDay, apart]

private theorem book_renew (replaced : Replaced attempt { attempt with leaseUntil := lease } attempts attempts') :
    book attempts' = book attempts := by
  unfold book
  congr 1
  · obtain ⟨before, after, rfl, rfl⟩ := replaced
    have same : openHold { attempt with leaseUntil := lease } = openHold attempt := rfl
    simp [List.filterMap_cons, same]
  · funext account
    rw [replaced.map_eq rfl]

end Book

section Moves

/-- The rows after one of them was written: it has to show its account, and the other
accounts have to be untouched. -/
private theorem Balanced.write {attempts' : List AttemptRow} {account : Account} (balanced : Balanced life)
    (replaced : Replaced row row' life.daily daily') (old : dailyKey row = account) (new : dailyKey row' = account)
    (shown : row'.reservedMillis = (book attempts').held account ∧ row'.consumedMillis = (book attempts').charged account)
    (others : ∀ other, other ≠ account → (book attempts').held other = (book life.attempts).held other ∧ (book attempts').charged other = (book life.attempts).charged other) :
    ∀ written ∈ daily', written.reservedMillis = (book attempts').held (dailyKey written) ∧
      written.consumedMillis = (book attempts').charged (dailyKey written) := by
  intro written member
  rcases (replaced.mem_iff balanced.daily).mp member with rfl | ⟨inside, different⟩
  · rw [new]
    exact shown
  · obtain ⟨held, charged⟩ := others (dailyKey written) (old ▸ different)
    rw [held, charged]
    exact balanced.rows written inside

/-- An opened day stays open when a ledger row is written. -/
private theorem opened_write {daily : List DailyRow} (keyed : Keyed dailyKey daily) (replaced : Replaced row row' daily daily')
    (same : dailyKey row' = dailyKey row) {attempt : AttemptRow}
    (opened : ∃ row ∈ daily, attempt.tenantID = row.tenantID ∧ attempt.accountingDay = some row.accountingDay) :
    ∃ row ∈ daily', attempt.tenantID = row.tenantID ∧ attempt.accountingDay = some row.accountingDay := by
  obtain ⟨other, member, tenant, day⟩ := opened
  by_cases key : dailyKey other = dailyKey row
  · obtain ⟨tenantID, accountingDay⟩ := Prod.mk.inj (key.trans same.symm)
    exact ⟨row', replaced.mem_right, tenant.trans tenantID, day.trans (congrArg some accountingDay)⟩
  · exact ⟨other, (replaced.mem_iff keyed).mpr (.inr ⟨member, key⟩), tenant, day⟩

theorem Balanced.openDay (balanced : Balanced life) (tenantID : Nat) (day : Day) :
    Balanced { life with daily := ensureDailyRow tenantID day life.daily } := by
  have kept : ∀ row ∈ life.daily, row ∈ ensureDailyRow tenantID day life.daily := by
    intro row member
    unfold ensureDailyRow
    split <;> simp [member]
  refine { balanced with daily := ensureDailyRow_keyed balanced.daily, rows := ?_, opened := ?_ }
  · intro row member
    unfold ensureDailyRow at member
    split at member
    next => exact balanced.rows row member
    next absent =>
      rcases List.mem_append.mp member with inside | new
      · exact balanced.rows row inside
      · obtain rfl := List.mem_singleton.mp new
        -- No attempt runs on a day that has no row yet.
        have unused : ∀ attempt ∈ life.attempts, ¬ (attempt.tenantID = tenantID ∧ attempt.accountingDay = some day) := by
          rintro attempt inside ⟨tenant, sameDay⟩
          obtain ⟨row, present, rowTenant, rowDay⟩ := balanced.opened attempt inside
          refine absent (List.any_eq_true.mpr ⟨row, present, ?_⟩)
          have days : row.accountingDay = day := Option.some.inj (rowDay.symm.trans sameDay)
          simp [← rowTenant, tenant, days]
        obtain ⟨held, charged⟩ := book_unused (tenantID, day) unused
        exact ⟨held.symm, charged.symm⟩
  · intro attempt member
    obtain ⟨row, present, facts⟩ := balanced.opened attempt member
    exact ⟨row, kept row present, facts⟩

theorem Balanced.start {job job' : JobRow} {attempt : AttemptRow} {row : DailyRow} {jobs' : List JobRow} {daily' : List DailyRow}
    {policy : TenantPolicy} (balanced : Balanced life) (keys : Keys ⟨jobs', life.attempts ++ [attempt], daily', life.outbox⟩)
    (active : policies job.tenantID policy) (starts : Starts job job' attempt)
    (fresh : ∀ other ∈ life.attempts, attemptKey other ≠ attemptKey attempt) (rowTenant : row.tenantID = job.tenantID)
    (rowDay : attempt.accountingDay = some row.accountingDay)
    (daily : Replaced row { row with reservedMillis := row.reservedMillis + attempt.reservedExecutionMillis } life.daily daily')
    (within : row.reservedMillis + row.consumedMillis + attempt.reservedExecutionMillis ≤ policy.dailyExecutionMillis) :
    Balanced ⟨jobs', life.attempts ++ [attempt], daily', life.outbox⟩ ∧
      Posting (admittedBy policies) (book life.attempts) (book (life.attempts ++ [attempt])) := by
  have tenant : attempt.tenantID = row.tenantID := starts.tenantID.trans rowTenant.symm
  have started : book (life.attempts ++ [attempt]) = _ := book_start starts.active rowDay starts.consumed
  obtain ⟨reserved, consumed⟩ := balanced.rows row daily.mem_left
  constructor
  · refine { toKeys := keys, rows := ?_, opened := ?_, active := ?_ }
    · refine balanced.write daily rfl rfl ?_ ?_
      · rw [started]
        refine ⟨?_, consumed⟩
        rw [Book.held_append]
        simp [Book.held, tenant, dailyKey] at reserved ⊢
        exact reserved
      · intro other different
        rw [started]
        refine ⟨?_, rfl⟩
        rw [Book.held_append]
        simp [Book.held, tenant, show ¬ (row.tenantID, row.accountingDay) = other from fun same => different same.symm]
    · intro other member
      rcases List.mem_append.mp member with inside | new
      · exact opened_write balanced.daily daily rfl (balanced.opened other inside)
      · obtain rfl := List.mem_singleton.mp new
        exact ⟨_, daily.mem_right, tenant, rowDay⟩
    · intro other member running
      rcases List.mem_append.mp member with inside | new
      · exact balanced.active other inside running
      · obtain rfl := List.mem_singleton.mp new
        exact ⟨starts.reserved, starts.consumed⟩
  · rw [started]
    refine .reserve _ starts.reserved ?_ ⟨policy, ?_, ?_⟩
    · intro hold member
      obtain ⟨other, inside, opens⟩ := List.mem_filterMap.mp member
      have id : hold.id = attemptKey other := by
        unfold openHold at opens
        split at opens
        next =>
          obtain ⟨_, _, rfl⟩ := Option.map_eq_some_iff.mp opens
          rfl
        next => cases opens
      rw [id]
      exact fresh other inside
    · rwa [starts.tenantID]
    · have account : (attempt.tenantID, row.accountingDay) = dailyKey row := by rw [tenant]; rfl
      simp only [account]
      rw [← reserved, ← consumed]
      exact within

theorem Balanced.settle {job job' : JobRow} {attempt attempt' : AttemptRow} {row row' : DailyRow} {consumed : Int}
    {jobs' : List JobRow} {attempts' : List AttemptRow} {daily' : List DailyRow} {outbox' : List OutboxRow}
    (balanced : Balanced life) (keys : Keys ⟨jobs', attempts', daily', outbox'⟩)
    (settles : Settles job job' attempt attempt' row row' consumed)
    (attempts : Replaced attempt attempt' life.attempts attempts') (daily : Replaced row row' life.daily daily') :
    Balanced ⟨jobs', attempts', daily', outbox'⟩ ∧
      Posting (admittedBy policies) (book life.attempts) (book attempts') := by
  have unspent := (balanced.active attempt attempts.mem_left settles.active).2
  have charge : attempt'.consumedExecutionMillis = consumed := by
    rcases settles.charged with charged | ⟨nothing, kept⟩
    · exact charged
    · rw [kept, unspent, nothing]
  obtain ⟨before, after, holds, settled⟩ := book_settle attempts settles.active settles.rowDay unspent settles.settled
    settles.tenantID settles.accountingDay
  have account : (attempt.tenantID, row.accountingDay) = dailyKey row := by rw [← settles.rowTenant]; rfl
  rw [charge, account] at settled
  rw [account] at holds
  have same : dailyKey row' = dailyKey row := by rw [settles.settledRow]; rfl
  obtain ⟨reserved, consumedBefore⟩ := balanced.rows row daily.mem_left
  -- The hold makes up the difference between the two books.
  have released : ∀ other, (book life.attempts).held other =
      (book attempts').held other + if dailyKey row = other then attempt.reservedExecutionMillis else 0 := by
    intro other
    rw [settled]
    unfold Book.held
    rw [holds]
    simp only [List.map_append, List.map_cons, List.sum_append, List.sum_cons]
    omega
  constructor
  · refine { toKeys := keys, rows := ?_, opened := ?_, active := ?_ }
    · refine balanced.write daily rfl same ?_ ?_
      · have whole := released (dailyKey row)
        rw [if_pos rfl] at whole
        rw [settles.settledRow]
        refine ⟨?_, ?_⟩
        · simp only
          omega
        · rw [settled]
          simp [consumedBefore]
      · intro other different
        have rest := released other
        rw [if_neg (Ne.symm different), add_zero] at rest
        refine ⟨rest.symm, ?_⟩
        rw [settled]
        exact Function.update_of_ne different _ _
    · intro other member
      rcases attempts.subset member with rfl | inside
      · exact opened_write balanced.daily daily same
          ⟨row, daily.mem_left, settles.tenantID.trans settles.rowTenant.symm, settles.accountingDay.trans settles.rowDay⟩
      · exact opened_write balanced.daily daily same (balanced.opened other inside)
    · intro other member running
      rcases attempts.subset member with rfl | inside
      · exact (settles.settled running).elim
      · exact balanced.active other inside running
  · rw [settled]
    exact .settle _ consumed holds settles.consumed_nonneg settles.consumed_le

theorem Move.balanced (move : Move policies life life') (balanced : Balanced life) :
    Balanced life' ∧ Postings (admittedBy policies) (book life.attempts) (book life'.attempts) := by
  have keys := move.keys balanced.toKeys
  cases move with
  | reschedule p time queued => exact ⟨{ balanced with toKeys := keys }, .refl⟩
  | openDay tenantID day => exact ⟨balanced.openDay tenantID day, .refl⟩
  | enqueue job new fresh => exact ⟨{ balanced with toKeys := keys }, .refl⟩
  | start policy active starts fresh jobs rowTenant rowDay daily within =>
    obtain ⟨kept, posting⟩ := balanced.start keys active starts fresh rowTenant rowDay daily within
    exact ⟨kept, .single posting⟩
  | settle settles jobs attempts daily outbox =>
    obtain ⟨kept, posting⟩ := balanced.settle keys settles attempts daily
    exact ⟨kept, .single posting⟩
  | @renew job jobs' attempt attempts' lease running jobID number active jobs attempts =>
    have same : book attempts' = book life.attempts := book_renew attempts
    refine ⟨{ toKeys := keys, rows := ?_, opened := ?_, active := ?_ }, ?_⟩
    · simpa only [same] using balanced.rows
    · intro other member
      rcases attempts.subset member with rfl | inside
      · exact balanced.opened attempt attempts.mem_left
      · exact balanced.opened other inside
    · intro other member running
      rcases attempts.subset member with rfl | inside
      · exact balanced.active attempt attempts.mem_left running
      · exact balanced.active other inside running
    · rw [same]
      exact .refl
  | requestCancel time running unset jobs => exact ⟨{ balanced with toKeys := keys }, .refl⟩
  | close closes jobs outbox => exact ⟨{ balanced with toKeys := keys }, .refl⟩

theorem Moves.balanced (moves : Moves policies life life') (balanced : Balanced life) :
    Balanced life' ∧ Postings (admittedBy policies) (book life.attempts) (book life'.attempts) := by
  induction moves with
  | refl => exact ⟨balanced, .refl⟩
  | tail _ move ih =>
    obtain ⟨kept, posted⟩ := move.balanced ih.1
    exact ⟨kept, ih.2.trans posted⟩

end Moves

/-! ### Runs -/

structure EmptyLedger (db : Db) : Prop where
  jobs : Keyed JobRow.id db.jobs
  externalIDs : Keyed JobRow.externalID db.jobs
  attempts : db.attempts = []
  daily : db.daily = []

theorem EmptyLedger.balanced (empty : EmptyLedger db) : Balanced (lifecycle db) := by
  obtain ⟨jobs, externalIDs, attempts, daily⟩ := empty
  have keys : Keys (lifecycle db) := by
    refine ⟨jobs, externalIDs, ?_, ?_⟩
    · simp [lifecycle, attempts, Keyed]
    · simp [lifecycle, daily, Keyed]
  refine { toKeys := keys, rows := ?_, opened := ?_, active := ?_ } <;> simp [lifecycle, attempts, daily]

theorem Balanced.covered (balanced : Balanced life) : Covered life.attempts life.daily := by
  refine ⟨balanced.daily, fun attempt member running => ?_⟩
  obtain ⟨row, present, tenant, day⟩ := balanced.opened attempt member
  refine ⟨row, present, tenant.symm, day, ?_⟩
  rw [(balanced.rows row present).1, show dailyKey row = (row.tenantID, row.accountingDay) from rfl, book_held]
  refine List.single_le_sum ?_ _ (List.mem_map_of_mem (List.mem_filter.mpr ⟨member, by simp [tenant, day, running]⟩))
  intro amount listed
  obtain ⟨other, inside, rfl⟩ := List.mem_map.mp listed
  obtain ⟨held, holds⟩ := List.mem_filter.mp inside
  simp only [decide_eq_true_eq] at holds
  exact le_of_lt (balanced.active other held holds.2.2).1

theorem run_balanced (events : List Event) (balanced : Balanced (lifecycle db)) :
    Balanced (lifecycle (run (step repository) events db)) :=
  run_lifecycle (fun _ => Balanced.toKeys) (fun _ _ _ move kept => (move.balanced kept).1) events balanced

/-- The policy column of a tenant. -/
def policyOf (db : Db) (tenantID : Nat) : Option Json :=
  (db.tenants.find? fun tenant => tenant.id = tenantID).map TenantRow.policyJSON

theorem ActivePolicy.decoded (active : ActivePolicy db tenantID policy) :
    (policyOf db tenantID).bind decodeTenantPolicy = some policy := by
  obtain ⟨tenant, found, _, decoded⟩ := active
  simp [policyOf, found, decoded]

/-- While a tenant's policy stays the same, its accounts stay within the daily limit. -/
theorem run_within_limit (decoded : decodeTenantPolicy encoded = some policy) (given : policyOf db tenantID = some encoded)
    (events : List Event)
    (unchanged : Along (step repository) (fun db event => policyOf (step repository event db) tenantID = policyOf db tenantID) events db)
    (balanced : Balanced (lifecycle db))
    (within : ∀ day, (book db.attempts).held (tenantID, day) + (book db.attempts).charged (tenantID, day) ≤ policy.dailyExecutionMillis)
    (day : Day) :
    (book (run (step repository) events db).attempts).held (tenantID, day) +
      (book (run (step repository) events db).attempts).charged (tenantID, day) ≤ policy.dailyExecutionMillis := by
  have keeps : ∀ db event, (Balanced (lifecycle db) ∧ policyOf db tenantID = some encoded ∧
        ∀ day, (book db.attempts).held (tenantID, day) + (book db.attempts).charged (tenantID, day) ≤ policy.dailyExecutionMillis) →
      policyOf (step repository event db) tenantID = policyOf db tenantID →
      (Balanced (lifecycle (step repository event db)) ∧ policyOf (step repository event db) tenantID = some encoded ∧
        ∀ day, (book (step repository event db).attempts).held (tenantID, day) +
          (book (step repository event db).attempts).charged (tenantID, day) ≤ policy.dailyExecutionMillis) := by
    rintro db event ⟨balanced, given, within⟩ same
    have moves := step_moves repository event balanced.toKeys
    obtain ⟨kept, postings⟩ := moves.balanced balanced
    refine ⟨kept, same.trans given, fun day => postings.bounded ?_ (within day)⟩
    rintro book hold ⟨other, active, room⟩ account
    rw [account] at active room
    have known := active.decoded
    rw [given, Option.bind_some, decoded, Option.some.injEq] at known
    rw [known]
    exact room
  exact (run_preserves keeps events ⟨balanced, given, within⟩ unchanged).2.2 day

/-- The ledger of a state agrees with its attempts, and the next transaction will find
it so: it posts to the book, and no settlement is turned down. -/
structure LedgerConserved (repository : JobRepository) (db : Db) : Prop where
  reserved : ∀ row ∈ db.daily, row.reservedMillis = heldMillis db.attempts row.tenantID row.accountingDay
  unopened : ∀ tenantID day, (∀ row ∈ db.daily, dailyKey row ≠ (tenantID, day)) → heldMillis db.attempts tenantID day = 0
  shown : ∀ row ∈ db.daily, row.reservedMillis = (book db.attempts).held (dailyKey row) ∧
    row.consumedMillis = (book db.attempts).charged (dailyKey row)
  postings : ∀ event, Postings (admittedBy (ActivePolicy db)) (book db.attempts) (book (step repository event db).attempts)
  guard : NeverBlocked .ledgerGuard repository db

private theorem Balanced.conserved (balanced : Balanced (lifecycle db)) (repository : JobRepository) :
    LedgerConserved repository db := by
  have covered : Blocker.ledgerGuard = .ledgerGuard → Covered db.attempts db.daily := fun _ => balanced.covered
  refine ⟨?_, ?_, balanced.rows, ?_, ⟨?_, ?_, ?_, ?_⟩⟩
  · intro row member
    rw [(balanced.rows row member).1, ← book_held]
    rfl
  · intro tenantID day absent
    rw [← book_held]
    refine (book_unused (tenantID, day) ?_).1
    rintro attempt member ⟨tenant, sameDay⟩
    obtain ⟨row, present, rowTenant, rowDay⟩ := balanced.opened attempt member
    exact absent row present (Prod.ext (rowTenant.symm.trans tenant) (Option.some.inj (rowDay.symm.trans sameDay)))
  · intro event
    have moves := step_moves repository event balanced.toKeys
    exact (moves.balanced balanced).2
  · exact fun _ _ _ => claimTransaction_avoids balanced.toKeys covered (by simp)
  · exact fun _ _ _ => complete_avoids balanced.toKeys covered (by simp)
  · exact fun _ _ _ => failInfrastructure_avoids balanced.toKeys covered (by simp)
  · exact fun _ _ _ => cancel_avoids balanced.toKeys (by simp) (by simp)

/-- Conservation of the daily execution ledger. From an empty ledger, in every reachable
state: the reserved time of a day is the sum of what the running attempts hold on it;
every transaction only opens holds and settles whole ones, charging a part of them; the
guard of the settlement never fails; and while a tenant's policy stays the same,
reserved and consumed time together stay within its daily limit. -/
theorem ledger_conservation (repository : JobRepository) (events : List Event) {db : Db} (empty : EmptyLedger db) :
    LedgerConserved repository (run (step repository) events db) ∧
    ∀ tenantID encoded policy, policyOf db tenantID = some encoded → decodeTenantPolicy encoded = some policy →
      Along (step repository) (fun db event => policyOf (step repository event db) tenantID = policyOf db tenantID) events db →
      ∀ row ∈ (run (step repository) events db).daily, row.tenantID = tenantID →
        row.reservedMillis + row.consumedMillis ≤ policy.dailyExecutionMillis := by
  have balanced : Balanced (lifecycle (run (step repository) events db)) := run_balanced events empty.balanced
  refine ⟨balanced.conserved repository, ?_⟩
  rintro tenantID encoded policy given decoded unchanged row member rfl
  obtain ⟨reserved, consumed⟩ := balanced.rows row member
  rw [reserved, consumed]
  refine run_within_limit decoded given events unchanged empty.balanced ?_ row.accountingDay
  intro day
  have positive := (validate_ok (decodeTenantPolicy_ok decoded)).2.1
  simp [empty.attempts, book, Book.held]
  omega

theorem ledger_conservation_sample :
    (run (step sampleRepository) [sampleClaim] sampleDb).daily = [⟨1, 20000, 1000, 0⟩] ∧
    LedgerConserved sampleRepository (run (step sampleRepository) [sampleClaim] sampleDb) ∧
    ∀ row ∈ (run (step sampleRepository) [sampleClaim] sampleDb).daily, row.tenantID = 1 →
      row.reservedMillis + row.consumedMillis ≤ 60000 := by
  have empty : EmptyLedger sampleDb := ⟨by decide, by decide, rfl, rfl⟩
  obtain ⟨conserved, bounded⟩ := ledger_conservation sampleRepository [sampleClaim] empty
  exact ⟨rfl, conserved, bounded 1 samplePolicy _ rfl rfl ⟨rfl, trivial⟩⟩

end JudgingServer.Proofs
