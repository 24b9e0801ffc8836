import JudgingServer.Proofs.Deferrals
import JudgingServer.Proofs.Isolation

/-! Fair claims: a tenant that could be served is not passed over twice in favour of the
same other tenant. -/

namespace JudgingServer.Proofs
open Go External Library Table Transaction

variable {owner : Nat} {served : Option Nat} {tenant : TenantRow} {db : Db} {claimed : Time}

/-- The tenant that a step serves: a committed claim has locked one of its jobs, to claim,
defer or fail it. -/
def servedTenant (repository : JobRepository) (event : Event) (db : Db) : Option Nat :=
  match event with
  | .claim session workerID leaseDuration =>
    match claimTransaction repository session workerID leaseDuration db, lockClaimTarget session db.now db with
    | .ok _, .ok (target, _) => some target.tenant.id
    | _, _ => none
  | _ => none

/-- The times at which the claims of a run happen. -/
def claimTimes (repository : JobRepository) : List Event → Db → List Time
  | [], _ => []
  | event :: rest, db =>
    match event with
    | .claim _ _ _ => db.now :: claimTimes repository rest (step repository event db)
    | _ => claimTimes repository rest (step repository event db)

/-- A claim meets no lock on a tenant and no lease that has expired. Tenants are not
provisioned anew. -/
def Undisturbed (db : Db) : Event → Prop
  | .claim session _ _ => session.lockedTenants = [] ∧ ∀ job ∈ db.jobs, job.leaseExpired db.now = false
  | .provision _ _ _ => False
  | _ => True

/-- The time at which the tenant was last claimed. -/
def cursor (tenantID : Nat) (db : Db) : Option Time :=
  (db.tenants.find? fun tenant => tenant.id = tenantID).bind TenantRow.lastClaimedAt

/-- The tenant is served by some event of the run. -/
def ServedWithin (repository : JobRepository) (tenantID : Nat) (events : List Event) (db : Db) : Prop :=
  ∃ earlier event later, events = earlier ++ event :: later ∧
    servedTenant repository event (run (step repository) earlier db) = some tenantID

section Cursors

variable {repository : JobRepository} {db : Db}

private theorem cursor_of_mem (keyed : Keyed TenantRow.id db.tenants) (member : tenant ∈ db.tenants) :
    cursor tenant.id db = tenant.lastClaimedAt := by
  unfold cursor
  rw [keyed.find? member (by simp) fun _ => of_decide_eq_true, Option.bind_some]

/-- What a step does to the claim times: nothing, or it serves a tenant and moves its time
to now. -/
inductive TenantsTurn (db db' : Db) : Option Nat → Prop where
  | still (tenants : db'.tenants = db.tenants) : TenantsTurn db db' none
  | served (present : ∃ tenant ∈ db.tenants, tenant.id = tenantID)
      (tenants : db'.tenants = advanced tenantID db.now db.tenants) : TenantsTurn db db' (some tenantID)

theorem TenantsTurn.keyed (turn : TenantsTurn db db' served) (keyed : Keyed TenantRow.id db.tenants) :
    Keyed TenantRow.id db'.tenants := by
  cases turn with
  | still tenants => exact tenants ▸ keyed
  | served present tenants =>
    rw [tenants]
    exact keyed.update fun _ _ => rfl

private theorem find?_advanced (owner : Nat) (now : Time) (tenants : List TenantRow) :
    (advanced owner now tenants).find? (fun tenant => tenant.id = tenantID) =
      (tenants.find? fun tenant => tenant.id = tenantID).map
        fun tenant => if tenant.id = owner then { tenant with lastClaimedAt := some now } else tenant := by
  unfold advanced
  rw [find?_update]
  · simp only [decide_eq_true_eq]
  · exact fun _ _ => rfl

theorem TenantsTurn.cursor (turn : TenantsTurn db db' served) (tenantID : Nat) :
    Proofs.cursor tenantID db' = if served = some tenantID then some db.now else Proofs.cursor tenantID db := by
  unfold Proofs.cursor
  cases turn with
  | still tenants => rw [tenants, if_neg (by simp)]
  | @served owner present tenants =>
    rw [tenants, find?_advanced]
    cases found : db.tenants.find? fun tenant => tenant.id = tenantID with
    | none =>
      obtain ⟨tenant, member, rfl⟩ := present
      have absent : tenant.id ≠ tenantID := by simpa using List.find?_eq_none.mp found tenant member
      simp [absent]
    | some tenant =>
      have id : tenant.id = tenantID := (find?_row found).2
      by_cases own : owner = tenantID
      · simp [own, id]
      · have other : ¬ tenant.id = owner := fun same => own (same.symm.trans id)
        simp [own, other]

theorem Targets.queued (targets : Targets db db.now target) (leased : ∀ job ∈ db.jobs, job.leaseExpired db.now = false) :
    target.job.status = .queued := by
  obtain ⟨-, queued, -⟩ | expired := targets.claimable
  · exact queued
  · rw [leased _ targets.member] at expired
    cases expired

private theorem step_tenants (event : Event) (keys : Keys (lifecycle db)) (undisturbed : Undisturbed db event) :
    TenantsTurn db (step repository event db) (servedTenant repository event db) := by
  have turn := step_turn repository event keys
  generalize step repository event db = next at turn ⊢
  cases turn with
  | kept rows tenants unclaimed =>
    have same : next.tenants = db.tenants := tenants fun _ _ _ provision => by
      subst provision
      exact undisturbed
    have nobody : servedTenant repository event db = none := by
      unfold servedTenant
      split
      next session workerID lease =>
        obtain ⟨failure, ran⟩ := unclaimed session workerID lease rfl
        rw [ran]
      next => rfl
    rw [nobody]
    exact .still same
  | submitted prepared submits => exact .still (by rw [submits.written])
  | claimed ran locked turn =>
    simp only [servedTenant, ran, locked]
    exact .served ⟨_, List.mem_of_find?_eq_some turn.targets.tenant, rfl⟩ (turn.cursor (turn.targets.queued undisturbed.2))
  | renewed committed =>
    obtain ⟨_, _, _, _, _, _, _, _, written⟩ := heartbeat_ok keys committed
    exact .still (by rw [written])
  | settled turn unclaimed =>
    obtain ⟨_, _, _, _, _, _, _, _, ended, -⟩ := turn.settled
    have nobody : servedTenant repository event db = none := by
      unfold servedTenant
      split
      next session workerID lease => exact absurd rfl (unclaimed session workerID lease)
      next => rfl
    rw [nobody]
    have same := congrArg Db.tenants ended.written
    exact .still same
  | cancelled cancels =>
    cases cancels with
    | closed job member named queued jobs closes emits frame => exact .still (by rw [frame])
    | requested job member named running unset jobs frame => exact .still (by rw [frame])
    | nothing job member named settled same => exact .still (by rw [same])

end Cursors

/-! ### Runs -/

section Runs

variable {repository : JobRepository} {db : Db}

/-- What the claims of a run rely on. -/
structure Scheduled (db : Db) : Prop where
  keys : Keys (lifecycle db)
  tenants : Keyed TenantRow.id db.tenants

private theorem step_scheduled (scheduled : Scheduled db) (undisturbed : Undisturbed db event) :
    Scheduled (step repository event db) := by
  have moves := step_moves repository event scheduled.keys
  have turn : TenantsTurn db (step repository event db) (servedTenant repository event db) :=
    step_tenants event scheduled.keys undisturbed
  exact ⟨moves.keys scheduled.keys, turn.keyed scheduled.tenants⟩

private theorem step_cursor (scheduled : Scheduled db) (undisturbed : Undisturbed db event) (tenantID : Nat) :
    cursor tenantID (step repository event db) =
      if servedTenant repository event db = some tenantID then some db.now else cursor tenantID db :=
  (step_tenants event scheduled.keys undisturbed).cursor tenantID

private theorem run_scheduled (scheduled : Scheduled db) (along : Along (step repository) Undisturbed events db) :
    Scheduled (run (step repository) events db) := by
  have keeps : ∀ db event, Scheduled db → Undisturbed db event → Scheduled (step repository event db) :=
    fun _ _ => step_scheduled
  exact run_preserves keeps events scheduled along

private theorem run_cursor (scheduled : Scheduled db) (along : Along (step repository) Undisturbed events db) (tenantID : Nat) :
    ServedWithin repository tenantID events db ∨
      cursor tenantID (run (step repository) events db) = cursor tenantID db := by
  induction events generalizing db with
  | nil => exact .inr rfl
  | cons event rest ih =>
    by_cases served : servedTenant repository event db = some tenantID
    · exact .inl ⟨[], event, rest, rfl, served⟩
    · obtain ⟨earlier, other, later, rfl, found⟩ | same := ih (step_scheduled scheduled along.1) along.2
      · exact .inl ⟨event :: earlier, other, later, rfl, found⟩
      · rw [step_cursor scheduled along.1, if_neg served] at same
        exact .inr same

private theorem servedTenant_claim (served : servedTenant repository event db = some tenantID) :
    ∃ session workerID lease, event = .claim session workerID lease := by
  cases event with
  | claim session workerID lease => exact ⟨session, workerID, lease, rfl⟩
  | tick | provision | reserve | release | submit | heartbeat | complete | failInfrastructure | cancel => cases served

private theorem claimTimes_append (first second : List Event) : claimTimes repository (first ++ second) db =
    claimTimes repository first db ++ claimTimes repository second (run (step repository) first db) := by
  induction first generalizing db with
  | nil => rfl
  | cons event rest ih =>
    cases event with
    | claim => simp only [List.cons_append, claimTimes, ih, run_cons]
    | tick | provision | reserve | release | submit | heartbeat | complete | failInfrastructure | cancel =>
      simp only [List.cons_append, claimTimes, ih, run_cons]

private theorem run_cursor_mem (scheduled : Scheduled db) (along : Along (step repository) Undisturbed events db)
    (stands : cursor tenantID (run (step repository) events db) = some claimed) :
    claimed ∈ claimTimes repository events db ∨ cursor tenantID db = some claimed := by
  induction events generalizing db with
  | nil => exact .inr stands
  | cons event rest ih =>
    have later : ∀ time ∈ claimTimes repository rest (step repository event db), time ∈ claimTimes repository (event :: rest) db := by
      intro time member
      rw [← List.singleton_append, claimTimes_append]
      exact List.mem_append_right _ member
    obtain inside | before := ih (step_scheduled scheduled along.1) along.2 stands
    · exact .inl (later claimed inside)
    · rw [step_cursor scheduled along.1] at before
      split at before
      next served =>
        obtain ⟨session, workerID, lease, rfl⟩ := servedTenant_claim served
        exact .inl (Option.some.inj before ▸ List.mem_cons_self)
      next => exact .inr before

private theorem run_cursor_le (scheduled : Scheduled db) (along : Along (step repository) Undisturbed events db)
    (stands : cursor tenantID db = some claimed) (past : claimed ≤ db.now) :
    ∃ later, cursor tenantID (run (step repository) events db) = some later ∧ claimed ≤ later := by
  induction events generalizing db claimed with
  | nil => exact ⟨claimed, stands, le_refl _⟩
  | cons event rest ih =>
    have moved : cursor tenantID (step repository event db) = _ := step_cursor scheduled along.1 tenantID
    have now : db.now ≤ (step repository event db).now := step_now_le event
    split at moved
    next =>
      obtain ⟨later, last, after⟩ := ih (step_scheduled scheduled along.1) along.2 moved now
      exact ⟨later, last, le_trans past after⟩
    next => exact ih (step_scheduled scheduled along.1) along.2 (moved.trans stands) (le_trans past now)

private theorem lockClaimTarget_chosen (locked : lockClaimTarget session now db = .ok (target, db')) :
    ∃ candidate, selectClaimTenant session.lockedTenants now db = some candidate ∧ candidate.id = target.tenant.id := by
  unfold lockClaimTarget at locked
  have locked := after_query locked
  cases chosen : selectClaimTenant session.lockedTenants now db with
  | none =>
    simp only [chosen] at locked
    obtain ⟨_, _, _, locked⟩ := bind_ok locked
    exact (fail_ok locked).elim
  | some candidate =>
    simp only [chosen] at locked
    obtain ⟨tenant, found, locked⟩ := after_require locked
    obtain ⟨policy, -, locked⟩ := after_attempt locked
    obtain ⟨row, -, locked⟩ := after_require locked
    obtain ⟨reserved, -, locked⟩ := after_attempt locked
    obtain ⟨rfl, rfl⟩ := pure_ok locked
    have same : tenant.id = candidate.id := (find?_row found).2
    exact ⟨candidate, rfl, same.symm⟩

private theorem servedTenant_chosen (served : servedTenant repository (.claim session workerID lease) db = some owner) :
    ∃ candidate, selectClaimTenant session.lockedTenants db.now db = some candidate ∧ candidate.id = owner := by
  unfold servedTenant at served
  simp only at served
  split at served
  next target _ _ locked =>
    obtain ⟨candidate, chosen, id⟩ := lockClaimTarget_chosen locked
    exact ⟨candidate, chosen, id.trans (Option.some.inj served)⟩
  next => cases served

/-- Without expired leases the claim time comes first in the order of tenants. -/
theorem claimOrder_le {first second : TenantRow} (leased : ∀ job ∈ db.jobs, job.leaseExpired now = false)
    (ordered : claimOrder now db first ≤ claimOrder now db second) :
    first.lastClaimedAt.elim 0 (fun claimed => claimed + 1) ≤ second.lastClaimedAt.elim 0 (fun claimed => claimed + 1) := by
  have none : ∀ tenantID, hasExpiredJob now db tenantID = false := by
    intro tenantID
    refine List.any_eq_false.mpr fun job member => ?_
    simp [leased job member]
  simp only [claimOrder, none, Prod.Lex.toLex_le_toLex] at ordered
  obtain absurd | ⟨-, earlier | ⟨same, -⟩⟩ := ordered
  · exact (lt_irrefl _ absurd).elim
  · exact le_of_lt earlier
  · exact le_of_eq same

/-- A claim serves the tenant that was claimed the longest time ago, among those that wait. -/
theorem served_first (scheduled : Scheduled db) (undisturbed : Undisturbed db event)
    (served : servedTenant repository event db = some owner) (waiting : Waiting db tenant)
    (stands : cursor owner db = some claimed) : ∃ later, tenant.lastClaimedAt = some later ∧ claimed ≤ later := by
  obtain ⟨session, workerID, lease, rfl⟩ := servedTenant_claim served
  obtain ⟨free, leased⟩ := undisturbed
  obtain ⟨candidate, chosen, rfl⟩ := servedTenant_chosen served
  rw [free] at chosen
  have eligible : (claimEligible db.now db tenant && !([] : List Nat).contains tenant.id) = true := by
    simpa using waiting.eligible 0
  have ordered := claimOrder_le leased (first_le chosen waiting.member eligible)
  rw [cursor_of_mem scheduled.tenants (first_some chosen).1] at stands
  rw [stands] at ordered
  cases time : tenant.lastClaimedAt with
  | none => simp [time] at ordered
  | some later =>
    rw [time] at ordered
    exact ⟨later, rfl, Nat.le_of_succ_le_succ ordered⟩

end Runs

/-- At a claim, every claim time is one of an earlier claim. -/
theorem cursor_lt (scheduled : Scheduled db)
    (cursors : ∀ tenant ∈ db.tenants, ∀ claimed, tenant.lastClaimedAt = some claimed → claimed ≤ last)
    (undisturbed : Along (step repository) Undisturbed before db)
    (later : (last :: claimTimes repository (before ++ rest) db).Pairwise (· < ·))
    (claims : (run (step repository) before db).now ∈ claimTimes repository rest (run (step repository) before db))
    (stands : cursor tenantID (run (step repository) before db) = some claimed) :
    claimed < (run (step repository) before db).now := by
  rw [claimTimes_append, List.pairwise_cons, List.pairwise_append] at later
  obtain ⟨afterLast, -, -, apart⟩ := later
  obtain inside | early := run_cursor_mem scheduled undisturbed stands
  · exact apart claimed inside _ claims
  · obtain ⟨tenant, found, time⟩ := Option.bind_eq_some_iff.mp early
    refine lt_of_le_of_lt (cursors tenant (List.mem_of_find?_eq_some found) claimed time) (afterLast _ ?_)
    exact List.mem_append_right _ claims

/-- Bounded bypass. Claims meet no locks and no expired leases and happen at later and
later times. If two of them serve the same tenant, every other tenant that could have been
served all the time in between was served in between. -/
theorem bounded_bypass (repository : JobRepository) {before between : List Event} {first second : Event} {db : Db} {last : Time}
    {owner other : Nat} (scheduled : Scheduled db)
    (cursors : ∀ tenant ∈ db.tenants, ∀ claimed, tenant.lastClaimedAt = some claimed → claimed ≤ last)
    (undisturbed : Along (step repository) Undisturbed (before ++ (first :: between ++ [second])) db)
    (later : (last :: claimTimes repository (before ++ (first :: between ++ [second])) db).Pairwise (· < ·))
    (one : servedTenant repository first (run (step repository) before db) = some owner)
    (two : servedTenant repository second (run (step repository) (before ++ first :: between) db) = some owner)
    (different : other ≠ owner)
    (waiting : Throughout (step repository) (fun state => ∃ tenant, tenant.id = other ∧ Waiting state tenant) between
      (run (step repository) (before ++ [first]) db)) :
    ServedWithin repository other between (run (step repository) (before ++ [first]) db) := by
  obtain ⟨along, rest⟩ := along_append.mp undisturbed
  obtain ⟨here, rest⟩ := rest
  obtain ⟨along', last', -⟩ := along_append.mp rest
  have early : ∀ claimed, cursor other (run (step repository) before db) = some claimed →
      claimed < (run (step repository) before db).now := by
    intro claimed stands
    refine cursor_lt scheduled cursors along later ?_ stands
    obtain ⟨session, workerID, lease, rfl⟩ := servedTenant_claim one
    exact List.mem_cons_self
  have start := run_scheduled scheduled along
  simp only [run_append, run_cons, run_nil] at two waiting ⊢
  generalize run (step repository) before db = state at early start one two here last' along' waiting ⊢
  have next : Scheduled (step repository first state) := step_scheduled start here
  obtain served | unmoved := run_cursor next along' other
  · exact served
  -- The other tenant still stands where it stood, before the first claim.
  exfalso
  have skipped : cursor other (step repository first state) = cursor other state := by
    rw [step_cursor start here, one, if_neg]
    exact fun same => different (Option.some.inj same).symm
  have moved : cursor owner (step repository first state) = some state.now := by
    rw [step_cursor start here, one, if_pos rfl]
  obtain ⟨tenant, rfl, waits⟩ := waiting.last
  obtain ⟨stood, stands, after⟩ := run_cursor_le next along' moved (step_now_le first)
  have end_ := run_scheduled next along'
  obtain ⟨claimed, time, order⟩ := served_first end_ last' two waits stands
  rw [cursor_of_mem end_.tenants waits.member, skipped, time] at unmoved
  exact absurd (early claimed unmoved.symm) (Nat.not_lt_of_le (le_trans after order))

/-- The conditions of `Waiting`, as a check. -/
private def isWaiting (db : Db) (tenant : TenantRow) : Bool :=
  decide (tenant.status = .active) &&
    (jsonInteger tenant.policyJSON (lit "maxInfrastructureTries")).any
      (fun tries => 1 ≤ castUnsigned tries ∧ castUnsigned tries ≤ 10) &&
    belowRunningLimit db tenant && hasDueJob db.now db tenant.id

private theorem waiting_of_any (found : (db.tenants.any fun tenant => decide (tenant.id = tenantID) && isWaiting db tenant) = true) :
    ∃ tenant, tenant.id = tenantID ∧ Waiting db tenant := by
  obtain ⟨tenant, member, holds⟩ := List.any_eq_true.mp found
  simp only [isWaiting, Bool.and_eq_true, decide_eq_true_eq] at holds
  obtain ⟨id, ⟨⟨active, tries⟩, room⟩, due⟩ := holds
  exact ⟨tenant, id, member, active, tries, room, due⟩

private theorem undisturbed_of_any (free : session.lockedTenants = [])
    (none : (db.jobs.any fun job => job.leaseExpired db.now) = false) :
    Undisturbed db (.claim session workerID lease) := by
  refine ⟨free, fun job member => ?_⟩
  simpa using List.any_eq_false.mp none job member

def rivalsDb : Db :=
  { crowdedDb samplePolicy with
    jobs := (crowdedDb samplePolicy).jobs ++
      [{ sampleJob with id := 3, externalID := lit "jjjjjjjjjjjjjjjjjjjjjjjjjj" },
        { sampleJob with id := 4, externalID := lit "kkkkkkkkkkkkkkkkkkkkkkkkkk", tenantID := 2, bundleID := 2, sourceObjectID := 2 }] }

/-- The first tenant is served twice, and the second tenant in between. -/
theorem bounded_bypass_sample :
    claimTimes sampleRepository [sampleClaim, .tick 1, sampleClaim, .tick 1, sampleClaim] rivalsDb = [100, 101, 102] ∧
    ServedWithin sampleRepository 2 [.tick 1, sampleClaim, .tick 1] (run (step sampleRepository) [sampleClaim] rivalsDb) := by
  have scheduled : Scheduled rivalsDb := ⟨⟨by decide, by decide, by decide, by decide⟩, by decide⟩
  have cursors : ∀ tenant ∈ rivalsDb.tenants, ∀ claimed, tenant.lastClaimedAt = some claimed → claimed ≤ 0 := by
    simp [rivalsDb, crowdedDb, crowdedTenant, sampleTenant]
  have undisturbed : Along (step sampleRepository) Undisturbed
      ([] ++ (sampleClaim :: [.tick 1, sampleClaim, .tick 1] ++ [sampleClaim])) rivalsDb :=
    ⟨undisturbed_of_any rfl (by decide +kernel), trivial, undisturbed_of_any rfl (by decide +kernel), trivial,
      undisturbed_of_any rfl (by decide +kernel), trivial⟩
  have later : ((0 : Time) :: claimTimes sampleRepository
      ([] ++ (sampleClaim :: [.tick 1, sampleClaim, .tick 1] ++ [sampleClaim])) rivalsDb).Pairwise (· < ·) := by decide +kernel
  have one : servedTenant sampleRepository sampleClaim (run (step sampleRepository) [] rivalsDb) = some 1 := by decide +kernel
  have two : servedTenant sampleRepository sampleClaim
      (run (step sampleRepository) ([] ++ sampleClaim :: [.tick 1, sampleClaim, .tick 1]) rivalsDb) = some 1 := by decide +kernel
  have waiting : Throughout (step sampleRepository) (fun state => ∃ tenant, tenant.id = 2 ∧ Waiting state tenant)
      [.tick 1, sampleClaim, .tick 1] (run (step sampleRepository) ([] ++ [sampleClaim]) rivalsDb) :=
    ⟨waiting_of_any (by decide +kernel), waiting_of_any (by decide +kernel), waiting_of_any (by decide +kernel),
      waiting_of_any (by decide +kernel)⟩
  have served := bounded_bypass sampleRepository scheduled cursors undisturbed later one two (by decide) waiting
  exact ⟨by decide +kernel, served⟩

end JudgingServer.Proofs
