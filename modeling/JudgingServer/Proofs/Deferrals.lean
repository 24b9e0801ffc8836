import JudgingServer.Proofs.Quotas

/-! Jobs that wait for the next day because the day has no budget left for them: as
long as they wait, the budget is still too small. -/

namespace JudgingServer.Proofs
open Go External Bundle Library Table Transaction

variable {day : Day} {owner : Nat}

def databaseDate (db : Db) : Day := db.now / Day.millis

/-- The longest time that the bundle of a job lets it run. -/
def maximumExecution (db : Db) (job : JobRow) : Option Int :=
  (joinBundle db job).bind fun row => (parseManifest row.bundle.manifestJSON).bind maximumManifestExecutionMillis

/-- The job waits in the queue for the end of the day. -/
def Postponed (tenantID jobID : Nat) (day : Day) (db : Db) : Prop :=
  ∃ job ∈ db.jobs, job.id = jobID ∧ awaitsNext tenantID day job = true

instance {tenantID jobID : Nat} {day : Day} {db : Db} : Decidable (Postponed tenantID jobID day db) :=
  inferInstanceAs (Decidable (∃ job ∈ db.jobs, job.id = jobID ∧ awaitsNext tenantID day job = true))

/-- The step is a claim that makes the job wait for the end of the day. -/
def Postpones (repository : JobRepository) (tenantID jobID : Nat) (day : Day) (event : Event) (db : Db) : Prop :=
  (∃ session workerID lease, event = .claim session workerID lease) ∧ ¬ Postponed tenantID jobID day db ∧
    Postponed tenantID jobID day (step repository event db)

/-- More than `amount` of the tenant's day is reserved or consumed. -/
def Spent (tenantID : Nat) (day : Day) (amount : Int) (rows : List DailyRow) : Prop :=
  ∃ row ∈ rows, dailyKey row = (tenantID, day) ∧ amount < row.reservedMillis + row.consumedMillis

/-- No reservation is negative. -/
def Solvent (rows : List DailyRow) : Prop := ∀ row ∈ rows, 0 ≤ row.reservedMillis

private theorem start_next_inj (same : day.next.start = day'.next.start) : day = day' := by
  exact Nat.succ_injective (Nat.eq_of_mul_eq_mul_right (by decide : 0 < Day.millis) same)

/-! ### The ledger -/

section Ledger

variable {day : Day}

private theorem mem_ensureDailyRow (member : other ∈ ensureDailyRow tenantID day rows) :
    other ∈ rows ∨ other = ⟨tenantID, day, 0, 0⟩ := by
  unfold ensureDailyRow at member
  split at member
  next => exact .inl member
  next => simpa using member

private theorem ensureDailyRow_subset (member : other ∈ rows) : other ∈ ensureDailyRow tenantID day rows := by
  unfold ensureDailyRow
  split
  next => exact member
  next => exact List.mem_append_left _ member

theorem Solvent.ensure (solvent : Solvent rows) : Solvent (ensureDailyRow tenantID day rows) := by
  intro other member
  obtain inside | rfl := mem_ensureDailyRow member
  · exact solvent other inside
  · exact le_refl _

theorem Solvent.replaced (solvent : Solvent rows) (replaced : Replaced row row' rows rows') (new : 0 ≤ row'.reservedMillis) :
    Solvent rows' := by
  intro other member
  obtain rfl | inside := replaced.subset member
  · exact new
  · exact solvent other inside

theorem Spent.ensure (spent : Spent tenantID day amount rows) : Spent tenantID day amount (ensureDailyRow owner opened rows) := by
  obtain ⟨row, member, key, more⟩ := spent
  exact ⟨row, ensureDailyRow_subset member, key, more⟩

theorem Spent.replaced (spent : Spent tenantID day amount rows) (keyed : Keyed dailyKey rows)
    (replaced : Replaced row row' rows rows') (key : dailyKey row' = dailyKey row)
    (grows : dailyKey row = (tenantID, day) → row.reservedMillis + row.consumedMillis ≤ row'.reservedMillis + row'.consumedMillis) :
    Spent tenantID day amount rows' := by
  obtain ⟨found, member, own, more⟩ := spent
  by_cases same : found = row
  · subst same
    exact ⟨row', replaced.mem_right, key.trans own, lt_of_lt_of_le more (grows own)⟩
  · exact ⟨found, replaced.stays keyed member same, own, more⟩

end Ledger

section Turns

variable {day : Day}

section Ended

variable {id : Nat} {attempt : AttemptRow}

namespace EndsAttempt

variable (ended : EndsAttempt db mid tenantID id number now attempt attempt' row row' consumed)
include ended

private theorem none_awaits (early : now < row.accountingDay.next.start) (member : job ∈ mid.jobs) :
    awaitsNext tenantID row.accountingDay job = false := by
  rw [ended.written] at member
  obtain ⟨old, inside, -, rfl⟩ | ⟨inside, awake⟩ := mem_update.mp member
  · by_contra waits
    obtain ⟨-, -, time⟩ := awaitsNext_iff.mp (by simpa using waits)
    exact (Nat.ne_of_lt early) time
  · exact awake

private theorem solvent (solvent : Solvent db.daily) : Solvent mid.daily := by
  refine solvent.replaced ended.daily ?_
  rw [ended.settledRow]
  exact Int.sub_nonneg_of_le ended.covered

end EndsAttempt

theorem EndsAttempt.spent (ended : EndsAttempt db mid owner id number now attempt attempt' row row' consumed)
    (keyed : Keyed dailyKey db.daily) (spent : Spent tenantID day amount db.daily)
    (other : owner = tenantID → row.accountingDay = day → False) : Spent tenantID day amount mid.daily := by
  refine spent.replaced keyed ended.daily (by rw [ended.settledRow]; rfl) fun own => ?_
  obtain ⟨tenant, same⟩ := Prod.mk.inj own
  exact (other (ended.owner.symm.trans (ended.rowTenant.symm.trans tenant)) same).elim

end Ended

private theorem Readied.solvent (readied : Readied db target mid) (solvent : Solvent db.daily) : Solvent mid.daily := by
  cases readied with
  | waiting queued => exact solvent
  | recovered running expired => exact expired.solvent solvent

private theorem ClaimTurn.solvent (turn : ClaimTurn session db db' target claim) (solvent : Solvent db.daily) :
    Solvent db'.daily := by
  obtain ⟨mid, readied, decided⟩ := turn.decided
  have before := readied.solvent solvent
  have positive := turn.targets.positive
  cases decided with
  | ended same terminal number jobs daily => exact daily ▸ before
  | deferred allowed same queued number waits jobs daily member rowKey short => exact daily ▸ before.ensure
  | started allowed handed same running number jobs daily =>
    have there := before.ensure _ daily.mem_left
    refine before.ensure.replaced daily ?_
    simp only
    omega

private theorem SettleTurn.solvent (turn : SettleTurn db db' job job') (solvent : Solvent db.daily) : Solvent db'.daily := by
  obtain ⟨_, _, _, _, _, _, _, _, ended, -⟩ := turn.settled
  exact ended.solvent solvent

/-- A settlement that gives time back to the day wakes every job that waits for its end. -/
theorem SettleTurn.spent (turn : SettleTurn db db' job job') (keys : Keys (lifecycle db)) (early : db.now < day.next.start)
    (after : Postponed tenantID jobID day db') (spent : Spent tenantID day amount db.daily) :
    Spent tenantID day amount db'.daily := by
  obtain ⟨_, _, _, _, _, _, _, _, ended, -⟩ := turn.settled
  refine ended.spent keys.daily spent fun owner day => ?_
  subst owner day
  obtain ⟨waiting, member, -, waits⟩ := after
  rw [ended.none_awaits early member] at waits
  cases waits

theorem Decided.subset (decided : Decided session now target mid db' claim) (member : job ∈ db'.jobs) :
    job ∈ mid.jobs ∨ job.id = target.job.id := by
  have written : ∀ {job' : JobRow}, SameOwner target.job job' → Replaced target.job job' mid.jobs db'.jobs →
      job ∈ mid.jobs ∨ job.id = target.job.id := by
    intro job' same jobs
    obtain rfl | inside := jobs.subset member
    · exact .inr same.1
    · exact .inl inside
  cases decided with
  | ended same terminal number jobs daily => exact written same jobs
  | deferred allowed same queued number waits jobs daily inside rowKey short => exact written same jobs
  | started allowed handed same running number jobs daily => exact written same jobs

/-- A claim takes nothing from the day of a job that waits before and after it. In a
recovery the job that is written last was running before. -/
theorem ClaimTurn.spent (turn : ClaimTurn session db db' target claim) (keys : Keys (lifecycle db))
    (early : db.now < day.next.start) (before : Postponed tenantID jobID day db) (after : Postponed tenantID jobID day db')
    (spent : Spent tenantID day amount db.daily) : Spent tenantID day amount db'.daily := by
  obtain ⟨mid, readied, decided⟩ := turn.decided
  have ready : Spent tenantID day amount mid.daily ∧ Keyed dailyKey mid.daily := by
    cases readied with
    | waiting queued => exact ⟨spent, keys.daily⟩
    | recovered running expired =>
      refine ⟨expired.spent keys.daily spent fun owner day => ?_, expired.daily_keyed keys.daily⟩
      subst owner day
      obtain ⟨job, member, id, waits⟩ := before
      obtain ⟨job', member', id', waits'⟩ := after
      obtain inside | written := decided.subset member'
      · rw [expired.none_awaits early inside] at waits'
        cases waits'
      · have same : job = target.job := keys.jobs.eq member turn.targets.member (id.trans (id'.symm.trans written))
        rw [same] at waits
        exact absurd ((awaitsNext_iff.mp waits).2.1.symm.trans running) (by decide)
  cases decided with
  | ended same terminal number jobs daily => exact daily ▸ ready.1
  | deferred allowed same queued number waits jobs daily member rowKey short => exact daily ▸ ready.1.ensure
  | started allowed handed same running number jobs daily =>
    have positive := turn.targets.positive
    refine ready.1.ensure.replaced (ensureDailyRow_keyed ready.2) daily rfl fun _ => ?_
    simp only
    omega

private theorem ClaimTurn.postpones (turn : ClaimTurn session db db' target claim) (solvent : Solvent db.daily)
    (early : db.now < day.next.start) (before : ¬ Postponed tenantID jobID day db) (after : Postponed tenantID jobID day db') :
    target.job.id = jobID ∧ target.job.tenantID = tenantID ∧ session.accountingDay = day ∧ target.tenant.status = .active ∧
      Spent tenantID day (target.policy.dailyExecutionMillis - target.reservedExecutionMillis) db'.daily := by
  have kept := turn.solvent solvent
  obtain ⟨mid, readied, decided⟩ := turn.decided
  obtain ⟨job, member, id, waits⟩ := after
  have fresh : job ∉ mid.jobs := by
    intro inside
    cases readied with
    | waiting queued => exact before ⟨job, inside, id, waits⟩
    | recovered running expired =>
      rw [expired.written] at inside
      obtain ⟨old, there, -, rfl⟩ | ⟨there, -⟩ := mem_update.mp inside
      · exact (Nat.ne_of_lt early) (awaitsNext_iff.mp waits).2.2
      · exact before ⟨job, there, id, waits⟩
  obtain ⟨own, queued, time⟩ := awaitsNext_iff.mp waits
  cases decided with
  | ended same terminal number jobs daily =>
    obtain rfl | inside := jobs.subset member
    · rw [queued] at terminal
      cases terminal
    · exact absurd inside fresh
  | deferred allowed same _ number waits jobs daily found rowKey short =>
    obtain rfl | inside := jobs.subset member
    · obtain rfl : session.accountingDay = day := start_next_inj (waits.symm.trans time)
      have tenant : target.tenant.id = tenantID := turn.targets.tenantID.symm.trans (same.2.1.symm.trans own)
      refine ⟨same.1.symm.trans id, same.2.1.symm.trans own, rfl, allowed.1, _, found, ?_, ?_⟩
      · rw [rowKey, tenant]
      · have nonneg := kept _ found
        omega
    · exact absurd inside fresh
  | started allowed handed same running number jobs daily =>
    obtain rfl | inside := jobs.subset member
    · exact absurd (queued.symm.trans running) (by decide)
    · exact absurd inside fresh

end Turns

/-! ### Steps -/

section Steps

variable {day : Day}

theorem StepTurn.daily (turn : StepTurn repository db db' event) (keys : Keys (lifecycle db))
    (unsettled : ∀ job job', ¬ SettleTurn db db' job job')
    (unclaimed : ∀ session target claim, ¬ ClaimTurn session db db' target claim) : db'.daily = db.daily := by
  cases turn with
  | kept rows => exact congrArg Lifecycle.daily rows
  | submitted prepared submits => rw [submits.written]
  | claimed ran locked turn => exact (unclaimed _ _ _ turn).elim
  | renewed committed =>
    obtain ⟨_, _, _, _, _, _, _, _, written⟩ := heartbeat_ok keys committed
    rw [written]
  | settled turn => exact (unsettled _ _ turn).elim
  | cancelled cancels =>
    cases cancels with
    | closed job member named queued jobs closes emits frame => rw [frame]
    | requested job member named running unset jobs frame => rw [frame]
    | nothing job member named settled same => rw [same]

private theorem step_covered (event : Event) (keys : Keys (lifecycle db)) (solvent : Solvent db.daily) :
    Solvent (step repository event db).daily := by
  have turn := step_turn repository event keys
  by_contra broken
  rw [turn.daily keys (fun _ _ turn => broken (turn.solvent solvent)) fun _ _ _ turn => broken (turn.solvent solvent)] at broken
  exact broken solvent

/-- As long as a job waits for the end of the day, nothing is given back to the day. -/
theorem step_spent (event : Event) (keys : Keys (lifecycle db)) (early : db.now < day.next.start)
    (before : Postponed tenantID jobID day db) (after : Postponed tenantID jobID day (step repository event db))
    (spent : Spent tenantID day amount db.daily) : Spent tenantID day amount (step repository event db).daily := by
  have turn := step_turn repository event keys
  by_contra broken
  rw [turn.daily keys (fun _ _ turn => broken (turn.spent keys early after spent))
    fun _ _ _ turn => broken (turn.spent keys early before after spent)] at broken
  exact broken spent

theorem step_now_le (event : Event) : db.now ≤ (step repository event db).now := by
  have frame : WorkerFrame fun next => db.now ≤ next.now :=
    ⟨fun _ _ _ => id, fun _ _ => id, fun _ _ => id, fun _ _ => id, fun _ _ _ => id⟩
  have submits : SubmitFrame fun next => db.now ≤ next.now := ⟨fun _ _ => id, fun _ _ => id, fun _ _ => id, fun _ _ => id⟩
  refine step_keeps frame (fun _ => Nat.le_add_right ..) (fun _ => le_refl _) (fun _ _ _ _ => le_refl _) ?_ (le_refl _)
  intro _ _ _ _ _ _ submission
  exact submitTransaction_keeps submits

private theorem run_now_le (events : List Event) : db.now ≤ (run (step repository) events db).now := by
  induction events generalizing db with
  | nil => exact le_refl _
  | cons event rest ih => exact le_trans (step_now_le event) ih

private theorem run_spent (events : List Event) (keys : Keys (lifecycle db))
    (early : (run (step repository) events db).now < day.next.start)
    (carried : Throughout (step repository) (Postponed tenantID jobID day) events db)
    (spent : Spent tenantID day amount db.daily) : Spent tenantID day amount (run (step repository) events db).daily := by
  induction events generalizing db with
  | nil => exact spent
  | cons event rest ih =>
    have moves := step_moves repository event keys
    have now : db.now < day.next.start := lt_of_le_of_lt (run_now_le (event :: rest)) early
    exact ih (moves.keys keys) early carried.2 (step_spent event keys now carried.1 carried.2.first spent)

end Steps

/-! ### Runs -/

/-- Every bundle of the tenant has the manifest that it was published with. -/
def Published (tenantID : Nat) (manifests : Nat → Json) (bundles : List BundleRow) : Prop :=
  ∀ bundle ∈ bundles, bundle.tenantID = tenantID → bundle.manifestJSON = manifests bundle.id

/-- Provisioning leaves the manifests of the tenant's bundles alone. -/
def KeepsManifests (tenantID : Nat) (manifests : Nat → Json) : Event → Prop
  | .provision _ bundles _ => Published tenantID manifests bundles
  | _ => True

/-- What holds of a tenant along a run in which its policy and its bundles stay. -/
structure Budgeted (tenantID : Nat) (policyJSON : Json) (manifests : Nat → Json) (db : Db) : Prop where
  keys : Keys (lifecycle db)
  governed : Governed tenantID policyJSON db.tenants
  published : Published tenantID manifests db.bundles
  solvent : Solvent db.daily

section Runs

private theorem step_published (published : Published tenantID manifests db.bundles)
    (keeps : KeepsManifests tenantID manifests event) :
    Published tenantID manifests (step repository event db).bundles := by
  have frame : WorkerFrame fun db => Published tenantID manifests db.bundles :=
    ⟨fun _ _ _ => id, fun _ _ => id, fun _ _ => id, fun _ _ => id, fun _ _ _ => id⟩
  have submits : SubmitFrame fun db => Published tenantID manifests db.bundles :=
    ⟨fun _ _ => id, fun _ _ => id, fun _ _ => id, fun _ _ => id⟩
  refine step_keeps frame (fun _ => published) (fun _ => published) ?_ ?_ published
  · rintro tenants bundles callbacks rfl
    exact keeps
  · intro _ _ _ _ _ _ submission
    exact submitTransaction_keeps submits

private theorem step_budgeted (sound : Budgeted tenantID policyJSON manifests db)
    (keeps : KeepsPolicy tenantID policyJSON event ∧ KeepsManifests tenantID manifests event) :
    Budgeted tenantID policyJSON manifests (step repository event db) := by
  have moves := step_moves repository event sound.keys
  exact ⟨moves.keys sound.keys, step_governed sound.governed keeps.1, step_published sound.published keeps.2,
    step_covered event sound.keys sound.solvent⟩

private theorem Published.maximumExecution (published : Published tenantID manifests db.bundles) (own : job.tenantID = tenantID)
    (known : Proofs.maximumExecution db job = some need) :
    (parseManifest (manifests job.bundleID)).bind maximumManifestExecutionMillis = some need := by
  obtain ⟨row, joined, computed⟩ := Option.bind_eq_some_iff.mp known
  obtain ⟨bundle, found, rfl⟩ := Option.map_eq_some_iff.mp joined
  obtain ⟨member, id, tenantID⟩ := find?_row found
  rw [published bundle member (tenantID.trans own), id] at computed
  exact computed

private theorem claimReservation_maximum (computed : claimReservation tenant policy bundle = .ok reserved) :
    (parseManifest bundle.manifestJSON).bind maximumManifestExecutionMillis = some reserved := by
  unfold claimReservation at computed
  split at computed
  next => cases computed
  next manifest parsed =>
    split at computed
    next => cases computed
    next =>
      split at computed
      next => cases computed
      next longest => rw [parsed, Option.bind_some, longest, Except.ok.inj computed]

private theorem lockClaimTarget_reserved (locked : lockClaimTarget session now db = .ok (target, db')) :
    maximumExecution db target.job = some target.reservedExecutionMillis := by
  obtain ⟨-, -, row, joined, computed⟩ := lockClaimTarget_ok locked
  unfold maximumExecution
  simp only [joined, Option.bind_some]
  exact claimReservation_maximum computed

private theorem step_postpones (decoded : decodeTenantPolicy policyJSON = some policy)
    (sound : Budgeted tenantID policyJSON manifests db)
    (early : db.now < day.next.start) (deferred : Postpones repository tenantID jobID day event db) :
    ∃ job ∈ db.jobs, job.id = jobID ∧ job.tenantID = tenantID ∧ ∃ need, maximumExecution db job = some need ∧
      Spent tenantID day (policy.dailyExecutionMillis - need) (step repository event db).daily := by
  obtain ⟨⟨session, workerID, lease, rfl⟩, before, after⟩ := deferred
  unfold step perform at after ⊢
  obtain ⟨outcome, next, ran, committed⟩ | ⟨error, ran, rolledBack⟩ :=
    commit_cases (claimTransaction repository session workerID lease) db
  · simp only [committed, settleOutcome] at after ⊢
    obtain ⟨target, locked, turn⟩ := claimTransaction_turn sound.keys ran
    obtain ⟨id, own, -, active, spent⟩ := turn.postpones sound.solvent early before after
    have same : target.policy = policy := sound.governed.policy decoded (own ▸ turn.targets.hasPolicy active)
    rw [same] at spent
    exact ⟨target.job, turn.targets.member, id, own, _, lockClaimTarget_reserved locked, spent⟩
  · simp only [rolledBack, settleOutcome] at after
    exact absurd after before

end Runs

/-- The job needs more time than the tenant's day has left. -/
def NeedsMore (tenantID jobID : Nat) (day : Day) (policy : TenantPolicy) (db : Db) : Prop :=
  ∀ job ∈ db.jobs, job.id = jobID → ∀ need, maximumExecution db job = some need →
    ∃ row ∈ db.daily, row.tenantID = tenantID ∧ row.accountingDay = day ∧
      policy.dailyExecutionMillis < need + row.reservedMillis + row.consumedMillis

/-- No wake-up is lost. A claim makes a job of a tenant wait for the end of the day, the
job keeps waiting, and the day has not ended: then the job still needs more than the day
has left. -/
theorem deferred_needs_more (repository : JobRepository) {before after : List Event} {event : Event} {db : Db}
    {tenantID jobID : Nat} {day : Day} {policyJSON : Json} {policy : TenantPolicy} {manifests : Nat → Json}
    (sound : Budgeted tenantID policyJSON manifests db) (decoded : decodeTenantPolicy policyJSON = some policy)
    (unchanged : ∀ other ∈ before ++ event :: after,
      KeepsPolicy tenantID policyJSON other ∧ KeepsManifests tenantID manifests other)
    (deferred : Postpones repository tenantID jobID day event (run (step repository) before db))
    (carried : Throughout (step repository) (Postponed tenantID jobID day) after
      (run (step repository) (before ++ [event]) db))
    (today : databaseDate (run (step repository) (before ++ event :: after) db) = day) :
    NeedsMore tenantID jobID day policy (run (step repository) (before ++ event :: after) db) := by
  simp only [run_append, run_cons, run_nil] at carried today ⊢
  have keeps : ∀ db other, Budgeted tenantID policyJSON manifests db →
      KeepsPolicy tenantID policyJSON other ∧ KeepsManifests tenantID manifests other →
      Budgeted tenantID policyJSON manifests (step repository other db) := fun _ _ => step_budgeted
  have first : Budgeted tenantID policyJSON manifests (run (step repository) before db) :=
    run_preserves keeps before sound (along_of_mem (fun other member => unchanged other (List.mem_append_left _ member)) db)
  generalize run (step repository) before db = start at first deferred carried today ⊢
  have last : Budgeted tenantID policyJSON manifests (run (step repository) (event :: after) start) :=
    run_preserves keeps (event :: after) first
      (along_of_mem (fun other member => unchanged other (List.mem_append_right _ member)) start)
  have early : (run (step repository) (event :: after) start).now < day.next.start := by
    rw [← today]
    exact (Nat.lt_mul_div_succ _ (by decide : 0 < Day.millis)).trans_eq (Nat.mul_comm ..)
  have moves := step_moves repository event first.keys
  obtain ⟨job, member, id, own, need, known, spent⟩ :=
    step_postpones decoded first (lt_of_le_of_lt (run_now_le (event :: after)) early) deferred
  obtain ⟨row, inside, key, more⟩ := run_spent after (moves.keys first.keys) early carried spent
  obtain ⟨tenant, accountingDay⟩ := Prod.mk.inj key
  intro job' member' id' need' known'
  obtain ⟨kept, there, same⟩ := run_sameJob (event :: after) first.keys member
  have final : job' = kept := last.keys.jobs.eq member' there (id'.trans (id.symm.trans same.id.symm))
  subst final
  have one := first.published.maximumExecution own known
  have two := last.published.maximumExecution (same.tenantID.trans own) known'
  rw [same.bundleID, one, Option.some.injEq] at two
  exact ⟨row, inside, tenant, accountingDay, by omega⟩

def thriftyPolicy : Json :=
  .object [(lit "maxQueuedJobs", .int 10), (lit "maxRunningJobs", .int 2), (lit "maxSourceBytes", .int 65536),
    (lit "maxRetainedBundles", .int 5), (lit "dailyExecutionMillis", .int 1500), (lit "maxInfrastructureTries", .int 3),
    (lit "maxTimeLimitMillis", .int 10000), (lit "maxMemoryLimitMiB", .int 1024)]

def thriftyDb : Db :=
  { sampleDb with
    now := Day.start 20000 + 100
    tenants := [{ sampleTenant with policyJSON := thriftyPolicy }]
    jobs := [sampleJob, { sampleJob with id := 2, externalID := lit "eeeeeeeeeeeeeeeeeeeeeeeeee" }] }

private theorem thriftyDb_budgeted : Budgeted sampleTenant.id thriftyPolicy (fun _ => sampleManifest) thriftyDb where
  keys := ⟨by decide, by decide, by decide, by decide⟩
  governed tenant member _ := by
    rw [List.mem_singleton.mp member]
  published bundle member _ := by
    rw [List.mem_singleton.mp member]
    rfl
  solvent row member := by cases member

/-- The second job has to wait, and goes on waiting rightly. -/
theorem deferred_needs_more_sample : ∃ policy, decodeTenantPolicy thriftyPolicy = some policy ∧
    policy.dailyExecutionMillis = 1500 ∧
    (run (step sampleRepository) ([sampleClaim] ++ sampleClaim :: [.tick 1000]) thriftyDb).daily = [⟨1, 20000, 1000, 0⟩] ∧
    NeedsMore sampleTenant.id 2 20000 policy (run (step sampleRepository) ([sampleClaim] ++ sampleClaim :: [.tick 1000]) thriftyDb) := by
  obtain ⟨policy, decoded, limit⟩ :
      ∃ policy, decodeTenantPolicy thriftyPolicy = some policy ∧ policy.dailyExecutionMillis = 1500 := ⟨_, rfl, rfl⟩
  refine ⟨policy, decoded, limit, by decide +kernel, ?_⟩
  refine deferred_needs_more sampleRepository thriftyDb_budgeted decoded ?_ ?_ ?_ (by decide +kernel)
  · simp [sampleClaim, KeepsPolicy, KeepsManifests]
  · exact ⟨⟨_, _, _, rfl⟩, by decide +kernel, by decide +kernel⟩
  · exact ⟨by decide +kernel, show Postponed _ _ _ _ by decide +kernel⟩

end JudgingServer.Proofs
