import JudgingServer.Proofs.BundleStatements
import JudgingServer.Proofs.Quotas

/-! Runs of the bundle repository: what a step does to the table of bundles, when a
publication claim whose lease has run out still makes its bundle ready, and when a
tenant keeps more bundles than its policy allows. -/

namespace JudgingServer.Proofs
open Go Bundle External Library Table Transaction

variable {event : BundleEvent}

section Steps

variable {db next : BundleDb} {state : PublicationState}

/-- What a step does to the table: every row keeps its identity, and an upload may add a row. -/
inductive Advances (db : BundleDb) : BundleEvent → List StoredBundle → Prop where
  | turned {event : BundleEvent} (turned : List.Forall₂ SameBundle db.bundles bundles) :
      Advances db event bundles
  | created {id : Nat} {input : BundleCommitInput} {tenant : TenantRow} (creates : Creates id input db tenant) :
      Advances db (.upload id input) (db.bundles ++ [newBundle id tenant.id input db.now])

theorem Turned.steps (turned : Turned completes revives db next) :
    Advances db event next.bundles ∧ (next.tenants = db.tenants ∨ event = .provision next.tenants) :=
  ⟨.turned (turned.rows.imp fun _ _ turn => turn.same_bundle), .inl turned.tenants⟩

theorem Advances.same (db : BundleDb) (event : BundleEvent) : Advances db event db.bundles :=
  .turned (List.forall₂_same.mpr fun _ _ => ⟨rfl, rfl, rfl, rfl, rfl, rfl, rfl⟩)

private theorem bundleStep_complete_cases (claim : BundlePublicationClaim) (readyAt : Instant) (state : PublicationState) :
    (bundleStep (.complete claim readyAt) state).db = ((completeBundlePublication claim readyAt).commit state.db).2 ∨
      (bundleStep (.complete claim readyAt) state).db = state.db := by
  simp only [bundleStep]
  split_ifs <;> simp

private theorem bundleStep_fail_cases (claim : BundlePublicationClaim) (errorCode : GoString) (nextAttempt : Instant)
    (maxAttempts : Nat)
    (state : PublicationState) :
    (bundleStep (.fail claim errorCode nextAttempt maxAttempts) state).db =
        ((failBundlePublication claim errorCode nextAttempt maxAttempts).commit state.db).2 ∨
      (bundleStep (.fail claim errorCode nextAttempt maxAttempts) state).db = state.db := by
  simp only [bundleStep]
  split_ifs <;> simp

private theorem bundleStep_advances (event : BundleEvent) (keyed : DistinctIDs state.db.bundles) :
    Advances state.db event (bundleStep event state).db.bundles ∧
      ((bundleStep event state).db.tenants = state.db.tenants ∨ event = .provision (bundleStep event state).db.tenants) := by
  cases event with
  | tick elapsed => exact ⟨.same _ _, .inl rfl⟩
  | provision tenants => exact ⟨.same _ _, .inr rfl⟩
  | upload id input =>
    have turns : UploadTurns id input state.db ((commitBundleUpload id input).commit state.db).2 := commitBundleUpload_turns keyed
    cases turns with
    | turned turned => exact turned.steps
    | created creates bundles tenants => exact ⟨bundles ▸ .created creates, .inl tenants⟩
  | claim tenantID bundleID leaseToken now leaseUntil =>
    exact Turned.steps (claimBundlePublication_turned keyed)
  | complete claim readyAt =>
    obtain stepped | stays := bundleStep_complete_cases claim readyAt state
    · rw [stepped]
      exact Turned.steps (completeBundlePublication_turned keyed)
    · rw [stays]
      exact ⟨.same _ _, .inl rfl⟩
  | fail claim errorCode nextAttempt maxAttempts =>
    obtain stepped | stays := bundleStep_fail_cases claim errorCode nextAttempt maxAttempts state
    · rw [stepped]
      exact Turned.steps (failBundlePublication_turned keyed)
    · rw [stays]
      exact ⟨.same _ _, .inl rfl⟩
  | sweep visits before limit => exact Turned.steps sweepUnrecoverableBundlePublications_turned

theorem Advances.distinct (advances : Advances db event bundles) (keyed : DistinctIDs db.bundles) : DistinctIDs bundles := by
  cases advances with
  | turned turned =>
    unfold DistinctIDs Keyed
    rwa [map_forall₂ (fun _ _ same => same.externalID) turned]
  | created creates =>
    refine keyed.insert fun other member same => ?_
    have clear := List.any_eq_false.mp creates.unique other member
    simp only [StoredBundle.clashes, decide_eq_true_eq, not_or] at clear
    exact clear.2.1 same

/-- The table keeps its key, and the database has granted valid claims only. -/
structure Orderly (state : PublicationState) : Prop where
  distinct : DistinctIDs state.db.bundles
  granted : ∀ entry ∈ state.granted, validBundlePublicationClaim entry.1 = true

private theorem grantedClaim_valid (keyed : DistinctIDs db.bundles)
    (member : entry ∈ grantedClaim leaseUntil ((claimBundlePublication tenantID bundleID token now leaseUntil).commit db).1) :
    validBundlePublicationClaim entry.1 = true := by
  obtain ⟨outcome, next, run, committed⟩ | ⟨error, _, rolledBack⟩ :=
    commit_cases (claimBundlePublication tenantID bundleID token now leaseUntil) db
  · rw [committed] at member
    obtain ⟨rfl, -⟩ | ⟨claim, row, bundles, tenant, -, rfl, -, -, -, -, -, loaded⟩ := claimBundlePublication_ok keyed run
    · cases member
    · obtain rfl := List.mem_singleton.mp member
      exact loaded.valid
  · rw [rolledBack] at member
    cases member

private theorem bundleStep_granted (keyed : DistinctIDs state.db.bundles) (member : entry ∈ (bundleStep event state).granted) :
    entry ∈ state.granted ∨ validBundlePublicationClaim entry.1 = true := by
  cases event with
  | claim tenantID bundleID leaseToken now leaseUntil =>
    exact (List.mem_append.mp member).imp id (grantedClaim_valid keyed)
  | complete claim readyAt =>
    simp only [bundleStep] at member
    split_ifs at member
    all_goals exact .inl member
  | fail claim errorCode nextAttempt maxAttempts =>
    simp only [bundleStep] at member
    split_ifs at member
    all_goals exact .inl member
  | _ => exact .inl member

private theorem bundleStep_orderly (state : PublicationState) (event : BundleEvent) (orderly : Orderly state) :
    Orderly (bundleStep event state) :=
  ⟨(bundleStep_advances event orderly.distinct).1.distinct orderly.distinct,
    fun entry member => (bundleStep_granted orderly.distinct member).elim (orderly.granted entry) id⟩

end Steps

/-! ### Completions after the end of a lease -/

/-- The step makes a bundle ready that was not. -/
def MakesReady (before after : BundleDb) : Prop :=
  ∃ row ∈ before.bundles, row.publicationStatus ≠ .ready ∧
    ∃ row' ∈ after.bundles, row'.externalID = row.externalID ∧ row'.publicationStatus = .ready

/-- No completion that takes place after the lease of its claim makes a bundle ready. -/
def ExpiredStaysUnready (state : PublicationState) : BundleEvent → Prop
  | .complete claim readyAt => ∀ leaseUntil, (claim, leaseUntil) ∈ state.granted → leaseUntil ≤ state.db.now →
      ¬ MakesReady state.db (bundleStep (.complete claim readyAt) state).db
  | _ => True

/-- By the time a completion takes place after the lease of its claim, the row no longer
carries the token of the claim, or its tenant is not active. -/
def ExpiredIsReleased (state : PublicationState) : BundleEvent → Prop
  | .complete claim readyAt => ∀ leaseUntil, (claim, leaseUntil) ∈ state.granted → leaseUntil ≤ state.db.now → readyAt ≠ 0 →
      ∀ tenant, activeTenant claim.tenantID state.db = some tenant → ∀ row ∈ state.db.bundles, claim.holds tenant.id row = false
  | _ => True

section Completion

variable {db : BundleDb} {claim : BundlePublicationClaim} {readyAt : Instant}

private theorem completion_makesReady (keyed : DistinctIDs db.bundles) (valid : validBundlePublicationClaim claim = true) :
    MakesReady db ((completeBundlePublication claim readyAt).commit db).2 ↔
      readyAt ≠ 0 ∧ ∃ tenant, activeTenant claim.tenantID db = some tenant ∧ ∃ row ∈ db.bundles, claim.holds tenant.id row = true := by
  constructor
  · rintro ⟨row, member, unready, row', member', same, ready⟩
    obtain ⟨done, next, run, committed⟩ | ⟨error, _, rolledBack⟩ := commit_cases (completeBundlePublication claim readyAt) db
    · obtain ⟨⟨-, given⟩, tenant, found, held, bundles, holds, replaced, -⟩ := completeBundlePublication_ok keyed run
      exact ⟨given, tenant, found, held, replaced.mem_left, holds⟩
    · rw [rolledBack] at member'
      exact absurd (keyed.eq member' member same ▸ ready) unready
  · rintro ⟨given, tenant, found, row, member, holds⟩
    have only : ∀ other, claim.holds tenant.id other = true → other.externalID = row.externalID :=
      fun other alike => (holds_externalID alike).trans (holds_externalID holds).symm
    have run : completeBundlePublication claim readyAt db = .ok ((), { db with
        bundles := update (claim.holds tenant.id) (StoredBundle.complete (Instant.stored readyAt)) db.bundles }) := by
      unfold completeBundlePublication
      rw [ensure_bind (by simp [valid, given]), require_bind found]
      exact updateBundle_run keyed only member holds _ _
    have replaced := update_replaced (f := StoredBundle.complete (Instant.stored readyAt)) keyed member holds
      fun other _ alike => only other alike
    refine ⟨row, member, ?_, row.complete (Instant.stored readyAt), ?_, rfl, rfl⟩
    · rw [holds_publishing holds]
      decide
    · simp only [commit, run]
      exact replaced.mem_right

private theorem bundleStep_complete (held : state.holds claim = true) :
    (bundleStep (.complete claim readyAt) state).db = ((completeBundlePublication claim readyAt).commit state.db).2 := by
  simp only [bundleStep, held, if_true]

private theorem expired_iff (state : PublicationState) (event : BundleEvent) (orderly : Orderly state) :
    ExpiredStaysUnready state event ↔ ExpiredIsReleased state event := by
  cases event with
  | complete claim readyAt =>
    refine forall_congr' fun leaseUntil => forall_congr' fun granted => forall_congr' fun late => ?_
    have held : state.holds claim = true := List.any_eq_true.mpr ⟨_, granted, by simp⟩
    simp only [bundleStep_complete held, completion_makesReady orderly.distinct (orderly.granted _ granted), not_and, not_exists,
      Bool.not_eq_true]
  | _ => exact Iff.rfl

end Completion

/-- A publication claim whose lease has run out never makes its bundle ready, in exactly the
runs in which every such completion comes after the row was released from its claim: no
statement of the completion asks for the lease. -/
theorem publication_lease {state : PublicationState} (events : List BundleEvent) (distinct : DistinctIDs state.db.bundles)
    (fresh : state.granted = []) :
    Along bundleStep ExpiredStaysUnready events state ↔ Along bundleStep ExpiredIsReleased events state := by
  have start : Orderly state := ⟨distinct, by simp [fresh]⟩
  exact along_congr bundleStep_orderly expired_iff events start

/-! ### A completion after its lease -/

def sampleUpload (digest : UInt8) : BundleCommitInput :=
  let requestHash := List.replicate 32 digest
  { tenantID := sampleTenant.externalID
    idempotencyDigest := requestHash
    requestHash
    objectKey := bundleObjectKey sampleTenant.externalID requestHash
    stagingObjectKey := stagingBundleObjectKey sampleTenant.externalID (List.replicate 26 (97 + digest)) requestHash
    manifestJSON := sampleManifest
    timeLimitMillis := 1000
    memoryLimitMiB := 256
    metadata := ⟨List.replicate 26 (97 + digest), encodeHex requestHash, 500, 1, 1, second⟩
    idempotencyExpiresAt := hour }

def emptyShelf : PublicationState := ⟨⟨1000, [sampleTenant], [], []⟩, []⟩

def samplePublication : BundlePublicationClaim :=
  let upload := sampleUpload 1
  ⟨upload.tenantID, upload.metadata.bundleID, upload.objectKey, upload.stagingObjectKey, upload.requestHash, 500,
    List.replicate 26 120, 1⟩

/-- The lease of the claim ends a minute after it was granted, and the promotion takes a second longer. -/
def lateCompletion : List BundleEvent :=
  [.upload 1 (sampleUpload 1), .claim samplePublication.tenantID samplePublication.bundleID samplePublication.leaseToken second
    (second + minute), .tick 61000, .complete samplePublication (62 * second)]

private def lateState : PublicationState := run bundleStep (lateCompletion.take 3) emptyShelf

theorem publication_lease_late : ¬ Along bundleStep ExpiredStaysUnready lateCompletion emptyShelf := by
  rintro ⟨-, -, -, unready, -⟩
  change ExpiredStaysUnready lateState (.complete samplePublication (62 * second)) at unready
  have facts : (samplePublication, 61000) ∈ lateState.granted ∧ 61000 ≤ lateState.db.now ∧
      lateState.holds samplePublication = true ∧ DistinctIDs lateState.db.bundles ∧
      lateState.db.bundles.any (samplePublication.holds sampleTenant.id) = true := by decide +kernel
  obtain ⟨granted, late, held, distinct, leased⟩ := facts
  obtain ⟨row, member, holds⟩ := List.any_eq_true.mp leased
  refine unready 61000 granted late ?_
  rw [bundleStep_complete held, completion_makesReady distinct (by decide +kernel)]
  exact ⟨by decide, sampleTenant, rfl, row, member, holds⟩

/-- The same claim completed within its lease. -/
theorem publication_lease_sample :
    Along bundleStep ExpiredStaysUnready (lateCompletion.take 2 ++ [.complete samplePublication (2 * second)]) emptyShelf := by
  refine (publication_lease _ (by decide) rfl).mpr ⟨trivial, trivial, ?_, trivial⟩
  intro leaseUntil granted late
  have once : ∀ entry ∈ (run bundleStep (lateCompletion.take 2) emptyShelf).granted, entry.2 = 61000 := by decide +kernel
  obtain rfl : leaseUntil = 61000 := once _ granted
  exact absurd late (by decide +kernel)

/-! ### The number of bundles a tenant keeps -/

section

variable (tenantID : Nat)

def StoredBundle.isRetained (row : StoredBundle) : Bool := row.tenantID = tenantID ∧ row.deletedAt.isNone

def retainedBundles (db : BundleDb) : Nat := db.bundles.countP (StoredBundle.isRetained tenantID)

/-- The tenant keeps no more bundles than the policy allows. -/
def WithinRetained (policy : TenantPolicy) (state : PublicationState) : Prop :=
  (retainedBundles tenantID state.db : Int) ≤ policy.maxRetainedBundles

/-- An upload that creates a row for the tenant finds room for it. -/
def LeavesRoom (state : PublicationState) : BundleEvent → Prop
  | .upload id input => ∀ tenant, Creates id input state.db tenant → tenant.id = tenantID →
      ∀ policy, decodeTenantPolicy tenant.policyJSON = some policy →
        (retainedBundles tenantID state.db : Int) < policy.maxRetainedBundles
  | _ => True

/-- Provisioning leaves the tenant's policy alone. -/
def KeepsBundlePolicy (policyJSON : Json) : BundleEvent → Prop
  | .provision tenants => Governed tenantID policyJSON tenants
  | _ => True

end

section Retention

variable {db : BundleDb} {state : PublicationState} {tenantID : Nat} {policyJSON : Json}

private theorem bundleStep_governed (keyed : DistinctIDs state.db.bundles)
    (governed : Governed tenantID policyJSON state.db.tenants)
    (keeps : KeepsBundlePolicy tenantID policyJSON event) :
    Governed tenantID policyJSON (bundleStep event state).db.tenants := by
  obtain same | provisioned := (bundleStep_advances event keyed).2
  · rw [same]
    exact governed
  · rw [provisioned] at keeps
    exact keeps

theorem Advances.retained (advances : Advances db event next.bundles) (tenantID : Nat) :
    retainedBundles tenantID next = retainedBundles tenantID db ∨
      ∃ id input tenant, event = .upload id input ∧ Creates id input db tenant ∧
        retainedBundles tenantID next = retainedBundles tenantID db + if tenant.id = tenantID then 1 else 0 := by
  unfold retainedBundles
  generalize next.bundles = bundles at advances
  cases advances with
  | turned turned =>
    refine .inl (countP_forall₂ (fun row row' same => ?_) turned)
    simp only [StoredBundle.isRetained, same.tenantID, same.deletedAt]
  | created creates =>
    refine .inr ⟨_, _, _, rfl, creates, ?_⟩
    rw [List.countP_append]
    simp [StoredBundle.isRetained, newBundle]

structure SteadyTenant (tenantID : Nat) (policyJSON : Json) (state : PublicationState) : Prop where
  distinct : DistinctIDs state.db.bundles
  governed : Governed tenantID policyJSON state.db.tenants

theorem Creates.policy {id : Nat} {input : BundleCommitInput} {tenant : TenantRow} {policy own : TenantPolicy}
    (creates : Creates id input db tenant) (governed : Governed tenant.id policyJSON db.tenants)
    (decoded : decodeTenantPolicy policyJSON = some policy) (read : decodeTenantPolicy tenant.policyJSON = some own) : own = policy := by
  rw [governed tenant (activeTenant_some creates.found).1 rfl, decoded] at read
  exact (Option.some.inj read).symm

theorem SteadyTenant.step (steady : SteadyTenant tenantID policyJSON state)
    (keeps : KeepsBundlePolicy tenantID policyJSON event) : SteadyTenant tenantID policyJSON (bundleStep event state) :=
  ⟨(bundleStep_advances event steady.distinct).1.distinct steady.distinct, bundleStep_governed steady.distinct steady.governed keeps⟩

/-- A step keeps the tenant within its limit exactly when it leaves room for the row it creates. -/
theorem withinRetained_iff (decoded : decodeTenantPolicy policyJSON = some policy)
    (steady : SteadyTenant tenantID policyJSON state) (within : WithinRetained tenantID policy state) :
    WithinRetained tenantID policy (bundleStep event state) ↔ LeavesRoom tenantID state event := by
  have advances := (bundleStep_advances event steady.distinct).1
  unfold WithinRetained at within ⊢
  constructor
  · intro after
    cases event with
    | upload id input =>
      rintro tenant creates rfl own read
      have grown : retainedBundles tenant.id (bundleStep (.upload id input) state).db = retainedBundles tenant.id state.db + 1 := by
        simp only [bundleStep, commit, commitBundleUpload_creates creates, retainedBundles, List.countP_append]
        simp [StoredBundle.isRetained, newBundle]
      rw [creates.policy steady.governed decoded read]
      omega
    | _ => trivial
  · intro room
    obtain same | ⟨id, input, tenant, rfl, creates, grown⟩ := advances.retained tenantID
    · omega
    · split_ifs at grown with own
      · obtain ⟨ownPolicy, read, -⟩ := creates.allowed
        have fits := room tenant creates own ownPolicy read
        subst own
        rw [creates.policy steady.governed decoded read] at fits
        omega
      · omega

end Retention

/-- From a database without bundles, and as long as a tenant keeps its policy, the tenant
stays within the number of bundles its policy allows in exactly the runs in which every
upload that creates a row finds room for it: no statement of the commit counts the rows. -/
theorem retained_bundle_quota {events : List BundleEvent} {state : PublicationState} {tenantID : Nat} {policyJSON : Json}
    {policy : TenantPolicy} (empty : state.db.bundles = []) (decoded : decodeTenantPolicy policyJSON = some policy)
    (governed : Governed tenantID policyJSON state.db.tenants)
    (unchanged : ∀ event ∈ events, KeepsBundlePolicy tenantID policyJSON event) :
    Throughout bundleStep (WithinRetained tenantID policy) events state ↔ Along bundleStep (LeavesRoom tenantID) events state := by
  have limits := validate_ok (decodeTenantPolicy_ok decoded)
  have keyed : DistinctIDs state.db.bundles := by simp [empty, Keyed]
  have first : WithinRetained tenantID policy state := by
    simp only [WithinRetained, retainedBundles, empty, List.countP_nil]
    omega
  have start : SteadyTenant tenantID policyJSON state := ⟨keyed, governed⟩
  have keeps : ∀ state event, SteadyTenant tenantID policyJSON state → KeepsBundlePolicy tenantID policyJSON event →
      SteadyTenant tenantID policyJSON (bundleStep event state) := fun _ _ steady kept => steady.step kept
  exact throughout_iff_along keeps (fun _ _ steady _ within => withinRetained_iff decoded steady within) unchanged start first

/-! ### A second bundle where one is allowed -/

def singleBundlePolicy : Json :=
  .object [(lit "maxQueuedJobs", .int 10), (lit "maxRunningJobs", .int 2), (lit "maxSourceBytes", .int 65536),
    (lit "maxRetainedBundles", .int 1), (lit "dailyExecutionMillis", .int 60000), (lit "maxInfrastructureTries", .int 3),
    (lit "maxTimeLimitMillis", .int 10000), (lit "maxMemoryLimitMiB", .int 1024)]

def singleBundleShelf : PublicationState := ⟨⟨1000, [{ sampleTenant with policyJSON := singleBundlePolicy }], [], []⟩, []⟩

theorem retained_bundle_quota_exceeded : ∃ policy, decodeTenantPolicy singleBundlePolicy = some policy ∧
    ¬ Throughout bundleStep (WithinRetained sampleTenant.id policy) [.upload 1 (sampleUpload 1), .upload 2 (sampleUpload 2)]
      singleBundleShelf := by
  refine ⟨⟨10, 2, 65536, 1, 60000, 3, 10000, 1024⟩, rfl, ?_⟩
  rintro ⟨-, -, within⟩
  have two : retainedBundles sampleTenant.id
      (run bundleStep [.upload 1 (sampleUpload 1), .upload 2 (sampleUpload 2)] singleBundleShelf).db = 2 := by decide +kernel
  have limited : ((2 : Nat) : Int) ≤ 1 := two ▸ within
  omega

/-- One upload stays within the limit. -/
theorem retained_bundle_quota_sample : ∃ policy, decodeTenantPolicy singleBundlePolicy = some policy ∧
    Throughout bundleStep (WithinRetained sampleTenant.id policy) [.upload 1 (sampleUpload 1)] singleBundleShelf := by
  refine ⟨⟨10, 2, 65536, 1, 60000, 3, 10000, 1024⟩, rfl, ?_⟩
  have governed : Governed sampleTenant.id singleBundlePolicy singleBundleShelf.db.tenants := by
    intro tenant member _
    obtain rfl := List.mem_singleton.mp member
    rfl
  refine (retained_bundle_quota rfl rfl governed (by simp [KeepsBundlePolicy])).mpr ⟨?_, trivial⟩
  intro tenant creates same own read
  rw [creates.policy (same ▸ governed) rfl read]
  decide

end JudgingServer.Proofs
