import JudgingServer.Proofs.Progress

/-! Isolation of tenants in `ClaimNext`: when can the rows of one tenant keep the claims
of another one from ever being made? -/

namespace JudgingServer.Proofs
open Go External Library Table Transaction

variable {failure : ClaimFailure} {db : Db} {tenant : TenantRow}

/-- The database when nothing but time has passed. -/
def later (elapsed : Nat) (db : Db) : Db := { db with now := db.now + elapsed }

theorem Consistent.later (consistent : Consistent db) (elapsed : Nat) : Consistent (later elapsed db) :=
  { tenantIDs := consistent.tenantIDs
    linked := fun job member => (consistent.linked job member).frame ⟨rfl, rfl, rfl, rfl, rfl, rfl, rfl, rfl⟩
      (fun tenant inside => ⟨tenant, inside, rfl⟩) rfl rfl
    fenced := consistent.fenced
    balanced := consistent.balanced
    told := consistent.told
    encoding := ⟨consistent.encoding.keys, ⟨Nat.lt_of_lt_of_le consistent.encoding.surroundings.clock (Nat.le_add_right _ _),
      consistent.encoding.surroundings.tenants⟩, consistent.encoding.jobs⟩
    startable := consistent.startable }

/-- An active tenant is below its running limit and has a due job. Both limits are read
from its policy in the way the selection reads them. -/
structure Waiting (db : Db) (tenant : TenantRow) : Prop where
  member : tenant ∈ db.tenants
  active : tenant.status = .active
  tries : ((jsonInteger tenant.policyJSON (lit "maxInfrastructureTries")).any
    fun tries => 1 ≤ castUnsigned tries ∧ castUnsigned tries ≤ 10) = true
  belowLimit : belowRunningLimit db tenant = true
  due : hasDueJob db.now db tenant.id = true

theorem Waiting.eligible (waiting : Waiting db tenant) (elapsed : Nat) : claimEligible (db.now + elapsed) db tenant = true := by
  obtain ⟨job, member, due⟩ := List.any_eq_true.mp waiting.due
  have still : hasDueJob (db.now + elapsed) db tenant.id = true := by
    refine List.any_eq_true.mpr ⟨job, member, ?_⟩
    simp only [decide_eq_true_eq] at due ⊢
    exact ⟨due.1, due.2.1, Nat.le_trans due.2.2 (Nat.le_add_right _ _)⟩
  unfold claimEligible
  rw [waiting.tries, waiting.belowLimit, still, waiting.active]
  simp

theorem Waiting.chosen (waiting : Waiting db tenant) (elapsed : Nat) :
    ∃ first, selectClaimTenant [] (db.now + elapsed) db = some first := by
  refine first_exists _ waiting.member ?_
  rw [waiting.eligible elapsed]
  rfl

section Failure

variable {db : Db} {tenant : TenantRow}

end Failure

/-! ### Calls -/

section Calls

variable {db : Db}

end Calls

/-! ### Isolation -/

variable (policyJSON : Json)

def crowdedTenant : TenantRow := ⟨2, lit "ffffffffffffffffffffffffff", .active, samplePolicy, none⟩

def crowdedDb : Db :=
  let bundle : BundleRow := { sampleBundle with id := 2, externalID := lit "gggggggggggggggggggggggggg", tenantID := 2 }
  let source : SourceRow := { sampleSource with id := 2, externalID := lit "hhhhhhhhhhhhhhhhhhhhhhhhhh", tenantID := 2 }
  let job : JobRow := { sampleJob with
    id := 2, externalID := lit "iiiiiiiiiiiiiiiiiiiiiiiiii", tenantID := 2, bundleID := 2, sourceObjectID := 2 }
  { sampleDb with
    tenants := [{ sampleTenant with policyJSON }, crowdedTenant], bundles := [sampleBundle, bundle]
    sources := [sampleSource, source], jobs := [sampleJob, job] }

end JudgingServer.Proofs
