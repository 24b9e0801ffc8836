import JudgingServer.Proofs.BundleContract
import JudgingServer.Proofs.LeaseFencing
import JudgingServer.Proofs.PublicationRules

/-! A bundle that is ready has its object, and stays ready, whatever the uploads, the
reconcilers and the collectors of all replicas do and wherever they stop. -/

namespace JudgingServer.Proofs
open Go Bundle External Library Table Transaction

section Contract

variable {sizeOf : GoString → Int}

/-- The publication is claimed and its final object in place. -/
def Promoted (sizeOf : GoString → Int) (claim : BundlePublicationClaim) (world : BundleWorld) : Prop :=
  Holding sizeOf world claim ∧ Filled world claim.objectKey claim.sizeBytes claim.requestHash

/-- The publication is claimed and its upload has the recorded size. -/
def Copyable (sizeOf : GoString → Int) (claim : BundlePublicationClaim) (world : BundleWorld) : Prop :=
  Holding sizeOf world claim ∧ sizeOf claim.stagingKey = claim.sizeBytes

private theorem claim_holding (sound : SoundWorld sizeOf next) (lastSound : SoundWorld sizeOf last)
    (performed : (BundleCall.claimBundlePublication tenantID bundleID token now leaseUntil).performs next (.ok (some claim)) last) :
    Holding sizeOf last claim := by
  obtain ⟨row, member, tenant, present, owner, loaded⟩ := claim_loaded sound.distinct performed
  obtain ⟨named, objectKey⟩ := validClaim_objectKey loaded.valid
  refine ⟨loaded.valid, ⟨row, ⟨member, ⟨tenant, present, loaded.tenant.symm, owner.symm⟩, named, ?_⟩,
    loaded.bundle.symm, loaded.requestHash.symm, loaded.sizeBytes.symm⟩, lastSound.deposited row member _ loaded.stagingKey⟩
  rw [← loaded.objectKey, objectKey, loaded.requestHash]

private theorem verifyBundleObject_size (verified : verifyBundleObject info size digest = .ok ()) : info.size = size := by
  unfold verifyBundleObject at verified
  split_ifs at verified with mismatch
  exact not_not.mp (not_or.mp mismatch).1

private theorem puts_deposited (staging : IsStagingKey key) (recorded : size = sizeOf key)
    (performed : (BundleCall.putObject key size sha256).performs world (.ok uploaded) next) : Deposited sizeOf next key := by
  obtain ⟨-, rfl⟩ := Returns.ok performed
  refine ⟨staging, fun object present => ?_⟩
  simp only [puts, Function.update_self] at present
  obtain rfl := Option.some.inj present
  exact recorded

/-- What a process of the deployment knows about the rows and the objects. -/
private def publicationContract {ι : Type} (sizeOf : GoString → Int) (i : ι) (minimumAge : Duration) :
    BundleContract (publicationRules ι sizeOf) i minimumAge where
  unstaged key size _ := IsStagingKey key ∧ size = sizeOf key
  deposited key world := Deposited sizeOf world key
  disposable key _ := IsStagingKey key
  held claim world := Holding sizeOf world claim
  copyable := Copyable sizeOf
  promoted := Promoted sizeOf
  told _ _ := True
  listed _ _ _ := True
  returned _ _ _ := True
  performs performed := performed
  unstaged_stable _ _ _ _ _ _ _ known := known
  deposited_stable key _ _ _ _ rely deposited := rely.1.deposited key deposited
  disposable_stable _ _ _ _ _ _ known := known
  held_kept _ _ _ _ _ evolves holding := holding.evolves evolves
  copyable_kept _ _ _ _ _ evolves known := ⟨known.1.evolves evolves, known.2⟩
  promoted_kept _ _ _ _ _ evolves known := ⟨known.1.evolves evolves, known.2.evolves known.1 evolves⟩
  told_kept _ _ _ _ _ _ _ := trivial
  listed_kept _ _ _ _ _ _ _ _ := trivial
  returned_kept _ _ _ _ _ _ _ _ := trivial
  free {request _} free := by
    cases request with
    | commitBundleUpload => cases free
    | completeBundlePublication => cases free
    | putObject => cases free
    | copyObject => cases free
    | removeObject => cases free
    | _ => trivial
  put known := known
  commit deposited _ := deposited
  copy {claim _} known := ⟨claim, known.1, rfl, rfl, rfl, known.2⟩
  complete known := known
  remove _ staging := staging
  puts _ known performed := puts_deposited known.1 known.2 performed
  displaced _ deposited _ _ := deposited.staging
  rejected _ deposited _ _ := deposited.staging
  replayed _ _ _ := trivial
  committed _ _ _ := trivial
  claims sound later performed := claim_holding sound later performed
  seesFinal _ holding present verified := ⟨holding, _, present, verified⟩
  seesStaging _ holding present verified :=
    ⟨holding, (holding.deposited.size _ present).symm.trans (verifyBundleObject_size verified)⟩
  completes _ _ known _ := known.1.deposited.staging
  abandons _ _ holding _ := holding.deposited.staging
  reads _ := trivial
  lists _ _ _ _ _ := trivial
  unreferenced _ _ named _ _ := validBundleStagingGCKey_staging named

end Contract

/-! ### Every run -/

/-- A row that the migration left: it waits, and nothing was staged for it. -/
structure Migrated (row : StoredBundle) : Prop where
  pending : row.publicationStatus = .pending
  unstaged : row.stagingObjectKey = none
  token : row.publishLeaseToken = none
  lease : row.publishLeaseUntil = none

/-- The unique keys of the tables, with migrated rows only. -/
structure MigratedDb (db : BundleDb) : Prop where
  distinct : DistinctIDs db.bundles
  digests : Keyed (fun row : StoredBundle => (row.tenantID, row.sha256)) db.bundles
  names : Keyed TenantRow.externalID db.tenants
  rows : ∀ row ∈ db.bundles, Migrated row

theorem MigratedDb.sound (migrated : MigratedDb world.db) (sizeOf : GoString → Int) : SoundWorld sizeOf world := by
  refine ⟨migrated.distinct, migrated.digests, migrated.names, fun row member => ?_, fun row member key given => ?_,
    fun row member ready => ?_⟩
  · obtain ⟨pending, unstaged, token, lease⟩ := migrated.rows row member
    exact ⟨by simp [token, pending], by simp [lease, pending], by simp [pending]⟩
  · rw [(migrated.rows row member).unstaged] at given
    cases given
  · exact absurd (ready.symm.trans (migrated.rows row member).pending) (by decide)

/-- The pool of a deployment before any of its tasks has taken a step. -/
def deployment {ι : Type} (service : BundleService) (collector : BundleStagingGarbageCollector) (tasks : ι → BundleTask)
    (world : BundleWorld) : Pool ι BundleWorld BundleCall BundleCall.Answer Unit :=
  ⟨world, fun i => (tasks i).process service collector⟩

abbrev Leads {ι : Type} [DecidableEq ι] (pool later : Pool ι BundleWorld BundleCall BundleCall.Answer Unit) : Prop :=
  Relation.ReflTransGen (Pool.Step BundleCall.performs BundleWorld.Drifts) pool later

/-- In every state that uploads, publications, reconcilers and collectors reach from migrated
rows, a ready row has its staging key and its final object, leases are set exactly while a row
is being published, and a ready row stays ready. Uploads that draw the same staging key, and so
have the same digest, are assumed to have the same length. -/
theorem ready_bundles {ι : Type} [DecidableEq ι] (service : BundleService) (collector : BundleStagingGarbageCollector)
    (tasks : ι → BundleTask) {world : BundleWorld} (migrated : MigratedDb world.db)
    (lengths : ∀ i j, (tasks i).stagingKey service = (tasks j).stagingKey service →
      (tasks i).stagedSize service = (tasks j).stagedSize service)
    {pool : Pool ι BundleWorld BundleCall BundleCall.Answer Unit} (reached : Leads (deployment service collector tasks world) pool) :
    (∀ row ∈ pool.world.db.bundles,
      (row.publicationStatus = .ready →
        row.stagingObjectKey.isSome = true ∧ Filled pool.world row.objectKey row.sizeBytes row.sha256) ∧
      (row.publishLeaseToken.isSome = true ↔ row.publicationStatus = .publishing) ∧
      (row.publishLeaseUntil.isSome = true ↔ row.publicationStatus = .publishing)) ∧
    ∀ later, Leads pool later → ∀ row ∈ pool.world.db.bundles, row.publicationStatus = .ready →
      ∃ row' ∈ later.world.db.bundles, SameBundle row row' ∧ row'.publicationStatus = .ready := by
  -- The size that a staging key stands for is the size of the uploads that draw it.
  have factors : Function.FactorsThrough (fun i => (tasks i).stagedSize service) fun i => (tasks i).stagingKey service :=
    fun i j same => lengths i j same
  let sizeOf (key : GoString) : Int :=
    Function.extend (fun i => (tasks i).stagingKey service) (fun i => (tasks i).stagedSize service) (fun _ => 0) (some key)
  have sized (i : ι) (key : GoString) (drawn : (tasks i).stagingKey service = some key) :
      (tasks i).stagedSize service = sizeOf key := by
    change _ = Function.extend _ _ _ (some key)
    rw [← drawn]
    exact (factors.extend_apply _ i).symm
  have start : (publicationRules ι sizeOf).AllSafe (fun _ _ _ => True) (deployment service collector tasks world) :=
    ⟨migrated.sound sizeOf, fun i => (publicationContract sizeOf i collector.minimumAge).task_safe (migrated.sound sizeOf) rfl
      fun key drawn => ⟨stagingKey_staging drawn, sized i key drawn⟩⟩
  obtain ⟨all, -⟩ := start.reaches reached
  refine ⟨fun row member => ?_, fun later leads row member ready => ?_⟩
  · have sound := all.valid.rows row member
    exact ⟨fun ready => ⟨sound.staged (.inr ready), (all.valid.backed row member ready).2⟩, sound.token, sound.lease⟩
  · obtain ⟨-, evolves⟩ := all.reaches leads
    obtain ⟨row', inside, same, still⟩ := evolves.rows row member
    exact ⟨row', inside, same, still ready⟩

/-! ### An upload that is published -/

def attend (request : BundleCall) (world : BundleWorld) : request.Answer × BundleWorld :=
  match request with
  | .now => (world.clock, world)
  | .findBundleUpload tenantID keyDigest => reads (External.findBundleUpload tenantID keyDigest) world
  | .commitBundleUpload input => commits (world.db.bundles.length + 1) input world
  | .claimBundlePublication tenantID bundleID leaseToken time leaseUntil =>
    runs (External.claimBundlePublication tenantID bundleID leaseToken time leaseUntil) world
  | .selectNextBundlePublication time => (.ok (External.selectNextBundlePublication time world.db), world)
  | .completeBundlePublication claim readyAt => runs (External.completeBundlePublication claim readyAt) world
  | .failBundlePublication claim errorCode nextAttempt maxAttempts =>
    runs (External.failBundlePublication claim errorCode nextAttempt maxAttempts) world
  | .sweepUnrecoverableBundlePublications before limit => runs (External.sweepUnrecoverableBundlePublications [] before limit) world
  | .findBundle tenantID bundleID => reads (External.findBundle tenantID bundleID) world
  | .isBundleStagingReferenced key => reads (External.isBundleStagingReferenced key) world
  | .putObject key size sha256 => puts key size sha256 world
  | .statObject key => (.ok (world.objects key), world)
  | .copyObject source target sha256 => copies source target sha256 world
  | .removeObject key => removes key world
  | .listObjects _ _ => (.ok [], world)

theorem attend_performs (request : BundleCall) (world : BundleWorld) :
    request.performs world (attend request world).1 (attend request world).2 := by
  cases request with
  | now => exact ⟨rfl, rfl⟩
  | commitBundleUpload => exact ⟨_, .answered⟩
  | sweepUnrecoverableBundlePublications => exact ⟨[], .answered⟩
  | listObjects => exact ⟨[], by simp [Listing], .answered⟩
  | _ => exact .answered

def sampleService : BundleService :=
  { digests := sampleRepository.digests
    inspectArchive := fun _ => ((parseManifest sampleManifest).map fun manifest => (manifest, sampleManifest)).elim (.error "manifest") .ok
    maxUploadBytes := 1000
    maxTimeLimitMillis := 10000
    maxMemoryLimitMiB := 1024
    idempotencyTTL := 24 * hour
    idempotencyPepper := List.replicate 32 1
    publicationLease := minute
    publicationRetry := second
    maxPublishAttempts := 3
    pendingAbandonAfter := hour }

def sampleBundleUpload : BundleUpload :=
  { tenantID := sampleTenant.externalID
    idempotencyKey := lit "upload-0123456789"
    source := .ok (List.replicate 32 9)
    admission := none
    random := [List.replicate 16 1, List.replicate 16 2, List.replicate 16 3] }

def sampleTasks (collects : Bool) : BundleTask := if collects then .collect [] else .upload sampleBundleUpload

def emptyWorld : BundleWorld := ⟨second, ⟨1000, [sampleTenant], [], []⟩, fun _ => none, fun _ => none, []⟩

def samplePool : Pool Bool BundleWorld BundleCall BundleCall.Answer Unit :=
  deployment sampleService ⟨hour, 100⟩ sampleTasks emptyWorld

def publishedPool : Pool Bool BundleWorld BundleCall BundleCall.Answer Unit :=
  ⟨((samplePool.processes false).carry attend 20 samplePool.world).2,
    Function.update samplePool.processes false ((samplePool.processes false).carry attend 20 samplePool.world).1⟩

theorem ready_bundles_sample : ∃ row ∈ publishedPool.world.db.bundles, row.publicationStatus = .ready ∧
    row.stagingObjectKey.isSome = true ∧ Filled publishedPool.world row.objectKey row.sizeBytes row.sha256 := by
  have ready : publishedPool.world.db.bundles.any (fun row => row.publicationStatus = .ready) = true := by decide +kernel
  obtain ⟨row, member, published⟩ := List.any_eq_true.mp ready
  have status : row.publicationStatus = .ready := by simpa using published
  have lengths : ∀ i j, (sampleTasks i).stagingKey sampleService = (sampleTasks j).stagingKey sampleService →
      (sampleTasks i).stagedSize sampleService = (sampleTasks j).stagedSize sampleService := by decide +kernel
  have migrated : MigratedDb emptyWorld.db := ⟨by decide, by decide, by decide, by simp [emptyWorld]⟩
  have reached : Leads samplePool publishedPool := Pool.carry_reaches attend_performs 20 samplePool false
  have backed := ((ready_bundles sampleService ⟨hour, 100⟩ sampleTasks migrated lengths reached).1 row member).1 status
  exact ⟨row, member, status, backed⟩

end JudgingServer.Proofs
