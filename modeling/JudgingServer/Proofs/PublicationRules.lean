import JudgingServer.External.BundleService
import JudgingServer.Proofs.BundleKeys
import JudgingServer.Proofs.BundleStatements

/-! The rules of bundle publication: what is true of the rows and objects at all times,
what no call takes back, and what each call needs of the world it is made in. -/

namespace JudgingServer.Proofs
open Go Bundle External Library Table Transaction

/-! ### Rows -/

structure SoundBundle (row : StoredBundle) : Prop where
  token : row.publishLeaseToken.isSome = true ↔ row.publicationStatus = .publishing
  lease : row.publishLeaseUntil.isSome = true ↔ row.publicationStatus = .publishing
  staged : row.publicationStatus = .publishing ∨ row.publicationStatus = .ready → row.stagingObjectKey.isSome = true

section Rows

variable {row : StoredBundle}

namespace Turn

variable (turn : Turn completes revives row row')
include turn

theorem sound (sound : SoundBundle row) : SoundBundle row' := by
  cases turn with
  | same => exact sound
  | retained => exact ⟨sound.token, sound.lease, sound.staged⟩
  | revived => exact ⟨by simp [StoredBundle.revive], by simp [StoredBundle.revive], by simp [StoredBundle.revive]⟩
  | leased _ _ staged => exact ⟨by simp [StoredBundle.lease], by simp [StoredBundle.lease], fun _ => staged⟩
  | completed _ _ publishing =>
    exact ⟨by simp [StoredBundle.complete], by simp [StoredBundle.complete], fun _ => sound.staged (.inl publishing)⟩
  | failed abandoned =>
    refine ⟨?_, ?_, ?_⟩ <;> cases abandoned <;> simp [StoredBundle.fail]
  | abandoned => exact ⟨by simp [StoredBundle.abandon], by simp [StoredBundle.abandon], by simp [StoredBundle.abandon]⟩

/-- A ready row has a staging key and no lease, so that none of the guards lets it go. -/
theorem ready (sound : SoundBundle row) (ready : row.publicationStatus = .ready) : row'.publicationStatus = .ready := by
  cases turn with
  | same => exact ready
  | retained => exact ready
  | revived _ _ _ spent =>
    have staged := sound.staged (.inr ready)
    rcases spent with abandoned | unstaged
    · exact absurd (ready.symm.trans abandoned) (by decide)
    · rw [unstaged] at staged
      cases staged
  | leased _ _ _ waiting => rcases waiting with waiting | waiting <;> exact absurd (ready.symm.trans waiting) (by decide)
  | completed => rfl
  | failed _ _ _ publishing => exact absurd (ready.symm.trans publishing) (by decide)
  | abandoned _ _ waiting => rcases waiting with waiting | waiting <;> exact absurd (ready.symm.trans waiting) (by decide)

private theorem of_ready (ready : row'.publicationStatus = .ready) : row.publicationStatus = .ready ∨ completes row := by
  cases turn with
  | same => exact .inl ready
  | retained => exact .inl ready
  | completed _ held => exact .inr held
  | failed abandoned => cases abandoned <;> cases ready
  | revived => cases ready
  | leased => cases ready
  | abandoned => cases ready

theorem staging : row'.stagingObjectKey = row.stagingObjectKey ∨ ∃ key, revives key ∧ row'.stagingObjectKey = some key := by
  cases turn with
  | revived key _ fresh => exact .inr ⟨key, fresh, rfl⟩
  | _ => exact .inl rfl

end Turn

end Rows

/-! ### The world -/

/-- The final object of a bundle is there, with its size and its digest. -/
def Filled (world : BundleWorld) (key : GoString) (size : Int) (digest : Bytes) : Prop :=
  ∃ object, world.objects key = some object ∧ verifyBundleObject object size digest = .ok ()

/-- The row and the tenant that a final key belongs to. -/
structure Registered (world : BundleWorld) (tenantID : GoString) (row : StoredBundle) : Prop where
  member : row ∈ world.db.bundles
  tenant : ∃ tenant ∈ world.db.tenants, tenant.externalID = tenantID ∧ tenant.id = row.tenantID
  named : matchesExternalID tenantID = true
  keyed : row.objectKey = bundleObjectKey tenantID row.sha256

def Backed (world : BundleWorld) (row : StoredBundle) : Prop :=
  (∃ tenantID, Registered world tenantID row) ∧ Filled world row.objectKey row.sizeBytes row.sha256

section World

variable {sizeOf : GoString → Int}

section

variable (sizeOf : GoString → Int)

/-- Nothing but the content of its upload is ever found under a staging key. -/
structure Deposited (world : BundleWorld) (key : GoString) : Prop where
  staging : IsStagingKey key
  size : ∀ object, world.objects key = some object → object.size = sizeOf key

structure SoundWorld (world : BundleWorld) : Prop where
  distinct : DistinctIDs world.db.bundles
  digests : Keyed (fun row : StoredBundle => (row.tenantID, row.sha256)) world.db.bundles
  names : Keyed TenantRow.externalID world.db.tenants
  rows : ∀ row ∈ world.db.bundles, SoundBundle row
  deposited : ∀ row ∈ world.db.bundles, ∀ key, row.stagingObjectKey = some key → Deposited sizeOf world key
  backed : ∀ row ∈ world.db.bundles, row.publicationStatus = .ready → Backed world row

/-- What no call takes back. -/
structure Evolves (world next : BundleWorld) : Prop where
  rows : ∀ row ∈ world.db.bundles, ∃ row' ∈ next.db.bundles, SameBundle row row' ∧
    (row.publicationStatus = .ready → row'.publicationStatus = .ready)
  tenants : ∀ tenant ∈ world.db.tenants, ∃ row ∈ next.db.tenants, row.id = tenant.id ∧ row.externalID = tenant.externalID
  deposited : ∀ key, Deposited sizeOf world key → Deposited sizeOf next key
  filled : ∀ tenantID row, Registered world tenantID row → Filled world row.objectKey row.sizeBytes row.sha256 →
    Filled next row.objectKey row.sizeBytes row.sha256

end

variable {next : BundleWorld} {row : StoredBundle}

theorem SameBundle.refl (row : StoredBundle) : SameBundle row row := ⟨rfl, rfl, rfl, rfl, rfl, rfl, rfl⟩

theorem SameBundle.trans {first second third : StoredBundle} (early : SameBundle first second) (late : SameBundle second third) :
    SameBundle first third :=
  ⟨late.id.trans early.id, late.externalID.trans early.externalID, late.tenantID.trans early.tenantID,
    late.sha256.trans early.sha256, late.objectKey.trans early.objectKey, late.sizeBytes.trans early.sizeBytes,
    late.deletedAt.trans early.deletedAt⟩

private theorem Registered.of_same (registered : Registered world tenantID row) (member : row' ∈ next.db.bundles)
    (same : SameBundle row row')
    (tenants : ∀ tenant ∈ world.db.tenants, ∃ row ∈ next.db.tenants, row.id = tenant.id ∧ row.externalID = tenant.externalID) :
    Registered next tenantID row' := by
  obtain ⟨tenant, present, named, owner⟩ := registered.tenant
  obtain ⟨kept, inside, id, externalID⟩ := tenants tenant present
  refine ⟨member, ⟨kept, inside, externalID.trans named, ?_⟩, registered.named, ?_⟩
  · rw [id, owner, same.tenantID]
  · rw [same.objectKey, same.sha256, registered.keyed]

theorem Evolves.registered (evolves : Evolves sizeOf world next) (registered : Registered world tenantID row) :
    ∃ row', SameBundle row row' ∧ Registered next tenantID row' := by
  obtain ⟨row', inside, same, -⟩ := evolves.rows row registered.member
  exact ⟨row', same, registered.of_same inside same evolves.tenants⟩

theorem Evolves.refl (sizeOf : GoString → Int) (world : BundleWorld) : Evolves sizeOf world world :=
  ⟨fun row member => ⟨row, member, .refl row, id⟩, fun tenant member => ⟨tenant, member, rfl, rfl⟩, fun _ => id, fun _ _ _ => id⟩

theorem Evolves.trans (early : Evolves sizeOf world next) (late : Evolves sizeOf next last) : Evolves sizeOf world last := by
  refine ⟨fun row member => ?_, fun tenant member => ?_, fun key held => ?_, fun tenantID row registered filled => ?_⟩
  · obtain ⟨row', inside, same, ready⟩ := early.rows row member
    obtain ⟨row'', final, more, still⟩ := late.rows row' inside
    exact ⟨row'', final, same.trans more, still ∘ ready⟩
  · obtain ⟨kept, inside, id, externalID⟩ := early.tenants tenant member
    obtain ⟨still, final, sameID, sameExternalID⟩ := late.tenants kept inside
    exact ⟨still, final, sameID.trans id, sameExternalID.trans externalID⟩
  · exact late.deposited key (early.deposited key held)
  · obtain ⟨row', same, still⟩ := early.registered registered
    have between := early.filled tenantID row registered filled
    rw [← same.objectKey, ← same.sizeBytes, ← same.sha256] at between ⊢
    exact late.filled tenantID row' still between

private theorem Backed.of_same (backed : Backed world row) (evolves : Evolves sizeOf world next) (member : row' ∈ next.db.bundles)
    (same : SameBundle row row') : Backed next row' := by
  obtain ⟨⟨tenantID, registered⟩, filled⟩ := backed
  refine ⟨⟨tenantID, registered.of_same member same evolves.tenants⟩, ?_⟩
  rw [same.objectKey, same.sizeBytes, same.sha256]
  exact evolves.filled tenantID row registered filled

private theorem SoundWorld.registered_unique (sound : SoundWorld sizeOf world) (registered : Registered world tenantID row)
    (otherRegistered : Registered world otherID other) (same : row.objectKey = other.objectKey) : row = other := by
  have keys := same
  rw [registered.keyed, otherRegistered.keyed] at keys
  obtain ⟨rfl, digest⟩ := bundleObjectKey_inj registered.named otherRegistered.named keys
  obtain ⟨tenant, present, named, owner⟩ := registered.tenant
  obtain ⟨otherTenant, otherPresent, otherNamed, otherOwner⟩ := otherRegistered.tenant
  obtain rfl := sound.names.eq present otherPresent (named.trans otherNamed.symm)
  exact sound.digests.eq registered.member otherRegistered.member (Prod.ext (owner.symm.trans otherOwner) digest)

/-! ### Changes of the database -/

private theorem Deposited.of_objects (deposited : Deposited sizeOf world key) (objects : next.objects = world.objects) :
    Deposited sizeOf next key :=
  ⟨deposited.staging, by simpa [objects] using deposited.size⟩

private theorem Filled.of_objects (filled : Filled world key size digest) (objects : next.objects = world.objects) :
    Filled next key size digest := by
  simpa [Filled, objects] using filled

theorem SoundWorld.turned (sound : SoundWorld sizeOf world) (turned : Turned completes revives world.db next.db)
    (objects : next.objects = world.objects) (backed : ∀ row ∈ world.db.bundles, completes row → Backed world row)
    (deposited : ∀ key, revives key → Deposited sizeOf world key) : SoundWorld sizeOf next ∧ Evolves sizeOf world next := by
  have evolves : Evolves sizeOf world next := by
    refine ⟨fun row member => ?_, ?_, fun key held => held.of_objects objects, fun _ _ _ filled => filled.of_objects objects⟩
    · obtain ⟨row', inside, turn⟩ := forall₂_mem_left turned.rows member
      exact ⟨row', inside, turn.same_bundle, turn.ready (sound.rows row member)⟩
    · rw [turned.tenants]
      exact fun tenant member => ⟨tenant, member, rfl, rfl⟩
  refine ⟨⟨?_, ?_, ?_, fun row' member => ?_, fun row' member key given => ?_, fun row' member ready => ?_⟩, evolves⟩
  · unfold DistinctIDs Keyed
    rw [map_forall₂ (fun _ _ turn => turn.same_bundle.externalID) turned.rows]
    exact sound.distinct
  · unfold Keyed
    rw [map_forall₂ (fun _ _ turn => Prod.ext turn.same_bundle.tenantID turn.same_bundle.sha256) turned.rows]
    exact sound.digests
  · rw [turned.tenants]
    exact sound.names
  · obtain ⟨row, inside, turn⟩ := forall₂_mem_right turned.rows member
    exact turn.sound (sound.rows row inside)
  · obtain ⟨row, inside, turn⟩ := forall₂_mem_right turned.rows member
    refine Deposited.of_objects ?_ objects
    obtain kept | ⟨fresh, revived, named⟩ := turn.staging
    · exact sound.deposited row inside key (kept.symm.trans given)
    · obtain rfl := Option.some.inj (named.symm.trans given)
      exact deposited fresh revived
  · obtain ⟨row, inside, turn⟩ := forall₂_mem_right turned.rows member
    have before : Backed world row := by
      rcases turn.of_ready ready with already | completed
      · exact sound.backed row inside already
      · exact backed row inside completed
    exact before.of_same evolves member turn.same_bundle

theorem SoundWorld.created {id : Nat} {input : BundleCommitInput} {tenant : TenantRow} (sound : SoundWorld sizeOf world)
    (creates : Creates id input world.db tenant) (bundles : next.db.bundles = world.db.bundles ++ [newBundle id tenant.id input world.db.now])
    (tenants : next.db.tenants = world.db.tenants) (objects : next.objects = world.objects)
    (deposited : Deposited sizeOf world input.stagingObjectKey) : SoundWorld sizeOf next ∧ Evolves sizeOf world next := by
  have evolves : Evolves sizeOf world next := by
    refine ⟨fun row member => ⟨row, ?_, .refl row, fun ready => ready⟩, ?_, fun key held => held.of_objects objects,
      fun _ _ _ filled => filled.of_objects objects⟩
    · rw [bundles]
      exact List.mem_append_left _ member
    · rw [tenants]
      exact fun tenant member => ⟨tenant, member, rfl, rfl⟩
  have unique : ∀ other ∈ world.db.bundles, (newBundle id tenant.id input world.db.now).clashes other = false :=
    fun other member => by simpa using List.any_eq_false.mp creates.unique other member
  have cases : ∀ row ∈ next.db.bundles, row ∈ world.db.bundles ∨ row = newBundle id tenant.id input world.db.now := by
    intro row member
    rw [bundles] at member
    simpa using member
  refine ⟨⟨?_, ?_, ?_, fun row member => ?_, fun row member key given => ?_, fun row member ready => ?_⟩, evolves⟩
  · rw [bundles]
    refine sound.distinct.insert fun other member same => ?_
    have apart := unique other member
    simp only [StoredBundle.clashes, decide_eq_false_iff_not, not_or] at apart
    exact apart.2.1 same
  · rw [bundles]
    refine sound.digests.insert fun other member same => ?_
    have apart := unique other member
    simp only [StoredBundle.clashes, decide_eq_false_iff_not, not_or] at apart
    exact apart.2.2 (Prod.mk.inj same)
  · rw [tenants]
    exact sound.names
  · rcases cases row member with inside | rfl
    · exact sound.rows row inside
    · exact ⟨by simp [newBundle], by simp [newBundle], fun _ => rfl⟩
  · rcases cases row member with inside | rfl
    · exact (sound.deposited row inside key given).of_objects objects
    · obtain rfl := Option.some.inj given
      exact deposited.of_objects objects
  · rcases cases row member with inside | rfl
    · exact (sound.backed row inside ready).of_same evolves member (.refl row)
    · cases ready

/-! ### Changes of the object store -/

theorem SoundWorld.stored (sound : SoundWorld sizeOf world) (db : next.db = world.db)
    (deposited : ∀ key, Deposited sizeOf world key → Deposited sizeOf next key)
    (filled : ∀ tenantID row, Registered world tenantID row → Filled world row.objectKey row.sizeBytes row.sha256 →
      Filled next row.objectKey row.sizeBytes row.sha256) : SoundWorld sizeOf next ∧ Evolves sizeOf world next := by
  have evolves : Evolves sizeOf world next :=
    ⟨fun row member => ⟨row, db ▸ member, .refl row, id⟩, fun tenant member => ⟨tenant, db ▸ member, rfl, rfl⟩, deposited, filled⟩
  refine ⟨⟨db ▸ sound.distinct, db ▸ sound.digests, db ▸ sound.names, db ▸ sound.rows, fun row member key given => ?_,
    fun row member ready => ?_⟩, evolves⟩
  · exact deposited key (sound.deposited row (db ▸ member) key given)
  · exact (sound.backed row (db ▸ member) ready).of_same evolves member (.refl row)

private theorem Registered.not_staging (registered : Registered world tenantID row) (staging : IsStagingKey key) :
    row.objectKey ≠ key := by
  rintro rfl
  rw [registered.keyed] at staging
  exact bundleObjectKey_not_staging registered.named _ staging

theorem SoundWorld.staged {object : Option StoredObject} (sound : SoundWorld sizeOf world) (staging : IsStagingKey key)
    (size : ∀ put, object = some put → put.size = sizeOf key) (db : next.db = world.db)
    (objects : next.objects = Function.update world.objects key object) : SoundWorld sizeOf next ∧ Evolves sizeOf world next := by
  refine sound.stored db (fun other held => ⟨held.staging, fun found present => ?_⟩) fun tenantID row registered filled => ?_
  · rw [objects] at present
    by_cases same : other = key
    · subst same
      rw [Function.update_self] at present
      exact size found present
    · rw [Function.update_of_ne same] at present
      exact held.size found present
  · obtain ⟨found, present, verified⟩ := filled
    refine ⟨found, ?_, verified⟩
    rw [objects, Function.update_of_ne (registered.not_staging staging)]
    exact present

private theorem equalFold_refl (text : GoString) : equalFold text text = true := by simp [equalFold]

theorem SoundWorld.copied (sound : SoundWorld sizeOf world) (object : StoredObject) (registered : Registered world tenantID row)
    (size : object.size = row.sizeBytes) (digest : object.sha256 = encodeHex row.sha256) (db : next.db = world.db)
    (objects : next.objects = Function.update world.objects row.objectKey (some object)) :
    SoundWorld sizeOf next ∧ Evolves sizeOf world next := by
  refine sound.stored db (fun key held => ⟨held.staging, fun found present => ?_⟩) fun otherID other otherRegistered filled => ?_
  · rw [objects, Function.update_of_ne fun same => registered.not_staging held.staging same.symm] at present
    exact held.size found present
  · by_cases same : other.objectKey = row.objectKey
    · obtain rfl := sound.registered_unique otherRegistered registered same
      refine ⟨object, by rw [objects, Function.update_self], ?_⟩
      simp [verifyBundleObject, size, digest, equalFold_refl]
    · obtain ⟨found, present, verified⟩ := filled
      exact ⟨found, by rw [objects, Function.update_of_ne same, present], verified⟩

/-! ### The rules -/

/-- What a process knows of a publication it has claimed. -/
structure Holding (sizeOf : GoString → Int) (world : BundleWorld) (claim : BundlePublicationClaim) : Prop where
  valid : validBundlePublicationClaim claim = true
  row : ∃ row, Registered world claim.tenantID row ∧ row.externalID = claim.bundleID ∧ row.sha256 = claim.requestHash ∧
    row.sizeBytes = claim.sizeBytes
  deposited : Deposited sizeOf world claim.stagingKey

theorem validClaim_objectKey (valid : validBundlePublicationClaim claim = true) :
    matchesExternalID claim.tenantID = true ∧ claim.objectKey = bundleObjectKey claim.tenantID claim.requestHash := by
  simp only [validBundlePublicationClaim, decide_eq_true_eq] at valid
  exact ⟨valid.1, valid.2.2.2.2.2.1⟩

def Permits (sizeOf : GoString → Int) (request : BundleCall) (world : BundleWorld) : Prop :=
  match request with
  | .commitBundleUpload input => Deposited sizeOf world input.stagingObjectKey
  | .completeBundlePublication claim _ =>
    Holding sizeOf world claim ∧ Filled world claim.objectKey claim.sizeBytes claim.requestHash
  | .putObject key size _ => IsStagingKey key ∧ size = sizeOf key
  | .copyObject source target sha256 => ∃ claim, Holding sizeOf world claim ∧ source = claim.stagingKey ∧
      target = claim.objectKey ∧ sha256 = encodeHex claim.requestHash ∧ sizeOf claim.stagingKey = claim.sizeBytes
  | .removeObject key => IsStagingKey key
  | _ => True

theorem Holding.evolves (holding : Holding sizeOf world claim) (evolves : Evolves sizeOf world next) :
    Holding sizeOf next claim := by
  obtain ⟨row, registered, named, digest, size⟩ := holding.row
  obtain ⟨row', same, still⟩ := evolves.registered registered
  exact ⟨holding.valid, ⟨row', still, same.externalID.trans named, same.sha256.trans digest, same.sizeBytes.trans size⟩,
    evolves.deposited _ holding.deposited⟩

theorem Holding.objectKey (holding : Holding sizeOf world claim) (registered : Registered world claim.tenantID row)
    (digest : row.sha256 = claim.requestHash) : row.objectKey = claim.objectKey := by
  rw [registered.keyed, digest, (validClaim_objectKey holding.valid).2]

theorem Filled.evolves (filled : Filled world claim.objectKey claim.sizeBytes claim.requestHash)
    (holding : Holding sizeOf world claim) (evolves : Evolves sizeOf world next) :
    Filled next claim.objectKey claim.sizeBytes claim.requestHash := by
  obtain ⟨row, registered, -, digest, size⟩ := holding.row
  rw [← holding.objectKey registered digest, ← size, ← digest] at filled ⊢
  exact evolves.filled _ row registered filled

theorem commits_db (id : Nat) (input : BundleCommitInput) (world : BundleWorld) :
    (commits id input world).2.db = ((commitBundleUpload id input).commit world.db).2 ∧
      (commits id input world).2.objects = world.objects := by
  unfold commits runs
  dsimp only
  split
  · split_ifs <;> exact ⟨rfl, rfl⟩
  · exact ⟨rfl, rfl⟩

section

variable (sound : SoundWorld sizeOf world)
include sound

theorem SoundWorld.commits {id : Nat} {input : BundleCommitInput} (deposited : Deposited sizeOf world input.stagingObjectKey) :
    SoundWorld sizeOf (External.commits id input world).2 ∧ Evolves sizeOf world (External.commits id input world).2 := by
  obtain ⟨db, objects⟩ := commits_db id input world
  have turns : UploadTurns id input world.db (External.commits id input world).2.db := db ▸ commitBundleUpload_turns sound.distinct
  cases turns with
  | turned turned => exact sound.turned turned objects (fun _ _ never => never.elim) fun key same => same ▸ deposited
  | created creates bundles tenants => exact sound.created creates bundles tenants objects deposited

theorem SoundWorld.copies (holding : Holding sizeOf world claim)
    (size : sizeOf claim.stagingKey = claim.sizeBytes) (present : world.objects claim.stagingKey = some object)
    (db : next.db = world.db) (objects : next.objects =
      Function.update world.objects claim.objectKey (some ⟨object.size, encodeHex claim.requestHash, world.clock⟩)) :
    SoundWorld sizeOf next ∧ Evolves sizeOf world next := by
  obtain ⟨row, registered, -, digest, recorded⟩ := holding.row
  have content : object.size = row.sizeBytes := (holding.deposited.size object present).trans (size.trans recorded.symm)
  refine sound.copied ⟨object.size, encodeHex claim.requestHash, world.clock⟩ registered content ?_ db ?_
  · rw [digest]
  · rw [objects, holding.objectKey registered digest]

theorem SoundWorld.drifts (drifts : world.Drifts next) : SoundWorld sizeOf next ∧ Evolves sizeOf world next := by
  cases drifts with
  | tick => exact sound.stored rfl (fun _ held => ⟨held.staging, held.size⟩) fun _ _ _ filled => filled
  | databaseTick elapsed =>
    have turned : Turned (fun _ => False) (fun _ => False) world.db { world.db with now := world.db.now + elapsed } :=
      ⟨List.forall₂_same.mpr fun _ _ => .same, rfl⟩
    exact sound.turned turned rfl (fun _ _ never => never.elim) fun _ never => never.elim
  | provision tenants kept names =>
    have evolves : Evolves sizeOf world { world with db := { world.db with tenants } } :=
      ⟨fun row member => ⟨row, member, .refl row, id⟩, kept, fun _ held => ⟨held.staging, held.size⟩, fun _ _ _ filled => filled⟩
    refine ⟨⟨sound.distinct, sound.digests, names, sound.rows, fun row member key given => ?_, fun row member ready => ?_⟩, evolves⟩
    · exact evolves.deposited key (sound.deposited row member key given)
    · exact (sound.backed row member ready).of_same evolves member (.refl row)
  | expire uploads =>
    have turned : Turned (fun _ => False) (fun _ => False) world.db { world.db with uploads } :=
      ⟨List.forall₂_same.mpr fun _ _ => .same, rfl⟩
    exact sound.turned turned rfl (fun _ _ never => never.elim) fun _ never => never.elim

theorem Holding.completes {tenant : TenantRow} (holding : Holding sizeOf world claim)
    (filled : Filled world claim.objectKey claim.sizeBytes claim.requestHash) (member : row ∈ world.db.bundles)
    (holds : claim.holds tenant.id row = true) : Backed world row := by
  obtain ⟨claimed, registered, named, digest, size⟩ := holding.row
  obtain rfl := sound.distinct.eq member registered.member ((holds_externalID holds).trans named.symm)
  refine ⟨⟨_, registered⟩, ?_⟩
  rw [holding.objectKey registered digest, size, digest]
  exact filled

theorem SoundWorld.performs (permitted : Permits sizeOf request world)
    (performed : request.performs world answer next) : SoundWorld sizeOf next ∧ Evolves sizeOf world next := by
  have turning {next : BundleDb} (turned : Turned (fun _ => False) (fun _ => False) world.db next) :
      SoundWorld sizeOf { world with db := next } ∧ Evolves sizeOf world { world with db := next } :=
    sound.turned turned rfl (fun _ _ never => never.elim) fun _ never => never.elim
  obtain rfl | effect := performs_cases performed
  · exact ⟨sound, .refl sizeOf _⟩
  cases effect with
  | commit => exact sound.commits permitted
  | claim => exact turning (claimBundlePublication_turned sound.distinct)
  | fail => exact turning (failBundlePublication_turned sound.distinct)
  | sweep => exact turning sweepUnrecoverableBundlePublications_turned
  | complete claim readyAt =>
    obtain ⟨holding, filled⟩ := permitted
    refine sound.turned (completeBundlePublication_turned sound.distinct) rfl ?_ fun _ never => never.elim
    rintro row member ⟨tenant, -, -, holds⟩
    exact holding.completes sound filled member holds
  | put key size =>
    refine sound.staged permitted.1 (fun put given => ?_) rfl rfl
    obtain rfl := Option.some.inj given
    exact permitted.2
  | copy source target sha256 present =>
    obtain ⟨claim, holding, rfl, rfl, rfl, size⟩ := permitted
    exact sound.copies holding size present rfl rfl
  | remove => exact sound.staged permitted (fun put given => by cases given) rfl rfl

end

end World

/-- The rules of publication: nothing is kept from one process by another. -/
def publicationRules (ι : Type) (sizeOf : GoString → Int) : Discipline ι BundleWorld BundleCall BundleCall.Answer where
  performs := BundleCall.performs
  drifts := BundleWorld.Drifts
  valid := SoundWorld sizeOf
  evolves := Evolves sizeOf
  spares _ _ _ := True
  permits _ := Permits sizeOf
  evolves_refl := .refl sizeOf
  evolves_trans := Evolves.trans
  spares_refl _ _ := trivial
  spares_trans _ _ := trivial
  keeps sound permitted performed :=
    have kept := SoundWorld.performs sound permitted performed
    ⟨kept.1, kept.2, fun _ _ => trivial⟩
  drift sound drifted :=
    have kept := SoundWorld.drifts sound drifted
    ⟨kept.1, kept.2, fun _ => trivial⟩

end JudgingServer.Proofs
