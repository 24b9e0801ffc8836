import JudgingServer.Proofs.Publication

/-! Uploads of one tenant, in any number and interleaving: a digest has one bundle, uploads
of the same bytes return the same bundle, and the record of an idempotency key refuses other
bytes. -/

namespace JudgingServer.Proofs
open Go Bundle External Library Table Transaction

variable {record : UploadRecord}

/-! ### What a record says -/

/-- The key of an upload record. -/
def uploadKey (record : UploadRecord) : Nat × GoString × Bytes := (record.tenantID, record.operationScope, record.keyDigest)

/-- The metadata are those of the same bundle, up to the time of its creation. -/
structure Agrees (left right : BundleMetadata) : Prop where
  bundleID : left.bundleID = right.bundleID
  sizeBytes : left.sizeBytes = right.sizeBytes
  caseCount : left.caseCount = right.caseCount
  manifestVersion : left.manifestVersion = right.manifestVersion

private theorem agrees_equivalence : Equivalence Agrees :=
  ⟨fun _ => ⟨rfl, rfl, rfl, rfl⟩,
    fun same => ⟨same.bundleID.symm, same.sizeBytes.symm, same.caseCount.symm, same.manifestVersion.symm⟩,
    fun first second => ⟨first.bundleID.trans second.bundleID, first.sizeBytes.trans second.sizeBytes,
      first.caseCount.trans second.caseCount, first.manifestVersion.trans second.manifestVersion⟩⟩

section

variable (alike : BundleMetadata → BundleMetadata → Prop)

/-- The table has the bundle of the digest, and the metadata are like those of its row. -/
def Depicts (metadata : BundleMetadata) (tenantID : Nat) (digest : Bytes)
    (db : BundleDb) : Prop :=
  ∃ row ∈ db.bundles, row.tenantID = tenantID ∧ row.sha256 = digest ∧ alike metadata row.metadata

/-- The unique keys of the tables, with records that are like the bundle they were made for. -/
structure RecordedUploads (db : BundleDb) : Prop where
  distinct : DistinctIDs db.bundles
  digests : Keyed (fun row : StoredBundle => (row.tenantID, row.sha256)) db.bundles
  names : Keyed TenantRow.externalID db.tenants
  records : Keyed uploadKey db.uploads
  recorded : ∀ record ∈ db.uploads, record.operationScope = bundleUploadOperationScope →
    Depicts alike record.response record.tenantID record.requestHash db

end

section Commits

variable {id : Nat} {metadata : BundleMetadata}

theorem RecordedUploads.same (uploads : RecordedUploads alike db) (equivalence : Equivalence alike)
    (first : Depicts alike metadata tenantID digest db) (second : Depicts alike other tenantID digest db) :
    alike metadata other := by
  obtain ⟨row, member, owner, same, like⟩ := first
  obtain ⟨row', member', owner', same', like'⟩ := second
  obtain rfl := uploads.digests.eq member member' (Prod.ext (owner.trans owner'.symm) (same.trans same'.symm))
  exact equivalence.trans like (equivalence.symm like')

def RowsStay (db next : BundleDb) : Prop :=
  ∀ row ∈ db.bundles, ∃ row' ∈ next.bundles, row'.tenantID = row.tenantID ∧ row'.sha256 = row.sha256 ∧ row'.metadata = row.metadata

private theorem RowsStay.of_bundles (same : next.bundles = db.bundles) : RowsStay db next :=
  fun row member => ⟨row, same ▸ member, rfl, rfl, rfl⟩

theorem RowsStay.describes (stay : RowsStay db next) (described : Depicts alike metadata tenantID digest db) :
    Depicts alike metadata tenantID digest next := by
  obtain ⟨row, member, owner, same, like⟩ := described
  obtain ⟨row', inside, owner', same', metadata'⟩ := stay row member
  exact ⟨row', inside, owner'.trans owner, same'.trans same, metadata' ▸ like⟩

private theorem Turn.sameMetadata (turn : Turn completes revives row row') : row'.metadata = row.metadata := by
  cases turn <;> rfl

private theorem Turned.rowsStay (turned : Turned completes revives db next) : RowsStay db next := by
  intro row member
  obtain ⟨row', inside, turn⟩ := forall₂_mem_left turned.rows member
  exact ⟨row', inside, turn.same_bundle.tenantID, turn.same_bundle.sha256, turn.sameMetadata⟩

theorem Turned.keys (turned : Turned completes revives db next) (uploads : RecordedUploads alike db) :
    DistinctIDs next.bundles ∧ Keyed (fun row : StoredBundle => (row.tenantID, row.sha256)) next.bundles := by
  constructor
  · unfold DistinctIDs Keyed
    rw [map_forall₂ (fun _ _ turn => turn.same_bundle.externalID) turned.rows]
    exact uploads.distinct
  · unfold Keyed
    rw [map_forall₂ (fun _ _ turn => Prod.ext turn.same_bundle.tenantID turn.same_bundle.sha256) turned.rows]
    exact uploads.digests

private theorem UploadTurns.rowsStay (turns : UploadTurns id input db next) : RowsStay db next := by
  cases turns with
  | turned turned => exact turned.rowsStay
  | created creates bundles => exact fun row member => ⟨row, bundles ▸ List.mem_append_left _ member, rfl, rfl, rfl⟩

theorem UploadTurns.keys (turns : UploadTurns id input db next) (uploads : RecordedUploads alike db) :
    DistinctIDs next.bundles ∧ Keyed (fun row : StoredBundle => (row.tenantID, row.sha256)) next.bundles := by
  cases turns with
  | turned turned => exact turned.keys uploads
  | @created tenant creates bundles =>
    have unique (other : StoredBundle) (member : other ∈ db.bundles) : ¬ (newBundle id tenant.id input db.now).clashes other = true :=
      List.any_eq_false.mp creates.unique other member
    simp only [StoredBundle.clashes, decide_eq_true_eq, not_or] at unique
    rw [bundles]
    refine ⟨uploads.distinct.insert fun other member => (unique other member).2.1, ?_⟩
    exact uploads.digests.insert fun other member same => (unique other member).2.2 (Prod.mk.inj same)

/-! ### Commits -/

/-- What is committed as the metadata of a new bundle is like what its row will say, if the clock
gives such readings. -/
structure Likeness (alike : BundleMetadata → BundleMetadata → Prop) (reading : Instant → Prop) : Prop where
  equivalence : Equivalence alike
  created : ∀ {input}, validBundleCommitInput input = true → reading input.metadata.createdAt → ∀ id tenantID now,
    alike input.metadata (newBundle id tenantID input now).metadata

private theorem agrees_likeness : Likeness Agrees fun _ => True := ⟨agrees_equivalence, fun _ _ _ _ _ => ⟨rfl, rfl, rfl, rfl⟩⟩

private theorem isFor_iff : record.isFor tenantID keyDigest = true ↔
    record.tenantID = tenantID ∧ record.operationScope = bundleUploadOperationScope ∧ record.keyDigest = keyDigest := by
  simp [UploadRecord.isFor]

namespace Leaves

variable (leaves : Leaves id input db tenant result next)
include leaves

theorem own : ∃ record ∈ next.uploads,
    record.isFor tenant.id input.idempotencyDigest = true ∧ record.requestHash = input.requestHash := by
  cases leaves with
  | replayed member isFor hash _ uploads => exact ⟨_, uploads ▸ member, isFor, hash⟩
  | recorded _ _ uploads =>
    rw [uploads]
    exact ⟨_, List.mem_append_right _ (List.mem_singleton.mpr rfl), isFor_iff.mpr ⟨rfl, rfl, rfl⟩, rfl⟩

theorem describes (like : Likeness alike reading)
    (valid : validBundleCommitInput input = true) (read : reading input.metadata.createdAt) (uploads : RecordedUploads alike db)
    (stay : RowsStay db next) :
    Depicts alike result.metadata tenant.id input.requestHash next := by
  cases leaves with
  | replayed member isFor hash metadata =>
    obtain ⟨owner, scope, -⟩ := isFor_iff.mp isFor
    rw [metadata, ← owner, ← hash]
    exact stay.describes (uploads.recorded _ (List.mem_filter.mp member).1 scope)
  | recorded reports =>
    rcases reports with ⟨same, member⟩ | ⟨row, member, known, same⟩
    · exact ⟨_, member, rfl, rfl, same ▸ like.created valid read _ _ _⟩
    · simp only [StoredBundle.hasDigest, decide_eq_true_eq] at known
      exact stay.describes ⟨row, member, known.1, known.2.1, same ▸ like.equivalence.refl _⟩

theorem keyed (uploads : RecordedUploads alike db) : Keyed uploadKey next.uploads := by
  have kept : Keyed uploadKey (expireUploads tenant.id input.idempotencyDigest db).uploads :=
    List.Nodup.sublist (List.filter_sublist.map _) uploads.records
  cases leaves with
  | replayed _ _ _ _ same =>
    rw [same]
    exact kept
  | recorded _ free same =>
    rw [same]
    refine kept.insert fun other member clash => ?_
    obtain ⟨owner, key⟩ := Prod.mk.inj clash
    obtain ⟨scope, digest⟩ := Prod.mk.inj key
    exact List.any_eq_false.mp free other member (isFor_iff.mpr ⟨owner, scope, digest⟩)

theorem mem (member : record ∈ next.uploads) :
    record ∈ db.uploads ∨ record = uploadRecord tenant.id input result.metadata result.replay := by
  cases leaves with
  | replayed _ _ _ _ same =>
    rw [same] at member
    exact .inl (List.mem_filter.mp member).1
  | recorded _ _ same =>
    rw [same] at member
    exact (List.mem_append.mp member).imp (fun old => (List.mem_filter.mp old).1) List.mem_singleton.mp

theorem stays (member : record ∈ db.uploads) (unexpired : db.now < record.expiresAt) : record ∈ next.uploads := by
  have kept : record ∈ (expireUploads tenant.id input.idempotencyDigest db).uploads := by
    refine List.mem_filter.mpr ⟨member, ?_⟩
    have still : ¬ record.expiresAt ≤ db.now := not_le.mpr unexpired
    simp [still]
  cases leaves with
  | replayed _ _ _ _ same => exact same ▸ kept
  | recorded _ _ same => exact same ▸ List.mem_append_left _ kept

end Leaves

end Commits

/-! ### The rules of uploads -/

/-- A record of a watched key. -/
def Watches (watched : Nat → Bytes → Prop) (record : UploadRecord) : Prop :=
  record.operationScope = bundleUploadOperationScope ∧ watched record.tenantID record.keyDigest

/-- The records of the watched keys that have not expired on the first database are there and have
not expired on the second. -/
def Lasting (watched : Nat → Bytes → Prop) (db next : BundleDb) : Prop :=
  ∀ record ∈ db.uploads, Watches watched record → db.now < record.expiresAt → record ∈ next.uploads ∧ next.now < record.expiresAt

/-- What no call takes back: the bundles, the tenants, and the live records of the watched keys. -/
structure Grows (watched : Nat → Bytes → Prop) (db next : BundleDb) : Prop where
  rows : RowsStay db next
  tenants : next.tenants = db.tenants
  records : Lasting watched db next

/-- An upload of a watched key that is committed leaves no record of such a key that has expired,
as it would with a clock that is behind by the whole retention. -/
def Renews (watched : Nat → Bytes → Prop) : (request : BundleCall) → request.Answer → BundleDb → Prop
  | .commitBundleUpload input, .ok _, db => (∃ tenantID, watched tenantID input.idempotencyDigest) →
      ∀ record ∈ db.uploads, Watches watched record → db.now < record.expiresAt
  | _, _, _ => True

theorem renews_none {request : BundleCall} (answer : request.Answer) (db : BundleDb) : Renews (fun _ _ => False) request answer db := by
  unfold Renews
  split
  · rintro ⟨_, ⟨⟩⟩
  · trivial

theorem lasting_none (db next : BundleDb) : Lasting (fun _ _ => False) db next := fun _ _ watch => watch.2.elim

/-- Time passes on the database and on the server. -/
inductive Ticks (world : BundleWorld) : BundleWorld → Prop where
  | tick (elapsed : Nat) : Ticks world { world with clock := world.clock + elapsed }
  | databaseTick (elapsed : Nat) : Ticks world { world with db := { world.db with now := world.db.now + elapsed } }

section Rules

theorem Grows.refl (watched : Nat → Bytes → Prop) (db : BundleDb) : Grows watched db db :=
  ⟨.of_bundles rfl, rfl, fun _ member _ live => ⟨member, live⟩⟩

theorem Grows.trans (early : Grows watched db next) (late : Grows watched next last) : Grows watched db last := by
  refine ⟨fun row member => ?_, late.tenants.trans early.tenants, fun record member watch live => ?_⟩
  · obtain ⟨row', inside, owner, digest, metadata⟩ := early.rows row member
    obtain ⟨row'', final, owner', digest', metadata'⟩ := late.rows row' inside
    exact ⟨row'', final, owner'.trans owner, digest'.trans digest, metadata'.trans metadata⟩
  · obtain ⟨inside, still⟩ := early.records record member watch live
    exact late.records record inside watch still

private theorem RecordedUploads.of_bundles (uploads : RecordedUploads alike db) (stay : RowsStay db { db with bundles })
    (keys : DistinctIDs bundles ∧ Keyed (fun row : StoredBundle => (row.tenantID, row.sha256)) bundles) :
    RecordedUploads alike { db with bundles } :=
  ⟨keys.1, keys.2, uploads.names, uploads.records, fun record member scope => stay.describes (uploads.recorded record member scope)⟩

theorem RecordedUploads.turned {α : Type} {tx : BundleTx α} (uploads : RecordedUploads alike db)
    (turned : Turned completes revives db (tx.commit db).2)
    (only : ∀ value next, tx db = .ok (value, next) → ∃ bundles, next = { db with bundles }) :
    RecordedUploads alike (tx.commit db).2 ∧ Grows watched db (tx.commit db).2 := by
  obtain ⟨value, next, run, committed⟩ | ⟨error, -, rolledBack⟩ := commit_cases tx db
  · rw [committed] at turned ⊢
    obtain ⟨bundles, rfl⟩ := only value next run
    exact ⟨uploads.of_bundles turned.rowsStay (turned.keys uploads), turned.rowsStay, rfl, fun _ member _ live => ⟨member, live⟩⟩
  · rw [rolledBack]
    exact ⟨uploads, .refl watched db⟩

theorem RecordedUploads.commits {id : Nat} (uploads : RecordedUploads alike world.db) (like : Likeness alike reading)
    (read : reading input.metadata.createdAt) :
    RecordedUploads alike (External.commits id input world).2.db ∧ Grows watched world.db (External.commits id input world).2.db := by
  rw [(commits_db id input world).1]
  obtain ⟨result, next, run, committed⟩ | ⟨error, -, rolledBack⟩ := commit_cases (commitBundleUpload id input) world.db
  · have turns : UploadTurns id input world.db ((commitBundleUpload id input).commit world.db).2 :=
      commitBundleUpload_turns uploads.distinct
    rw [committed] at turns ⊢
    obtain ⟨valid, tenant, -, -, leaves, now, tenants⟩ := commitBundleUpload_ok uploads.distinct run
    obtain ⟨distinct, digests⟩ := turns.keys uploads
    refine ⟨⟨distinct, digests, tenants ▸ uploads.names, leaves.keyed uploads, fun record member scope => ?_⟩,
      turns.rowsStay, tenants, fun record member _ live => ⟨leaves.stays member live, now ▸ live⟩⟩
    rcases leaves.mem member with old | rfl
    · exact turns.rowsStay.describes (uploads.recorded record old scope)
    · exact leaves.describes like valid read uploads turns.rowsStay
  · rw [rolledBack]
    exact ⟨uploads, .refl watched _⟩

/-- A bundle is committed with a reading of the clock as the time of its creation. -/
def ReadFor (reading : Instant → Prop) (request : BundleCall) : Prop :=
  ∀ input, request = .commitBundleUpload input → reading input.metadata.createdAt

theorem RecordedUploads.performs (uploads : RecordedUploads alike world.db) (like : Likeness alike reading)
    (read : ReadFor reading request) (performed : request.performs world answer after) :
    RecordedUploads alike after.db ∧ Grows watched world.db after.db := by
  obtain rfl | effect := performs_cases performed
  · exact ⟨uploads, .refl watched _⟩
  cases effect with
  | commit id input => exact uploads.commits like (read input rfl)
  | claim =>
    refine uploads.turned (claimBundlePublication_turned uploads.distinct) fun value next run => ?_
    obtain ⟨-, rfl⟩ | ⟨_, _, bundles, _, -, -, -, -, -, rfl, -⟩ := claimBundlePublication_ok uploads.distinct run
    · exact ⟨_, rfl⟩
    · exact ⟨bundles, rfl⟩
  | complete =>
    refine uploads.turned (completeBundlePublication_turned uploads.distinct) fun value next run => ?_
    obtain ⟨-, _, -, _, bundles, -, -, rfl⟩ := completeBundlePublication_ok uploads.distinct run
    exact ⟨bundles, rfl⟩
  | fail =>
    refine uploads.turned (failBundlePublication_turned uploads.distinct) fun value next run => ?_
    obtain ⟨_, -, _, bundles, -, -, rfl⟩ := failBundlePublication_ok uploads.distinct run
    exact ⟨bundles, rfl⟩
  | sweep =>
    refine uploads.turned sweepUnrecoverableBundlePublications_turned fun value next run => ?_
    obtain ⟨_, -, rfl⟩ := sweepUnrecoverableBundlePublications_ok run
    exact ⟨_, rfl⟩
  | put | copy | remove => exact ⟨uploads, .refl watched _⟩

private theorem RecordedUploads.ticks (uploads : RecordedUploads alike world.db) (ticks : Ticks world after)
    (lasting : Lasting watched world.db after.db) : RecordedUploads alike after.db ∧ Grows watched world.db after.db := by
  cases ticks with
  | tick => exact ⟨uploads, .refl watched _⟩
  | databaseTick elapsed =>
    refine ⟨⟨uploads.distinct, uploads.digests, uploads.names, uploads.records, uploads.recorded⟩, ?_⟩
    exact ⟨.of_bundles rfl, rfl, lasting⟩

/-- The clock gives certain readings, and no live record of a watched key expires. -/
def uploadRules (ι : Type) (like : Likeness alike reading) (watched : Nat → Bytes → Prop) :
    Discipline ι BundleWorld BundleCall BundleCall.Answer where
  performs request world answer next :=
    request.performs world answer next ∧ (request = .now → reading world.clock) ∧ Renews watched request answer next.db
  drifts world next := Ticks world next ∧ Lasting watched world.db next.db
  valid world := RecordedUploads alike world.db
  evolves world next := Grows watched world.db next.db
  spares _ _ _ := True
  permits _ request _ := ReadFor reading request
  evolves_refl world := .refl watched world.db
  evolves_trans := Grows.trans
  spares_refl _ _ := trivial
  spares_trans _ _ := trivial
  keeps valid read performed := by
    obtain ⟨uploads, grows⟩ := valid.performs like read performed.1
    exact ⟨uploads, grows, fun _ _ => trivial⟩
  drift valid drifted := by
    obtain ⟨uploads, grows⟩ := valid.ticks drifted.1 drifted.2
    exact ⟨uploads, grows, fun _ => trivial⟩

end Rules

/-! ### What an upload returns -/

section Contract

variable {ι : Type} {metadata : BundleMetadata}
/-- The metadata describe the bundle of the uploaded digest, and a watched key has a live record of this upload. -/
def Recalls (alike : BundleMetadata → BundleMetadata → Prop) (watched : Nat → Bytes → Prop) (inspected : InspectedUpload)
    (metadata : BundleMetadata) (db : BundleDb) : Prop :=
  ∃ tenant ∈ db.tenants, tenant.externalID = inspected.tenantID ∧ Depicts alike metadata tenant.id inspected.requestHash db ∧
    (watched tenant.id inspected.idempotencyDigest → ∃ record ∈ db.uploads, db.now < record.expiresAt ∧
      record.isFor tenant.id inspected.idempotencyDigest = true ∧ record.requestHash = inspected.requestHash)

private theorem watches_of_isFor (isFor : record.isFor tenantID keyDigest = true) (watch : watched tenantID keyDigest) :
    Watches watched record := by
  obtain ⟨rfl, scope, rfl⟩ := isFor_iff.mp isFor
  exact ⟨scope, watch⟩

theorem Recalls.grows (recalls : Recalls alike watched inspected metadata db) (grows : Grows watched db next) :
    Recalls alike watched inspected metadata next := by
  obtain ⟨tenant, present, named, described, recorded⟩ := recalls
  refine ⟨tenant, grows.tenants ▸ present, named, grows.rows.describes described, fun watch => ?_⟩
  obtain ⟨record, member, live, isFor, hash⟩ := recorded watch
  obtain ⟨inside, still⟩ := grows.records record member (watches_of_isFor isFor watch) live
  exact ⟨record, inside, still, isFor, hash⟩

private theorem findBundleUpload_recalls (uploads : RecordedUploads alike db)
    (found : findBundleUpload inspected.tenantID inspected.idempotencyDigest db = .ok (some lookup))
    (same : lookup.requestHash = inspected.requestHash) : Recalls alike watched inspected lookup.metadata db := by
  unfold findBundleUpload at found
  split_ifs at found
  dsimp only at found
  split at found
  next => cases Except.ok.inj found
  next record row joined =>
    obtain ⟨_, -, found⟩ := checked_ok found
    obtain rfl := Option.some.inj (Except.ok.inj found)
    obtain ⟨other, listed, paired⟩ := List.mem_filterMap.mp (List.mem_of_head? joined)
    obtain ⟨_, -, paired⟩ := Option.map_eq_some_iff.mp paired
    obtain ⟨rfl, -⟩ := Prod.mk.inj paired
    obtain ⟨member, holds⟩ := List.mem_filter.mp listed
    simp only [TenantRow.isActive, decide_eq_true_eq, List.any_eq_true] at holds
    obtain ⟨⟨tenant, present, owner, named, -⟩, scope, digest, live⟩ := holds
    refine ⟨tenant, present, named, ?_, fun _ => ⟨other, member, live, isFor_iff.mpr ⟨owner.symm, scope, digest⟩, same⟩⟩
    rw [owner, ← same]
    exact uploads.recorded other member scope

private theorem commit_recalls (uploads : RecordedUploads alike world.db) (like : Likeness alike reading) (read : reading now)
    (performed : (uploadRules ι like watched).performs (.commitBundleUpload (commitInput service inspected bundleID stagingKey now)) world
      (.ok result) after) :
    Recalls alike watched inspected result.metadata after.db := by
  obtain ⟨⟨id, returned⟩, -, renews⟩ := performed
  obtain ⟨answered, rfl⟩ := Returns.ok returned
  unfold Renews at renews
  rw [(commits_db id _ world).1] at renews ⊢
  obtain ⟨value, next, run, committed⟩ | ⟨error, -, rolledBack⟩ :=
    commit_cases (commitBundleUpload id (commitInput service inspected bundleID stagingKey now)) world.db
  · have turns : UploadTurns id _ world.db ((commitBundleUpload id (commitInput service inspected bundleID stagingKey now)).commit
        world.db).2 := commitBundleUpload_turns uploads.distinct
    obtain rfl : value = result := by
      simp only [External.commits, runs, committed] at answered
      split_ifs at answered <;> exact Except.ok.inj answered
    rw [committed] at turns renews ⊢
    obtain ⟨valid, tenant, found, -, leaves, -, tenants⟩ := commitBundleUpload_ok uploads.distinct run
    obtain ⟨present, named, -⟩ := activeTenant_some found
    refine ⟨tenant, tenants ▸ present, named, leaves.describes like valid read uploads turns.rowsStay, fun watch => ?_⟩
    obtain ⟨record, member, isFor, hash⟩ := leaves.own
    exact ⟨record, member, renews ⟨_, watch⟩ record member (watches_of_isFor isFor watch), isFor, hash⟩
  · simp only [External.commits, runs, rolledBack] at answered
    cases answered

/-- Nothing is known along an upload but of what it returns. -/
private def uploadContract (like : Likeness alike reading) (watched : Nat → Bytes → Prop) (i : ι) :
    BundleContract (uploadRules ι like watched) i 0 where
  unstaged _ _ _ := True
  deposited _ _ := True
  disposable _ _ := True
  held _ _ := True
  copyable _ _ := True
  promoted _ _ := True
  told now _ := reading now
  listed _ _ _ := True
  returned inspected metadata world := Recalls alike watched inspected metadata world.db
  performs performed := performed.1
  unstaged_stable _ _ := Discipline.stable_true i
  deposited_stable _ := Discipline.stable_true i
  disposable_stable _ := Discipline.stable_true i
  held_kept _ _ _ _ _ _ _ := trivial
  copyable_kept _ _ _ _ _ _ _ := trivial
  promoted_kept _ _ _ _ _ _ _ := trivial
  told_kept _ _ _ _ _ _ known := known
  listed_kept _ _ _ _ _ _ _ _ := trivial
  returned_kept _ _ _ _ _ _ grows recalls := recalls.grows grows
  free free input same := by
    subst same
    cases free
  put _ _ same := by cases same
  commit _ read input same := by
    obtain rfl := BundleCall.commitBundleUpload.inj same
    exact read
  copy _ _ same := by cases same
  complete _ _ same := by cases same
  remove _ _ _ same := by cases same
  puts _ _ _ := trivial
  displaced _ _ _ _ := trivial
  rejected _ _ _ _ := trivial
  replayed valid performed same := by
    obtain rfl := read_same rfl performed
    exact findBundleUpload_recalls valid (Returns.ok performed).1 same
  committed valid read performed := commit_recalls valid like read performed
  claims _ _ _ := trivial
  seesFinal _ _ _ _ := trivial
  seesStaging _ _ _ _ := trivial
  completes _ _ _ _ := trivial
  abandons _ _ _ _ := trivial
  reads read := by
    rw [read.1.1]
    exact read.2.1 rfl
  lists _ _ _ _ _ := trivial
  unreferenced _ _ _ _ _ := trivial

def Recalled (alike : BundleMetadata → BundleMetadata → Prop) (service : BundleService) (upload : BundleUpload)
    (watched : Nat → Bytes → Prop) (value : BundleMetadata × Bool) (world : BundleWorld) : Prop :=
  ∃ inspected, inspectUpload service upload = .ok inspected ∧ Recalls alike watched inspected value.1 world.db

theorem upload_recalled (like : Likeness alike reading) (i : ι) (valid : (uploadRules ι like watched).valid world) :
    (uploadRules ι like watched).Safe i (Discipline.OnSuccess (Recalled alike service upload watched))
      (uploadWithAdmission service upload) world := by
  cases inspection : inspectUpload service upload with
  | error error =>
    rw [BundleContract.uploadWithAdmission_rejected inspection]
    exact .failed
  | ok inspected =>
    have same : Recalled alike service upload watched = (uploadContract like watched i).Returned inspected := by
      funext value world
      simp [Recalled, inspection, BundleContract.Returned, uploadContract]
    rw [same]
    exact (uploadContract like watched i).uploadWithAdmission_safe valid inspection fun _ _ _ => trivial

end Contract

/-! ### Every run -/

abbrev UploadPool (ι : Type) : Type := Pool ι BundleWorld BundleCall BundleCall.Answer (Except BundleError (BundleMetadata × Bool))

/-- Uploads before any of them has made a call. -/
def uploadPool {ι : Type} (service : BundleService) (uploads : ι → BundleUpload) (world : BundleWorld) : UploadPool ι :=
  ⟨world, fun i => uploadWithAdmission service (uploads i)⟩

section Runs

variable {ι : Type} [DecidableEq ι]

/-- The records of the key of an upload. -/
def ofUpload (tenant : TenantRow) (inspected : InspectedUpload) (tenantID : Nat) (keyDigest : Bytes) : Prop :=
  tenantID = tenant.id ∧ keyDigest = inspected.idempotencyDigest

/-- A step in which no live record of a watched key expires. -/
def StepsUnexpired (watched : Nat → Bytes → Prop) : UploadPool ι → UploadPool ι → Prop :=
  Pool.Step (fun request world answer next => request.performs world answer next ∧ Renews watched request answer next.db)
    fun world next => Ticks world next ∧ Lasting watched world.db next.db

/-- From the start of some uploads on, whatever the others do: the tables stay consistent, nothing is
taken back, and what these uploads have returned is recalled. -/
theorem uploads_recalled {uploads : ι → BundleUpload} {pool later : UploadPool ι}
    (recorded : RecordedUploads Agrees pool.world.db) (own : Set ι)
    (unstarted : ∀ i ∈ own, pool.processes i = uploadWithAdmission service (uploads i))
    (steps : Relation.ReflTransGen (StepsUnexpired watched) pool later) :
    RecordedUploads Agrees later.world.db ∧ Grows watched pool.world.db later.world.db ∧
      ∀ i ∈ own, ∀ value, later.processes i = .done (.ok value) → Recalled Agrees service (uploads i) watched value later.world := by
  classical
  let posts (i : ι) : Except BundleError (BundleMetadata × Bool) → BundleWorld → Prop :=
    if i ∈ own then Discipline.OnSuccess (Recalled Agrees service (uploads i) watched) else fun _ _ => True
  have start : (uploadRules ι agrees_likeness watched).AllSafe posts pool := by
    refine ⟨recorded, fun i => ?_⟩
    dsimp only [posts]
    split_ifs with mine
    · rw [unstarted i mine]
      exact upload_recalled agrees_likeness i recorded
    · exact .permissive (fun _ _ _ _ => trivial) _ _
  have reached : (uploadRules ι agrees_likeness watched).Reaches pool later :=
    Relation.ReflTransGen.mono (fun _ _ step =>
      Pool.Step.imp step (fun performed => ⟨performed.1, fun _ => trivial, performed.2⟩) id) _ _ steps
  obtain ⟨all, grows⟩ := start.reaches reached
  refine ⟨all.valid, grows, fun i mine value finished => ?_⟩
  have holds := all.result finished
  simp only [posts, mine, if_true] at holds
  exact holds value rfl

theorem Recalled.same (first : Recalled alike service left watched value world) (equivalence : Equivalence alike)
    (now : RecordedUploads alike world.db) (owners : left.tenantID = right.tenantID) (same : left.source = right.source)
    (second : Recalled alike service right watched other world) : alike value.1 other.1 := by
  obtain ⟨inspected, accepted, tenant, present, named, described, -⟩ := first
  obtain ⟨inspected', accepted', tenant', present', named', described', -⟩ := second
  obtain ⟨-, owner, content, source, hash⟩ := inspectUpload_ok accepted
  obtain ⟨-, owner', content', source', hash'⟩ := inspectUpload_ok accepted'
  obtain rfl : content = content' := Except.ok.inj (source.symm.trans (same.trans source'))
  obtain rfl : tenant = tenant' := now.names.eq present present' (by rw [named, named', owner, owner', owners])
  rw [hash] at described
  rw [hash'] at described'
  exact now.same equivalence described described'

/-- Uploads of one tenant, interleaved in any way: a digest has at most one bundle; those that
succeed with the same bytes return the same bundle; and from the start of an upload on, for as
long as no live record of its key expires, it does not succeed where the record is one of other
bytes. -/
theorem upload_idempotency (service : BundleService) (collisionFree : Function.Injective service.digests.sha256) (tenantID : GoString)
    (uploads : ι → BundleUpload) (oneTenant : ∀ i, (uploads i).tenantID = tenantID) {world : BundleWorld}
    (consistent : RecordedUploads Agrees world.db) {pool : UploadPool ι}
    (reached : Relation.ReflTransGen (Pool.Step BundleCall.performs Ticks) (uploadPool service uploads world) pool) :
    (∀ owner digest, (pool.world.db.bundles.filter (StoredBundle.hasDigest owner digest)).length ≤ 1) ∧
    (∀ i j left right, (uploads i).source = (uploads j).source → pool.processes i = .done (.ok left) →
      pool.processes j = .done (.ok right) → Agrees left.1 right.1) ∧
    ∀ i inspected, inspectUpload service (uploads i) = .ok inspected →
      ∀ tenant ∈ pool.world.db.tenants, tenant.externalID = tenantID →
      pool.processes i = uploadWithAdmission service (uploads i) →
      ∀ later, Relation.ReflTransGen (StepsUnexpired (ofUpload tenant inspected)) pool later →
      ∀ record ∈ later.world.db.uploads, record.isFor tenant.id inspected.idempotencyDigest = true →
      ∀ content, record.requestHash = service.digests.sha256 content → (uploads i).source ≠ .ok content →
      ∀ value, later.processes i ≠ .done (.ok value) := by
  have unwatched : Relation.ReflTransGen (StepsUnexpired fun _ _ => False) (uploadPool service uploads world) pool :=
    Relation.ReflTransGen.mono (fun _ _ step => Pool.Step.imp step (fun performed => ⟨performed, renews_none _ _⟩)
      fun drifted => ⟨drifted, lasting_none _ _⟩) _ _ reached
  have unstarted : ∀ i ∈ Set.univ, (uploadPool service uploads world).processes i = uploadWithAdmission service (uploads i) :=
    fun _ _ => rfl
  obtain ⟨now, -, recalled⟩ := uploads_recalled consistent Set.univ unstarted unwatched
  refine ⟨fun owner digest => ?_, fun i j left right same first second => ?_, ?_⟩
  · refine now.digests.filter_length fun left _ right _ first second => ?_
    simp only [StoredBundle.hasDigest, decide_eq_true_eq] at first second
    exact Prod.ext (first.1.trans second.1.symm) (first.2.1.trans second.2.1.symm)
  · have owners : (uploads i).tenantID = (uploads j).tenantID := by rw [oneTenant, oneTenant]
    exact (recalled i trivial left first).same agrees_equivalence now owners same (recalled j trivial right second)
  · intro i inspected accepted tenant present named unstarted later continued record member isFor content hash other value finished
    have own : ∀ j ∈ ({i} : Set ι), pool.processes j = uploadWithAdmission service (uploads j) := by
      rintro j rfl
      exact unstarted
    obtain ⟨later, grows, recalled⟩ := uploads_recalled now {i} own continued
    obtain ⟨inspected', accepted', tenant', present', named', -, recorded⟩ := recalled i rfl value finished
    obtain rfl : inspected = inspected' := Except.ok.inj (accepted.symm.trans accepted')
    obtain ⟨-, owner, content', source, hash'⟩ := inspectUpload_ok accepted
    obtain rfl : tenant = tenant' := later.names.eq (grows.tenants ▸ present) present' (by rw [named, named', owner, oneTenant])
    -- The key has one record: the one of other bytes would be the upload's own.
    obtain ⟨record', member', -, isFor', same⟩ := recorded ⟨rfl, rfl⟩
    obtain ⟨tenant₁, scope₁, key₁⟩ := isFor_iff.mp isFor
    obtain ⟨tenant₂, scope₂, key₂⟩ := isFor_iff.mp isFor'
    obtain rfl : record = record' :=
      later.records.eq member member' (by simp [uploadKey, tenant₁, scope₁, key₁, tenant₂, scope₂, key₂])
    have bytes : content = content' := collisionFree (hash.symm.trans (same.trans hash'))
    exact other (bytes ▸ source)

end Runs

/-! ### A repeated upload and a conflicting one -/

instance threeUploads : NeZero 3 := ⟨by decide⟩

/-- An upload, one of the same bytes under another key, and one of other bytes under its key. -/
def repeatedUploads : Fin 3 → BundleUpload
  | 0 => sampleBundleUpload
  | 1 => { sampleBundleUpload with idempotencyKey := lit "upload-9876543210", random := [4, 5, 6].map (List.replicate 16) }
  | 2 => { sampleBundleUpload with source := .ok (List.replicate 32 8) }

/-- The pool after one of its uploads has made some of its calls. -/
def UploadPool.carry (pool : UploadPool (Fin 3)) (i : Fin 3) (calls : Nat) : UploadPool (Fin 3) :=
  ⟨((pool.processes i).carry attend calls pool.world).2,
    Function.update pool.processes i ((pool.processes i).carry attend calls pool.world).1⟩

private theorem UploadPool.carry_one {pool : UploadPool (Fin 3)} {i : Fin 3} {request : BundleCall}
    {next : request.Answer → BundleProcess (Except BundleError (BundleMetadata × Bool))} (turn : pool.processes i = .call request next)
    (renews : Renews watched request (attend request pool.world).1 (attend request pool.world).2.db) :
    StepsUnexpired watched pool (pool.carry i 1) ∧ (pool.carry i 1).world = (attend request pool.world).2 := by
  unfold UploadPool.carry
  rw [turn]
  exact ⟨.call turn ⟨attend_performs request pool.world, renews⟩, rfl⟩

def repeatedPool : UploadPool (Fin 3) := ((uploadPool sampleService repeatedUploads emptyWorld).carry 0 20).carry 1 20

def succeeded (upload : BundleProcess (Except BundleError (BundleMetadata × Bool))) : Bool :=
  match upload with
  | .done (.ok _) => true
  | _ => false

private theorem succeeded_returned (holds : succeeded upload = true) : ∃ value, upload = .done (.ok value) := by
  unfold succeeded at holds
  split at holds
  next value => exact ⟨value, rfl⟩
  next => cases holds

theorem upload_idempotency_sample :
    (∃ left right, repeatedPool.processes 0 = .done (.ok left) ∧ repeatedPool.processes 1 = .done (.ok right) ∧ Agrees left.1 right.1) ∧
    (repeatedPool.world.db.bundles.filter (StoredBundle.hasDigest sampleTenant.id (List.replicate 32 9))).length ≤ 1 ∧
    ∀ value, (repeatedPool.carry 2 1).processes 2 ≠ .done (.ok value) := by
  have consistent : RecordedUploads Agrees emptyWorld.db := ⟨by decide, by decide, by decide, by decide, by simp [emptyWorld]⟩
  have reached : Relation.ReflTransGen (Pool.Step BundleCall.performs Ticks) (uploadPool sampleService repeatedUploads emptyWorld)
      repeatedPool :=
    (Pool.carry_reaches attend_performs 20 _ 0).trans (Pool.carry_reaches attend_performs 20 _ 1)
  have oneTenant : ∀ i, (repeatedUploads i).tenantID = sampleTenant.externalID := by decide
  obtain ⟨single, agrees, conflicts⟩ :=
    upload_idempotency sampleService Function.injective_id sampleTenant.externalID repeatedUploads oneTenant consistent reached
  have ended : succeeded (repeatedPool.processes 0) = true ∧ succeeded (repeatedPool.processes 1) = true := by decide +kernel
  obtain ⟨left, first⟩ := succeeded_returned ended.1
  obtain ⟨right, second⟩ := succeeded_returned ended.2
  refine ⟨⟨left, right, first, second, agrees 0 1 left right rfl first second⟩, single _ _, ?_⟩
  obtain ⟨inspected, accepted, recorded⟩ : ∃ inspected, inspectUpload sampleService (repeatedUploads 2) = .ok inspected ∧
      repeatedPool.world.db.uploads.any (fun record => record.isFor sampleTenant.id inspected.idempotencyDigest &&
        decide (record.requestHash = List.replicate 32 9)) = true := ⟨_, rfl, by decide +kernel⟩
  obtain ⟨record, member, holds⟩ := List.any_eq_true.mp recorded
  rw [Bool.and_eq_true, decide_eq_true_eq] at holds
  have registered : repeatedPool.world.db.tenants.any (fun tenant => tenant.externalID = sampleTenant.externalID ∧
      tenant.id = sampleTenant.id) = true := by decide +kernel
  obtain ⟨tenant, present, named⟩ := List.any_eq_true.mp registered
  rw [decide_eq_true_eq] at named
  have unstarted : repeatedPool.processes 2 = uploadWithAdmission sampleService (repeatedUploads 2) := rfl
  -- The first call of the third upload finds the record of the first.
  obtain ⟨next, turn⟩ : ∃ next, repeatedPool.processes 2 =
      .call (.findBundleUpload inspected.tenantID inspected.idempotencyDigest) next := by
    rw [unstarted]
    unfold uploadWithAdmission
    rw [accepted]
    exact ⟨_, rfl⟩
  obtain ⟨step, same⟩ := @UploadPool.carry_one (ofUpload tenant inspected) _ _ _ _ turn trivial
  have reads (world : BundleWorld) : (attend (.findBundleUpload inspected.tenantID inspected.idempotencyDigest) world).2 = world := rfl
  rw [reads] at same
  have listed : record ∈ (repeatedPool.carry 2 1).world.db.uploads := by
    rw [same]
    exact member
  have isFor : record.isFor tenant.id inspected.idempotencyDigest = true := by
    rw [named.2]
    exact holds.1
  have other : (repeatedUploads 2).source ≠ .ok (List.replicate 32 9) := by decide
  exact conflicts 2 inspected accepted tenant present named.1 unstarted _ (.single step) record listed isFor _ holds.2 other

end JudgingServer.Proofs
