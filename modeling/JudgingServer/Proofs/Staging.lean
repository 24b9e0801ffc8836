import JudgingServer.Proofs.Publication

/-! No process discards a staging object that a row still has to be published from, as long
as every upload commits its row within the minimum age of the collector. -/

namespace JudgingServer.Proofs
open Go Bundle External Library Table Transaction

/-! ### Rows and their staging keys -/

section Rows

variable {row : StoredBundle}

private theorem references_iff : row.references key = true ↔ row.stagingObjectKey = some key ∧
    (row.publicationStatus = .pending ∨ row.publicationStatus = .publishing) ∧ row.deletedAt = none := by
  simp [StoredBundle.references]

theorem Turn.references (turn : Turn completes revives row row') (named : row'.stagingObjectKey = some key) :
    revives key ∨ row.stagingObjectKey = some key ∧ (row'.references key = true → row.references key = true) := by
  cases turn with
  | same => exact .inr ⟨named, id⟩
  | retained => exact .inr ⟨named, id⟩
  | revived _ _ fresh =>
    obtain rfl := Option.some.inj named
    exact .inl fresh
  | leased _ _ _ waiting =>
    refine .inr ⟨named, fun referenced => ?_⟩
    exact references_iff.mpr ⟨named, waiting, (references_iff.mp referenced).2.2⟩
  | completed =>
    refine .inr ⟨named, fun referenced => ?_⟩
    obtain ⟨-, waiting, -⟩ := references_iff.mp referenced
    rcases waiting with waiting | waiting <;> cases waiting
  | failed _ _ _ publishing =>
    refine .inr ⟨named, fun referenced => ?_⟩
    exact references_iff.mpr ⟨named, .inr publishing, (references_iff.mp referenced).2.2⟩
  | abandoned _ unstaged => exact absurd (unstaged.symm.trans named) (by simp)

end Rows

/-! ### The world -/

/-- A live row still has to be published from the object. -/
def Referenced (world : BundleWorld) (key : GoString) : Prop := ∃ row ∈ world.db.bundles, row.references key = true

/-- The key is or was the staging key of a row. -/
def Attached (world : BundleWorld) (key : GoString) : Prop := ∃ time, (key, time) ∈ world.attached

/-- Every upload so far has committed its row less than the minimum age after it staged the object. -/
def PunctualUploads (minimumAge : Duration) (world : BundleWorld) : Prop :=
  ∀ key time, (key, time) ∈ world.attached → ∀ object, world.staged key = some object → time < object.lastModified + minimumAge

/-- The staging keys that the processes draw do not repeat. -/
structure OwnKeys {ι : Type} (own : ι → Option GoString) : Prop where
  staging : ∀ i key, own i = some key → IsStagingKey key
  apart : ∀ i j key, own i = some key → own j = some key → i = j

section World

variable {ι : Type}
structure StagingWorld (own : ι → Option GoString) (world : BundleWorld) : Prop where
  distinct : DistinctIDs world.db.bundles
  attached : ∀ row ∈ world.db.bundles, ∀ key, row.stagingObjectKey = some key → Attached world key
  apart : ∀ row ∈ world.db.bundles, ∀ other ∈ world.db.bundles, ∀ key, row.stagingObjectKey = some key →
    other.stagingObjectKey = some key → row.externalID = other.externalID
  owned : ∀ key, Attached world key → ∃ i, own i = some key
  objects : ∀ i key object, own i = some key → world.objects key = some object → world.staged key = some object

/-- What no call takes back: a key that was attached is never attached to another row, and no
row waits for its object again. -/
structure StagingEvolves (world next : BundleWorld) : Prop where
  clock : world.clock ≤ next.clock
  attached : ∀ entry ∈ world.attached, entry ∈ next.attached
  later : ∀ entry ∈ next.attached, entry ∈ world.attached ∨ world.clock ≤ entry.2
  staged : ∀ key object, world.staged key = some object → next.staged key = some object
  rows : ∀ key, Attached world key → ∀ row' ∈ next.db.bundles, row'.stagingObjectKey = some key →
    ∃ row ∈ world.db.bundles, row.externalID = row'.externalID ∧ row.stagingObjectKey = some key ∧
      (row'.references key = true → row.references key = true)

abbrev StagingKeeps (own : ι → Option GoString) (world next : BundleWorld) : Prop :=
  StagingWorld own next ∧ StagingEvolves world next

/-- What the other processes leave alone of the key that a process has drawn. -/
def SparesKey (own : ι → Option GoString) (i : ι) (world next : BundleWorld) : Prop :=
  ∀ key, own i = some key → (Attached next key → Attached world key) ∧ (world.staged key = none → next.staged key = none)

variable {next : BundleWorld}

private theorem StagingEvolves.of_attached (evolves : StagingEvolves world next) (attached : Attached world key) :
    Attached next key := by
  obtain ⟨time, entry⟩ := attached
  exact ⟨time, evolves.attached _ entry⟩

theorem StagingEvolves.refl (world : BundleWorld) : StagingEvolves world world :=
  ⟨Int.le_refl _, fun _ => id, fun _ => .inl, fun _ _ => id, fun _ _ row member named => ⟨row, member, rfl, named, id⟩⟩

theorem StagingEvolves.trans (early : StagingEvolves world next) (late : StagingEvolves next last) : StagingEvolves world last := by
  refine ⟨Int.le_trans early.clock late.clock, fun entry member => late.attached entry (early.attached entry member),
    fun entry member => ?_, fun key object staged => late.staged key object (early.staged key object staged),
    fun key attached row member named => ?_⟩
  · rcases late.later entry member with between | after
    · exact early.later entry between
    · exact .inr (Int.le_trans early.clock after)
  · obtain ⟨row', inside, same, named', kept⟩ := late.rows key (early.of_attached attached) row member named
    obtain ⟨row'', before, sameBefore, named'', keptBefore⟩ := early.rows key attached row' inside named'
    exact ⟨row'', before, sameBefore.trans same, named'', keptBefore ∘ kept⟩

theorem PunctualUploads.before (evolves : StagingEvolves world next) (punctual : PunctualUploads minimumAge next) : PunctualUploads minimumAge world :=
  fun key time entry object staged => punctual key time (evolves.attached _ entry) object (evolves.staged key object staged)

/-! ### Keys that may be discarded -/

/-- A key that was attached and that no row waits for. -/
def Retired (world : BundleWorld) (key : GoString) : Prop := Attached world key ∧ ¬ Referenced world key

theorem Retired.evolves (evolves : StagingEvolves world next) (retired : Retired world key) : Retired next key := by
  refine ⟨evolves.of_attached retired.1, ?_⟩
  rintro ⟨row', member, referenced⟩
  obtain ⟨row, inside, -, -, kept⟩ := evolves.rows key retired.1 row' member (references_iff.mp referenced).1
  exact retired.2 ⟨row, inside, kept referenced⟩

/-- No upload can attach the key any more and be punctual: none draws it, or its object is too old. -/
def Stale (own : ι → Option GoString) (minimumAge : Duration) (world : BundleWorld) (key : GoString) : Prop :=
  (∀ i, own i ≠ some key) ∨ ∃ object, world.staged key = some object ∧ object.lastModified + minimumAge < world.clock

theorem Stale.evolves (evolves : StagingEvolves world next) (stale : Stale own minimumAge world key) :
    Stale own minimumAge next key := by
  rcases stale with foreign | ⟨object, staged, old⟩
  · exact .inl foreign
  · exact .inr ⟨object, evolves.staged key object staged, Int.lt_of_lt_of_le old evolves.clock⟩

/-- A stale key that no row waits for stays so in a punctual run. -/
def Collectable (own : ι → Option GoString) (minimumAge : Duration) (world : BundleWorld) (key : GoString) : Prop :=
  Stale own minimumAge world key ∧ (PunctualUploads minimumAge world → ¬ Referenced world key)

theorem Collectable.evolves (valid : StagingWorld own next) (evolves : StagingEvolves world next)
    (collectable : Collectable own minimumAge world key) : Collectable own minimumAge next key := by
  refine ⟨collectable.1.evolves evolves, fun punctual => ?_⟩
  rintro ⟨row', member, referenced⟩
  have named := (references_iff.mp referenced).1
  obtain ⟨time, entry⟩ := valid.attached row' member key named
  rcases evolves.later _ entry with before | after
  · -- The key was attached when the collector looked, so that its row waited for it then.
    obtain ⟨row, inside, -, -, kept⟩ := evolves.rows key ⟨time, before⟩ row' member named
    exact collectable.2 (punctual.before evolves) ⟨row, inside, kept referenced⟩
  · -- It was attached later, which is too late for its object.
    rcases collectable.1 with foreign | ⟨object, staged, old⟩
    · obtain ⟨i, drawn⟩ := valid.owned key ⟨time, entry⟩
      exact foreign i drawn
    · have early := punctual key time entry object (evolves.staged key object staged)
      exact absurd (Int.lt_of_lt_of_le old after) (Int.not_lt.mpr (Int.le_of_lt early))

/-! ### Changes of the tables -/

/-- Nothing changes beside the tables, but for keys that processes attach now. -/
structure AttachesNow (own : ι → Option GoString) (world next : BundleWorld) : Prop where
  attached : ∀ entry ∈ world.attached, entry ∈ next.attached
  later : ∀ entry ∈ next.attached, entry ∈ world.attached ∨ entry.2 = world.clock ∧ ∃ i, own i = some entry.1
  clock : next.clock = world.clock
  staged : next.staged = world.staged
  objects : next.objects = world.objects

/-- What has been attached once an upload is committed. -/
private def attaches (input : BundleCommitInput) (result : BundleCommitResult) (world : BundleWorld) : List (GoString × Instant) :=
  if result.stagingKey = input.stagingObjectKey then (input.stagingObjectKey, world.clock) :: world.attached else world.attached

private theorem mem_attaches :
    entry ∈ attaches input result world ↔
      entry ∈ world.attached ∨ result.stagingKey = input.stagingObjectKey ∧ entry = (input.stagingObjectKey, world.clock) := by
  unfold attaches
  split_ifs with own
  · rw [List.mem_cons, or_comm]
    simp [own]
  · simp [own]

namespace StagingWorld

variable {own : ι → Option GoString} {world : BundleWorld} (valid : StagingWorld own world)
include valid

/-- The rows move on; those under a new key are one row at most, and the key is attached now. -/
theorem moves {fresh : StoredBundle → Prop} (distinct : DistinctIDs next.db.bundles)
    (rows : ∀ row' ∈ next.db.bundles, (∃ row ∈ world.db.bundles, Turn completes (fun _ => False) row row') ∨ fresh row')
    (single : ∀ row other, fresh row → fresh other → row = other)
    (fresh_key : ∀ row, fresh row → ∃ key, row.stagingObjectKey = some key ∧ ¬ Attached world key ∧ (key, world.clock) ∈ next.attached)
    (now : AttachesNow own world next) : StagingKeeps own world next := by
  -- A row with a key has it from before, or it is the new one and the key is.
  have origin : ∀ row' ∈ next.db.bundles, ∀ key, row'.stagingObjectKey = some key →
      (∃ row ∈ world.db.bundles, row.externalID = row'.externalID ∧ row.stagingObjectKey = some key ∧
        (row'.references key = true → row.references key = true)) ∨
      fresh row' ∧ ¬ Attached world key ∧ (key, world.clock) ∈ next.attached := by
    intro row' member key named
    rcases rows row' member with ⟨row, inside, turn⟩ | new
    · rcases turn.references named with never | ⟨before, kept⟩
      · exact never.elim
      · exact .inl ⟨row, inside, turn.same_bundle.externalID.symm, before, kept⟩
    · obtain ⟨own, given, unattached, entry⟩ := fresh_key row' new
      obtain rfl := Option.some.inj (given.symm.trans named)
      exact .inr ⟨new, unattached, entry⟩
  refine ⟨⟨distinct, fun row' member key named => ?_, fun row' member other' otherMember key named otherNamed => ?_,
    fun key attachedNext => ?_, by rw [now.staged, now.objects]; exact valid.objects⟩,
    ⟨Int.le_of_eq now.clock.symm, now.attached, fun entry member => ?_, by rw [now.staged]; exact fun _ _ => id,
      fun key attachedBefore row' member named => ?_⟩⟩
  · rcases origin row' member key named with ⟨row, inside, -, before, -⟩ | ⟨-, -, entry⟩
    · obtain ⟨time, entry⟩ := valid.attached row inside key before
      exact ⟨time, now.attached _ entry⟩
    · exact ⟨world.clock, entry⟩
  · rcases origin row' member key named with ⟨row, inside, same, before, -⟩ | ⟨new, unattached, -⟩
    · rcases origin other' otherMember key otherNamed with ⟨other, otherInside, otherSame, otherBefore, -⟩ | ⟨-, unattached, -⟩
      · exact same.symm.trans ((valid.apart row inside other otherInside key before otherBefore).trans otherSame)
      · exact absurd (valid.attached row inside key before) unattached
    · rcases origin other' otherMember key otherNamed with ⟨other, otherInside, -, otherBefore, -⟩ | ⟨otherNew, -, -⟩
      · exact absurd (valid.attached other otherInside key otherBefore) unattached
      · rw [single row' other' new otherNew]
  · obtain ⟨time, entry⟩ := attachedNext
    rcases now.later _ entry with before | ⟨-, i, drawn⟩
    · exact valid.owned key ⟨time, before⟩
    · exact ⟨i, drawn⟩
  · exact (now.later entry member).imp_right fun new => Int.le_of_eq new.1.symm
  · rcases origin row' member key named with before | ⟨-, unattached, -⟩
    · exact before
    · exact absurd attachedBefore unattached

theorem turned (turned : List.Forall₂ (Turn completes fun _ => False) world.db.bundles next.db.bundles)
    (now : AttachesNow own world next) : StagingKeeps own world next := by
  have distinct : DistinctIDs next.db.bundles := by
    unfold DistinctIDs Keyed
    rw [map_forall₂ (fun _ _ turn => turn.same_bundle.externalID) turned]
    exact valid.distinct
  have rows : ∀ row' ∈ next.db.bundles, (∃ row ∈ world.db.bundles, Turn completes (fun _ => False) row row') ∨ False := by
    intro row' member
    obtain ⟨row, inside, turn⟩ := forall₂_mem_right turned member
    exact .inl ⟨row, inside, turn⟩
  exact valid.moves distinct rows (fun _ _ never => never.elim) (fun _ never => never.elim) now

private theorem arrives (distinct : DistinctIDs next.db.bundles)
    (rows : ∀ row' ∈ next.db.bundles, row' ∈ world.db.bundles ∨ row' = fresh) (named : fresh.stagingObjectKey = some key)
    (unattached : ¬ Attached world key) (entry : (key, world.clock) ∈ next.attached)
    (now : AttachesNow own world next) : StagingKeeps own world next := by
  have turned : ∀ row' ∈ next.db.bundles,
      (∃ row ∈ world.db.bundles, Turn (fun _ => False) (fun _ => False) row row') ∨ row' = fresh :=
    fun row' member => (rows row' member).imp_left fun inside => ⟨row', inside, .same⟩
  refine valid.moves distinct turned (fun _ _ left right => left.trans right.symm) ?_ now
  rintro row rfl
  exact ⟨key, named, unattached, entry⟩

private theorem commits_cases (id : Nat) (input : BundleCommitInput) :
    (∃ error, commits id input world = (.error error, world)) ∨
    ∃ result db tenant, Uploads id input world.db tenant result db.bundles ∧
      commits id input world = (.ok result, { world with db, attached := attaches input result world }) := by
  obtain ⟨result, db, run, committed⟩ | ⟨error, -, failed⟩ := commit_cases (commitBundleUpload id input) world.db
  · obtain ⟨-, tenant, -, uploads, -⟩ := commitBundleUpload_ok valid.distinct run
    refine .inr ⟨result, db, tenant, uploads, ?_⟩
    unfold commits runs attaches
    rw [committed]
    dsimp only
    split_ifs <;> rfl
  · refine .inl ⟨error, ?_⟩
    unfold commits runs
    rw [failed]

theorem commits {id : Nat} (drawn : own i = some input.stagingObjectKey) (unattached : ¬ Attached world input.stagingObjectKey) :
    StagingKeeps own world (External.commits id input world).2 := by
  obtain ⟨error, failed⟩ | ⟨result, db, tenant, uploads, committed⟩ := valid.commits_cases id input
  · rw [failed]
    exact ⟨valid, .refl world⟩
  rw [committed]
  have now : AttachesNow own world { world with db, attached := attaches input result world } := by
    refine ⟨fun entry member => mem_attaches.mpr (.inl member), fun entry member => ?_, rfl, rfl, rfl⟩
    rcases mem_attaches.mp member with before | ⟨-, rfl⟩
    · exact .inl before
    · exact .inr ⟨rfl, i, drawn⟩
  generalize given : db.bundles = bundles at uploads
  cases uploads with
  | replayed =>
    have turned : List.Forall₂ (Turn (fun _ => False) fun _ => False) world.db.bundles db.bundles := by
      rw [given]
      exact List.forall₂_same.mpr fun _ _ => .same
    exact valid.turned turned now
  | retained =>
    have turned : List.Forall₂ (Turn (fun _ => False) fun _ => False) world.db.bundles db.bundles := by
      rw [given]
      exact forall₂_update (fun _ => .same) fun _ _ _ => .retained
    exact valid.turned turned now
  | @revived _ old metadata revivable replaced =>
    have rows : ∀ row' ∈ db.bundles, row' ∈ world.db.bundles ∨
        row' = old.revive input.stagingObjectKey (Instant.stored input.metadata.createdAt) :=
      fun row' member => (replaced.subset (given ▸ member)).symm
    exact valid.arrives (given ▸ replaced.keyed valid.distinct rfl) rows rfl unattached (mem_attaches.mpr (.inr ⟨rfl, rfl⟩)) now
  | created creates =>
    have rows : ∀ row' ∈ db.bundles, row' ∈ world.db.bundles ∨ row' = newBundle id tenant.id input world.db.now := by
      intro row' member
      rw [given] at member
      simpa using member
    refine valid.arrives ?_ rows rfl unattached (mem_attaches.mpr (.inr ⟨rfl, rfl⟩)) now
    refine given ▸ valid.distinct.insert fun other member same => ?_
    have apart := List.any_eq_false.mp creates.unique other member
    simp only [StoredBundle.clashes, decide_eq_true_eq, not_or] at apart
    exact apart.2.1 same

/-! ### Changes of the store and the clock -/

theorem stored (bundles : next.db.bundles = world.db.bundles)
    (attached : next.attached = world.attached) (clock : world.clock ≤ next.clock)
    (staged : ∀ key object, world.staged key = some object → next.staged key = some object)
    (objects : ∀ i key object, own i = some key → next.objects key = some object → next.staged key = some object) :
    StagingKeeps own world next := by
  refine ⟨⟨bundles ▸ valid.distinct, fun row member key named => ?_, bundles ▸ valid.apart, fun key held => ?_, objects⟩,
    ⟨clock, fun entry member => attached ▸ member, fun entry member => .inl (attached ▸ member), staged,
      fun key _ row member named => ⟨row, bundles ▸ member, rfl, named, id⟩⟩⟩
  · unfold Attached
    rw [attached]
    exact valid.attached row (bundles ▸ member) key named
  · unfold Attached at held
    rw [attached] at held
    exact valid.owned key held

theorem puts (unstaged : world.staged key = none) : StagingKeeps own world (External.puts key size sha256 world).2 := by
  refine valid.stored rfl rfl (Int.le_refl _) (fun other object staged => ?_) fun j other object drawn present => ?_
  · have different : other ≠ key := by
      rintro rfl
      exact absurd (unstaged.symm.trans staged) (by simp)
    exact (Function.update_of_ne different _ _).trans staged
  · by_cases same : other = key
    · subst same
      have here : some _ = some object := (Function.update_self other _ world.objects).symm.trans present
      exact (Function.update_self other _ world.staged).trans here
    · exact (Function.update_of_ne same _ _).trans
        (valid.objects j other object drawn ((Function.update_of_ne same _ world.objects).symm.trans present))

theorem copied (keys : OwnKeys own) (final : ¬ IsStagingKey target) :
    StagingKeeps own world { world with objects := Function.update world.objects target (some object) } := by
  refine valid.stored rfl rfl (Int.le_refl _) (fun _ _ => id) fun j other object drawn present => ?_
  have different : other ≠ target := by
    rintro rfl
    exact final (keys.staging j other drawn)
  exact valid.objects j other object drawn ((Function.update_of_ne different _ world.objects).symm.trans present)

theorem removes : StagingKeeps own world (External.removes key world).2 := by
  refine valid.stored rfl rfl (Int.le_refl _) (fun _ _ => id) fun j other object drawn present => ?_
  have different : other ≠ key := by
    rintro rfl
    simp [External.removes] at present
  exact valid.objects j other object drawn ((Function.update_of_ne different _ world.objects).symm.trans present)

theorem drifts (drifts : world.Drifts next) : StagingKeeps own world next := by
  cases drifts with
  | tick elapsed =>
    refine valid.stored rfl rfl ?_ (fun _ _ => id) valid.objects
    exact Int.le_add_of_nonneg_right (Int.natCast_nonneg elapsed)
  | databaseTick => exact valid.stored rfl rfl (Int.le_refl _) (fun _ _ => id) valid.objects
  | provision => exact valid.stored rfl rfl (Int.le_refl _) (fun _ _ => id) valid.objects
  | expire => exact valid.stored rfl rfl (Int.le_refl _) (fun _ _ => id) valid.objects

end StagingWorld

/-! ### The rules -/

def StagingPermits (own : ι → Option GoString) (minimumAge : Duration) (i : ι) (request : BundleCall) (world : BundleWorld) : Prop :=
  match request with
  | .commitBundleUpload input => own i = some input.stagingObjectKey ∧ ¬ Attached world input.stagingObjectKey
  | .putObject key _ _ => own i = some key ∧ world.staged key = none
  | .copyObject _ target _ => ¬ IsStagingKey target
  | .removeObject key => PunctualUploads minimumAge world → ¬ Referenced world key
  | _ => True

theorem StagingWorld.performs (keys : OwnKeys own) (valid : StagingWorld own world)
    (permitted : StagingPermits own minimumAge i request world) (performed : request.performs world answer next) :
    StagingKeeps own world next := by
  have turning {completes : StoredBundle → Prop} {db : BundleDb} (turned : Turned completes (fun _ => False) world.db db) :
      StagingKeeps own world { world with db } := valid.turned turned.rows ⟨fun _ => id, fun _ => .inl, rfl, rfl, rfl⟩
  obtain rfl | effect := performs_cases performed
  · exact ⟨valid, .refl _⟩
  cases effect with
  | commit => exact valid.commits permitted.1 permitted.2
  | claim => exact turning (claimBundlePublication_turned valid.distinct)
  | complete => exact turning (completeBundlePublication_turned valid.distinct)
  | fail => exact turning (failBundlePublication_turned valid.distinct)
  | sweep => exact turning sweepUnrecoverableBundlePublications_turned
  | put => exact valid.puts permitted.2
  | copy => exact valid.copied keys permitted
  | remove => exact valid.removes

private theorem SparesKey.of_history (attached : next.attached = world.attached) (staged : next.staged = world.staged) :
    SparesKey own i world next := by
  intro key _
  unfold Attached
  rw [attached, staged]
  exact ⟨id, id⟩

theorem StagingWorld.spares (keys : OwnKeys own) (valid : StagingWorld own world)
    (permitted : StagingPermits own minimumAge i request world) (performed : request.performs world answer next)
    (different : j ≠ i) : SparesKey own j world next := by
  obtain rfl | effect := performs_cases performed
  · exact .of_history rfl rfl
  cases effect with
  | put key =>
    refine fun other drawn => ⟨id, fun unstaged => ?_⟩
    have apart : other ≠ key := by
      rintro rfl
      exact different (keys.apart j i other drawn permitted.1)
    exact (Function.update_of_ne apart _ _).trans unstaged
  | commit id input =>
    obtain ⟨error, failed⟩ | ⟨result, db, tenant, -, committed⟩ := valid.commits_cases id input
    · rw [failed]
      exact .of_history rfl rfl
    rw [committed]
    refine fun key drawn => ⟨fun attached => ?_, fun unstaged => unstaged⟩
    obtain ⟨time, entry⟩ := attached
    rcases mem_attaches.mp entry with before | ⟨-, same⟩
    · exact ⟨time, before⟩
    · obtain ⟨rfl, -⟩ := Prod.mk.inj same
      exact absurd (keys.apart j i _ drawn permitted.1) different
  | _ => exact .of_history rfl rfl

end World

/-- The rules of staging, for uploads that draw the given keys. -/
def stagingRules {ι : Type} (own : ι → Option GoString) (keys : OwnKeys own) (minimumAge : Duration) :
    Discipline ι BundleWorld BundleCall BundleCall.Answer where
  performs := BundleCall.performs
  drifts := BundleWorld.Drifts
  valid := StagingWorld own
  evolves := StagingEvolves
  spares := SparesKey own
  permits := StagingPermits own minimumAge
  evolves_refl := .refl
  evolves_trans := StagingEvolves.trans
  spares_refl _ _ := .of_history rfl rfl
  spares_trans early late key drawn :=
    ⟨(early key drawn).1 ∘ (late key drawn).1, (late key drawn).2 ∘ (early key drawn).2⟩
  keeps valid permitted performed :=
    have kept := valid.performs keys permitted performed
    ⟨kept.1, kept.2, fun _ different => valid.spares keys permitted performed different⟩
  drift valid drifted :=
    have kept := valid.drifts drifted
    ⟨kept.1, kept.2, fun _ => by cases drifted <;> exact .of_history rfl rfl⟩

/-! ### What a process knows -/

section Contract

variable {ι : Type} {next : BundleWorld}

/-- The key of a claim belongs to no other row than the claimed one. -/
structure ClaimedKey (claim : BundlePublicationClaim) (world : BundleWorld) : Prop where
  valid : validBundlePublicationClaim claim = true
  attached : Attached world claim.stagingKey
  only : ∀ row ∈ world.db.bundles, row.stagingObjectKey = some claim.stagingKey → row.externalID = claim.bundleID

theorem ClaimedKey.evolves (evolves : StagingEvolves world next) (claimed : ClaimedKey claim world) : ClaimedKey claim next := by
  refine ⟨claimed.valid, evolves.of_attached claimed.attached, fun row' member named => ?_⟩
  obtain ⟨row, inside, same, before, -⟩ := evolves.rows _ claimed.attached row' member named
  exact same.symm.trans (claimed.only row inside before)

private theorem claim_claimed (valid : StagingWorld own world) (nextValid : StagingWorld own next)
    (performed : (BundleCall.claimBundlePublication tenantID bundleID token now leaseUntil).performs world (.ok (some claim)) next) :
    ClaimedKey claim next := by
  obtain ⟨row, member, _, _, _, loaded⟩ := claim_loaded valid.distinct performed
  refine ⟨loaded.valid, nextValid.attached row member _ loaded.stagingKey, fun other inside named => ?_⟩
  rw [nextValid.apart other inside row member _ named loaded.stagingKey, loaded.bundle]

private theorem ClaimedKey.retired (valid : StagingWorld own world) (claimed : ClaimedKey claim world)
    (named : row.externalID = claim.bundleID) (replaced : Replaced row row' world.db.bundles bundles)
    (settled : row'.references claim.stagingKey = false) :
    Retired { world with db := { world.db with bundles } } claim.stagingKey := by
  refine ⟨claimed.attached, ?_⟩
  rintro ⟨other, member, referenced⟩
  rcases (replaced.mem_iff valid.distinct).mp member with rfl | ⟨inside, different⟩
  · rw [settled] at referenced
    cases referenced
  · have same := claimed.only other inside (references_iff.mp referenced).1
    exact different (same.trans named.symm)

private theorem completion_retires (valid : StagingWorld own world) (claimed : ClaimedKey claim world)
    (performed : (BundleCall.completeBundlePublication claim readyAt).performs world (.ok done) next) :
    Retired next claim.stagingKey := by
  obtain ⟨answered, rfl⟩ := Returns.ok performed
  obtain ⟨_, db, run, committed⟩ | ⟨error, -, failed⟩ := commit_cases (completeBundlePublication claim readyAt) world.db
  · obtain ⟨-, tenant, -, row, bundles, holds, replaced, rfl⟩ := completeBundlePublication_ok valid.distinct run
    simp only [runs, committed]
    exact claimed.retired valid (holds_externalID holds) replaced (by simp [StoredBundle.references, StoredBundle.complete])
  · simp only [runs, failed] at answered
    cases answered

private theorem abandonment_retires (valid : StagingWorld own world) (claimed : ClaimedKey claim world)
    (performed : (BundleCall.failBundlePublication claim errorCode nextAttempt maxAttempts).performs world (.ok true) next) :
    Retired next claim.stagingKey := by
  obtain ⟨answered, rfl⟩ := Returns.ok performed
  obtain ⟨abandoned, db, run, committed⟩ | ⟨error, -, failed⟩ :=
    commit_cases (failBundlePublication claim errorCode nextAttempt maxAttempts) world.db
  · obtain ⟨tenant, -, row, bundles, holds, replaced, rfl⟩ := failBundlePublication_ok valid.distinct run
    simp only [runs, committed] at answered ⊢
    obtain rfl := Except.ok.inj answered
    exact claimed.retired valid (holds_externalID holds) replaced (by simp [StoredBundle.references, StoredBundle.fail])
  · simp only [runs, failed] at answered
    cases answered

private theorem commit_unattached (valid : StagingWorld own world) (unattached : ¬ Attached world input.stagingObjectKey)
    (performed : (BundleCall.commitBundleUpload input).performs world answer next)
    (faultless : ∀ error, answer = .error error → ¬ Fault error)
    (other : ∀ result, answer = .ok result → result.stagingKey ≠ input.stagingObjectKey) :
    ¬ Attached next input.stagingObjectKey := by
  obtain ⟨id, returned⟩ := performed
  have effect : (commits id input world).1 = answer ∧ next = (commits id input world).2 := by
    cases answer with
    | error error => exact returned.error (faultless error rfl)
    | ok result => exact returned.ok
  obtain ⟨answered, rfl⟩ := effect
  obtain ⟨error, failed⟩ | ⟨result, db, tenant, -, committed⟩ := valid.commits_cases id input
  · rw [failed]
    exact unattached
  · rw [committed] at answered ⊢
    rintro ⟨time, entry⟩
    rcases mem_attaches.mp entry with before | ⟨same, -⟩
    · exact unattached ⟨time, before⟩
    · exact other result answered.symm same

inductive Disposable (own : ι → Option GoString) (minimumAge : Duration) (i : ι) (key : GoString) (world : BundleWorld) : Prop where
  | retired (retired : Retired world key)
  | unattached (drawn : own i = some key) (unattached : ¬ Attached world key)
  | collectable (collectable : Collectable own minimumAge world key)

theorem Disposable.unreferenced (valid : StagingWorld own world) (disposable : Disposable own minimumAge i key world)
    (punctual : PunctualUploads minimumAge world) : ¬ Referenced world key := by
  cases disposable with
  | retired retired => exact retired.2
  | unattached _ unattached =>
    rintro ⟨row, member, referenced⟩
    exact unattached (valid.attached row member key (references_iff.mp referenced).1)
  | collectable collectable => exact collectable.2 punctual

def Seen (own : ι → Option GoString) (now : Instant) (entry : BundleStagingObject) (world : BundleWorld) : Prop :=
  now ≤ world.clock ∧
    ∀ i, own i = some entry.key → ∃ object, world.staged entry.key = some object ∧ object.lastModified = entry.lastModified

private theorem Seen.collectable (seen : Seen own now entry world) (old : entry.lastModified < now - minimumAge)
    (free : world.db.bundles.any (StoredBundle.references entry.key) = false) : Collectable own minimumAge world entry.key := by
  refine ⟨?_, fun _ => ?_⟩
  · by_cases drawn : ∃ i, own i = some entry.key
    · obtain ⟨i, drawn⟩ := drawn
      obtain ⟨object, staged, modified⟩ := seen.2 i drawn
      refine .inr ⟨object, staged, ?_⟩
      have now : now ≤ world.clock := seen.1
      rw [modified]
      exact Int.lt_of_lt_of_le (Int.add_lt_of_lt_sub_right old) now
    · exact .inl (not_exists.mp drawn)
  · rintro ⟨row, member, referenced⟩
    exact List.any_eq_false.mp free row member referenced

private def stagingContract (keys : OwnKeys own) (i : ι) (minimumAge : Duration) :
    BundleContract (stagingRules own keys minimumAge) i minimumAge where
  unstaged key _ world := own i = some key ∧ ¬ Attached world key ∧ world.staged key = none
  deposited key world := own i = some key ∧ ¬ Attached world key
  disposable := Disposable own minimumAge i
  held := ClaimedKey
  copyable claim _ := ¬ IsStagingKey claim.objectKey
  promoted := ClaimedKey
  told now world := now ≤ world.clock
  listed := Seen own
  returned _ _ _ := True
  performs performed := performed
  unstaged_stable key _ _ _ _ _ rely known :=
    ⟨known.1, known.2.1 ∘ (rely.2 key known.1).1, (rely.2 key known.1).2 known.2.2⟩
  deposited_stable key _ _ _ _ rely known := ⟨known.1, known.2 ∘ (rely.2 key known.1).1⟩
  disposable_stable key _ _ _ valid rely known := by
    cases known with
    | retired retired => exact .retired (retired.evolves rely.1)
    | unattached drawn unattached => exact .unattached drawn (unattached ∘ (rely.2 key drawn).1)
    | collectable collectable => exact .collectable (collectable.evolves valid rely.1)
  held_kept _ _ _ _ _ evolves claimed := claimed.evolves evolves
  copyable_kept _ _ _ _ _ _ known := known
  promoted_kept _ _ _ _ _ evolves claimed := claimed.evolves evolves
  told_kept _ _ _ _ _ evolves known := Int.le_trans known evolves.clock
  listed_kept _ _ _ _ _ _ evolves seen := ⟨Int.le_trans seen.1 evolves.clock, fun i drawn =>
    have ⟨object, staged, modified⟩ := seen.2 i drawn
    ⟨object, evolves.staged _ object staged, modified⟩⟩
  returned_kept _ _ _ _ _ _ _ _ := trivial
  free {request _} free := by
    cases request with
    | commitBundleUpload => cases free
    | putObject => cases free
    | copyObject => cases free
    | removeObject => cases free
    | _ => trivial
  put known := ⟨known.1, known.2.2⟩
  commit known _ := known
  copy known := known
  complete _ := trivial
  remove valid disposable := disposable.unreferenced valid
  puts _ known performed := by
    obtain ⟨-, rfl⟩ := Returns.ok performed
    exact ⟨known.1, known.2.1⟩
  displaced valid known performed other :=
    .unattached known.1 (commit_unattached valid known.2 performed (by simp) fun result given => by cases given; exact other)
  rejected valid known performed faultless :=
    .unattached known.1 (commit_unattached valid known.2 performed (fun error given => by cases given; exact faultless) (by simp))
  replayed _ _ _ := trivial
  committed _ _ _ := trivial
  claims valid nextValid performed := claim_claimed valid nextValid performed
  seesFinal _ claimed _ _ := claimed
  seesStaging _ claimed _ _ := by
    obtain ⟨named, objectKey⟩ := validClaim_objectKey claimed.valid
    rw [objectKey]
    exact bundleObjectKey_not_staging named _
  completes valid _ claimed performed := .retired (completion_retires valid claimed performed)
  abandons valid _ claimed performed := .retired (abandonment_retires valid claimed performed)
  reads read := Int.le_of_eq read.1
  lists valid told present entry member := ⟨told, fun i drawn =>
    have ⟨object, here, modified⟩ := present entry member
    ⟨object, valid.objects i _ object drawn here, modified⟩⟩
  unreferenced _ seen _ old free := .collectable (seen.collectable old free)

end Contract

/-! ### Every run -/

/-- Nothing has been staged, and the store holds nothing under the keys that will be drawn. -/
structure Unused (service : BundleService) {ι : Type} (tasks : ι → BundleTask) (world : BundleWorld) : Prop where
  migrated : MigratedDb world.db
  attached : world.attached = []
  staged : ∀ key, world.staged key = none
  objects : ∀ i key, (tasks i).stagingKey service = some key → world.objects key = none

theorem Unused.valid {service : BundleService} {ι : Type} {tasks : ι → BundleTask} (unused : Unused service tasks world) :
    StagingWorld (fun i => (tasks i).stagingKey service) world := by
  have unstaged (row : StoredBundle) (member : row ∈ world.db.bundles) := (unused.migrated.rows row member).unstaged
  refine ⟨unused.migrated.distinct, fun row member key named => ?_, fun row member _ _ key named => ?_, ?_,
    fun i key object drawn present => ?_⟩
  · exact absurd ((unstaged row member).symm.trans named) (by simp)
  · exact absurd ((unstaged row member).symm.trans named) (by simp)
  · rintro key ⟨time, entry⟩
    rw [unused.attached] at entry
    cases entry
  · exact absurd ((unused.objects i key drawn).symm.trans present) (by simp)

/-- No process of any replica is about to remove an object that a live row is to be published
from, in any state that a punctual run of uploads, publications, reconcilers and collectors with
staging keys of their own gets to. -/
theorem referenced_staging_kept {ι : Type} [DecidableEq ι] (service : BundleService) (collector : BundleStagingGarbageCollector)
    (tasks : ι → BundleTask) {world : BundleWorld} (unused : Unused service tasks world)
    (apart : ∀ i j key, (tasks i).stagingKey service = some key → (tasks j).stagingKey service = some key → i = j)
    {pool : Pool ι BundleWorld BundleCall BundleCall.Answer Unit} (reached : Leads (deployment service collector tasks world) pool)
    (punctual : PunctualUploads collector.minimumAge pool.world) {i : ι} {key : GoString} {rest : Except BundleError Unit → BundleProcess Unit}
    (discards : pool.processes i = .call (.removeObject key) rest) : ¬ Referenced pool.world key := by
  have keys : OwnKeys fun i => (tasks i).stagingKey service := ⟨fun _ _ drawn => stagingKey_staging drawn, apart⟩
  have start : (stagingRules _ keys collector.minimumAge).AllSafe (fun _ _ _ => True) (deployment service collector tasks world) := by
    refine ⟨unused.valid, fun i => ?_⟩
    refine (stagingContract keys i collector.minimumAge).task_safe unused.valid rfl fun key drawn => ⟨drawn, ?_, unused.staged key⟩
    rintro ⟨time, entry⟩
    exact absurd (unused.attached ▸ entry) List.not_mem_nil
  obtain ⟨all, -⟩ := start.reaches reached
  exact all.permitted discards punctual

/-! ### The discard after a publication -/

private def discardsNext : BundleProcess Unit → Option GoString
  | .call (.removeObject key) _ => some key
  | _ => none

private theorem discardsNext_any (next : (discardsNext process).any p = true) :
    ∃ key rest, process = .call (.removeObject key) rest ∧ p key = true := by
  unfold discardsNext at next
  split at next
  next key rest => exact ⟨key, rest, rfl, next⟩
  next => cases next

private theorem punctualUploads_of_all
    (checked : world.attached.all (fun entry => (world.staged entry.1).all fun object => decide (entry.2 < object.lastModified + minimumAge)) = true) :
    PunctualUploads minimumAge world := by
  intro key time entry object staged
  have here := List.all_eq_true.mp checked (key, time) entry
  rw [staged] at here
  simpa using here

def completedPool : Pool Bool BundleWorld BundleCall BundleCall.Answer Unit :=
  ⟨((samplePool.processes false).carry attend 13 samplePool.world).2,
    Function.update samplePool.processes false ((samplePool.processes false).carry attend 13 samplePool.world).1⟩

theorem referenced_staging_kept_sample : ∃ key rest, completedPool.processes false = .call (.removeObject key) rest ∧
    completedPool.world.attached.any (fun entry => entry.1 = key) = true ∧ ¬ Referenced completedPool.world key := by
  have about : (discardsNext (completedPool.processes false)).any (fun key =>
      completedPool.world.attached.any fun entry => entry.1 = key) = true := by decide +kernel
  obtain ⟨key, rest, discards, attached⟩ := discardsNext_any about
  have drawn : ∀ i, ((sampleTasks i).stagingKey sampleService).isSome = true → i = false := by decide +kernel
  have alone : ∀ i key, (sampleTasks i).stagingKey sampleService = some key → i = false :=
    fun i key given => drawn i (by rw [given]; rfl)
  have unused : Unused sampleService sampleTasks emptyWorld :=
    ⟨⟨by decide, by decide, by decide, by simp [emptyWorld]⟩, rfl, fun _ => rfl, fun _ _ _ => rfl⟩
  have reached : Leads samplePool completedPool := Pool.carry_reaches attend_performs 13 samplePool false
  have punctual : PunctualUploads hour completedPool.world := punctualUploads_of_all (by decide +kernel)
  refine ⟨key, rest, discards, attached, ?_⟩
  exact referenced_staging_kept sampleService ⟨hour, 100⟩ sampleTasks unused
    (fun i j key left right => (alone i key left).trans (alone j key right).symm) reached punctual discards

end JudgingServer.Proofs
