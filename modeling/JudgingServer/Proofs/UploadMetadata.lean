import JudgingServer.Proofs.UploadIdempotency

/-! The metadata of a bundle wherever they are read. An upload that creates the bundle returns the
reading of the clock that it commits, and its record keeps it, while lookups and uploads under
other keys are answered from the row, which has it in whole milliseconds. -/

namespace JudgingServer.Proofs
open Go External Library

/-- The column keeps the reading as it is. -/
def WholeMilliseconds (now : Instant) : Prop := (Instant.stored now).instant = now

private theorem exact_likeness : Likeness Eq WholeMilliseconds := by
  refine ⟨eq_equivalence, fun {input} valid whole id tenantID now => ?_⟩
  have digest : input.metadata.sha256 = encodeHex input.requestHash := by
    unfold validBundleCommitInput at valid
    split at valid
    next => cases valid
    next => exact (of_decide_eq_true valid).2.2.1
  have created : (Instant.stored input.metadata.createdAt).instant = input.metadata.createdAt := whole
  simp only [StoredBundle.metadata, newBundle, created, ← digest]

private theorem getBundle_ok (found : getBundle tenantID bundleID db = .ok metadata) :
    ∃ row ∈ db.bundles, row.externalID = bundleID ∧ metadata = row.metadata := by
  unfold getBundle findBundle at found
  split_ifs at found
  split at found
  next => cases found
  next row first =>
    obtain ⟨member, holds⟩ := Table.find?_row first
    refine ⟨row, member, holds.2.1, ?_⟩
    unfold scanBundleMetadata at found
    split_ifs at found
    exact (Except.ok.inj found).symm

section Runs

variable {ι : Type} [DecidableEq ι]

/-- Where the call reads the server's clock, the clock is at a whole millisecond. -/
def PerformsOnMilliseconds (request : BundleCall) (world : BundleWorld) (answer : request.Answer) (next : BundleWorld) : Prop :=
  request.performs world answer next ∧ (request = .now → WholeMilliseconds world.clock)

def StepsOnMilliseconds : UploadPool ι → UploadPool ι → Prop := Pool.Step PerformsOnMilliseconds Ticks

theorem StepsOnMilliseconds.reaches {pool later : UploadPool ι} (steps : Relation.ReflTransGen StepsOnMilliseconds pool later) :
    (uploadRules ι exact_likeness fun _ _ => False).Reaches pool later :=
  Relation.ReflTransGen.mono (fun _ _ step => Pool.Step.imp step (fun performed => ⟨performed.1, performed.2, renews_none _ _⟩)
    fun drifted => ⟨drifted, lasting_none _ _⟩) _ _ steps

theorem RowsStay.metadata {db next : BundleDb} {row later : StoredBundle} (stay : RowsStay db next) (distinct : DistinctIDs next.bundles)
    (member : row ∈ db.bundles) (inside : later ∈ next.bundles) (named : row.externalID = later.externalID) :
    row.metadata = later.metadata := by
  obtain ⟨row', present, -, -, same⟩ := stay row member
  have id : row'.externalID = row.externalID := congrArg BundleMetadata.bundleID same
  obtain rfl : row' = later := distinct.eq present inside (id.trans named)
  exact same.symm

/-- Uploads and lookups in any number and interleaving, where no upload reads the clock between two
milliseconds: uploads of the same bytes return the same metadata, whichever of them created the
bundle, and every lookup, before or after, returns those as well. -/
theorem metadata_everywhere (service : BundleService) (uploads : ι → BundleUpload) {world : BundleWorld}
    (recorded : RecordedUploads Eq world.db) {early late : UploadPool ι}
    (reached : Relation.ReflTransGen StepsOnMilliseconds (uploadPool service uploads world) early)
    (continued : Relation.ReflTransGen StepsOnMilliseconds early late) :
    (∀ i j left right, (uploads i).tenantID = (uploads j).tenantID → (uploads i).source = (uploads j).source →
      late.processes i = .done (.ok left) → late.processes j = .done (.ok right) → left.1 = right.1) ∧
    (∀ i value, late.processes i = .done (.ok value) → ∀ tenantID metadata,
      getBundle tenantID value.1.bundleID early.world.db = .ok metadata → metadata = value.1) ∧
    ∀ tenantID bundleID first second, getBundle tenantID bundleID early.world.db = .ok first →
      getBundle tenantID bundleID late.world.db = .ok second → first = second := by
  have start : (uploadRules ι exact_likeness fun _ _ => False).AllSafe
      (fun i => Discipline.OnSuccess (Recalled Eq service (uploads i) fun _ _ => False)) (uploadPool service uploads world) :=
    ⟨recorded, fun i => upload_recalled exact_likeness i recorded⟩
  obtain ⟨before, -⟩ := start.reaches (StepsOnMilliseconds.reaches reached)
  obtain ⟨now, grows⟩ := before.reaches (StepsOnMilliseconds.reaches continued)
  refine ⟨fun i j left right owners same first second => ?_, fun i value finished tenantID metadata found => ?_,
    fun tenantID bundleID first second early late => ?_⟩
  · exact (now.result first left rfl).same eq_equivalence now.valid owners same (now.result second right rfl)
  · obtain ⟨row, member, named, rfl⟩ := getBundle_ok found
    obtain ⟨_, -, _, -, -, ⟨row', inside, -, -, same⟩, -⟩ := now.result finished value rfl
    rw [same] at named ⊢
    exact grows.rows.metadata now.valid.distinct member inside named
  · obtain ⟨row, member, named, rfl⟩ := getBundle_ok early
    obtain ⟨row', inside, named', rfl⟩ := getBundle_ok late
    exact grows.rows.metadata now.valid.distinct member inside (named.trans named'.symm)

end Runs

/-! ### Two clocks -/

def clockedPool (clock : Instant) : UploadPool (Fin 3) :=
  ((uploadPool sampleService repeatedUploads { emptyWorld with clock }).carry 0 20).carry 1 20

/-- The creation times that the two uploads and a lookup after them return. -/
private def creations (clock : Instant) : Option (Instant × Instant × Instant) :=
  match (clockedPool clock).processes 0, (clockedPool clock).processes 1 with
  | .done (.ok left), .done (.ok right) =>
    match getBundle sampleTenant.externalID left.1.bundleID (clockedPool clock).world.db with
    | .ok metadata => some (left.1.createdAt, right.1.createdAt, metadata.createdAt)
    | .error _ => none
  | _, _ => none

private theorem creations_some (returned : creations clock = some times) :
    ∃ left right metadata, (clockedPool clock).processes 0 = .done (.ok left) ∧ (clockedPool clock).processes 1 = .done (.ok right) ∧
      getBundle sampleTenant.externalID left.1.bundleID (clockedPool clock).world.db = .ok metadata ∧
      times = (left.1.createdAt, right.1.createdAt, metadata.createdAt) := by
  unfold creations at returned
  split at returned
  next left right first second =>
    split at returned
    next metadata found => exact ⟨left, right, metadata, first, second, found, (Option.some.inj returned).symm⟩
    next => cases returned
  next => cases returned

private theorem attend_clock (request : BundleCall) (world : BundleWorld) : (attend request world).2.clock = world.clock := by
  cases request with
  | commitBundleUpload input =>
    simp only [attend, External.commits]
    split
    · split_ifs <;> rfl
    · rfl
  | copyObject source target sha256 =>
    simp only [attend, External.copies]
    split <;> rfl
  | _ => rfl

private theorem UploadPool.carry_onMilliseconds (i : Fin 3) (calls : Nat) (whole : WholeMilliseconds pool.world.clock) :
    Relation.ReflTransGen StepsOnMilliseconds pool (pool.carry i calls) ∧ WholeMilliseconds (pool.carry i calls).world.clock := by
  refine Pool.carry_keeps (fun world : BundleWorld => WholeMilliseconds world.clock) (fun request world whole => ?_) calls pool i whole
  rw [attend_clock]
  exact ⟨⟨attend_performs request world, fun _ => whole⟩, whole⟩

theorem metadata_everywhere_sample : ∃ left right metadata, (clockedPool second).processes 0 = .done (.ok left) ∧
    (clockedPool second).processes 1 = .done (.ok right) ∧
    getBundle sampleTenant.externalID left.1.bundleID (clockedPool second).world.db = .ok metadata ∧ left.1 = right.1 ∧
    metadata = left.1 := by
  have recorded : RecordedUploads Eq emptyWorld.db := ⟨by decide, by decide, by decide, by decide, by simp [emptyWorld]⟩
  have start : WholeMilliseconds (uploadPool sampleService repeatedUploads { emptyWorld with clock := second }).world.clock := by
    unfold WholeMilliseconds
    decide +kernel
  obtain ⟨early, whole⟩ := UploadPool.carry_onMilliseconds 0 20 start
  have reached : Relation.ReflTransGen StepsOnMilliseconds (uploadPool sampleService repeatedUploads { emptyWorld with clock := second })
      (clockedPool second) := early.trans (UploadPool.carry_onMilliseconds 1 20 whole).1
  obtain ⟨left, right, metadata, first, other, found, -⟩ := creations_some (by decide +kernel : creations second = some (second, second, second))
  obtain ⟨uploads, lookups, -⟩ := metadata_everywhere sampleService repeatedUploads recorded reached .refl
  exact ⟨left, right, metadata, first, other, found, uploads 0 1 left right rfl rfl first other, lookups 0 left first _ metadata found⟩

/-- On a clock with nanoseconds the upload that creates a bundle returns another creation time than
the next upload of the same bytes and a lookup. -/
theorem metadata_rounded : ∃ left right metadata,
    Relation.ReflTransGen (Pool.Step BundleCall.performs Ticks)
      (uploadPool sampleService repeatedUploads { emptyWorld with clock := second + 1 }) (clockedPool (second + 1)) ∧
    (repeatedUploads 0).source = (repeatedUploads 1).source ∧ (clockedPool (second + 1)).processes 0 = .done (.ok left) ∧
    (clockedPool (second + 1)).processes 1 = .done (.ok right) ∧
    getBundle sampleTenant.externalID left.1.bundleID (clockedPool (second + 1)).world.db = .ok metadata ∧
    left.1 ≠ right.1 ∧ metadata ≠ left.1 := by
  obtain ⟨left, right, metadata, first, other, found, times⟩ :=
    creations_some (by decide +kernel : creations (second + 1) = some (second + 1, second, second))
  obtain ⟨created, later, read⟩ : second + 1 = left.1.createdAt ∧ second = right.1.createdAt ∧ second = metadata.createdAt := by
    simpa only [Prod.mk.injEq] using times
  have rounded : second ≠ second + 1 := by decide
  refine ⟨left, right, metadata, (Pool.carry_reaches attend_performs 20 _ 0).trans (Pool.carry_reaches attend_performs 20 _ 1), rfl, first,
    other, found, fun same => ?_, fun same => ?_⟩
  · exact rounded (by rw [created, same, ← later])
  · exact rounded (by rw [created, ← same, ← read])

end JudgingServer.Proofs
