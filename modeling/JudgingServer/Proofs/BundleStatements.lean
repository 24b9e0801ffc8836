import JudgingServer.External.BundleStore

/-! What the transactions of the bundle repository do to the table of bundles, once
they commit, and what every step does to a row of it. -/

namespace JudgingServer.Proofs
open Go Bundle External Library Table Transaction

variable {db : BundleDb} {keyDigest : Bytes} {errorCode : GoString} {leaseUntil nextAttempt readyAt : Instant}
  {visits : List Nat} {limit maxAttempts : Nat} {row' : StoredBundle} {p : StoredBundle → Bool}

variable {input : BundleCommitInput} {result : BundleCommitResult} {claim : BundlePublicationClaim} {digest : Bytes}
  {bundleID token : GoString} {revives : GoString → Prop} {before now : Instant} {id tenantID : Nat} {row : StoredBundle}
  {completes : StoredBundle → Prop} {tenant : TenantRow} {done : Unit} {record : UploadRecord}

/-- `uk_external_bundle_external_id`. -/
abbrev DistinctIDs (rows : List StoredBundle) : Prop := Keyed (fun row : StoredBundle => row.externalID) rows

/-- The columns of a bundle that never change. -/
structure SameBundle (row row' : StoredBundle) : Prop where
  id : row'.id = row.id
  externalID : row'.externalID = row.externalID
  tenantID : row'.tenantID = row.tenantID
  sha256 : row'.sha256 = row.sha256
  objectKey : row'.objectKey = row.objectKey
  sizeBytes : row'.sizeBytes = row.sizeBytes
  deletedAt : row'.deletedAt = row.deletedAt

/-- What a statement makes of one row. Which rows it may complete, and under which keys it
may revive them, is up to the transaction. -/
inductive Turn (completes : StoredBundle → Prop) (revives : GoString → Prop) (row : StoredBundle) : StoredBundle → Prop where
  | same : Turn completes revives row row
  | retained : Turn completes revives row { row with deleteMarkedAt := none }
  | revived (key : GoString) (nextAttempt : Time) (fresh : revives key)
      (spent : row.publicationStatus = .abandoned ∨ row.stagingObjectKey = none) :
      Turn completes revives row (row.revive key nextAttempt)
  | leased (token : GoString) (leaseUntil : Time) (staged : row.stagingObjectKey.isSome = true)
      (open_ : row.publicationStatus = .pending ∨ row.publicationStatus = .publishing) :
      Turn completes revives row (row.lease token leaseUntil)
  | completed (readyAt : Time) (held : completes row) (publishing : row.publicationStatus = .publishing) :
      Turn completes revives row (row.complete readyAt)
  | failed (abandoned : Bool) (code : GoString) (nextAttempt : Time) (publishing : row.publicationStatus = .publishing) :
      Turn completes revives row (row.fail abandoned code nextAttempt)
  | abandoned (now : Time) (unstaged : row.stagingObjectKey = none)
      (open_ : row.publicationStatus = .pending ∨ row.publicationStatus = .publishing) :
      Turn completes revives row (row.abandon now)

theorem Turn.same_bundle (turn : Turn completes revives row row') : SameBundle row row' := by
  cases turn <;> exact ⟨rfl, rfl, rfl, rfl, rfl, rfl, rfl⟩

/-- What a transaction makes of the table: every row takes a turn. -/
structure Turned (completes : StoredBundle → Prop) (revives : GoString → Prop) (db next : BundleDb) : Prop where
  rows : List.Forall₂ (Turn completes revives) db.bundles next.bundles
  tenants : next.tenants = db.tenants

theorem Turned.refl (db : BundleDb) : Turned completes revives db db :=
  ⟨List.forall₂_same.mpr fun _ _ => .same, rfl⟩

theorem Turned.replaced (turn : Turn completes revives row row') (replaced : Replaced row row' db.bundles bundles) :
    Turned completes revives db { db with bundles } :=
  ⟨replaced.forall₂ (fun _ => .same) turn, rfl⟩

private theorem commit_turned {α : Type} {tx : BundleTx α}
    (each : ∀ value next, tx db = .ok (value, next) → Turned completes revives db next) :
    Turned completes revives db (tx.commit db).2 := by
  obtain ⟨value, next, run, committed⟩ | ⟨error, _, rolledBack⟩ := commit_cases tx db
  · rw [committed]
    exact each value next run
  · rw [rolledBack]
    exact .refl db

/-- An upload whose commit creates a new row for the tenant. -/
structure Creates (id : Nat) (input : BundleCommitInput) (db : BundleDb) (tenant : TenantRow) : Prop where
  valid : validBundleCommitInput input = true
  found : activeTenant input.tenantID db = some tenant
  allowed : ∃ policy, decodeTenantPolicy tenant.policyJSON = some policy ∧ bundleWithinTenantPolicy input policy = true
  unrecorded : (expireUploads tenant.id input.idempotencyDigest db).uploads.any
    (UploadRecord.isFor tenant.id input.idempotencyDigest) = false
  unknown : db.bundles.find? (StoredBundle.hasDigest tenant.id input.requestHash) = none
  unique : db.bundles.any (newBundle id tenant.id input db.now).clashes = false

/-- The outcome of an upload's commit: the result it reports and the table it leaves behind. -/
inductive Uploads (id : Nat) (input : BundleCommitInput) (db : BundleDb) (tenant : TenantRow) :
    BundleCommitResult → List StoredBundle → Prop where
  | replayed {row : StoredBundle} (member : row ∈ db.bundles) (metadata : BundleMetadata)
      (staged : bundlePublicationNeedsFreshStaging row.publicationStatus (row.stagingObjectKey.getD []) = false) :
      Uploads id input db tenant ⟨metadata, true, row.publicationStatus, row.stagingObjectKey.getD []⟩ db.bundles
  | retained {row : StoredBundle} (member : row ∈ db.bundles) (metadata : BundleMetadata)
      (staged : bundlePublicationNeedsFreshStaging row.publicationStatus (row.stagingObjectKey.getD []) = false) :
      Uploads id input db tenant ⟨metadata, true, row.publicationStatus, row.stagingObjectKey.getD []⟩
        (retainBundle tenant.id metadata.bundleID db).bundles
  | revived {row : StoredBundle} (metadata : BundleMetadata)
      (revivable : row.revivable tenant.id metadata.bundleID input.requestHash = true)
      (replaced : Replaced row (row.revive input.stagingObjectKey (Instant.stored input.metadata.createdAt)) db.bundles bundles) :
      Uploads id input db tenant ⟨metadata, true, .pending, input.stagingObjectKey⟩ bundles
  | created (creates : Creates id input db tenant) :
      Uploads id input db tenant ⟨input.metadata, false, .pending, input.stagingObjectKey⟩
        (db.bundles ++ [newBundle id tenant.id input db.now])

/-- The metadata that are reported of a stored bundle are those of the upload that created it,
or those of the row that the digest has. -/
def Reports (id : Nat) (input : BundleCommitInput) (db : BundleDb) (tenant : TenantRow) (metadata : BundleMetadata)
    (bundles : List StoredBundle) : Prop :=
  metadata = input.metadata ∧ newBundle id tenant.id input db.now ∈ bundles ∨
    ∃ row ∈ db.bundles, row.hasDigest tenant.id input.requestHash = true ∧ metadata = row.metadata

/-- A commit replays the record of its key, or leaves one. -/
inductive Leaves (id : Nat) (input : BundleCommitInput) (db : BundleDb) (tenant : TenantRow) (result : BundleCommitResult)
    (next : BundleDb) : Prop where
  | replayed {record : UploadRecord} (member : record ∈ (expireUploads tenant.id input.idempotencyDigest db).uploads)
      (isFor : record.isFor tenant.id input.idempotencyDigest = true) (hash : record.requestHash = input.requestHash)
      (metadata : result.metadata = record.response)
      (uploads : next.uploads = (expireUploads tenant.id input.idempotencyDigest db).uploads)
  | recorded (reports : Reports id input db tenant result.metadata next.bundles)
      (free : (expireUploads tenant.id input.idempotencyDigest db).uploads.any
        (UploadRecord.isFor tenant.id input.idempotencyDigest) = false)
      (uploads : next.uploads = (expireUploads tenant.id input.idempotencyDigest db).uploads ++
        [uploadRecord tenant.id input result.metadata result.replay])

section Statements

variable {db next : BundleDb} {uploads : List UploadRecord}

theorem activeTenant_some (found : activeTenant externalID db = some tenant) :
    tenant ∈ db.tenants ∧ tenant.externalID = externalID ∧ tenant.status = .active :=
  find?_row found

private theorem updateBundle_ok (keyed : DistinctIDs db.bundles) (only : ∀ row, p row = true → row.externalID = bundleID)
    (ran : updateBundle p f error db = .ok (done, next)) :
    ∃ row bundles, p row = true ∧ Replaced row (f row) db.bundles bundles ∧ next = { db with bundles } := by
  unfold updateBundle at ran
  have ran := after_query ran
  obtain ⟨one, ran⟩ := after_ensure ran
  obtain rfl := execute_ok ran
  have positive : 0 < db.bundles.countP p := by
    have counted : db.bundles.countP p = 1 := by simpa using one
    omega
  obtain ⟨row, member, holds⟩ := List.countP_pos_iff.mp positive
  refine ⟨row, _, holds, update_replaced keyed member holds ?_, rfl⟩
  intro other _ matched
  rw [only other matched, only row holds]

theorem updateBundle_run (keyed : DistinctIDs db.bundles) (only : ∀ other, p other = true → other.externalID = row.externalID)
    (member : row ∈ db.bundles) (holds : p row = true) (f : StoredBundle → StoredBundle) (error : BundleError) :
    updateBundle p f error db = .ok ((), { db with bundles := update p f db.bundles }) := by
  have one : db.bundles.countP p = 1 := countP_one keyed member holds fun other _ matched => only other matched
  unfold updateBundle
  rw [query_bind, ensure_bind (by simp [one])]
  rfl

private theorem revivable_externalID (revivable : row.revivable tenantID bundleID digest = true) : row.externalID = bundleID := by
  simp only [StoredBundle.revivable, decide_eq_true_eq] at revivable
  exact revivable.2.1

private theorem reviveBundlePublication_ok (keyed : DistinctIDs db.bundles)
    (ran : reviveBundlePublication tenantID bundleID input db = .ok (done, next)) :
    ∃ row bundles, row.revivable tenantID bundleID input.requestHash = true ∧
      Replaced row (row.revive input.stagingObjectKey (Instant.stored input.metadata.createdAt)) db.bundles bundles ∧
      next = { db with bundles } :=
  updateBundle_ok keyed (fun _ => revivable_externalID) ran

private theorem findUpload_some (found : findUpload tenantID keyDigest db = some (record, row)) :
    row ∈ db.bundles ∧ record ∈ db.uploads ∧ record.isFor tenantID keyDigest = true := by
  obtain ⟨other, listed, joined⟩ := List.mem_filterMap.mp (List.mem_of_head? found)
  unfold joinUpload at joined
  obtain ⟨bundle, recorded, paired⟩ := Option.map_eq_some_iff.mp joined
  obtain ⟨rfl, rfl⟩ := Prod.mk.inj paired
  exact ⟨List.mem_of_find?_eq_some recorded, List.mem_filter.mp listed⟩

private theorem replayUpload_ok (keyed : DistinctIDs db.bundles) (member : row ∈ db.bundles)
    (ran : replayUpload tenant.id input record row { db with uploads } = .ok (result, next)) :
    Uploads id input db tenant result next.bundles ∧ next = { db with uploads, bundles := next.bundles } ∧
      record.requestHash = input.requestHash ∧ result.metadata = record.response := by
  unfold replayUpload at ran
  obtain ⟨-, ran⟩ := after_ensure ran
  obtain ⟨same, ran⟩ := after_ensure ran
  obtain ⟨-, ran⟩ := after_ensure ran
  dsimp only at ran
  split at ran
  next =>
    obtain ⟨_, _, revival, ran⟩ := bind_ok ran
    obtain ⟨old, bundles, revivable, replaced, rfl⟩ := reviveBundlePublication_ok (by exact keyed) revival
    obtain ⟨rfl, rfl⟩ := pure_ok ran
    exact ⟨.revived record.response revivable replaced, rfl, of_decide_eq_true same, rfl⟩
  next staged =>
    obtain ⟨rfl, rfl⟩ := pure_ok ran
    exact ⟨.replayed member record.response (by simpa using staged), rfl, of_decide_eq_true same, rfl⟩

private theorem findBundleByDigest_some (found : findBundleByDigest tenantID digest db = .ok (some (metadata, status, stagingKey))) :
    ∃ row ∈ db.bundles, row.hasDigest tenantID digest = true ∧ metadata = row.metadata ∧ status = row.publicationStatus ∧
      stagingKey = row.stagingObjectKey.getD [] := by
  unfold findBundleByDigest at found
  split at found
  next => cases found
  next row lookup =>
    unfold scanBundleMetadata at found
    split_ifs at found
    obtain ⟨rfl, same⟩ := Prod.mk.inj (Option.some.inj (Except.ok.inj found))
    obtain ⟨rfl, rfl⟩ := Prod.mk.inj same
    exact ⟨row, List.mem_of_find?_eq_some lookup, List.find?_some lookup, rfl, rfl, rfl⟩

private theorem findBundleByDigest_none (found : findBundleByDigest tenantID digest db = .ok none) :
    db.bundles.find? (StoredBundle.hasDigest tenantID digest) = none := by
  unfold findBundleByDigest at found
  split at found
  next lookup => exact lookup
  next =>
    split at found
    next => cases found
    next => cases found

private theorem insertUpload_ok (ran : insertUpload record db = .ok (done, next)) :
    db.uploads.any (UploadRecord.isFor record.tenantID record.keyDigest) = false ∧
      next = { db with uploads := db.uploads ++ [record] } := by
  unfold insertUpload at ran
  have ran := after_query ran
  obtain ⟨free, ran⟩ := after_ensure ran
  exact ⟨by simpa using free, execute_ok ran⟩

private theorem insertBundle_ok (ran : insertBundle row db = .ok (done, next)) :
    db.bundles.any row.clashes = false ∧ next = { db with bundles := db.bundles ++ [row] } := by
  unfold insertBundle at ran
  have ran := after_query ran
  obtain ⟨free, ran⟩ := after_ensure ran
  exact ⟨by simpa using free, execute_ok ran⟩

private theorem storeBundle_ok (keyed : DistinctIDs db.bundles)
    (creates : db.bundles.find? (StoredBundle.hasDigest tenant.id input.requestHash) = none → db.bundles.any (newBundle id tenant.id input db.now).clashes = false → uploads.any (UploadRecord.isFor tenant.id input.idempotencyDigest) = false → Creates id input db tenant)
    (ran : storeBundle id tenant.id input { db with uploads } = .ok (result, next)) :
    next = { db with uploads, bundles := next.bundles } ∧ Reports id input db tenant result.metadata next.bundles ∧
      (uploads.any (UploadRecord.isFor tenant.id input.idempotencyDigest) = false →
        Uploads id input db tenant result next.bundles) := by
  unfold storeBundle at ran
  obtain ⟨found, lookup, ran⟩ := after_attempt ran
  rcases found with _ | ⟨metadata, status, stagingKey⟩
  · dsimp only at ran
    have ran := after_query ran
    obtain ⟨_, _, insertion, ran⟩ := bind_ok ran
    obtain ⟨unique, rfl⟩ := insertBundle_ok insertion
    obtain ⟨rfl, rfl⟩ := pure_ok ran
    exact ⟨rfl, .inl ⟨rfl, List.mem_append_right _ (List.mem_singleton.mpr rfl)⟩,
      fun unrecorded => .created (creates (findBundleByDigest_none lookup) unique unrecorded)⟩
  · dsimp only at ran
    obtain ⟨row, member, known, rfl, rfl, rfl⟩ := findBundleByDigest_some lookup
    split at ran
    next =>
      obtain ⟨_, _, revival, ran⟩ := bind_ok ran
      obtain ⟨old, bundles, revivable, replaced, rfl⟩ := reviveBundlePublication_ok (by exact keyed) revival
      obtain ⟨rfl, rfl⟩ := pure_ok ran
      exact ⟨rfl, .inr ⟨row, member, known, rfl⟩, fun _ => .revived _ revivable replaced⟩
    next staged =>
      have ran := after_execute ran
      obtain ⟨rfl, rfl⟩ := pure_ok ran
      exact ⟨rfl, .inr ⟨row, member, known, rfl⟩, fun _ => .retained (by exact member) _ (by simpa using staged)⟩

theorem commitBundleUpload_ok (keyed : DistinctIDs db.bundles) (ran : commitBundleUpload id input db = .ok (result, next)) :
    validBundleCommitInput input = true ∧ ∃ tenant, activeTenant input.tenantID db = some tenant ∧
      Uploads id input db tenant result next.bundles ∧ Leaves id input db tenant result next ∧ next.now = db.now ∧
      next.tenants = db.tenants := by
  unfold commitBundleUpload at ran
  obtain ⟨valid, ran⟩ := after_ensure ran
  obtain ⟨tenant, found, ran⟩ := after_require ran
  obtain ⟨policy, decoded, ran⟩ := after_require ran
  obtain ⟨within, ran⟩ := after_ensure ran
  have ran := after_execute ran
  obtain ⟨replay, _, lookup, ran⟩ := bind_ok ran
  obtain ⟨recorded, rfl⟩ := query_ok lookup
  refine ⟨valid, tenant, found, ?_⟩
  rcases replay with _ | ⟨record, row⟩
  · dsimp only at ran
    obtain ⟨stored, middle, store, ran⟩ := bind_ok ran
    have creates := fun unknown unique unrecorded =>
      (⟨valid, found, ⟨policy, decoded, within⟩, unrecorded, unknown, unique⟩ : Creates id input db tenant)
    obtain ⟨frame, reports, outcome⟩ := storeBundle_ok keyed creates store
    obtain ⟨_, _, insertion, ran⟩ := bind_ok ran
    obtain ⟨unrecorded, rfl⟩ := insertUpload_ok insertion
    obtain ⟨rfl, rfl⟩ := pure_ok ran
    rw [frame] at unrecorded
    exact ⟨outcome unrecorded, .recorded reports unrecorded (congrArg (fun db => db.uploads ++ _) frame), by rw [frame], by rw [frame]⟩
  · obtain ⟨member, listed, isFor⟩ := findUpload_some recorded
    obtain ⟨uploads, frame, same, metadata⟩ := replayUpload_ok keyed member ran
    have kept : next.uploads = _ := congrArg BundleDb.uploads frame
    exact ⟨uploads, .replayed listed isFor same metadata kept, by rw [frame], by rw [frame]⟩

private theorem insertBundle_run (free : db.bundles.any row.clashes = false) :
    insertBundle row db = .ok ((), { db with bundles := db.bundles ++ [row] }) := by
  unfold insertBundle
  rw [query_bind, ensure_bind (by simp [free])]
  rfl

private theorem insertUpload_run (free : db.uploads.any (UploadRecord.isFor record.tenantID record.keyDigest) = false) :
    insertUpload record db = .ok ((), { db with uploads := db.uploads ++ [record] }) := by
  unfold insertUpload
  rw [query_bind, ensure_bind (by simp [free])]
  rfl

private theorem storeBundle_run (unknown : db.bundles.find? (StoredBundle.hasDigest tenantID input.requestHash) = none)
    (unique : db.bundles.any (newBundle id tenantID input db.now).clashes = false) :
    storeBundle id tenantID input db = .ok (⟨input.metadata, false, .pending, input.stagingObjectKey⟩,
      { db with bundles := db.bundles ++ [newBundle id tenantID input db.now] }) := by
  have lookup : findBundleByDigest tenantID input.requestHash db = .ok none := by
    unfold findBundleByDigest
    rw [unknown]
  unfold storeBundle
  rw [bind_run (attempt_run lookup)]
  dsimp only
  rw [query_bind, bind_run (insertBundle_run unique)]
  rfl

private theorem findUpload_none (free : db.uploads.any (UploadRecord.isFor tenantID keyDigest) = false) :
    findUpload tenantID keyDigest db = none := by
  have empty : db.uploads.filter (UploadRecord.isFor tenantID keyDigest) = [] :=
    List.filter_eq_nil_iff.mpr (List.any_eq_false.mp free)
  simp [findUpload, empty]

theorem commitBundleUpload_creates (creates : Creates id input db tenant) :
    commitBundleUpload id input db = .ok (⟨input.metadata, false, .pending, input.stagingObjectKey⟩,
      { db with
        bundles := db.bundles ++ [newBundle id tenant.id input db.now]
        uploads := (expireUploads tenant.id input.idempotencyDigest db).uploads ++
          [uploadRecord tenant.id input input.metadata false] }) := by
  obtain ⟨policy, decoded, within⟩ := creates.allowed
  have unrecorded := creates.unrecorded
  unfold commitBundleUpload
  rw [ensure_bind creates.valid, require_bind creates.found]
  refine Eq.trans (require_bind (by exact decoded) _) ?_
  rw [ensure_bind within, execute_bind, query_bind, findUpload_none unrecorded]
  dsimp only
  refine Eq.trans (bind_run (storeBundle_run (by exact creates.unknown) (by exact creates.unique)) _) ?_
  exact Eq.trans (bind_run (insertUpload_run (by exact unrecorded)) _) rfl

/-! ### Publication -/

structure ClaimOf (claim : BundlePublicationClaim) (tenantID : GoString) (row : StoredBundle) : Prop where
  valid : validBundlePublicationClaim claim = true
  tenant : claim.tenantID = tenantID
  bundle : claim.bundleID = row.externalID
  objectKey : claim.objectKey = row.objectKey
  stagingKey : row.stagingObjectKey = some claim.stagingKey
  requestHash : claim.requestHash = row.sha256
  sizeBytes : claim.sizeBytes = row.sizeBytes

private theorem claimable_cases (claimable : row.claimable now = true) :
    row.stagingObjectKey.isSome = true ∧ row.deletedAt = none ∧
      (row.publicationStatus = .pending ∨ row.publicationStatus = .publishing) := by
  simp only [StoredBundle.claimable, decide_eq_true_eq, Option.isNone_iff_eq_none] at claimable
  obtain ⟨staged, live, -, waiting⟩ := claimable
  exact ⟨staged, live, waiting.imp And.left And.left⟩

private theorem awaits_iff :
    row.awaits tenantID bundleID now = true ↔ row.tenantID = tenantID ∧ row.externalID = bundleID ∧ row.claimable now = true := by
  simp [StoredBundle.awaits]

private theorem loadBundlePublicationClaim_ok (loaded : loadBundlePublicationClaim tenantID bundleID token db = .ok claim) :
    ∃ row ∈ db.bundles, ∃ tenant ∈ db.tenants, tenant.id = tenantID ∧ row.tenantID = tenantID ∧ row.externalID = bundleID ∧
      row.publishLeaseToken = some token ∧ scanBundlePublicationClaim tenant row = .ok claim := by
  unfold loadBundlePublicationClaim at loaded
  split at loaded
  next row tenant found joined =>
    obtain ⟨member, selected⟩ := find?_row found
    obtain ⟨inside, named⟩ := find?_row joined
    exact ⟨row, member, tenant, inside, named, selected.1, selected.2.1, selected.2.2, loaded⟩
  next => cases loaded

private theorem scanBundlePublicationClaim_ok (staged : row.stagingObjectKey.isSome = true)
    (scanned : scanBundlePublicationClaim tenant row = .ok claim) : ClaimOf claim tenant.externalID row := by
  unfold scanBundlePublicationClaim at scanned
  dsimp only at scanned
  split_ifs at scanned with _ invalid
  obtain rfl := Except.ok.inj scanned
  obtain ⟨key, given⟩ := Option.isSome_iff_exists.mp staged
  exact ⟨by simpa using invalid, rfl, rfl, rfl, by simp [given], rfl, rfl⟩

theorem claimBundlePublication_ok {tenantID : GoString} {outcome : Option BundlePublicationClaim}
    (keyed : DistinctIDs db.bundles)
    (ran : claimBundlePublication tenantID bundleID token now leaseUntil db = .ok (outcome, next)) :
    outcome = none ∧ next = db ∨
    ∃ claim row bundles, ∃ tenant ∈ db.tenants, outcome = some claim ∧ row.tenantID = tenant.id ∧ row.claimable now = true ∧
      Replaced row (row.lease token (Instant.stored leaseUntil)) db.bundles bundles ∧ next = { db with bundles } ∧
      claim.leaseToken = token ∧ ClaimOf claim tenant.externalID (row.lease token (Instant.stored leaseUntil)) := by
  unfold claimBundlePublication at ran
  obtain ⟨-, ran⟩ := after_ensure ran
  obtain ⟨tenant, -, ran⟩ := after_require ran
  dsimp only at ran
  obtain ⟨count, _, counting, ran⟩ := bind_ok ran
  obtain ⟨counted, rfl⟩ := query_ok counting
  split at ran
  next =>
    obtain ⟨rfl, rfl⟩ := pure_ok ran
    exact .inl ⟨rfl, rfl⟩
  next one =>
    have ran := after_execute ran
    obtain ⟨claim, _, loading, ran⟩ := bind_ok ran
    obtain ⟨loaded, rfl⟩ := attempt_ok (wrap_ok loading)
    obtain ⟨rfl, rfl⟩ := pure_ok ran
    have positive : 0 < db.bundles.countP (StoredBundle.awaits tenant.id bundleID now) := by
      rw [counted]
      omega
    obtain ⟨row, member, awaits⟩ := List.countP_pos_iff.mp positive
    obtain ⟨ours, named, claimable⟩ := awaits_iff.mp awaits
    have replaced := update_replaced (f := StoredBundle.lease token (Instant.stored leaseUntil)) keyed member awaits
      fun other _ alike => (awaits_iff.mp alike).2.1.trans named.symm
    obtain ⟨leased, inside, joined, present, joinedID, leasedTenant, leasedName, leasedToken, scanned⟩ :=
      loadBundlePublicationClaim_ok loaded
    have same : leased = row.lease token (Instant.stored leaseUntil) := by
      have distinct : DistinctIDs _ := replaced.keyed keyed rfl
      exact distinct.eq inside replaced.mem_right (leasedName.trans named.symm)
    subst same
    have loadedClaim := scanBundlePublicationClaim_ok (by exact (claimable_cases claimable).1) scanned
    have tokenLoaded : claim.leaseToken = token := by
      unfold scanBundlePublicationClaim at scanned
      dsimp only at scanned
      split_ifs at scanned
      obtain rfl := Except.ok.inj scanned
      rfl
    exact .inr ⟨claim, row, _, joined, present, rfl, ours.trans joinedID.symm, claimable, replaced, rfl, tokenLoaded, loadedClaim⟩

theorem holds_externalID (holds : claim.holds tenantID row = true) : row.externalID = claim.bundleID := by
  simp only [BundlePublicationClaim.holds, decide_eq_true_eq] at holds
  exact holds.2.1

theorem completeBundlePublication_ok (keyed : DistinctIDs db.bundles)
    (ran : completeBundlePublication claim readyAt db = .ok (done, next)) :
    (validBundlePublicationClaim claim = true ∧ readyAt ≠ 0) ∧ ∃ tenant, activeTenant claim.tenantID db = some tenant ∧
      ∃ row bundles, claim.holds tenant.id row = true ∧
        Replaced row (row.complete (Instant.stored readyAt)) db.bundles bundles ∧ next = { db with bundles } := by
  unfold completeBundlePublication at ran
  obtain ⟨valid, ran⟩ := after_ensure ran
  obtain ⟨tenant, found, ran⟩ := after_require ran
  exact ⟨by simpa using valid, tenant, found, updateBundle_ok keyed (fun _ => holds_externalID) ran⟩

theorem failBundlePublication_ok (keyed : DistinctIDs db.bundles)
    (ran : failBundlePublication claim errorCode nextAttempt maxAttempts db = .ok (abandoned, next)) :
    ∃ tenant, activeTenant claim.tenantID db = some tenant ∧ ∃ row bundles, claim.holds tenant.id row = true ∧
      Replaced row (row.fail abandoned errorCode (Instant.stored nextAttempt)) db.bundles bundles ∧ next = { db with bundles } := by
  unfold failBundlePublication at ran
  obtain ⟨-, ran⟩ := after_ensure ran
  dsimp only at ran
  obtain ⟨tenant, found, ran⟩ := after_require ran
  obtain ⟨_, _, write, ran⟩ := bind_ok ran
  obtain ⟨rfl, rfl⟩ := pure_ok ran
  exact ⟨tenant, found, updateBundle_ok keyed (fun _ => holds_externalID) write⟩

theorem sweepUnrecoverableBundlePublications_ok
    (ran : sweepUnrecoverableBundlePublications visits before limit db = .ok (swept, next)) :
    ∃ hit : StoredBundle → Bool, (∀ row, hit row = true → row.unrecoverable before db.now = true) ∧
      next = { db with bundles := update hit (StoredBundle.abandon db.now) db.bundles } := by
  unfold sweepUnrecoverableBundlePublications at ran
  obtain ⟨-, ran⟩ := after_ensure ran
  have ran := after_query ran
  obtain ⟨matching, _, reading, ran⟩ := bind_ok ran
  obtain ⟨-, rfl⟩ := query_ok reading
  dsimp only at ran
  obtain ⟨affected, _, counting, ran⟩ := bind_ok ran
  obtain ⟨-, rfl⟩ := query_ok counting
  have ran := after_execute ran
  obtain ⟨-, rfl⟩ := pure_ok ran
  refine ⟨_, fun row matched => ?_, rfl⟩
  simp only [Bool.and_eq_true] at matched
  exact matched.1

theorem holds_publishing (holds : claim.holds tenantID row = true) : row.publicationStatus = .publishing := by
  simp only [BundlePublicationClaim.holds, decide_eq_true_eq] at holds
  exact holds.2.2.2.1

private theorem revivable_spent (revivable : row.revivable tenantID bundleID digest = true) :
    row.publicationStatus = .abandoned ∨ row.stagingObjectKey = none := by
  simp only [StoredBundle.revivable, decide_eq_true_eq, Option.isNone_iff_eq_none] at revivable
  exact revivable.2.2.2.2

private theorem unrecoverable_open {now : Time} (unrecoverable : row.unrecoverable before now = true) :
    row.stagingObjectKey = none ∧ (row.publicationStatus = .pending ∨ row.publicationStatus = .publishing) := by
  simp only [StoredBundle.unrecoverable, decide_eq_true_eq, Option.isNone_iff_eq_none] at unrecoverable
  exact ⟨unrecoverable.1, unrecoverable.2.2.2.1⟩

/-! ### What each transaction does to the table -/

section

variable (keyed : DistinctIDs db.bundles)
include keyed

theorem claimBundlePublication_turned {tenantID : GoString} :
    Turned (fun _ => False) (fun _ => False) db ((claimBundlePublication tenantID bundleID token now leaseUntil).commit db).2 := by
  refine commit_turned fun outcome next ran => ?_
  obtain ⟨-, rfl⟩ | ⟨claim, row, bundles, tenant, -, -, -, claimable, replaced, rfl, -⟩ := claimBundlePublication_ok keyed ran
  · exact .refl _
  · obtain ⟨staged, -, waiting⟩ := claimable_cases claimable
    exact .replaced (.leased token _ staged waiting) replaced

theorem completeBundlePublication_turned :
    Turned (fun row => ∃ tenant ∈ db.tenants, tenant.externalID = claim.tenantID ∧ claim.holds tenant.id row = true) (fun _ => False) db
      ((completeBundlePublication claim readyAt).commit db).2 := by
  refine commit_turned fun _ next ran => ?_
  obtain ⟨-, tenant, found, row, bundles, holds, replaced, rfl⟩ := completeBundlePublication_ok keyed ran
  obtain ⟨member, named, -⟩ := activeTenant_some found
  exact .replaced (.completed _ ⟨tenant, member, named, holds⟩ (holds_publishing holds)) replaced

theorem failBundlePublication_turned :
    Turned (fun _ => False) (fun _ => False) db ((failBundlePublication claim errorCode nextAttempt maxAttempts).commit db).2 := by
  refine commit_turned fun abandoned next ran => ?_
  obtain ⟨tenant, -, row, bundles, holds, replaced, rfl⟩ := failBundlePublication_ok keyed ran
  exact .replaced (.failed abandoned errorCode _ (holds_publishing holds)) replaced

end

theorem sweepUnrecoverableBundlePublications_turned :
    Turned (fun _ => False) (fun _ => False) db ((sweepUnrecoverableBundlePublications visits before limit).commit db).2 := by
  refine commit_turned fun swept next ran => ?_
  obtain ⟨hit, unrecoverable, rfl⟩ := sweepUnrecoverableBundlePublications_ok ran
  refine ⟨forall₂_update (fun _ => .same) fun row _ matched => ?_, rfl⟩
  obtain ⟨unstaged, waiting⟩ := unrecoverable_open (unrecoverable row matched)
  exact .abandoned _ unstaged waiting

/-- An upload turns the table, with its own key for the row it revives, or adds a row. -/
inductive UploadTurns (id : Nat) (input : BundleCommitInput) (db next : BundleDb) : Prop where
  | turned (turned : Turned (fun _ => False) (fun key => key = input.stagingObjectKey) db next)
  | created {tenant : TenantRow} (creates : Creates id input db tenant)
      (bundles : next.bundles = db.bundles ++ [newBundle id tenant.id input db.now]) (tenants : next.tenants = db.tenants)

theorem commitBundleUpload_turns (keyed : DistinctIDs db.bundles) :
    UploadTurns id input db ((commitBundleUpload id input).commit db).2 := by
  obtain ⟨result, next, run, committed⟩ | ⟨error, _, rolledBack⟩ := commit_cases (commitBundleUpload id input) db
  · rw [committed]
    obtain ⟨-, tenant, -, uploads, -, -, tenants⟩ := commitBundleUpload_ok keyed run
    generalize given : next.bundles = bundles at uploads
    cases uploads with
    | replayed => exact .turned ⟨given ▸ List.forall₂_same.mpr fun _ _ => .same, tenants⟩
    | retained => exact .turned ⟨given ▸ forall₂_update (fun _ => .same) fun _ _ _ => .retained, tenants⟩
    | revived metadata revivable replaced =>
      exact .turned ⟨given ▸ replaced.forall₂ (fun _ => .same) (.revived _ _ rfl (revivable_spent revivable)), tenants⟩
    | created creates => exact .created creates given tenants
  · rw [rolledBack]
    exact .turned (.refl db)

end Statements

/-! ### The calls -/

inductive Effect (world : BundleWorld) : BundleCall → BundleWorld → Prop where
  | commit (id : Nat) (input : BundleCommitInput) : Effect world (.commitBundleUpload input) (commits id input world).2
  | claim (tenantID bundleID token : GoString) (now leaseUntil : Instant) :
      Effect world (.claimBundlePublication tenantID bundleID token now leaseUntil)
        (runs (claimBundlePublication tenantID bundleID token now leaseUntil) world).2
  | complete (claim : BundlePublicationClaim) (readyAt : Instant) :
      Effect world (.completeBundlePublication claim readyAt) (runs (completeBundlePublication claim readyAt) world).2
  | fail (claim : BundlePublicationClaim) (errorCode : GoString) (nextAttempt : Instant) (maxAttempts : Nat) :
      Effect world (.failBundlePublication claim errorCode nextAttempt maxAttempts)
        (runs (failBundlePublication claim errorCode nextAttempt maxAttempts) world).2
  | sweep (visits : List Nat) (before : Instant) (limit : Nat) :
      Effect world (.sweepUnrecoverableBundlePublications before limit)
        (runs (sweepUnrecoverableBundlePublications visits before limit) world).2
  | put (key : GoString) (size : Int) (sha256 : GoString) : Effect world (.putObject key size sha256) (puts key size sha256 world).2
  | copy (source target sha256 : GoString) (present : world.objects source = some object) :
      Effect world (.copyObject source target sha256)
        { world with objects := Function.update world.objects target (some ⟨object.size, sha256, world.clock⟩) }
  | remove (key : GoString) : Effect world (.removeObject key) (removes key world).2

theorem performs_cases (performed : request.performs world answer next) : next = world ∨ Effect world request next := by
  have takes {α : Type} {effect : BundleWorld → Except BundleError α × BundleWorld} {answer : Except BundleError α}
      (returns : Returns effect Fault world answer next) (effective : Effect world request (effect world).2) :
      next = world ∨ Effect world request next := by
    obtain same | rfl := returns.world_cases
    · exact .inl same
    · exact .inr effective
  cases request with
  | commitBundleUpload =>
    obtain ⟨id, returned⟩ := performed
    exact takes returned (.commit id _)
  | sweepUnrecoverableBundlePublications =>
    obtain ⟨visits, returned⟩ := performed
    exact takes returned (.sweep visits _ _)
  | copyObject source target sha256 =>
    have cases := Returns.world_cases performed
    unfold copies at cases
    split at cases
    · exact .inl (or_self_iff.mp cases)
    next object present =>
      obtain same | rfl := cases
      · exact .inl same
      · exact .inr (.copy source target sha256 present)
  | claimBundlePublication => exact takes performed (.claim ..)
  | completeBundlePublication => exact takes performed (.complete ..)
  | failBundlePublication => exact takes performed (.fail ..)
  | putObject => exact takes performed (.put ..)
  | removeObject => exact takes performed (.remove _)
  | now => exact .inl performed.2
  | listObjects =>
    obtain ⟨_, -, returned⟩ := performed
    exact .inl (or_self_iff.mp returned.world_cases)
  | findBundleUpload => exact .inl (or_self_iff.mp (Returns.world_cases performed))
  | selectNextBundlePublication => exact .inl (or_self_iff.mp (Returns.world_cases performed))
  | findBundle => exact .inl (or_self_iff.mp (Returns.world_cases performed))
  | isBundleStagingReferenced => exact .inl (or_self_iff.mp (Returns.world_cases performed))
  | statObject => exact .inl (or_self_iff.mp (Returns.world_cases performed))

end JudgingServer.Proofs
