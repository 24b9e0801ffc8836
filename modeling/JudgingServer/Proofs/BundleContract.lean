import JudgingServer.External.BundleService
import JudgingServer.Proofs.BundleKeys
import JudgingServer.Proofs.BundleStatements
import JudgingServer.Proofs.Statements

/-! One walk through the uploads, the publications, the reconciler and the collector. A
contract names what a process knows at each point of them and what its calls need; the
walk shows that every task keeps to the rules that the contract is for. -/

namespace JudgingServer.Proofs
open Go Bundle External Library Table Transaction

variable {request : BundleCall} {service : BundleService} {upload : BundleUpload} {bundleID key : GoString}
  {inspected : InspectedUpload} {now : Instant} {random : List Bytes}

/-! ### The keys that uploads draw -/

theorem inspectUpload_ok (accepted : inspectUpload service upload = .ok inspected) :
    matchesExternalID inspected.tenantID = true ∧ inspected.tenantID = upload.tenantID ∧
      ∃ content, upload.source = .ok content ∧ inspected.requestHash = service.digests.sha256 content := by
  unfold inspectUpload at accepted
  obtain ⟨_, named, accepted⟩ := checked_ok accepted
  obtain ⟨_, -, accepted⟩ := checked_ok accepted
  obtain ⟨content, source, accepted⟩ := checked_ok accepted
  obtain ⟨_, -, accepted⟩ := checked_ok accepted
  obtain ⟨_, -, accepted⟩ := checked_ok accepted
  obtain ⟨_, -, accepted⟩ := checked_ok accepted
  obtain ⟨_, -, accepted⟩ := checked_ok accepted
  obtain ⟨_, -, accepted⟩ := checked_ok accepted
  obtain ⟨_, -, accepted⟩ := checked_ok accepted
  obtain rfl := Except.ok.inj accepted
  exact ⟨by simpa using rejectIf_ok named, rfl, content, source, rfl⟩

theorem stagingKey_staging {task : BundleTask} (drawn : task.stagingKey service = some key) : IsStagingKey key := by
  unfold BundleTask.stagingKey at drawn
  split at drawn
  next request =>
    split at drawn
    next inspected uploadID rest accepted random =>
      obtain rfl := Option.some.inj drawn
      exact stagingBundleObjectKey_staging (inspectUpload_ok accepted).1 (generateExternalID_matches random) _
    next => cases drawn
  next => cases drawn

/-! ### What a process knows -/

def isRead : BundleCall → Bool
  | .now | .findBundleUpload .. | .selectNextBundlePublication .. | .findBundle .. | .isBundleStagingReferenced .. | .statObject ..
  | .listObjects .. => true
  | _ => false

/-- The calls that a process may make at any time: those that change nothing, and the
statements that no promise is tied to. -/
def isFree : BundleCall → Bool
  | .claimBundlePublication .. | .failBundlePublication .. | .sweepUnrecoverableBundlePublications .. => true
  | request => isRead request

theorem read_same (read : isRead request = true) (performed : request.performs world answer next) : next = world := by
  obtain same | effect := performs_cases performed
  · exact same
  · cases effect <;> cases read

theorem claim_loaded (distinct : DistinctIDs world.db.bundles)
    (performed : (BundleCall.claimBundlePublication tenantID bundleID token now leaseUntil).performs world (.ok (some claim)) next) :
    ∃ row ∈ next.db.bundles, ∃ tenant ∈ next.db.tenants, row.tenantID = tenant.id ∧ ClaimOf claim tenant.externalID row := by
  obtain ⟨answered, rfl⟩ := Returns.ok performed
  obtain ⟨outcome, db, run, committed⟩ | ⟨error, -, failed⟩ :=
    commit_cases (claimBundlePublication tenantID bundleID token now leaseUntil) world.db
  · simp only [runs, committed] at answered ⊢
    obtain rfl := Except.ok.inj answered
    obtain ⟨never, -⟩ | ⟨granted, row, bundles, tenant, present, same, owner, -, replaced, rfl, -, loaded⟩ :=
      claimBundlePublication_ok distinct run
    · cases never
    · obtain rfl := Option.some.inj same
      exact ⟨_, replaced.mem_right, tenant, present, owner, loaded⟩
  · simp only [runs, failed] at answered
    cases answered

private theorem rejected_faultless (rejected : error.is .idempotencyConflict ∨ error.is .bundleNotFound ∨ error.is .invalidBundle) :
    ¬ Fault error := by
  rintro ⟨operation, text, rfl⟩
  simp [BundleError.is] at rejected

/-- What a process knows along its way. The first group is about the staging key that it has
drawn and may be known to this process alone; the second is never taken back. The metadata that
an upload returns are those of a record or of a commit. -/
structure BundleContract {ι : Type} (rules : Discipline ι BundleWorld BundleCall BundleCall.Answer) (i : ι) (minimumAge : Duration) where
  unstaged : GoString → Int → BundleWorld → Prop
  deposited : GoString → BundleWorld → Prop
  disposable : GoString → BundleWorld → Prop
  held : BundlePublicationClaim → BundleWorld → Prop
  copyable : BundlePublicationClaim → BundleWorld → Prop
  promoted : BundlePublicationClaim → BundleWorld → Prop
  told : Instant → BundleWorld → Prop
  listed : Instant → BundleStagingObject → BundleWorld → Prop
  returned : InspectedUpload → BundleMetadata → BundleWorld → Prop
  performs : ∀ {request world answer next}, rules.performs request world answer next → request.performs world answer next
  unstaged_stable : ∀ key size, rules.Stable i (unstaged key size)
  deposited_stable : ∀ key, rules.Stable i (deposited key)
  disposable_stable : ∀ key, rules.Stable i (disposable key)
  held_kept : ∀ claim, rules.Kept (held claim)
  copyable_kept : ∀ claim, rules.Kept (copyable claim)
  promoted_kept : ∀ claim, rules.Kept (promoted claim)
  told_kept : ∀ now, rules.Kept (told now)
  listed_kept : ∀ now entry, rules.Kept (listed now entry)
  returned_kept : ∀ inspected metadata, rules.Kept (returned inspected metadata)
  free : ∀ {request world}, isFree request = true → rules.permits i request world
  put : ∀ {key size sha256 world}, unstaged key size world → rules.permits i (.putObject key size sha256) world
  commit : ∀ {input world}, deposited input.stagingObjectKey world → told input.metadata.createdAt world →
    rules.permits i (.commitBundleUpload input) world
  copy : ∀ {claim world}, copyable claim world →
    rules.permits i (.copyObject claim.stagingKey claim.objectKey (encodeHex claim.requestHash)) world
  complete : ∀ {claim readyAt world}, promoted claim world → rules.permits i (.completeBundlePublication claim readyAt) world
  remove : ∀ {key world}, rules.valid world → disposable key world → rules.permits i (.removeObject key) world
  puts : ∀ {key size sha256 uploaded world next}, rules.valid world → unstaged key size world →
    (BundleCall.putObject key size sha256).performs world (.ok uploaded) next → deposited key next
  displaced : ∀ {input result world next}, rules.valid world → deposited input.stagingObjectKey world →
    (BundleCall.commitBundleUpload input).performs world (.ok result) next → result.stagingKey ≠ input.stagingObjectKey →
    disposable input.stagingObjectKey next
  rejected : ∀ {input error world next}, rules.valid world → deposited input.stagingObjectKey world →
    (BundleCall.commitBundleUpload input).performs world (.error error) next → ¬ Fault error → disposable input.stagingObjectKey next
  replayed : ∀ {inspected lookup world next}, rules.valid world →
    (BundleCall.findBundleUpload inspected.tenantID inspected.idempotencyDigest).performs world (.ok (some lookup)) next →
    lookup.requestHash = inspected.requestHash → returned inspected lookup.metadata next
  committed : ∀ {service inspected bundleID stagingKey now result world next}, rules.valid world → told now world →
    rules.performs (.commitBundleUpload (commitInput service inspected bundleID stagingKey now)) world (.ok result) next →
    returned inspected result.metadata next
  claims : ∀ {tenantID bundleID token now leaseUntil claim world next}, rules.valid world → rules.valid next →
    (BundleCall.claimBundlePublication tenantID bundleID token now leaseUntil).performs world (.ok (some claim)) next →
    held claim next
  seesFinal : ∀ {claim info world}, rules.valid world → held claim world → world.objects claim.objectKey = some info →
    verifyBundleObject info claim.sizeBytes claim.requestHash = .ok () → promoted claim world
  seesStaging : ∀ {claim info world}, rules.valid world → held claim world → world.objects claim.stagingKey = some info →
    verifyBundleObject info claim.sizeBytes claim.requestHash = .ok () → copyable claim world
  completes : ∀ {claim readyAt done world next}, rules.valid world → rules.valid next → promoted claim world →
    (BundleCall.completeBundlePublication claim readyAt).performs world (.ok done) next → disposable claim.stagingKey next
  abandons : ∀ {claim errorCode nextAttempt maxAttempts world next}, rules.valid world → rules.valid next → held claim world →
    (BundleCall.failBundlePublication claim errorCode nextAttempt maxAttempts).performs world (.ok true) next →
    disposable claim.stagingKey next
  reads : ∀ {now world}, rules.performs .now world now world → told now world
  lists : ∀ {now entries world}, rules.valid world → told now world → Listing world entries → ∀ entry ∈ entries, listed now entry world
  unreferenced : ∀ {now entry world}, rules.valid world → listed now entry world → validBundleStagingGCKey entry.key = true →
    entry.lastModified < now - minimumAge → world.db.bundles.any (StoredBundle.references entry.key) = false →
    disposable entry.key world

namespace BundleContract

variable {ι : Type} {rules : Discipline ι BundleWorld BundleCall BundleCall.Answer} {i : ι} {minimumAge : Duration}
variable {collector : BundleStagingGarbageCollector} {digest : Bytes}
  (contract : BundleContract rules i minimumAge) {world : BundleWorld} {claim : BundlePublicationClaim}

/-- What is known once the object that a look has found has passed the check. -/
def Passes (claim : BundlePublicationClaim) (passed : BundleWorld → Prop) (found : Option StoredObject) (world : BundleWorld) : Prop :=
  ∀ info, found = some info → verifyBundleObject info claim.sizeBytes claim.requestHash = .ok () → passed world

private theorem passes_kept (kept : rules.Kept passed) (found : Option StoredObject) : rules.Kept (Passes claim passed found) :=
  fun world next valid nextValid evolves passes info given verified =>
    kept world next valid nextValid evolves (passes info given verified)

include contract

private theorem ask_free {α : Type} {post : α → BundleWorld → Prop} {rest : request.Answer → BundleProcess α}
    (valid : rules.valid world) (free : isFree request = true)
    (resume : ∀ before answer after, rules.valid before → rules.valid after → request.performs before answer after → rules.Safe i post (rest answer) after) :
    rules.Safe i post (Process.ask request >>= rest) world := by
  refine .ask _ (Discipline.stable_true i) valid trivial (fun _ _ _ => contract.free free) ?_
  intro before answer after early _ late _ performed
  replace performed := contract.performs performed
  exact resume before answer after early late performed

/-- A call that changes nothing, made with some knowledge that stays. -/
theorem ask_read {α : Type} {post : α → BundleWorld → Prop} {rest : request.Answer → BundleProcess α}
    {assertion : BundleWorld → Prop} (stable : rules.Stable i assertion) (valid : rules.valid world) (holds : assertion world)
    (read : isRead request = true)
    (resume : ∀ answer after, rules.valid after → assertion after → rules.performs request after answer after →
      rules.Safe i post (rest answer) after) :
    rules.Safe i post (Process.ask request >>= rest) world := by
  have free : isFree request = true := by
    cases request with
    | claimBundlePublication => rfl
    | failBundlePublication => rfl
    | sweepUnrecoverableBundlePublications => rfl
    | _ => exact read
  refine .ask assertion stable valid holds (fun _ _ _ => contract.free free) ?_
  intro before answer after _ known late _ performed
  obtain rfl := read_same read (contract.performs performed)
  exact resume answer _ late known performed

/-! ### The object store -/

variable (valid : rules.valid world)
include valid

private theorem discard_safe (disposable : contract.disposable key world) :
    rules.Safe i (fun _ _ => True) (External.discard key) world := by
  unfold External.discard
  split_ifs
  · exact .finish
  · refine .ask _ (contract.disposable_stable key) valid disposable (fun _ valid known => contract.remove valid known) ?_
    intro _ answer _ _ _ _ _ _
    cases answer <;> exact .finish

section

variable (held : contract.held claim world)
include held

private theorem stat_safe {seen : Option StoredObject → BundleWorld → Prop} (kept : ∀ found, rules.Kept (seen found))
    (sees : ∀ world, rules.valid world → contract.held claim world → seen (world.objects key) world) :
    rules.Safe i (Discipline.OnSuccess seen) (stat key) world := by
  unfold stat
  refine contract.ask_read ((contract.held_kept claim).stable i) valid held rfl fun answer world valid held performed => ?_
  cases answer with
  | error error => exact .failed
  | ok info =>
    obtain ⟨answered, -⟩ := Returns.ok (contract.performs performed)
    refine .succeeds (fun found => (kept found).stable i) valid fun found given => ?_
    obtain rfl := Except.ok.inj (answered.trans given)
    exact sees world valid held

private theorem statFinal_safe :
    rules.Safe i (Discipline.OnSuccess (Passes claim (contract.promoted claim))) (stat claim.objectKey) world := by
  refine contract.stat_safe valid held (passes_kept (contract.promoted_kept claim)) fun world valid held => ?_
  exact fun info present verified => contract.seesFinal valid held present verified

private theorem statStaging_safe :
    rules.Safe i (Discipline.OnSuccess (Passes claim (contract.copyable claim))) (stat claim.stagingKey) world := by
  refine contract.stat_safe valid held (passes_kept (contract.copyable_kept claim)) fun world valid held => ?_
  exact fun info present verified => contract.seesStaging valid held present verified

end

private theorem verified_safe
    (passes : verifyBundleObject info claim.sizeBytes claim.requestHash = .ok () → contract.promoted claim world) :
    rules.Safe i (Discipline.OnSuccess fun _ => contract.promoted claim)
      (.done (verifyBundleObject info claim.sizeBytes claim.requestHash)) world :=
  .succeeds (fun _ => (contract.promoted_kept claim).stable i) valid fun _ given => passes given

private theorem copyVerified_safe (held : contract.held claim world) (copyable : contract.copyable claim world) :
    rules.Safe i (Discipline.OnSuccess fun _ => contract.promoted claim)
      (copyVerified claim.stagingKey claim.objectKey claim.sizeBytes claim.requestHash) world := by
  have copies : rules.Safe i (fun _ _ => True) (Client.copyObject claim.stagingKey claim.objectKey (encodeHex claim.requestHash))
      world := by
    refine .ask _ ((contract.copyable_kept claim).stable i) valid copyable (fun _ _ known => contract.copy known) ?_
    exact fun _ _ _ _ _ _ _ _ => .finish
  unfold copyVerified
  refine .bind valid (copies.frame (contract.held_kept claim) valid held) fun answer world valid known => ?_
  cases answer with
  | error error => exact .failed
  | ok =>
    refine .bind valid (contract.statFinal_safe valid known.2) fun result last lastValid seen => ?_
    rcases result with error | _ | info
    · exact .failed
    · exact .failed
    · exact contract.verified_safe lastValid (seen _ rfl info rfl)

private theorem promote_safe (held : contract.held claim world) :
    rules.Safe i (Discipline.OnSuccess fun _ => contract.promoted claim)
      (promote claim.stagingKey claim.objectKey claim.sizeBytes claim.requestHash) world := by
  have kept := contract.held_kept claim
  unfold promote
  split_ifs
  · exact .failed
  refine .bind valid ((contract.statFinal_safe valid held).frame kept valid held) fun result world valid known => ?_
  obtain ⟨seen, held⟩ := known
  rcases result with error | _ | info
  · exact .failed
  · refine .bind valid ((contract.statStaging_safe valid held).frame kept valid held) fun result world valid known => ?_
    obtain ⟨seen, held⟩ := known
    rcases result with error | _ | staged
    · exact .failed
    · exact .failed
    · dsimp only
      split
      · exact .failed
      next verified => exact contract.copyVerified_safe valid held (seen _ rfl staged rfl verified)
  · exact contract.verified_safe valid (seen _ rfl info rfl)

private theorem stage_safe (unstaged : contract.unstaged key size world) :
    rules.Safe i (Discipline.OnSuccess fun _ => contract.deposited key) (stage key size digest) world := by
  unfold stage
  split_ifs
  · exact .failed
  refine .ask _ (contract.unstaged_stable key size) valid unstaged (fun _ _ known => contract.put known) ?_
  intro before answer world valid known later _ performed
  replace performed := contract.performs performed
  cases answer with
  | error error => exact .failed
  | ok uploaded =>
    dsimp only
    split_ifs
    · exact .failed
    have deposited := contract.puts valid known performed
    refine contract.ask_read (contract.deposited_stable key) later deposited rfl fun answer last lastValid deposited _ => ?_
    rcases answer with error | _ | info
    · exact .failed
    · exact .failed
    · exact .succeeds (fun _ => contract.deposited_stable key) lastValid fun _ _ => deposited

/-! ### Publication -/

/-- The promotion and the completion, which the service and the reconciler share. -/
theorem publish_safe {α : Type} {failed : BundleError → BundleProcess α} {completed : Except BundleError Unit → BundleProcess α}
    (held : contract.held claim world)
    (onFailure : ∀ error next, rules.valid next → contract.held claim next → rules.Safe i (fun _ _ => True) (failed error) next)
    (onError : ∀ error next, rules.Safe i (fun _ _ => True) (completed (.error error)) next)
    (onCompletion : ∀ next, rules.valid next → contract.disposable claim.stagingKey next →
      rules.Safe i (fun _ _ => True) (completed (.ok ())) next) :
    rules.Safe i (fun _ _ => True)
      (promote claim.stagingKey claim.objectKey claim.sizeBytes claim.requestHash >>= fun promoted =>
        match promoted with
        | .error error => failed error
        | .ok () => clockNow >>= fun readyAt => Repository.completeBundlePublication claim readyAt >>= completed) world := by
  have stable := (contract.promoted_kept claim).stable i
  refine .bind valid ((contract.promote_safe valid held).frame (contract.held_kept claim) valid held) fun result world valid known => ?_
  obtain ⟨promotes, held⟩ := known
  cases result with
  | error error => exact onFailure error world valid held
  | ok =>
    refine contract.ask_read stable valid (promotes () rfl) rfl fun readyAt world valid promoted _ => ?_
    refine .ask _ stable valid promoted (fun _ _ known => contract.complete known) ?_
    intro before answer after early known late _ performed
    replace performed := contract.performs performed
    cases answer with
    | error error => exact onError error after
    | ok => exact onCompletion after late (contract.completes early late known performed)

private theorem publishOwnedBundle_safe {tenantID : GoString} :
    rules.Safe i (fun _ _ => True) (publishOwnedBundle service tenantID bundleID digest random) world := by
  unfold publishOwnedBundle
  split
  · exact .finish
  refine contract.ask_free valid rfl fun _ now world _ valid _ => ?_
  refine contract.ask_free valid rfl fun before answer world early valid performed => ?_
  rcases answer with error | _ | claim
  · exact .finish
  · refine contract.ask_free valid rfl fun _ answer _ _ _ _ => ?_
    cases answer <;> exact .finish
  · dsimp only
    split_ifs
    · exact .finish
    refine contract.publish_safe valid (contract.claims early valid performed) ?_ (fun _ _ => .finish) ?_
    · exact fun error next valid _ => contract.ask_free valid rfl fun _ _ _ _ _ _ => .finish
    · exact fun next valid disposable => .bind valid (contract.discard_safe valid disposable) fun _ _ _ _ => .finish

/-! ### Uploads -/

def Returned (inspected : InspectedUpload) (value : BundleMetadata × Bool) (world : BundleWorld) : Prop :=
  contract.returned inspected value.1 world

omit valid in
private theorem returned_stable (inspected : InspectedUpload) (value : BundleMetadata × Bool) :
    rules.Stable i (contract.Returned inspected value) :=
  (contract.returned_kept inspected value.1).stable i

private theorem return_safe (known : contract.returned inspected value.1 world) :
    rules.Safe i (Discipline.OnSuccess (contract.Returned inspected))
      (.done (.ok value) : BundleProcess (Except BundleError (BundleMetadata × Bool))) world := by
  refine .succeeds (contract.returned_stable inspected) valid fun other given => ?_
  obtain rfl := Except.ok.inj given
  exact known

private theorem publishReturned_safe {metadata : BundleMetadata} {replay : Bool}
    (known : contract.returned inspected metadata world) :
    rules.Safe i (Discipline.OnSuccess (contract.Returned inspected))
      (publishOwnedBundle service inspected.tenantID metadata.bundleID inspected.requestHash random >>= fun published =>
        match published with
        | .error error => return .error error
        | .ok () => return .ok (metadata, replay) : BundleProcess (Except BundleError (BundleMetadata × Bool))) world := by
  have kept := contract.returned_kept inspected metadata
  refine .bind valid ((contract.publishOwnedBundle_safe valid).frame kept valid known) fun published world valid known => ?_
  cases published with
  | error error => exact .failed
  | ok => exact contract.return_safe valid known.2

private theorem publishUpload_safe
    (displaced : result.stagingKey ≠ stagingKey → contract.disposable stagingKey world)
    (known : contract.returned inspected result.metadata world) :
    rules.Safe i (Discipline.OnSuccess (contract.Returned inspected)) (publishUpload service inspected stagingKey random result) world := by
  have discards (other : result.stagingKey ≠ stagingKey) := (contract.discard_safe valid (displaced other)).frame
    (contract.returned_kept inspected result.metadata) valid known
  unfold publishUpload
  dsimp only
  split_ifs with other
  · exact .bind valid (discards other) fun _ _ valid known => contract.return_safe valid known.2
  · exact .bind valid (discards other) fun _ _ _ _ => .failed
  · exact .bind valid (discards other) fun _ _ valid known => contract.publishReturned_safe valid known.2
  · exact contract.return_safe valid known
  · exact .failed
  · exact contract.publishReturned_safe valid known

private theorem storeUpload_safe
    (unstaged : contract.unstaged (stagingBundleObjectKey inspected.tenantID uploadID inspected.requestHash) inspected.written world) :
    rules.Safe i (Discipline.OnSuccess (contract.Returned inspected)) (storeUpload service inspected uploadID bundleID random) world := by
  unfold storeUpload
  dsimp only
  refine .bind valid (contract.stage_safe valid unstaged) fun result world valid staged => ?_
  cases result with
  | error error => exact .failed
  | ok =>
    have stable := contract.deposited_stable (stagingBundleObjectKey inspected.tenantID uploadID inspected.requestHash)
    refine contract.ask_read stable valid (staged () rfl) rfl fun now world valid deposited read => ?_
    refine .ask _ (stable.and ((contract.told_kept now).stable i)) valid ⟨deposited, contract.reads read⟩
      (fun _ _ known => contract.commit known.1 known.2) ?_
    intro before answer after early known late _ performed
    cases answer with
    | error error =>
      dsimp only
      split_ifs with rejected
      · have disposable := contract.rejected early known.1 (contract.performs performed) (rejected_faultless rejected)
        exact .bind late (contract.discard_safe late disposable) fun _ _ _ _ => .failed
      · exact .failed
    | ok result =>
      exact contract.publishUpload_safe late (contract.displaced early known.1 (contract.performs performed))
        (contract.committed early known.2 performed)

/-- The upload may stage its content under the key it draws. -/
def Unstaged (inspected : InspectedUpload) (random : List Bytes) (world : BundleWorld) : Prop :=
  ∀ uploadID rest, generateExternalID random = .ok (uploadID, rest) →
    contract.unstaged (stagingBundleObjectKey inspected.tenantID uploadID inspected.requestHash) inspected.written world

private theorem newUpload_safe (unstaged : contract.Unstaged inspected random world) :
    rules.Safe i (Discipline.OnSuccess (contract.Returned inspected)) (newUpload service inspected random) world := by
  unfold newUpload
  split
  · exact .failed
  next uploadID rest drawn =>
    split
    · exact .failed
    · exact contract.storeUpload_safe valid (unstaged uploadID rest drawn)

/-- An upload keeps to the rules, and the metadata it returns are known to be a record's or a commit's. -/
theorem uploadWithAdmission_safe (accepted : inspectUpload service upload = .ok inspected)
    (unstaged : contract.Unstaged inspected upload.random world) :
    rules.Safe i (Discipline.OnSuccess (contract.Returned inspected)) (uploadWithAdmission service upload) world := by
  have stable : rules.Stable i (contract.Unstaged inspected upload.random) :=
    fun world next valid nextValid rely known uploadID rest drawn =>
      contract.unstaged_stable _ _ world next valid nextValid rely (known uploadID rest drawn)
  unfold uploadWithAdmission
  rw [accepted]
  refine contract.ask_read stable valid unstaged rfl fun answer world valid known performed => ?_
  rcases answer with error | _ | lookup
  · exact .failed
  · exact contract.newUpload_safe valid known
  · dsimp only
    split_ifs with different
    · exact .failed
    · exact contract.return_safe valid (contract.replayed valid (contract.performs performed) (not_not.mp different))
    · exact contract.newUpload_safe valid known
    · exact contract.publishReturned_safe valid (contract.replayed valid (contract.performs performed) (not_not.mp different))

omit contract valid in
theorem uploadWithAdmission_rejected (rejected : inspectUpload service upload = .error error) :
    uploadWithAdmission service upload = .done (.error error) := by
  unfold uploadWithAdmission
  rw [rejected]
  rfl

/-! ### Reconciliation -/

private theorem claimNextBundlePublication_safe :
    rules.Safe i (Discipline.OnSuccess fun granted world => ∀ claim, granted = some claim → contract.held claim world)
      (claimNextBundlePublication token now leaseUntil) world := by
  have stable (granted : Option BundlePublicationClaim) : rules.Stable i
      fun world => ∀ claim, granted = some claim → contract.held claim world :=
    fun world next valid nextValid rely known claim given =>
      (contract.held_kept claim).stable i world next valid nextValid rely (known claim given)
  unfold claimNextBundlePublication
  split_ifs
  · exact .failed
  refine contract.ask_free valid rfl fun _ answer world _ valid _ => ?_
  rcases answer with error | _ | ⟨tenantID, bundleID⟩
  · exact .failed
  · refine .succeeds stable valid fun granted given claim some => ?_
    rw [← Except.ok.inj given] at some
    cases some
  · refine contract.ask_free valid rfl fun before answer world early valid performed => ?_
    refine .succeeds stable valid fun granted given claim some => ?_
    subst given some
    exact contract.claims early valid performed

private theorem reconcileOnce_safe : rules.Safe i (fun _ _ => True) (reconcileOnce service random) world := by
  unfold reconcileOnce
  refine contract.ask_free valid rfl fun _ now world _ valid _ => ?_
  split
  · exact .finish
  refine .bind valid (contract.claimNextBundlePublication_safe valid) fun result world valid claimed => ?_
  rcases result with error | _ | claim
  · exact .finish
  · refine contract.ask_free valid rfl fun _ answer _ _ _ _ => ?_
    cases answer <;> exact .finish
  unfold publishClaimed
  refine contract.publish_safe valid (claimed _ rfl claim rfl) ?_ (fun _ _ => .finish) ?_
  · intro error next valid held
    refine .ask _ ((contract.held_kept claim).stable i) valid held (fun _ _ _ => contract.free rfl) ?_
    intro before answer after early known late _ performed
    replace performed := contract.performs performed
    rcases answer with error | _ | _
    · exact .finish
    · exact .finish
    · exact .bind late (contract.discard_safe late (contract.abandons early late known performed)) fun _ _ _ _ => .finish
  · exact fun next valid disposable => .bind valid (contract.discard_safe valid disposable) fun _ _ _ _ => .finish

/-! ### Collection -/

private def Candidates (now : Instant) (candidates : List BundleStagingObject) (world : BundleWorld) : Prop :=
  ∀ candidate ∈ candidates, contract.listed now candidate world

omit valid in
private theorem candidates_kept (now : Instant) (candidates : List BundleStagingObject) : rules.Kept
    (contract.Candidates now candidates) :=
  fun world next valid nextValid evolves known candidate member =>
    contract.listed_kept now candidate world next valid nextValid evolves (known candidate member)

omit contract valid in
private theorem unreferenced_answer (valid : validBundleStagingGCKey key = true)
    (performed : (BundleCall.isBundleStagingReferenced key).performs world (.ok false) world) :
    world.db.bundles.any (StoredBundle.references key) = false := by
  obtain ⟨answered, -⟩ := Returns.ok performed
  simp only [External.reads, isBundleStagingReferenced, valid, if_true] at answered
  exact Except.ok.inj answered

private theorem collectStaging_safe (known : contract.Candidates now candidates world) :
    rules.Safe i (fun _ _ => True) (collectStaging (now - minimumAge) candidates removed) world := by
  induction candidates generalizing removed world with
  | nil => exact .finish
  | cons candidate rest ih =>
    have tail {world : BundleWorld} (known : contract.Candidates now (candidate :: rest) world) : contract.Candidates now rest world :=
      fun other member => known other (List.mem_cons_of_mem candidate member)
    have stable (candidates : List BundleStagingObject) := (contract.candidates_kept now candidates).stable i
    unfold collectStaging
    split_ifs with skipped
    · exact ih valid (tail known)
    obtain ⟨unnamed, recent⟩ := not_or.mp skipped
    have named : validBundleStagingGCKey candidate.key = true := by simpa using unnamed
    have old : candidate.lastModified < now - minimumAge := Int.not_le.mp (not_or.mp recent).2
    refine contract.ask_read (stable _) valid known rfl fun answer world valid known _ => ?_
    rcases answer with error | _ | _
    · exact .finish
    · refine contract.ask_read (stable _) valid known rfl fun answer world valid known performed => ?_
      rcases answer with error | _ | _
      · exact .finish
      · have listed := known candidate (List.mem_cons_self ..)
        have disposable := contract.unreferenced valid listed named old (unreferenced_answer named (contract.performs performed))
        have kept := contract.candidates_kept now rest
        refine .bind valid ((contract.discard_safe valid disposable).frame kept valid (tail known)) fun result world valid left => ?_
        cases result with
        | error error => exact .finish
        | ok =>
          refine contract.ask_read (stable _) valid left.2 rfl fun answer world valid known _ => ?_
          rcases answer with error | _ | _
          · exact .finish
          · exact ih valid known
          · exact .finish
      · exact ih valid (tail known)
    · exact ih valid (tail known)

private theorem listStaging_safe (told : contract.told now world) :
    rules.Safe i (Discipline.OnSuccess fun found => contract.Candidates now found.1) (listStaging before after limit) world := by
  unfold listStaging
  split_ifs
  · exact .failed
  refine contract.ask_read ((contract.told_kept now).stable i) valid told rfl fun answer world valid told performed => ?_
  cases answer with
  | error error => exact .failed
  | ok entries =>
    obtain ⟨listed, present, returned⟩ := contract.performs performed
    obtain rfl := Except.ok.inj returned.ok.1
    refine .succeeds (fun found => (contract.candidates_kept now found.1).stable i) valid fun found given candidate member => ?_
    obtain rfl := Except.ok.inj given
    have scanned := (List.mem_filter.mp member).1
    exact contract.lists valid told present candidate (List.mem_of_mem_take scanned)

private theorem sweepOnce_safe {cursor : GoString} (age : collector.minimumAge = minimumAge) :
    rules.Safe i (fun _ _ => True) (sweepOnce collector cursor) world := by
  unfold sweepOnce
  refine contract.ask_read (Discipline.stable_true i) valid trivial rfl fun now world valid _ read => ?_
  refine .bind valid (contract.listStaging_safe valid (contract.reads read)) fun listed world valid known => ?_
  rcases listed with error | ⟨candidates, next⟩
  · exact .finish
  · rw [age]
    refine .bind valid (contract.collectStaging_safe valid (known _ rfl)) fun outcome _ _ _ => ?_
    obtain ⟨removed, _ | error⟩ := outcome <;> exact .finish

theorem task_safe {task : BundleTask} (age : collector.minimumAge = minimumAge)
    (unstaged : ∀ key, task.stagingKey service = some key → contract.unstaged key (task.stagedSize service) world) :
    rules.Safe i (fun _ _ => True) (task.process service collector) world := by
  cases task with
  | upload request =>
    dsimp only [BundleTask.process]
    cases accepted : inspectUpload service request with
    | error error =>
      rw [uploadWithAdmission_rejected accepted]
      exact .finish
    | ok inspected =>
      refine .bind valid (contract.uploadWithAdmission_safe valid accepted fun uploadID rest drawn => ?_) fun _ _ _ _ => .finish
      simpa [BundleTask.stagingKey, BundleTask.stagedSize, accepted, drawn] using unstaged
  | publish => exact .bind valid (contract.publishOwnedBundle_safe valid) fun _ _ _ _ => .finish
  | reconcile => exact .bind valid (contract.reconcileOnce_safe valid) fun _ _ _ _ => .finish
  | collect => exact .bind valid (contract.sweepOnce_safe valid age) fun _ _ _ _ => .finish

end BundleContract

end JudgingServer.Proofs
