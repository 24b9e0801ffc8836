import JudgingServer.External.BundleRepository
import JudgingServer.Proofs.Outputs

/-! The keys of the object store: which elements they are joined from, that final keys
tell the bundles apart, and that no final key is a staging key. -/

namespace JudgingServer.Proofs
open Go Bundle External

variable {uploadID : GoString} {tenantID : GoString} {elements : List GoString}

/-- An element that cleaning a path leaves as it is. -/
structure PlainElement (element : GoString) : Prop where
  nonempty : element ≠ []
  noSlash : (47 : UInt8) ∉ element
  noDot : element ≠ lit "."
  noDots : element ≠ lit ".."

section Plain

variable (plain : ∀ element ∈ elements, PlainElement element)
include plain

theorem cleanElements_plain (kept : List GoString) : cleanElements rooted elements kept = kept.reverse ++ elements := by
  induction elements generalizing kept with
  | nil => simp [cleanElements]
  | cons element rest ih =>
    have here := plain element (List.mem_cons_self ..)
    have later := ih (fun other member => plain other (List.mem_cons_of_mem element member)) (element :: kept)
    simpa [cleanElements, here.nonempty, here.noDot, here.noDots] using later

private theorem split_join (some : elements ≠ []) : split 47 (join [47] elements) = elements :=
  List.splitOn_intercalate 47 (fun element member => (plain element member).noSlash) some

private theorem join_unrooted : ((join [47] elements).headD 0 == 47) = false := by
  cases elements with
  | nil => rfl
  | cons element rest =>
    have here := plain element (List.mem_cons_self ..)
    obtain ⟨byte, bytes, rfl⟩ := List.exists_cons_of_ne_nil here.nonempty
    have first : byte ≠ 47 := fun slash => here.noSlash (slash ▸ List.mem_cons_self ..)
    cases rest <;> simp [join, List.intercalate, List.intersperse, first]

private theorem split_pathJoin (some : elements ≠ []) : split 47 (pathJoin elements) = elements := by
  have kept : elements.filter (fun element => !element.isEmpty) = elements :=
    List.filter_eq_self.mpr fun element member => by simp [(plain element member).nonempty]
  have cleaned : cleanPath (join [47] elements) = join [47] elements := by
    unfold cleanPath
    dsimp only
    rw [join_unrooted plain, split_join plain some, cleanElements_plain plain]
    simp [some]
  unfold pathJoin
  dsimp only
  rw [kept, if_neg (by simpa using some), cleaned, split_join plain some]

end Plain

/-! ### The elements of the keys -/

private theorem plain_externalID {id : GoString} (matched : matchesExternalID id = true) : PlainElement id := by
  simp only [matchesExternalID, Bool.and_eq_true, beq_iff_eq, List.all_eq_true] at matched
  obtain ⟨length, letters⟩ := matched
  refine ⟨?_, fun slash => absurd (letters 47 slash) (by decide), ?_, ?_⟩
  all_goals
    rintro rfl
    exact absurd length (by decide)

private theorem plain_archive (digest : Bytes) : PlainElement (encodeHex digest ++ lit ".zip") := by
  have long : (encodeHex digest ++ lit ".zip").length = (encodeHex digest).length + 4 := List.length_append
  refine ⟨fun same => ?_, fun slash => ?_, fun same => ?_, fun same => ?_⟩
  · rw [same] at long
    exact absurd long (by simp)
  · rcases List.mem_append.mp slash with inside | inside
    · exact encodeHex_plain (by decide) digest inside
    · exact absurd inside (by decide)
  · rw [same, show (lit ".").length = 1 by decide] at long
    omega
  · rw [same, show (lit "..").length = 2 by decide] at long
    omega

private theorem split_bundleObjectKey (matched : matchesExternalID tenantID = true) (digest : Bytes) :
    split 47 (bundleObjectKey tenantID digest) = [lit "external", tenantID, lit "sha256", encodeHex digest ++ lit ".zip"] := by
  refine split_pathJoin (fun element member => ?_) (by simp)
  simp only [List.mem_cons, List.not_mem_nil, or_false] at member
  rcases member with rfl | rfl | rfl | rfl
  · exact ⟨by decide, by decide, by decide, by decide⟩
  · exact plain_externalID matched
  · exact ⟨by decide, by decide, by decide, by decide⟩
  · exact plain_archive digest

private theorem split_stagingBundleObjectKey (tenant : matchesExternalID tenantID = true)
    (upload : matchesExternalID uploadID = true)
    (digest : Bytes) :
    split 47 (stagingBundleObjectKey tenantID uploadID digest) =
      [lit "external-staging", tenantID, uploadID, encodeHex digest ++ lit ".zip"] := by
  refine split_pathJoin (fun element member => ?_) (by simp)
  simp only [List.mem_cons, List.not_mem_nil, or_false] at member
  rcases member with rfl | rfl | rfl | rfl
  · exact ⟨by decide, by decide, by decide, by decide⟩
  · exact plain_externalID tenant
  · exact plain_externalID upload
  · exact plain_archive digest

theorem bundleObjectKey_inj (matched : matchesExternalID tenantID = true) (otherMatched : matchesExternalID otherID = true)
    (same : bundleObjectKey tenantID digest = bundleObjectKey otherID other) : tenantID = otherID ∧ digest = other := by
  have elements := congrArg (split 47) same
  rw [split_bundleObjectKey matched, split_bundleObjectKey otherMatched] at elements
  simp only [List.cons.injEq, List.append_left_inj, true_and, and_true] at elements
  exact ⟨elements.1, encodeHex_inj elements.2⟩

/-! ### Staging keys -/

def IsStagingKey (key : GoString) : Prop := (split 47 key).head? = some (lit "external-staging")

theorem bundleObjectKey_not_staging (matched : matchesExternalID tenantID = true) (digest : Bytes) :
    ¬ IsStagingKey (bundleObjectKey tenantID digest) := by
  unfold IsStagingKey
  rw [split_bundleObjectKey matched, List.head?_cons]
  decide

theorem stagingBundleObjectKey_staging (tenant : matchesExternalID tenantID = true) (upload : matchesExternalID uploadID = true)
    (digest : Bytes) : IsStagingKey (stagingBundleObjectKey tenantID uploadID digest) := by
  unfold IsStagingKey
  rw [split_stagingBundleObjectKey tenant upload, List.head?_cons]

theorem validBundleStagingGCKey_staging (valid : validBundleStagingGCKey key = true) : IsStagingKey key := by
  unfold validBundleStagingGCKey at valid
  split at valid
  next elements =>
    simp only [decide_eq_true_eq] at valid
    unfold IsStagingKey
    rw [elements, valid.1, List.head?_cons]
  next => cases valid

end JudgingServer.Proofs
