import JudgingServer.Proofs.Archives
import JudgingServer.Proofs.BundleKeys

/-! Which names an archive and its manifest may hold: those made of plain segments, and the
name of the parent directory, which the test for a leading parent segment lets through. -/

namespace JudgingServer.Proofs
open Go Bundle Library

/-- A segment that names something below the directory it is resolved in. -/
abbrev Descends (segment : GoString) : Prop := segment ≠ [] ∧ segment ≠ lit "." ∧ segment ≠ lit ".."

/-- A relative name of plain segments. -/
structure SafePath (name : GoString) : Prop where
  nonempty : name ≠ []
  relative : name.head? ≠ some 47
  short : name.length ≤ 512
  valid : validString name = true
  noNul : (0 : UInt8) ∉ name
  noBackslash : (92 : UInt8) ∉ name
  segments : ∀ segment ∈ split 47 name, Descends segment

/-- Walking the segments from a depth below the root leaves the root upwards. -/
def climbs : Nat → List GoString → Bool
  | _, [] => false
  | depth, segment :: rest =>
    if segment = [] ∨ segment = lit "." then climbs depth rest
    else if segment = lit ".." then
      match depth with
      | 0 => true
      | depth + 1 => climbs depth rest
    else climbs (depth + 1) rest

/-- The name is that of something above the root. -/
def Escapes (name : GoString) : Prop := climbs 0 (split 47 name) = true

instance (name : GoString) : Decidable (Escapes name) := inferInstanceAs (Decidable (climbs 0 (split 47 name) = true))

/-! ### Cleaning a path -/

section Cleaning

private theorem split_noSlash (name : GoString) : ∀ element ∈ split 47 name, (47 : UInt8) ∉ element := by
  induction name with
  | nil => simp [split]
  | cons byte rest ih =>
    unfold split at ih ⊢
    rw [List.splitOn_cons_eq_if_modifyHead]
    split_ifs with slash
    · exact List.forall_mem_cons.mpr ⟨List.not_mem_nil, ih⟩
    · obtain ⟨first, others, shape⟩ := List.exists_cons_of_ne_nil (List.splitOn_ne_nil (47 : UInt8) rest)
      rw [shape] at ih ⊢
      obtain ⟨here, later⟩ := List.forall_mem_cons.mp ih
      refine List.forall_mem_cons.mpr ⟨fun member => ?_, later⟩
      rcases List.mem_cons.mp member with same | inside
      · exact slash (beq_iff_eq.mpr same.symm)
      · exact here inside

/-- What one element does to the elements kept so far. -/
inductive CleanStep (element : GoString) : List GoString → List GoString → Prop where
  | skip (blank : element = [] ∨ element = lit ".") : CleanStep element kept kept
  | push (descends : Descends element) : CleanStep element kept (element :: kept)
  | climb (parent : element = lit "..") (above : ∀ top ∈ kept.head?, top = lit "..") :
      CleanStep element kept (element :: kept)
  | pop (parent : element = lit "..") (descended : top ≠ lit "..") :
      CleanStep element (top :: below) below

private theorem cleanElements_step (element : GoString) (rest kept : List GoString) :
    ∃ next, cleanElements false (element :: rest) kept = cleanElements false rest next ∧ CleanStep element kept next := by
  have unfolded := cleanElements.eq_def false (element :: rest) kept
  dsimp only at unfolded
  rw [unfolded]
  by_cases blank : element = [] ∨ element = lit "."
  · rw [if_pos (by simpa using blank)]
    exact ⟨kept, rfl, .skip blank⟩
  · rw [if_neg (by simpa using blank)]
    obtain ⟨nonempty, noDot⟩ := not_or.mp blank
    by_cases parent : element = lit ".."
    · rw [if_pos parent]
      cases kept with
      | nil => exact ⟨[element], rfl, .climb parent (by simp)⟩
      | cons top below =>
        by_cases above : top = lit ".."
        · exact ⟨element :: top :: below, if_pos above, .climb parent (by simpa using above)⟩
        · exact ⟨below, if_neg above, .pop parent above⟩
    · rw [if_neg parent]
      exact ⟨element :: kept, rfl, .push ⟨nonempty, noDot, parent⟩⟩

private theorem cleanElements_length (elements kept : List GoString) :
    (cleanElements false elements kept).length ≤ kept.length + elements.length := by
  induction elements generalizing kept with
  | nil => simp [cleanElements]
  | cons element rest ih =>
    obtain ⟨next, same, step⟩ := cleanElements_step element rest kept
    have bound := ih next
    rw [same]
    cases step <;> simp only [List.length_cons] at bound ⊢ <;> omega

private theorem cleanElements_mem (member : element ∈ cleanElements false elements kept) :
    element ∈ kept ∨ element ∈ elements := by
  induction elements generalizing kept with
  | nil => exact .inl (List.mem_reverse.mp member)
  | cons first rest ih =>
    obtain ⟨next, same, step⟩ := cleanElements_step first rest kept
    rw [same] at member
    rcases ih member with inside | later
    · cases step with
      | skip => exact .inl inside
      | push | climb => exact (List.mem_cons.mp inside).elim (fun same => .inr (same ▸ List.mem_cons_self)) .inl
      | pop => exact .inl (List.mem_cons_of_mem _ inside)
    · exact .inr (List.mem_cons_of_mem first later)

private theorem cleanElements_same (descended : top ≠ lit "..")
    (same : cleanElements false elements (top :: below) = (top :: below).reverse ++ elements) :
    ∀ element ∈ elements, Descends element := by
  induction elements generalizing top below with
  | nil => simp
  | cons element rest ih =>
    obtain ⟨next, stepped, step⟩ := cleanElements_step element rest (top :: below)
    rw [stepped] at same
    have bound := cleanElements_length rest next
    rw [same] at bound
    simp only [List.length_append, List.length_reverse, List.length_cons] at bound
    cases step with
    | skip =>
      simp only [List.length_cons] at bound
      omega
    | push descends =>
      have below : cleanElements false rest (element :: top :: below) = (element :: top :: below).reverse ++ rest := by
        rw [same]
        simp
      exact List.forall_mem_cons.mpr ⟨descends, ih descends.2.2 below⟩
    | climb parent above => exact absurd (above top (by simp)) descended
    | pop => omega

/-- Cleaning keeps all elements only where they are plain, or start with the parent directory. -/
theorem cleanElements_fixed (same : cleanElements false elements [] = elements) :
    (∀ element ∈ elements, Descends element) ∨ elements.head? = some (lit "..") := by
  cases elements with
  | nil => exact .inl (by simp)
  | cons element rest =>
    obtain ⟨next, stepped, step⟩ := cleanElements_step element rest []
    rw [stepped] at same
    cases step with
    | skip =>
      have bound := cleanElements_length rest []
      rw [same] at bound
      simp only [List.length_cons, List.length_nil] at bound
      omega
    | push descends =>
      have below : cleanElements false rest [element] = [element].reverse ++ rest := same
      exact .inl (List.forall_mem_cons.mpr ⟨descends, cleanElements_same descends.2.2 below⟩)
    | climb parent => exact .inr (congrArg some parent)

private theorem cleanPath_fixed (relative : (name.headD 0 == 47) = false) (dotless : name ≠ lit ".")
    (same : cleanPath name = name) :
    cleanElements false (split 47 name) [] = split 47 name := by
  unfold cleanPath at same
  simp only [relative, Bool.false_eq_true, if_false] at same
  split_ifs at same with nothing
  · exact absurd same.symm dotless
  · have kept : cleanElements false (split 47 name) [] ≠ [] := by simpa using nothing
    have slashless : ∀ element ∈ cleanElements false (split 47 name) [], (47 : UInt8) ∉ element := by
      intro element member
      rcases cleanElements_mem member with never | inside
      · cases never
      · exact split_noSlash name element inside
    have joined := List.splitOn_intercalate (47 : UInt8) slashless kept
    rw [← joined]
    exact congrArg (split 47) same

end Cleaning

/-! ### The accepted names -/

section Accepted

private theorem validateArtifactPath_checks : validateArtifactPath name = true ↔
    (name ≠ [] ∧ name.length ≤ 512 ∧ validString name = true ∧ (0 : UInt8) ∉ name ∧ (92 : UInt8) ∉ name ∧ (name.headD 0 == 47) = false) ∧
      cleanPath name ≠ lit "." ∧ cleanPath name = name ∧ (lit "../").isPrefixOf (cleanPath name) = false := by
  unfold validateArtifactPath
  split_ifs with refused
  · simp only [Bool.or_eq_true, List.isEmpty_iff, decide_eq_true_eq, Bool.not_eq_true', List.contains_iff_mem] at refused
    simp only [false_iff]
    rintro ⟨⟨nonempty, short, valid, noNul, noBackslash, relative⟩, -⟩
    rw [valid, relative] at refused
    simp [nonempty, noNul, noBackslash] at refused
    omega
  · simp only [Bool.or_eq_true, not_or, List.isEmpty_iff, decide_eq_true_eq, Bool.not_eq_true', Bool.not_eq_false, List.contains_iff_mem,
      not_lt, Bool.not_eq_true] at refused
    obtain ⟨⟨⟨⟨⟨nonempty, short⟩, valid⟩, noNul⟩, noBackslash⟩, relative⟩ := refused
    have first : ¬ name.head?.getD 0 = 47 := by simpa using relative
    simp [nonempty, short, valid, noNul, noBackslash, first, and_assoc]

theorem SafePath.plain (safe : SafePath name) : ∀ segment ∈ split 47 name, PlainElement segment := by
  intro segment member
  obtain ⟨nonempty, noDot, noDots⟩ := safe.segments segment member
  exact ⟨nonempty, split_noSlash name segment member, noDot, noDots⟩

theorem SafePath.accepted (safe : SafePath name) : validateArtifactPath name = true := by
  have relative : (name.headD 0 == 47) = false := by
    obtain ⟨first, rest, rfl⟩ := List.exists_cons_of_ne_nil safe.nonempty
    simpa using safe.relative
  have cleaned : cleanPath name = name := by
    unfold cleanPath
    simp only [relative, Bool.false_eq_true, if_false, cleanElements_plain safe.plain, List.reverse_nil, List.nil_append]
    rw [if_neg (by simp [split])]
    exact List.intercalate_splitOn 47
  refine validateArtifactPath_checks.mpr
    ⟨⟨safe.nonempty, safe.short, safe.valid, safe.noNul, safe.noBackslash, relative⟩, ?_, cleaned, ?_⟩
  · rw [cleaned]
    rintro rfl
    exact (safe.segments (lit ".") (by decide)).2.1 rfl
  · rw [cleaned]
    by_contra parent
    obtain ⟨rest, rfl⟩ := List.isPrefixOf_iff_prefix.mp (Bool.not_eq_false _ ▸ parent)
    have slashless : (47 : UInt8) ∉ lit ".." := by decide
    have segments : split 47 (lit ".." ++ 47 :: rest) = lit ".." :: split 47 rest :=
      List.splitOn_append_cons_self_of_not_mem slashless rest
    change split 47 (lit "../" ++ rest) = _ at segments
    refine (safe.segments (lit "..") ?_).2.2 rfl
    rw [segments]
    exact List.mem_cons_self

private theorem validateArtifactPath_iff : validateArtifactPath name = true ↔ SafePath name ∨ name = lit ".." := by
  constructor
  · intro accepted
    obtain ⟨⟨nonempty, short, valid, noNul, noBackslash, relative⟩, dotless, cleaned, parent⟩ := validateArtifactPath_checks.mp accepted
    rw [cleaned] at dotless parent
    have joined : [(47 : UInt8)].intercalate (split 47 name) = name := List.intercalate_splitOn 47
    rcases cleanElements_fixed (cleanPath_fixed relative dotless cleaned) with segments | first
    · refine .inl ⟨nonempty, ?_, short, valid, noNul, noBackslash, segments⟩
      obtain ⟨head, tail, rfl⟩ := List.exists_cons_of_ne_nil nonempty
      simpa using relative
    · right
      obtain ⟨rest, shape⟩ := List.head?_eq_some_iff.mp first
      rw [shape] at joined
      cases rest with
      | nil => simpa using joined.symm
      | cons second others =>
        rw [List.intercalate_cons_cons] at joined
        have leads : (lit "../").isPrefixOf name = true := by
          rw [List.isPrefixOf_iff_prefix, ← joined]
          exact ⟨_, by rfl⟩
        rw [leads] at parent
        cases parent
  · rintro (safe | rfl)
    · exact safe.accepted
    · decide

private theorem climbs_descending {segments : List GoString} (descending : ∀ segment ∈ segments, Descends segment) (depth : Nat) :
    climbs depth segments = false := by
  induction segments generalizing depth with
  | nil => rfl
  | cons segment rest ih =>
    obtain ⟨⟨nonempty, noDot, noDots⟩, later⟩ := List.forall_mem_cons.mp descending
    have unfolded := climbs.eq_def depth (segment :: rest)
    dsimp only at unfolded
    rw [unfolded, if_neg (by simp [nonempty, noDot]), if_neg noDots]
    exact ih later (depth + 1)

private theorem escapes_iff (accepted : validateArtifactPath name = true) : Escapes name ↔ name = lit ".." := by
  rcases validateArtifactPath_iff.mp accepted with safe | rfl
  · have below : ¬ Escapes name := by simp [Escapes, climbs_descending safe.segments]
    refine ⟨fun escapes => absurd escapes below, ?_⟩
    rintro rfl
    exact absurd (by decide) below
  · exact ⟨fun _ => rfl, fun _ => by decide⟩

end Accepted

/-! ### Archives and manifests -/

/-- A name is accepted exactly where it is safe, unless it is that of the parent directory. No
other path of a valid manifest and no other entry of an archive that opens names something above
the root. -/
theorem artifact_paths (name : GoString) (manifest : Manifest) (digests : External.Digests) (files : List Archive.ZipFile)
    (databaseManifest : Bytes) (limits : Archive.ArchiveLimits) (artifact : Archive.Artifact) :
    ((validateArtifactPath name = true ↔ SafePath name) ↔ name ≠ lit "..") ∧
    (manifest.validate = .ok () →
      ((∀ path ∈ manifestPaths manifest, ¬ Escapes path) ↔ lit ".." ∉ manifestPaths manifest)) ∧
    (Archive.openArchive digests (some files) databaseManifest limits = .ok artifact →
      ((∀ file ∈ files, ¬ Escapes file.name) ↔ lit ".." ∉ files.map Archive.ZipFile.name)) := by
  refine ⟨?_, fun accepted => ?_, fun opened => ?_⟩
  · rw [validateArtifactPath_iff]
    constructor
    · rintro exact rfl
      have safe := exact.mp (.inr rfl)
      exact (safe.segments (lit "..") (by decide)).2.2 rfl
    · intro other
      exact ⟨fun either => either.resolve_right other, .inl⟩
  · have valid := ValidManifest.of_validate accepted
    constructor
    · exact fun below member => below _ member (by decide)
    · intro absent path member escapes
      obtain rfl := (escapes_iff (valid.paths path member).1).mp escapes
      exact absent member
  · obtain ⟨expected, -, opening⟩ := openArchive_ok opened
    obtain ⟨files', same, checked, -⟩ := openExpecting_iff.mp opening
    obtain rfl := Option.some.inj same
    have nothing : (List.map Archive.ZipFile.name []).Nodup := List.nodup_nil
    obtain ⟨total, scanned⟩ := checked.scanned
    have accepted := (scanEntries_names nothing scanned).2
    constructor
    · intro below member
      obtain ⟨file, present, named⟩ := List.mem_map.mp member
      exact below file present (named ▸ by decide)
    · intro absent file member escapes
      have parent := (escapes_iff (accepted file member)).mp escapes
      exact absent (parent ▸ List.mem_map_of_mem member)

def climbingManifest : Manifest :=
  ⟨1, .acm, .exact, ⟨1000, 64⟩, none, none, [⟨lit "1", lit "..", lit "1.out", 1⟩]⟩

/-- The name of the parent directory is accepted, also as a path of a manifest. -/
theorem artifact_paths_parent :
    validateArtifactPath (lit "..") = true ∧ ¬ SafePath (lit "..") ∧ climbingManifest.validate = .ok () ∧
      ∃ path ∈ manifestPaths climbingManifest, Escapes path := by
  refine ⟨by decide, fun safe => ?_, by decide +kernel, lit "..", by decide, by decide⟩
  exact (safe.segments (lit "..") (by decide)).2.2 rfl

end JudgingServer.Proofs
