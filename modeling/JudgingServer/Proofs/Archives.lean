import JudgingServer.Bundle.Archive
import JudgingServer.Proofs.ManifestValidation
import JudgingServer.Proofs.Outputs
import Mathlib.Data.List.Dedup

/-! What opening an archive makes sure of, and that every text which the inspection has
scanned rune by rune is read as a whole later. -/

namespace JudgingServer.Proofs
open Go Bundle Library External Archive

/-! ### Reading an entry -/

section Entries

private theorem openEntry_ok (opened : openEntry files name = .ok (file, stream)) : file ∈ files ∧ file.name = name := by
  unfold openEntry at opened
  split at opened
  next => cases opened
  next other found =>
    split at opened
    next => cases opened
    next =>
      obtain ⟨rfl, -⟩ := Prod.mk.inj (Except.ok.inj opened)
      have named := List.find?_some found
      exact ⟨List.mem_of_find?_eq_some found, beq_iff_eq.mp named⟩

/-- The text is all that the entry holds, of the declared size and within the limit. -/
structure HoldsText (files : List ZipFile) (name : GoString) (limit : Int) (text : Bytes) : Prop where
  entry : ∃ file ∈ files, file.name = name ∧ text.length = file.uncompressedSize64
  within : (text.length : Int) ≤ limit

private theorem readBytes_holds (read : readBytes files name limit = .ok text) : HoldsText files name limit text := by
  unfold readBytes at read
  obtain ⟨⟨file, stream⟩, opened, read⟩ := checked_ok read
  obtain ⟨_, -, read⟩ := checked_ok read
  obtain ⟨_, size, read⟩ := checked_ok read
  obtain rfl := Except.ok.inj read
  obtain ⟨within, declared⟩ := not_or.mp (rejectIf_ok size)
  obtain ⟨member, named⟩ := openEntry_ok opened
  exact ⟨⟨file, member, named, not_not.mp declared⟩, Int.not_lt.mp within⟩

private theorem readText_holds (read : readText files name limit = .ok text) :
    HoldsText files name limit text ∧ validString text = true := by
  unfold readText at read
  obtain ⟨data, bytes, read⟩ := checked_ok read
  obtain ⟨_, valid, read⟩ := checked_ok read
  obtain rfl := Except.ok.inj read
  exact ⟨readBytes_holds bytes, by simpa using rejectIf_ok valid⟩

private theorem scanRunes_ok (scanned : scanRunes limit pieces size = .ok final) :
    (∀ segment ∈ pieces, ¬ (segment.rune = runeError ∧ segment.bytes.length = 1)) ∧
      final = size + (joinSegments pieces).length ∧ (pieces ≠ [] → (final : Int) ≤ limit) := by
  induction pieces generalizing size with
  | nil =>
    obtain rfl := Except.ok.inj scanned
    simp [joinSegments]
  | cons segment rest ih =>
    unfold scanRunes at scanned
    obtain ⟨_, valid, scanned⟩ := checked_ok scanned
    obtain ⟨_, within, scanned⟩ := checked_ok scanned
    obtain ⟨others, total, bound⟩ := ih scanned
    have length : (joinSegments (segment :: rest)).length = segment.bytes.length + (joinSegments rest).length := by simp [joinSegments]
    refine ⟨List.forall_mem_cons.mpr ⟨rejectIf_ok valid, others⟩, by omega, fun _ => ?_⟩
    have here := Int.not_lt.mp (rejectIf_ok within)
    cases rest with
    | nil =>
      rw [show joinSegments [] = [] from rfl, List.length_nil] at total
      omega
    | cons next more => exact bound (by simp)

private theorem validateTextEntry_reads (positive : 0 ≤ limit) (validated : validateTextEntry files name limit = .ok ()) :
    ∃ text, readText files name limit = .ok text := by
  unfold validateTextEntry at validated
  obtain ⟨⟨file, stream⟩, opened, validated⟩ := checked_ok validated
  obtain ⟨size, scanned, validated⟩ := checked_ok validated
  obtain ⟨_, succeeds, validated⟩ := checked_ok validated
  have declared := not_not.mp (rejectIf_ok validated)
  obtain ⟨valid, total, bound⟩ := scanRunes_ok scanned
  rw [joinSegments_segments, Nat.zero_add] at total
  have within : ((limited stream limit).bytes.length : Int) ≤ limit := by
    cases content : (limited stream limit).bytes with
    | nil => simpa using positive
    | cons first rest =>
      rw [content] at total bound
      rw [← total]
      exact bound (by simp [segments, segmentsFrom])
  refine ⟨(limited stream limit).bytes, ?_⟩
  unfold readText readBytes
  refine checked_run (checked_run opened (checked_run succeeds (checked_run (rejectIf_pass ?_) rfl))) ?_
  · rw [not_or, Int.not_lt, not_not]
    exact ⟨within, total ▸ declared⟩
  · refine checked_run (rejectIf_pass ?_) rfl
    simp only [validString, Bool.not_eq_true', Bool.not_eq_false, List.all_eq_true]
    intro segment member
    have here := valid segment member
    simpa using here

end Entries

/-! ### Opening -/

section Opening

/-- What is checked when an archive is opened, apart from the manifest that is expected. -/
structure Opened (digests : Digests) (files : List ZipFile) (limits : ArchiveLimits) (artifact : Artifact) : Prop where
  sameFiles : artifact.files = files
  sameLimits : artifact.limits = limits
  count : ¬ (files.length = 0 ∨ limits.maxFiles < files.length)
  scanned : ∃ total, scanEntries limits files [] 0 = .ok total
  read : readBytes files manifestFile limits.maxManifestBytes = .ok artifact.manifestJSON
  parsed : parseManifestText artifact.manifestJSON = .ok artifact.manifest
  counted : (referenced artifact.manifest).dedup.length = files.length
  present : ∀ name ∈ referenced artifact.manifest, ∃ file ∈ files, file.name = name
  judged : artifact.manifest.specialJudge.isSome = true → ∃ source, artifact.readSpecialJudge digests = .ok source

private theorem validate_iff : validate digests files limits expected = .ok artifact ↔
    Opened digests files limits artifact ∧ ∀ manifest ∈ expected, manifest = artifact.manifest := by
  unfold validate
  simp only [checked_iff, rejectIf_iff, mapError_iff]
  constructor
  · rintro ⟨-, count, total, scanned, manifestBytes, read, actual, parsed, -, agrees, -, counted, returned⟩
    split at returned
    next => cases returned
    next present =>
      have all : ∀ name ∈ referenced actual, ∃ file ∈ files, file.name = name := by
        intro name member
        simpa using List.find?_eq_none.mp present name member
      have same : ∀ manifest ∈ expected, manifest = actual := by
        intro manifest member
        obtain rfl := Option.mem_def.mp member
        simpa using agrees
      split_ifs at returned with special
      · obtain ⟨source, judged, returned⟩ := checked_ok returned
        obtain rfl := Except.ok.inj returned
        exact ⟨⟨rfl, rfl, count, ⟨total, scanned⟩, read, parsed, not_not.mp counted, all, fun _ => ⟨source, judged⟩⟩, same⟩
      · obtain rfl := Except.ok.inj returned
        exact ⟨⟨rfl, rfl, count, ⟨total, scanned⟩, read, parsed, not_not.mp counted, all, fun some => absurd some special⟩, same⟩
  · rintro ⟨opened, agrees⟩
    obtain ⟨total, scanned⟩ := opened.scanned
    refine ⟨(), opened.count, total, scanned, _, opened.read, _, opened.parsed, (), ?_, (), not_not.mpr opened.counted, ?_⟩
    · cases expected with
      | none => simp
      | some manifest => simpa using agrees manifest rfl
    · have present : ((referenced artifact.manifest).find? fun name => !files.any fun file => file.name == name) = none := by
        refine List.find?_eq_none.mpr fun name member => ?_
        simpa using opened.present name member
      have same : artifact = ⟨artifact.manifest, artifact.manifestJSON, files, limits⟩ := by
        rw [← opened.sameFiles, ← opened.sameLimits]
      rw [present]
      dsimp only
      rw [← same]
      split_ifs with special
      · obtain ⟨source, judged⟩ := opened.judged special
        exact checked_run judged rfl
      · rfl

private theorem parseManifestText_valid (parsed : parseManifestText text = .ok manifest) : ValidManifest manifest := by
  unfold parseManifestText at parsed
  obtain ⟨_, -, parsed⟩ := checked_ok parsed
  split at parsed
  next => cases parsed
  next =>
    split at parsed
    next => cases parsed
    next =>
      obtain ⟨_, -, parsed⟩ := checked_ok parsed
      obtain ⟨_, validated, parsed⟩ := checked_ok parsed
      obtain rfl := Except.ok.inj parsed
      exact .of_validate (mapError_ok validated)

/-- An entry that passes has a safe name of its own, and the total with it is within the limit. -/
theorem scanEntries_cons (scanned : scanEntries limits (file :: rest) seen total = .ok final) :
    validateArtifactPath file.name = true ∧ file.name ∉ seen.map ZipFile.name ∧
      (total + file.uncompressedSize64 : Nat) ≤ limits.maxTotalBytes ∧
      scanEntries limits rest (file :: seen) ((total + file.uncompressedSize64) % 2 ^ 64) = .ok final := by
  unfold scanEntries at scanned
  simp only [checked_iff, rejectIf_iff] at scanned
  obtain ⟨_, path, _, fresh, _, -, _, -, _, -, _, -, _, within, scanned⟩ := scanned
  exact ⟨by simpa using path, by simpa using fresh, by omega, scanned⟩

theorem scanEntries_names (distinct : (seen.map ZipFile.name).Nodup) (scanned : scanEntries limits files seen total = .ok final) :
    ((files.map ZipFile.name).reverse ++ seen.map ZipFile.name).Nodup ∧ ∀ file ∈ files, validateArtifactPath file.name = true := by
  induction files generalizing seen total with
  | nil => exact ⟨distinct, by simp⟩
  | cons file rest ih =>
    obtain ⟨path, fresh, -, scanned⟩ := scanEntries_cons scanned
    have grown : ((file :: seen).map ZipFile.name).Nodup := List.nodup_cons.mpr ⟨fresh, distinct⟩
    obtain ⟨names, paths⟩ := ih grown scanned
    exact ⟨by simpa using names, List.forall_mem_cons.mpr ⟨path, paths⟩⟩

/-- The quotient and the remainder are compared in place of the product, which could overflow. -/
theorem exceedsCompressionRatio_iff : exceedsCompressionRatio uncompressed compressed maximum = true ↔ maximum * compressed < uncompressed := by
  unfold exceedsCompressionRatio
  split
  next zero => simp [zero]
  next some =>
    split
    next zero => simp [zero, Nat.pos_of_ne_zero some]
    next nonzero =>
      have parts := Nat.div_add_mod' uncompressed compressed
      have small := Nat.mod_lt uncompressed (Nat.pos_of_ne_zero nonzero)
      simp only [decide_eq_true_eq]
      rcases Nat.lt_trichotomy maximum (uncompressed / compressed) with less | same | more
      · have grows := Nat.mul_lt_mul_of_pos_right less (Nat.pos_of_ne_zero nonzero)
        omega
      · rw [same]
        omega
      · have grows := Nat.mul_le_mul_right compressed more
        rw [Nat.succ_mul] at grows
        omega

private theorem scanEntries_append (limits : ArchiveLimits) (before after seen : List ZipFile) (total : Nat) :
    scanEntries limits (before ++ after) seen total =
      scanEntries limits before seen total >>= fun total => scanEntries limits after (before.reverse ++ seen) total := by
  induction before generalizing seen total with
  | nil => rfl
  | cons file rest ih => simp [scanEntries, ih]

private theorem scanEntries_total {total : Nat} (machine : limits.maxTotalBytes < 2 ^ 63)
    (within : (total : Int) ≤ limits.maxTotalBytes)
    (scanned : scanEntries limits files seen total = .ok final) :
    final = total + (files.map ZipFile.uncompressedSize64).sum ∧ (final : Int) ≤ limits.maxTotalBytes := by
  induction files generalizing seen total with
  | nil =>
    obtain rfl := Except.ok.inj scanned
    exact ⟨rfl, within⟩
  | cons file rest ih =>
    obtain ⟨-, -, fits, scanned⟩ := scanEntries_cons scanned
    rw [Nat.mod_eq_of_lt (by omega)] at scanned
    rw [List.map_cons, List.sum_cons, ← Nat.add_assoc]
    exact ih fits scanned

private theorem referenced_nodup (valid : ValidManifest manifest) : (referenced manifest).Nodup := by
  refine List.nodup_cons.mpr ⟨fun member => ?_, valid.distinctPaths⟩
  exact (valid.paths manifestFile member).2 rfl

theorem Opened.names (opened : Opened digests files limits artifact) :
    (files.map ZipFile.name).Perm (referenced artifact.manifest) := by
  have valid := parseManifestText_valid opened.parsed
  have distinct := referenced_nodup valid
  have counted := opened.counted
  rw [distinct.dedup] at counted
  have inside : referenced artifact.manifest ⊆ files.map ZipFile.name := by
    intro name member
    obtain ⟨file, present, rfl⟩ := opened.present name member
    exact List.mem_map_of_mem present
  refine ((List.subperm_of_subset distinct inside).perm_of_length_le ?_).symm
  rw [List.length_map, counted]

theorem Opened.unique (opened : Opened digests files limits artifact) (again : Opened digests files limits other) :
    artifact = other := by
  obtain ⟨manifest, manifestJSON, entries, bounds⟩ := artifact
  obtain ⟨manifest', manifestJSON', entries', bounds'⟩ := other
  obtain rfl : manifestJSON = manifestJSON' := Except.ok.inj (opened.read.symm.trans again.read)
  obtain rfl : manifest = manifest' := Except.ok.inj (opened.parsed.symm.trans again.parsed)
  obtain rfl : entries = entries' := opened.sameFiles.trans again.sameFiles.symm
  obtain rfl : bounds = bounds' := opened.sameLimits.trans again.sameLimits.symm
  rfl

end Opening

/-! ### Inspection -/

section Inspection

theorem openExpecting_iff : openExpecting digests reader limits expected = .ok artifact ↔
    ∃ files, reader = some files ∧ Opened digests files limits artifact ∧ ∀ manifest ∈ expected, manifest = artifact.manifest := by
  unfold openExpecting
  cases reader with
  | none => simp
  | some files => simp [validate_iff]

theorem openArchive_ok (opened : openArchive digests reader databaseManifest limits = .ok artifact) :
    ∃ expected, parseManifestText databaseManifest = .ok expected ∧ openExpecting digests reader limits (some expected) = .ok artifact := by
  unfold openArchive at opened
  obtain ⟨_, -, opened⟩ := checked_ok opened
  obtain ⟨_, -, opened⟩ := checked_ok opened
  obtain ⟨expected, parsed, opened⟩ := checked_ok opened
  exact ⟨expected, mapError_ok parsed, opened⟩

private theorem validateCases_ok (validated : validateCases artifact limits cases = .ok ()) :
    ∀ testCase ∈ cases, validateTextEntry artifact.files testCase.input limits.maxCaseBytes = .ok () ∧
      validateTextEntry artifact.files testCase.output limits.maxCaseBytes = .ok () := by
  induction cases with
  | nil => simp
  | cons testCase rest ih =>
    unfold validateCases at validated
    obtain ⟨⟨⟩, input, validated⟩ := checked_ok validated
    obtain ⟨⟨⟩, output, validated⟩ := checked_ok validated
    exact List.forall_mem_cons.mpr ⟨⟨input, output⟩, ih validated⟩

/-- An inspected archive opens with the manifest that the inspection returned. Its entries are the
manifest and the files that it refers to, and every artifact opened on it reads all of them. -/
theorem inspection_readable (digests : Digests) (reader : ZipReader) (limits : ArchiveLimits) {manifest : Manifest} {manifestJSON : Bytes}
    (inspected : inspectArchive digests reader limits = .ok (manifest, manifestJSON)) :
    ∃ files, reader = some files ∧
      (files.map ZipFile.name).Perm (manifestFile :: manifestPaths manifest) ∧ (files.map ZipFile.name).Nodup ∧
      (∃ artifact, openArchive digests reader manifestJSON limits = .ok artifact) ∧
      ∀ expected artifact, openExpecting digests reader limits expected = .ok artifact →
        (∀ testCase ∈ manifest.cases, ∃ input output, artifact.readCase testCase = .ok (input, output) ∧
          validString input = true ∧ HoldsText files testCase.input limits.maxCaseBytes input ∧
          validString output = true ∧ HoldsText files testCase.output limits.maxCaseBytes output) ∧
        ∀ judge, manifest.specialJudge = some judge → ∃ source, artifact.readSpecialJudge digests = .ok source ∧
          validString source = true ∧ HoldsText files judge.source maxSpecialJudgeSourceBytes source ∧
          encodeHex (digests.sha256 source) = judge.sourceSHA256 := by
  unfold inspectArchive at inspected
  obtain ⟨⟨⟩, positive, inspected⟩ := checked_ok inspected
  obtain ⟨artifact, opening, inspected⟩ := checked_ok inspected
  obtain ⟨⟨⟩, cases, inspected⟩ := checked_ok inspected
  have returned : (artifact.manifest, artifact.manifestJSON) = (manifest, manifestJSON) := by
    dsimp only at inspected
    split at inspected
    all_goals
      obtain ⟨_, -, inspected⟩ := checked_ok inspected
      exact Except.ok.inj inspected
  obtain ⟨rfl, rfl⟩ := Prod.mk.inj returned
  obtain ⟨files, rfl, opened, -⟩ := openExpecting_iff.mp opening
  have bounds := rejectIf_ok positive
  have names := opened.names
  have distinct := names.nodup_iff.mpr (referenced_nodup (parseManifestText_valid opened.parsed))
  refine ⟨files, rfl, names, distinct, ⟨artifact, ?_⟩, fun expected other openedOther => ?_⟩
  · have again : openExpecting digests (some files) limits (some artifact.manifest) = .ok artifact :=
      openExpecting_iff.mpr ⟨files, rfl, opened, by simp⟩
    refine checked_run positive (checked_run (rejectIf_pass ?_) (checked_run (mapError_iff.mpr opened.parsed) again))
    exact Int.not_lt.mpr (readBytes_holds opened.read).within
  · obtain ⟨files', same, openedOther, -⟩ := openExpecting_iff.mp openedOther
    obtain rfl := Option.some.inj same
    obtain rfl := opened.unique openedOther
    constructor
    · intro testCase member
      obtain ⟨scannedInput, scannedOutput⟩ := validateCases_ok cases testCase member
      obtain ⟨input, readInput⟩ := validateTextEntry_reads (by omega) scannedInput
      obtain ⟨output, readOutput⟩ := validateTextEntry_reads (by omega) scannedOutput
      rw [← opened.sameLimits] at readInput readOutput
      refine ⟨input, output, checked_run readInput (checked_run readOutput rfl), ?_⟩
      rw [opened.sameFiles, opened.sameLimits] at readInput readOutput
      obtain ⟨holdsInput, validInput⟩ := readText_holds readInput
      obtain ⟨holdsOutput, validOutput⟩ := readText_holds readOutput
      exact ⟨validInput, holdsInput, validOutput, holdsOutput⟩
    · intro special present
      obtain ⟨source, reads⟩ := opened.judged (by rw [present]; rfl)
      refine ⟨source, reads, ?_⟩
      unfold Artifact.readSpecialJudge at reads
      rw [present] at reads
      obtain ⟨text, read, reads⟩ := checked_ok reads
      obtain ⟨_, digest, reads⟩ := checked_ok reads
      obtain rfl := Except.ok.inj reads
      rw [opened.sameFiles] at read
      obtain ⟨holds, valid⟩ := readText_holds read
      exact ⟨valid, holds, not_not.mp (rejectIf_ok digest)⟩

/-- The ratio check is the one over the naturals. The loop over the entries goes on with what it
has added up so far, which is the sum over the naturals and within the limit, so that an archive
passes only where all of its declared sizes together are. -/
theorem declared_sizes_exact (limits : ArchiveLimits) (valid : validateArchiveLimits limits = .ok ())
    (machine : limits.maxTotalBytes < 2 ^ 63) :
    (∀ uncompressed compressed maximum : Nat,
      exceedsCompressionRatio uncompressed compressed maximum = true ↔ maximum * compressed < uncompressed) ∧
    (∀ before after, scanEntries limits (before ++ after) [] 0 =
      scanEntries limits before [] 0 >>= fun total => scanEntries limits after before.reverse total) ∧
    (∀ before total, scanEntries limits before [] 0 = .ok total →
      total = (before.map ZipFile.uncompressedSize64).sum ∧ (total : Int) ≤ limits.maxTotalBytes) ∧
    ∀ digests files expected artifact, validate digests files limits expected = .ok artifact →
      ((files.map ZipFile.uncompressedSize64).sum : Nat) ≤ limits.maxTotalBytes := by
  have totals : ∀ files total, scanEntries limits files [] 0 = .ok total →
      total = (files.map ZipFile.uncompressedSize64).sum ∧ (total : Int) ≤ limits.maxTotalBytes := by
    intro files total scanned
    have positive := rejectIf_ok valid
    simpa using scanEntries_total machine (by omega) scanned
  refine ⟨fun _ _ _ => exceedsCompressionRatio_iff, fun before after => ?_, totals, fun digests files expected artifact opened => ?_⟩
  · simpa using scanEntries_append limits before after [] 0
  · obtain ⟨total, scanned⟩ := (validate_iff.mp opened).1.scanned
    obtain ⟨rfl, within⟩ := totals files total scanned
    exact within

end Inspection

def storedFile (name : String) (text : GoString) : ZipFile := ⟨lit name, true, false, .store, text.length, text.length, some ⟨text, false⟩⟩

def judgedManifest : GoString :=
  lit "\x7b\"schemaVersion\":2,\"judgeMode\":\"ACM\",\"checker\":\"special\"," ++
  lit "\"limits\":\x7b\"timeLimitMillis\":1000,\"memoryLimitMiB\":64\x7d," ++
  lit "\"specialJudge\":\x7b\"language\":\"cpp\",\"source\":\"judge.cpp\",\"sourceSha256\":\"" ++
  encodeHex (List.replicate 32 97) ++ lit "\",\"timeLimitMillis\":1000,\"memoryLimitMiB\":64\x7d," ++
  lit "\"cases\":[\x7b\"id\":\"1\",\"input\":\"1.in\",\"output\":\"1.out\",\"weight\":1\x7d]\x7d"

def judgedArchive : List ZipFile :=
  [storedFile "manifest.json" judgedManifest, storedFile "judge.cpp" (List.replicate 32 97), storedFile "1.in" (lit "2 3"),
    storedFile "1.out" (lit "5")]

def sampleDigests : Digests := ⟨id, fun _ => id⟩

theorem inspection_readable_sample :
    ∃ manifest manifestJSON artifact, inspectArchive sampleDigests (some judgedArchive) defaultArchiveLimits = .ok (manifest, manifestJSON) ∧
      openArchive sampleDigests (some judgedArchive) manifestJSON defaultArchiveLimits = .ok artifact ∧
      manifest.specialJudge.isSome = true ∧ ∃ source, artifact.readSpecialJudge sampleDigests = .ok source := by
  have accepted : (inspectArchive sampleDigests (some judgedArchive) defaultArchiveLimits).isOk = true := by decide +kernel
  have special : ∀ manifest manifestJSON,
      inspectArchive sampleDigests (some judgedArchive) defaultArchiveLimits = .ok (manifest, manifestJSON) →
      manifest.specialJudge.isSome = true := by
    have judged : (inspectArchive sampleDigests (some judgedArchive) defaultArchiveLimits).toOption.any
        (fun inspected => inspected.1.specialJudge.isSome) = true := by decide +kernel
    intro manifest manifestJSON same
    rw [same] at judged
    exact judged
  cases inspected : inspectArchive sampleDigests (some judgedArchive) defaultArchiveLimits with
  | error error =>
    rw [inspected] at accepted
    cases accepted
  | ok inspection =>
    obtain ⟨manifest, manifestJSON⟩ := inspection
    obtain ⟨files, -, -, -, ⟨artifact, opened⟩, reads⟩ := inspection_readable _ _ _ inspected
    have judged := special manifest manifestJSON inspected
    obtain ⟨judge, present⟩ := Option.isSome_iff_exists.mp judged
    obtain ⟨expected, -, opening⟩ := openArchive_ok opened
    obtain ⟨source, reading, -⟩ := (reads (some expected) artifact opening).2 judge present
    exact ⟨manifest, manifestJSON, artifact, rfl, opened, judged, source, reading⟩

theorem declared_sizes_exact_sample :
    exceedsCompressionRatio (2 ^ 64 - 1) (2 ^ 63) 1 = true ∧
    ∃ total, scanEntries defaultArchiveLimits judgedArchive [] 0 = .ok total ∧
      total = (judgedArchive.map ZipFile.uncompressedSize64).sum := by
  obtain ⟨ratio, -, totals, -⟩ := declared_sizes_exact defaultArchiveLimits (by decide) (by decide)
  have passes : scanEntries defaultArchiveLimits judgedArchive [] 0 = .ok 391 := by decide +kernel
  exact ⟨(ratio ..).mpr (by decide), _, passes, (totals judgedArchive _ passes).1⟩

end JudgingServer.Proofs
