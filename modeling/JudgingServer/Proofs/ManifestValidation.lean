import JudgingServer.Bundle.Manifest
import Mathlib.Algebra.Order.BigOperators.Group.List
import Mathlib.Algebra.Order.Ring.Int
import Mathlib.Data.List.Nodup

/-! What the validation of a manifest accepts: the loop over the cases keeps two sets and a
sum, and its early exits leave exactly the manifests that the contract describes. -/

namespace JudgingServer.Proofs
open Go Bundle Library

/-! ### The contract of a manifest -/

structure LimitsInRange (timeLimitMillis memoryLimitMiB : Int) : Prop where
  time : 0 < timeLimitMillis ∧ timeLimitMillis ≤ 86400000
  memory : 0 < memoryLimitMiB ∧ memoryLimitMiB ≤ 2147483647

structure ValidSpecialJudge (judge : SpecialJudge) : Prop where
  language : resolveLanguage judge.language = true
  source : validateArtifactPath judge.source = true
  digest : matchesLowerSHA256 judge.sourceSHA256 = true
  limits : LimitsInRange judge.timeLimitMillis judge.memoryLimitMiB

/-- The files of the cases, in the order of the manifest. -/
def casePaths (cases : List Case) : List GoString := cases.flatMap fun testCase => [testCase.input, testCase.output]

/-- The files that a manifest refers to. -/
def manifestPaths (manifest : Manifest) : List GoString :=
  (manifest.specialJudge.map SpecialJudge.source).toList ++ casePaths manifest.cases

def weightSum (cases : List Case) : Int := (cases.map Case.weight).sum

structure ValidManifest (manifest : Manifest) : Prop where
  version : manifest.schemaVersion = 1 ∨ manifest.schemaVersion = 2
  limits : LimitsInRange manifest.limits.timeLimitMillis manifest.limits.memoryLimitMiB
  first : manifest.schemaVersion = 1 → manifest.judgeMode = .acm ∧ (manifest.checker = .exact ∨ manifest.checker = .token) ∧
    manifest.totalScore = none ∧ manifest.specialJudge = none
  second : manifest.schemaVersion = 2 → (manifest.judgeMode = .acm ∨ manifest.judgeMode = .oi) ∧
    (manifest.checker = .exact ∨ manifest.checker = .token ∨ manifest.checker = .special)
  special : manifest.specialJudge.isSome = true ↔ manifest.checker = .special
  judge : ∀ judge, manifest.specialJudge = some judge → ValidSpecialJudge judge
  count : 1 ≤ manifest.cases.length ∧ manifest.cases.length ≤ 10000
  ids : ∀ testCase ∈ manifest.cases, matchesCaseID testCase.id = true
  distinctIDs : (manifest.cases.map Case.id).Nodup
  paths : ∀ path ∈ manifestPaths manifest, validateArtifactPath path = true ∧ path ≠ lit "manifest.json"
  distinctPaths : (manifestPaths manifest).Nodup
  acm : manifest.judgeMode = .acm → (∀ testCase ∈ manifest.cases, testCase.weight = 1) ∧ manifest.totalScore = none
  oi : manifest.judgeMode = .oi → (∀ testCase ∈ manifest.cases, 0 < testCase.weight) ∧
    ∃ total, manifest.totalScore = some total ∧ 1 ≤ total ∧ total ≤ 1000000000 ∧ total = weightSum manifest.cases

/-! ### The loop over the cases -/

section Loop

variable {cases : List Case}

private theorem scanPaths_iff {id : GoString} {names paths final : List GoString} (distinct : paths.Nodup) :
    scanPaths id names paths = .ok final ↔
      (∀ name ∈ names, validateArtifactPath name = true ∧ name ≠ manifestFile) ∧ (names.reverse ++ paths).Nodup ∧
        final = names.reverse ++ paths := by
  induction names generalizing paths with
  | nil => exact ⟨fun same => ⟨by simp, distinct, (Except.ok.inj same).symm⟩, fun holds => congrArg Except.ok holds.2.2.symm⟩
  | cons name rest ih =>
    rw [List.reverse_cons, List.append_assoc, List.singleton_append, List.forall_mem_cons]
    unfold scanPaths
    split_ifs with refused reserved repeated
    · have rejected : validateArtifactPath name = false := by simpa using refused
      simp [rejected]
    · simp [reserved]
    · have inside : name ∈ paths := by simpa using repeated
      have clash : ¬ (rest.reverse ++ name :: paths).Nodup := fun apart =>
        (List.nodup_cons.mp (List.nodup_append.mp apart).2.1).1 inside
      simp [clash]
    · have outside : name ∉ paths := by simpa using repeated
      have accepted : validateArtifactPath name = true := by simpa using refused
      rw [ih (List.nodup_cons.mpr ⟨outside, distinct⟩)]
      simp [accepted, reserved]

/-- What the weight of a case has to be before it is added. -/
def WeightPasses (mode : JudgeMode) (testCase : Case) : Prop :=
  (mode = .acm → testCase.weight = 1) ∧ (mode = .oi → 0 < testCase.weight ∧ testCase.weight ≤ maxTotalScore)

def visitCase (scan : CaseScan) (testCase : Case) : CaseScan :=
  ⟨testCase.id :: scan.ids, testCase.output :: testCase.input :: scan.paths, scan.weightSum + testCase.weight⟩

/-- The sets of the loop have no duplicates, and its sum is within the bound. -/
structure ScanFits (scan : CaseScan) : Prop where
  ids : scan.ids.Nodup
  paths : scan.paths.Nodup
  sum : scan.weightSum ≤ maxTotalScore

private theorem scanCase_iff (fits : ScanFits scan) : scanCase mode index scan testCase = .ok next ↔
    matchesCaseID testCase.id = true ∧ WeightPasses mode testCase ∧
      (∀ name ∈ [testCase.input, testCase.output], validateArtifactPath name = true ∧ name ≠ manifestFile) ∧
      ScanFits (visitCase scan testCase) ∧ next = visitCase scan testCase := by
  unfold scanCase
  simp only [checked_iff, rejectIf_iff, scanPaths_iff fits.paths]
  constructor
  · rintro ⟨-, named, -, fresh, -, acm, -, oi, -, sum, paths, ⟨accepted, apart, rfl⟩, returned⟩
    obtain rfl := Except.ok.inj returned
    refine ⟨by simpa using named, ⟨?_, ?_⟩, accepted, ⟨?_, apart, Int.not_lt.mp sum⟩, rfl⟩
    · intro same
      simpa [same] using acm
    · intro same
      simpa [same] using oi
    · exact List.nodup_cons.mpr ⟨by simpa using fresh, fits.ids⟩
  · rintro ⟨named, weight, accepted, visited, rfl⟩
    refine ⟨(), by simpa using named, (), ?_, (), ?_, (), ?_, (), Int.not_lt.mpr visited.sum, _, ⟨accepted, visited.paths, rfl⟩, rfl⟩
    · have fresh := (List.nodup_cons.mp visited.ids).1
      simpa using fresh
    · rintro ⟨same, other⟩
      exact other (weight.1 same)
    · rintro ⟨same, other⟩
      have bounds := weight.2 same
      omega

/-- The cases that the loop goes through from a state. -/
structure CasesPass (mode : JudgeMode) (cases : List Case) (scan : CaseScan) : Prop where
  ids : ∀ testCase ∈ cases, matchesCaseID testCase.id = true
  weights : ∀ testCase ∈ cases, WeightPasses mode testCase
  paths : ∀ path ∈ casePaths cases, validateArtifactPath path = true ∧ path ≠ manifestFile
  fits : ScanFits (cases.foldl visitCase scan)

private theorem visit_sum (cases : List Case) (scan : CaseScan) :
    (cases.foldl visitCase scan).weightSum = scan.weightSum + weightSum cases := by
  induction cases generalizing scan with
  | nil => simp [weightSum]
  | cons testCase rest ih =>
    rw [List.foldl_cons, ih]
    simp only [visitCase, weightSum, List.map_cons, List.sum_cons]
    omega

private theorem visit_ids (cases : List Case) (scan : CaseScan) :
    (cases.foldl visitCase scan).ids = (cases.map Case.id).reverse ++ scan.ids := by
  induction cases generalizing scan with
  | nil => rfl
  | cons testCase rest ih => simp [ih, visitCase]

private theorem visit_paths (cases : List Case) (scan : CaseScan) :
    (cases.foldl visitCase scan).paths = (casePaths cases).reverse ++ scan.paths := by
  induction cases generalizing scan with
  | nil => rfl
  | cons testCase rest ih => simp [ih, visitCase, casePaths]

private theorem weightSum_nonneg (positive : ∀ testCase ∈ cases, 0 < testCase.weight) : 0 ≤ weightSum cases := by
  apply List.sum_nonneg
  intro weight member
  obtain ⟨testCase, inside, rfl⟩ := List.mem_map.mp member
  exact (positive testCase inside).le

theorem WeightPasses.positive (passes : WeightPasses mode testCase) (known : mode = .acm ∨ mode = .oi) : 0 < testCase.weight := by
  rcases known with acm | oi
  · rw [passes.1 acm]
    exact Int.one_pos
  · exact (passes.2 oi).1

/-- Where the loop ends within its bounds, it was within them after every case. -/
theorem ScanFits.before (known : mode = .acm ∨ mode = .oi) (weights : ∀ testCase ∈ cases, WeightPasses mode testCase)
    (fits : ScanFits (cases.foldl visitCase scan)) : ScanFits scan := by
  obtain ⟨ids, paths, sum⟩ := fits
  rw [visit_ids] at ids
  rw [visit_paths] at paths
  rw [visit_sum] at sum
  have positive := weightSum_nonneg fun testCase member => (weights testCase member).positive known
  exact ⟨(List.nodup_append.mp ids).2.1, (List.nodup_append.mp paths).2.1, by omega⟩

private theorem scanCases_iff (known : mode = .acm ∨ mode = .oi) (fits : ScanFits scan) :
    scanCases mode index cases scan = .ok next ↔ CasesPass mode cases scan ∧ next = cases.foldl visitCase scan := by
  induction cases generalizing index scan with
  | nil =>
    have nothing : CasesPass mode [] scan := ⟨by simp, by simp, by simp [casePaths], fits⟩
    exact ⟨fun same => ⟨nothing, (Except.ok.inj same).symm⟩, fun holds => congrArg Except.ok holds.2.symm⟩
  | cons testCase rest ih =>
    rw [scanCases, checked_iff]
    constructor
    · rintro ⟨visited, here, later⟩
      obtain ⟨named, weight, accepted, fits, rfl⟩ := (scanCase_iff fits).mp here
      obtain ⟨pass, rfl⟩ := (ih fits).mp later
      refine ⟨⟨?_, ?_, ?_, pass.fits⟩, rfl⟩
      · exact List.forall_mem_cons.mpr ⟨named, pass.ids⟩
      · exact List.forall_mem_cons.mpr ⟨weight, pass.weights⟩
      · intro path member
        rcases List.mem_append.mp member with own | other
        · exact accepted path own
        · exact pass.paths path other
    · rintro ⟨⟨ids, weights, paths, last⟩, rfl⟩
      have weight := weights testCase List.mem_cons_self
      have others : ∀ other ∈ rest, WeightPasses mode other := fun other member => weights other (List.mem_cons_of_mem _ member)
      have visited : ScanFits (visitCase scan testCase) := .before known others last
      refine ⟨visitCase scan testCase, (scanCase_iff fits).mpr ⟨ids testCase List.mem_cons_self, weight, ?_, visited, rfl⟩, ?_⟩
      · exact fun name member => paths name (List.mem_append_left _ member)
      · refine (ih visited).mpr ⟨⟨fun other member => ids other (List.mem_cons_of_mem _ member), others, ?_, last⟩, rfl⟩
        exact fun path member => paths path (List.mem_append_right _ member)

end Loop

/-! ### The checks around the loop -/

section Checks

private theorem limitsWithinBounds_iff :
    limitsWithinBounds timeLimitMillis memoryLimitMiB = true ↔ LimitsInRange timeLimitMillis memoryLimitMiB := by
  constructor
  · intro within
    simp only [limitsWithinBounds, Bool.not_eq_true', Bool.or_eq_false_iff, decide_eq_false_iff_not, Int.not_le, Int.not_lt] at within
    exact ⟨⟨within.1.1.1, within.1.1.2⟩, within.1.2, within.2⟩
  · rintro ⟨time, memory⟩
    simp only [limitsWithinBounds, Bool.not_eq_true', Bool.or_eq_false_iff, decide_eq_false_iff_not, Int.not_le, Int.not_lt]
    exact ⟨⟨time, memory.1⟩, memory.2⟩

private theorem isCanonicalChecker_iff :
    isCanonicalChecker checker = true ↔ checker = .exact ∨ checker = .token ∨ checker = .special := by
  cases checker <;> simp [isCanonicalChecker]

/-- The registry of checkers holds the special one, so the check of version 1 lets it through. -/
theorem validateVersion_iff : validateVersion manifest = .ok () ↔
    (manifest.schemaVersion = 1 → manifest.judgeMode = .acm ∧ isCanonicalChecker manifest.checker = true ∧
      manifest.totalScore = none ∧ manifest.specialJudge = none) ∧
    (manifest.schemaVersion ≠ 1 → (manifest.judgeMode = .acm ∨ manifest.judgeMode = .oi) ∧
      isCanonicalChecker manifest.checker = true) := by
  unfold validateVersion
  split_ifs with first
  · rw [rejectIf_iff]
    simp [first, not_or]
  · simp only [checked_iff, rejectIf_iff]
    constructor
    · rintro ⟨-, mode, checker⟩
      refine ⟨fun same => absurd same first, fun _ => ⟨?_, ?_⟩⟩
      · by_contra neither
        exact mode (not_or.mp neither)
      · by_contra unknown
        refine checker ⟨by simpa using unknown, fun special => unknown ?_⟩
        rw [special]
        rfl
    · rintro ⟨-, second⟩
      obtain ⟨mode, checker⟩ := second first
      exact ⟨(), fun neither => mode.elim neither.1 neither.2, by simp [checker]⟩

private theorem validateSpecialJudge_iff : validateSpecialJudge manifest = .ok () ↔
    (manifest.specialJudge.isSome = true ↔ manifest.checker = .special) ∧
      ∀ judge, manifest.specialJudge = some judge → ValidSpecialJudge judge ∧ judge.source ≠ manifestFile := by
  unfold validateSpecialJudge
  by_cases special : manifest.checker = .special
  · rw [if_pos special]
    cases present : manifest.specialJudge with
    | none => simp [special]
    | some judge =>
      simp only [checked_iff, rejectIf_iff, Option.isSome_some, special, true_and, Option.some.injEq, forall_eq']
      constructor
      · rintro ⟨-, language, -, source, -, digest, limits⟩
        rw [not_or] at source
        refine ⟨⟨by simpa using language, by simpa using source.1, by simpa using digest, ?_⟩, source.2⟩
        exact limitsWithinBounds_iff.mp (by simpa using limits)
      · rintro ⟨judge, unreserved⟩
        refine ⟨(), by simp [judge.language], (), by simp [judge.source, unreserved], (), by simp [judge.digest], ?_⟩
        simp [limitsWithinBounds_iff.mpr judge.limits]
  · rw [if_neg special]
    cases present : manifest.specialJudge <;> simp [special]

private theorem validateTotalScore_iff : validateTotalScore manifest sum = .ok () ↔
    (manifest.judgeMode = .oi → ∃ total, manifest.totalScore = some total ∧ 1 ≤ total ∧ total ≤ maxTotalScore ∧ total = sum) ∧
      (manifest.judgeMode ≠ .oi → manifest.totalScore = none) := by
  unfold validateTotalScore
  by_cases mode : manifest.judgeMode = .oi
  · rw [if_pos mode]
    cases score : manifest.totalScore with
    | none => simp [mode]
    | some total =>
      simp only [mode, ne_eq, not_true_eq_false, false_implies, and_true, true_implies, Option.some.injEq, exists_eq_left']
      split_ifs with refused
      · simp only [false_iff]
        omega
      · simp only [true_iff]
        omega
  · rw [if_neg mode]
    cases score : manifest.totalScore <;> simp [mode]

end Checks

/-! ### Acceptance -/

/-- The state in which the loop starts. -/
def startScan (manifest : Manifest) : CaseScan := ⟨[], (manifest.specialJudge.map SpecialJudge.source).toList, 0⟩

private theorem startScan_fits (manifest : Manifest) : ScanFits (startScan manifest) := by
  have zero : (0 : Int) ≤ maxTotalScore := by decide
  refine ⟨List.nodup_nil, ?_, zero⟩
  unfold startScan
  cases manifest.specialJudge <;> simp

private theorem visited_paths (manifest : Manifest) :
    (manifest.cases.foldl visitCase (startScan manifest)).paths.Perm (manifestPaths manifest) := by
  rw [visit_paths]
  exact (List.Perm.append_right _ (List.reverse_perm _)).trans List.perm_append_comm

private theorem validate_checks : manifest.validate = .ok () ↔
    (manifest.schemaVersion = 1 ∨ manifest.schemaVersion = 2) ∧
    LimitsInRange manifest.limits.timeLimitMillis manifest.limits.memoryLimitMiB ∧
    validateVersion manifest = .ok () ∧ validateSpecialJudge manifest = .ok () ∧
    (1 ≤ manifest.cases.length ∧ manifest.cases.length ≤ maxCases) ∧
    ∃ scan, scanCases manifest.judgeMode 0 manifest.cases (startScan manifest) = .ok scan ∧
      validateTotalScore manifest scan.weightSum = .ok () := by
  unfold Manifest.validate
  simp only [checked_iff, rejectIf_iff]
  constructor
  · rintro ⟨-, version, -, limits, ⟨⟩, versioned, ⟨⟩, judged, -, count, scan, scanned, total⟩
    refine ⟨?_, limitsWithinBounds_iff.mp (by simpa using limits), versioned, judged, by omega, scan, ?_, total⟩
    · by_contra neither
      exact version (not_or.mp neither)
    · revert scanned
      unfold startScan
      cases manifest.specialJudge <;> exact id
  · rintro ⟨version, limits, versioned, judged, count, scan, scanned, total⟩
    refine ⟨(), fun neither => version.elim neither.1 neither.2, (), ?_, (), versioned, (), judged, (), by omega, scan, ?_, total⟩
    · simp [limitsWithinBounds_iff.mpr limits]
    · revert scanned
      unfold startScan
      cases manifest.specialJudge <;> exact id

private theorem validateVersion_mode (versioned : validateVersion manifest = .ok ()) :
    manifest.judgeMode = .acm ∨ manifest.judgeMode = .oi := by
  obtain ⟨first, second⟩ := validateVersion_iff.mp versioned
  by_cases version : manifest.schemaVersion = 1
  · exact .inl (first version).1
  · exact (second version).1

theorem ValidManifest.of_validate (accepted : manifest.validate = .ok ()) : ValidManifest manifest := by
  obtain ⟨version, limits, versioned, judged, count, scan, scanned, total⟩ := validate_checks.mp accepted
  have known := validateVersion_mode versioned
  obtain ⟨first, second⟩ := validateVersion_iff.mp versioned
  obtain ⟨special, judge⟩ := validateSpecialJudge_iff.mp judged
  obtain ⟨pass, rfl⟩ := (scanCases_iff known (startScan_fits manifest)).mp scanned
  obtain ⟨oi, others⟩ := validateTotalScore_iff.mp total
  rw [visit_sum, show (startScan manifest).weightSum = 0 from rfl, Int.zero_add] at oi
  have ids := pass.fits.ids
  rw [visit_ids, show (startScan manifest).ids = [] from rfl, List.append_nil, List.nodup_reverse] at ids
  refine ⟨version, limits, fun one => ?_, fun two => ?_, special, fun other present => (judge other present).1, count, pass.ids, ids,
    fun path member => ?_, ?_, fun acm => ⟨fun testCase member => (pass.weights testCase member).1 acm, others ?_⟩,
    fun mode => ⟨fun testCase member => ((pass.weights testCase member).2 mode).1, oi mode⟩⟩
  · obtain ⟨mode, checker, score, none⟩ := first one
    refine ⟨mode, ?_, score, none⟩
    rcases isCanonicalChecker_iff.mp checker with exact | token | own
    · exact .inl exact
    · exact .inr token
    · have some := special.mpr own
      rw [none] at some
      cases some
  · obtain ⟨mode, checker⟩ := second (by omega)
    exact ⟨mode, isCanonicalChecker_iff.mp checker⟩
  · rcases List.mem_append.mp member with source | tested
    · obtain ⟨other, present, rfl⟩ := Option.map_eq_some_iff.mp (Option.mem_toList.mp source)
      obtain ⟨valid, unreserved⟩ := judge other present
      exact ⟨valid.source, unreserved⟩
    · exact pass.paths path tested
  · exact (visited_paths manifest).nodup_iff.mp pass.fits.paths
  · rw [acm]
    decide

theorem ValidManifest.weights (valid : ValidManifest manifest) (known : manifest.judgeMode = .acm ∨ manifest.judgeMode = .oi) :
    (∀ testCase ∈ manifest.cases, WeightPasses manifest.judgeMode testCase) ∧ weightSum manifest.cases ≤ maxTotalScore := by
  rcases known with acm | oi
  · obtain ⟨ones, -⟩ := valid.acm acm
    have sum : weightSum manifest.cases = manifest.cases.length := by
      have same : manifest.cases.map Case.weight = List.replicate manifest.cases.length 1 := by
        rw [List.eq_replicate_iff, List.length_map]
        refine ⟨rfl, fun weight member => ?_⟩
        obtain ⟨testCase, inside, rfl⟩ := List.mem_map.mp member
        exact ones testCase inside
      rw [weightSum, same, List.sum_replicate]
      simp
    have count := valid.count
    refine ⟨fun testCase member => ⟨fun _ => ones testCase member, fun oi => ?_⟩, ?_⟩
    · rw [acm] at oi
      cases oi
    · rw [sum, maxTotalScore]
      omega
  · obtain ⟨positive, total, -, -, bound, same⟩ := valid.oi oi
    have within : weightSum manifest.cases ≤ maxTotalScore := same ▸ bound
    refine ⟨fun testCase member => ⟨fun acm => ?_, fun _ => ⟨positive testCase member, ?_⟩⟩, within⟩
    · rw [oi] at acm
      cases acm
    · have single : testCase.weight ≤ weightSum manifest.cases := by
        apply List.single_le_sum
        · intro weight inside
          obtain ⟨other, present, rfl⟩ := List.mem_map.mp inside
          exact (positive other present).le
        · exact List.mem_map.mpr ⟨testCase, member, rfl⟩
      omega

theorem ValidManifest.validate (valid : ValidManifest manifest) : manifest.validate = .ok () := by
  have versioned : validateVersion manifest = .ok () := by
    refine validateVersion_iff.mpr ⟨fun one => ?_, fun other => ?_⟩
    · obtain ⟨mode, checker, score, none⟩ := valid.first one
      exact ⟨mode, isCanonicalChecker_iff.mpr (checker.imp id .inl), score, none⟩
    · obtain ⟨mode, checker⟩ := valid.second (valid.version.resolve_left other)
      exact ⟨mode, isCanonicalChecker_iff.mpr checker⟩
  have judged : validateSpecialJudge manifest = .ok () := by
    refine validateSpecialJudge_iff.mpr ⟨valid.special, fun judge present => ⟨valid.judge judge present, ?_⟩⟩
    refine (valid.paths judge.source (List.mem_append_left _ ?_)).2
    simp [present]
  have known := validateVersion_mode versioned
  obtain ⟨weights, within⟩ := valid.weights known
  have pass : CasesPass manifest.judgeMode manifest.cases (startScan manifest) := by
    refine ⟨valid.ids, weights, fun path member => valid.paths path (List.mem_append_right _ member), ?_, ?_, ?_⟩
    · rw [visit_ids]
      simpa [startScan] using valid.distinctIDs
    · exact (visited_paths manifest).nodup_iff.mpr valid.distinctPaths
    · rw [visit_sum]
      simpa [startScan] using within
  have total : validateTotalScore manifest (manifest.cases.foldl visitCase (startScan manifest)).weightSum = .ok () := by
    rw [visit_sum, show (startScan manifest).weightSum = 0 from rfl, Int.zero_add]
    refine validateTotalScore_iff.mpr ⟨fun oi => (valid.oi oi).2, fun other => (valid.acm (known.resolve_right other)).2⟩
  exact validate_checks.mpr ⟨valid.version, valid.limits, versioned, judged, valid.count, _,
    (scanCases_iff known (startScan_fits manifest)).mpr ⟨pass, rfl⟩, total⟩

/-- A manifest is accepted exactly where the contract describes it, and where the loop adds a
weight the sum is an `int64`. -/
theorem manifest_validation_exact (manifest : Manifest) :
    (manifest.validate = .ok () ↔ ValidManifest manifest) ∧
    ∀ seen testCase rest scan, manifest.cases = seen ++ testCase :: rest → validateVersion manifest = .ok () →
      scanCases manifest.judgeMode 0 seen (startScan manifest) = .ok scan → WeightPasses manifest.judgeMode testCase →
      Json.inInt64 (scan.weightSum + testCase.weight) = true := by
  refine ⟨⟨.of_validate, ValidManifest.validate⟩, fun seen testCase rest scan _ versioned scanned passes => ?_⟩
  have known := validateVersion_mode versioned
  obtain ⟨pass, rfl⟩ := (scanCases_iff known (startScan_fits manifest)).mp scanned
  have upper := pass.fits.sum
  have lower : 0 ≤ weightSum seen := weightSum_nonneg fun other member => (pass.weights other member).positive known
  have weight : 0 < testCase.weight ∧ testCase.weight ≤ maxTotalScore := by
    rcases known with acm | oi
    · rw [passes.1 acm]
      decide
    · exact passes.2 oi
  rw [visit_sum, show (startScan manifest).weightSum = 0 from rfl, maxTotalScore] at *
  simp only [Json.inInt64, Bool.and_eq_true, decide_eq_true_eq]
  omega

end JudgingServer.Proofs
