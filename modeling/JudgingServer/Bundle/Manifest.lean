import JudgingServer.Go.Json
import JudgingServer.Library.Checks

/-! The test bundle manifest: its data, its strict decoding and its validation. -/

namespace JudgingServer.Bundle
open Go Library

def canonicalLanguages : List GoString := [lit "go", lit "cpp", lit "python", lit "java", lit "javascript"]

def resolveLanguage (publicID : GoString) : Bool := canonicalLanguages.contains publicID

inductive JudgeMode where
  | acm
  | oi
  | other (text : GoString)
deriving DecidableEq, Repr

def JudgeMode.ofText (text : GoString) : JudgeMode :=
  if text = lit "ACM" then .acm else if text = lit "OI" then .oi else .other text

inductive Checker where
  | exact
  | token
  | special
  | other (text : GoString)
deriving DecidableEq, Repr

def Checker.ofText (text : GoString) : Checker :=
  if text = lit "exact" then .exact
  else if text = lit "token" then .token
  else if text = lit "special" then .special
  else .other text

/-- The registry of canonical checkers holds the special checker too. -/
def isCanonicalChecker (checker : Checker) : Bool :=
  match checker with
  | .exact | .token | .special => true
  | .other _ => false

structure Limits where
  timeLimitMillis : Int
  memoryLimitMiB : Int
deriving DecidableEq, Repr

structure SpecialJudge where
  language : GoString
  source : GoString
  sourceSHA256 : GoString
  timeLimitMillis : Int
  memoryLimitMiB : Int
deriving DecidableEq, Repr

structure Case where
  id : GoString
  input : GoString
  output : GoString
  weight : Int
deriving DecidableEq, Repr

structure Manifest where
  schemaVersion : Int
  judgeMode : JudgeMode
  checker : Checker
  limits : Limits
  totalScore : Option Int
  specialJudge : Option SpecialJudge
  cases : List Case
deriving DecidableEq, Repr

def maxCases : Nat := 10000

def maxTotalScore : Int := 1000000000

def maxExecutionMillis : Int := 86400000

def maxMemoryMiB : Int := 2147483647

inductive ManifestError where
  | unsupportedSchemaVersion (version : Int)
  | executionLimitsOutsideBounds
  | versionOneSupportsExactTokenOnly
  | unsupportedJudgeMode (mode : JudgeMode)
  | unsupportedChecker (checker : Checker)
  | specialCheckerRequiresSpecialJudge
  | specialJudgeLanguageUnsupported
  | specialJudgeSourceInvalid
  | specialJudgeDigestInvalid
  | specialJudgeLimitsOutsideBounds
  | specialJudgeOnlyForSpecialChecker
  | caseCountOutsideBounds
  | invalidCaseID (index : Nat)
  | duplicateCaseID (id : GoString)
  | acmWeightMustEqualOne (id : GoString)
  | oiWeightOutsideBounds (id : GoString)
  | weightsExceedTotal
  | invalidPath (id : GoString)
  | reservedPath (id : GoString)
  | duplicatePath (name : GoString)
  | totalScoreMismatch
  | totalScoreOnlyForOI
deriving DecidableEq, Repr

/-- `^[A-Za-z0-9][A-Za-z0-9._-]{0,63}$` -/
def matchesCaseID (id : GoString) : Bool :=
  match id with
  | [] => false
  | first :: rest =>
    (isUpper first || isLower first || isDigit first) && decide (rest.length ≤ 63) &&
      rest.all fun byte => isUpper byte || isLower byte || isDigit byte || byte == 46 || byte == 95 || byte == 45

/-- `^[0-9a-f]{64}$` -/
def matchesLowerSHA256 (digest : GoString) : Bool :=
  digest.length == 64 && digest.all fun byte => isDigit byte || between 97 102 byte

/-- The elements `path.Clean` keeps: no empty or dot elements, and a parent
element only where nothing is left to remove. -/
def cleanElements (rooted : Bool) : List GoString → List GoString → List GoString
  | [], kept => kept.reverse
  | element :: rest, kept =>
    if element = [] || element = lit "." then cleanElements rooted rest kept
    else if element = lit ".." then
      match kept with
      | top :: below =>
        if top = lit ".." then cleanElements rooted rest (element :: kept) else cleanElements rooted rest below
      | [] => if rooted then cleanElements rooted rest [] else cleanElements rooted rest [element]
    else cleanElements rooted rest (element :: kept)

variable (name : GoString)

/-- `path.Clean`. -/
def cleanPath : GoString :=
  let rooted := name.headD 0 == 47
  let elements := cleanElements rooted (split 47 name) []
  if rooted then 47 :: join [47] elements
  else if elements.isEmpty then lit "."
  else join [47] elements

def validateArtifactPath : Bool :=
  if name.isEmpty || decide (512 < name.length) || !validString name || name.contains 0 || name.contains 92 ||
      name.headD 0 == 47 then false
  else
    let cleaned := cleanPath name
    !(cleaned == lit "." || cleaned != name || (lit "../").isPrefixOf cleaned)

def manifestFile : GoString := lit "manifest.json"

structure CaseScan where
  ids : List GoString
  paths : List GoString
  weightSum : Int
deriving DecidableEq, Repr

def scanPaths (id : GoString) : List GoString → List GoString → Except ManifestError (List GoString)
  | [], paths => .ok paths
  | name :: rest, paths =>
    if !validateArtifactPath name then .error (.invalidPath id)
    else if name = manifestFile then .error (.reservedPath id)
    else if paths.contains name then .error (.duplicatePath name)
    else scanPaths id rest (name :: paths)

def scanCase (mode : JudgeMode) (index : Nat) (scan : CaseScan) (testCase : Case) : Except ManifestError CaseScan := do
  rejectIf (!matchesCaseID testCase.id) (.invalidCaseID index)
  rejectIf (scan.ids.contains testCase.id) (.duplicateCaseID testCase.id)
  rejectIf (mode = .acm ∧ testCase.weight ≠ 1) (.acmWeightMustEqualOne testCase.id)
  rejectIf (mode = .oi ∧ (testCase.weight ≤ 0 ∨ maxTotalScore < testCase.weight)) (.oiWeightOutsideBounds testCase.id)
  rejectIf (maxTotalScore < scan.weightSum + testCase.weight) .weightsExceedTotal
  let paths ← scanPaths testCase.id [testCase.input, testCase.output] scan.paths
  return ⟨testCase.id :: scan.ids, paths, scan.weightSum + testCase.weight⟩

def scanCases (mode : JudgeMode) : Nat → List Case → CaseScan → Except ManifestError CaseScan
  | _, [], scan => .ok scan
  | index, testCase :: rest, scan => do
    let scan ← scanCase mode index scan testCase
    scanCases mode (index + 1) rest scan

def limitsWithinBounds (timeLimitMillis memoryLimitMiB : Int) : Bool :=
  !(decide (timeLimitMillis ≤ 0) || decide (maxExecutionMillis < timeLimitMillis) ||
    decide (memoryLimitMiB ≤ 0) || decide (maxMemoryMiB < memoryLimitMiB))

section

variable (manifest : Manifest)

def validateVersion : Except ManifestError Unit := do
  if manifest.schemaVersion = 1 then
    rejectIf (manifest.judgeMode ≠ .acm ∨ !isCanonicalChecker manifest.checker ∨ manifest.totalScore ≠ none ∨
        manifest.specialJudge ≠ none)
      .versionOneSupportsExactTokenOnly
  else
    rejectIf (manifest.judgeMode ≠ .acm ∧ manifest.judgeMode ≠ .oi) (.unsupportedJudgeMode manifest.judgeMode)
    rejectIf (!isCanonicalChecker manifest.checker ∧ manifest.checker ≠ .special)
      (.unsupportedChecker manifest.checker)

def validateSpecialJudge : Except ManifestError Unit :=
  if manifest.checker = .special then
    match manifest.specialJudge with
    | none => .error .specialCheckerRequiresSpecialJudge
    | some judge => do
      rejectIf (!resolveLanguage judge.language) .specialJudgeLanguageUnsupported
      rejectIf (!validateArtifactPath judge.source ∨ judge.source = manifestFile) .specialJudgeSourceInvalid
      rejectIf (!matchesLowerSHA256 judge.sourceSHA256) .specialJudgeDigestInvalid
      rejectIf (!limitsWithinBounds judge.timeLimitMillis judge.memoryLimitMiB) .specialJudgeLimitsOutsideBounds
  else if manifest.specialJudge ≠ none then .error .specialJudgeOnlyForSpecialChecker
  else .ok ()

def validateTotalScore (weightSum : Int) : Except ManifestError Unit :=
  if manifest.judgeMode = .oi then
    match manifest.totalScore with
    | none => .error .totalScoreMismatch
    | some total =>
      if total ≤ 0 ∨ maxTotalScore < total ∨ total ≠ weightSum then .error .totalScoreMismatch else .ok ()
  else if manifest.totalScore ≠ none then .error .totalScoreOnlyForOI
  else .ok ()

def Manifest.validate : Except ManifestError Unit := do
  rejectIf (manifest.schemaVersion ≠ 1 ∧ manifest.schemaVersion ≠ 2) (.unsupportedSchemaVersion manifest.schemaVersion)
  rejectIf (!limitsWithinBounds manifest.limits.timeLimitMillis manifest.limits.memoryLimitMiB)
    .executionLimitsOutsideBounds
  validateVersion manifest
  validateSpecialJudge manifest
  rejectIf (manifest.cases.length = 0 ∨ maxCases < manifest.cases.length) .caseCountOutsideBounds
  let paths := match manifest.specialJudge with
    | some judge => [judge.source]
    | none => []
  let scan ← scanCases manifest.judgeMode 0 manifest.cases ⟨[], paths, 0⟩
  validateTotalScore manifest scan.weightSum

end

def emptyManifest : Manifest := ⟨0, .other [], .other [], ⟨0, 0⟩, none, none, []⟩

def limitsFields : List (Json.Field Limits) :=
  [⟨lit "timeLimitMillis", fun value limits => do return { limits with timeLimitMillis := ← Json.decodeInt value limits.timeLimitMillis }⟩,
   ⟨lit "memoryLimitMiB", fun value limits => do return { limits with memoryLimitMiB := ← Json.decodeInt value limits.memoryLimitMiB }⟩]

def specialJudgeFields : List (Json.Field SpecialJudge) :=
  [⟨lit "language", fun value judge => do return { judge with language := ← Json.decodeString value judge.language }⟩,
   ⟨lit "source", fun value judge => do return { judge with source := ← Json.decodeString value judge.source }⟩,
   ⟨lit "sourceSha256", fun value judge => do return { judge with sourceSHA256 := ← Json.decodeString value judge.sourceSHA256 }⟩,
   ⟨lit "timeLimitMillis", fun value judge => do return { judge with timeLimitMillis := ← Json.decodeInt value judge.timeLimitMillis }⟩,
   ⟨lit "memoryLimitMiB", fun value judge => do return { judge with memoryLimitMiB := ← Json.decodeInt value judge.memoryLimitMiB }⟩]

def caseFields : List (Json.Field Case) :=
  [⟨lit "id", fun value item => do return { item with id := ← Json.decodeString value item.id }⟩,
   ⟨lit "input", fun value item => do return { item with input := ← Json.decodeString value item.input }⟩,
   ⟨lit "output", fun value item => do return { item with output := ← Json.decodeString value item.output }⟩,
   ⟨lit "weight", fun value item => do return { item with weight := ← Json.decodeInt value item.weight }⟩]

variable (value : Json)

def decodeSpecialJudge (current : Option SpecialJudge) : Option (Option SpecialJudge) :=
  match value with
  | .null => some none
  | value => do return some (← Json.decodeStruct specialJudgeFields value (current.getD ⟨[], [], [], 0, 0⟩))

/-- The manifest while it is decoded, with the elements that an earlier array of cases has left
behind the length of the slice. -/
structure Decoding where
  manifest : Manifest
  spare : List Case

/-- An array is decoded into the elements that the slice has, one after the other. -/
def decodeElements : List Json → List Case → Option (List Case × List Case)
  | [], present => some ([], present)
  | item :: rest, present => do
    let element ← Json.decodeStruct caseFields item (present.headD ⟨[], [], [], 0⟩)
    let (elements, left) ← decodeElements rest present.tail
    return (element :: elements, left)

/-- `null` and an empty array give up the slice; any other array reuses it. -/
def decodeCases (decoding : Decoding) : Option Decoding :=
  match value with
  | .null | .array [] => some ⟨{ decoding.manifest with cases := [] }, []⟩
  | .array items => do
    let (cases, spare) ← decodeElements items (decoding.manifest.cases ++ decoding.spare)
    return ⟨{ decoding.manifest with cases }, spare⟩
  | _ => none

def decodeJudgeMode (current : JudgeMode) : Option JudgeMode :=
  match value with
  | .null => some current
  | .string text => some (.ofText text)
  | _ => none

def decodeChecker (current : Checker) : Option Checker :=
  match value with
  | .null => some current
  | .string text => some (.ofText text)
  | _ => none

def manifestField (decode : Json → Manifest → Option Manifest) : Json.Field Decoding :=
  ⟨name, fun value decoding => do return { decoding with manifest := ← decode value decoding.manifest }⟩

def manifestFields : List (Json.Field Decoding) :=
  [manifestField (lit "schemaVersion") fun value manifest => do
     return { manifest with schemaVersion := ← Json.decodeInt value manifest.schemaVersion },
   manifestField (lit "judgeMode") fun value manifest => do
     return { manifest with judgeMode := ← decodeJudgeMode value manifest.judgeMode },
   manifestField (lit "checker") fun value manifest => do
     return { manifest with checker := ← decodeChecker value manifest.checker },
   manifestField (lit "limits") fun value manifest => do
     return { manifest with limits := ← Json.decodeStruct limitsFields value manifest.limits },
   manifestField (lit "totalScore") fun value manifest => do
     return { manifest with totalScore := ← Json.decodeIntPointer value },
   manifestField (lit "specialJudge") fun value manifest => do
     return { manifest with specialJudge := ← decodeSpecialJudge value manifest.specialJudge },
   ⟨lit "cases", decodeCases⟩]

def decodeManifest (document : Json) : Option Manifest :=
  (Json.decodeStruct manifestFields document ⟨emptyManifest, []⟩).map Decoding.manifest

/-- `ParseManifest` on the document a JSON column holds. -/
def parseManifest (document : Json) : Option Manifest := do
  let manifest ← decodeManifest document
  match manifest.validate with
  | .ok _ => some manifest
  | .error _ => none

inductive ManifestTextError where
  | invalidUTF8
  | undecodable
  | severalDocuments
  | invalid (error : ManifestError)
deriving DecidableEq, Repr

/-- `ParseManifest` on the text of a manifest. -/
def parseManifestText (text : Bytes) : Except ManifestTextError Manifest := do
  rejectIf (!validString text) .invalidUTF8
  match Json.parseValue (2 * text.length + 2) 0 text with
  | none => .error .undecodable
  | some (document, after) =>
    match decodeManifest document with
    | none => .error .undecodable
    | some manifest =>
      rejectIf (!(Json.skipBlank after).isEmpty) .severalDocuments
      manifest.validate.mapError .invalid
      return manifest

end JudgingServer.Bundle
