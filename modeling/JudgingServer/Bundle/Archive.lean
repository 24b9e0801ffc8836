import JudgingServer.External.JobWorker

/-! Bundle archives: what the ZIP reader sees of a file, the hardened way in which an archive
is opened, and the two ways in which its entries are read. -/

namespace JudgingServer.Bundle.Archive
open Go Library External

inductive ZipMethod where
  | store
  | deflate
  | other (id : Nat)
deriving DecidableEq, Repr

/-- What reading an entry delivers: some bytes, and then the end or an error. -/
structure Stream where
  bytes : Bytes
  fails : Bool
deriving DecidableEq, Repr

/-- An entry of the central directory, with what its reader delivers where it can be opened. -/
structure ZipFile where
  name : GoString
  regular : Bool
  encrypted : Bool
  method : ZipMethod
  uncompressedSize64 : Nat
  compressedSize64 : Nat
  stream : Option Stream
deriving DecidableEq, Repr

/-- A file as `zip.OpenReader` reads it, or none where it is no ZIP. -/
abbrev ZipReader := Option (List ZipFile)

structure ArchiveLimits where
  maxFiles : Int
  maxManifestBytes : Int
  maxCaseBytes : Int
  maxTotalBytes : Int
  maxCompressionRatio : Nat
deriving DecidableEq, Repr

def maxSpecialJudgeSourceBytes : Int := 4 * 2 ^ 20

def defaultArchiveLimits : ArchiveLimits := ⟨20002, 2 ^ 20, 64 * 2 ^ 20, 512 * 2 ^ 20, 200⟩

inductive ArchiveError where
  | limitsNotPositive
  | databaseManifestTooLarge
  | databaseManifest (error : ManifestTextError)
  | notZip
  | fileCount
  | unsafeEntry
  | duplicateEntry (name : GoString)
  | irregularEntry (name : GoString)
  | entryTooLarge (name : GoString)
  | manifestTooLarge
  | compressionRatio (name : GoString)
  | totalTooLarge
  | missingEntry (name : GoString)
  | unopenedEntry
  | unreadEntry
  | entrySize
  | entryNotUTF8
  | artifactManifest (error : ManifestTextError)
  | manifestDisagrees
  | unreferencedFiles
  | missingFile (name : GoString)
  | noSpecialJudge
  | specialJudgeDigest
deriving DecidableEq, Repr

structure Artifact where
  manifest : Manifest
  manifestJSON : Bytes
  files : List ZipFile
  limits : ArchiveLimits
deriving DecidableEq, Repr

def validateArchiveLimits (limits : ArchiveLimits) : Except ArchiveError Unit :=
  rejectIf (limits.maxFiles ≤ 0 ∨ limits.maxManifestBytes ≤ 0 ∨ limits.maxCaseBytes ≤ 0 ∨ limits.maxTotalBytes ≤ 0 ∨
    limits.maxCompressionRatio = 0) .limitsNotPositive

def exceedsCompressionRatio (uncompressed compressed maximum : Nat) : Bool :=
  if uncompressed = 0 then false
  else if compressed = 0 then true
  else
    let quotient := uncompressed / compressed
    let remainder := uncompressed % compressed
    decide (maximum < quotient ∨ quotient = maximum ∧ 0 < remainder)

/-! ### Reading entries -/

/-- What `io.LimitReader` lets through of a stream, up to one byte more than the limit. A stream
that it cuts off fails no more. -/
def limited (stream : Stream) (limit : Int) : Stream :=
  let allowed := (wrapInt64 (limit + 1)).toNat
  ⟨stream.bytes.take allowed, stream.fails && decide (stream.bytes.length < allowed)⟩

def openEntry (files : List ZipFile) (name : GoString) : Except ArchiveError (ZipFile × Stream) :=
  match files.find? fun file => file.name == name with
  | none => .error (.missingEntry name)
  | some file =>
    match file.stream with
    | none => .error .unopenedEntry
    | some stream => .ok (file, stream)

def readBytes (files : List ZipFile) (name : GoString) (limit : Int) : Except ArchiveError Bytes := do
  let (file, stream) ← openEntry files name
  let read := limited stream limit
  rejectIf read.fails .unreadEntry
  rejectIf (limit < read.bytes.length ∨ read.bytes.length ≠ file.uncompressedSize64) .entrySize
  return read.bytes

def readText (files : List ZipFile) (name : GoString) (limit : Int) : Except ArchiveError GoString := do
  let data ← readBytes files name limit
  rejectIf (!validString data) .entryNotUTF8
  return data

/-- The loop over `ReadRune`, with the size so far. -/
def scanRunes (limit : Int) : List Segment → Nat → Except ArchiveError Nat
  | [], size => .ok size
  | segment :: rest, size => do
    rejectIf (segment.rune = runeError ∧ segment.bytes.length = 1) .entryNotUTF8
    rejectIf (limit < (size + segment.bytes.length : Nat)) .entrySize
    scanRunes limit rest (size + segment.bytes.length)

def validateTextEntry (files : List ZipFile) (name : GoString) (limit : Int) : Except ArchiveError Unit := do
  let (file, stream) ← openEntry files name
  let read := limited stream limit
  let size ← scanRunes limit (segments read.bytes) 0
  rejectIf read.fails .unreadEntry
  rejectIf (size ≠ file.uncompressedSize64) .entrySize

variable (digests : Digests)

namespace Artifact

def readCase (artifact : Artifact) (testCase : Case) : Except ArchiveError (GoString × GoString) := do
  let input ← readText artifact.files testCase.input artifact.limits.maxCaseBytes
  let output ← readText artifact.files testCase.output artifact.limits.maxCaseBytes
  return (input, output)

def readSpecialJudge (artifact : Artifact) : Except ArchiveError GoString :=
  match artifact.manifest.specialJudge with
  | none => .error .noSpecialJudge
  | some judge => do
    let source ← readText artifact.files judge.source maxSpecialJudgeSourceBytes
    rejectIf (encodeHex (digests.sha256 source) ≠ judge.sourceSHA256) .specialJudgeDigest
    return source

end Artifact

/-! ### Opening an archive -/

/-- The loop over the entries, with the map of the files so far and their total size, a `uint64`. -/
def scanEntries (limits : ArchiveLimits) : List ZipFile → List ZipFile → Nat → Except ArchiveError Nat
  | [], _, total => .ok total
  | file :: rest, files, total => do
    rejectIf (!validateArtifactPath file.name) .unsafeEntry
    rejectIf (files.any fun other => other.name == file.name) (.duplicateEntry file.name)
    rejectIf (!file.regular ∨ file.encrypted ∨ file.method ≠ .store ∧ file.method ≠ .deflate) (.irregularEntry file.name)
    rejectIf (limits.maxCaseBytes < file.uncompressedSize64 ∧ file.name ≠ manifestFile) (.entryTooLarge file.name)
    rejectIf (file.name = manifestFile ∧ limits.maxManifestBytes < file.uncompressedSize64) .manifestTooLarge
    rejectIf (exceedsCompressionRatio file.uncompressedSize64 file.compressedSize64 limits.maxCompressionRatio)
      (.compressionRatio file.name)
    rejectIf (limits.maxTotalBytes < file.uncompressedSize64 ∨ limits.maxTotalBytes - file.uncompressedSize64 < total) .totalTooLarge
    scanEntries limits rest (file :: files) ((total + file.uncompressedSize64) % 2 ^ 64)

/-- The names that the manifest refers to, with its own. -/
def referenced (manifest : Manifest) : List GoString :=
  manifestFile :: (manifest.specialJudge.map SpecialJudge.source).toList ++
    manifest.cases.flatMap fun testCase => [testCase.input, testCase.output]

def validate (files : List ZipFile) (limits : ArchiveLimits) (expected : Option Manifest) :
    Except ArchiveError Artifact := do
  rejectIf (files.length = 0 ∨ limits.maxFiles < files.length) .fileCount
  let _ ← scanEntries limits files [] 0
  let manifestBytes ← readBytes files manifestFile limits.maxManifestBytes
  let actual ← (parseManifestText manifestBytes).mapError .artifactManifest
  rejectIf (expected.any fun manifest => manifest ≠ actual) .manifestDisagrees
  rejectIf ((referenced actual).dedup.length ≠ files.length) .unreferencedFiles
  match (referenced actual).find? fun name => !files.any fun file => file.name == name with
  | some name => .error (.missingFile name)
  | none =>
    let artifact : Artifact := ⟨actual, manifestBytes, files, limits⟩
    if actual.specialJudge.isSome then
      let _ ← artifact.readSpecialJudge digests
    return artifact

variable (reader : ZipReader)

/-- `openArchive`, with the manifest of the database or none. -/
def openExpecting (limits : ArchiveLimits) (expected : Option Manifest) :
    Except ArchiveError Artifact :=
  match reader with
  | none => .error .notZip
  | some files => validate digests files limits expected

def openArchive (databaseManifest : Bytes) (limits : ArchiveLimits) :
    Except ArchiveError Artifact := do
  validateArchiveLimits limits
  rejectIf (limits.maxManifestBytes < databaseManifest.length) .databaseManifestTooLarge
  let expected ← (parseManifestText databaseManifest).mapError .databaseManifest
  openExpecting digests reader limits (some expected)

def validateCases (artifact : Artifact) (limits : ArchiveLimits) : List Case → Except ArchiveError Unit
  | [] => .ok ()
  | testCase :: rest => do
    validateTextEntry artifact.files testCase.input limits.maxCaseBytes
    validateTextEntry artifact.files testCase.output limits.maxCaseBytes
    validateCases artifact limits rest

def inspectArchive (limits : ArchiveLimits) : Except ArchiveError (Manifest × Bytes) := do
  validateArchiveLimits limits
  let artifact ← openExpecting digests reader limits none
  validateCases artifact limits artifact.manifest.cases
  match artifact.manifest.specialJudge with
  | some judge => validateTextEntry artifact.files judge.source maxSpecialJudgeSourceBytes
  | none => .ok ()
  return (artifact.manifest, artifact.manifestJSON)

end JudgingServer.Bundle.Archive
