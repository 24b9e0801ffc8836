import JudgingServer.Proofs.SpecialJudge
import JudgingServer.Proofs.Text

/-! The sizes that the judging server computes before it builds or sends anything: what a
checker's input takes as JSON, and what a batch request takes on the wire. -/

namespace JudgingServer.Proofs
open Go Bundle Library Sandbox Service

/-! ### The checker's input -/

/-- The loop charges a rune with what the encoder prints for it. -/
theorem jsonStringCost_eq {segment : Segment} (sound : SoundSegment segment) : jsonStringCost segment = (Json.escapeSegment segment).length := by
  obtain ⟨rune, bytes⟩ := segment
  obtain ⟨scalar, encoded⟩ := sound
  change bytes = encodeRune rune at encoded
  subst encoded
  by_cases ascii : rune < 0x80
  · have every : ∀ rune < 0x80, jsonStringCost ⟨rune, encodeRune rune⟩ = (Json.escapeSegment ⟨rune, encodeRune rune⟩).length := by
      decide +kernel
    exact every rune ascii
  · have stray : ¬ (rune = runeError ∧ (encodeRune rune).length = 1) := by
      rintro ⟨rfl, single⟩
      exact absurd single (by decide)
    simp only [jsonStringCost, Json.escapeSegment, Bool.and_eq_true, Bool.or_eq_true, beq_iff_eq, decide_eq_true_eq, stray,
      if_false, Rune] at ascii ⊢
    rw [if_neg (by omega), if_neg (by omega), if_neg ascii]
    split_ifs <;> first | rfl | omega

private theorem chargeRunes_eq (sound : ∀ segment ∈ pieces, SoundSegment segment) (budget : 0 ≤ remaining) :
    chargeRunes pieces remaining =
      if (pieces.map Json.escapeSegment).flatten.length ≤ remaining then
        some (remaining - (pieces.map Json.escapeSegment).flatten.length) else none := by
  induction pieces generalizing remaining with
  | nil => simp [chargeRunes, budget]
  | cons segment rest ih =>
    obtain ⟨first, others⟩ := List.forall_mem_cons.mp sound
    rw [chargeRunes, jsonStringCost_eq first, List.map_cons, List.flatten_cons, List.length_append]
    split_ifs with short fits fits
    · omega
    · rfl
    · rw [ih others (by omega), if_pos (by omega)]
      exact congrArg some (by omega)
    · rw [ih others (by omega), if_neg (by omega)]

/-- A string is charged with what its encoding has between the quotes. -/
theorem consumeJSONStringBudget_eq (valid : validString value = true) (budget : 0 ≤ remaining) :
    consumeJSONStringBudget value remaining =
      if ((Json.quote value).length : Int) - 2 ≤ remaining then some (remaining - ((Json.quote value).length - 2)) else none := by
  have inner : ((Json.quote value).length : Int) - 2 = ((segments value).map Json.escapeSegment).flatten.length := by
    simp [Json.quote]
    omega
  rw [consumeJSONStringBudget, if_neg (by simp [valid, budget]), inner]
  exact chargeRunes_eq (validString_sound valid) budget

private theorem consumeJSONStringBudget_ok (consumed : consumeJSONStringBudget value remaining = some left) :
    0 ≤ left ∧ ((Json.quote value).length : Int) - 2 + left = remaining := by
  by_cases refused : remaining < 0 ∨ !validString value
  · rw [consumeJSONStringBudget, if_pos refused] at consumed
    cases consumed
  · obtain ⟨budget, valid⟩ : 0 ≤ remaining ∧ validString value = true := by simpa using refused
    rw [consumeJSONStringBudget_eq valid budget] at consumed
    split_ifs at consumed with fits
    cases consumed
    omega

private theorem specialJudgePayload_fits (accepted : specialJudgePayloadWithinPreEncodeLimit caseID input expected actual = true) :
    (specialJudgeInputV1 caseID input expected actual).length ≤ maxSpecialJudgeProtocolBytesV1 := by
  obtain ⟨left, charged⟩ := Option.isSome_iff_exists.mp accepted
  simp only [List.foldlM_cons, List.foldlM_nil, Option.bind_eq_bind, Option.bind_eq_some_iff] at charged
  obtain ⟨first, named, second, given, third, wanted, last, printed, -⟩ := charged
  have names := consumeJSONStringBudget_ok named
  have givens := consumeJSONStringBudget_ok given
  have wants := consumeJSONStringBudget_ok wanted
  have prints := consumeJSONStringBudget_ok printed
  have keys : (Json.quote (lit "schemaVersion")).length + (Json.quote (lit "caseId")).length + (Json.quote (lit "input")).length +
      (Json.quote (lit "expectedOutput")).length + (Json.quote (lit "actualOutput")).length + (formatInt 1).length ≤ 100 := by
    decide +kernel
  simp only [specialJudgeInputV1, Json.marshal, Json.marshalMembers, List.length_append, List.length_cons, List.length_nil]
  omega

/-- The budget of the checker's input is exact, so an input it lets pass is never
refused for its length. -/
theorem checker_budget_exact (value : GoString) (remaining : Int) (caseID input expected actual : GoString) :
    (validString value = true → 0 ≤ remaining → consumeJSONStringBudget value remaining =
        if ((Json.quote value).length : Int) - 2 ≤ remaining then some (remaining - ((Json.quote value).length - 2)) else none) ∧
      (validString value = false → consumeJSONStringBudget value remaining = none) ∧
      (specialJudgePayloadWithinPreEncodeLimit caseID input expected actual = true →
        (specialJudgeInputV1 caseID input expected actual).length ≤ maxSpecialJudgeProtocolBytesV1) := by
  refine ⟨consumeJSONStringBudget_eq, ?_, specialJudgePayload_fits⟩
  intro invalid
  rw [consumeJSONStringBudget, if_pos (by simp [invalid])]

/-! ### Batch requests -/

/-- A base-128 varint, its low group first. -/
def encodeVarint (n : Nat) : Bytes :=
  if n < 128 then [UInt8.ofNat n] else UInt8.ofNat (n % 128 + 128) :: encodeVarint (n / 128)

private theorem log2_div_128 (large : 128 ≤ n) : n.log2 = (n / 128).log2 + 7 := by
  have low := Nat.log2_self_le (show n / 128 ≠ 0 by omega)
  have high := @Nat.lt_log2_self (n / 128)
  refine (Nat.log2_eq_iff (by omega)).mpr ⟨?_, ?_⟩
  · rw [Nat.pow_add]
    omega
  · rw [show (n / 128).log2 + 7 + 1 = (n / 128).log2 + 1 + 7 by omega, Nat.pow_add]
    omega

/-- The formula of `SizeVarint` counts the groups of seven bits. -/
theorem sizeVarint_eq (machine : n < 2 ^ 64) : sizeVarint n = (encodeVarint n).length := by
  induction n using Nat.strongRecOn with
  | _ n ih =>
    rw [encodeVarint]
    by_cases zero : n = 0
    · simp [sizeVarint, zero]
    split
    next small =>
      have bits : n.log2 < 7 := (Nat.log2_lt zero).mpr small
      simp only [sizeVarint, if_neg zero, List.length_singleton]
      omega
    next large =>
      have more : n / 128 ≠ 0 := by omega
      have top : (n / 128).log2 < 57 := (Nat.log2_lt more).mpr (by omega)
      rw [List.length_cons, ← ih (n / 128) (by omega) (by omega)]
      simp only [sizeVarint, if_neg zero, if_neg more, log2_div_128 (Nat.le_of_not_lt large)]
      omega

/-- The refusals that are about the bytes of the request. -/
def refusedForSize : CanonicalError → Bool
  | .submissionTooLarge | .bundleTooLarge => true
  | _ => false

private theorem appendCase_tooLarge (refused : appendCase sha256 pipeline artifact draft testCase = .error error)
    (size : refusedForSize error = true) (builds : builtCase sha256 artifact testCase = .ok built) :
    pipeline.maxBatchRequestBytes < draft.requestBytes + batchCaseWireBytes built := by
  unfold appendCase at refused
  unfold builtCase at builds
  split at refused
  next =>
    obtain rfl := Except.error.inj refused
    cases size
  next input expected read =>
    simp only [read] at builds
    obtain ⟨kept, keeps, builds⟩ := checked_ok builds
    obtain rfl := Except.ok.inj builds
    obtain refused | ⟨_, same, refused⟩ := checked_error refused
    · rw [keeps] at refused
      cases refused
    obtain rfl := Except.ok.inj (keeps.symm.trans same)
    obtain refused | ⟨_, _, refused⟩ := checked_error refused
    · obtain ⟨-, rfl⟩ := rejectIf_error refused
      cases size
    obtain refused | ⟨_, _, refused⟩ := checked_error refused
    · exact (rejectIf_error refused).1
    · cases refused

/-- A bundle that is refused for its size does not fit, whatever cases would follow. -/
theorem appendCases_tooLarge (manifestCases : List Case)
    (refused : appendCases sha256 pipeline artifact manifestCases draft = .error error) (size : refusedForSize error = true)
    (builds : manifestCases.mapM (builtCase sha256 artifact) = .ok cases) :
    pipeline.maxBatchRequestBytes < draft.requestBytes + (cases.map batchCaseWireBytes).sum := by
  induction manifestCases generalizing draft cases with
  | nil => cases refused
  | cons testCase rest ih =>
    rw [List.mapM_cons] at builds
    obtain ⟨first, here, builds⟩ := checked_ok builds
    obtain ⟨others, later, builds⟩ := checked_ok builds
    obtain rfl := Except.ok.inj builds
    rw [List.map_cons, List.sum_cons]
    obtain refused | ⟨middle, appended, refused⟩ := checked_error refused
    · have beyond := appendCase_tooLarge refused size here
      omega
    · have beyond := ih refused later
      obtain ⟨prepared, -, -, drafts, same⟩ := appendCase_ok appended
      rw [drafts.bytes, ← Except.ok.inj (here.symm.trans same)] at beyond
      omega

/-- The contestant request before its cases are appended. -/
def emptyRequest (input : CanonicalExecutionRequest) (manifest : Manifest) : ExecuteBatchV1Request :=
  { language := input.language
    sourceCode := input.sourceCode
    timeout := timeoutSeconds manifest.limits.timeLimitMillis
    memoryLimit := boundedInt32 manifest.limits.memoryLimitMiB
    stopOnFailure := input.stopOnFailure && manifest.judgeMode == .acm && manifest.checker != .special
    cases := [] }

private theorem prepareBatch_tooLarge (refused : prepareBatch sha256 pipeline input artifact = .error error)
    (size : refusedForSize error = true) (builds : artifact.manifest.cases.mapM (builtCase sha256 artifact) = .ok cases) :
    pipeline.maxBatchRequestBytes < { emptyRequest input artifact.manifest with cases }.size := by
  rw [size_split]
  unfold prepareBatch at refused
  obtain refused | ⟨_, _, refused⟩ := checked_error refused
  · obtain ⟨-, rfl⟩ := rejectIf_error refused
    cases size
  obtain refused | ⟨_, _, refused⟩ := checked_error refused
  · cases valid : artifact.manifest.validate with
    | ok => simp [valid, Except.mapError] at refused
    | error reason =>
      rw [valid] at refused
      obtain rfl := Except.error.inj refused
      cases size
  obtain refused | ⟨_, _, refused⟩ := checked_error refused
  · obtain ⟨-, rfl⟩ := rejectIf_error refused
    cases size
  obtain refused | ⟨_, _, refused⟩ := checked_error refused
  · exact Int.lt_of_lt_of_le (rejectIf_error refused).1 (Int.le_add_of_nonneg_right (Int.natCast_nonneg _))
  obtain refused | ⟨_, _, refused⟩ := checked_error refused
  · exact appendCases_tooLarge _ refused size builds
  · cases refused

/-- The sizes of batch requests are exact: both loops count the size of the request so far, a
request is sent only within the limit, and a bundle is refused for its size only if its
complete request exceeds it. -/
theorem request_sizes_exact (sha256 : Bytes → Bytes) (pipeline : BatchBundlePipeline) (artifact : Artifact) :
    (∀ n, n < 2 ^ 64 → sizeVarint n = (encodeVarint n).length) ∧
    (∀ (request : ExecuteBatchV1Request) manifestCases draft,
      appendCases sha256 pipeline artifact manifestCases ⟨[], [], 0, { request with cases := [] }.size⟩ = .ok draft →
      draft.requestBytes = { request with cases := draft.cases }.size) ∧
    (∀ (request : ExecuteBatchV1Request) contestantRequest expectedOutputs actualOutputs items draft,
      appendCheckerCases pipeline contestantRequest expectedOutputs actualOutputs 0 items
        ⟨[], { request with cases := [] }.size, []⟩ = .ok draft →
      draft.requestBytes = { request with cases := draft.cases }.size) ∧
    (∀ input request checks, prepareBatch sha256 pipeline input artifact = .ok (request, checks) →
      request.size ≤ pipeline.maxBatchRequestBytes) ∧
    (∀ input cases error, prepareBatch sha256 pipeline input artifact = .error error → refusedForSize error = true →
      artifact.manifest.cases.mapM (builtCase sha256 artifact) = .ok cases →
      pipeline.maxBatchRequestBytes < { emptyRequest input artifact.manifest with cases }.size) ∧
    ∀ contestantRequest expectedOutputs actualOutputs result request indexes,
      prepareSpecialJudge pipeline artifact contestantRequest expectedOutputs actualOutputs result = .ok (request, indexes) →
      request.cases ≠ [] → request.size ≤ pipeline.maxBatchRequestBytes := by
  refine ⟨fun _ => sizeVarint_eq, ?_, ?_, ?_, fun _ _ _ => prepareBatch_tooLarge, ?_⟩
  · intro request manifestCases draft appended
    obtain ⟨pairs, -, cases, -, bytes, -⟩ := appendCases_ok _ appended
    rw [size_split, bytes, cases]
    rfl
  · intro request _ _ _ items draft appended
    obtain ⟨cases, _, casesOf, -, -, bytes, -⟩ := appendCheckerCases_ok _ appended
    rw [size_split, bytes, casesOf]
    rfl
  · intro input request checks prepared
    unfold prepareBatch at prepared
    obtain ⟨_, _, prepared⟩ := checked_ok prepared
    obtain ⟨_, _, prepared⟩ := checked_ok prepared
    obtain ⟨_, _, prepared⟩ := checked_ok prepared
    obtain ⟨_, small, prepared⟩ := checked_ok prepared
    obtain ⟨draft, appended, prepared⟩ := checked_ok prepared
    obtain ⟨pairs, -, cases, -, bytes, within⟩ := appendCases_ok _ appended
    obtain ⟨rfl, rfl⟩ := Prod.mk.inj (Except.ok.inj prepared)
    have fits := within (Int.not_lt.mp (rejectIf_ok small))
    rw [bytes] at fits
    rw [size_split, cases]
    exact fits
  · intro contestantRequest expectedOutputs actualOutputs result request indexes prepared some
    unfold prepareSpecialJudge at prepared
    simp only at prepared
    split at prepared
    next source judge _ _ =>
      obtain ⟨_, _, prepared⟩ := checked_ok prepared
      obtain ⟨_, _, prepared⟩ := checked_ok prepared
      obtain ⟨draft, appended, prepared⟩ := checked_ok prepared
      obtain ⟨cases, _, casesOf, -, -, bytes, within⟩ := appendCheckerCases_ok _ appended
      obtain ⟨rfl, rfl⟩ := Prod.mk.inj (Except.ok.inj prepared)
      change draft.cases = cases at casesOf
      have fits := within (.inr (casesOf ▸ some))
      rw [bytes] at fits
      rw [size_split, casesOf]
      exact fits
    next => cases prepared

end JudgingServer.Proofs
