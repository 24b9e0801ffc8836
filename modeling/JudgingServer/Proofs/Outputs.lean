import JudgingServer.Library.Framing
import JudgingServer.Service.BatchPipeline

/-! Output comparison. The token checker compares digests of framed tokens, which
is the comparison of the token lists as long as the hash has no collisions. -/

namespace JudgingServer.Proofs
open Go Bundle Library Service

/-! ### Runes and tokens of a string -/

private theorem decodeRune_pos (first : UInt8) (rest : Bytes) : 1 ≤ (decodeRune (first :: rest)).2 := by
  unfold decodeRune
  grind

private theorem joinSegments_segmentsFrom (text : Bytes) (skip : Nat) : joinSegments
    (segmentsFrom skip text) = text.drop skip := by
  induction text generalizing skip with
  | nil => cases skip <;> rfl
  | cons first rest ih =>
    cases skip with
    | succ skip => exact ih skip
    | zero =>
      obtain ⟨extra, width⟩ := Nat.exists_eq_add_of_le (decodeRune_pos first rest)
      have tail := ih ((decodeRune (first :: rest)).2 - 1)
      unfold joinSegments at tail ⊢
      rw [segmentsFrom, List.map_cons, List.flatten_cons, tail, width, Nat.add_comm 1 extra]
      simp

theorem joinSegments_segments (text : GoString) : joinSegments (segments text) = text := joinSegments_segmentsFrom text 0

private theorem fieldsFrom_length (pieces : List Segment) (token field : GoString) (member : field ∈ fieldsFrom pieces token) :
    field.length ≤ token.length + (joinSegments pieces).length := by
  induction pieces generalizing token with
  | nil =>
    unfold fieldsFrom at member
    split at member
    next => cases member
    next =>
      obtain rfl := List.mem_singleton.mp member
      exact Nat.le_add_right _ _
  | cons segment rest ih =>
    have total : (joinSegments (segment :: rest)).length = segment.bytes.length + (joinSegments rest).length := by
      simp [joinSegments]
    unfold fieldsFrom at member
    split at member
    next =>
      split at member
      next =>
        have bound := ih [] member
        rw [List.length_nil] at bound
        omega
      next =>
        cases List.mem_cons.mp member with
        | inl same =>
          rw [same]
          exact Nat.le_add_right _ _
        | inr later =>
          have bound := ih [] later
          rw [List.length_nil] at bound
          omega
    next =>
      have bound := ih _ member
      rw [List.length_append] at bound
      omega

private theorem fields_length (member : field ∈ fields text) : field.length ≤ text.length := by
  have bound := fieldsFrom_length (segments text) [] field member
  rwa [joinSegments_segments, List.length_nil, Nat.zero_add] at bound

/-! ### The digest of a token list -/

private theorem hexDigit_inj : ∀ left < 16, ∀ right < 16, hexDigit left = hexDigit right → left = right := by decide

theorem encodeHex_inj (same : encodeHex left = encodeHex right) : left = right := by
  induction left generalizing right with
  | nil =>
    cases right with
    | nil => rfl
    | cons byte rest => cases same
  | cons byte rest ih =>
    cases right with
    | nil => cases same
    | cons other others =>
      obtain ⟨high, same⟩ := List.cons.inj same
      obtain ⟨low, tails⟩ := List.cons.inj same
      have bounds := And.intro byte.toNat_lt other.toNat_lt
      have highs := hexDigit_inj _ (by omega) _ (by omega) high
      have lows := hexDigit_inj _ (by omega) _ (by omega) low
      have bytes : byte = other := UInt8.toNat_inj.mp (by omega)
      rw [bytes, ih tails]

theorem encodeHex_plain {mark : UInt8} (plain : ∀ digit < 16, hexDigit digit ≠ mark) (data : Bytes) : mark ∉ encodeHex data := by
  intro marked
  obtain ⟨digits, member, inside⟩ := List.mem_flatten.mp marked
  obtain ⟨byte, -, rfl⟩ := List.mem_map.mp member
  have bound := byte.toNat_lt
  simp only [List.mem_cons, List.not_mem_nil, or_false] at inside
  rcases inside with high | low
  · exact plain _ (by omega) high.symm
  · exact plain _ (by omega) low.symm

private theorem putUint64_length (value : Nat) : (putUint64 value).length = 8 := by
  simp [putUint64]

private theorem putUint64_inj (leftFits : left < 2 ^ 64) (rightFits : right < 2 ^ 64) (same : putUint64 left = putUint64 right) :
    left = right := by
  have digits : ∀ place < 8, left / 256 ^ place % 256 = right / 256 ^ place % 256 := by
    intro place below
    have bytes := List.map_inj_left.mp same place (List.mem_reverse.mpr (List.mem_range.mpr below))
    simpa using congrArg UInt8.toNat bytes
  have values := mod_pow_eq_of_digits 8 digits
  have leftBelow : left < 256 ^ 8 := leftFits
  have rightBelow : right < 256 ^ 8 := rightFits
  rwa [Nat.mod_eq_of_lt leftBelow, Nat.mod_eq_of_lt rightBelow] at values

/-- The digests agree exactly when the token lists do. The length of a Go string
is an `int`, so it fits the eight bytes of its header. -/
theorem tokenOutputSHA256_eq_iff (noCollisions : Function.Injective sha256) (leftFits : left.length < 2 ^ 63)
    (rightFits : right.length < 2 ^ 63) :
    tokenOutputSHA256 sha256 left = tokenOutputSHA256 sha256 right ↔ fields left = fields right := by
  constructor
  · intro same
    refine framed_flatten_inj (fun token => putUint64 token.length) (fun token => token.length < 2 ^ 63)
      (fun _ => putUint64_length _) (by omega) ?_ ?_ ?_ (noCollisions (encodeHex_inj same))
    · intro first second firstFits secondFits headers
      exact putUint64_inj (by omega) (by omega) headers
    · intro token member
      exact Nat.lt_of_le_of_lt (fields_length member) leftFits
    · intro token member
      exact Nat.lt_of_le_of_lt (fields_length member) rightFits
  · intro same
    rw [tokenOutputSHA256, same, tokenOutputSHA256]

/-- The local check of an expected output decides as the comparison with the
output itself does. -/
theorem outputMatchesExpectedCheck_eq (noCollisions : Function.Injective sha256) (plain : checker = .exact ∨ checker = .token)
    (keeps : expectedOutput sha256 checker expected = .ok kept) (actualFits : actual.length < 2 ^ 63)
    (expectedFits : expected.length < 2 ^ 63) :
    outputMatchesExpectedCheck sha256 checker actual kept.check = outputsMatch checker actual expected := by
  obtain rfl | rfl := plain
  · obtain rfl := Except.ok.inj keeps
    rfl
  · obtain rfl := Except.ok.inj keeps
    have digests := tokenOutputSHA256_eq_iff noCollisions actualFits expectedFits
    simp only [outputMatchesExpectedCheck, outputsMatch, reduceIte]
    rw [Bool.eq_iff_iff, beq_iff_eq, beq_iff_eq]
    exact digests

/-- The token checker may keep the digest of an expected output instead of the output. -/
theorem token_digests_exact (sha256 : Bytes → Bytes) (noCollisions : Function.Injective sha256) (actual expected : GoString)
    (actualFits : actual.length < 2 ^ 63) (expectedFits : expected.length < 2 ^ 63) :
    (tokenOutputSHA256 sha256 actual = tokenOutputSHA256 sha256 expected ↔ fields actual = fields expected) ∧
      outputMatchesExpectedCheck sha256 .token actual (tokenOutputSHA256 sha256 expected) = outputsMatch .token actual expected :=
  ⟨tokenOutputSHA256_eq_iff noCollisions actualFits expectedFits,
    outputMatchesExpectedCheck_eq noCollisions (.inr rfl) rfl actualFits expectedFits⟩

/-- A stray byte is part of a token, and a no-break space ends one. -/
theorem token_digests_exact_sample :
    (tokenOutputSHA256 id [97, 255, 32, 98] = tokenOutputSHA256 id [97, 255, 0xC2, 0xA0, 98, 10] ↔
      fields [97, 255, 32, 98] = fields [97, 255, 0xC2, 0xA0, 98, 10]) ∧
    outputMatchesExpectedCheck id .token [97, 255, 32, 98] (tokenOutputSHA256 id [97, 255, 0xC2, 0xA0, 98, 10]) =
      outputsMatch .token [97, 255, 32, 98] [97, 255, 0xC2, 0xA0, 98, 10] :=
  token_digests_exact id Function.injective_id [97, 255, 32, 98] [97, 255, 0xC2, 0xA0, 98, 10] (by decide) (by decide)

end JudgingServer.Proofs
