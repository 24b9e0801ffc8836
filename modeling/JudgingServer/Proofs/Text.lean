import JudgingServer.Proofs.Outputs

/-! Runes written by `encodeRune` are read back by `decodeRune`, so that a
truncated text has the UTF-16 length that was counted. -/

namespace JudgingServer.Proofs
open Go

variable {third : UInt8} {text : GoString} {rune : Nat} {segment : Segment} {lead second : UInt8}

/-- The runes that have an encoding: no surrogates, and at most U+10FFFF. -/
def Scalar (rune : Nat) : Prop := (rune < 0xD800 ∨ 0xE000 ≤ rune) ∧ rune < 0x110000

theorem between_iff : between low high byte = true ↔ low ≤ byte.toNat ∧ byte.toNat ≤ high := by
  simp [between]

private theorem decodeRune_scalar (text : Bytes) : Scalar (decodeRune text).1 := by
  fun_cases decodeRune text
  all_goals simp only [Scalar, runeError, Bool.and_eq_true, between_iff] at *
  all_goals grind

theorem decodeRune_encodeRune (scalar : Scalar rune) (rest : Bytes) :
    decodeRune (encodeRune rune ++ rest) = (rune, (encodeRune rune).length) := by
  obtain ⟨plane, bound⟩ := scalar
  unfold encodeRune
  split
  next => simp [decodeRune]; grind
  next =>
    split
    next => simp [decodeRune, between]; grind
    next =>
      split
      next => simp [decodeRune, between]; grind
      next astral =>
        have large : 65536 ≤ rune := Nat.le_of_not_lt astral
        have lead : (240 + rune / 262144) % 256 = 240 + rune / 262144 := by omega
        have second : (128 + rune / 4096 % 64) % 256 = 128 + rune / 4096 % 64 := by omega
        have third : (128 + rune / 64 % 64) % 256 = 128 + rune / 64 % 64 := by omega
        have fourth : (128 + rune % 64) % 256 = 128 + rune % 64 := by omega
        simp only [List.cons_append, List.nil_append, decodeRune, between, Nat.toUInt8_eq, UInt8.toNat_ofNat', Nat.reducePow,
          lead, second, third, fourth]
        have high : ¬ 240 + rune / 262144 < 128 ∧ ¬ 240 + rune / 262144 < 194 ∧ ¬ 240 + rune / 262144 < 224 ∧
            ¬ 240 + rune / 262144 < 240 ∧ 240 + rune / 262144 < 245 := by omega
        rw [if_neg high.1, if_neg high.2.1, if_neg high.2.2.1, if_neg high.2.2.2.1, if_pos high.2.2.2.2, if_pos (by grind)]
        have value : (240 + rune / 262144 - 240) * 262144 + (128 + rune / 4096 % 64 - 128) * 4096 +
            (128 + rune / 64 % 64 - 128) * 64 + (128 + rune % 64 - 128) = rune := by omega
        exact Prod.ext value rfl

theorem encodeRune_cons (rune : Rune) : ∃ first more, encodeRune rune = first :: more := by
  unfold encodeRune
  split_ifs
  all_goals exact ⟨_, _, rfl⟩

private theorem segmentsFrom_skip (skipped rest : Bytes) : segmentsFrom skipped.length (skipped ++ rest) = segments rest := by
  induction skipped with
  | nil => rfl
  | cons byte more ih => exact ih

/-- A text that starts with an encoded rune decodes to that rune first. -/
theorem segments_encodeRune (scalar : Scalar rune) (rest : Bytes) :
    segments (encodeRune rune ++ rest) = ⟨rune, encodeRune rune⟩ :: segments rest := by
  have decoded := decodeRune_encodeRune scalar rest
  obtain ⟨first, more, encoded⟩ := encodeRune_cons rune
  rw [encoded] at decoded ⊢
  rw [List.cons_append] at decoded ⊢
  rw [segments, segmentsFrom, decoded]
  refine congrArg₂ List.cons ?_ (segmentsFrom_skip more rest)
  simp

private theorem segmentsFrom_decodes (text : Bytes) (member : segment ∈ segmentsFrom skip text) :
    ∃ rest ≠ [], segment = ⟨(decodeRune rest).1, rest.take (decodeRune rest).2⟩ := by
  induction text generalizing skip with
  | nil => cases skip <;> cases member
  | cons first rest ih =>
    cases skip with
    | succ skip => exact ih member
    | zero =>
      cases List.mem_cons.mp member with
      | inl same => exact ⟨first :: rest, List.cons_ne_nil first rest, same⟩
      | inr later => exact ih later

private theorem segmentsFrom_scalar (text : Bytes) (member : segment ∈ segmentsFrom skip text) : Scalar segment.rune := by
  obtain ⟨rest, -, rfl⟩ := segmentsFrom_decodes text member
  exact decodeRune_scalar rest

/-! ### Well-formed texts -/

theorem toUInt8_of_toNat {byte : UInt8} {value : Nat} (same : value = byte.toNat) : value.toUInt8 = byte := by
  rw [same, Nat.toUInt8_eq, UInt8.ofNat_toNat]

private theorem encodeRune_two (range : 0xC2 ≤ lead.toNat ∧ lead.toNat < 0xE0)
    (next : 0x80 ≤ second.toNat ∧ second.toNat ≤ 0xBF) :
    encodeRune ((lead.toNat - 0xC0) * 64 + (second.toNat - 0x80)) = [lead, second] := by
  have large : ¬ (lead.toNat - 0xC0) * 64 + (second.toNat - 0x80) < 0x80 := by omega
  have rune : (lead.toNat - 0xC0) * 64 + (second.toNat - 0x80) < 0x800 := by omega
  rw [encodeRune, if_neg large, if_pos rune,
    @toUInt8_of_toNat lead _ (by omega), @toUInt8_of_toNat second _ (by omega)]

private theorem encodeRune_three (range : 0xE0 ≤ lead.toNat ∧ lead.toNat < 0xF0)
    (shortest : (if lead.toNat = 0xE0 then 0xA0 else 0x80) ≤ second.toNat) (next : second.toNat ≤ 0xBF)
    (last : 0x80 ≤ third.toNat ∧ third.toNat ≤ 0xBF) :
    encodeRune ((lead.toNat - 0xE0) * 4096 + (second.toNat - 0x80) * 64 + (third.toNat - 0x80)) = [lead, second, third] := by
  have start : 0x80 ≤ second.toNat := by
    split at shortest <;> omega
  have large : ¬ (lead.toNat - 0xE0) * 4096 + (second.toNat - 0x80) * 64 + (third.toNat - 0x80) < 0x800 := by
    split at shortest <;> omega
  have rune : (lead.toNat - 0xE0) * 4096 + (second.toNat - 0x80) * 64 + (third.toNat - 0x80) < 0x10000 := by omega
  rw [encodeRune, if_neg (fun small => large (Nat.lt_trans small (by decide))), if_neg large, if_pos rune,
    @toUInt8_of_toNat lead _ (by omega), @toUInt8_of_toNat second _ (by omega), @toUInt8_of_toNat third _ (by omega)]

private theorem encodeRune_four (range : 0xF0 ≤ lead.toNat ∧ lead.toNat < 0xF5)
    (shortest : (if lead.toNat = 0xF0 then 0x90 else 0x80) ≤ second.toNat) (next : second.toNat ≤ 0xBF)
    (middle : 0x80 ≤ third.toNat ∧ third.toNat ≤ 0xBF) (last : 0x80 ≤ fourth.toNat ∧ fourth.toNat ≤ 0xBF) :
    encodeRune ((lead.toNat - 0xF0) * 262144 + (second.toNat - 0x80) * 4096 + (third.toNat - 0x80) * 64 + (fourth.toNat - 0x80)) =
      [lead, second, third, fourth] := by
  have start : 0x80 ≤ second.toNat := by
    split at shortest <;> omega
  have large : ¬ (lead.toNat - 0xF0) * 262144 + (second.toNat - 0x80) * 4096 + (third.toNat - 0x80) * 64 + (fourth.toNat - 0x80) <
      0x10000 := by
    split at shortest <;> omega
  rw [encodeRune, if_neg (fun small => large (Nat.lt_trans small (by decide))),
    if_neg (fun small => large (Nat.lt_trans small (by decide))), if_neg large,
    @toUInt8_of_toNat lead _ (by omega), @toUInt8_of_toNat second _ (by omega), @toUInt8_of_toNat third _ (by omega),
    @toUInt8_of_toNat fourth _ (by omega)]

/-- A rune is decoded from its own encoding, or the text starts with a stray byte. -/
theorem encodeRune_decodeRune (nonempty : text ≠ []) :
    (decodeRune text).1 = runeError ∧ (decodeRune text).2 = 1 ∨
      encodeRune (decodeRune text).1 = text.take (decodeRune text).2 := by
  fun_cases decodeRune text
  all_goals simp only [Bool.and_eq_true, between_iff] at *
  case case1 => exact absurd rfl nonempty
  case case2 first rest lead ascii =>
    right
    exact (if_pos ascii).trans (congrArg (fun byte => [byte]) (toUInt8_of_toNat rfl))
  case case4 first lead _ low high second tail next =>
    right
    exact encodeRune_two ⟨Nat.le_of_not_lt low, high⟩ next
  case case7 first lead _ _ low high second third tail next =>
    obtain ⟨⟨shortest, bound⟩, last⟩ := next
    right
    exact encodeRune_three ⟨Nat.le_of_not_lt low, high⟩ shortest (Nat.le_trans bound (by split <;> decide)) last
  case case10 first lead _ _ _ low high second third fourth tail next =>
    obtain ⟨⟨⟨shortest, bound⟩, middle⟩, last⟩ := next
    right
    exact encodeRune_four ⟨Nat.le_of_not_lt low, high⟩ shortest (Nat.le_trans bound (by split <;> decide)) middle last
  all_goals exact .inl ⟨trivial, trivial⟩

structure SoundSegment (segment : Segment) : Prop where
  scalar : Scalar segment.rune
  bytes : segment.bytes = encodeRune segment.rune

private theorem segmentsFrom_sound (text : Bytes) (member : segment ∈ segmentsFrom skip text)
    (valid : ¬ (segment.rune = runeError ∧ segment.bytes.length = 1)) : SoundSegment segment := by
  obtain ⟨rest, nonempty, rfl⟩ := segmentsFrom_decodes text member
  cases encodeRune_decodeRune nonempty with
  | inr encoded => exact ⟨decodeRune_scalar rest, encoded.symm⟩
  | inl stray =>
    refine absurd ⟨stray.1, ?_⟩ valid
    rw [stray.2, List.length_take_of_le (List.length_pos_iff.mpr nonempty)]

/-- A piece of a text is one stray byte or the encoding of its rune. -/
theorem segments_cases (member : segment ∈ segments text) :
    (segment.rune = runeError ∧ segment.bytes.length = 1) ∨ SoundSegment segment := by
  by_cases stray : segment.rune = runeError ∧ segment.bytes.length = 1
  · exact .inl stray
  · exact .inr (segmentsFrom_sound text member stray)

theorem segments_nonempty (member : segment ∈ segments text) : 0 < segment.bytes.length := by
  cases segments_cases member with
  | inl stray => omega
  | inr sound =>
    obtain ⟨first, more, encoded⟩ := encodeRune_cons segment.rune
    simp [sound.bytes, encoded]

theorem validString_sound (valid : validString text = true) : ∀ segment ∈ segments text, SoundSegment segment := by
  intro segment member
  have whole := List.all_eq_true.mp valid segment member
  apply segmentsFrom_sound text member
  rintro ⟨error, single⟩
  simp [error, single] at whole

theorem decodeRune_ascii (ascii : first.toNat < 0x80) (rest : Bytes) : decodeRune (first :: rest) = (first.toNat, 1) := by
  rw [decodeRune.eq_def]
  exact if_pos ascii

theorem segments_ascii (ascii : first.toNat < 0x80) (rest : Bytes) :
    segments (first :: rest) = ⟨first.toNat, [first]⟩ :: segments rest := by
  unfold segments
  rw [segmentsFrom, decodeRune_ascii ascii]
  rfl

theorem validString_ascii (ascii : ∀ byte ∈ text, byte.toNat < 0x80) : validString text = true := by
  unfold validString
  induction text with
  | nil => rfl
  | cons first rest ih =>
    obtain ⟨small, ascii⟩ := List.forall_mem_cons.mp ascii
    have rune : first.toNat ≠ runeError := fun same => absurd (same ▸ small) (by decide)
    rw [segments_ascii small, List.all_cons, ih ascii]
    simp [rune]

theorem replaceInvalid_valid (valid : validString text = true) : replaceInvalid text = text := by
  have same : (segments text).map (fun segment => encodeRune segment.rune) = (segments text).map Segment.bytes := by
    apply List.map_congr_left
    intro segment member
    exact (validString_sound valid segment member).bytes.symm
  unfold replaceInvalid
  rw [same]
  exact joinSegments_segments text

/-! ### UTF-16 lengths -/

open Callback in
private theorem utf16Len_encodeRune (scalar : Scalar rune) (rest : Bytes) :
    utf16Len (encodeRune rune ++ rest) = utf16RuneLen rune + utf16Len rest := by
  unfold utf16Len
  rw [segments_encodeRune scalar, List.map_cons, List.sum_cons]

open Callback in
private theorem utf16Len_truncateRunes (pieces : List Segment) (scalars : ∀ segment ∈ pieces, Scalar segment.rune) {used : Nat}
    (within : (used : Int) ≤ limit) : (used + utf16Len (truncateRunes limit used pieces) : Int) ≤ limit := by
  induction pieces generalizing used with
  | nil => simpa [truncateRunes, utf16Len, segments, segmentsFrom] using within
  | cons segment rest ih =>
    simp only [truncateRunes]
    split
    next => simpa [utf16Len, segments, segmentsFrom] using within
    next fits =>
      rw [utf16Len_encodeRune (scalars segment List.mem_cons_self)]
      have tail := ih (fun other member => scalars other (List.mem_cons_of_mem _ member)) (Int.not_lt.mp fits)
      push_cast at tail ⊢
      omega

open Callback in
/-- A truncated text fits the limit, also where its bytes are no valid UTF-8. -/
theorem utf16Len_truncateUTF16 (value : GoString) (positive : 0 ≤ limit) :
    (utf16Len (truncateUTF16 value limit) : Int) ≤ limit := by
  unfold truncateUTF16
  split
  next => simpa [utf16Len, segments, segmentsFrom] using positive
  next =>
    split
    next within => exact within
    next =>
      have bound := utf16Len_truncateRunes (segments value) (fun segment member => segmentsFrom_scalar value member) positive
      simpa using bound

theorem segments_sound_append (sound : ∀ segment ∈ pieces, SoundSegment segment) (rest : GoString) :
    segments (joinSegments pieces ++ rest) = pieces ++ segments rest := by
  induction pieces with
  | nil => rfl
  | cons segment pieces ih =>
    obtain ⟨⟨scalar, bytes⟩, others⟩ := List.forall_mem_cons.mp sound
    have whole : joinSegments (segment :: pieces) = encodeRune segment.rune ++ joinSegments pieces := by simp [joinSegments, bytes]
    rw [whole, List.append_assoc, segments_encodeRune scalar, ih others, ← bytes, List.cons_append]

theorem segments_joinSegments (sound : ∀ segment ∈ pieces, SoundSegment segment) : segments (joinSegments pieces) = pieces := by
  have whole := segments_sound_append sound []
  rwa [List.append_nil, show segments [] = [] from rfl, List.append_nil] at whole

private theorem joinSegments_front (front : kept <+: pieces) : joinSegments kept <+: joinSegments pieces := by
  obtain ⟨more, rfl⟩ := front
  exact ⟨joinSegments more, by simp [joinSegments]⟩

open Callback in
private theorem truncateRunes_take (pieces : List Segment) (sound : ∀ segment ∈ pieces, SoundSegment segment) (used : Nat) :
    ∃ kept, truncateRunes limit used pieces = joinSegments (pieces.take kept) ∧
      ∀ count, (used + ((pieces.take count).map fun segment => utf16RuneLen segment.rune).sum : Nat) ≤ limit →
        pieces.take count <+: pieces.take kept := by
  induction pieces generalizing used with
  | nil => exact ⟨0, rfl, by simp⟩
  | cons segment rest ih =>
    obtain ⟨own, others⟩ := List.forall_mem_cons.mp sound
    simp only [truncateRunes]
    split
    next full =>
      refine ⟨0, rfl, fun count fits => ?_⟩
      cases count with
      | zero => exact List.prefix_rfl
      | succ count =>
        rw [List.take_succ_cons, List.map_cons, List.sum_cons] at fits
        omega
    next =>
      obtain ⟨kept, same, longest⟩ := ih others (used + utf16RuneLen segment.rune)
      refine ⟨kept + 1, ?_, fun count fits => ?_⟩
      · rw [same, List.take_succ_cons, ← own.bytes]
        rfl
      · cases count with
        | zero => exact List.nil_prefix
        | succ count =>
          rw [List.take_succ_cons, List.map_cons, List.sum_cons] at fits
          rw [List.take_succ_cons, List.take_succ_cons]
          exact (List.prefix_cons_inj segment).mpr (longest count (by omega))

/-- The text consists of the first characters of the value. -/
def WholePrefix (text value : GoString) : Prop := ∃ count, text = joinSegments ((segments value).take count)

open Callback in
private theorem truncateUTF16_longest (valid : validString value = true) (positive : 0 < limit) :
    WholePrefix (truncateUTF16 value limit) value ∧
      ∀ text, WholePrefix text value → (utf16Len text : Int) ≤ limit → text <+: truncateUTF16 value limit := by
  have sound := validString_sound valid
  unfold truncateUTF16
  rw [if_neg (Int.not_le.mpr positive)]
  split
  next =>
    refine ⟨⟨(segments value).length, ?_⟩, ?_⟩
    · rw [List.take_length, joinSegments_segments]
    · rintro text ⟨count, rfl⟩ -
      have front := joinSegments_front ⟨_, List.take_append_drop count (segments value)⟩
      rwa [joinSegments_segments] at front
  next =>
    obtain ⟨kept, same, longest⟩ := truncateRunes_take (segments value) sound 0
    rw [same]
    refine ⟨⟨kept, rfl⟩, ?_⟩
    rintro text ⟨count, rfl⟩ fits
    apply joinSegments_front
    apply longest
    rwa [utf16Len, segments_joinSegments fun segment member => sound segment (List.mem_of_mem_take member), ← Nat.zero_add (List.sum _)] at fits

open Callback in
/-- A truncated text is within the limit and stays as it is when it is truncated again; of a
valid text it is the longest part that consists of whole characters, and a text within the
limit is not changed. -/
theorem truncateUTF16_exact (value : GoString) (limit : Int) (positive : 0 < limit) :
    (validString value = true → WholePrefix (truncateUTF16 value limit) value ∧
      ∀ text, WholePrefix text value → (utf16Len text : Int) ≤ limit → text <+: truncateUTF16 value limit) ∧
    (utf16Len (truncateUTF16 value limit) : Int) ≤ limit ∧
    truncateUTF16 (truncateUTF16 value limit) limit = truncateUTF16 value limit ∧
    ((utf16Len value : Int) ≤ limit → truncateUTF16 value limit = value) := by
  have within (text : GoString) (fits : (utf16Len text : Int) ≤ limit) : truncateUTF16 text limit = text := by
    rw [truncateUTF16, if_neg (Int.not_le.mpr positive), if_pos fits]
  have short := utf16Len_truncateUTF16 value positive.le
  exact ⟨fun valid => truncateUTF16_longest valid positive, short, within _ short, within value⟩

open Callback in
/-- The surrogate pair of a character outside of the basic plane is not split. -/
theorem truncateUTF16_exact_pair : truncateUTF16 [97, 0xF0, 0x9F, 0x98, 0x80, 98] 2 = [97] ∧
    (utf16Len (truncateUTF16 [97, 0xF0, 0x9F, 0x98, 0x80, 98] 2) : Int) ≤ 2 :=
  ⟨by decide +kernel, (truncateUTF16_exact _ 2 (by decide)).2.1⟩

end JudgingServer.Proofs
