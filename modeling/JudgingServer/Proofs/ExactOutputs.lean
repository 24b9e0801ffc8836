import JudgingServer.Library.Trimming
import JudgingServer.Proofs.Text

/-! The exact checker compares lines: those of a text are split at every kind of line
ending and trimmed, and blank ones are dropped at both ends. -/

namespace JudgingServer.Proofs
open Go Bundle Library Service

/-! ### Runes of a text and of its parts -/

private theorem decodeRune_width (text : Bytes) : (decodeRune text).2 ≤ text.length := by
  fun_cases decodeRune text
  all_goals simp

/-- A byte that does not continue a rune is not part of the one before. -/
theorem decodeRune_append (nonempty : front ≠ []) (start : first.toNat < 0x80 ∨ 0xC0 ≤ first.toNat) (rest : Bytes) :
    decodeRune (front ++ first :: rest) = decodeRune front := by
  match front with
  | [lead] => simp [decodeRune, between]; grind
  | [lead, second] => simp [decodeRune, between]; grind
  | [lead, second, third] => simp [decodeRune, between]; grind
  | lead :: second :: third :: fourth :: more => rfl

private theorem segmentsFrom_append (start : first.toNat < 0x80 ∨ 0xC0 ≤ first.toNat) (front rest : Bytes)
    (within : skip ≤ front.length) :
    segmentsFrom skip (front ++ first :: rest) = segmentsFrom skip front ++ segments (first :: rest) := by
  induction front generalizing skip with
  | nil =>
    obtain rfl := Nat.le_zero.mp within
    rfl
  | cons byte front ih =>
    cases skip with
    | succ skip => exact ih (Nat.le_of_succ_le_succ within)
    | zero =>
      have width := decodeRune_width (byte :: front)
      have decoded := decodeRune_append (List.cons_ne_nil byte front) start rest
      rw [List.cons_append] at decoded
      rw [List.cons_append, segmentsFrom, decoded, segmentsFrom, List.cons_append, ← List.cons_append,
        List.take_append_of_le_length width, ih (by rw [List.length_cons] at width; omega)]

private theorem joinSegments_append (front back : List Segment) :
    joinSegments (front ++ back) = joinSegments front ++ joinSegments back := by
  simp [joinSegments]

private theorem encodeRune_start (scalar : Scalar rune) (encoded : encodeRune rune = first :: more) :
    first.toNat < 0x80 ∨ 0xC0 ≤ first.toNat := by
  have head : (encodeRune rune).head?.map UInt8.toNat = some first.toNat := by rw [encoded]; rfl
  obtain ⟨_, bound⟩ := scalar
  unfold encodeRune at head
  split_ifs at head <;> simp at head <;> grind

private theorem segments_append_sound (sound : ∀ segment ∈ pieces, SoundSegment segment) (front : GoString) :
    segments (front ++ joinSegments pieces) = segments front ++ pieces := by
  cases pieces with
  | nil => simp [joinSegments]
  | cons piece rest =>
    obtain ⟨scalar, bytes⟩ := sound piece List.mem_cons_self
    obtain ⟨first, more, encoded⟩ := encodeRune_cons piece.rune
    have whole : joinSegments (piece :: rest) = first :: (more ++ joinSegments rest) := by simp [joinSegments, bytes, encoded]
    have back := segments_joinSegments sound
    rw [whole] at back ⊢
    rw [segments, segmentsFrom_append (encodeRune_start scalar encoded) front _ (Nat.zero_le _), back]
    rfl

private theorem segments_line (left right : GoString) :
    segments (left ++ 10 :: right) = segments left ++ ⟨10, [10]⟩ :: segments right := by
  rw [segments, segmentsFrom_append (by decide) left right (Nat.zero_le _), segments_ascii (by decide)]
  rfl

private theorem segments_join (lines : List GoString) :
    segments (join [10] lines) = [⟨10, [10]⟩].intercalate (lines.map segments) := by
  unfold join
  induction lines with
  | nil => rfl
  | cons line rest ih =>
    cases rest with
    | nil => simp
    | cons next rest =>
      rw [List.intercalate_cons_cons, List.append_assoc]
      simpa [segments_line] using ih

/-! ### Trimmed lines -/

abbrev blank (piece : Segment) : Bool := isSpace piece.rune

private theorem segments_trimSpace (text : GoString) : segments (trimSpace text) = trimEnds blank (segments text) := by
  obtain ⟨before, after, front, back, whole⟩ := trimEnds_surrounded blank (segments text)
  have sound : ∀ segment ∈ before ++ after, SoundSegment segment := by
    intro segment member
    have space : blank segment = true := (List.mem_append.mp member).elim (front segment) (back segment)
    have inside : segment ∈ segments text := by
      rw [whole]
      grind
    rcases segments_cases inside with ⟨error, -⟩ | sound
    · rw [blank, error] at space
      cases space
    · exact sound
  obtain ⟨front, back⟩ := List.forall_mem_append.mp sound
  have parts : joinSegments before ++ (trimSpace text ++ joinSegments after) = text := by
    have join := joinSegments_segments text
    rwa [whole, joinSegments_append, joinSegments_append, List.append_assoc] at join
  have cut := congrArg segments parts
  rw [segments_sound_append front, segments_append_sound back, whole, List.append_assoc] at cut
  simpa using cut

private theorem trimSpace_trimSpace (text : GoString) : trimSpace (trimSpace text) = trimSpace text := by
  have twice : trimSpace (trimSpace text) = joinSegments (trimEnds blank (segments (trimSpace text))) := rfl
  rw [twice, segments_trimSpace, (trimEnds_bare _ _).trimEnds]
  rfl

/-- The lines of a text, which end at CR LF, CR or LF. -/
def lines : GoString → List GoString
  | [] => [[]]
  | 13 :: 10 :: rest => [] :: lines rest
  | byte :: rest => if byte = 13 ∨ byte = 10 then [] :: lines rest else (lines rest).modifyHead (byte :: ·)

/-- The trimmed lines without the empty ones at both ends. -/
def outputLines (value : GoString) : List GoString := trimEnds List.isEmpty ((lines value).map trimSpace)

private theorem split_lines (value : GoString) : split 10 (replaceCR (replaceCRLF value)) = lines value := by
  unfold split replaceCR List.splitOn
  fun_induction replaceCRLF value with
  | case1 rest ih => simp [List.splitOnP_cons_eq_if_modifyHead, lines, ih]
  | case2 byte rest other ih =>
    rw [lines]
    · by_cases carriage : byte = 13 <;> simp [List.splitOnP_cons_eq_if_modifyHead, ih, carriage]
    · exact other
  | case3 => rfl

private theorem trimSpace_join {texts : List GoString} (trimmed : ∀ text ∈ texts, trimSpace text = text) :
    trimSpace (join [10] texts) = join [10] (trimEnds List.isEmpty texts) := by
  have whole : trimSpace (join [10] texts) = joinSegments (trimEnds blank (segments (join [10] texts))) := rfl
  have bare : ∀ line ∈ texts.map segments, Bare blank line := by
    intro line member
    obtain ⟨text, inside, rfl⟩ := List.mem_map.mp member
    rw [← trimmed text inside, segments_trimSpace]
    exact trimEnds_bare _ _
  have empty : List.isEmpty ∘ segments = List.isEmpty := by
    funext text
    cases text <;> rfl
  rw [whole, segments_join, trimEnds_intercalate rfl bare, trimEnds_map, empty, ← segments_join, joinSegments_segments]

private theorem normalizeExactOutput_eq (value : GoString) : normalizeExactOutput value = join [10] (outputLines value) := by
  unfold normalizeExactOutput
  rw [split_lines]
  apply trimSpace_join
  intro line member
  obtain ⟨text, -, rfl⟩ := List.mem_map.mp member
  exact trimSpace_trimSpace text

/-! ### Reading the lines back -/

/-- The text is part of one line. -/
def OneLine (text : GoString) : Prop := ∀ byte ∈ text, byte ≠ 13 ∧ byte ≠ 10

private theorem lines_append (one : OneLine line) (rest : GoString) : lines (line ++ rest) = (lines rest).modifyHead
    (line ++ ·) := by
  induction line with
  | nil => exact (congrFun List.modifyHead_id (lines rest)).symm
  | cons byte more ih =>
    obtain ⟨⟨carriage, feed⟩, others⟩ := List.forall_mem_cons.mp one
    rw [List.cons_append, lines, ih others, if_neg (by simp [carriage, feed]), List.modifyHead_modifyHead]
    · rfl
    · exact fun _ same => absurd same carriage

/-- The line endings: CR LF, CR and LF. -/
def lineEndings : List GoString := [[13, 10], [13], [10]]

/-- A CR that an LF follows would be read as one ending with it. -/
theorem lines_ending (ending : style ∈ lineEndings) (other : style = [13] → rest.head? ≠ some 10) :
    lines (style ++ rest) = [] :: lines rest := by
  simp only [lineEndings, List.mem_cons, List.not_mem_nil, or_false] at ending
  obtain rfl | rfl | rfl := ending
  · rfl
  · rw [List.singleton_append, lines]
    · rfl
    · rintro more - rfl
      exact other rfl rfl
  · rw [List.singleton_append, lines]
    · rfl
    · simp

private theorem lines_join (ending : style ∈ lineEndings) (one : ∀ text ∈ texts, OneLine text) (nonempty : texts ≠ []) :
    lines (join style texts) = texts := by
  unfold join
  induction texts with
  | nil => cases nonempty rfl
  | cons text rest ih =>
    obtain ⟨own, others⟩ := List.forall_mem_cons.mp one
    cases rest with
    | nil => simpa [lines] using lines_append own []
    | cons next rest =>
      have other : style = [13] → (style.intercalate (next :: rest)).head? ≠ some 10 := by
        rintro rfl
        cases next with
        | nil => cases rest <;> simp
        | cons byte more =>
          have plain := (others (byte :: more) List.mem_cons_self byte List.mem_cons_self).2
          cases rest <;> simpa using plain
      rw [List.intercalate_cons_cons, List.append_assoc, lines_append own, lines_ending ending other, ih others (by simp)]
      simp

private theorem lines_oneLine (value : GoString) : ∀ line ∈ lines value, OneLine line := by
  fun_induction lines value with
  | case1 => simp [OneLine]
  | case2 rest ih => simpa [OneLine] using ih
  | case3 byte rest _ _ ih => simpa [OneLine] using ih
  | case4 byte rest _ other ih =>
    cases found : lines rest with
    | nil => simp
    | cons first more =>
      rw [found] at ih
      obtain ⟨own, others⟩ := List.forall_mem_cons.mp ih
      exact List.forall_mem_cons.mpr ⟨List.forall_mem_cons.mpr ⟨not_or.mp other, own⟩, others⟩

private theorem trimSpace_oneLine (one : OneLine text) : OneLine (trimSpace text) := by
  intro byte member
  apply one
  rw [← joinSegments_segments text, trimEnds_frame blank (segments text), joinSegments_append, joinSegments_append]
  exact List.mem_append_left _ (List.mem_append_right _ member)

private theorem outputLines_normalizeExactOutput (value : GoString) : outputLines
    (normalizeExactOutput value) = outputLines value := by
  have bare : Bare List.isEmpty (outputLines value) := trimEnds_bare _ _
  have kept : ∀ line ∈ outputLines value, trimSpace line = line ∧ OneLine line := by
    intro line member
    have among : line ∈ (lines value).map trimSpace := by
      rw [trimEnds_frame List.isEmpty ((lines value).map trimSpace)]
      exact List.mem_append_left _ (List.mem_append_right _ member)
    obtain ⟨text, inside, rfl⟩ := List.mem_map.mp among
    exact ⟨trimSpace_trimSpace text, trimSpace_oneLine (lines_oneLine value text inside)⟩
  rw [normalizeExactOutput_eq]
  rcases eq_or_ne (outputLines value) [] with none | some
  · rw [none]
    rfl
  · have same : (outputLines value).map trimSpace = outputLines value :=
      (List.map_congr_left fun line member => (kept line member).1).trans (List.map_id _)
    rw [outputLines, lines_join (by decide) (fun line member => (kept line member).2) some, same, bare.trimEnds]

private theorem normalizeExactOutput_iff :
    normalizeExactOutput actual = normalizeExactOutput expected ↔ outputLines actual = outputLines expected := by
  constructor
  · intro same
    rw [← outputLines_normalizeExactOutput actual, same, outputLines_normalizeExactOutput]
  · intro same
    rw [normalizeExactOutput_eq, same, normalizeExactOutput_eq]

private theorem outputsMatch_iff :
    outputsMatch .exact actual expected = true ↔ outputLines actual = outputLines expected := by
  rw [← normalizeExactOutput_iff]
  simp [outputsMatch]

theorem exact_outputs_by_lines :
    (∀ actual expected, outputsMatch .exact actual expected = true ↔ outputLines actual = outputLines expected) ∧
    (∀ value, normalizeExactOutput (normalizeExactOutput value) = normalizeExactOutput value) ∧
    (Equivalence fun actual expected => outputsMatch .exact actual expected = true) ∧
    (∀ actual expected, outputsMatch .exact actual expected = true ↔ ∃ content,
      Surrounded List.isEmpty content ((lines actual).map trimSpace) ∧
      Surrounded List.isEmpty content ((lines expected).map trimSpace)) ∧
    (∀ style ∈ lineEndings, ∀ other ∈ lineEndings, ∀ texts, (∀ text ∈ texts, OneLine text) →
      outputsMatch .exact (join style texts) (join other texts) = true) := by
  refine ⟨fun _ _ => outputsMatch_iff, ?_, ⟨?_, ?_, ?_⟩, ?_, ?_⟩
  · intro value
    rw [normalizeExactOutput_iff, outputLines_normalizeExactOutput]
  · exact fun value => outputsMatch_iff.mpr rfl
  · exact fun same => outputsMatch_iff.mpr (outputsMatch_iff.mp same).symm
  · exact fun first second => outputsMatch_iff.mpr ((outputsMatch_iff.mp first).trans (outputsMatch_iff.mp second))
  · intro actual expected
    rw [outputsMatch_iff]
    constructor
    · intro same
      exact ⟨outputLines actual, trimEnds_surrounded _ _, same ▸ trimEnds_surrounded _ _⟩
    · rintro ⟨content, left, right⟩
      exact left.trimEnds.trans right.trimEnds.symm
  · intro style ending other alike texts one
    rw [outputsMatch_iff]
    rcases eq_or_ne texts [] with rfl | some
    · rfl
    · rw [outputLines, outputLines, lines_join ending one some, lines_join alike one some]

end JudgingServer.Proofs
