import JudgingServer.Proofs.Text
import Mathlib.Tactic.IntervalCases

/-! A JSON value that `marshal` prints is read back by `parseValue`, with a replacement rune for each
stray byte of its strings, as long as its nesting stays below the limit of the scanner. -/

namespace JudgingServer.Proofs
open Go Go.Json

variable {value : Json} {pieces : List Segment} {segment : Segment} {rune : Nat}

/-! ### Numbers -/

private theorem lit_ofList (chars : List Char) : lit (String.ofList chars) = chars.flatMap String.utf8EncodeChar := by
  unfold lit
  simp [List.utf8Encode]

private theorem lit_append (first second : String) : lit (first ++ second) = lit first ++ lit second := by
  unfold lit
  simp

def decimal (n : Nat) : Bytes := (Nat.toDigits 10 n).flatMap String.utf8EncodeChar

theorem formatInt_natCast (n : Nat) : formatInt n = decimal n := by
  have text : toString (n : Int) = String.ofList (Nat.toDigits 10 n) := Nat.toString_eq_ofList_toDigits
  unfold formatInt
  rw [text]
  exact lit_ofList _

theorem formatInt_negSucc (n : Nat) : formatInt (Int.negSucc n) = 45 :: decimal (n + 1) := by
  have text : toString (Int.negSucc n) = "-" ++ String.ofList (Nat.toDigits 10 (n + 1)) := by
    rw [← Nat.toString_eq_ofList_toDigits]
    rfl
  unfold formatInt
  rw [text, lit_append, lit_ofList (Nat.toDigits 10 (n + 1))]
  rfl

private theorem decimal_digit (small : d < 10) : decimal d = [(48 + d).toUInt8] := by
  unfold decimal
  rw [Nat.toDigits_of_lt_base small]
  interval_cases d <;> rfl

private theorem decimal_step (large : 10 ≤ n) : decimal n = decimal (n / 10) ++ decimal (n % 10) := by
  unfold decimal
  rw [Nat.toDigits_of_base_le (by omega) large, Nat.toDigits_of_lt_base (Nat.mod_lt n (by omega))]
  exact List.flatMap_append

private theorem decimal_ne_nil (n : Nat) : decimal n ≠ [] := by
  by_cases small : n < 10
  · simp [decimal_digit small]
  · rw [decimal_step (by omega), decimal_digit (Nat.mod_lt n (by omega))]
    simp

theorem decimal_isDigit (n : Nat) : ∀ byte ∈ decimal n, isDigit byte = true := by
  induction n using Nat.strong_induction_on with
  | h n ih =>
    have last : ∀ d < 10, isDigit (48 + d).toUInt8 = true := by decide
    by_cases small : n < 10
    · simpa [decimal_digit small] using last n small
    · have tail := Nat.mod_lt n (show 0 < 10 by omega)
      rw [decimal_step (by omega), decimal_digit tail]
      intro byte member
      cases List.mem_append.mp member with
      | inl front => exact ih (n / 10) (by omega) byte front
      | inr back =>
        rw [List.mem_singleton.mp back]
        exact last _ tail

theorem digitsValue_decimal (n : Nat) : digitsValue (decimal n) = n := by
  induction n using Nat.strong_induction_on with
  | h n ih =>
    have last : ∀ d < 10, (48 + d).toUInt8.toNat - 48 = d := by decide
    by_cases small : n < 10
    · rw [decimal_digit small]
      simpa [digitsValue] using last n small
    · have tail := Nat.mod_lt n (show 0 < 10 by omega)
      have front := ih (n / 10) (by omega)
      unfold digitsValue at front ⊢
      rw [decimal_step (by omega), decimal_digit tail, List.foldl_append, front, List.foldl_cons, List.foldl_nil, last _ tail]
      omega

/-- Only zero is written with a leading zero. -/
theorem decimal_leading (leading : decimal n = 48 :: more) : more = [] := by
  induction n using Nat.strong_induction_on generalizing more with
  | h n ih =>
    by_cases small : n < 10
    · rw [decimal_digit small] at leading
      exact (List.cons.inj leading).2.symm
    · rw [decimal_step (by omega)] at leading
      cases front : decimal (n / 10) with
      | nil => exact absurd front (decimal_ne_nil _)
      | cons first rest =>
        rw [front, List.cons_append] at leading
        obtain ⟨rfl, -⟩ := List.cons.inj leading
        have value := digitsValue_decimal (n / 10)
        rw [front, ih (n / 10) (by omega) front] at value
        have zero : n / 10 = 0 := value.symm
        omega

def EndsNumber (rest : Bytes) : Prop := ∀ byte ∈ rest.head?, isDigit byte = false ∧ byte ≠ 46 ∧ byte ≠ 101 ∧ byte ≠ 69

theorem digits_append (digit : ∀ byte ∈ text, isDigit byte = true) (ends : EndsNumber rest) :
    digits (text ++ rest) = (text, rest) := by
  unfold digits
  rw [List.takeWhile_append_of_pos digit, List.dropWhile_append_of_pos digit]
  cases rest with
  | nil => simp
  | cons byte rest =>
    have stop := (ends byte rfl).1
    rw [List.takeWhile_cons_of_neg (by simp [stop]), List.dropWhile_cons_of_neg (by simp [stop]), List.append_nil]

private theorem parseWhole_decimal (n : Nat) (ends : EndsNumber rest) : parseWhole (decimal n ++ rest) = some
    (decimal n, rest) := by
  unfold parseWhole
  rw [digits_append (decimal_isDigit n) ends]
  split
  next empty => exact absurd (Prod.mk.inj empty).1 (decimal_ne_nil n)
  next second more after whole =>
    have leading := decimal_leading (Prod.mk.inj whole).1
    cases leading
  next whole after _ _ same =>
    obtain ⟨rfl, rfl⟩ := Prod.mk.inj same
    rfl

private theorem parseFraction_ends (ends : EndsNumber rest) : parseFraction rest = some ([], rest) := by
  unfold parseFraction
  split
  next tail => exact absurd rfl (ends 46 rfl).2.1
  next => rfl

private theorem parseExponent_ends (ends : EndsNumber rest) : parseExponent rest = some ([], rest) := by
  cases rest with
  | nil => rfl
  | cons mark tail =>
    obtain ⟨-, -, lower, upper⟩ := ends mark rfl
    simp [parseExponent, lower, upper]

/-- A digit is none of the bytes that JSON texts start with otherwise. -/
theorem decimal_first (n : Nat) : ∃ first more, decimal n = first :: more ∧ isDigit first = true := by
  cases text : decimal n with
  | nil => exact absurd text (decimal_ne_nil n)
  | cons first more => exact ⟨first, more, rfl, decimal_isDigit n first (by rw [text]; exact List.mem_cons_self)⟩

private theorem parseNumber_decimal (n : Nat) (ends : EndsNumber rest) : parseNumber (decimal n ++ rest) = some
    (.int n, rest) := by
  have whole := parseWhole_decimal n ends
  have value := digitsValue_decimal n
  obtain ⟨first, more, text, digit⟩ := decimal_first n
  have unsigned : first ≠ 45 := by
    rintro rfl
    exact absurd digit (by decide)
  rw [text] at whole value ⊢
  rw [List.cons_append] at whole ⊢
  simp [parseNumber, unsigned, whole, parseFraction_ends ends, parseExponent_ends ends, value]

private theorem parseNumber_formatInt (value : Int) (ends : EndsNumber rest) :
    parseNumber (formatInt value ++ rest) = some (.int value, rest) := by
  cases value with
  | ofNat n =>
    rw [Int.ofNat_eq_natCast, formatInt_natCast]
    exact parseNumber_decimal n ends
  | negSucc n =>
    rw [formatInt_negSucc, List.cons_append]
    simp [parseNumber, parseWhole_decimal _ ends, parseFraction_ends ends, parseExponent_ends ends, digitsValue_decimal,
      Int.negSucc_eq]

/-! ### Strings -/

private theorem hexValue_hexDigit : ∀ digit < 16, hexValue (hexDigit digit) = some digit := by decide

private theorem hexQuad_digits (small : rune < 65536) (tail : Bytes) :
    hexQuad (hexDigit (rune / 4096 % 16) :: hexDigit (rune / 256 % 16) :: hexDigit (rune / 16 % 16) ::
      hexDigit (rune % 16) :: tail) = some (rune, tail) := by
  have value : rune / 4096 % 16 * 4096 + rune / 256 % 16 * 256 + rune / 16 % 16 * 16 + rune % 16 = rune := by omega
  simp only [hexQuad]
  rw [hexValue_hexDigit _ (by omega), hexValue_hexDigit _ (by omega), hexValue_hexDigit _ (by omega),
    hexValue_hexDigit _ (by omega)]
  exact congrArg (fun code => some (code, tail)) value

/-- A rune that was read is put in front of the rest of the text. -/
private def onto (rune : Rune) (read : GoString × Bytes) : GoString × Bytes := (encodeRune rune ++ read.1, read.2)

private theorem parseString_unicode (small : rune < 0xD800 ∨ rune = runeError) (fuel : Nat) (tail : Bytes) :
    parseString (fuel + 1) (escapeUnicode rune ++ tail) = (parseString fuel tail).map (onto rune) := by
  have escape : escapeUnicode rune ++ tail = 92 :: 117 :: hexDigit (rune / 4096 % 16) :: hexDigit (rune / 256 % 16) ::
      hexDigit (rune / 16 % 16) :: hexDigit (rune % 16) :: tail := rfl
  unfold runeError at small
  have plain : unescape rune tail = (rune, tail) := by
    unfold unescape
    rw [if_neg]
    simp only [isSurrogate, Bool.and_eq_true, decide_eq_true_eq]
    omega
  rw [escape, parseString]
  simp only [hexQuad_digits (show rune < 65536 by omega) tail]
  rw [if_neg (by decide), if_pos trivial]
  simp only [Option.bind_eq_bind, Option.bind_some, plain]
  cases parseString fuel tail <;> rfl

private theorem encodeRune_ascii (ascii : rune < 0x80) : encodeRune rune = [rune.toUInt8] := if_pos ascii

private theorem encodeRune_wide (scalar : Scalar rune) (wide : 0x80 ≤ rune) :
    ∃ first more, encodeRune rune = first :: more ∧ 0x80 ≤ first.toNat := by
  obtain ⟨first, more, text⟩ := encodeRune_cons rune
  refine ⟨first, more, text, ?_⟩
  by_contra ascii
  have decoded := decodeRune_encodeRune scalar []
  rw [text, List.cons_append, decodeRune_ascii (Nat.lt_of_not_le ascii)] at decoded
  have same : first.toNat = rune := congrArg Prod.fst decoded
  omega

private theorem parseString_raw (scalar : Scalar rune) (printed : 0x20 ≤ rune ∧ rune ≠ 34 ∧ rune ≠ 92) (fuel : Nat)
    (tail : Bytes) :
    parseString (fuel + 1) (encodeRune rune ++ tail) = (parseString fuel tail).map (onto rune) := by
  have decoded := decodeRune_encodeRune scalar tail
  obtain ⟨first, more, text, plain⟩ :
      ∃ first more, encodeRune rune = first :: more ∧ first ≠ 34 ∧ first ≠ 92 ∧ ¬ first < 0x20 := by
    by_cases wide : 0x80 ≤ rune
    · obtain ⟨first, more, text, high⟩ := encodeRune_wide scalar wide
      refine ⟨first, more, text, ?_, ?_, ?_⟩
      · rintro rfl
        exact absurd high (by decide)
      · rintro rfl
        exact absurd high (by decide)
      · intro low
        have := UInt8.lt_iff_toNat_lt.mp low
        exact absurd (Nat.le_trans high (Nat.le_of_lt this)) (by decide)
    · have ascii : ∀ code < 0x80, 0x20 ≤ code ∧ code ≠ 34 ∧ code ≠ 92 →
          code.toUInt8 ≠ 34 ∧ code.toUInt8 ≠ 92 ∧ ¬ code.toUInt8 < 0x20 := by decide
      exact ⟨_, _, encodeRune_ascii (by omega), ascii rune (by omega) printed⟩
  rw [text, List.cons_append] at decoded ⊢
  rw [parseString.eq_def]
  simp only [if_neg plain.1, if_neg plain.2.1, if_neg plain.2.2, decoded]
  have after : (first :: (more ++ tail)).drop (first :: more).length = tail := by simp
  rw [after]
  unfold onto
  rw [text]
  cases parseString fuel tail <;> rfl

private theorem parseString_short
    (known : (letter, rune) ∈ [((34 : UInt8), 34), (92, 92), (98, 8), (102, 12), (110, 10), (114, 13), (116, 9)]) (fuel : Nat)
    (tail : Bytes) : parseString (fuel + 1) (92 :: letter :: tail) = (parseString fuel tail).map (onto rune) := by
  simp only [List.mem_cons, List.not_mem_nil, Prod.mk.injEq, or_false] at known
  obtain ⟨rfl, rfl⟩ | ⟨rfl, rfl⟩ | ⟨rfl, rfl⟩ | ⟨rfl, rfl⟩ | ⟨rfl, rfl⟩ | ⟨rfl, rfl⟩ | ⟨rfl, rfl⟩ := known <;>
    (cases read : parseString fuel tail <;> simp [parseString, encodeRune, onto, read])

private theorem parseString_sound (scalar : Scalar rune) (fuel : Nat) (tail : Bytes) :
    parseString (fuel + 1) (escapeSegment ⟨rune, encodeRune rune⟩ ++ tail) = (parseString fuel tail).map (onto rune) := by
  have whole : (rune == runeError && (encodeRune rune).length == 1) = false := by
    by_cases replaced : rune = 0xFFFD
    · subst replaced
      rfl
    · simp [runeError, replaced]
  unfold escapeSegment
  simp only [whole, Bool.false_eq_true, if_false]
  split_ifs with separator quoted bell feed line carriage tab control
  · have code : rune = 0x2028 ∨ rune = 0x2029 := by simpa using separator
    exact parseString_unicode (.inl (by omega)) fuel tail
  · have code : rune = 34 ∨ rune = 92 := by simpa using quoted
    obtain rfl | rfl := code
    · exact parseString_short (by decide) fuel tail
    · exact parseString_short (by decide) fuel tail
  · cases beq_iff_eq.mp bell
    exact parseString_short (by decide) fuel tail
  · cases beq_iff_eq.mp feed
    exact parseString_short (by decide) fuel tail
  · cases beq_iff_eq.mp line
    exact parseString_short (by decide) fuel tail
  · cases beq_iff_eq.mp carriage
    exact parseString_short (by decide) fuel tail
  · cases beq_iff_eq.mp tab
    exact parseString_short (by decide) fuel tail
  · have code : ((rune < 0x20 ∨ rune = 60) ∨ rune = 62) ∨ rune = 38 := by simpa using control
    exact parseString_unicode (.inl (by omega)) fuel tail
  · have code : ¬ (rune = 34 ∨ rune = 92) := by simpa using quoted
    have printed : ¬ (((rune < 0x20 ∨ rune = 60) ∨ rune = 62) ∨ rune = 38) := by
      intro escaped
      apply control
      simpa using escaped
    exact parseString_raw scalar (by omega) fuel tail

private theorem parseString_escapeSegment (member : segment ∈ segments text) (fuel : Nat) (tail : Bytes) :
    parseString (fuel + 1) (escapeSegment segment ++ tail) = (parseString fuel tail).map (onto segment.rune) := by
  obtain ⟨rune, bytes⟩ := segment
  obtain ⟨stray, single⟩ | ⟨scalar, encoded⟩ := segments_cases member
  · have escaped : escapeSegment ⟨rune, bytes⟩ = escapeUnicode runeError := by
      unfold escapeSegment
      rw [if_pos (by simp_all)]
      decide +kernel
    rw [escaped, show rune = runeError from stray]
    exact parseString_unicode (.inr rfl) fuel tail
  · dsimp only at encoded
    subst encoded
    exact parseString_sound scalar fuel tail

private theorem escapeSegment_length (member : segment ∈ segments text) :
    1 ≤ (escapeSegment segment).length ∧ (escapeSegment segment).length ≤ 6 * segment.bytes.length := by
  have some := segments_nonempty member
  have wide : ∀ rune, (escapeUnicode rune).length = 6 := fun _ => rfl
  have short : ∀ text ∈ [lit "\\b", lit "\\f", lit "\\n", lit "\\r", lit "\\t"], text.length = 2 := by decide +kernel
  have replaced : (lit "\\ufffd").length = 6 := by decide +kernel
  simp only [List.forall_mem_cons] at short
  unfold escapeSegment
  split_ifs
  all_goals first | omega | simp only [wide, List.length_cons]; omega

section

variable (inside : ∀ segment ∈ pieces, segment ∈ segments text)
include inside

private theorem parseString_pieces (enough : pieces.length < fuel) (rest : Bytes) :
    parseString fuel ((pieces.map escapeSegment).flatten ++ 34 :: rest) =
      some ((pieces.map fun segment => encodeRune segment.rune).flatten, rest) := by
  obtain ⟨fuel, rfl⟩ : ∃ more, fuel = more + 1 := ⟨fuel - 1, by omega⟩
  induction pieces generalizing fuel with
  | nil => rfl
  | cons segment pieces ih =>
    obtain ⟨member, inside⟩ := List.forall_mem_cons.mp inside
    rw [List.length_cons] at enough
    obtain ⟨fuel, rfl⟩ : ∃ more, fuel = more + 1 := ⟨fuel - 1, by omega⟩
    have tail := ih inside fuel (by omega)
    rw [List.map_cons, List.flatten_cons, List.append_assoc, parseString_escapeSegment member, tail]
    rfl

private theorem escaped_length :
    pieces.length ≤ (pieces.map escapeSegment).flatten.length ∧
      (pieces.map escapeSegment).flatten.length ≤ 6 * (joinSegments pieces).length := by
  induction pieces with
  | nil => exact ⟨Nat.le_refl _, Nat.le_refl _⟩
  | cons segment pieces ih =>
    obtain ⟨member, inside⟩ := List.forall_mem_cons.mp inside
    have rest := ih inside
    have first := escapeSegment_length member
    simp only [joinSegments, List.map_cons, List.flatten_cons, List.length_append, List.length_cons] at rest ⊢
    omega

end

private theorem parseString_quote (text : GoString) (rest : Bytes) :
    ∃ body, quote text ++ rest = 34 :: body ∧ parseString (body.length + 1) body = some (replaceInvalid text, rest) := by
  refine ⟨((segments text).map escapeSegment).flatten ++ 34 :: rest, by simp [quote], ?_⟩
  have long := (escaped_length (fun _ member => member : ∀ segment ∈ segments text, segment ∈ segments text)).1
  rw [parseString_pieces (fun _ member => member)]
  · rfl
  · rw [List.length_append]
    omega

theorem quote_length_le (text : GoString) : (quote text).length ≤ 6 * text.length + 2 := by
  have escaped := (escaped_length (fun _ member => member : ∀ segment ∈ segments text, segment ∈ segments text)).2
  rw [joinSegments_segments] at escaped
  rw [quote, List.length_append, List.length_cons, List.length_singleton]
  omega

/-! ### Values -/

-- The value is read back when printed at a place with so many levels of nesting left.
mutual
def Printable : Nat → Json → Prop
  | _, .number _ => False
  | room, .array items => 0 < room ∧ PrintableItems (room - 1) items
  | room, .object members => 0 < room ∧ PrintableMembers (room - 1) members
  | _, _ => True

def PrintableItems : Nat → List Json → Prop
  | _, [] => True
  | room, item :: items => Printable room item ∧ PrintableItems room items

def PrintableMembers : Nat → List (GoString × Json) → Prop
  | _, [] => True
  | room, (_, value) :: members => Printable room value ∧ PrintableMembers room members
end

-- What a printed value is read back as.
mutual
def replaced : Json → Json
  | .string text => .string (replaceInvalid text)
  | .array items => .array (replacedItems items)
  | .object members => .object (replacedMembers members)
  | value => value

def replacedItems : List Json → List Json
  | [] => []
  | item :: items => replaced item :: replacedItems items

def replacedMembers : List (GoString × Json) → List (GoString × Json)
  | [] => []
  | (name, value) :: members => (replaceInvalid name, replaced value) :: replacedMembers members
end

private theorem formatInt_first (value : Int) : ∃ first more, formatInt value = first :: more ∧
    (first = 45 ∨ isDigit first = true) := by
  cases value with
  | ofNat n =>
    obtain ⟨first, more, text, digit⟩ := decimal_first n
    exact ⟨first, more, (formatInt_natCast n).trans text, .inr digit⟩
  | negSucc n => exact ⟨45, decimal (n + 1), formatInt_negSucc n, .inl rfl⟩

private theorem numeral_first (numeral : byte = 45 ∨ isDigit byte = true) :
    byte ∉ [(9 : UInt8), 10, 13, 32, 34, 91, 93, 102, 110, 116, 123] := by
  intro other
  have none : ∀ known ∈ [(9 : UInt8), 10, 13, 32, 34, 91, 93, 102, 110, 116, 123], known ≠ 45 ∧ isDigit known = false := by decide +kernel
  obtain ⟨sign, digit⟩ := none byte other
  cases numeral with
  | inl same => exact sign same
  | inr same => exact absurd (same.symm.trans digit) (by decide)

private theorem marshal_first (printable : Printable room value) :
    ∃ first more, marshal value = first :: more ∧ isBlank first = false ∧ first ≠ 93 := by
  cases value with
  | null => exact ⟨_, _, rfl, by decide, by decide⟩
  | bool flag => cases flag <;> exact ⟨_, _, rfl, by decide, by decide⟩
  | int value =>
    obtain ⟨first, more, text, digit⟩ := formatInt_first value
    refine ⟨first, more, text, ?_⟩
    have other := numeral_first digit
    simp only [List.mem_cons, List.not_mem_nil, or_false, not_or] at other
    simp [isBlank, other]
  | number text => simp [Printable] at printable
  | string text => exact ⟨_, _, rfl, by decide, by decide⟩
  | array items => exact ⟨_, _, by rw [marshal]; rfl, by decide, by decide⟩
  | object members => exact ⟨_, _, by rw [marshal]; rfl, by decide, by decide⟩

private theorem skipBlank_first (first : UInt8) (visible : isBlank first = false) (rest : Bytes) :
    skipBlank (first :: rest) = first :: rest := by
  unfold skipBlank
  rw [List.dropWhile_cons_of_neg (by simp [visible])]

/-- What the parser makes of printed values, items and members under some fuel. -/
structure ReadsBack (fuel : Nat) : Prop where
  value : ∀ value depth rest, Printable (maxDepth - depth) value → (marshal value).length ≤ fuel → EndsNumber rest →
    parseValue fuel depth (marshal value ++ rest) = some (replaced value, rest)
  items : ∀ items depth rest, items ≠ [] → PrintableItems (maxDepth - depth) items → (marshalItems items).length < fuel →
    parseItems fuel depth (marshalItems items ++ 93 :: rest) = some (replacedItems items, rest)
  members : ∀ members depth rest, members ≠ [] → PrintableMembers (maxDepth - depth) members →
    (marshalMembers members).length < fuel →
    parseMembers fuel depth (marshalMembers members ++ 125 :: rest) = some (replacedMembers members, rest)

private theorem marshalItems_first (printable : Printable room item) (items : List Json) :
    ∃ first more, marshalItems (item :: items) = first :: more ∧ isBlank first = false ∧ first ≠ 93 := by
  obtain ⟨first, more, printed, visible⟩ := marshal_first printable
  cases items with
  | nil => exact ⟨first, more, by rw [marshalItems, printed], visible⟩
  | cons next items => exact ⟨first, _, by rw [marshalItems, printed, List.cons_append], visible⟩

private theorem marshalMembers_first (member : GoString × Json) (members : List (GoString × Json)) :
    ∃ more, marshalMembers (member :: members) = 34 :: more := by
  obtain ⟨name, value⟩ := member
  cases members with
  | nil => exact ⟨_, by rw [marshalMembers, quote, List.cons_append, List.cons_append]⟩
  | cons next members => exact ⟨_, by rw [marshalMembers, quote, List.cons_append, List.cons_append, List.cons_append]⟩

private theorem readsBack_value (reads : ReadsBack fuel) (value : Json) (depth : Nat) (rest : Bytes)
    (printable : Printable (maxDepth - depth) value) (enough : (marshal value).length ≤ fuel + 1) (ends : EndsNumber rest) :
    parseValue (fuel + 1) depth (marshal value ++ rest) = some (replaced value, rest) := by
  obtain ⟨first, more, printed, visible, -⟩ := marshal_first printable
  have start : skipBlank (marshal value ++ rest) = marshal value ++ rest := by
    rw [printed, List.cons_append]
    exact skipBlank_first first visible _
  rw [parseValue.eq_def]
  simp only [start]
  cases value with
  | null => rfl
  | bool flag => cases flag <;> rfl
  | int value =>
    have number := parseNumber_formatInt value ends
    obtain ⟨first, more, text, numeral⟩ := formatInt_first value
    have other := numeral_first numeral
    simp only [List.mem_cons, List.not_mem_nil, or_false, not_or] at other
    rw [marshal]
    rw [text, List.cons_append] at number ⊢
    simp [other, number, replaced]
  | number text => simp [Printable] at printable
  | string text =>
    obtain ⟨body, quoted, read⟩ := parseString_quote text rest
    rw [marshal, quoted]
    simp [read, replaced]
  | array items =>
    rw [marshal] at enough ⊢
    obtain ⟨room, printable⟩ := printable
    have within : ¬ maxDepth ≤ depth := by omega
    simp only [List.cons_append, if_neg within]
    cases items with
    | nil => rfl
    | cons item items =>
      have read := reads.items (item :: items) (depth + 1) rest (List.cons_ne_nil _ _) (by rwa [Nat.sub_add_eq])
        (by simp at enough; omega)
      obtain ⟨first, more, printed, visible, opens⟩ := marshalItems_first printable.1 items
      rw [List.append_assoc, List.singleton_append]
      rw [printed, List.cons_append] at read ⊢
      simp [skipBlank_first first visible, opens, read, replaced]
  | object members =>
    rw [marshal] at enough ⊢
    obtain ⟨room, printable⟩ := printable
    have within : ¬ maxDepth ≤ depth := by omega
    simp only [List.cons_append, if_neg within]
    cases members with
    | nil => rfl
    | cons member members =>
      have read := reads.members (member :: members) (depth + 1) rest (List.cons_ne_nil _ _) (by rwa [Nat.sub_add_eq])
        (by simp at enough; omega)
      obtain ⟨more, printed⟩ := marshalMembers_first member members
      rw [List.append_assoc, List.singleton_append]
      rw [printed, List.cons_append] at read ⊢
      simp [skipBlank_first 34 (by decide), read, replaced]

theorem endsNumber_of (ends : isDigit byte = false ∧ byte ≠ 46 ∧ byte ≠ 101 ∧ byte ≠ 69) (rest : Bytes) :
    EndsNumber (byte :: rest) := by
  intro other same
  cases same
  exact ends

private theorem readsBack_items (reads : ReadsBack fuel) (items : List Json) (depth : Nat) (rest : Bytes) (nonempty : items ≠ [])
    (printable : PrintableItems (maxDepth - depth) items) (enough : (marshalItems items).length < fuel + 1) :
    parseItems (fuel + 1) depth (marshalItems items ++ 93 :: rest) = some (replacedItems items, rest) := by
  match items with
  | [] => exact absurd rfl nonempty
  | [item] =>
    rw [marshalItems] at enough ⊢
    have read := reads.value item depth (93 :: rest) printable.1 (by omega) (endsNumber_of (by decide) rest)
    rw [parseItems.eq_def]
    simp [read, skipBlank_first 93 (by decide), replacedItems]
  | item :: next :: items =>
    rw [marshalItems, List.length_append, List.length_cons] at enough
    rw [marshalItems, List.append_assoc, List.cons_append]
    obtain ⟨first, more, printed, -⟩ := marshal_first printable.1
    have long : 1 ≤ (marshal item).length := by simp [printed]
    have read := reads.value item depth (44 :: (marshalItems (next :: items) ++ 93 :: rest)) printable.1 (by omega)
      (endsNumber_of (by decide) _)
    have others := reads.items (next :: items) depth rest (List.cons_ne_nil _ _) printable.2 (by omega)
    rw [parseItems.eq_def]
    simp [read, others, skipBlank_first 44 (by decide), replacedItems]

private theorem readsBack_members (reads : ReadsBack fuel) (members : List (GoString × Json)) (depth : Nat) (rest : Bytes)
    (nonempty : members ≠ []) (printable : PrintableMembers (maxDepth - depth) members)
    (enough : (marshalMembers members).length < fuel + 1) :
    parseMembers (fuel + 1) depth (marshalMembers members ++ 125 :: rest) = some (replacedMembers members, rest) := by
  match members with
  | [] => exact absurd rfl nonempty
  | [(name, value)] =>
    rw [marshalMembers, List.length_append, List.length_cons] at enough
    rw [marshalMembers, List.append_assoc, List.cons_append]
    obtain ⟨body, quoted, named⟩ := parseString_quote name (58 :: (marshal value ++ 125 :: rest))
    have read := reads.value value depth (125 :: rest) printable.1 (by omega) (endsNumber_of (by decide) rest)
    rw [parseMembers.eq_def, quoted]
    simp [named, read, skipBlank_first 34 (by decide), skipBlank_first 58 (by decide),
      skipBlank_first 125 (by decide), replacedMembers]
  | (name, value) :: next :: members =>
    rw [marshalMembers] at enough
    simp only [List.length_append, List.length_cons] at enough
    have text : marshalMembers ((name, value) :: next :: members) ++ 125 :: rest =
        quote name ++ 58 :: (marshal value ++ 44 :: (marshalMembers (next :: members) ++ 125 :: rest)) := by
      simp [marshalMembers]
    obtain ⟨body, quoted, named⟩ :=
      parseString_quote name (58 :: (marshal value ++ 44 :: (marshalMembers (next :: members) ++ 125 :: rest)))
    have read := reads.value value depth (44 :: (marshalMembers (next :: members) ++ 125 :: rest)) printable.1 (by omega)
      (endsNumber_of (by decide) _)
    have others := reads.members (next :: members) depth rest (List.cons_ne_nil _ _) printable.2 (by omega)
    rw [parseMembers.eq_def, text, quoted]
    simp [named, read, others, skipBlank_first 34 (by decide), skipBlank_first 58 (by decide),
      skipBlank_first 44 (by decide), replacedMembers]

private theorem readsBack (fuel : Nat) : ReadsBack fuel := by
  induction fuel with
  | zero =>
    refine ⟨?_, fun _ _ _ _ _ none => absurd none (Nat.not_lt_zero _), fun _ _ _ _ _ none => absurd none (Nat.not_lt_zero _)⟩
    intro value depth rest printable none
    obtain ⟨first, more, printed, -⟩ := marshal_first printable
    rw [printed] at none
    exact absurd none (Nat.not_succ_le_zero _)
  | succ fuel reads => exact ⟨readsBack_value reads, readsBack_items reads, readsBack_members reads⟩

theorem parseValue_marshal (printable : Printable maxDepth value) :
    parseValue (2 * (marshal value).length + 2) 0 (marshal value) = some (replaced value, []) := by
  have read := (readsBack (2 * (marshal value).length + 2)).value value 0 [] printable (by omega) nofun
  rwa [List.append_nil] at read

/-- Values that are printed alike are the same, up to stray bytes. -/
theorem marshal_inj (leftPrintable : Printable maxDepth left) (rightPrintable : Printable maxDepth right)
    (same : marshal left = marshal right) : replaced left = replaced right := by
  have read := parseValue_marshal leftPrintable
  rw [same, parseValue_marshal rightPrintable] at read
  exact (congrArg Prod.fst (Option.some.inj read)).symm

/-! ### Lengths -/

private theorem decimal_length (positive : 0 < places) (small : n < 10 ^ places) : (decimal n).length ≤ places := by
  induction places generalizing n with
  | zero => omega
  | succ places ih =>
    by_cases digit : n < 10
    · rw [decimal_digit digit, List.length_singleton]
      omega
    · have more : 0 < places := by
        by_contra none
        obtain rfl : places = 0 := by omega
        omega
      have front : (decimal (n / 10)).length ≤ places := by
        apply ih more
        rw [Nat.div_lt_iff_lt_mul (by omega), ← Nat.pow_succ]
        exact small
      rw [decimal_step (by omega), List.length_append, decimal_digit (Nat.mod_lt n (by omega)), List.length_singleton]
      omega

theorem formatInt_length {value : Int} {places : Nat} (positive : 0 < places) (small : value.natAbs < 10 ^ places) :
    (formatInt value).length ≤ places + 1 := by
  cases value with
  | ofNat n =>
    rw [Int.ofNat_eq_natCast, formatInt_natCast]
    exact Nat.le_succ_of_le (decimal_length positive small)
  | negSucc n =>
    rw [formatInt_negSucc, List.length_cons]
    exact Nat.succ_le_succ (decimal_length positive small)

/-- What a member takes at most, with its colon and comma. -/
def memberLength (member : GoString × Json) : Nat := (6 * member.1.length + 2) + (marshal member.2).length + 2

theorem marshalMembers_length (members : List (GoString × Json)) : (marshalMembers members).length ≤ (members.map memberLength).sum := by
  induction members with
  | nil => simp [marshalMembers]
  | cons member members ih =>
    obtain ⟨name, value⟩ := member
    have named := quote_length_le name
    cases members with
    | nil =>
      simp only [marshalMembers, List.map_cons, List.map_nil, List.sum_cons, List.sum_nil, memberLength, List.length_append,
        List.length_cons]
      omega
    | cons next members =>
      rw [List.map_cons, List.sum_cons]
      simp only [marshalMembers, memberLength, List.length_append, List.length_cons] at ih ⊢
      omega

end JudgingServer.Proofs
