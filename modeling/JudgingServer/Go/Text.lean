import Mathlib.Algebra.Order.Ring.Int

/-! Go strings are byte sequences. The functions below follow the standard
library: ranging over a string decodes UTF-8 and yields one replacement rune for
each byte that does not start a well-formed sequence. -/

namespace JudgingServer.Go

abbrev Bytes := List UInt8

abbrev GoString := Bytes

/-- The bytes of a string literal of the source. -/
def lit (text : String) : GoString := text.toUTF8.data.toList

abbrev Rune := Nat

def runeError : Rune := 0xFFFD

def between (low high : Nat) (byte : UInt8) : Bool := decide (low ≤ byte.toNat) && decide (byte.toNat ≤ high)

/-- `utf8.DecodeRune`: the first rune and its width in bytes. -/
def decodeRune : Bytes → Rune × Nat
  | [] => (runeError, 0)
  | first :: rest =>
    let lead := first.toNat
    if lead < 0x80 then (lead, 1)
    else if lead < 0xC2 then (runeError, 1)
    else if lead < 0xE0 then
      match rest with
      | second :: _ =>
        if between 0x80 0xBF second then ((lead - 0xC0) * 64 + (second.toNat - 0x80), 2) else (runeError, 1)
      | _ => (runeError, 1)
    else if lead < 0xF0 then
      match rest with
      | second :: third :: _ =>
        if between (if lead = 0xE0 then 0xA0 else 0x80) (if lead = 0xED then 0x9F else 0xBF) second &&
            between 0x80 0xBF third then
          ((lead - 0xE0) * 4096 + (second.toNat - 0x80) * 64 + (third.toNat - 0x80), 3)
        else (runeError, 1)
      | _ => (runeError, 1)
    else if lead < 0xF5 then
      match rest with
      | second :: third :: fourth :: _ =>
        if between (if lead = 0xF0 then 0x90 else 0x80) (if lead = 0xF4 then 0x8F else 0xBF) second &&
            between 0x80 0xBF third && between 0x80 0xBF fourth then
          ((lead - 0xF0) * 262144 + (second.toNat - 0x80) * 4096 + (third.toNat - 0x80) * 64 +
            (fourth.toNat - 0x80), 4)
        else (runeError, 1)
      | _ => (runeError, 1)
    else (runeError, 1)

structure Segment where
  rune : Rune
  bytes : Bytes
deriving DecidableEq, Repr

-- `skip` counts the bytes that belong to the rune decoded last, so the recursion is on the bytes.
def segmentsFrom : Nat → Bytes → List Segment
  | _, [] => []
  | skip + 1, _ :: rest => segmentsFrom skip rest
  | 0, first :: rest =>
    let decoded := decodeRune (first :: rest)
    ⟨decoded.1, (first :: rest).take decoded.2⟩ :: segmentsFrom (decoded.2 - 1) rest

variable (text : GoString)

/-- The runes a `range` loop over the string visits, in order. -/
def segments : List Segment := segmentsFrom 0 text

/-- `utf8.ValidString`. -/
def validString : Bool :=
  (segments text).all fun segment => !(segment.rune == runeError && segment.bytes.length == 1)

/-- `unicode.IsSpace`. -/
def isSpace (rune : Rune) : Bool :=
  (decide (0x09 ≤ rune) && decide (rune ≤ 0x0D)) || rune == 0x20 || rune == 0x85 || rune == 0xA0 ||
  rune == 0x1680 || (decide (0x2000 ≤ rune) && decide (rune ≤ 0x200A)) || rune == 0x2028 ||
  rune == 0x2029 || rune == 0x202F || rune == 0x205F || rune == 0x3000

def joinSegments (pieces : List Segment) : GoString := (pieces.map Segment.bytes).flatten

/-- `strings.TrimSpace`. -/
def trimSpace : GoString :=
  let leading := (segments text).dropWhile fun segment => isSpace segment.rune
  joinSegments (leading.reverse.dropWhile fun segment => isSpace segment.rune).reverse

def fieldsFrom : List Segment → GoString → List GoString
  | [], token => if token.isEmpty then [] else [token]
  | segment :: rest, token =>
    if isSpace segment.rune then
      if token.isEmpty then fieldsFrom rest [] else token :: fieldsFrom rest []
    else fieldsFrom rest (token ++ segment.bytes)

/-- `strings.Fields`. -/
def fields : List GoString := fieldsFrom (segments text) []

/-- `strings.Split` at a one-byte separator. -/
def split (separator : UInt8) (text : GoString) : List GoString := text.splitOn separator

/-- `strings.Join`. -/
def join (separator : GoString) (parts : List GoString) : GoString := separator.intercalate parts

/-- `strings.ReplaceAll(text, "\r\n", "\n")`. -/
def replaceCRLF : GoString → GoString
  | 13 :: 10 :: rest => 10 :: replaceCRLF rest
  | byte :: rest => byte :: replaceCRLF rest
  | [] => []

/-- `strings.ReplaceAll(text, "\r", "\n")`. -/
def replaceCR : GoString := text.map fun byte => if byte = 13 then 10 else byte

/-- `utf8.AppendRune`, for the runes that decoding yields. -/
def encodeRune (rune : Rune) : Bytes :=
  if rune < 0x80 then [rune.toUInt8]
  else if rune < 0x800 then [(0xC0 + rune / 64).toUInt8, (0x80 + rune % 64).toUInt8]
  else if rune < 0x10000 then
    [(0xE0 + rune / 4096).toUInt8, (0x80 + rune / 64 % 64).toUInt8, (0x80 + rune % 64).toUInt8]
  else
    [(0xF0 + rune / 262144).toUInt8, (0x80 + rune / 4096 % 64).toUInt8, (0x80 + rune / 64 % 64).toUInt8,
      (0x80 + rune % 64).toUInt8]

/-- The text with a replacement rune for each byte that is not part of a
well-formed sequence, which is what a JSON document keeps of it. -/
def replaceInvalid : GoString := ((segments text).map fun segment => encodeRune segment.rune).flatten

/-- `utf16.RuneLen`, for the runes that decoding yields. -/
def utf16RuneLen (rune : Rune) : Nat := if rune < 0x10000 then 1 else 2

/-- `fmt.Sprintf("%d", value)`. -/
def formatInt (value : Int) : GoString := lit (toString value)

/-- A decimal number padded with zeros to a fixed width. -/
def formatPadded (width value : Nat) : GoString :=
  (List.range width).reverse.map fun place => (48 + value / 10 ^ place % 10).toUInt8

/-- `hex.EncodeToString`. -/
def hexDigit (digit : Nat) : UInt8 := if digit < 10 then (48 + digit).toUInt8 else (87 + digit).toUInt8

def encodeHex (data : Bytes) : GoString :=
  (data.map fun byte => [hexDigit (byte.toNat / 16), hexDigit (byte.toNat % 16)]).flatten

/-- `base32.StdEncoding` without padding, in lower case. -/
def base32Digit (digit : Nat) : UInt8 := if digit < 26 then (97 + digit).toUInt8 else (24 + digit).toUInt8

def bitsOf (byte : UInt8) : List Bool := (List.range 8).reverse.map fun place => byte.toNat.testBit place

def base32Groups : Nat → List Bool → List Nat
  | 0, _ => []
  | _ + 1, [] => []
  | fuel + 1, bits =>
    let group := (bits.take 5 ++ List.replicate (5 - bits.length) false).foldl (fun value bit => 2 * value + bit.toNat) 0
    group :: base32Groups fuel (bits.drop 5)

def encodeBase32Lower (data : Bytes) : GoString :=
  let bits := (data.map bitsOf).flatten
  (base32Groups bits.length bits).map base32Digit

def isLower (byte : UInt8) : Bool := between 97 122 byte

def isUpper (byte : UInt8) : Bool := between 65 90 byte

def isDigit (byte : UInt8) : Bool := between 48 57 byte

def isHexDigit (byte : UInt8) : Bool := isDigit byte || between 97 102 byte || between 65 70 byte

end JudgingServer.Go
