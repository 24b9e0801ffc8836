import JudgingServer.Go.Text

/-! JSON values as `encoding/json` prints and reads them. Integers are kept
exactly; a number with a fraction or an exponent keeps its text. -/

namespace JudgingServer.Go

inductive Json where
  | null
  | bool (value : Bool)
  | int (value : Int)
  | number (text : Bytes)
  | string (value : GoString)
  | array (items : List Json)
  | object (members : List (GoString × Json))
deriving Repr, Inhabited

variable (input : Bytes) (value : Json)

namespace Json

def escapeUnicode (rune : Rune) : Bytes :=
  lit "\\u" ++ [hexDigit (rune / 4096 % 16), hexDigit (rune / 256 % 16), hexDigit (rune / 16 % 16), hexDigit (rune % 16)]

/-- How one rune is printed inside a string, with HTML escaping on. -/
def escapeSegment (segment : Segment) : Bytes :=
  if segment.rune == runeError && segment.bytes.length == 1 then lit "\\ufffd"
  else if segment.rune == 0x2028 || segment.rune == 0x2029 then escapeUnicode segment.rune
  else if segment.rune == 34 || segment.rune == 92 then 92 :: segment.bytes
  else if segment.rune == 8 then lit "\\b"
  else if segment.rune == 12 then lit "\\f"
  else if segment.rune == 10 then lit "\\n"
  else if segment.rune == 13 then lit "\\r"
  else if segment.rune == 9 then lit "\\t"
  else if segment.rune < 0x20 || segment.rune == 60 || segment.rune == 62 || segment.rune == 38 then
    escapeUnicode segment.rune
  else segment.bytes

def quote (text : GoString) : Bytes := 34 :: ((segments text).map escapeSegment).flatten ++ [34]

-- `json.Marshal`.
mutual
def marshal : Json → Bytes
  | .null => lit "null"
  | .bool value => if value then lit "true" else lit "false"
  | .int value => formatInt value
  | .number text => text
  | .string value => quote value
  | .array items => 91 :: marshalItems items ++ [93]
  | .object members => 123 :: marshalMembers members ++ [125]

def marshalItems : List Json → Bytes
  | [] => []
  | [item] => marshal item
  | item :: next :: rest => marshal item ++ 44 :: marshalItems (next :: rest)

def marshalMembers : List (GoString × Json) → Bytes
  | [] => []
  | [(name, value)] => quote name ++ 58 :: marshal value
  | (name, value) :: next :: rest => quote name ++ 58 :: marshal value ++ 44 :: marshalMembers (next :: rest)
end

def isBlank (byte : UInt8) : Bool := byte == 32 || byte == 9 || byte == 10 || byte == 13

def skipBlank : Bytes := input.dropWhile isBlank

def hexValue (byte : UInt8) : Option Nat :=
  if isDigit byte then some (byte.toNat - 48)
  else if between 97 102 byte then some (byte.toNat - 87)
  else if between 65 70 byte then some (byte.toNat - 55)
  else none

/-- The four digits after `\u`. -/
def hexQuad : Bytes → Option (Nat × Bytes)
  | a :: b :: c :: d :: rest => do
    let a ← hexValue a
    let b ← hexValue b
    let c ← hexValue c
    let d ← hexValue d
    return (a * 4096 + b * 256 + c * 16 + d, rest)
  | _ => none

def isSurrogate (code : Nat) : Bool := decide (0xD800 ≤ code) && decide (code < 0xE000)

/-- The rune of a `\u` escape. A high and a low surrogate in a row form one
rune; any other surrogate is replaced. -/
def unescape (code : Nat) (rest : Bytes) : Rune × Bytes :=
  if isSurrogate code then
    match rest with
    | 92 :: 117 :: tail =>
      match hexQuad tail with
      | some (low, after) =>
        if code < 0xDC00 && 0xDC00 ≤ low && low < 0xE000 then
          ((code - 0xD800) * 1024 + (low - 0xDC00) + 0x10000, after)
        else (runeError, rest)
      | none => (runeError, rest)
    | _ => (runeError, rest)
  else (code, rest)

def parseString : Nat → Bytes → Option (GoString × Bytes)
  | 0, _ => none
  | _ + 1, [] => none
  | fuel + 1, first :: rest =>
    if first = 34 then some ([], rest)
    else if first = 92 then
      match rest with
      | 117 :: tail => do
        let (code, after) ← hexQuad tail
        let (rune, after) := unescape code after
        let (text, after) ← parseString fuel after
        return (encodeRune rune ++ text, after)
      | escaped :: tail => do
        let byte ← match escaped with
          | 34 => some 34
          | 92 => some 92
          | 47 => some 47
          | 98 => some 8
          | 102 => some 12
          | 110 => some 10
          | 114 => some 13
          | 116 => some 9
          | _ => none
        let (text, after) ← parseString fuel tail
        return (byte :: text, after)
      | [] => none
    else if first < 0x20 then none
    else
      let decoded := decodeRune (first :: rest)
      do
        let (text, after) ← parseString fuel ((first :: rest).drop decoded.2)
        return (encodeRune decoded.1 ++ text, after)

def digits : Bytes × Bytes := (input.takeWhile isDigit, input.dropWhile isDigit)

def digitsValue (text : Bytes) : Nat := text.foldl (fun value byte => 10 * value + (byte.toNat - 48)) 0

def parseWhole : Option (Bytes × Bytes) :=
  match digits input with
  | ([], _) => none
  | (48 :: second :: more, after) => some ([48], second :: more ++ after)
  | (whole, after) => some (whole, after)

def parseFraction : Option (Bytes × Bytes) :=
  match input with
  | 46 :: tail =>
    match digits tail with
    | ([], _) => none
    | (fraction, after) => some (46 :: fraction, after)
  | _ => some ([], input)

def parseExponent : Option (Bytes × Bytes) :=
  match input with
  | mark :: tail =>
    if mark = 101 || mark = 69 then
      let sign := tail.takeWhile fun byte => byte == 43 || byte == 45
      if 1 < sign.length then none
      else match digits (tail.drop sign.length) with
        | ([], _) => none
        | (exponent, after) => some (mark :: sign ++ exponent, after)
    else some ([], input)
  | [] => some ([], [])

def parseNumber : Option (Json × Bytes) := do
  let (negative, unsigned) := match input with
    | 45 :: tail => (true, tail)
    | _ => (false, input)
  let (whole, after) ← parseWhole unsigned
  let (fraction, after) ← parseFraction after
  let (exponent, after) ← parseExponent after
  let sign : Bytes := if negative then [45] else []
  if fraction.isEmpty && exponent.isEmpty then
    return (.int (if negative then -(digitsValue whole : Int) else digitsValue whole), after)
  else
    return (.number (sign ++ whole ++ fraction ++ exponent), after)

def expectWord (word : Bytes) (value : Json) (input : Bytes) : Option (Json × Bytes) :=
  if input.take word.length = word then some (value, input.drop word.length) else none

/-- The nesting at which the scanner gives up. -/
def maxDepth : Nat := 10000

-- Every recursive call consumes input, so twice the input's length is enough fuel.
mutual
def parseValue : Nat → Nat → Bytes → Option (Json × Bytes)
  | 0, _, _ => none
  | fuel + 1, depth, input =>
    match skipBlank input with
    | [] => none
    | 123 :: rest =>
      if maxDepth ≤ depth then none
      else match skipBlank rest with
        | 125 :: after => some (.object [], after)
        | body => do
          let (members, after) ← parseMembers fuel (depth + 1) body
          return (.object members, after)
    | 91 :: rest =>
      if maxDepth ≤ depth then none
      else match skipBlank rest with
        | 93 :: after => some (.array [], after)
        | body => do
          let (items, after) ← parseItems fuel (depth + 1) body
          return (.array items, after)
    | 34 :: rest => do
      let (text, after) ← parseString (rest.length + 1) rest
      return (.string text, after)
    | first :: rest =>
      if first = 116 then expectWord (lit "true") (.bool true) (first :: rest)
      else if first = 102 then expectWord (lit "false") (.bool false) (first :: rest)
      else if first = 110 then expectWord (lit "null") .null (first :: rest)
      else parseNumber (first :: rest)

def parseItems : Nat → Nat → Bytes → Option (List Json × Bytes)
  | 0, _, _ => none
  | fuel + 1, depth, input => do
    let (item, after) ← parseValue fuel depth input
    match skipBlank after with
    | 44 :: rest => do
      let (items, after) ← parseItems fuel depth rest
      return (item :: items, after)
    | 93 :: rest => return ([item], rest)
    | _ => none

def parseMembers : Nat → Nat → Bytes → Option (List (GoString × Json) × Bytes)
  | 0, _, _ => none
  | fuel + 1, depth, input =>
    match skipBlank input with
    | 34 :: body => do
      let (name, after) ← parseString (body.length + 1) body
      match skipBlank after with
      | 58 :: rest => do
        let (value, after) ← parseValue fuel depth rest
        match skipBlank after with
        | 44 :: rest => do
          let (members, after) ← parseMembers fuel depth rest
          return ((name, value) :: members, after)
        | 125 :: rest => return ([(name, value)], rest)
        | _ => none
      | _ => none
    | _ => none
end

/-- A text that holds exactly one JSON document: `Decode` followed by a second
`Decode` that reports the end of the input. -/
def parseDocument : Option Json := do
  let (value, after) ← parseValue (2 * input.length + 2) 0 input
  if (skipBlank after).isEmpty then some value else none

def foldSegment (segment : Segment) : Bytes :=
  if between 97 122 (segment.bytes.headD 0) && segment.rune < 0x80 then [(segment.rune - 32).toUInt8]
  else if segment.rune == 0x17F then [83]
  else if segment.rune == 0x212A then [75]
  else segment.bytes

/-- Object keys name struct fields up to case. -/
def foldName (name : GoString) : GoString := ((segments name).map foldSegment).flatten

structure Field (σ : Type) where
  name : GoString
  decode : Json → σ → Option σ

def findField {σ : Type} (fields : List (Field σ)) (name : GoString) : Option (Field σ) :=
  match fields.find? fun field => field.name == name with
  | some field => some field
  | none => fields.find? fun field => foldName field.name == foldName name

/-- Decoding into a struct with `DisallowUnknownFields`: members are stored in
the order they appear, and `null` leaves the value as it is. -/
def decodeMembers {σ : Type} (fields : List (Field σ)) : List (GoString × Json) → σ → Option σ
  | [], state => some state
  | (name, value) :: rest, state => do
    let field ← findField fields name
    let state ← field.decode value state
    decodeMembers fields rest state

def decodeStruct {σ : Type} (fields : List (Field σ)) (value : Json) (state : σ) : Option σ :=
  match value with
  | .null => some state
  | .object members => decodeMembers fields members state
  | _ => none

/-- The range of Go's `int` and `int64`. -/
def inInt64 (value : Int) : Bool := decide (-(2 ^ 63 : Int) ≤ value) && decide (value < (2 ^ 63 : Int))

def decodeInt (current : Int) : Option Int :=
  match value with
  | .null => some current
  | .int integer => if inInt64 integer then some integer else none
  | _ => none

def decodeString (current : GoString) : Option GoString :=
  match value with
  | .null => some current
  | .string text => some text
  | _ => none

/-- A pointer is set to nil by `null` and is allocated by any other value. -/
def decodeIntPointer : Option (Option Int) :=
  match value with
  | .null => some none
  | .int integer => if inInt64 integer then some (some integer) else none
  | _ => none

def decodeBoolPointer : Option (Option Bool) :=
  match value with
  | .null => some none
  | .bool flag => some (some flag)
  | _ => none

end Json

end JudgingServer.Go
