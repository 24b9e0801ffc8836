import JudgingServer.Go.Text

/-! `base64.RawURLEncoding`: the alphabet of URLs, without padding. -/

namespace JudgingServer.Go

def base64URLDigit (digit : Nat) : UInt8 :=
  if digit < 26 then (65 + digit).toUInt8
  else if digit < 52 then (71 + digit).toUInt8
  else if digit < 62 then (digit - 4).toUInt8
  else if digit = 62 then 45
  else 95

def base64URLValue (byte : UInt8) : Option Nat :=
  if between 65 90 byte then some (byte.toNat - 65)
  else if between 97 122 byte then some (byte.toNat - 71)
  else if between 48 57 byte then some (byte.toNat + 4)
  else if byte = 45 then some 62
  else if byte = 95 then some 63
  else none

def encodeBase64URL : Bytes → GoString
  | [] => []
  | [first] => [base64URLDigit (first.toNat / 4), base64URLDigit (first.toNat % 4 * 16)]
  | [first, second] =>
    [base64URLDigit (first.toNat / 4), base64URLDigit (first.toNat % 4 * 16 + second.toNat / 16),
      base64URLDigit (second.toNat % 16 * 4)]
  | first :: second :: third :: rest =>
    base64URLDigit (first.toNat / 4) :: base64URLDigit (first.toNat % 4 * 16 + second.toNat / 16) ::
      base64URLDigit (second.toNat % 16 * 4 + third.toNat / 64) :: base64URLDigit (third.toNat % 64) :: encodeBase64URL rest

/-- The bytes of a list of digits; the bits that fill no byte are dropped unseen. -/
def base64Bytes : List Nat → Option Bytes
  | [] => some []
  | [_] => none
  | [first, second] => some [(first * 4 + second / 16).toUInt8]
  | [first, second, third] => some [(first * 4 + second / 16).toUInt8, (second % 16 * 16 + third / 4).toUInt8]
  | first :: second :: third :: fourth :: rest => do
    let bytes ← base64Bytes rest
    return (first * 4 + second / 16).toUInt8 :: (second % 16 * 16 + third / 4).toUInt8 :: (third % 4 * 64 + fourth).toUInt8 :: bytes

/-- `DecodeString`, which skips line breaks anywhere in its input. -/
def decodeBase64URL (text : GoString) : Option Bytes := do
  let digits ← (text.filter fun byte => !(byte == 10 || byte == 13)).mapM base64URLValue
  base64Bytes digits

end JudgingServer.Go
