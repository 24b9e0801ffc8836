import JudgingServer.Go.Text

/-! Statuses of a judged submission and the text limits of the callback contract,
which are counted in UTF-16 code units. -/

namespace JudgingServer.Callback
open Go

inductive Status where
  | accepted
  | compileError
  | wrongAnswer
  | timeLimitExceeded
  | memoryLimitExceeded
  | runtimeError
  | outputLimitExceeded
  | systemError
deriving DecidableEq, Repr

def Status.text : Status → GoString
  | .accepted => lit "ACCEPTED"
  | .compileError => lit "COMPILE_ERROR"
  | .wrongAnswer => lit "WRONG_ANSWER"
  | .timeLimitExceeded => lit "TIME_LIMIT_EXCEEDED"
  | .memoryLimitExceeded => lit "MEMORY_LIMIT_EXCEEDED"
  | .runtimeError => lit "RUNTIME_ERROR"
  | .outputLimitExceeded => lit "OUTPUT_LIMIT_EXCEEDED"
  | .systemError => lit "SYSTEM_ERROR"

def utf16Len (value : GoString) : Nat := ((segments value).map fun segment => utf16RuneLen segment.rune).sum

/-- The loop of `TruncateUTF16`: it stops at the first rune that does not fit. -/
def truncateRunes (limit : Int) : Nat → List Segment → GoString
  | _, [] => []
  | used, segment :: rest =>
    let units := utf16RuneLen segment.rune
    if limit < used + units then [] else encodeRune segment.rune ++ truncateRunes limit (used + units) rest

def truncateUTF16 (value : GoString) (limit : Int) : GoString :=
  if limit ≤ 0 then []
  else if utf16Len value ≤ limit then value
  else truncateRunes limit 0 (segments value)

end JudgingServer.Callback
