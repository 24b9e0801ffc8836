import JudgingServer.Callback.Text
import JudgingServer.External.Policy

/-! How the status and the output of one case are judged. -/

namespace JudgingServer.Service
open Go Bundle

variable (value : GoString)

def isKnownContestantStatus : Bool :=
  [lit "Accepted", lit "Compile Error", lit "Wrong Answer", lit "Time Limit Exceeded", lit "Memory Limit Exceeded",
    lit "Runtime Error", lit "Output Limit Exceeded"].contains value

def mapCallbackStatus (status : GoString) : Callback.Status :=
  if status = lit "Accepted" then .accepted
  else if status = lit "Compile Error" then .compileError
  else if status = lit "Wrong Answer" then .wrongAnswer
  else if status = lit "Time Limit Exceeded" then .timeLimitExceeded
  else if status = lit "Memory Limit Exceeded" then .memoryLimitExceeded
  else if status = lit "Runtime Error" then .runtimeError
  else if status = lit "Output Limit Exceeded" then .outputLimitExceeded
  else .systemError

def mapBundleStatus : Callback.Status := mapCallbackStatus value

def normalizeExactOutput : GoString :=
  trimSpace (join [10] ((split 10 (replaceCR (replaceCRLF value))).map trimSpace))

def outputsMatch (checker : Checker) (actual expected : GoString) : Bool :=
  if checker = .token then fields actual == fields expected
  else normalizeExactOutput actual == normalizeExactOutput expected

/-- `binary.BigEndian.PutUint64`. -/
def putUint64 (value : Nat) : Bytes := (List.range 8).reverse.map fun place => (value / 256 ^ place).toUInt8

/-- One token as it is written to the hash: its length and its bytes. -/
def tokenFrame (token : GoString) : Bytes := putUint64 token.length ++ token

def tokenOutputSHA256 (sha256 : Bytes → Bytes) (output : GoString) : GoString :=
  encodeHex (sha256 ((fields output).map tokenFrame).flatten)

def outputMatchesExpectedCheck (sha256 : Bytes → Bytes) (checker : Checker) (actual expectedCheck : GoString) : Bool :=
  if checker = .token then tokenOutputSHA256 sha256 actual == expectedCheck
  else outputsMatch checker actual expectedCheck

def maxInt32 : Int := 2147483647

def timeoutSeconds (milliseconds : Int) : Int :=
  if milliseconds ≤ 0 then 1
  else
    let seconds := (External.wrapInt64 (milliseconds + 999)).tdiv 1000
    -- a sum that wraps around is negative, and only its low 32 bits remain
    if maxInt32 < seconds then maxInt32 else seconds.bmod (2 ^ 32)

def boundedInt32 (value : Int) : Int := if value ≤ 0 then 1 else min value maxInt32

def boundedMetric (value maximum : Int) : Int := if value ≤ 0 then 0 else min value maximum

end JudgingServer.Service
