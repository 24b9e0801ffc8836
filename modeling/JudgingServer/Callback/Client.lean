import JudgingServer.Callback.Text
import JudgingServer.Library.Checks

/-! The result a callback carries and the contract the client checks before it
sends one. -/

namespace JudgingServer.Callback
open Go Library

structure Result where
  resultID : GoString
  submissionID : Int
  attemptNo : Int
  status : Status
  exitCode : Int
  timeUsedMillis : Int
  memoryUsedKB : Int
  score : Option Int
  totalScore : Option Int
  stdout : GoString
  stderr : GoString
  compileError : GoString
deriving DecidableEq, Repr

inductive ResultError where
  | resultID
  | identity
  | metrics
  | scorePresence
  | scoreRange
  | compileErrorScore
  | fullScore
  | partialScore
  | outputLength
  | acceptedExitCode
  | compileErrorText
deriving DecidableEq, Repr

def ResultError.text : ResultError → GoString
  | .resultID => lit "resultId must contain 1..128 bytes"
  | .identity => lit "submissionId and attemptNo must be positive"
  | .metrics => lit "judge result metrics are outside the callback contract"
  | .scorePresence => lit "OI score and totalScore must be present together"
  | .scoreRange => lit "OI score is outside the callback contract"
  | .compileErrorScore => lit "OI COMPILE_ERROR requires score=0"
  | .fullScore => lit "OI full score requires ACCEPTED"
  | .partialScore => lit "OI partial score requires WRONG_ANSWER"
  | .outputLength => lit "judge result output exceeds the callback contract"
  | .acceptedExitCode => lit "ACCEPTED requires exitCode=0"
  | .compileErrorText => lit "COMPILE_ERROR requires compileError"

def validateScore (status : Status) (score totalScore : Option Int) : Except ResultError Unit :=
  match score, totalScore with
  | none, none => .ok ()
  | some score, some total => do
    rejectIf (total ≤ 0 ∨ 1000000000 < total ∨ score < 0 ∨ total < score) .scoreRange
    if status = .compileError then rejectIf (score ≠ 0) .compileErrorScore
    else if score = total then rejectIf (status ≠ .accepted) .fullScore
    else rejectIf (status ≠ .wrongAnswer) .partialScore
  | _, _ => .error .scorePresence

-- The switch over the statuses names all of them, so it rejects none.
def validateResult (result : Result) : Except ResultError Unit := do
  rejectIf ((trimSpace result.resultID).isEmpty ∨ 128 < result.resultID.length) .resultID
  rejectIf (result.submissionID ≤ 0 ∨ result.attemptNo ≤ 0) .identity
  rejectIf (result.timeUsedMillis < 0 ∨ 172800000 < result.timeUsedMillis ∨ result.memoryUsedKB < 0 ∨
      2147483647 < result.memoryUsedKB)
    .metrics
  validateScore result.status result.score result.totalScore
  rejectIf (65536 < utf16Len result.stdout ∨ 65536 < utf16Len result.stderr ∨ 32768 < utf16Len result.compileError)
    .outputLength
  rejectIf (result.status = .accepted ∧ result.exitCode ≠ 0) .acceptedExitCode
  rejectIf (result.status = .compileError ∧ (trimSpace result.compileError).isEmpty) .compileErrorText

end JudgingServer.Callback
