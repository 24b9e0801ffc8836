import JudgingServer.Go.Json
import JudgingServer.Go.Time

/-! Job states, the durable result of a job and the rules it is validated by. -/

namespace JudgingServer.External
open Go

inductive JobStatus where
  | queued
  | running
  | succeeded
  | failed
  | cancelled
deriving DecidableEq, Repr

def JobStatus.isTerminal (status : JobStatus) : Bool :=
  match status with
  | .succeeded | .failed | .cancelled => true
  | .queued | .running => false

def JobStatus.text : JobStatus → GoString
  | .queued => lit "QUEUED"
  | .running => lit "RUNNING"
  | .succeeded => lit "SUCCEEDED"
  | .failed => lit "FAILED"
  | .cancelled => lit "CANCELLED"

structure DurableCaseResult where
  caseID : GoString
  verdict : GoString
  timeMillis : Int
  memoryBytes : Int
  score : Option Int
  maxScore : Option Int
deriving DecidableEq, Repr

structure DurableJobResult where
  verdict : GoString
  compileStatus : GoString
  timeMillis : Int
  memoryBytes : Int
  score : Option Int
  totalScore : Option Int
  cases : List DurableCaseResult
deriving DecidableEq, Repr

def validScorePair (score maximum : Option Int) : Bool :=
  match score, maximum with
  | none, none => true
  | some score, some maximum => 0 < maximum ∧ maximum ≤ 1000000000 ∧ 0 ≤ score ∧ score ≤ maximum
  | _, _ => false

def boundedText (limit : Nat) (text : GoString) : Bool := !(trimSpace text).isEmpty ∧ text.length ≤ limit

def validCaseScore (scored : Bool) (item : DurableCaseResult) : Bool :=
  if scored then
    match item.score, item.maxScore with
    | some score, some maximum => if item.verdict = lit "ACCEPTED" then score = maximum else score = 0
    | _, _ => false
  else item.score.isNone

structure ScoreSums where
  ids : List GoString
  score : Int
  maximum : Int
deriving DecidableEq, Repr

/-- The loop over the cases of a result, with the ids seen and the sums so far. -/
def scanDurableCases (scored : Bool) : List DurableCaseResult → ScoreSums → Option ScoreSums
  | [], sums => some sums
  | item :: rest, sums =>
    if boundedText 128 item.caseID ∧ boundedText 64 item.verdict ∧ 0 ≤ item.timeMillis ∧ 0 ≤ item.memoryBytes ∧
        validScorePair item.score item.maxScore ∧ validCaseScore scored item ∧ !sums.ids.contains item.caseID then
      scanDurableCases scored rest
        ⟨item.caseID :: sums.ids, sums.score + item.score.getD 0, sums.maximum + item.maxScore.getD 0⟩
    else none

def validScoredResult (result : DurableJobResult) (score total : Int) (sums : ScoreSums) : Bool :=
  if result.compileStatus = lit "FAILED" then
    result.verdict = lit "COMPILE_ERROR" ∧ score = 0 ∧ result.cases.length = 0
  else if result.compileStatus ≠ lit "SUCCEEDED" ∨ sums.score ≠ score ∨ sums.maximum ≠ total then false
  else !((score = total ∧ result.verdict ≠ lit "ACCEPTED") ∨ (score < total ∧ result.verdict ≠ lit "WRONG_ANSWER"))

def validateDurableJobResult (result : DurableJobResult) : Bool :=
  if boundedText 64 result.verdict ∧ boundedText 64 result.compileStatus ∧ 0 ≤ result.timeMillis ∧
      0 ≤ result.memoryBytes ∧ result.cases.length ≤ 256 ∧ validScorePair result.score result.totalScore then
    match scanDurableCases result.score.isSome result.cases ⟨[], 0, 0⟩ with
    | none => false
    | some sums =>
      match result.score, result.totalScore with
      | some score, some total => validScoredResult result score total sums
      | _, _ => true
  else false

/-- What the `result_json` column keeps of a result. -/
def DurableCaseResult.stored (item : DurableCaseResult) : DurableCaseResult :=
  { item with caseID := replaceInvalid item.caseID, verdict := replaceInvalid item.verdict }

def DurableJobResult.stored (result : DurableJobResult) : DurableJobResult :=
  { result with
    verdict := replaceInvalid result.verdict
    compileStatus := replaceInvalid result.compileStatus
    cases := result.cases.map DurableCaseResult.stored }

def jsonOptionalInt (name : GoString) (value : Option Int) : List (GoString × Json) :=
  match value with
  | some value => [(name, .int value)]
  | none => []

def DurableCaseResult.json (item : DurableCaseResult) : Json :=
  .object ([(lit "caseId", .string item.caseID), (lit "verdict", .string item.verdict),
    (lit "timeMillis", .int item.timeMillis), (lit "memoryBytes", .int item.memoryBytes)] ++
    jsonOptionalInt (lit "score") item.score ++ jsonOptionalInt (lit "maxScore") item.maxScore)

def DurableJobResult.json (result : DurableJobResult) : Json :=
  .object ([(lit "verdict", .string result.verdict), (lit "compileStatus", .string result.compileStatus),
    (lit "timeMillis", .int result.timeMillis), (lit "memoryBytes", .int result.memoryBytes)] ++
    jsonOptionalInt (lit "score") result.score ++ jsonOptionalInt (lit "totalScore") result.totalScore ++
    [(lit "cases", .array (result.cases.map DurableCaseResult.json))])

end JudgingServer.External
