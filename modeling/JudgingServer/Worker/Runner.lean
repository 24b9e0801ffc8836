import JudgingServer.External.JobSettlement
import JudgingServer.Service.SpecialJudge

/-! The durable worker: the two boundaries a canonical result crosses (the durable
result of the worker and the callback of the internal judge), and the end of a
cancelled claim. -/

namespace JudgingServer.Worker
open Go External Service

inductive DurableError where
  | resultInvalid
  | scoreInvalid
  | caseInvalid
  | caseScoreInvalid
  | invariantsInvalid
deriving DecidableEq, Repr

def DurableError.text : DurableError → GoString
  | .resultInvalid => lit "canonical execution result is invalid"
  | .scoreInvalid => lit "canonical execution score is invalid"
  | .caseInvalid => lit "canonical case result is invalid"
  | .caseScoreInvalid => lit "canonical case score is invalid"
  | .invariantsInvalid => lit "canonical execution score invariants are invalid"

def durableVerdict (status : Callback.Status) : Bool := status != .systemError

def validCanonicalScorePair (score maximum : Option Int) : Bool := validScorePair score maximum

def validMetrics (timeUsedMillis memoryUsedKB : Int) : Bool :=
  0 ≤ timeUsedMillis ∧ 0 ≤ memoryUsedKB ∧ memoryUsedKB ≤ maxInt64 / 1024

def durableCase (item : CanonicalCaseResult) : Except DurableError DurableCaseResult :=
  if item.caseID = [] ∨ !durableVerdict item.status ∨ !validMetrics item.timeUsedMillis item.memoryUsedKB then
    .error .caseInvalid
  else if !validCanonicalScorePair item.score item.maxScore then .error .caseScoreInvalid
  else .ok ⟨item.caseID, item.status.text, item.timeUsedMillis, item.memoryUsedKB * 1024, item.score, item.maxScore⟩

def durableResult (result : CanonicalResult) : Except DurableError DurableJobResult :=
  if !durableVerdict result.status ∨ !validMetrics result.timeUsedMillis result.memoryUsedKB then .error .resultInvalid
  else if !validCanonicalScorePair result.score result.totalScore then .error .scoreInvalid
  else do
    let cases ← result.cases.mapM durableCase
    let durable : DurableJobResult :=
      { verdict := result.status.text
        compileStatus := if result.status = .compileError then lit "FAILED" else lit "SUCCEEDED"
        timeMillis := result.timeUsedMillis
        memoryBytes := result.memoryUsedKB * 1024
        score := result.score
        totalScore := result.totalScore
        cases := cases }
    if validateDurableJobResult durable then return durable else .error .invariantsInvalid

/-- What `completeCancellation` passes to `Complete` once `ClaimCancelled` told of a cancellation. -/
def cancellationPlaceholder : DurableJobResult :=
  { verdict := Callback.Status.accepted.text
    compileStatus := lit "SUCCEEDED"
    timeMillis := 0
    memoryBytes := 0
    score := none
    totalScore := none
    cases := [] }

/-- `completeCancellation`; a claim that went stale in between is no error. -/
def completeCancellation (repository : JobRepository) (eventEntropy : List Bytes) (claim : WorkerJobClaim) (db : Db) :
    Option RepositoryError × Db :=
  match (complete repository eventEntropy claim cancellationPlaceholder).commit db with
  | (.ok _, db) => (none, db)
  | (.error error, db) => (if error.is .staleJobClaim then none else some error, db)

end JudgingServer.Worker
