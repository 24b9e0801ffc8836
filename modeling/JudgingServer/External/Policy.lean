import JudgingServer.Bundle.Manifest

/-! Tenant policies and the execution ceilings they put on test bundles. -/

namespace JudgingServer.External
open Go Bundle Library

structure TenantPolicy where
  maxQueuedJobs : Int
  maxRunningJobs : Int
  maxSourceBytes : Int
  maxRetainedBundles : Int
  dailyExecutionMillis : Int
  maxInfrastructureTries : Int
  maxTimeLimitMillis : Int
  maxMemoryLimitMiB : Int
deriving DecidableEq, Repr

def sourceCiphertextOverheadBytes : Int := 16

def maximumEncryptedSourceObjectBytes : Int := 64 * 2 ^ 20

def maximumSourceBytes : Int := maximumEncryptedSourceObjectBytes - sourceCiphertextOverheadBytes

inductive PolicyError where
  | jobLimitsInvalid
  | sourceBundleOrDailyLimitInvalid
  | infrastructureTriesInvalid
  | executionLimitsInvalid
deriving DecidableEq, Repr

def TenantPolicy.validate (policy : TenantPolicy) : Except PolicyError Unit := do
  rejectIf (policy.maxQueuedJobs ≤ 0 ∨ policy.maxRunningJobs ≤ 0 ∨ policy.maxQueuedJobs < policy.maxRunningJobs)
    .jobLimitsInvalid
  rejectIf (policy.maxSourceBytes ≤ 0 ∨ maximumSourceBytes < policy.maxSourceBytes ∨ policy.maxRetainedBundles ≤ 0 ∨
      policy.dailyExecutionMillis ≤ 0)
    .sourceBundleOrDailyLimitInvalid
  rejectIf (policy.maxInfrastructureTries ≤ 0 ∨ 10 < policy.maxInfrastructureTries) .infrastructureTriesInvalid
  rejectIf (policy.maxTimeLimitMillis ≤ 0 ∨ policy.maxMemoryLimitMiB ≤ 0) .executionLimitsInvalid

def policyFields : List (Json.Field TenantPolicy) :=
  [⟨lit "maxQueuedJobs", fun value policy => do return { policy with maxQueuedJobs := ← Json.decodeInt value policy.maxQueuedJobs }⟩,
   ⟨lit "maxRunningJobs", fun value policy => do return { policy with maxRunningJobs := ← Json.decodeInt value policy.maxRunningJobs }⟩,
   ⟨lit "maxSourceBytes", fun value policy => do return { policy with maxSourceBytes := ← Json.decodeInt value policy.maxSourceBytes }⟩,
   ⟨lit "maxRetainedBundles", fun value policy => do return { policy with maxRetainedBundles := ← Json.decodeInt value policy.maxRetainedBundles }⟩,
   ⟨lit "dailyExecutionMillis", fun value policy => do return { policy with dailyExecutionMillis := ← Json.decodeInt value policy.dailyExecutionMillis }⟩,
   ⟨lit "maxInfrastructureTries", fun value policy => do return { policy with maxInfrastructureTries := ← Json.decodeInt value policy.maxInfrastructureTries }⟩,
   ⟨lit "maxTimeLimitMillis", fun value policy => do return { policy with maxTimeLimitMillis := ← Json.decodeInt value policy.maxTimeLimitMillis }⟩,
   ⟨lit "maxMemoryLimitMiB", fun value policy => do return { policy with maxMemoryLimitMiB := ← Json.decodeInt value policy.maxMemoryLimitMiB }⟩]

/-- Strict decoding of the `policy_json` column, followed by validation. -/
def decodeTenantPolicy (encoded : Json) : Option TenantPolicy := do
  let policy ← Json.decodeStruct policyFields encoded ⟨0, 0, 0, 0, 0, 0, 0, 0⟩
  match policy.validate with
  | .ok _ => some policy
  | .error _ => none

/-- `JSON_EXTRACT(document, '$.name')` where its `JSON_TYPE` is `INTEGER`. -/
def jsonInteger (document : Json) (name : GoString) : Option Int :=
  match document with
  | .object members =>
    match members.find? fun entry => entry.1 == name with
    | some (_, .int value) => if Json.inInt64 value then some value else none
    | _ => none
  | _ => none

/-- `CAST(... AS UNSIGNED)` of an integer's text. -/
def castUnsigned (value : Int) : Int := if value < 0 then value + 2 ^ 64 else value

def manifestWithinExecutionCeilings (manifest : Manifest) (maxTimeLimitMillis maxMemoryLimitMiB : Int) : Bool :=
  if maxTimeLimitMillis ≤ 0 ∨ maxMemoryLimitMiB ≤ 0 ∨ manifest.limits.timeLimitMillis ≤ 0 ∨
      maxTimeLimitMillis < manifest.limits.timeLimitMillis ∨ manifest.limits.memoryLimitMiB ≤ 0 ∨
      maxMemoryLimitMiB < manifest.limits.memoryLimitMiB then false
  else
    match manifest.specialJudge with
    | none => true
    | some judge =>
      decide (0 < judge.timeLimitMillis ∧ judge.timeLimitMillis ≤ maxTimeLimitMillis ∧
        0 < judge.memoryLimitMiB ∧ judge.memoryLimitMiB ≤ maxMemoryLimitMiB)

def maxInt64 : Int := 2 ^ 63 - 1

/-- The `int64` that an arithmetic result is stored as. -/
def wrapInt64 (value : Int) : Int := (value + 2 ^ 63) % 2 ^ 64 - 2 ^ 63

/-- The execution time all cases of a bundle may take, checker included. -/
def maximumManifestExecutionMillis (manifest : Manifest) : Option Int :=
  if manifest.cases.length = 0 ∨ manifest.limits.timeLimitMillis ≤ 0 then none
  else
    let perCase := match manifest.specialJudge with
      | none => some manifest.limits.timeLimitMillis
      | some judge =>
        if judge.timeLimitMillis ≤ 0 ∨ wrapInt64 (maxInt64 - judge.timeLimitMillis) < manifest.limits.timeLimitMillis then none
        else some (wrapInt64 (manifest.limits.timeLimitMillis + judge.timeLimitMillis))
    match perCase with
    | none => none
    | some perCase =>
      if maxInt64 / manifest.cases.length < perCase then none else some (wrapInt64 (perCase * manifest.cases.length))

end JudgingServer.External
