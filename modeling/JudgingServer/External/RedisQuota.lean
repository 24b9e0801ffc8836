import JudgingServer.Go.Time
import JudgingServer.Library.Checks
import Mathlib.Data.Rat.Floor
import Mathlib.Logic.Function.Basic

/-! The quota of a tenant: a token bucket that a Redis script keeps under one key for each
tenant and kind of request. Numbers of the script are exact. -/

namespace JudgingServer.External
open Go Library

inductive QuotaKind where
  | judgeSubmit
  | bundleUploadBytes
  | other (text : GoString)
deriving DecidableEq, Repr

def QuotaKind.text : QuotaKind → GoString
  | .judgeSubmit => lit "judge-submit"
  | .bundleUploadBytes => lit "bundle-upload-bytes"
  | .other text => text

structure QuotaLimit where
  capacity : Int
  refillPeriod : Duration
deriving DecidableEq, Repr

structure QuotaRequest where
  tenantID : GoString
  kind : QuotaKind
  cost : Int
  limit : QuotaLimit
deriving DecidableEq, Repr

structure QuotaDecision where
  allowed : Bool
  retryAfter : Duration
deriving DecidableEq, Repr

inductive QuotaError where
  | unavailable
  | tenantID
  | kind
  | limit
  | cost
deriving DecidableEq, Repr

def QuotaError.text : QuotaError → GoString
  | .unavailable => lit "quota state is unavailable"
  | .tenantID => lit "quota request is invalid: tenant ID is invalid"
  | .kind => lit "quota request is invalid: quota kind is invalid"
  | .limit => lit "quota request is invalid: capacity and refill period are out of range"
  | .cost => lit "quota request is invalid: quota cost is out of range"

def maximumRedisQuotaCapacity : Int := 2 ^ 31

def maximumRedisQuotaRefillPeriod : Duration := hour

variable (limit : QuotaLimit)

def QuotaLimit.validate : Except QuotaError Unit :=
  rejectIf (limit.capacity ≤ 0 ∨ maximumRedisQuotaCapacity < limit.capacity ∨ limit.refillPeriod < millisecond ∨
    maximumRedisQuotaRefillPeriod < limit.refillPeriod) .limit

def validateQuotaRequest (request : QuotaRequest) : Except QuotaError Unit := do
  rejectIf (trimSpace request.tenantID = [] ∨ 128 < request.tenantID.length) .tenantID
  rejectIf (request.kind ≠ .judgeSubmit ∧ request.kind ≠ .bundleUploadBytes) .kind
  request.limit.validate
  rejectIf (request.cost ≤ 0 ∨ request.limit.capacity < request.cost) .cost

/-- `RefillPeriod.Milliseconds()`, which drops the fraction of a millisecond. -/
def QuotaLimit.periodMillis : Int := Int.tdiv limit.refillPeriod millisecond

/-! ### The script -/

/-- The answer of `TIME`. -/
structure RedisTime where
  seconds : Nat
  micros : Nat
deriving DecidableEq, Repr

def RedisTime.millis (time : RedisTime) : Int := time.seconds * 1000 + (time.micros / 1000 : Nat)

/-- The hash under a key, and when the key expires. -/
structure QuotaEntry where
  tokens : ℚ
  updatedMillis : Int
  expiresAtMillis : Int
deriving DecidableEq, Repr

structure ScriptReply where
  allowed : Int
  retryMillis : Int
deriving DecidableEq, Repr

def redisTokenBucketScript (capacity periodMillis cost nowMillis : Int) (state : Option QuotaEntry) : ScriptReply × QuotaEntry :=
  let tokens : ℚ := (state.map QuotaEntry.tokens).getD capacity
  let updatedMillis := (state.map QuotaEntry.updatedMillis).getD nowMillis
  let elapsedMillis := min periodMillis (max 0 (nowMillis - updatedMillis))
  let tokens := min (capacity : ℚ) (tokens + elapsedMillis * capacity / periodMillis)
  let reply : ScriptReply := if cost ≤ tokens then ⟨1, 0⟩ else ⟨0, ⌈(cost - tokens) * periodMillis / capacity⌉⟩
  let left := if cost ≤ tokens then tokens - cost else tokens
  (reply, ⟨left, nowMillis, nowMillis + max (periodMillis * 2) (reply.retryMillis + periodMillis)⟩)

/-! ### Requests -/

structure RedisQuota where
  keyPrefix : GoString
deriving DecidableEq, Repr

/-- `^[a-zA-Z0-9:_-]{1,64}$` -/
def matchesQuotaPrefix (text : GoString) : Bool :=
  1 ≤ text.length ∧ text.length ≤ 64 ∧
    text.all fun byte => isLower byte || isUpper byte || isDigit byte || byte == 58 || byte == 95 || byte == 45

def newRedisQuota (keyPrefix : GoString) : Option RedisQuota :=
  if matchesQuotaPrefix (trimSpace keyPrefix) then some ⟨trimSpace keyPrefix⟩ else none

def RedisQuota.key (sha256 : Bytes → Bytes) (quota : RedisQuota) (tenantID : GoString) (kind : QuotaKind) : GoString :=
  quota.keyPrefix ++ lit ":quota:\x7b" ++ encodeHex (sha256 tenantID) ++ lit "\x7d:" ++ kind.text

/-- The keys of a Redis server. -/
abbrev Redis := GoString → Option QuotaEntry

/-- How far a call of the script gets. -/
inductive EvalCall where
  | answered
  | answerLost
  | unreachable
deriving DecidableEq, Repr

def decodeReply (reply : ScriptReply) : Except QuotaError QuotaDecision :=
  if reply.allowed ≠ 0 ∧ reply.allowed ≠ 1 then .error .unavailable
  else if reply.retryMillis < 0 ∨ limit.periodMillis < reply.retryMillis then .error .unavailable
  else .ok ⟨reply.allowed = 1, reply.retryMillis * millisecond⟩

/-- What became of a request: the answer to the caller, and whether the script took its cost. -/
structure QuotaAnswer where
  result : Except QuotaError QuotaDecision
  charged : Bool
deriving Repr

def RedisQuota.allow (sha256 : Bytes → Bytes) (quota : RedisQuota) (request : QuotaRequest) (time : RedisTime) (call : EvalCall)
    (redis : Redis) : QuotaAnswer × Redis :=
  match validateQuotaRequest request with
  | .error error => (⟨.error error, false⟩, redis)
  | .ok _ =>
    let key := quota.key sha256 request.tenantID request.kind
    let (reply, entry) := redisTokenBucketScript request.limit.capacity request.limit.periodMillis request.cost time.millis (redis key)
    let charged : Bool := reply.allowed = 1
    match call with
    | .answered => (⟨decodeReply request.limit reply, charged⟩, Function.update redis key (some entry))
    | .answerLost => (⟨.error .unavailable, charged⟩, Function.update redis key (some entry))
    | .unreachable => (⟨.error .unavailable, false⟩, redis)

/-! ### Runs -/

inductive QuotaEvent where
  | allow (time : RedisTime) (request : QuotaRequest) (call : EvalCall)
  | expire (time : RedisTime) (key : GoString)
deriving DecidableEq, Repr

def QuotaEvent.millis : QuotaEvent → Int
  | .allow time _ _ => time.millis
  | .expire time _ => time.millis

def expireKey (nowMillis : Int) (key : GoString) (redis : Redis) : Redis :=
  if (redis key).any fun entry => decide (entry.expiresAtMillis ≤ nowMillis) then Function.update redis key none else redis

structure QuotaRecord where
  time : RedisTime
  request : QuotaRequest
  answer : QuotaAnswer

def quotaRun (sha256 : Bytes → Bytes) (quota : RedisQuota) : List QuotaEvent → Redis → List QuotaRecord × Redis
  | [], redis => ([], redis)
  | .allow time request call :: rest, redis =>
    let (answer, redis) := quota.allow sha256 request time call redis
    let (records, redis) := quotaRun sha256 quota rest redis
    (⟨time, request, answer⟩ :: records, redis)
  | .expire time key :: rest, redis => quotaRun sha256 quota rest (expireKey time.millis key redis)

end JudgingServer.External
