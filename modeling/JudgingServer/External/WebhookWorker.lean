import JudgingServer.External.WebhookDelivery

/-! The webhook worker: it claims one event, delivers it as long as its lease runs, and
settles the claim. -/

namespace JudgingServer.External
open Go Library

/-! ### Configuration -/

structure WebhookWorkerConfig where
  workerID : GoString
  leaseDuration : Duration
  requestTimeout : Duration
  dialTimeout : Duration
  baseRetryDelay : Duration
  maximumRetryDelay : Duration
  maximumAttempts : Nat
  idleDelay : Duration
  terminalRetention : Duration
  maximumAuthorities : Int
deriving DecidableEq, Repr

inductive WebhookConfigError where
  | required
  | timeouts
  | retryDelays
  | attempts
  | retention
deriving DecidableEq, Repr

def WebhookConfigError.text : WebhookConfigError → GoString
  | .required => lit "webhook repository, callback cipher, deliverer factory, and worker ID are required"
  | .timeouts => lit "webhook lease must exceed positive HTTP and dial timeouts and be at most 15 minutes"
  | .retryDelays => lit "webhook retry delays must be positive, ordered, and at most 15 minutes"
  | .attempts => lit "webhook attempts and idle delay are invalid"
  | .retention => lit "webhook retention or authority cache limit is invalid"

def orDefault {α : Type} [Zero α] [DecidableEq α] (value standard : α) : α := if value = 0 then standard else value

def applyWebhookWorkerDefaults (config : WebhookWorkerConfig) : WebhookWorkerConfig :=
  { workerID := config.workerID
    leaseDuration := orDefault config.leaseDuration minute
    requestTimeout := orDefault config.requestTimeout (30 * second)
    dialTimeout := orDefault config.dialTimeout (5 * second)
    baseRetryDelay := orDefault config.baseRetryDelay (5 * second)
    maximumRetryDelay := orDefault config.maximumRetryDelay (15 * minute)
    maximumAttempts := orDefault config.maximumAttempts 12
    idleDelay := orDefault config.idleDelay second
    terminalRetention := orDefault config.terminalRetention (30 * 24 * hour)
    maximumAuthorities := orDefault config.maximumAuthorities 64 }

def maximumWebhookAuthorityLimit : Int := 1024

structure WebhookWorker extends WebhookWorkerConfig where
deriving DecidableEq, Repr

def newWebhookWorker (config : WebhookWorkerConfig) : Except WebhookConfigError WebhookWorker := do
  let config := applyWebhookWorkerDefaults config
  rejectIf (!validWorkerID config.workerID) .required
  rejectIf (config.requestTimeout ≤ 0 ∨ config.leaseDuration ≤ config.requestTimeout ∨
    maximumWebhookRetryAfter < config.leaseDuration ∨ config.dialTimeout ≤ 0 ∨ config.requestTimeout < config.dialTimeout) .timeouts
  rejectIf (config.baseRetryDelay ≤ 0 ∨ config.maximumRetryDelay < config.baseRetryDelay ∨
    maximumWebhookRetryAfter < config.maximumRetryDelay) .retryDelays
  rejectIf (config.maximumAttempts = 0 ∨ 100 < config.maximumAttempts ∨ config.idleDelay ≤ 0 ∨ minute < config.idleDelay) .attempts
  rejectIf (config.terminalRetention ≤ 0 ∨ 365 * 24 * hour < config.terminalRetention ∨ config.maximumAuthorities < 1 ∨
    maximumWebhookAuthorityLimit < config.maximumAuthorities) .retention
  return ⟨config⟩

/-! ### Backoff -/

inductive WebhookWorkerError where
  | cancelled
  | repository (error : WebhookError)
  | backoffInput
  | retryJitter
deriving DecidableEq, Repr

/-- The loop of `webhookBackoff`: the delay is doubled until it reaches the maximum. -/
def doubleDelay (maximum : Duration) : Nat → Duration → Duration
  | 0, delay => delay
  | remaining + 1, delay =>
    if delay < maximum then
      if maximum / 2 < delay then maximum else doubleDelay maximum remaining (2 * delay)
    else delay

/-- The upper half of the product of two 64-bit words: `bits.Mul64`. -/
def mulHigh (left right : UInt64) : UInt64 := .ofNat (left.toNat * right.toNat / 2 ^ 64)

/-- `webhookBackoff` with the word that is read from the random source. -/
def webhookBackoff (base maximum : Duration) (attempt : Nat) (retryAfter : Duration) (entropy : Option UInt64) :
    Except WebhookWorkerError Duration :=
  if base ≤ 0 ∨ maximum < base ∨ maximumWebhookRetryAfter < maximum ∨ attempt = 0 then .error .backoffInput
  else
    match entropy with
    | none => .error .retryJitter
    | some word =>
      let delay := doubleDelay maximum (attempt - 1) base
      let high := mulHigh word (.ofNat delay.toNat)
      let jittered := min maximum (delay / 2 + high.toNat)
      let retryAfter := min maximum (max 0 retryAfter)
      .ok (max 0 (max jittered retryAfter))

/-! ### One event -/

/-- What one turn of the worker meets besides its claim: the times that passed, the callback
secret, the deliverer, the random word, and whether the context ended before or during it. -/
structure WebhookTurn where
  cancelled : Bool
  claimElapsed : Duration
  decrypt : GoString → GoString → GoString → EncryptedCallbackSecret → Option Bytes
  cachedDeliverer : GoString → Nat → Option WebhookDeliverer
  elapsedBeforeDelivery : Duration
  cancelledMeanwhile : Bool
  elapsedAfterDelivery : Duration
  entropy : Option UInt64

/-- What a claim comes to. -/
inductive WebhookDecision where
  /-- The lease is left to expire. -/
  | leaves
  | fails (error : WebhookWorkerError)
  | settles (settlement : WebhookSettlement)
deriving DecidableEq, Repr

def permanentSettlement (code : GoString) : WebhookSettlement := ⟨.permanentFailure, 0, code, 0, 0⟩

def estimatedWebhookDatabaseTime (databaseClaimTime : Instant) (elapsed : Duration) : Instant := databaseClaimTime + max 0 elapsed

variable (worker : WebhookWorker) (turn : WebhookTurn) (claim : WebhookClaim)

def databaseReceiveTime : Instant :=
  claim.leaseUntil - worker.leaseDuration + max 0 turn.claimElapsed

def databaseBeforeDelivery : Instant :=
  estimatedWebhookDatabaseTime (databaseReceiveTime worker turn claim) turn.elapsedBeforeDelivery

def remainingLease : Duration :=
  claim.leaseUntil - databaseBeforeDelivery worker turn claim

def databaseNow : Instant :=
  estimatedWebhookDatabaseTime (databaseReceiveTime worker turn claim) turn.elapsedAfterDelivery

def settleWebhookOutcome (outcome : WebhookOutcome) (entropy : Option UInt64) :
    WebhookDecision :=
  let settlement : WebhookSettlement := ⟨outcome.disposition, outcome.httpStatus, outcome.errorCode, 0, 0⟩
  if outcome.disposition = .retry then
    if claim.attemptCount < worker.maximumAttempts then
      match webhookBackoff worker.baseRetryDelay worker.maximumRetryDelay claim.attemptCount outcome.retryAfter entropy with
      | .ok delay => .settles { settlement with retryDelay := delay }
      | .error error => .fails error
    else .settles { settlement with retryDelay := worker.baseRetryDelay / 2 }
  else .settles settlement

/-- The part of `processNext` between the claim and its settlement. -/
def processClaim (net : NetLibrary) (worker : WebhookWorker) (turn : WebhookTurn) (claim : WebhookClaim) : WebhookDecision :=
  let databaseClaimTime := claim.leaseUntil - worker.leaseDuration
  if claim.leaseUntil ≤ databaseClaimTime then .leaves
  else if claim.expiresAt.instant ≤ databaseClaimTime then .settles (permanentSettlement webhookErrorDeliveryExpired)
  else if (validateCallbackDestination net claim.destinationURL claim.allowedHost claim.allowedPort).isNone then
    .settles (permanentSettlement webhookErrorUnsafeDestination)
  else
    match turn.decrypt claim.tenantID claim.callbackID claim.destinationURL claim.secret with
    | none => .settles (permanentSettlement webhookErrorCallbackDecrypt)
    | some secret =>
      match turn.cachedDeliverer claim.allowedHost claim.allowedPort with
      | none => .settles (permanentSettlement webhookErrorConfiguration)
      | some deliverer =>
        if remainingLease worker turn claim ≤ 0 then .leaves
        else
          let outcome := deliverOutcome net deliverer ⟨claim.eventID, claim.destinationURL, secret, claim.body⟩
            worker.maximumRetryDelay
          if turn.cancelledMeanwhile then .fails .cancelled
          else if claim.leaseUntil ≤ databaseNow worker turn claim then .leaves
          else settleWebhookOutcome worker claim outcome turn.entropy

/-- One round of `ClaimNextWebhook`: its transaction and the database that it finds. -/
structure WebhookRound where
  session : WebhookSession
  db : WebhookDb

def maintenanceBudget : Nat := 64

def webhookRounds (repository : MySQLWebhookOutboxRepository) (workerID : GoString) (leaseDuration : Duration)
    (rounds : Nat → WebhookRound) : Nat → Nat → Except WebhookError WebhookClaim
  | 0, _ => .error .notAvailable
  | remaining + 1, maintained =>
    match ((claimWebhook repository (rounds maintained).session workerID leaseDuration).commit (rounds maintained).db).1 with
    | .error error => .error error
    | .ok (some claim) => .ok claim
    | .ok none => webhookRounds repository workerID leaseDuration rounds remaining (maintained + 1)

variable (repository : MySQLWebhookOutboxRepository)

def claimNextWebhook (workerID : GoString) (leaseDuration : Duration)
    (rounds : Nat → WebhookRound) : Except WebhookError WebhookClaim :=
  if !validWorkerID workerID ∨ leaseDuration ≤ 0 ∨ 15 * minute < leaseDuration then .error .settlementInvalid
  else webhookRounds repository workerID leaseDuration rounds maintenanceBudget 0

/-- `settle`: a lost lease is no error of the worker. -/
def WebhookWorker.settle (claim : WebhookClaim) (settlement : WebhookSettlement)
    (db : WebhookDb) : Except WebhookWorkerError Unit :=
  match ((settleWebhook repository claim settlement).commit db).1 with
  | .ok _ | .error .leaseLost => .ok ()
  | .error error => .error (.repository error)

/-- `processNext`, with the databases that its transactions find. -/
def processNext (net : NetLibrary) (repository : MySQLWebhookOutboxRepository) (worker : WebhookWorker) (turn : WebhookTurn)
    (rounds : Nat → WebhookRound) (settling : WebhookDb) : Except WebhookWorkerError Unit :=
  if turn.cancelled then .error .cancelled
  else
    match claimNextWebhook repository worker.workerID worker.leaseDuration rounds with
    | .error error => .error (.repository error)
    | .ok claim =>
      match processClaim net worker turn claim with
      | .leaves => .ok ()
      | .fails error => .error error
      | .settles settlement => WebhookWorker.settle repository claim settlement settling

end JudgingServer.External
