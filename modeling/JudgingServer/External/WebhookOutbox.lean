import JudgingServer.External.JobWorker
import JudgingServer.Library.Runs
import Mathlib.Data.List.Sort
import Mathlib.Data.Prod.Lex

/-! The delivery side of the webhook outbox: the lease of a row, its settlement, and
the sweep of the rows that have reached their end. -/

namespace JudgingServer.External
open Go Library Transaction

structure WebhookRow extends OutboxRow where
  id : Nat
  workerID : Option GoString
  leaseToken : Option Bytes
  leaseUntil : Option Time
  lastHTTPStatus : Option Int
  lastErrorCode : Option GoString
  deliveredAt : Option Time
  deadAt : Option Time
deriving DecidableEq, Repr

structure WebhookCallback extends CallbackRow where
  destinationURL : GoString
  allowedHost : GoString
  allowedPort : Nat
deriving DecidableEq, Repr

structure WebhookDb where
  now : Time
  tenants : List TenantRow
  callbacks : List WebhookCallback
  outbox : List WebhookRow
deriving Repr

inductive WebhookError where
  | notAvailable
  | leaseLost
  | settlementInvalid
  | repository (error : RepositoryError)
deriving DecidableEq, Repr

abbrev WebhookTx := Transaction WebhookDb WebhookError

structure MySQLWebhookOutboxRepository where
  maximumAttempts : Nat
deriving DecidableEq, Repr

structure EncryptedCallbackSecret where
  ciphertext : Bytes
  nonce : Bytes
  keyVersion : Nat
deriving DecidableEq, Repr

structure WebhookClaim where
  outboxID : Nat
  eventID : GoString
  eventType : GoString
  tenantID : GoString
  callbackID : GoString
  destinationURL : GoString
  allowedHost : GoString
  allowedPort : Nat
  body : Bytes
  attemptCount : Nat
  workerID : GoString
  leaseToken : Bytes
  leaseUntil : Instant
  expiresAt : Time
  secret : EncryptedCallbackSecret
deriving DecidableEq, Repr

/-- `UPDATE t_external_webhook_outbox` and the number of rows it changed. -/
def updateWebhooks (p : WebhookRow → Bool) (f : WebhookRow → WebhookRow) : WebhookTx Nat := fun db =>
  .ok (Table.affected p f db.outbox, { db with outbox := Table.update p f db.outbox })

/-! ### Claims -/

def WebhookRow.claimable (now : Time) (row : WebhookRow) : Bool :=
  row.status = .pending ∧ row.nextAttemptAt ≤ now ∨ row.status = .delivering ∧ row.leaseUntil.any (fun lease => decide (lease ≤ now))

def WebhookRow.due (row : WebhookRow) : Time :=
  if row.status = .delivering then row.leaseUntil.getD 0 else row.nextAttemptAt

def WebhookRow.precedes (earlier row : WebhookRow) : Bool :=
  earlier.tenantID = row.tenantID ∧ (earlier.due < row.due ∨ earlier.due = row.due ∧ earlier.id < row.id)

structure ClaimableWebhook where
  row : WebhookRow
  tenant : TenantRow
  callback : WebhookCallback
deriving Repr

def joinWebhook (db : WebhookDb) (row : WebhookRow) : Option ClaimableWebhook :=
  match db.tenants.find? (fun tenant => tenant.id = row.tenantID),
    db.callbacks.find? (fun callback => callback.id = row.callbackID ∧ callback.tenantID = row.tenantID) with
  | some tenant, some callback => some ⟨row, tenant, callback⟩
  | _, _ => none

def webhookOrder (joined : ClaimableWebhook) : Nat ×ₗ Nat ×ₗ Nat :=
  toLex (joined.row.due, toLex (joined.row.tenantID, joined.row.id))

def selectWebhook (locked : List Nat) (now : Time) (db : WebhookDb) : Option ClaimableWebhook :=
  Table.first
    (fun joined => joined.row.claimable now && !locked.contains joined.row.id &&
      !db.outbox.any fun earlier => earlier.claimable now && earlier.precedes joined.row)
    webhookOrder (db.outbox.filterMap (joinWebhook db))

/-- What one claim meets: the rows other transactions have locked, the time it waits for
its own lock, and what it draws from the random source. -/
structure WebhookSession where
  locked : List Nat
  waited : Nat
  leaseToken : Option Bytes
deriving DecidableEq, Repr

def callbackSecretNonceBytes : Nat := 12

def webhookDeadCode (maximumAttempts : Nat) (leaseNow : Time) (joined : ClaimableWebhook) : Option GoString :=
  if joined.tenant.status ≠ .active then some (lit "tenant_disabled")
  else if joined.callback.disabledAt.isSome then some (lit "callback_disabled")
  else if joined.row.expiresAt ≤ leaseNow then some (lit "delivery_expired")
  else if maximumAttempts ≤ joined.row.attemptCount then some (lit "attempts_exhausted")
  else if joined.callback.allowedPort = 0 ∨ 65535 < joined.callback.allowedPort ∨ joined.callback.secretKeyVersion = 0 ∨
      65535 < joined.callback.secretKeyVersion ∨ joined.callback.secretCiphertext.length ≤ 16 ∨
      (joined.callback.secretNonce.getD []).length ≠ callbackSecretNonceBytes then some (lit "callback_invalid")
  else none

/-- The columns every statement clears that ends a lease. -/
def WebhookRow.releaseLease (row : WebhookRow) : WebhookRow :=
  { row with workerID := none, leaseToken := none, leaseUntil := none }

def WebhookRow.bury (code : GoString) (leaseNow : Time) (row : WebhookRow) : WebhookRow :=
  { row.releaseLease with status := .dead, lastErrorCode := some code, deadAt := some leaseNow }

def WebhookRow.lease (workerID : GoString) (token : Bytes) (leaseUntil : Time) (row : WebhookRow) : WebhookRow :=
  { row with
    status := .delivering
    attemptCount := row.attemptCount + 1
    workerID := some workerID
    leaseToken := some token
    leaseUntil := some leaseUntil }

def webhookClaim (joined : ClaimableWebhook) (workerID : GoString) (token : Bytes) (leaseUntil : Instant) : WebhookClaim :=
  { outboxID := joined.row.id
    eventID := joined.row.eventID
    eventType := joined.row.eventType
    tenantID := joined.tenant.externalID
    callbackID := joined.callback.externalID
    destinationURL := joined.callback.destinationURL
    allowedHost := joined.callback.allowedHost
    allowedPort := joined.callback.allowedPort
    body := joined.row.payloadBody
    attemptCount := joined.row.attemptCount + 1
    workerID
    leaseToken := token
    leaseUntil
    expiresAt := joined.row.expiresAt
    secret := ⟨joined.callback.secretCiphertext, joined.callback.secretNonce.getD [], joined.callback.secretKeyVersion⟩ }

variable (repository : MySQLWebhookOutboxRepository)

/-- `claimWebhook`. No claim is returned where the row was buried and another one is to
be tried. -/
def claimWebhook (session : WebhookSession) (workerID : GoString)
    (leaseDuration : Duration) : WebhookTx (Option WebhookClaim) := do
  let now ← query WebhookDb.now
  let joined ← require (selectWebhook session.locked now) .notAvailable
  execute fun db => { db with now := db.now + session.waited }
  let leaseNow ← query WebhookDb.now
  match webhookDeadCode repository.maximumAttempts leaseNow joined with
  | some code =>
    let _ ← updateWebhooks (fun row => row.id = joined.row.id) (WebhookRow.bury code leaseNow)
    return none
  | none =>
    let token ← require (fun _ => session.leaseToken)
      (.repository (.unavailable "generate webhook lease token" (.detail "unexpected EOF")))
    let affected ← updateWebhooks (fun row => row.id = joined.row.id)
      (WebhookRow.lease workerID token (leaseNow.add leaseDuration))
    ensure (affected = 1) .notAvailable
    return some (webhookClaim joined workerID token (leaseNow.instant + leaseDuration))

/-! ### Settlements -/

inductive WebhookDisposition where
  | delivered
  | retry
  | permanentFailure
  | other (text : GoString)
deriving DecidableEq, Repr

structure WebhookSettlement where
  disposition : WebhookDisposition
  httpStatus : Int
  errorCode : GoString
  retryAt : Instant
  retryDelay : Duration
deriving DecidableEq, Repr

def webhookErrorConfiguration : GoString := lit "configuration"
def webhookErrorCallbackDecrypt : GoString := lit "callback_decrypt"
def webhookErrorHTTPPermanent : GoString := lit "http_permanent"
def webhookErrorHTTPRetryable : GoString := lit "http_retryable"
def webhookErrorInvalidDelivery : GoString := lit "invalid_delivery"
def webhookErrorNetwork : GoString := lit "network"
def webhookErrorUnsafeDestination : GoString := lit "unsafe_destination"
def webhookErrorDeliveryExpired : GoString := lit "delivery_expired"

def maximumWebhookRetryAfter : Duration := 15 * minute

def retryableWebhookHTTPStatus (status : Int) : Bool :=
  status = 408 ∨ status = 425 ∨ status = 429 ∨ 500 ≤ status ∧ status ≤ 599

def permanentWebhookHTTPStatus (status : Int) : Bool :=
  300 ≤ status ∧ status ≤ 499 ∧ !retryableWebhookHTTPStatus status

def nullableWebhookHTTPStatus (status : Int) : Option Int := if status = 0 then none else some status

def validWebhookClaim (claim : WebhookClaim) : Bool :=
  0 < claim.outboxID ∧ 0 < claim.attemptCount ∧ validWorkerID claim.workerID ∧ claim.leaseToken.length = 32

section

variable (settlement : WebhookSettlement)

def validWebhookSettlement : Bool :=
  if settlement.httpStatus ≠ 0 ∧ ¬ (100 ≤ settlement.httpStatus ∧ settlement.httpStatus ≤ 599) then false
  else
    match settlement.disposition with
    | .delivered =>
      200 ≤ settlement.httpStatus ∧ settlement.httpStatus ≤ 299 ∧ settlement.errorCode = [] ∧ settlement.retryAt = 0 ∧
        settlement.retryDelay = 0
    | .retry =>
      if settlement.retryDelay < 0 then false
      else
        let hasAbsolute : Bool := settlement.retryAt ≠ 0
        let hasDelay : Bool := 0 < settlement.retryDelay ∧ settlement.retryDelay ≤ maximumWebhookRetryAfter
        hasAbsolute ≠ hasDelay ∧ (settlement.errorCode = webhookErrorNetwork ∧ settlement.httpStatus = 0 ∨
          settlement.errorCode = webhookErrorHTTPRetryable ∧ retryableWebhookHTTPStatus settlement.httpStatus)
    | .permanentFailure =>
      if settlement.retryAt ≠ 0 ∨ settlement.retryDelay ≠ 0 then false
      else if settlement.errorCode = webhookErrorHTTPPermanent then permanentWebhookHTTPStatus settlement.httpStatus
      else settlement.httpStatus = 0 ∧ (settlement.errorCode = webhookErrorUnsafeDestination ∨
        settlement.errorCode = webhookErrorConfiguration ∨ settlement.errorCode = webhookErrorInvalidDelivery ∨
        settlement.errorCode = webhookErrorCallbackDecrypt ∨ settlement.errorCode = webhookErrorDeliveryExpired)
    | .other _ => false

def WebhookClaim.holds (claim : WebhookClaim) (now : Time) (row : WebhookRow) : Bool :=
  row.id = claim.outboxID ∧ row.status = .delivering ∧ row.attemptCount = claim.attemptCount ∧
    row.workerID = some claim.workerID ∧ row.leaseToken = some claim.leaseToken ∧
    row.leaseUntil.any fun lease => decide (now < lease)

def WebhookRow.deliver (now : Time) (row : WebhookRow) : WebhookRow :=
  { row.releaseLease with
    status := .delivered
    lastHTTPStatus := nullableWebhookHTTPStatus settlement.httpStatus
    lastErrorCode := none
    deliveredAt := some now }

def WebhookRow.giveUp (now : Time) (row : WebhookRow) : WebhookRow :=
  { row.releaseLease with
    status := .dead
    lastHTTPStatus := nullableWebhookHTTPStatus settlement.httpStatus
    lastErrorCode := some settlement.errorCode
    deadAt := some now }

def WebhookRow.retry (retryAt : Instant) (row : WebhookRow) : WebhookRow :=
  { row.releaseLease with
    status := .pending
    nextAttemptAt := retryAt.stored
    lastHTTPStatus := nullableWebhookHTTPStatus settlement.httpStatus
    lastErrorCode := some settlement.errorCode }

def WebhookSettlement.retryTime (now : Time) : Instant :=
  if 0 < settlement.retryDelay then now.instant + settlement.retryDelay else settlement.retryAt

/-- A time that is given as such has to be near. -/
def WebhookSettlement.retryTimeValid (now : Time) : Bool :=
  0 < settlement.retryDelay ∨
    now.instant < settlement.retryAt ∧ settlement.retryAt - now.instant ≤ maximumWebhookRetryAfter

end

def settleWebhook (claim : WebhookClaim) (settlement : WebhookSettlement) :
    WebhookTx Unit := do
  ensure (validWebhookClaim claim ∧ validWebhookSettlement settlement) .settlementInvalid
  let now ← query WebhookDb.now
  let row ← require (fun db => db.outbox.find? (claim.holds now)) .leaseLost
  match settlement.disposition with
  | .delivered =>
    let _ ← updateWebhooks (fun row => row.id = claim.outboxID) (WebhookRow.deliver settlement now)
  | .permanentFailure =>
    let _ ← updateWebhooks (fun row => row.id = claim.outboxID) (WebhookRow.giveUp settlement now)
  | .retry =>
    ensure (settlement.retryTimeValid now) .settlementInvalid
    if repository.maximumAttempts ≤ row.attemptCount ∨ row.expiresAt.instant ≤ settlement.retryTime now then
      let _ ← updateWebhooks (fun row => row.id = claim.outboxID) (WebhookRow.giveUp settlement now)
    else
      let _ ← updateWebhooks (fun row => row.id = claim.outboxID) (WebhookRow.retry settlement (settlement.retryTime now))
  | .other _ => return ()

/-! ### Retention -/

/-- When the delivery of a row ended: `COALESCE(delivered_at, dead_at)`. -/
def WebhookRow.endedAt (row : WebhookRow) : Option Time := row.deliveredAt.or row.deadAt

def WebhookRow.sweepable (now : Time) (retention : Duration) (row : WebhookRow) : Bool :=
  row.status = .delivered ∧ row.deliveredAt.any (fun ended => decide (ended.instant ≤ now.instant - retention)) ∨
    row.status = .dead ∧ row.deadAt.any (fun ended => decide (ended.instant ≤ now.instant - retention))

def sweepOrder (left right : WebhookRow) : Bool :=
  (left.endedAt.getD 0) < (right.endedAt.getD 0) ∨ left.endedAt.getD 0 = right.endedAt.getD 0 ∧ left.id ≤ right.id

def selectTerminal (locked : List Nat) (retention : Duration) (limit : Nat) (now : Time) (db : WebhookDb) : List Nat :=
  (((db.outbox.filter fun row => row.sweepable now retention && !locked.contains row.id).mergeSort sweepOrder).take limit).map
    WebhookRow.id

/-- The loop of `DELETE` statements; it counts the rows that were there. -/
def deleteWebhooks : List Nat → WebhookTx Nat
  | [] => return 0
  | id :: rest => do
    let affected ← query fun db => db.outbox.countP fun row => row.id = id
    execute fun db => { db with outbox := Table.delete (fun row => row.id = id) db.outbox }
    let deleted ← deleteWebhooks rest
    return affected + deleted

def sweepTerminal (locked : List Nat) (retention : Duration) (limit : Int) : WebhookTx Nat := do
  ensure (0 < retention ∧ retention ≤ 365 * 24 * hour ∧ 1 ≤ limit ∧ limit ≤ 1000) .settlementInvalid
  let now ← query WebhookDb.now
  let ids ← query (selectTerminal locked retention limit.toNat now)
  deleteWebhooks ids

/-! ### The system -/

/-- A row of the outbox as `insertTerminalWebhookEvent` creates it. -/
def newWebhook (id : Nat) (row : OutboxRow) : WebhookRow :=
  { row with
    id, workerID := none, leaseToken := none, leaseUntil := none, lastHTTPStatus := none, lastErrorCode := none
    deliveredAt := none, deadAt := none }

/-- `NewMySQLJobRepository` accepts no other delivery window. -/
def validDeliveryWindow (window : Duration) : Bool := minute ≤ window ∧ window ≤ 7 * 24 * hour

/-- One step of the delivery. Events are inserted by the transactions that end a job;
tenants and callbacks may change at any time. -/
inductive WebhookEvent where
  | tick (elapsed : Nat)
  | provision (tenants : List TenantRow) (callbacks : List WebhookCallback)
  | insert (id : Nat) (window : Duration) (job : ExternalJobRecord) (tenantID callbackID : Nat) (eventID eventType : GoString)
      (payloadBody : Bytes)
  | claim (session : WebhookSession) (workerID : GoString) (leaseDuration : Duration)
  | settle (claim : WebhookClaim) (settlement : WebhookSettlement)
  | sweep (locked : List Nat) (retention : Duration) (limit : Int)

def webhookStep (event : WebhookEvent) (db : WebhookDb) : WebhookDb :=
  match event with
  | .tick elapsed => { db with now := db.now + elapsed }
  | .provision tenants callbacks => { db with tenants, callbacks }
  | .insert id window job tenantID callbackID eventID eventType payloadBody =>
    let row := outboxRow window db.now job tenantID callbackID eventID eventType payloadBody
    if !validDeliveryWindow window || db.outbox.any fun other => other.id = id ∨ other.eventID = eventID ∨ other.jobID = row.jobID then db
    else { db with outbox := db.outbox ++ [newWebhook id row] }
  | .claim session workerID leaseDuration => ((claimWebhook repository session workerID leaseDuration).commit db).2
  | .settle claim settlement => ((settleWebhook repository claim settlement).commit db).2
  | .sweep locked retention limit => ((sweepTerminal locked retention limit).commit db).2

end JudgingServer.External
