import JudgingServer.External.JobRecord

/-! Terminal webhook events: their encoding and their insertion into the outbox. -/

namespace JudgingServer.External
open Go Library

structure TerminalWebhookEvent where
  eventID : GoString
  occurredAt : Time
  job : ExternalJobRecord
deriving DecidableEq, Repr

def terminalWebhookSchemaVersion : Int := 1

structure TerminalWebhookPayload where
  schemaVersion : Int
  eventID : GoString
  eventType : GoString
  occurredAt : GoString
  tenantID : GoString
  jobID : GoString
  clientReference : GoString
  status : JobStatus
  result : Option DurableJobResult
  failureCode : GoString
deriving DecidableEq, Repr

/-- A member that is left out when its text is empty. -/
def jsonOptionalText (name text : GoString) : List (GoString × Json) :=
  if text.isEmpty then [] else [(name, .string text)]

def jsonOptionalResult (result : Option DurableJobResult) : List (GoString × Json) :=
  match result with
  | some result => [(lit "result", result.json)]
  | none => []

def TerminalWebhookPayload.json (payload : TerminalWebhookPayload) : Json :=
  .object ([(lit "schemaVersion", .int payload.schemaVersion), (lit "eventId", .string payload.eventID),
    (lit "eventType", .string payload.eventType), (lit "occurredAt", .string payload.occurredAt),
    (lit "tenantId", .string payload.tenantID), (lit "jobId", .string payload.jobID)] ++
    jsonOptionalText (lit "clientReference") payload.clientReference ++
    [(lit "status", .string payload.status.text)] ++
    jsonOptionalResult payload.result ++ jsonOptionalText (lit "failureCode") payload.failureCode)

def matchesInfrastructureCode : GoString → Bool := matchesCode

variable (event : TerminalWebhookEvent)

def validWebhookIdentity : Bool :=
  matchesExternalID event.eventID && !event.occurredAt.isZero && matchesExternalID event.job.tenantExternalID &&
    matchesExternalID event.job.externalID && decide (event.job.clientReference.length ≤ 255) &&
    validString event.job.clientReference

def basePayload (eventType : GoString) : TerminalWebhookPayload :=
  { schemaVersion := terminalWebhookSchemaVersion
    eventID := event.eventID
    eventType
    occurredAt := event.occurredAt.format
    tenantID := event.job.tenantExternalID
    jobID := event.job.externalID
    clientReference := event.job.clientReference
    status := event.job.status
    result := none
    failureCode := [] }

def terminalPayload : Except RepositoryError TerminalWebhookPayload :=
  match event.job.status with
  | .succeeded =>
    match event.job.result with
    | some result =>
      if event.job.failureCode ≠ [] ∨ !validateDurableJobResult result then
        .error (.detail "successful webhook result is invalid")
      else .ok { basePayload event (lit "judge.job.completed") with result := some result }
    | none => .error (.detail "successful webhook result is invalid")
  | .failed =>
    if event.job.result.isSome ∨ !matchesInfrastructureCode event.job.failureCode then
      .error (.detail "failed webhook state is invalid")
    else .ok { basePayload event (lit "judge.job.failed") with failureCode := event.job.failureCode }
  | .cancelled =>
    if event.job.result.isSome ∨ event.job.failureCode ≠ [] then .error (.detail "cancelled webhook state is invalid")
    else .ok (basePayload event (lit "judge.job.cancelled"))
  | .queued | .running => .error (.detail "webhook job is not terminal")

def encodeTerminalWebhookEvent : Except RepositoryError (GoString × Bytes) :=
  if !validWebhookIdentity event then .error (.detail "terminal webhook identity is invalid")
  else
    match terminalPayload event with
    | .error error => .error error
    | .ok payload => .ok (payload.eventType, payload.json.marshal)

def outboxRow (window : Duration) (now : Time) (job : ExternalJobRecord) (tenantID callbackID : Nat)
    (eventID eventType : GoString) (payloadBody : Bytes) : OutboxRow :=
  { eventID
    tenantID
    jobID := job.internalID
    callbackID
    eventType
    payloadBody
    status := .pending
    attemptCount := 0
    nextAttemptAt := now
    createdAt := now
    expiresAt := now.add window }

/-- Both keys of the outbox are unique. -/
def outboxConflict (row : OutboxRow) (db : Db) : Bool :=
  db.outbox.any fun other => other.eventID = row.eventID ∨ other.jobID = row.jobID

def sameEvent (job : ExternalJobRecord) (tenantID callbackID : Nat) (row : OutboxRow) : Bool :=
  match encodeTerminalWebhookEvent ⟨row.eventID, row.createdAt, job⟩ with
  | .error _ => false
  | .ok (eventType, payloadBody) =>
    row.tenantID = tenantID ∧ row.callbackID = callbackID ∧ row.eventType = eventType ∧ row.payloadBody = payloadBody

def maximumEventIDAttempts : Nat := 8

/-- The loop over event identifiers: an identifier that is taken by another job's
event is drawn again. -/
def persistTerminalEvent (window : Duration) (now : Time) (job : ExternalJobRecord) (tenantID callbackID : Nat) :
    Nat → List Bytes → Tx GoString
  | 0, _ => .fail (.unavailable "persist terminal webhook event" (.detail "event ID collision budget exhausted"))
  | attempts + 1, entropy =>
    match generateExternalID entropy with
    | .error error => .fail (.unavailable "generate terminal webhook event ID" error)
    | .ok (eventID, entropy) =>
      match encodeTerminalWebhookEvent ⟨eventID, now, job⟩ with
      | .error error => .fail (.unavailable "encode terminal webhook event" error)
      | .ok (eventType, payloadBody) => fun db =>
        let row := outboxRow window now job tenantID callbackID eventID eventType payloadBody
        if outboxConflict row db then
          match db.outbox.find? fun other => other.jobID = job.internalID with
          | none => persistTerminalEvent window now job tenantID callbackID attempts entropy db
          | some existing =>
            if sameEvent job tenantID callbackID existing then .ok (existing.eventID, db)
            else .error (.unavailable "verify authoritative terminal webhook event"
              (.detail "conflicting event for terminal job"))
        else .ok (eventID, { db with outbox := db.outbox ++ [row] })

def insertTerminalWebhookEvent (window : Duration) (entropy : List Bytes) (now : Time) (job : ExternalJobRecord) :
    Tx GoString := do
  let owner ← Transaction.require (fun db => db.jobs.find? fun row => row.id = job.internalID)
    (.unavailable "read terminal webhook ownership" .noRows)
  match owner.callbackID with
  | none => return []
  | some callbackID => persistTerminalEvent window now job owner.tenantID callbackID maximumEventIDAttempts entropy

end JudgingServer.External
