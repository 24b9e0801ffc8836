import JudgingServer.External.WebhookOutbox

/-! One delivery of a webhook: the destinations that requests may be sent to, what a request
has to carry, and what is made of the answer. -/

namespace JudgingServer.External
open Go Library

/-! ### Destinations -/

/-- What is read of a `url.URL`. -/
structure URL where
  scheme : GoString
  host : GoString
  hostname : GoString
  port : GoString
  user : Bool
  fragment : GoString
  opaqueData : GoString
deriving DecidableEq, Repr

/-- The standard library as the delivery uses it. -/
structure NetLibrary where
  parseURL : GoString → Option URL
  /-- `netip.ParseAddr` succeeds. -/
  parseAddr : GoString → Bool
  toLower : GoString → GoString
  /-- `http.NewRequestWithContext` succeeds. -/
  newRequest : GoString → Bool
  /-- `http.ParseTime`. -/
  parseTime : GoString → Option Instant

/-- `strconv.ParseUint(text, 10, bitSize)`. -/
def parseUint (text : GoString) (bitSize : Nat) : Option Nat :=
  if text.isEmpty || !text.all isDigit then none
  else if Json.digitsValue text < 2 ^ bitSize then some (Json.digitsValue text)
  else none

/-- `strings.TrimSuffix(host, ".")`. -/
def trimDot (host : GoString) : GoString := if host.getLast? = some 46 then host.dropLast else host

def validDNSLabel (label : GoString) : Bool :=
  label ≠ [] ∧ label.length ≤ 63 ∧ label.head? ≠ some 45 ∧ label.getLast? ≠ some 45 ∧
    label.all fun byte => isLower byte || isDigit byte || byte == 45

variable (net : NetLibrary)

def validDNSName (host : GoString) : Bool :=
  host ≠ [] ∧ host.length ≤ 253 ∧ host = net.toLower host ∧ host.getLast? ≠ some 46 ∧ (split 46 host).all validDNSLabel

def parseHTTPSDestination (raw : GoString) : Option URL := do
  let parsed ← net.parseURL raw
  if parsed.scheme ≠ lit "https" ∨ parsed.host = [] ∨ parsed.user ∨ parsed.fragment ≠ [] ∨ parsed.opaqueData ≠ [] then none
  else
    let host := net.toLower parsed.hostname
    if !validDNSName net host || net.parseAddr host then none
    else if parsed.port = [] then some parsed
    else
      let port ← parseUint parsed.port 16
      if port = 0 then none else some parsed

def validateCallbackDestination (raw allowedHost : GoString) (allowedPort : Nat) : Option URL := do
  let parsed ← parseHTTPSDestination net raw
  let normalizedHost := net.toLower (trimDot allowedHost)
  if !validDNSName net normalizedHost || net.toLower (trimDot parsed.hostname) ≠ normalizedHost then none
  else
    let port := if parsed.port = [] then 443 else (parseUint parsed.port 16).getD 0
    if allowedPort = 0 ∨ port ≠ allowedPort then none else some parsed

/-! ### Requests -/

structure WebhookDelivery where
  eventID : GoString
  destinationURL : GoString
  secret : Bytes
  body : Bytes
deriving DecidableEq, Repr

def maximumWebhookBodyBytes : Nat := 1048576

/-- The members of an object that fills the whole text. They are read token by token, so that
the object itself does not count for the nesting of its values. -/
def bodyMembers (body : Bytes) : Option (List (GoString × Json)) :=
  match Json.skipBlank body with
  | 123 :: rest =>
    match Json.skipBlank rest with
    | 125 :: after => if (Json.skipBlank after).isEmpty then some [] else none
    | inner => do
      let (members, after) ← Json.parseMembers (2 * body.length + 2) 0 inner
      if (Json.skipBlank after).isEmpty then some members else none
  | _ => none

/-- `webhookBodyEventID`: the one member named `eventId`. -/
def webhookBodyEventID (body : Bytes) : Option GoString := do
  let members ← bodyMembers body
  match members.filter fun member => member.1 == lit "eventId" with
  | [(_, .string eventID)] => if matchesExternalID eventID then some eventID else none
  | _ => none

def validateWebhookDelivery (delivery : WebhookDelivery) : Bool :=
  matchesExternalID delivery.eventID ∧ (parseHTTPSDestination net delivery.destinationURL).isSome ∧
    32 ≤ delivery.secret.length ∧ delivery.secret.length ≤ 1024 ∧
    delivery.body ≠ [] ∧ delivery.body.length ≤ maximumWebhookBodyBytes ∧
    webhookBodyEventID delivery.body = some delivery.eventID

/-- What is signed: the fields, the event's identifier behind its length. -/
def webhookSignedContent (eventID timestamp : GoString) (body : Bytes) : Bytes :=
  lit "v1\n" ++ formatInt eventID.length ++ lit "\n" ++ eventID ++ lit "\n" ++ timestamp ++ lit "\n" ++ body

def signWebhook (digests : Digests) (secret : Bytes) (eventID timestamp : GoString) (body : Bytes) : GoString :=
  lit "v1=" ++ encodeHex (digests.hmac secret (webhookSignedContent eventID timestamp body))

/-! ### Answers -/

/-- What the transport makes of a request. Only the status and one header of a response
are read. -/
inductive RoundTrip where
  | unsafeDestination
  | failed
  | noResponse
  | response (statusCode : Int) (retryAfter : GoString)
deriving DecidableEq, Repr

/-- A deliverer with the answer of its transport and the time of that answer; either may not
be set up. -/
structure WebhookDeliverer where
  transport : Option RoundTrip
  now : Option Instant
deriving DecidableEq, Repr

structure WebhookOutcome where
  disposition : WebhookDisposition
  httpStatus : Int
  retryAfter : Duration
  errorCode : GoString
deriving DecidableEq, Repr

def permanentWebhookOutcome (code : GoString) : WebhookOutcome := ⟨.permanentFailure, 0, 0, code⟩

def retryWebhookOutcome : WebhookOutcome := ⟨.retry, 0, 0, webhookErrorNetwork⟩

def minDuration : Duration := -2 ^ 63

def maxDuration : Duration := 2 ^ 63 - 1

/-- `time.Time.Sub`, which stays within the range of a duration. -/
def Instant.sub (later earlier : Instant) : Duration := max minDuration (min maxDuration (later - earlier))

def parseWebhookRetryAfter (raw : GoString) (now : Instant) (maximum : Duration) : Duration :=
  let raw := trimSpace raw
  if raw = [] then 0
  else
    match parseUint raw 64 with
    | some seconds =>
      if maxDuration / second < seconds then 0
      else if maximum / second < seconds then maximum
      else seconds * second
    | none =>
      match net.parseTime raw with
      | none => 0
      | some date =>
        let delay := Instant.sub date now
        if delay ≤ 0 then 0 else if maximum < delay then maximum else delay

def classifyResponse (statusCode : Int) (retryAfter : GoString) (responseTime : Instant)
    (retryAfterMaximum : Duration) : WebhookOutcome :=
  if statusCode < 200 ∨ 599 < statusCode then permanentWebhookOutcome webhookErrorInvalidDelivery
  else if statusCode < 300 then ⟨.delivered, statusCode, 0, []⟩
  else if statusCode = 408 ∨ statusCode = 425 ∨ statusCode = 429 ∨ 500 ≤ statusCode then
    ⟨.retry, statusCode, parseWebhookRetryAfter net retryAfter responseTime retryAfterMaximum, webhookErrorHTTPRetryable⟩
  else ⟨.permanentFailure, statusCode, 0, webhookErrorHTTPPermanent⟩

def deliverOutcome (deliverer : WebhookDeliverer) (delivery : WebhookDelivery) (retryAfterMaximum : Duration) :
    WebhookOutcome :=
  match deliverer.transport, deliverer.now with
  | some answer, some responseTime =>
    if retryAfterMaximum ≤ 0 ∨ maximumWebhookRetryAfter < retryAfterMaximum then
      permanentWebhookOutcome webhookErrorConfiguration
    else if !validateWebhookDelivery net delivery || !net.newRequest delivery.destinationURL then
      permanentWebhookOutcome webhookErrorInvalidDelivery
    else
      match answer with
      | .unsafeDestination => permanentWebhookOutcome webhookErrorUnsafeDestination
      | .failed | .noResponse => retryWebhookOutcome
      | .response statusCode retryAfter => classifyResponse net statusCode retryAfter responseTime retryAfterMaximum
  | _, _ => permanentWebhookOutcome webhookErrorConfiguration

end JudgingServer.External
