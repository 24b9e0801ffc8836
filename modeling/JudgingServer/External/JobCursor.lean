import JudgingServer.External.JobWorker
import JudgingServer.Go.Base64

/-! The cursors of the job list: where a page ends, as a signed text that only the tenant
and the status filter it was made for can use. -/

namespace JudgingServer.External
open Go Library

structure JobCursor where
  tenantID : GoString
  status : GoString
  createdAt : Instant
  internalID : Nat
deriving DecidableEq, Repr

structure JobCursorPayload where
  version : Int
  tenantID : GoString
  status : GoString
  createdMS : Int
  internalID : Nat
deriving DecidableEq, Repr

structure JobCursorCodec where
  digests : Digests
  key : Bytes

def unixEpoch : Instant := 62135596800 * second

def unixMilli (time : Instant) : Int := (time - unixEpoch) / millisecond

def fromUnixMilli (millis : Int) : Instant := unixEpoch + millis * millisecond

/-- The statuses that a list can be filtered by; the empty one stands for all. -/
def validJobStatusFilter (status : GoString) : Bool :=
  status = [] ∨ [JobStatus.queued, .running, .succeeded, .failed, .cancelled].any fun known => known.text = status

def validJobCursor (cursor : JobCursor) : Bool :=
  matchesExternalID cursor.tenantID ∧ cursor.createdAt ≠ 0 ∧ cursor.internalID ≠ 0 ∧ validJobStatusFilter cursor.status

def JobCursorPayload.json (payload : JobCursorPayload) : Json :=
  .object ([(lit "v", .int payload.version), (lit "t", .string payload.tenantID)] ++ jsonOptionalText (lit "s") payload.status ++
    [(lit "c", .int payload.createdMS), (lit "i", .int payload.internalID)])

def decodeUint64 (value : Json) (current : Nat) : Option Nat :=
  match value with
  | .null => some current
  | .int integer => if 0 ≤ integer ∧ integer < 2 ^ 64 then some integer.toNat else none
  | _ => none

def jobCursorFields : List (Json.Field JobCursorPayload) :=
  [⟨lit "v", fun value payload => (Json.decodeInt value payload.version).map fun version => { payload with version }⟩,
    ⟨lit "t", fun value payload => (Json.decodeString value payload.tenantID).map fun tenantID => { payload with tenantID }⟩,
    ⟨lit "s", fun value payload => (Json.decodeString value payload.status).map fun status => { payload with status }⟩,
    ⟨lit "c", fun value payload => (Json.decodeInt value payload.createdMS).map fun createdMS => { payload with createdMS }⟩,
    ⟨lit "i", fun value payload => (decodeUint64 value payload.internalID).map fun internalID => { payload with internalID }⟩]

/-- The first JSON value of the text; what follows it is not looked at. -/
def decodeJobCursorPayload (text : Bytes) : Option JobCursorPayload := do
  let (value, _) ← Json.parseValue (2 * text.length + 2) 0 text
  Json.decodeStruct jobCursorFields value ⟨0, [], [], 0, 0⟩

def JobCursorCodec.encode (codec : JobCursorCodec) (cursor : JobCursor) : Option GoString :=
  if codec.key.length < 32 ∨ !validJobCursor cursor then none
  else
    let payload := JobCursorPayload.json ⟨1, cursor.tenantID, cursor.status, unixMilli cursor.createdAt, cursor.internalID⟩
    some (encodeBase64URL payload.marshal ++ lit "." ++ encodeBase64URL (codec.digests.hmac codec.key payload.marshal))

def JobCursorPayload.cursor (payload : JobCursorPayload) (tenantID status : GoString) : Option JobCursor :=
  let cursor : JobCursor := ⟨payload.tenantID, payload.status, fromUnixMilli payload.createdMS, payload.internalID⟩
  if payload.version ≠ 1 ∨ cursor.tenantID ≠ tenantID ∨ cursor.status ≠ status ∨ !validJobCursor cursor then none else some cursor

def JobCursorCodec.decode (codec : JobCursorCodec) (encoded tenantID status : GoString) : Option JobCursor :=
  if codec.key.length < 32 ∨ encoded.length = 0 ∨ 512 < encoded.length then none
  else
    match split 46 encoded with
    | [first, second] => do
      let payload ← decodeBase64URL first
      let signature ← decodeBase64URL second
      if signature ≠ codec.digests.hmac codec.key payload then none
      else
        let decoded ← decodeJobCursorPayload payload
        decoded.cursor tenantID status
    | _ => none

end JudgingServer.External
