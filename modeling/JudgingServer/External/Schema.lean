import JudgingServer.External.JobState
import JudgingServer.External.Policy

/-! The tables of the judge database, as far as the modelled transactions read or
write them, and the database clock. -/

namespace JudgingServer.External
open Go

inductive TenantStatus where
  | active
  | disabled
deriving DecidableEq, Repr

structure TenantRow where
  id : Nat
  externalID : GoString
  status : TenantStatus
  policyJSON : Json
  lastClaimedAt : Option Time
deriving Repr

inductive PublicationStatus where
  | pending
  | publishing
  | ready
  | abandoned
deriving DecidableEq, Repr

structure BundleRow where
  id : Nat
  externalID : GoString
  tenantID : Nat
  manifestJSON : Json
  publicationStatus : PublicationStatus
  readyAt : Option Time
  deleteMarkedAt : Option Time
  deletedAt : Option Time
deriving Repr

structure CallbackRow where
  id : Nat
  externalID : GoString
  tenantID : Nat
  secretCiphertext : Bytes
  secretNonce : Option Bytes
  secretKeyVersion : Nat
  disabledAt : Option Time
deriving DecidableEq, Repr

structure SourceRow where
  id : Nat
  externalID : GoString
  tenantID : Nat
  objectKey : GoString
  sha256 : Bytes
  sizeBytes : Int
  keyVersion : Nat
  nonce : Bytes
  deleteMarkedAt : Option Time
  deleteToken : Option Bytes
  deleteLeaseUntil : Option Time
  deleteNextAttemptAt : Option Time
  deletedAt : Option Time
deriving DecidableEq, Repr

/-- `t_external_job`. The result column holds the JSON value of a result. -/
structure JobRow where
  id : Nat
  externalID : GoString
  tenantID : Nat
  bundleID : Nat
  sourceObjectID : Nat
  callbackID : Option Nat
  status : JobStatus
  languageID : GoString
  stopOnFailure : Bool
  clientReference : Option GoString
  requestHash : Bytes
  attemptNo : Nat
  workerID : Option GoString
  leaseToken : Option Bytes
  leaseUntil : Option Time
  nextAttemptAt : Time
  cancelRequestedAt : Option Time
  result : Option DurableJobResult
  failureCode : Option GoString
  createdAt : Time
  startedAt : Option Time
  completedAt : Option Time
deriving DecidableEq, Repr

inductive AttemptStatus where
  | running
  | succeeded
  | failed
  | cancelled
  | expired
deriving DecidableEq, Repr

structure AttemptRow where
  tenantID : Nat
  jobID : Nat
  attemptNo : Nat
  workerID : GoString
  leaseToken : Option Bytes
  status : AttemptStatus
  leaseUntil : Time
  accountingDay : Option Day
  reservedExecutionMillis : Int
  consumedExecutionMillis : Int
  startedAt : Time
  finishedAt : Option Time
  failureCode : Option GoString
deriving DecidableEq, Repr

/-- `t_external_execution_daily`. -/
structure DailyRow where
  tenantID : Nat
  accountingDay : Day
  reservedMillis : Int
  consumedMillis : Int
deriving DecidableEq, Repr

structure IdempotencyRow where
  tenantID : Nat
  operationScope : GoString
  keyDigest : Bytes
  requestHash : Bytes
  resourceType : GoString
  resourceExternalID : GoString
  expiresAt : Time
deriving DecidableEq, Repr

inductive OutboxStatus where
  | pending
  | delivering
  | delivered
  | dead
deriving DecidableEq, Repr

structure OutboxRow where
  eventID : GoString
  tenantID : Nat
  jobID : Nat
  callbackID : Nat
  eventType : GoString
  payloadBody : Bytes
  status : OutboxStatus
  attemptCount : Nat
  nextAttemptAt : Time
  createdAt : Time
  expiresAt : Time
deriving DecidableEq, Repr

structure ReservationRow where
  objectKey : GoString
  ownerToken : Bytes
  leaseUntil : Time
  createdAt : Time
deriving DecidableEq, Repr

/-- A database state together with `CURRENT_TIMESTAMP(3)`. -/
structure Db where
  now : Time
  tenants : List TenantRow
  bundles : List BundleRow
  callbacks : List CallbackRow
  sources : List SourceRow
  jobs : List JobRow
  attempts : List AttemptRow
  daily : List DailyRow
  idempotency : List IdempotencyRow
  outbox : List OutboxRow
  reservations : List ReservationRow
deriving Repr

end JudgingServer.External
