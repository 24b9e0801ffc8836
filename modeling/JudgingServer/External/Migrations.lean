import JudgingServer.External.JobWorker

/-! The row updates of the schema migrations. Statements that only change the schema
have no counterpart here: the tables already have the columns of the last version. -/

namespace JudgingServer.External
open Go Library

/-- `003_durable_job_fencing.sql` -/
def durableJobFencing (db : Db) : Db :=
  let attempts := Table.update (fun attempt => attempt.status = .running)
    (fun attempt => { attempt with
      status := .expired, finishedAt := some (attempt.finishedAt.getD db.now), failureCode := some (lit "MIGRATION_RECLAIM") })
    db.attempts
  let jobs := Table.update (fun job => job.status = .running)
    (fun job => { job.releaseLease with
      status := .queued, nextAttemptAt := db.now, failureCode := some (lit "MIGRATION_RECLAIM") })
    db.jobs
  let attempts := Table.update (fun attempt => attempt.status ≠ .running ∧ attempt.leaseToken.isSome)
    (fun attempt => { attempt with leaseToken := none }) attempts
  let jobs := Table.update
    (fun job => job.status ≠ .running ∧ (job.workerID.isSome ∨ job.leaseToken.isSome ∨ job.leaseUntil.isSome))
    JobRow.releaseLease jobs
  { db with attempts, jobs }

/-- `JSON_SET` of a member that `JSON_CONTAINS_PATH` does not find. -/
def jsonSetMissing (name : GoString) (value : Int) (document : Json) : Json :=
  match document with
  | .object members =>
    if members.any fun entry => entry.1 == name then document else .object (members ++ [(name, .int value)])
  | document => document

/-- `004_tenant_policy_execution_ceilings.sql` -/
def tenantPolicyExecutionCeilings (db : Db) : Db :=
  let ceilings (policy : Json) : Json :=
    jsonSetMissing (lit "maxMemoryLimitMiB") 1024 (jsonSetMissing (lit "maxTimeLimitMillis") 10000 policy)
  { db with tenants := db.tenants.map fun tenant => { tenant with policyJSON := ceilings tenant.policyJSON } }

/-- `005_durable_webhook_outbox.sql` -/
def durableWebhookOutbox (db : Db) : Db :=
  let callbacks := Table.update
    (fun callback => callback.secretNonce.isNone ∨ callback.secretCiphertext.length ≤ 16 ∨ callback.secretKeyVersion = 0)
    (fun callback => { callback with disabledAt := some (callback.disabledAt.getD db.now) }) db.callbacks
  { db with callbacks }

/-- `006_execution_accounting_retention.sql` -/
def executionAccountingRetention (db : Db) : Db :=
  let attempts := Table.update (fun attempt => attempt.status = .running)
    (fun attempt => { attempt with
      status := .expired, leaseToken := none, finishedAt := some (attempt.finishedAt.getD db.now)
      failureCode := some (lit "MIGRATION_ACCOUNTING_RECLAIM"), accountingDay := none
      reservedExecutionMillis := 0, consumedExecutionMillis := 0 })
    db.attempts
  let jobs := Table.update (fun job => job.status = .running)
    (fun job => { job.releaseLease with status := .queued, nextAttemptAt := db.now, failureCode := none }) db.jobs
  { db with attempts, jobs }

def migrations : List (Db → Db) :=
  [durableJobFencing, tenantPolicyExecutionCeilings, durableWebhookOutbox, executionAccountingRetention]

/-- The database after the migrations it has not seen; the first `seen` of them it has. -/
def upgrade (seen : Nat) (db : Db) : Db := (migrations.drop seen).foldl (fun db migration => migration db) db

end JudgingServer.External
