import JudgingServer.External.JobCursor
import JudgingServer.External.Submission
import Mathlib.Data.List.Sort
import Mathlib.Data.Prod.Lex

/-! The reads of the job API: `Get`, `List` and the lookup of a replay. -/

namespace JudgingServer.External
open Go Library

/-- `ErrInvalidJobCursor`. -/
def invalidJobCursor : RepositoryError := .detail "invalid external judge job cursor"

/-- `Get`, once its query has been answered. -/
def readJob (answer : Except RepositoryError ExternalJobRecord) : Except RepositoryError ExternalJobRecord :=
  match answer with
  | .ok job => .ok job
  | .error error => .error (if error = .noRows then .externalJobNotFound else .unavailable "read job" error)

def get (tenantExternalID jobExternalID : GoString) (db : Db) : Except RepositoryError ExternalJobRecord :=
  if !matchesExternalID tenantExternalID ∨ !matchesExternalID jobExternalID then .error .externalJobNotFound
  else readJob (getExternalJob tenantExternalID jobExternalID db)

structure JobListOptions where
  cursor : GoString
  limit : Int
  status : GoString
deriving DecidableEq, Repr

structure JobListResult where
  jobs : List ExternalJobRecord
  nextCursor : GoString
deriving DecidableEq, Repr

structure JobListQuery where
  tenantExternalID : GoString
  status : GoString
  after : Option JobCursor
  limit : Nat
deriving DecidableEq, Repr

def JobCursor.precedes (cursor : JobCursor) (job : JobRow) : Bool :=
  job.createdAt.instant < cursor.createdAt ∨ job.createdAt.instant = cursor.createdAt ∧ job.id < cursor.internalID

def JobListQuery.selects (query : JobListQuery) (row : ExternalJobRow) : Bool :=
  row.tenant.externalID = query.tenantExternalID ∧ (query.status = [] ∨ row.job.status.text = query.status) ∧
    query.after.all fun cursor => cursor.precedes row.job

def jobListOrder (row : ExternalJobRow) : Nat ×ₗ Nat := toLex (row.job.createdAt, row.job.id)

/-- `ORDER BY job.created_at DESC, job.id DESC LIMIT limit + 1`. -/
def selectJobs (query : JobListQuery) (db : Db) : List ExternalJobRow :=
  (((externalJobSelect db).filter query.selects).insertionSort fun left right => jobListOrder right ≤ jobListOrder left).take
    (query.limit + 1)

variable (codec : JobCursorCodec)

def listQuery (tenantExternalID : GoString) (options : JobListOptions) :
    Except RepositoryError JobListQuery :=
  if !matchesExternalID tenantExternalID ∨ options.limit < 1 ∨ 100 < options.limit ∨ !validJobStatusFilter options.status then
    .error .externalJobInvalid
  else if options.cursor = [] then .ok ⟨tenantExternalID, options.status, none, options.limit.toNat⟩
  else
    match codec.decode options.cursor tenantExternalID options.status with
    | none => .error invalidJobCursor
    | some cursor => .ok ⟨tenantExternalID, options.status, some cursor, options.limit.toNat⟩

/-- One job more than the page holds was asked for; it only tells that there is a next page. -/
def JobListQuery.page (query : JobListQuery) (jobs : List ExternalJobRecord) :
    Except RepositoryError JobListResult :=
  match (jobs.take query.limit).getLast?, decide (query.limit < jobs.length) with
  | some last, true =>
    match codec.encode ⟨query.tenantExternalID, query.status, last.createdAt.instant, last.internalID⟩ with
    | none => .error (.unavailable "encode next cursor" invalidJobCursor)
    | some nextCursor => .ok ⟨jobs.take query.limit, nextCursor⟩
  | _, _ => .ok ⟨jobs, []⟩

/-- `List`, once its query has been answered. -/
def readJobs (query : JobListQuery) (rows : List ExternalJobRow) : Except RepositoryError JobListResult :=
  match rows.mapM scanExternalJob with
  | .error error => .error (.unavailable "scan listed job" error)
  | .ok jobs => query.page codec jobs

def list (tenantExternalID : GoString) (options : JobListOptions) (db : Db) :
    Except RepositoryError JobListResult :=
  match listQuery codec tenantExternalID options with
  | .error error => .error error
  | .ok query => readJobs codec query (selectJobs query db)

/-- `findSubmitReplay`, with nothing between its two queries. -/
def findSubmitReplay (submission : Submission) (db : Db) : Except RepositoryError (Option SubmitJobResult) :=
  match findReplayRecord submission db with
  | none => .ok none
  | some record =>
    match replayRecord submission record db with
    | .error error => .error error
    | .ok replay => .ok (some replay)

end JudgingServer.External
