import JudgingServer.Proofs.Statements

/-! Reading a job back and announcing its end in the outbox. -/

namespace JudgingServer.Proofs
open Go External Library Table Transaction

variable {p : ExternalJobRow → Bool}

/-- A record was scanned from a job's row. -/
structure Reads (db : Db) (job : JobRow) (record : ExternalJobRecord) : Prop where
  member : job ∈ db.jobs
  internalID : record.internalID = job.id
  tenantInternalID : record.tenantInternalID = job.tenantID
  externalID : record.externalID = job.externalID
  tenant : ∃ tenant ∈ db.tenants, tenant.id = job.tenantID ∧ record.tenantExternalID = tenant.externalID
  status : record.status = job.status
  clientReference : record.clientReference = job.clientReference.getD []
  cancelRequested : record.cancelRequested = job.cancelRequestedAt
  result : record.result = job.result
  resultValid : ∀ result, job.result = some result → validateDurableJobResult result = true
  failureCode : record.failureCode = job.failureCode.getD []

theorem joinExternalJob_some (joined : joinExternalJob db job = some row) :
    row.job = job ∧ row.tenant ∈ db.tenants ∧ row.tenant.id = job.tenantID := by
  unfold joinExternalJob at joined
  simp only [Option.bind_eq_bind, Option.bind_eq_some_iff, Option.pure_def, Option.some.injEq] at joined
  obtain ⟨tenant, found, bundle, _, source, _, rfl⟩ := joined
  exact ⟨rfl, find?_row found⟩

theorem scanExternalJob_ok (scanned : scanExternalJob row = .ok record) :
    (∀ result, row.job.result = some result → validateDurableJobResult result = true) ∧
      record.internalID = row.job.id ∧ record.tenantInternalID = row.job.tenantID ∧ record.externalID = row.job.externalID ∧
      record.tenantExternalID = row.tenant.externalID ∧ record.status = row.job.status ∧
      record.clientReference = row.job.clientReference.getD [] ∧ record.cancelRequested = row.job.cancelRequestedAt ∧
      record.result = row.job.result ∧ record.failureCode = row.job.failureCode.getD [] := by
  unfold scanExternalJob at scanned
  split at scanned
  next => cases scanned
  next =>
    split at scanned
    next => cases scanned
    next valid =>
      obtain rfl := Except.ok.inj scanned
      refine ⟨?_, rfl, rfl, rfl, rfl, rfl, rfl, rfl, rfl, rfl⟩
      intro result stored
      simpa [stored] using valid

/-- The row of a job can be joined with the rows it refers to, and scanned. -/
def Readable (db : Db) (job : JobRow) : Prop := ∃ row record, joinExternalJob db job = some row ∧ scanExternalJob row = .ok record

theorem getExternalJobWhere_ok (read : getExternalJobWhere p db = .ok record) :
    ∃ row, p row = true ∧ Readable db row.job ∧ Reads db row.job record := by
  unfold getExternalJobWhere at read
  split at read
  next => cases read
  next row found =>
    have selected := List.mem_of_find?_eq_some found
    obtain ⟨job, inside, joined⟩ := List.mem_filterMap.mp selected
    obtain ⟨same, tenant, tenantID⟩ := joinExternalJob_some joined
    obtain ⟨valid, id, tenantInternal, externalID, tenantExternal, status, reference, cancel, result, failure⟩ :=
      scanExternalJob_ok read
    refine ⟨row, List.find?_some found, ⟨row, record, same ▸ joined, read⟩, ⟨same ▸ inside, id, tenantInternal, externalID,
      ⟨row.tenant, tenant, same ▸ tenantID, tenantExternal⟩, status, reference, cancel, result, valid, failure⟩⟩

theorem getExternalJobWhere_joined (member : job ∈ db.jobs) (joined : joinExternalJob db job = some row)
    (selected : p row = true) (only : ∀ other : ExternalJobRow, other.job ∈ db.jobs → p other = true → other.job = job) :
    getExternalJobWhere p db = scanExternalJob row := by
  have listed : row ∈ externalJobSelect db := List.mem_filterMap.mpr ⟨job, member, joined⟩
  unfold getExternalJobWhere
  cases found : (externalJobSelect db).find? p with
  | none => exact (List.find?_eq_none.mp found row listed selected).elim
  | some other =>
    obtain ⟨source, inside, otherJoined⟩ := List.mem_filterMap.mp (List.mem_of_find?_eq_some found)
    obtain ⟨rfl, _, _⟩ := joinExternalJob_some otherJoined
    rw [only other inside (List.find?_some found), joined] at otherJoined
    rw [← Option.some.inj otherJoined]

theorem getExternalJobByInternalID_ok (read : getExternalJobByInternalID jobID db = .ok record) :
    ∃ job, job.id = jobID ∧ Reads db job record := by
  obtain ⟨row, selected, _, reads⟩ := getExternalJobWhere_ok read
  exact ⟨row.job, by simpa using selected, reads⟩

private theorem matchesInfrastructureCode_ne_nil (matched : matchesInfrastructureCode code = true) : code ≠ [] := by
  intro empty
  rw [empty] at matched
  cases matched

/-- An encoded event carries the event's identity and the job's final columns. -/
structure Describes (event : TerminalWebhookEvent) (payload : TerminalWebhookPayload) : Prop where
  eventID : payload.eventID = event.eventID
  jobID : payload.jobID = event.job.externalID
  status : payload.status = event.job.status
  terminal : event.job.status.isTerminal = true
  result : payload.result = if event.job.status = .succeeded then event.job.result else none
  resultSet : event.job.status = .succeeded → event.job.result.isSome
  failureCode : payload.failureCode = if event.job.status = .failed then event.job.failureCode else []
  failureSet : event.job.status = .failed → event.job.failureCode ≠ []

/-- What the encoder makes of an event that it accepts. -/
inductive Encodes (event : TerminalWebhookEvent) : TerminalWebhookPayload → Prop where
  | succeeded (status : event.job.status = .succeeded) (result : DurableJobResult) (stored : event.job.result = some result)
      (valid : validateDurableJobResult result = true) (failureCode : event.job.failureCode = []) :
      Encodes event { basePayload event (lit "judge.job.completed") with result := some result }
  | failed (status : event.job.status = .failed) (result : event.job.result = none)
      (failureCode : matchesInfrastructureCode event.job.failureCode = true) :
      Encodes event { basePayload event (lit "judge.job.failed") with failureCode := event.job.failureCode }
  | cancelled (status : event.job.status = .cancelled) (result : event.job.result = none) (failureCode : event.job.failureCode = []) :
      Encodes event (basePayload event (lit "judge.job.cancelled"))

theorem terminalPayload_iff : terminalPayload event = .ok payload ↔ Encodes event payload := by
  unfold terminalPayload
  constructor
  · intro encoded
    cases status : event.job.status with
    | queued | running => simp [status] at encoded
    | succeeded =>
      cases stored : event.job.result with
      | none => simp [status, stored] at encoded
      | some result =>
        simp only [status, stored] at encoded
        split at encoded
        · cases encoded
        next valid =>
          simp only [not_or, not_not, Bool.not_eq_true, Bool.not_eq_false'] at valid
          exact Except.ok.inj encoded ▸ .succeeded status result stored valid.2 valid.1
    | failed =>
      simp only [status] at encoded
      split at encoded
      · cases encoded
      next valid =>
        simp only [not_or, Bool.not_eq_true, Bool.not_eq_false', Option.isSome_eq_false_iff, Option.isNone_iff_eq_none] at valid
        exact Except.ok.inj encoded ▸ .failed status valid.1 valid.2
    | cancelled =>
      simp only [status] at encoded
      split at encoded
      · cases encoded
      next valid =>
        simp only [not_or, not_not, Bool.not_eq_true, Option.isSome_eq_false_iff, Option.isNone_iff_eq_none] at valid
        exact Except.ok.inj encoded ▸ .cancelled status valid.1 valid.2
  · intro encodes
    cases encodes with
    | succeeded status result stored valid failureCode => simp [status, stored, valid, failureCode]
    | failed status result failureCode => simp [status, result, failureCode]
    | cancelled status result failureCode => simp [status, result, failureCode]

theorem Encodes.describes (encodes : Encodes event payload) : Describes event payload := by
  cases encodes with
  | succeeded status result stored => constructor <;> simp [basePayload, status, stored, JobStatus.isTerminal]
  | failed status result failureCode =>
    have set := matchesInfrastructureCode_ne_nil failureCode
    constructor <;> simp [basePayload, status, set, JobStatus.isTerminal]
  | cancelled status => constructor <;> simp [basePayload, status, JobStatus.isTerminal]

private theorem encodeTerminalWebhookEvent_ok (encoded : encodeTerminalWebhookEvent event = .ok (eventType, body)) :
    ∃ payload, validWebhookIdentity event = true ∧ Encodes event payload ∧ eventType = payload.eventType ∧
      body = payload.json.marshal := by
  unfold encodeTerminalWebhookEvent at encoded
  split at encoded
  next => cases encoded
  next identity =>
    split at encoded
    next => cases encoded
    next payload built =>
      obtain ⟨type, printed⟩ := Prod.mk.inj (Except.ok.inj encoded)
      exact ⟨payload, by simpa using identity, terminalPayload_iff.mp built, type.symm, printed.symm⟩

/-- The loop leaves the outbox with one new row for the job, or finds the row that is
already there. Identifiers of other jobs' events only make it try again. -/
theorem persistTerminalEvent_ok (attempts : Nat)
    (ran : persistTerminalEvent window now record tenantID callbackID attempts entropy db = .ok (eventID, db')) :
    (∃ id eventType body payload, Describes ⟨id, now, record⟩ payload ∧ eventType = payload.eventType ∧
      body = payload.json.marshal ∧ (∀ other ∈ db.outbox, other.jobID ≠ record.internalID) ∧
      db' = { db with outbox := db.outbox ++ [outboxRow window now record tenantID callbackID id eventType body] }) ∨
    ((∃ row ∈ db.outbox, row.jobID = record.internalID) ∧ db' = db) := by
  induction attempts generalizing entropy with
  | zero => exact (fail_ok ran).elim
  | succ attempts ih =>
    unfold persistTerminalEvent at ran
    cases drawn : generateExternalID entropy with
    | error error =>
      simp only [drawn] at ran
      exact (fail_ok ran).elim
    | ok draw =>
      obtain ⟨id, left⟩ := draw
      simp only [drawn] at ran
      cases encoded : encodeTerminalWebhookEvent ⟨id, now, record⟩ with
      | error error =>
        simp only [encoded] at ran
        exact (fail_ok ran).elim
      | ok event =>
        obtain ⟨eventType, body⟩ := event
        simp only [encoded] at ran
        obtain ⟨payload, -, encodes, type, bodyEq⟩ := encodeTerminalWebhookEvent_ok encoded
        split at ran
        next =>
          split at ran
          next => exact ih ran
          next row found =>
            split at ran
            next =>
              exact .inr ⟨⟨row, find?_row found⟩, (congrArg Prod.snd (Except.ok.inj ran)).symm⟩
            next => cases ran
        next fresh =>
          refine .inl ⟨id, eventType, body, payload, encodes.describes, type, bodyEq, ?_,
            (congrArg Prod.snd (Except.ok.inj ran)).symm⟩
          intro other member same
          apply fresh
          exact List.any_eq_true.mpr ⟨other, member, by simp [outboxRow, same]⟩

theorem insertTerminalWebhookEvent_ok (keyed : Keyed JobRow.id db.jobs) (reads : Reads db job record)
    (ran : insertTerminalWebhookEvent window entropy now record db = .ok (eventID, db')) :
    Emits job db.outbox db'.outbox ∧ db' = { db with outbox := db'.outbox } := by
  unfold insertTerminalWebhookEvent at ran
  obtain ⟨owner, found, ran⟩ := after_require ran
  obtain ⟨member, owned⟩ := find?_row found
  have same : owner = job := keyed.eq member reads.member (owned.trans reads.internalID)
  subst owner
  cases callback : job.callbackID with
  | none =>
    simp only [callback] at ran
    obtain ⟨-, rfl⟩ := pure_ok ran
    exact ⟨.silent callback, rfl⟩
  | some callbackID =>
    simp only [callback] at ran
    rcases persistTerminalEvent_ok _ ran with
      ⟨id, eventType, body, payload, describes, type, bodyEq, fresh, rfl⟩ | ⟨⟨row, member, owns⟩, rfl⟩
    · refine ⟨.announced _ payload ?_ ?_, rfl⟩
      · have status : payload.status = job.status := describes.status.trans reads.status
        have result := describes.result
        have failure := describes.failureCode
        have resultSet := describes.resultSet
        have failureSet := describes.failureSet
        simp only [reads.status, reads.result, reads.failureCode] at result failure resultSet failureSet
        exact ⟨reads.internalID, rfl, callback, bodyEq, type, describes.eventID, describes.jobID.trans reads.externalID,
          status, result, resultSet, failure, failureSet⟩
      · rw [← reads.internalID]
        exact fresh
    · exact ⟨.repeated row member (owns.trans reads.internalID) (by simp [callback]), rfl⟩

theorem publishTerminal_ok (keyed : Keyed JobRow.id db.jobs) (member : job ∈ db.jobs) (id : job.id = jobID)
    (ran : publishTerminal repository entropy now jobID operation db = .ok (done, db')) :
    Emits job db.outbox db'.outbox ∧ db' = { db with outbox := db'.outbox } := by
  unfold publishTerminal at ran
  obtain ⟨record, _, read, ran⟩ := bind_ok ran
  obtain ⟨scanned, rfl⟩ := unavailableOn_ok read
  obtain ⟨other, same, reads⟩ := getExternalJobByInternalID_ok scanned
  obtain rfl : other = job := keyed.eq reads.member member (same.trans id.symm)
  obtain ⟨eventID, last, insert, ran⟩ := bind_ok ran
  obtain ⟨-, rfl⟩ := pure_ok ran
  exact insertTerminalWebhookEvent_ok keyed reads insert

end JudgingServer.Proofs
