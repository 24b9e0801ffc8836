import JudgingServer.Proofs.Verdicts

/-! Which accepted cases a special judge has vouched for. -/

namespace JudgingServer.Proofs
open Go Bundle Library Sandbox Service

/-! ### The checker batch -/

private theorem dereference_ok {α : Type} {pointer : Option α} {value : α} (read : dereference pointer = .ok value) :
    pointer = some value := by
  cases pointer with
  | none => cases read
  | some found => rw [Except.ok.inj read]

def acceptedIndexes : Nat → List CanonicalCaseResult → List Nat
  | _, [] => []
  | first, item :: rest =>
    if item.status = .accepted then first :: acceptedIndexes (first + 1) rest else acceptedIndexes (first + 1) rest

variable (items : List CanonicalCaseResult)

/-- The cases of a checker batch and the reported cases they are about. -/
structure Drafted (first : Nat) (cases : List ExecuteBatchV1Case) (indexes : List Nat) : Prop where
  length : cases.length = indexes.length
  named : ∀ (slot index : Nat), indexes[slot]? = some index → ∃ requestCase item, cases[slot]? = some requestCase ∧
    first ≤ index ∧ items[index - first]? = some item ∧ requestCase.caseID = item.caseID ∧ item.status = .accepted
  complete : ∀ (offset : Nat) (item : CanonicalCaseResult), items[offset]? = some item → item.status = .accepted →
    first + offset ∈ indexes
  distinct : indexes.Nodup
  listed : indexes = acceptedIndexes first items

theorem Drafted.above {items : List CanonicalCaseResult} {cases : List ExecuteBatchV1Case}
    (drafted : Drafted items first cases indexes) (member : index ∈ indexes) : first ≤ index := by
  obtain ⟨slot, slotAt⟩ := List.mem_iff_getElem?.mp member
  obtain ⟨_, _, _, above, _⟩ := drafted.named slot index slotAt
  exact above

private theorem appendCheckerCase_ok
    (appended : appendCheckerCase pipeline contestantRequest expectedOutputs actualOutputs index draft item = .ok next) :
    (item.status ≠ .accepted ∧ next = draft) ∨
    ∃ requestCase, (requestCase.caseID = item.caseID ∧ item.status = .accepted) ∧ next.cases = draft.cases ++ [requestCase] ∧
      next.caseIndexes = draft.caseIndexes ++ [index] ∧ next.requestBytes = draft.requestBytes + batchCaseWireBytes requestCase ∧
      next.requestBytes ≤ pipeline.maxBatchRequestBytes := by
  unfold appendCheckerCase at appended
  split at appended
  next failed => exact .inl ⟨failed, (Except.ok.inj appended).symm⟩
  next accepted =>
    obtain ⟨_, _, appended⟩ := checked_ok appended
    obtain ⟨_, _, appended⟩ := checked_ok appended
    obtain ⟨_, _, appended⟩ := checked_ok appended
    obtain ⟨_, _, appended⟩ := checked_ok appended
    obtain ⟨_, _, appended⟩ := checked_ok appended
    obtain ⟨_, within, appended⟩ := checked_ok appended
    obtain rfl := Except.ok.inj appended
    exact .inr ⟨_, ⟨rfl, not_not.mp accepted⟩, rfl, rfl, rfl, Int.not_lt.mp (rejectIf_ok within)⟩

theorem appendCheckerCases_ok (appended : appendCheckerCases pipeline contestantRequest expectedOutputs actualOutputs first items draft = .ok next) :
    ∃ cases indexes, next.cases = draft.cases ++ cases ∧ next.caseIndexes = draft.caseIndexes ++ indexes ∧
      Drafted items first cases indexes ∧ next.requestBytes = draft.requestBytes + (cases.map batchCaseWireBytes).sum ∧
      (draft.requestBytes ≤ pipeline.maxBatchRequestBytes ∨ cases ≠ [] → next.requestBytes ≤ pipeline.maxBatchRequestBytes) := by
  induction items generalizing first draft with
  | nil =>
    obtain rfl := Except.ok.inj appended
    exact ⟨[], [], by simp, by simp, ⟨rfl, fun slot index found => by simp at found, fun offset item found => by simp at found,
      List.nodup_nil, rfl⟩, by simp, by simp⟩
  | cons item rest ih =>
    obtain ⟨middle, one, appended⟩ := checked_ok appended
    obtain ⟨cases, indexes, casesOf, indexesOf, drafted, bytes, within⟩ := ih appended
    have named : ∀ (slot index : Nat), indexes[slot]? = some index → ∃ requestCase found, cases[slot]? = some requestCase ∧
        first ≤ index ∧ (item :: rest)[index - first]? = some found ∧ requestCase.caseID = found.caseID ∧
          found.status = .accepted := by
      intro slot index found
      obtain ⟨requestCase, other, caseAt, above, itemAt, same⟩ := drafted.named slot index found
      refine ⟨requestCase, other, caseAt, by omega, ?_, same⟩
      rw [show index - first = index - (first + 1) + 1 by omega, List.getElem?_cons_succ]
      exact itemAt
    cases appendCheckerCase_ok one with
    | inl skipped =>
      obtain ⟨failed, rfl⟩ := skipped
      refine ⟨cases, indexes, casesOf, indexesOf, ⟨drafted.length, named, ?_, drafted.distinct, ?_⟩, bytes, within⟩
      · intro offset other found accepted
        cases offset with
        | zero =>
          obtain rfl := Option.some.inj found
          exact absurd accepted failed
        | succ offset =>
          rw [show first + (offset + 1) = first + 1 + offset by omega]
          exact drafted.complete offset other found accepted
      · rw [acceptedIndexes, if_neg failed]
        exact drafted.listed
    | inr added =>
      obtain ⟨requestCase, sameID, middleCases, middleIndexes, middleBytes, fits⟩ := added
      refine ⟨requestCase :: cases, first :: indexes, by simp [casesOf, middleCases], by simp [indexesOf, middleIndexes],
        ⟨by simp [drafted.length], ?_, ?_, ?_, ?_⟩, ?_, fun _ => within (.inl fits)⟩
      · intro slot index found
        cases slot with
        | zero =>
          obtain rfl := Option.some.inj found
          exact ⟨requestCase, item, rfl, Nat.le_refl _, by simp, sameID⟩
        | succ slot => exact named slot index found
      · intro offset other found accepted
        cases offset with
        | zero => exact List.mem_cons_self
        | succ offset =>
          rw [show first + (offset + 1) = first + 1 + offset by omega]
          exact List.mem_cons_of_mem _ (drafted.complete offset other found accepted)
      · refine List.nodup_cons.mpr ⟨fun member => ?_, drafted.distinct⟩
        have above := drafted.above member
        omega
      · rw [acceptedIndexes, if_pos sameID.2, ← drafted.listed]
      · rw [bytes, middleBytes, List.map_cons, List.sum_cons]
        omega

theorem prepareSpecialJudge_ok
    (prepared : prepareSpecialJudge pipeline artifact contestantRequest expectedOutputs actualOutputs result = .ok (request, indexes)) :
    Drafted result.cases 0 request.cases indexes := by
  unfold prepareSpecialJudge at prepared
  simp only at prepared
  split at prepared
  next source judge _ _ =>
    obtain ⟨_, _, prepared⟩ := checked_ok prepared
    obtain ⟨_, _, prepared⟩ := checked_ok prepared
    obtain ⟨draft, appended, prepared⟩ := checked_ok prepared
    obtain ⟨cases, caseIndexes, casesOf, indexesOf, drafted, -, -⟩ := appendCheckerCases_ok _ appended
    obtain ⟨rfl, rfl⟩ := Prod.mk.inj (Except.ok.inj prepared)
    rw [indexesOf]
    simp only [casesOf, List.nil_append]
    exact drafted
  next => cases prepared

/-! ### Judgements -/

/-- The event at `slot` carries a response whose output is a verdict of the checker. -/
def CheckerAnswers (events : List (Option ExecuteBatchV1Event)) (slot : Nat) (response : ExecuteResponse) (verdict : Bool) : Prop :=
  ∃ event, events[slot]? = some (some event) ∧ event.result = some response ∧ response.status = lit "Accepted" ∧
    parseSpecialJudgeOutput response.stdout = some verdict

theorem judgeCase_ok {slot : Nat} {next : List CanonicalCaseResult} {event : Option ExecuteBatchV1Event}
    (judged : judgeCase indexes slot cases event = .ok next) :
    ∃ index item response verdict, indexes[slot]? = some index ∧ cases[index]? = some item ∧
      CheckerAnswers [event] 0 response verdict ∧ next = cases.set index (item.judged response verdict) := by
  obtain ⟨present, read, answered⟩ := checked_ok judged
  have streamed : [event][0]? = some (some present) := congrArg some (dereference_ok read)
  split at answered
  next => cases answered
  next response carries =>
    obtain ⟨_, ran, answered⟩ := checked_ok answered
    split at answered
    next => cases answered
    next verdict parsed =>
      obtain ⟨index, indexAt, answered⟩ := checked_ok answered
      obtain ⟨item, itemAt, answered⟩ := checked_ok answered
      obtain rfl := Except.ok.inj answered
      exact ⟨index, item, response, verdict, dereference_ok indexAt, dereference_ok itemAt,
        ⟨present, streamed, carries, by simpa using rejectIf_ok ran, parsed⟩, rfl⟩

/-- The case at `index` was judged by the event that is about it. -/
def JudgedBy (indexes : List Nat) (first : Nat) (events : List (Option ExecuteBatchV1Event)) (cases : List CanonicalCaseResult)
    (index : Nat) (item : CanonicalCaseResult) : Prop :=
  ∃ slot < events.length, ∃ before response verdict, indexes[first + slot]? = some index ∧ cases[index]? = some before ∧
    CheckerAnswers events slot response verdict ∧ item = before.judged response verdict

/-- After the loop each case was judged by the one event about it, or there is
none and the case is as it was. -/
theorem judgeCases_ok (distinct : indexes.Nodup) (events : List (Option ExecuteBatchV1Event)) {next : List CanonicalCaseResult}
    (judged : judgeCases indexes first events cases = .ok next) (found : next[index]? = some item) :
    JudgedBy indexes first events cases index item ∨
      (cases[index]? = some item ∧ ∀ slot < events.length, indexes[first + slot]? ≠ some index) := by
  induction events generalizing first cases with
  | nil =>
    obtain rfl := Except.ok.inj judged
    exact .inr ⟨found, fun slot below => absurd below (Nat.not_lt_zero slot)⟩
  | cons event rest ih =>
    obtain ⟨middle, one, judged⟩ := checked_ok judged
    obtain ⟨target, before, response, verdict, targetAt, beforeAt, answered, rfl⟩ := judgeCase_ok one
    have shift : ∀ slot, first + 1 + slot = first + (slot + 1) := fun slot => by omega
    cases ih judged with
    | inl later =>
      obtain ⟨slot, below, other, otherResponse, otherVerdict, slotAt, otherAt, said, same⟩ := later
      rw [shift] at slotAt
      have apart : target ≠ index := by
        intro equal
        rw [← equal] at slotAt
        have slots := (List.getElem?_inj (List.getElem?_eq_some_iff.mp targetAt).1 distinct).mp (targetAt.trans slotAt.symm)
        omega
      rw [List.getElem?_set_ne apart] at otherAt
      exact .inl ⟨slot + 1, Nat.succ_lt_succ below, other, otherResponse, otherVerdict, slotAt, otherAt, said, same⟩
    | inr untouched =>
      obtain ⟨kept, never⟩ := untouched
      by_cases same : target = index
      · subst same
        rw [List.getElem?_set_self (List.getElem?_eq_some_iff.mp beforeAt).1] at kept
        exact .inl ⟨0, Nat.succ_pos _, before, response, verdict, targetAt, beforeAt, answered, (Option.some.inj kept).symm⟩
      · rw [List.getElem?_set_ne same] at kept
        refine .inr ⟨kept, fun slot below => ?_⟩
        cases slot with
        | zero =>
          intro atIndex
          exact same (Option.some.inj (targetAt.symm.trans atIndex))
        | succ slot =>
          rw [← shift]
          exact never slot (Nat.lt_of_succ_lt_succ below)

theorem judgeCases_length (events : List (Option ExecuteBatchV1Event)) {next : List CanonicalCaseResult}
    (judged : judgeCases indexes first events cases = .ok next) : next.length = cases.length := by
  induction events generalizing first cases with
  | nil => rw [Except.ok.inj judged]
  | cons event rest ih =>
    obtain ⟨middle, one, judged⟩ := checked_ok judged
    obtain ⟨_, _, _, _, _, _, _, rfl⟩ := judgeCase_ok one
    rw [ih judged, List.length_set]

theorem recomputeCanonicalVerdict_cases (result : CanonicalResult) : (recomputeCanonicalVerdict result).cases = result.cases := by
  have kept : ∀ (items : List CanonicalCaseResult) (tallied : CanonicalResult),
      (items.foldl CanonicalResult.tally tallied).cases = tallied.cases := by
    intro items
    induction items with
    | nil => exact fun tallied => rfl
    | cons item rest ih => exact fun tallied => ih _
  exact kept result.cases _

theorem applySpecialJudge_ok
    (judged : applySpecialJudge pipeline checker artifact contestantRequest expectedOutputs actualOutputs before = .ok result) :
    ((∃ request, prepareSpecialJudge pipeline artifact contestantRequest expectedOutputs actualOutputs before =
        .ok (request, acceptedIndexes 0 before.cases)) ∧
      acceptedIndexes 0 before.cases = [] ∧ result = recomputeCanonicalVerdict before) ∨
    ∃ request events cases, acceptedIndexes 0 before.cases ≠ [] ∧ events.length = request.cases.length + 1 ∧
      prepareSpecialJudge pipeline artifact contestantRequest expectedOutputs actualOutputs before =
        .ok (request, acceptedIndexes 0 before.cases) ∧
      pipeline.runBatch checker request = .ok (some events) ∧
      judgeCases (acceptedIndexes 0 before.cases) 0 events.dropLast before.cases = .ok cases ∧
      result = recomputeCanonicalVerdict { before with cases := cases } := by
  obtain ⟨⟨request, indexes⟩, prepared, judged⟩ := checked_ok judged
  obtain rfl := (prepareSpecialJudge_ok prepared).listed
  have length := (prepareSpecialJudge_ok prepared).length
  simp only at judged
  split at judged
  next empty =>
    rw [List.isEmpty_iff.mp empty] at length
    exact .inl ⟨⟨request, prepared⟩, List.length_eq_zero_iff.mp length.symm, (Except.ok.inj judged).symm⟩
  next some =>
    obtain ⟨response, ran, judged⟩ := checked_ok judged
    cases response with
    | none => cases judged
    | some events =>
      obtain ⟨_, sized, judged⟩ := checked_ok judged
      obtain ⟨_, _, judged⟩ := checked_ok judged
      obtain ⟨_, _, judged⟩ := checked_ok judged
      obtain ⟨cases, judgements, judged⟩ := checked_ok judged
      refine .inr ⟨request, events, cases, fun none => some ?_, by simpa using rejectIf_ok sized, prepared, ran, judgements,
        (Except.ok.inj judged).symm⟩
      rw [none] at length
      rw [List.length_eq_zero_iff.mp length]
      rfl

/-- The checker batch that follows a contestant batch accepted the case at `index`. -/
def Vouched (pipeline : BatchBundlePipeline) (artifact : Artifact) (checker : SandboxFleet) (batch : ContestantBatch)
    (index : Nat) (caseID : GoString) : Prop :=
  ∃ (request : ExecuteBatchV1Request) (caseIndexes : List Nat) (events : List (Option ExecuteBatchV1Event)) (slot : Nat)
    (event : ExecuteBatchV1Event) (response : ExecuteResponse),
    prepareSpecialJudge pipeline artifact batch.request batch.expectedChecks batch.actualOutputs batch.result =
      .ok (request, caseIndexes) ∧
    pipeline.runBatch checker request = .ok (some events) ∧ caseIndexes[slot]? = some index ∧
    events[slot]? = some (some event) ∧ event.caseID = caseID ∧ event.result = some response ∧
    response.status = lit "Accepted" ∧ parseSpecialJudgeOutput response.stdout = some true

private theorem applySpecialJudge_vouched
    (judged : applySpecialJudge pipeline checker artifact batch.request batch.expectedChecks batch.actualOutputs batch.result = .ok result)
    (found : result.cases[index]? = some item) (accepted : item.status = .accepted) :
    (∃ before, batch.result.cases[index]? = some before ∧ before.caseID = item.caseID ∧ before.status = .accepted) ∧
      Vouched pipeline artifact checker batch index item.caseID := by
  cases applySpecialJudge_ok judged with
  | inl unjudged =>
    obtain ⟨⟨request, prepared⟩, none, rfl⟩ := unjudged
    rw [recomputeCanonicalVerdict_cases] at found
    have indexed := (prepareSpecialJudge_ok prepared).complete index item found accepted
    rw [none] at indexed
    cases indexed
  | inr checked =>
    obtain ⟨request, events, cases, _, length, prepared, ran, judgements, rfl⟩ := checked
    have drafted := prepareSpecialJudge_ok prepared
    rw [recomputeCanonicalVerdict_cases] at found
    obtain ⟨slot, before, slotAt, beforeAt, response, event, streamed, carries, ranOk, parsed, same⟩ :
        ∃ (slot : Nat) (before : CanonicalCaseResult), (acceptedIndexes 0 batch.result.cases)[slot]? = some index ∧
          batch.result.cases[index]? = some before ∧
          ∃ (response : ExecuteResponse) (event : ExecuteBatchV1Event), events.dropLast[slot]? = some (some event) ∧
            event.result = some response ∧ response.status = lit "Accepted" ∧
            parseSpecialJudgeOutput response.stdout = some true ∧ item = before.judged response true := by
      cases judgeCases_ok drafted.distinct _ judgements found with
      | inl judgedBy =>
        obtain ⟨slot, _, before, response, verdict, slotAt, beforeAt, ⟨event, streamed, carries, ranOk, parsed⟩, rfl⟩ := judgedBy
        cases verdict with
        | false => cases accepted
        | true => exact ⟨slot, before, by simpa using slotAt, beforeAt, response, event, streamed, carries, ranOk, parsed, rfl⟩
      | inr untouched =>
        obtain ⟨kept, never⟩ := untouched
        -- the checker batch has an event for every accepted case
        obtain ⟨slot, below, slotAt⟩ := List.getElem_of_mem (drafted.complete index item kept accepted)
        refine absurd ?_ (never slot ?_)
        · rw [Nat.zero_add, List.getElem?_eq_getElem below, slotAt, Nat.zero_add]
        · rw [List.length_dropLast, length, Nat.add_sub_cancel, drafted.length]
          exact below
    obtain ⟨requestCase, original, caseAt, _, originalAt, named, wasAccepted⟩ := drafted.named slot index slotAt
    rw [Nat.sub_zero, beforeAt] at originalAt
    obtain rfl := Option.some.inj originalAt
    have sameID : before.caseID = item.caseID := by rw [same]; rfl
    have eventAt : events[slot]? = some (some event) := by
      rw [List.getElem?_dropLast] at streamed
      split at streamed
      next => exact streamed
      next => cases streamed
    refine ⟨⟨before, beforeAt, sameID, wasAccepted⟩, request, _, events, slot, event, response, prepared, ran, slotAt,
      eventAt, ?_, carries, ranOk, parsed⟩
    cases validateBatchEvents_ok (runBatch_ok ran).2 with
    | inl failed =>
      obtain ⟨_, rfl, _⟩ := failed
      cases streamed
    | inr answered =>
      obtain ⟨responses, answers⟩ := answered
      obtain ⟨asked, _, askedAt, _, rfl⟩ := answers.event_at streamed
      rw [caseAt] at askedAt
      obtain rfl := Option.some.inj askedAt
      exact named.trans sameID

/-! ### Unchecked acceptance -/

/-- The contestant batch reported the case at `index` as accepted. -/
def ContestantAccepted (batch : ContestantBatch) (index : Nat) (caseID : GoString) : Prop :=
  ∃ (event : ExecuteBatchV1Event) (response : ExecuteResponse), batch.events[index]? = some (some event) ∧
    event.caseID = caseID ∧ event.result = some response ∧ response.status = lit "Accepted"

/-- Accepted cases and points of an OI score belong to cases that the contestant
batch and the checker accepted. -/
structure FullyChecked (pipeline : BatchBundlePipeline) (artifact : Artifact) (checker : SandboxFleet) (batch : ContestantBatch)
    (result : CanonicalResult) : Prop where
  accepted : ∀ (index : Nat) (item : CanonicalCaseResult), result.cases[index]? = some item → item.status = .accepted →
    ContestantAccepted batch index item.caseID ∧ Vouched pipeline artifact checker batch index item.caseID
  points : artifact.manifest.judgeMode = .oi → ∀ (index : Nat) (item : CanonicalCaseResult), result.cases[index]? = some item →
    item.score.getD 0 ≠ 0 →
    ContestantAccepted batch index item.caseID ∧ Vouched pipeline artifact checker batch index item.caseID
  awarded : artifact.manifest.judgeMode = .oi →
    result.score = some (result.cases.map fun item => item.score.getD 0).sum

/-- The statuses a batch reported for its cases. -/
def contestantStatuses (events : List (Option ExecuteBatchV1Event)) : List GoString :=
  events.filterMap fun event => (event.bind ExecuteBatchV1Event.result).map ExecuteResponse.status

/-- The aggregated status is a compile error although a case is accepted, so
that the checker is not run. -/
def SkipsChecker (events : List (Option ExecuteBatchV1Event)) : Prop :=
  ((contestantStatuses events).find? fun status => status ≠ lit "Accepted") = some (lit "Compile Error") ∧
    lit "Accepted" ∈ contestantStatuses events

private theorem Answers.statuses (answers : Answers request responses events) :
    contestantStatuses events = responses.map ExecuteResponse.status :=
  answers.filterMap (fun _ _ => rfl) rfl

private theorem mapBundleStatus_compileError : mapBundleStatus status = .compileError ↔ status = lit "Compile Error" := by
  have distinct : lit "Accepted" ≠ lit "Compile Error" := by decide
  unfold mapBundleStatus mapCallbackStatus
  grind

private theorem localStatus_special : localStatus sha256 .special check response = mapBundleStatus response.status := by
  unfold localStatus
  rw [if_neg fun fails => fails.2.1 rfl]

/-- A response that is reported as accepted before any special judge. -/
def passes (sha256 : Bytes → Bytes) (checker : Checker) (check : GoString) (response : ExecuteResponse) : Bool :=
  response.status = lit "Accepted" ∧ (checker = .special ∨ outputMatchesExpectedCheck sha256 checker response.stdout check)

private theorem localStatus_passes :
    localStatus sha256 checker check response = .accepted ↔ passes sha256 checker check response = true := by
  unfold localStatus passes
  simp only [decide_eq_true_eq]
  by_cases accepted : response.status = lit "Accepted"
  · by_cases special : checker = .special
    · simp [accepted, special, mapBundleStatus_accepted.mpr]
    · cases agrees : outputMatchesExpectedCheck sha256 checker response.stdout check with
      | false => simp [accepted, special]
      | true => simp [accepted, mapBundleStatus_accepted.mpr]
  · simp [accepted, mapBundleStatus_accepted]

private theorem localStatus_compileError :
    localStatus sha256 checker check response = .compileError ↔ response.status = lit "Compile Error" := by
  unfold localStatus
  split
  next differs =>
    rw [differs.1]
    exact ⟨nofun, fun same => absurd same (by decide)⟩
  next => exact mapBundleStatus_compileError

theorem overallStatus_failsInCompilation (pairs : List (ExecuteBatchV1Case × GoString)) (responses : List ExecuteResponse) :
    overallStatus (List.zipWith (report sha256 checker) pairs responses) = .compileError ↔
      ((((pairs.map Prod.snd).zip responses).find? fun pair => !passes sha256 checker pair.1 pair.2).map fun pair => pair.2.status) =
        some (lit "Compile Error") := by
  induction pairs generalizing responses with
  | nil => exact ⟨nofun, nofun⟩
  | cons prepared pairs ih =>
    cases responses with
    | nil => exact ⟨nofun, nofun⟩
    | cons response responses =>
      have tail := ih responses
      have status : (report sha256 checker prepared response).status = localStatus sha256 checker prepared.2 response := rfl
      unfold overallStatus at tail ⊢
      rw [List.zipWith_cons_cons, List.find?_cons, List.map_cons, List.zip_cons_cons, List.find?_cons, status]
      cases passing : passes sha256 checker prepared.2 response with
      | true =>
        simp only [localStatus_passes.mpr passing, ne_eq, not_true_eq_false, decide_false, Bool.not_true]
        exact tail
      | false =>
        have failed : localStatus sha256 checker prepared.2 response ≠ .accepted := by
          rw [ne_eq, localStatus_passes, passing]
          decide
        simp only [failed, ne_eq, not_false_eq_true, decide_true, Bool.not_false, Option.map_some, Option.getD_some, status,
          Option.some.injEq]
        exact localStatus_compileError

private theorem overallStatus_compileError (pairs : List (ExecuteBatchV1Case × GoString)) (responses : List ExecuteResponse)
    (within : responses.length ≤ pairs.length) :
    overallStatus (List.zipWith (report sha256 .special) pairs responses) = .compileError ↔
      ((responses.map ExecuteResponse.status).find? fun status => status ≠ lit "Accepted") = some (lit "Compile Error") := by
  have failing : (fun pair : GoString × ExecuteResponse => !passes sha256 .special pair.1 pair.2) =
      (fun status => decide (status ≠ lit "Accepted")) ∘ fun pair => pair.2.status := by
    funext pair
    simp [passes]
  have whole : ((pairs.map Prod.snd).zip responses).map Prod.snd = responses := List.map_snd_zip (by simpa using within)
  rw [overallStatus_failsInCompilation, failing]
  conv_rhs => rw [← whole, List.map_map, List.find?_map]
  rfl

private theorem scoreCases_within (cases : List Case)
    (returned : scoreCases items cases score = .ok scored) : items.length ≤ cases.length := by
  induction items generalizing cases score scored with
  | nil => exact Nat.zero_le _
  | cons item rest ih =>
    cases cases with
    | nil => cases returned
    | cons testCase cases =>
      obtain ⟨_, tail, _⟩ := checked_ok returned
      exact Nat.succ_le_succ (ih cases tail)

/-- A result with at most the cases of the manifest is scored, and the reported
cases keep their statuses. -/
theorem applyManifestScoring_runs (scoring : Scoring manifest) (within : judged.cases.length ≤ manifest.cases.length) :
    ∃ result, applyManifestScoring manifest judged = .ok result ∧
      ∀ (index : Nat) (item : CanonicalCaseResult), judged.cases[index]? = some item →
        ∃ scored, result.cases[index]? = some scored ∧ scored.status = item.status := by
  cases scoring.modes with
  | inl acm => exact ⟨judged, applyManifestScoring_acm acm, fun index item found => ⟨item, found, rfl⟩⟩
  | inr oi =>
    obtain ⟨result, scores, cases, _⟩ := applyManifestScoring_oi oi (scoring.total oi) within
    refine ⟨result, scores, fun index item found => ?_⟩
    have below : index < manifest.cases.length := Nat.lt_of_lt_of_le (List.getElem?_eq_some_iff.mp found).1 within
    refine ⟨scoreItem item manifest.cases[index], ?_, rfl⟩
    rw [cases]
    exact List.getElem?_zipWith_eq_some.mpr ⟨item, _, found, List.getElem?_eq_getElem below, rfl⟩

/-- Scoring keeps the statuses and gives points to accepted cases only. -/
theorem FullyChecked.of_scoring (scoring : Scoring artifact.manifest)
    (scored : applyManifestScoring artifact.manifest judged = .ok result)
    (vouched : ∀ (index : Nat) (item : CanonicalCaseResult), judged.cases[index]? = some item → item.status = .accepted → ContestantAccepted batch index item.caseID ∧ Vouched pipeline artifact checker batch index item.caseID) :
    FullyChecked pipeline artifact checker batch result := by
  cases scoring.modes with
  | inl acm =>
    have notOI : artifact.manifest.judgeMode ≠ .oi := by
      rw [acm]
      decide
    rw [applyManifestScoring_acm acm] at scored
    obtain rfl := Except.ok.inj scored
    exact ⟨vouched, fun oi => absurd oi notOI, fun oi => absurd oi notOI⟩
  | inr oi =>
    have within : judged.cases.length ≤ artifact.manifest.cases.length := by
      have returned := scored
      unfold applyManifestScoring at returned
      rw [oi, scoring.total oi] at returned
      obtain ⟨_, scores, _⟩ := checked_ok returned
      exact scoreCases_within _ _ scores
    obtain ⟨expected, scores, cases, score, _, _⟩ := applyManifestScoring_oi oi (scoring.total oi) within
    rw [scored] at scores
    obtain rfl := Except.ok.inj scores
    refine ⟨?_, ?_, ?_⟩
    · intro index item found accepted
      rw [cases] at found
      obtain ⟨before, testCase, beforeAt, _, rfl⟩ := List.getElem?_zipWith_eq_some.mp found
      exact vouched index before beforeAt accepted
    · intro _ index item found points
      rw [cases] at found
      obtain ⟨before, testCase, beforeAt, _, rfl⟩ := List.getElem?_zipWith_eq_some.mp found
      refine vouched index before beforeAt ?_
      by_contra failed
      exact points (if_neg failed)
    · intro _
      rw [score, cases, List.map_zipWith]
      rfl

section

theorem ContestantRun.accepted (answers : Answers batch.request responses batch.events)
    (run : ContestantRun sha256 pipeline input artifact contestant batch pairs)
    (reports : batch.result.cases = List.zipWith (report sha256 artifact.manifest.checker) pairs responses)
    (found : batch.result.cases[index]? = some item) (accepted : item.status = .accepted) :
    ContestantAccepted batch index item.caseID ∧ lit "Accepted" ∈ responses.map ExecuteResponse.status := by
  rw [reports] at found
  obtain ⟨prepared, response, preparedAt, responseAt, rfl⟩ := List.getElem?_zipWith_eq_some.mp found
  have status : response.status = lit "Accepted" := localStatus_accepted accepted
  have caseAt : batch.request.cases[index]? = some prepared.1 := by
    rw [run.prepared.cases, List.getElem?_map, preparedAt]
    rfl
  refine ⟨⟨⟨.caseResult, prepared.1.caseID, some response⟩, response, ?_, rfl, rfl, status⟩, ?_⟩
  · have zipped : (List.zipWith caseEvent batch.request.cases responses)[index]? = some (caseEvent prepared.1 response) :=
      List.getElem?_zipWith_eq_some.mpr ⟨_, _, caseAt, responseAt, rfl⟩
    rw [answers.stream, List.getElem?_append_left (List.getElem?_eq_some_iff.mp zipped).1, zipped]
    rfl
  · rw [← status]
    exact List.mem_map_of_mem (List.mem_of_getElem? responseAt)

private theorem ContestantRun.fullyChecked (special : artifact.manifest.checker = .special)
    (run : ContestantRun sha256 pipeline input artifact contestant batch pairs) (checked : ¬ SkipsChecker batch.events)
    (judges : judgeContestant pipeline artifact checker batch = .ok judged)
    (scored : applyManifestScoring artifact.manifest judged = .ok result) :
    FullyChecked pipeline artifact checker batch result := by
  refine .of_scoring (validate_scoring run.prepared.valid) scored ?_
  intro index item found accepted
  cases run.cases with
  | inl failed =>
    obtain ⟨_, _, _, compile⟩ := failed
    rw [judgeContestant_compileError (by rw [compile]; rfl)] at judges
    obtain rfl := Except.ok.inj judges
    rw [compile] at found
    cases found
  | inr answered =>
    obtain ⟨responses, answers, reports, status, _⟩ := answered
    unfold judgeContestant at judges
    split at judges
    next =>
      obtain ⟨⟨before, beforeAt, sameID, beforeAccepted⟩, vouched⟩ := applySpecialJudge_vouched judges found accepted
      rw [← sameID]
      exact ⟨(run.accepted answers reports beforeAt beforeAccepted).1, sameID ▸ vouched⟩
    next skipped =>
      -- the checker was skipped, so no case may be accepted
      obtain rfl := Except.ok.inj judges
      have compile : batch.result.status = .compileError := by
        by_contra judging
        exact skipped ⟨special, judging⟩
      obtain ⟨_, _, within⟩ := run.length answers reports
      rw [status, reports, special, overallStatus_compileError _ _ within, ← answers.statuses] at compile
      have member := (run.accepted answers reports found accepted).2
      rw [← answers.statuses] at member
      exact absurd ⟨compile, member⟩ checked

/-- The checker is skipped, so the result does not depend on it. -/
theorem executeCanonical_skipped (special : artifact.manifest.checker = .special)
    (prepares : prepareBatch sha256 pipeline input artifact = .ok (request, checks))
    (ran : pipeline.runBatch contestant request = .ok (some events)) (skips : SkipsChecker events) :
    ∃ (batch : ContestantBatch) (result : CanonicalResult) (index : Nat) (item : CanonicalCaseResult),
      runContestant sha256 pipeline input artifact contestant = .ok batch ∧
      (∀ checker, executeCanonical sha256 pipeline input artifact contestant checker = .ok result) ∧
      result.cases[index]? = some item ∧ item.status = .accepted := by
  obtain ⟨pairs, prepared, rfl⟩ := prepareBatch_ok prepares
  have scoring := validate_scoring prepared.valid
  obtain ⟨failure, listed⟩ := skips
  cases validateBatchEvents_ok (runBatch_ok ran).2 with
  | inl failed =>
    -- the only status of such a stream is not both
    obtain ⟨event, rfl, _⟩ := failed
    have distinct : lit "Accepted" ≠ lit "Compile Error" := by decide
    cases carried : event.result with
    | none => simp [contestantStatuses, carried] at listed
    | some response =>
      have statuses : contestantStatuses [some event] = [response.status] := by simp [contestantStatuses, carried]
      rw [statuses, List.mem_singleton] at listed
      rw [statuses, ← listed] at failure
      simp at failure
  | inr answered =>
    obtain ⟨responses, answers⟩ := answered
    have within : responses.length ≤ pairs.length := by
      have bound := answers.within
      rwa [prepared.cases, List.length_map] at bound
    obtain ⟨batch, runs, -, reports, bound, returns⟩ := executeCanonical_compileError prepares prepared ran answers (by
      rw [special, overallStatus_compileError _ _ within, ← answers.statuses]
      exact failure)
    obtain ⟨index, item, itemAt, accepted⟩ : ∃ (index : Nat) (item : CanonicalCaseResult),
        batch.result.cases[index]? = some item ∧ item.status = .accepted := by
      rw [answers.statuses] at listed
      obtain ⟨response, member, same⟩ := List.mem_map.mp listed
      obtain ⟨index, below, rfl⟩ := List.getElem_of_mem member
      refine ⟨index, report sha256 .special pairs[index] responses[index], ?_, ?_⟩
      · rw [reports, special]
        exact List.getElem?_zipWith_eq_some.mpr
          ⟨_, _, List.getElem?_eq_getElem _, List.getElem?_eq_getElem below, rfl⟩
      · exact localStatus_special.trans (mapBundleStatus_accepted.mpr same)
    obtain ⟨result, scores, keeps⟩ := applyManifestScoring_runs scoring bound
    obtain ⟨scored, scoredAt, sameStatus⟩ := keeps index item itemAt
    exact ⟨_, result, index, scored, runs, fun checker => (returns checker).trans scores, scoredAt, sameStatus.trans accepted⟩

end

/-- With a special judge every accepted case was checked, exactly when the
contestant batch does not hide accepted cases behind a compile error. -/
theorem special_judge_vouches (sha256 : Bytes → Bytes) (pipeline : BatchBundlePipeline) (input : CanonicalExecutionRequest)
    (artifact : Artifact) (contestant : SandboxFleet) (special : artifact.manifest.checker = .special) :
    (∀ checker batch result, runContestant sha256 pipeline input artifact contestant = .ok batch →
      executeCanonical sha256 pipeline input artifact contestant checker = .ok result →
      FullyChecked pipeline artifact checker batch result) ↔
    ∀ request checks events, prepareBatch sha256 pipeline input artifact = .ok (request, checks) →
      pipeline.runBatch contestant request = .ok (some events) → ¬ SkipsChecker events := by
  constructor
  · intro checked request checks events prepares ran skips
    obtain ⟨batch, result, index, item, runs, returns, found, accepted⟩ := executeCanonical_skipped special prepares ran skips
    -- a fleet that answers no batch at all
    let idle : SandboxFleet := ⟨true, fun _ _ => .error [], fun _ _ _ => .error .invalidBatchStream⟩
    obtain ⟨_, _, _, _, _, _, _, answered, _⟩ := ((checked idle batch result runs (returns idle)).accepted index item found accepted).2
    obtain ⟨⟨_, _, executed⟩, _⟩ := runBatch_ok answered
    cases executed
  · intro unskipped checker batch result runs returned
    obtain ⟨pairs, run⟩ := runContestant_ok runs
    obtain ⟨other, again, returned⟩ := checked_ok returned
    obtain rfl := Except.ok.inj (runs.symm.trans again)
    obtain ⟨judged, judges, scored⟩ := checked_ok returned
    exact run.fullyChecked special (unskipped _ _ _ run.prepares run.ran) judges scored

def sampleJudge : SpecialJudge :=
  ⟨lit "cpp", lit "checker.cpp", List.replicate 64 48, 1000, 256⟩

def judgedArtifact : Artifact := scoredArtifact .special (some sampleJudge)

def sampleInput : CanonicalExecutionRequest := ⟨lit "cpp", lit "int main() \x7b\x7d", true⟩

def contestantEvents (second : GoString) : List (Option ExecuteBatchV1Event) :=
  [caseResult (lit "1") (lit "Accepted") (lit "4 3"), caseResult (lit "2") second [], completion]

def checkerEvents : List (Option ExecuteBatchV1Event) :=
  [caseResult (lit "1") (lit "Accepted") (lit "\x7b\"schemaVersion\":1,\"accepted\":true\x7d"), completion]

theorem special_judge_vouches_sample :
    (executeCanonical id (newBatchBundlePipeline 3) sampleInput judgedArtifact
      (steadyFleet (contestantEvents (lit "Runtime Error"))) (steadyFleet checkerEvents)).map CanonicalResult.score = .ok (some 60) ∧
    ∀ checker batch result,
      runContestant id (newBatchBundlePipeline 3) sampleInput judgedArtifact
        (steadyFleet (contestantEvents (lit "Runtime Error"))) = .ok batch →
      executeCanonical id (newBatchBundlePipeline 3) sampleInput judgedArtifact
        (steadyFleet (contestantEvents (lit "Runtime Error"))) checker = .ok result →
      FullyChecked (newBatchBundlePipeline 3) judgedArtifact checker batch result := by
  refine ⟨by decide +kernel, (special_judge_vouches id (newBatchBundlePipeline 3) sampleInput judgedArtifact _ rfl).mpr ?_⟩
  intro request checks events _ ran
  obtain ⟨⟨_, _, executed⟩, _⟩ := runBatch_ok ran
  obtain rfl := Except.ok.inj executed
  unfold SkipsChecker
  decide

/-- The second case is reported as not compiled. The checker is not run, and the
first case is accepted with all its points although the fleet has no checker. -/
theorem special_judge_skipped :
    (executeCanonical id (newBatchBundlePipeline 3) sampleInput judgedArtifact
      (steadyFleet (contestantEvents (lit "Compile Error"))) (steadyFleet [])).map
        (fun result => (result.status, result.score, result.cases.map CanonicalCaseResult.status)) =
      .ok (.compileError, some 60, [.accepted, .compileError]) ∧
    ¬ ∀ checker batch result,
      runContestant id (newBatchBundlePipeline 3) sampleInput judgedArtifact
        (steadyFleet (contestantEvents (lit "Compile Error"))) = .ok batch →
      executeCanonical id (newBatchBundlePipeline 3) sampleInput judgedArtifact
        (steadyFleet (contestantEvents (lit "Compile Error"))) checker = .ok result →
      FullyChecked (newBatchBundlePipeline 3) judgedArtifact checker batch result := by
  have summary : (executeCanonical id (newBatchBundlePipeline 3) sampleInput judgedArtifact
      (steadyFleet (contestantEvents (lit "Compile Error"))) (steadyFleet [])).map
        (fun result => (result.status, result.score, result.cases.map CanonicalCaseResult.status)) =
      .ok (.compileError, some 60, [.accepted, .compileError]) := by decide +kernel
  refine ⟨summary, fun checked => ?_⟩
  cases returned : executeCanonical id (newBatchBundlePipeline 3) sampleInput judgedArtifact
      (steadyFleet (contestantEvents (lit "Compile Error"))) (steadyFleet []) with
  | error error =>
    rw [returned] at summary
    cases summary
  | ok result =>
    rw [returned] at summary
    have statuses := congrArg (fun summary => summary.2.2[0]?) (Except.ok.inj summary)
    rw [List.getElem?_map] at statuses
    obtain ⟨item, found, accepted⟩ := Option.map_eq_some_iff.mp statuses
    obtain ⟨batch, runs, _⟩ := checked_ok returned
    obtain ⟨_, _, _, _, _, _, _, ran, _⟩ := ((checked (steadyFleet []) batch result runs returned).accepted 0 item found accepted).2
    -- the fleet has no events that pass the validator
    obtain ⟨⟨_, _, executed⟩, valid⟩ := runBatch_ok ran
    obtain rfl := Except.ok.inj executed
    cases valid

end JudgingServer.Proofs
