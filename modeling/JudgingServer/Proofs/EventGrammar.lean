import JudgingServer.Service.SpecialJudge

/-! The language of the event streams that a batch accepts. The validator looks back at the
event before, so what it has read goes along with the induction over the stream. -/

namespace JudgingServer.Proofs
open Go Bundle Library Sandbox Service

variable {responses : List ExecuteResponse}

def caseEvent (testCase : ExecuteBatchV1Case) (response : ExecuteResponse) : Option ExecuteBatchV1Event :=
  some ⟨.caseResult, testCase.caseID, some response⟩

def completion : Option ExecuteBatchV1Event := some ⟨.completed, [], none⟩

/-- The events report `responses` for the first cases of the request. A batch ends
early only where it was to stop at a failure and there is one. -/
structure Answers (request : ExecuteBatchV1Request) (responses : List ExecuteResponse)
    (events : List (Option ExecuteBatchV1Event)) : Prop where
  stream : events = List.zipWith caseEvent request.cases responses ++ [completion]
  within : responses.length ≤ request.cases.length
  nonempty : responses ≠ []
  known : ∀ response ∈ responses, isKnownContestantStatus response.status = true
  stopped : responses.length ≠ request.cases.length →
    request.stopOnFailure = true ∧ ∃ response ∈ responses, response.status ≠ lit "Accepted"

/-- A failed compilation, or the results of the first cases with a completion. The last result of
a batch that ends early is the failure at which it was to stop. -/
inductive AcceptedStream (request : ExecuteBatchV1Request) : List (Option ExecuteBatchV1Event) → Prop where
  | compilation {response : ExecuteResponse} (failed : response.status = lit "Compile Error") :
      AcceptedStream request [some ⟨.compileError, [], some response⟩]
  | results {responses : List ExecuteResponse} (within : responses.length ≤ request.cases.length) (nonempty : responses ≠ [])
      (known : ∀ response ∈ responses, isKnownContestantStatus response.status = true)
      (ends : responses.length = request.cases.length ∨
        request.stopOnFailure = true ∧ ∀ last ∈ responses.getLast?, last.status ≠ lit "Accepted")
      (continued : request.stopOnFailure = true → ∀ response ∈ responses.dropLast, response.status = lit "Accepted") :
      AcceptedStream request (List.zipWith caseEvent request.cases responses ++ [completion])

/-- The rest of a stream whose earlier events reported the responses `seen`. -/
inductive Continues (request : ExecuteBatchV1Request) : List ExecuteResponse → List (Option ExecuteBatchV1Event) → Prop where
  | completed {seen : List ExecuteResponse} (nonempty : seen ≠ [])
      (ends : seen.length = request.cases.length ∨
        request.stopOnFailure = true ∧ ∀ last ∈ seen.getLast?, last.status ≠ lit "Accepted") :
      Continues request seen [completion]
  | next {seen : List ExecuteResponse} {requestCase : ExecuteBatchV1Case} {response : ExecuteResponse}
      {events : List (Option ExecuteBatchV1Event)} (found : request.cases[seen.length]? = some requestCase)
      (known : isKnownContestantStatus response.status = true)
      (continued : request.stopOnFailure = true → ∀ last ∈ seen.getLast?, last.status = lit "Accepted")
      (rest : Continues request (seen ++ [response]) events) :
      Continues request seen (caseEvent requestCase response :: events)

section Scan

variable {request : ExecuteBatchV1Request} {events : List (Option ExecuteBatchV1Event)} {seen : List ExecuteResponse}
  {previous : Option ExecuteBatchV1Event} {index : Nat}

/-! ### The loop over the events -/

private theorem previousStatus_last (prior : previous.bind ExecuteBatchV1Event.result = seen.getLast?)
    (read : seen.getLast? = some last) :
    previousStatus previous = .ok last.status := by
  rw [read] at prior
  obtain ⟨event, rfl, carried⟩ := Option.bind_eq_some_iff.mp prior
  obtain ⟨kind, caseID, result⟩ := event
  obtain rfl : result = some last := carried
  rfl

private theorem checkContinued_iff (prior : previous.bind ExecuteBatchV1Event.result = seen.getLast?) :
    checkContinued request seen.length previous ≠ .error .nilDereference ∧
    (checkContinued request seen.length previous = .ok () ↔
      (request.stopOnFailure = true → ∀ last ∈ seen.getLast?, last.status = lit "Accepted")) := by
  unfold checkContinued
  split_ifs with looks
  · obtain ⟨stops, read⟩ := looks
    obtain ⟨last, present⟩ := Option.isSome_iff_exists.mp (List.getLast?_isSome.mpr (List.ne_nil_of_length_pos read))
    rw [previousStatus_last prior present, present]
    change rejectIf (last.status ≠ lit "Accepted") EventsError.continuedAfterVerdict ≠ _ ∧ (rejectIf _ _ = _ ↔ _)
    rw [rejectIf_iff]
    refine ⟨?_, by simp [stops]⟩
    unfold rejectIf
    split <;> simp
  · refine ⟨by simp, fun _ stops last present => ?_, fun _ => rfl⟩
    have nothing : seen = [] := List.length_eq_zero_iff.mp (Nat.eq_zero_of_not_pos fun read => looks ⟨stops, read⟩)
    rw [nothing] at present
    cases present

private theorem checkCompleted_iff {isLast : Bool} {event : ExecuteBatchV1Event}
    (prior : previous.bind ExecuteBatchV1Event.result = seen.getLast?) :
    checkCompleted request isLast seen.length event previous ≠ .error .nilDereference ∧
    (checkCompleted request isLast seen.length event previous = .ok () ↔
      isLast = true ∧ event.caseID = [] ∧ event.result = none ∧ seen ≠ [] ∧
        (seen.length = request.cases.length ∨
          request.stopOnFailure = true ∧ ∀ last ∈ seen.getLast?, last.status ≠ lit "Accepted")) := by
  unfold checkCompleted
  by_cases shaped : (!isLast) = true ∨ event.caseID ≠ [] ∨ event.result ≠ none ∨ seen.length = 0
  · have refused : rejectIf ((!isLast) = true ∨ event.caseID ≠ [] ∨ event.result ≠ none ∨ seen.length = 0)
        EventsError.completionEventMalformed = .error .completionEventMalformed := if_pos shaped
    rw [refused]
    refine ⟨by simp [bind, Except.bind], (by intro never; cases never), ?_⟩
    rintro ⟨last, id, empty, some, -⟩
    rcases shaped with notLast | named | answered | nothing
    · simp [last] at notLast
    · exact absurd id named
    · exact absurd empty answered
    · exact absurd (List.length_eq_zero_iff.mp nothing) some
  · rw [rejectIf_pass shaped]
    push Not at shaped
    obtain ⟨notLast, id, empty, positive⟩ := shaped
    have some : seen ≠ [] := fun nothing => positive (by rw [nothing]; rfl)
    obtain ⟨last, present⟩ := Option.isSome_iff_exists.mp (List.getLast?_isSome.mpr some)
    rw [previousStatus_last prior present, present]
    change rejectIf (seen.length ≠ request.cases.length ∧ ((!request.stopOnFailure) = true ∨ last.status = lit "Accepted"))
      EventsError.completedEarly ≠ _ ∧ (rejectIf _ _ = _ ↔ _)
    rw [rejectIf_iff]
    constructor
    · unfold rejectIf
      split <;> simp
    · simp only [id, empty, some, ne_eq, not_false_eq_true, true_and, Option.mem_some_iff, forall_eq']
      have final : isLast = true := by simpa using notLast
      simp only [final, true_and]
      by_cases all : seen.length = request.cases.length <;> simp [all]

private theorem checkCaseEvent_iff {caseIndex : Nat} {event : ExecuteBatchV1Event} :
    checkCaseEvent request index caseIndex event ≠ .error .nilDereference ∧
    (checkCaseEvent request index caseIndex event = .ok () ↔
      ∃ requestCase response, request.cases[caseIndex]? = some requestCase ∧ event.result = some response ∧
        event.caseID = requestCase.caseID ∧ isKnownContestantStatus response.status = true) := by
  refine ⟨?_, fun checked => ?_, ?_⟩
  · unfold checkCaseEvent rejectIf
    split
    next => split <;> simp
    next => simp
  · unfold checkCaseEvent at checked
    split at checked
    next requestCase response found answered =>
      have passed := rejectIf_ok checked
      push Not at passed
      exact ⟨requestCase, response, found, answered, passed.1, by simpa using passed.2⟩
    next => cases checked
  · rintro ⟨requestCase, response, found, answered, named, known⟩
    unfold checkCaseEvent
    rw [found, answered]
    exact rejectIf_pass (by simp [named, known])

/-- The loop reads no status of a missing event, and accepts exactly the streams that continue. -/
theorem scanEvents_iff (prior : previous.bind ExecuteBatchV1Event.result = seen.getLast?) :
    scanEvents request events index seen.length previous ≠ .error .nilDereference ∧
    (scanEvents request events index seen.length previous = .ok () ↔ Continues request seen events) := by
  induction events generalizing index seen previous with
  | nil => exact ⟨by simp [scanEvents], (by intro never; cases never), (by intro never; cases never)⟩
  | cons event rest ih =>
    cases event with
    | none => exact ⟨by simp [scanEvents], (by intro never; cases never), (by intro never; cases never)⟩
    | some event =>
      obtain ⟨kind, caseID, result⟩ := event
      cases kind with
      | unspecified | compileError | other =>
        exact ⟨by simp [scanEvents], (by intro never; cases never), (by intro never; cases never)⟩
      | completed =>
        have checked := @checkCompleted_iff request seen previous rest.isEmpty ⟨.completed, caseID, result⟩ prior
        obtain ⟨safe, accepts⟩ := checked
        refine ⟨safe, accepts.trans ⟨?_, fun continues => ?_⟩⟩
        · rintro ⟨last, rfl, rfl, some, ends⟩
          rw [List.isEmpty_iff.mp last]
          exact .completed some ends
        · cases continues with
          | completed some ends => exact ⟨rfl, rfl, rfl, some, ends⟩
      | caseResult =>
        have looks : _ ∧ (checkContinued request seen.length previous = .ok () ↔ _) := checkContinued_iff prior
        have checks := @checkCaseEvent_iff request index seen.length ⟨.caseResult, caseID, result⟩
        have later {response : ExecuteResponse} (carried : result = some response) :=
          @ih (seen ++ [response]) (some ⟨.caseResult, caseID, result⟩) (index + 1) (by simp [carried])
        simp only [List.length_append, List.length_singleton] at later
        constructor
        · intro failed
          rcases checked_error failed with here | ⟨⟨⟩, -, failed⟩
          · exact looks.1 here
          · rcases checked_error failed with here | ⟨⟨⟩, checked, failed⟩
            · exact checks.1 here
            · obtain ⟨-, response, -, carried, -, -⟩ := checks.2.mp checked
              exact (later carried).1 failed
        · constructor
          · intro scanned
            obtain ⟨⟨⟩, looked, scanned⟩ := checked_ok scanned
            obtain ⟨⟨⟩, checked, scanned⟩ := checked_ok scanned
            obtain ⟨requestCase, response, found, rfl, rfl, known⟩ := checks.2.mp checked
            exact .next found known (looks.2.mp looked) ((later rfl).2.mp scanned)
          · intro continues
            cases continues with
            | next found known continued rest =>
              refine checked_run (looks.2.mpr continued) (checked_run (checks.2.mpr ?_) ((later rfl).2.mpr rest))
              exact ⟨_, _, found, rfl, rfl, known⟩

/-! ### The shape of a stream -/

/-- The responses that complete those seen before. -/
structure Completes (request : ExecuteBatchV1Request) (seen responses : List ExecuteResponse) : Prop where
  within : seen.length + responses.length ≤ request.cases.length
  nonempty : seen ++ responses ≠ []
  known : ∀ response ∈ responses, isKnownContestantStatus response.status = true
  ends : seen.length + responses.length = request.cases.length ∨
    request.stopOnFailure = true ∧ ∀ last ∈ (seen ++ responses).getLast?, last.status ≠ lit "Accepted"
  continued : request.stopOnFailure = true →
    ∀ response ∈ (seen.getLast?.toList ++ responses).dropLast, response.status = lit "Accepted"

private theorem completes_cons :
    Completes request seen (response :: responses) ↔
      (isKnownContestantStatus response.status = true ∧
        (request.stopOnFailure = true → ∀ last ∈ seen.getLast?, last.status = lit "Accepted")) ∧
      Completes request (seen ++ [response]) responses := by
  have split : ∀ last : Option ExecuteResponse,
      (∀ item ∈ (last.toList ++ response :: responses).dropLast, item.status = lit "Accepted") ↔
        (∀ item ∈ last, item.status = lit "Accepted") ∧
          ∀ item ∈ (response :: responses).dropLast, item.status = lit "Accepted" := by
    intro last
    cases last with
    | none => simp
    | some item => simp [List.dropLast_cons_of_ne_nil]
  constructor
  · rintro ⟨within, -, known, ends, continued⟩
    simp only [List.length_cons] at within ends
    have before : request.stopOnFailure = true → ∀ last ∈ seen.getLast?, last.status = lit "Accepted" :=
      fun stops => ((split _).mp (continued stops)).1
    refine ⟨⟨known response List.mem_cons_self, before⟩, ?_, by simp, ?_, ?_, fun stops => ?_⟩
    · simp only [List.length_append, List.length_singleton]
      omega
    · exact fun item member => known item (List.mem_cons_of_mem _ member)
    · simp only [List.length_append, List.length_singleton, List.append_assoc, List.singleton_append]
      exact ends.imp (by omega) id
    · simpa using ((split _).mp (continued stops)).2
  · rintro ⟨⟨here, before⟩, within, -, known, ends, continued⟩
    simp only [List.length_append, List.length_singleton, List.append_assoc, List.singleton_append] at within ends
    refine ⟨?_, by simp, List.forall_mem_cons.mpr ⟨here, known⟩, ?_, fun stops => ?_⟩
    · simp only [List.length_cons]
      omega
    · simp only [List.length_cons]
      exact ends.imp (by omega) id
    · refine (split _).mpr ⟨before stops, ?_⟩
      simpa using continued stops

private theorem continues_iff (within : seen.length ≤ request.cases.length) : Continues request seen events ↔
    ∃ responses, events = List.zipWith caseEvent (request.cases.drop seen.length) responses ++ [completion] ∧
      Completes request seen responses := by
  constructor
  · intro continues
    induction continues with
    | @completed seen nonempty ends =>
      refine ⟨[], by simp, ?_, by simpa using nonempty, by simp, by simpa using ends, fun stops => ?_⟩
      · simpa using within
      · intro response member
        cases last : seen.getLast? with
        | none => simp [last] at member
        | some item => simp [last] at member
    | @next seen requestCase response events found known continued rest ih =>
      obtain ⟨below, same⟩ := List.getElem?_eq_some_iff.mp found
      have grown : (seen ++ [response]).length ≤ request.cases.length := by
        simp only [List.length_append, List.length_singleton]
        omega
      obtain ⟨responses, rfl, completes⟩ := ih grown
      refine ⟨response :: responses, ?_, completes_cons.mpr ⟨⟨known, continued⟩, completes⟩⟩
      rw [List.drop_eq_getElem_cons below, same]
      simp
  · rintro ⟨responses, rfl, completes⟩
    induction responses generalizing seen with
    | nil =>
      have ends := completes.ends
      simp only [List.length_nil, Nat.add_zero, List.append_nil] at ends
      have stream : List.zipWith caseEvent (request.cases.drop seen.length) [] ++ [completion] = [completion] := by simp
      rw [stream]
      exact .completed (by simpa using completes.nonempty) ends
    | cons response responses ih =>
      obtain ⟨⟨known, continued⟩, rest⟩ := completes_cons.mp completes
      have below : seen.length < request.cases.length := by
        have bound := completes.within
        simp only [List.length_cons] at bound
        omega
      have grown : (seen ++ [response]).length ≤ request.cases.length := by
        simp only [List.length_append, List.length_singleton]
        omega
      have later := ih grown rest
      rw [List.drop_eq_getElem_cons below, List.zipWith_cons_cons, List.cons_append]
      refine .next (List.getElem?_eq_getElem below) known continued ?_
      simpa using later

end Scan

/-! ### Acceptance -/

section Acceptance

variable {request : ExecuteBatchV1Request} {events : List (Option ExecuteBatchV1Event)}

private theorem accepted_results (completes : Completes request [] responses) :
    AcceptedStream request (List.zipWith caseEvent request.cases responses ++ [completion]) := by
  obtain ⟨within, nonempty, known, ends, continued⟩ := completes
  simp only [List.length_nil, Nat.zero_add, List.nil_append] at within nonempty ends
  exact .results within nonempty known ends (by simpa using continued)

private theorem scanEvents_start : scanEvents request events 0 0 none ≠ .error .nilDereference ∧
    (scanEvents request events 0 0 none = .ok () ↔
      AcceptedStream request events ∧ ∃ responses, events = List.zipWith caseEvent request.cases responses ++ [completion]) := by
  have prior : (none : Option ExecuteBatchV1Event).bind ExecuteBatchV1Event.result = ([] : List ExecuteResponse).getLast? := rfl
  have scan := @scanEvents_iff request events [] none 0 prior
  refine ⟨scan.1, scan.2.trans ((continues_iff (Nat.zero_le _)).trans ⟨?_, ?_⟩)⟩
  · rintro ⟨responses, rfl, completes⟩
    exact ⟨accepted_results completes, responses, by simp⟩
  · rintro ⟨accepted, others, shape⟩
    cases accepted with
    | compilation failed =>
      cases others with
      | nil => simp [completion] at shape
      | cons response rest =>
        cases cases : request.cases <;> simp [cases, completion, caseEvent] at shape
    | @results responses within nonempty known ends continued =>
      refine ⟨responses, by simp, ?_, by simpa using nonempty, known, by simpa using ends, by simpa using continued⟩
      simpa using within

private theorem checkCompileEvent_iff :
    checkCompileEvent event ≠ .error .nilDereference ∧
    (checkCompileEvent event = .ok () ↔
      ∃ response, event.caseID = [] ∧ event.result = some response ∧ response.status = lit "Compile Error") := by
  obtain ⟨kind, caseID, result⟩ := event
  cases result with
  | none => exact ⟨by simp [checkCompileEvent], (by intro never; cases never), by simp⟩
  | some response =>
    refine ⟨?_, rejectIf_iff.trans ?_⟩
    · simp only [checkCompileEvent, rejectIf]
      split <;> simp
    · simp

theorem validateBatchEvents_iff : validateBatchEvents request events ≠ .error .nilDereference ∧
    (validateBatchEvents request events = .ok () ↔ AcceptedStream request events) := by
  -- a stream that is no single compilation event is left to the loop
  have loop (other : ∀ response, events ≠ [some ⟨.compileError, [], some response⟩]) :
      scanEvents request events 0 0 none ≠ .error .nilDereference ∧
      (scanEvents request events 0 0 none = .ok () ↔ AcceptedStream request events) := by
    refine ⟨scanEvents_start.1, scanEvents_start.2.trans ⟨And.left, fun accepted => ⟨accepted, ?_⟩⟩⟩
    cases accepted with
    | compilation failed => exact absurd rfl (other _)
    | results => exact ⟨_, rfl⟩
  unfold validateBatchEvents
  split
  next =>
    refine ⟨by simp, (by intro never; cases never), fun accepted => ?_⟩
    generalize empty : ([] : List (Option ExecuteBatchV1Event)) = stream at accepted
    cases accepted <;> simp at empty
  next event =>
    split
    next compile =>
      obtain ⟨kind, caseID, result⟩ := event
      obtain rfl : kind = .compileError := by simpa [isCompileEvent] using compile
      refine ⟨checkCompileEvent_iff.1, checkCompileEvent_iff.2.trans ⟨?_, fun accepted => ?_⟩⟩
      · rintro ⟨response, rfl, rfl, failed⟩
        exact .compilation failed
      · generalize single : [some (ExecuteBatchV1Event.mk .compileError caseID result)] = stream at accepted
        cases accepted with
        | compilation failed =>
          obtain ⟨rfl, rfl⟩ : caseID = [] ∧ result = some _ := by simpa using single
          exact ⟨_, rfl, rfl, failed⟩
        | @results responses _ nonempty =>
          have ends := congrArg List.getLast? single
          simp [completion] at ends
    next compile =>
      refine loop fun response same => compile ?_
      obtain rfl : event = ⟨.compileError, [], some response⟩ := by simpa using same
      rfl
  next events _ single => exact loop fun response same => single _ same

theorem AcceptedStream.answers (within : responses.length ≤ request.cases.length) (nonempty : responses ≠ [])
    (known : ∀ response ∈ responses, isKnownContestantStatus response.status = true)
    (ends : responses.length = request.cases.length ∨ request.stopOnFailure = true ∧ ∀ last ∈ responses.getLast?, last.status ≠ lit "Accepted") :
    Answers request responses (List.zipWith caseEvent request.cases responses ++ [completion]) := by
  refine ⟨rfl, within, nonempty, known, fun short => ?_⟩
  obtain ⟨stops, failed⟩ := ends.resolve_left short
  exact ⟨stops, _, List.getLast_mem nonempty, failed _ (List.getLast?_eq_some_getLast nonempty)⟩

theorem validateBatchEvents_ok (valid : validateBatchEvents request events = .ok done) :
    (∃ event, events = [some event] ∧ event.kind = .compileError) ∨ ∃ responses, Answers request responses events := by
  cases validateBatchEvents_iff.2.mp valid with
  | compilation failed => exact .inl ⟨_, rfl, rfl⟩
  | results within nonempty known ends continued => exact .inr ⟨_, AcceptedStream.answers within nonempty known ends⟩

end Acceptance

end JudgingServer.Proofs
