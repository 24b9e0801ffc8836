import JudgingServer.Proofs.Tallies
import JudgingServer.Worker.Runner

/-! A canonical result crosses two boundaries: the durable worker and the callback
client check it by their own rules. -/

namespace JudgingServer.Proofs
open Go Bundle Library Sandbox Service External Worker

variable {score total : Int} {item : CanonicalCaseResult} {result : CanonicalResult}

/-! ### Texts -/

private theorem trimSpace_nonempty (ascii : first.toNat < 0x80) (visible : isSpace first.toNat = false) (rest : GoString) :
    trimSpace (first :: rest) ≠ [] := by
  have pieces := segments_ascii ascii rest
  obtain ⟨kept, trimmed⟩ : ∃ kept, ((⟨first.toNat, [first]⟩ :: segments rest).reverse.dropWhile fun segment => isSpace segment.rune) =
      kept ++ [⟨first.toNat, [first]⟩] := by
    rw [List.reverse_cons, List.dropWhile_append]
    split
    · exact ⟨[], by simp [visible]⟩
    · exact ⟨_, rfl⟩
  unfold trimSpace
  simp only [pieces, List.dropWhile_cons, visible, Bool.false_eq_true, if_false, trimmed, List.reverse_append]
  exact nofun

private theorem caseID_bounded {id : GoString} (named : matchesCaseID id = true) : boundedText 128 id = true ∧ id ≠ [] := by
  cases id with
  | nil => cases named
  | cons first rest =>
    simp only [matchesCaseID, Bool.and_eq_true, Bool.or_eq_true, decide_eq_true_eq, isUpper, isLower, isDigit, between_iff] at named
    obtain ⟨⟨letter, short⟩, _⟩ := named
    have visible : isSpace first.toNat = false := by
      simp only [isSpace, Rune, Bool.or_eq_false_iff, Bool.and_eq_false_iff, decide_eq_false_iff_not, beq_eq_false_iff_ne]
      omega
    have nonempty := trimSpace_nonempty (by omega) visible rest
    refine ⟨?_, nofun⟩
    simp only [boundedText, List.length_cons, decide_eq_true_eq, Bool.not_eq_true', List.isEmpty_eq_false_iff]
    exact ⟨nonempty, by omega⟩

private theorem status_bounded (status : Callback.Status) : boundedText 64 status.text = true := by
  cases status <;> decide

private theorem status_text_accepted {status : Callback.Status} : status.text = lit "ACCEPTED" ↔ status = .accepted := by
  cases status <;> decide

/-! ### The durable result -/

def durableItem (item : CanonicalCaseResult) : DurableCaseResult :=
  ⟨item.caseID, item.status.text, item.timeUsedMillis, item.memoryUsedKB * 1024, item.score, item.maxScore⟩

/-- The durable form of a result whose cases are all accepted by `durableCase`. -/
private def durableForm (result : CanonicalResult) : DurableJobResult :=
  { verdict := result.status.text
    compileStatus := if result.status = .compileError then lit "FAILED" else lit "SUCCEEDED"
    timeMillis := result.timeUsedMillis
    memoryBytes := result.memoryUsedKB * 1024
    score := result.score
    totalScore := result.totalScore
    cases := result.cases.map durableItem }

/-- A reported case the durable worker accepts in a result that is scored or not. -/
structure CaseFits (scored : Bool) (item : CanonicalCaseResult) : Prop where
  named : boundedText 128 item.caseID = true ∧ item.caseID ≠ []
  known : item.status ≠ .systemError
  metrics : validMetrics item.timeUsedMillis item.memoryUsedKB = true
  pair : validScorePair item.score item.maxScore = true
  score : validCaseScore scored (durableItem item) = true

private theorem validMetrics_bounds (valid : validMetrics time memory = true) : 0 ≤ time ∧ 0 ≤ memory * 1024 := by
  simp only [validMetrics, decide_eq_true_eq] at valid
  omega

private theorem validMetrics_run (timeBounds : 0 ≤ time ∧ time ≤ limit) (memoryBounds : 0 ≤ memory ∧ memory ≤ maxMemoryUsedKB) :
    validMetrics time memory = true := by
  have kilobytes : maxMemoryUsedKB ≤ maxInt64 / 1024 := by decide
  exact decide_eq_true ⟨timeBounds.1, memoryBounds.1, Int.le_trans memoryBounds.2 kilobytes⟩

private theorem durableCase_run (fits : CaseFits scored item) : durableCase item = .ok (durableItem item) := by
  have known := fits.known
  unfold durableCase
  rw [if_neg (by simp [fits.named.2, durableVerdict, known, fits.metrics]), if_neg (by simp [validCanonicalScorePair, fits.pair])]
  rfl

private theorem scanDurableCases_run (scored : Bool) (items : List CanonicalCaseResult) (sums : ScoreSums)
    (fits : ∀ item ∈ items, CaseFits scored item) (distinct : (items.map CanonicalCaseResult.caseID).Nodup)
    (fresh : ∀ item ∈ items, item.caseID ∉ sums.ids) :
    ∃ ids, scanDurableCases scored (items.map durableItem) sums =
      some ⟨ids, sums.score + (items.map fun item => item.score.getD 0).sum,
        sums.maximum + (items.map fun item => item.maxScore.getD 0).sum⟩ := by
  induction items generalizing sums with
  | nil => exact ⟨sums.ids, by simp [scanDurableCases]⟩
  | cons item rest ih =>
    obtain ⟨first, others⟩ := List.forall_mem_cons.mp fits
    obtain ⟨new, later⟩ := List.forall_mem_cons.mp fresh
    obtain ⟨apart, distinct⟩ := List.nodup_cons.mp distinct
    have bounds := validMetrics_bounds first.metrics
    have passes : boundedText 128 (durableItem item).caseID ∧ boundedText 64 (durableItem item).verdict ∧
        0 ≤ (durableItem item).timeMillis ∧ 0 ≤ (durableItem item).memoryBytes ∧
        validScorePair (durableItem item).score (durableItem item).maxScore ∧ validCaseScore scored (durableItem item) ∧
        !sums.ids.contains (durableItem item).caseID :=
      ⟨first.named.1, status_bounded item.status, bounds.1, bounds.2, first.pair, first.score, by simpa [durableItem] using new⟩
    obtain ⟨ids, scanned⟩ := ih
      ⟨item.caseID :: sums.ids, sums.score + item.score.getD 0, sums.maximum + item.maxScore.getD 0⟩ others distinct (by
        intro other member listed
        cases List.mem_cons.mp listed with
        | inl same => exact apart (same ▸ List.mem_map_of_mem member)
        | inr seen => exact later other member seen)
    refine ⟨ids, ?_⟩
    rw [List.map_cons, scanDurableCases, if_pos passes]
    simp only [List.map_cons, List.sum_cons, ← Int.add_assoc]
    exact scanned

private theorem durableResult_run (known : result.status ≠ .systemError)
    (metrics : validMetrics result.timeUsedMillis result.memoryUsedKB = true)
    (pair : validScorePair result.score result.totalScore = true)
    (fits : ∀ item ∈ result.cases, CaseFits result.score.isSome item)
    (distinct : (result.cases.map CanonicalCaseResult.caseID).Nodup) (few : result.cases.length ≤ 256)
    (consistent : ∀ score total ids, result.score = some score → result.totalScore = some total → validScoredResult (durableForm result) score total ⟨ids, (result.cases.map fun item => item.score.getD 0).sum, (result.cases.map fun item => item.maxScore.getD 0).sum⟩ = true) :
    durableResult result = .ok (durableForm result) := by
  have bounds := validMetrics_bounds metrics
  obtain ⟨ids, scanned⟩ := scanDurableCases_run result.score.isSome result.cases ⟨[], 0, 0⟩ fits distinct fun _ _ => List.not_mem_nil
  simp only [Int.zero_add] at scanned
  have compileStatus : boundedText 64 (durableForm result).compileStatus = true := by
    unfold durableForm
    simp only
    split <;> decide
  have shape : boundedText 64 (durableForm result).verdict ∧ boundedText 64 (durableForm result).compileStatus ∧
      0 ≤ (durableForm result).timeMillis ∧ 0 ≤ (durableForm result).memoryBytes ∧ (durableForm result).cases.length ≤ 256 ∧
      validScorePair (durableForm result).score (durableForm result).totalScore :=
    ⟨status_bounded result.status, compileStatus, bounds.1, bounds.2, by simpa [durableForm] using few, pair⟩
  have valid : validateDurableJobResult (durableForm result) = true := by
    unfold validateDurableJobResult
    rw [if_pos shape]
    have scan : scanDurableCases (durableForm result).score.isSome (durableForm result).cases ⟨[], 0, 0⟩ = some _ := scanned
    rw [scan]
    simp only
    split
    next score total scored totalled => exact consistent score total ids scored totalled
    next => rfl
  unfold durableResult
  rw [if_neg (by simp [durableVerdict, known, metrics]), if_neg (by simp [validCanonicalScorePair, pair])]
  refine checked_run (mapM_run result.cases fun item member => durableCase_run (fits item member)) ?_
  exact if_pos valid

/-- A scored result that reports cases is not stored as a compile error. -/
theorem durableResult_uncompiled (compile : result.status = .compileError) (scored : result.score = some score)
    (totalled : result.totalScore = some total) (reported : result.cases ≠ []) (durable : DurableJobResult) :
    durableResult result ≠ .ok durable := by
  intro stored
  unfold durableResult at stored
  split at stored
  next => cases stored
  next =>
    split at stored
    next => cases stored
    next =>
      obtain ⟨cases, kept, stored⟩ := checked_ok stored
      have length := mapM_length _ kept
      simp only [compile, scored, totalled] at stored
      split at stored
      next valid =>
        unfold validateDurableJobResult at valid
        split at valid
        next =>
          split at valid
          next => cases valid
          next =>
            simp only [validScoredResult, if_true, decide_eq_true_eq] at valid
            rw [length] at valid
            exact reported (List.length_eq_zero_iff.mp valid.2.2)
        next => cases valid
      next => cases stored

/-! ### The callback -/

/-- The callback form of a result with the identity of its submission. -/
def completedCallback (result : CanonicalResult) (resultID : GoString) (submissionID attemptNo : Int) : Callback.Result :=
  { callbackResult result with resultID := resultID, submissionID := submissionID, attemptNo := attemptNo }

/-- Both boundaries accept the result. -/
def Crosses (result : CanonicalResult) : Prop :=
  (∃ durable, durableResult result = .ok durable) ∧
  ∀ resultID submissionID attemptNo, trimSpace resultID ≠ [] → resultID.length ≤ 128 → 0 < submissionID → 0 < attemptNo →
    Callback.validateResult (completedCallback result resultID submissionID attemptNo) = .ok ()

private theorem validateResult_run (time : 0 ≤ result.timeUsedMillis ∧ result.timeUsedMillis ≤ 172800000)
    (memory : 0 ≤ result.memoryUsedKB ∧ result.memoryUsedKB ≤ 2147483647)
    (score : Callback.validateScore result.status result.score result.totalScore = .ok ())
    (stderr : Callback.utf16Len result.stderr ≤ 65536)
    (diagnostics : result.compileError = [] ∨ result.compileError = compilationFailedText)
    (exits : result.status = .accepted → result.exitCode = 0)
    (compile : result.status = .compileError → result.compileError = compilationFailedText) (named : trimSpace resultID ≠ [])
    (short : resultID.length ≤ 128) (submitted : 0 < submissionID) (attempted : 0 < attemptNo) :
    Callback.validateResult (completedCallback result resultID submissionID attemptNo) = .ok () := by
  have stdout : Callback.utf16Len [] = 0 := rfl
  have text : Callback.utf16Len result.compileError ≤ 32768 := by
    obtain empty | redacted := diagnostics
    · rw [empty]
      decide
    · rw [redacted]
      decide +kernel
  refine checked_run (rejectIf_pass ?_) (checked_run (rejectIf_pass ?_) (checked_run (rejectIf_pass ?_) (checked_run score
    (checked_run (rejectIf_pass ?_) (checked_run (rejectIf_pass ?_) (rejectIf_pass ?_))))))
  · simpa [completedCallback, named] using short
  · simp only [completedCallback]
    omega
  · simp only [completedCallback, callbackResult]
    omega
  · simp only [completedCallback, callbackResult]
    omega
  · exact fun failed => failed.2 (exits failed.1)
  · rintro ⟨failed, blank⟩
    have redacted := compile failed
    simp only [completedCallback, callbackResult, redacted] at blank
    revert blank
    decide +kernel

/-! ### Reported cases -/

/-- What a valid manifest promises of its cases. -/
structure Bounded (manifest : Manifest) : Prop where
  named : ∀ testCase ∈ manifest.cases, matchesCaseID testCase.id = true
  distinct : (manifest.cases.map Case.id).Nodup
  weights : manifest.judgeMode = .oi → ∀ testCase ∈ manifest.cases, 0 < testCase.weight ∧ testCase.weight ≤ maxTotalScore
  total : manifest.judgeMode = .oi → 0 < (manifest.cases.map Case.weight).sum ∧ (manifest.cases.map Case.weight).sum ≤ maxTotalScore

private theorem validate_bounded (valid : manifest.validate = .ok done) : Bounded manifest := by
  have accepted := ValidManifest.of_validate valid
  obtain ⟨weights, within⟩ := accepted.weights accepted.modes
  refine ⟨accepted.ids, accepted.distinctIDs, fun oi testCase member => (weights testCase member).2 oi, fun oi => ⟨?_, within⟩⟩
  obtain ⟨total, -, positive, -, rfl⟩ := (accepted.oi oi).2
  exact positive

private theorem prepareBatch_few (prepares : prepareBatch sha256 pipeline input artifact = .ok prepared) :
    artifact.manifest.cases.length ≤ 256 := by
  unfold prepareBatch at prepares
  obtain ⟨_, _, prepares⟩ := checked_ok prepares
  obtain ⟨_, _, prepares⟩ := checked_ok prepares
  obtain ⟨_, few, _⟩ := checked_ok prepares
  exact Nat.not_lt.mp (rejectIf_ok few)

private theorem zipWith_named {α β γ δ : Type} {combine : α → β → γ} {name : γ → δ} {original : α → δ}
    (keeps : ∀ first second, name (combine first second) = original first) (left : List α) (right : List β) :
    (List.zipWith combine left right).map name <+: left.map original := by
  induction left generalizing right with
  | nil => exact List.prefix_rfl
  | cons first left ih =>
    cases right with
    | nil => exact List.nil_prefix
    | cons second right => exact List.cons_prefix_cons.mpr ⟨keeps first second, ih right⟩

private theorem rejudged_named (rejudged : List.Forall₂ Rejudged before cases) :
    cases.map CanonicalCaseResult.caseID = before.map CanonicalCaseResult.caseID := by
  induction rejudged with
  | nil => rfl
  | cons one _ ih => rw [List.map_cons, List.map_cons, one.named, ih]

/-- A result before scoring that reports the first cases of the manifest. -/
structure Reported (manifest : Manifest) (result : CanonicalResult) : Prop where
  tallied : Tallied (2 * maxTimeUsedMillis) result
  ids : result.cases.map CanonicalCaseResult.caseID <+: manifest.cases.map Case.id

theorem Reported.named (reported : Reported manifest result) (bounded : Bounded manifest) (member : item ∈ result.cases) :
    boundedText 128 item.caseID = true ∧ item.caseID ≠ [] := by
  obtain ⟨testCase, listed, same⟩ := List.mem_map.mp (reported.ids.subset (List.mem_map_of_mem member))
  rw [← same]
  exact caseID_bounded (bounded.named testCase listed)

theorem Reported.length (reported : Reported manifest result) : result.cases.length ≤ manifest.cases.length := by
  simpa using reported.ids.length_le

section

/-- The judged result of a batch that answered cases. The judge makes no compile
error of it. -/
theorem ContestantRun.reportedResult (run : ContestantRun sha256 pipeline input artifact contestant batch pairs)
    (answers : Answers batch.request responses batch.events)
    (result : batch.result = answeredResult sha256 artifact.manifest.checker pairs responses)
    (judges : judgeContestant pipeline artifact checker batch = .ok judged) :
    Reported artifact.manifest judged ∧ judged.cases.length = batch.result.cases.length ∧
      (judged.status = .compileError → batch.result.status = .compileError) := by
  have tallied : Tallied maxTimeUsedMillis batch.result := by
    rw [result]
    exact answeredResult_tallied _ _ _ answers.known
  have ids : batch.result.cases.map CanonicalCaseResult.caseID <+: artifact.manifest.cases.map Case.id := by
    rw [result, answeredResult_cases, ← prepared_named run.prepared.all]
    apply zipWith_named
    exact fun _ _ => rfl
  unfold judgeContestant at judges
  split at judges
  next =>
    obtain ⟨cases, rejudged, rfl⟩ := applySpecialJudge_rejudged judges
    have retallied := tallied.rejudged rejudged
    refine ⟨⟨retallied, ?_⟩, ?_, fun compile => ?_⟩
    · rw [recomputeCanonicalVerdict_cases, rejudged_named rejudged]
      exact ids
    · rw [recomputeCanonicalVerdict_cases]
      exact rejudged.length_eq.symm
    · rw [retallied.status, recomputeCanonicalVerdict_cases] at compile
      rw [tallied.status]
      exact overallStatus_rejudged rejudged compile
  next =>
    obtain rfl := Except.ok.inj judges
    exact ⟨⟨tallied.weaken, ids⟩, rfl, id⟩

end

/-! ### Crossing -/

private theorem overallStatus_known (tallied : Tallied limit result) : result.status ≠ .systemError := by
  rw [tallied.status]
  by_cases accepted : overallStatus result.cases = .accepted
  · rw [accepted]
    decide
  · obtain ⟨item, found, same⟩ := find_failed accepted
    rw [same]
    exact (tallied.items item (List.mem_of_find?_eq_some found)).known

private theorem Tallied.compiles (tallied : Tallied limit result) (failed : result.status = .compileError) :
    result.compileError = compilationFailedText := by
  rw [tallied.status] at failed
  obtain ⟨item, found, same⟩ := find_failed (by rw [failed]; decide)
  exact tallied.compile item (List.mem_of_find?_eq_some found) (same.symm.trans failed)

private theorem Reported.crosses (reported : Reported manifest result) (bounded : Bounded manifest)
    (few : manifest.cases.length ≤ 256) :
    Crosses result := by
  have tallied := reported.tallied
  obtain ⟨unscored, untotalled⟩ := tallied.unscored
  have length := reported.length
  constructor
  · refine ⟨_, durableResult_run (overallStatus_known tallied) (validMetrics_run tallied.time tallied.memory) ?_ ?_ ?_ (by omega) ?_⟩
    · rw [unscored, untotalled]
      rfl
    · intro item member
      have one := tallied.items item member
      refine ⟨reported.named bounded member, one.known, validMetrics_run one.time one.memory, ?_, ?_⟩
      · rw [one.unscored.1, one.unscored.2]
        rfl
      · rw [unscored]
        simp [validCaseScore, durableItem, one.unscored.1]
    · exact bounded.distinct.sublist reported.ids.sublist
    · intro score total ids scored
      rw [unscored] at scored
      cases scored
  · intro resultID submissionID attemptNo
    apply validateResult_run tallied.time tallied.memory ?_ tallied.stderr tallied.diagnostics tallied.exits tallied.compiles
    rw [unscored, untotalled]
    rfl

private theorem scoreItem_fits (tallied : CaseTallied limit item) (named : boundedText 128 item.caseID = true ∧ item.caseID ≠ [])
    (weight : 0 < testCase.weight ∧ testCase.weight ≤ maxTotalScore) : CaseFits true (scoreItem item testCase) := by
  obtain ⟨positive, within, full⟩ := earned_le item weight.1
  refine ⟨named, tallied.known, validMetrics_run tallied.time tallied.memory, ?_, ?_⟩
  · exact decide_eq_true ⟨weight.1, weight.2, positive, within⟩
  · simp only [validCaseScore, if_true, durableItem, scoreItem, status_text_accepted]
    split
    next accepted => exact decide_eq_true (full.mpr accepted)
    next failed => exact decide_eq_true (if_neg failed)

private theorem scored_maximum (items : List CanonicalCaseResult) (cases : List Case) (reported : items.length = cases.length) :
    ((List.zipWith scoreItem items cases).map fun item => item.maxScore.getD 0) = cases.map Case.weight := by
  induction items generalizing cases with
  | nil =>
    rw [List.length_eq_zero_iff.mp reported.symm]
    rfl
  | cons item rest ih =>
    cases cases with
    | nil => cases reported
    | cons testCase cases => exact congrArg _ (ih cases (Nat.succ.inj reported))

private theorem validScored (ids : List GoString) (positive : 0 ≤ score) (within : score ≤ total)
    (bounds : 0 < total ∧ total ≤ maxTotalScore) (status : result.status = if score = total then .accepted else .wrongAnswer) :
    validScoredResult (durableForm result) score total ⟨ids, score, total⟩ = true ∧
      Callback.validateScore result.status (some score) (some total) = .ok () := by
  have compiled : result.status ≠ .compileError := by
    rw [status]
    split <;> decide
  have compileStatus : (durableForm result).compileStatus = lit "SUCCEEDED" := if_neg compiled
  have range : ¬ (total ≤ 0 ∨ 1000000000 < total ∨ score < 0 ∨ total < score) := by
    unfold maxTotalScore at bounds
    omega
  constructor
  · unfold validScoredResult
    rw [compileStatus, if_neg (by decide), if_neg (by simp)]
    simp only [durableForm, status]
    split
    next all =>
      simp [all, Callback.Status.text]
    next partly =>
      simp [partly, Callback.Status.text]
  · refine checked_run (rejectIf_pass range) ?_
    rw [if_neg compiled]
    split
    next all => exact rejectIf_pass (by rw [status, if_pos all]; exact fun differ => differ rfl)
    next partly => exact rejectIf_pass (by rw [status, if_neg partly]; exact fun differ => differ rfl)

private theorem Reported.scored_crosses (reported : Reported manifest judged) (bounded : Bounded manifest)
    (scoring : Scoring manifest)
    (few : manifest.cases.length ≤ 256) (oi : manifest.judgeMode = .oi) (complete : judged.cases.length = manifest.cases.length)
    (compiled : judged.status ≠ .compileError) (scored : applyManifestScoring manifest judged = .ok result) : Crosses result := by
  have tallied := reported.tallied
  obtain ⟨⟨sameTime, sameMemory, sameStderr, sameDiagnostics⟩, exits⟩ := applyManifestScoring_keeps scored
  obtain ⟨expected, scores, cases, score, total, verdict⟩ := applyManifestScoring_oi oi (scoring.total oi) (Nat.le_of_eq complete)
  rw [scored] at scores
  obtain rfl := Except.ok.inj scores
  rw [if_neg compiled] at verdict
  obtain ⟨positive, within, _⟩ := earned_sum_le judged.cases manifest.cases complete (scoring.weights oi)
  have consistent := fun ids => validScored ids positive within (bounded.total oi) verdict
  have metrics : validMetrics result.timeUsedMillis result.memoryUsedKB = true := by
    rw [sameTime, sameMemory]
    exact validMetrics_run tallied.time tallied.memory
  constructor
  · refine ⟨_, durableResult_run ?_ metrics ?_ ?_ ?_ ?_ ?_⟩
    · rw [verdict]
      split <;> decide
    · rw [score, total]
      exact decide_eq_true ⟨(bounded.total oi).1, (bounded.total oi).2, positive, within⟩
    · intro item member
      rw [cases] at member
      obtain ⟨index, found⟩ := List.mem_iff_getElem?.mp member
      obtain ⟨before, testCase, beforeAt, caseAt, rfl⟩ := List.getElem?_zipWith_eq_some.mp found
      have listed := List.mem_of_getElem? beforeAt
      rw [score]
      exact scoreItem_fits (tallied.items before listed) (reported.named bounded listed)
        (bounded.weights oi testCase (List.mem_of_getElem? caseAt))
    · rw [cases]
      have kept : (List.zipWith scoreItem judged.cases manifest.cases).map CanonicalCaseResult.caseID <+:
          judged.cases.map CanonicalCaseResult.caseID := by
        apply zipWith_named
        exact fun _ _ => rfl
      exact bounded.distinct.sublist (kept.sublist.trans reported.ids.sublist)
    · rw [cases, List.length_zipWith]
      omega
    · intro points maximum ids pointsOf maximumOf
      rw [score] at pointsOf
      rw [total] at maximumOf
      obtain rfl := Option.some.inj pointsOf
      obtain rfl := Option.some.inj maximumOf
      rw [cases, scored_maximum _ _ complete, List.map_zipWith]
      exact (consistent ids).1
  · intro resultID submissionID attemptNo
    apply validateResult_run (sameTime ▸ tallied.time) (sameMemory ▸ tallied.memory) ?_ (sameStderr ▸ tallied.stderr)
      (sameDiagnostics ▸ tallied.diagnostics) (exits tallied.exits)
    · intro failed
      rw [verdict] at failed
      split at failed <;> cases failed
    · rw [score, total]
      exact (consistent []).2

private theorem compileError_crosses (bounded : Bounded manifest) (scoring : Scoring manifest)
    (scored : applyManifestScoring manifest compileErrorResult = .ok result) : Crosses result := by
  obtain ⟨⟨time, memory, stderr, diagnostics⟩, _⟩ := applyManifestScoring_keeps scored
  obtain ⟨status, cases, points⟩ : result.status = .compileError ∧ result.cases = [] ∧
      ((result.score = none ∧ result.totalScore = none) ∨
        ∃ total, (result.score = some 0 ∧ result.totalScore = some total) ∧ 0 < total ∧ total ≤ maxTotalScore) := by
    cases scoring.modes with
    | inl acm =>
      rw [applyManifestScoring_acm acm] at scored
      obtain rfl := Except.ok.inj scored
      exact ⟨rfl, rfl, .inl ⟨rfl, rfl⟩⟩
    | inr oi =>
      have none : compileErrorResult.cases.length ≤ manifest.cases.length := Nat.zero_le _
      obtain ⟨expected, scores, cases, score, total, verdict⟩ := applyManifestScoring_oi oi (scoring.total oi) none
      rw [scored] at scores
      obtain rfl := Except.ok.inj scores
      exact ⟨verdict, cases, .inr ⟨_, ⟨score, total⟩, bounded.total oi⟩⟩
  have metrics : validMetrics result.timeUsedMillis result.memoryUsedKB = true := by
    rw [time, memory]
    decide
  constructor
  · refine ⟨_, durableResult_run (by rw [status]; decide) metrics ?_ ?_ ?_ ?_ ?_⟩
    · obtain ⟨unscored, untotalled⟩ | ⟨total, ⟨score, totalled⟩, bounds⟩ := points
      · rw [unscored, untotalled]
        rfl
      · rw [score, totalled]
        exact decide_eq_true ⟨bounds.1, bounds.2, Int.le_refl 0, Int.le_of_lt bounds.1⟩
    · rw [cases]
      exact fun _ member => (List.not_mem_nil member).elim
    · rw [cases]
      exact List.nodup_nil
    · rw [cases]
      exact Nat.zero_le _
    · intro score total ids scoreOf _
      obtain ⟨unscored, _⟩ | ⟨_, ⟨zero, _⟩, _⟩ := points
      · rw [unscored] at scoreOf
        cases scoreOf
      · rw [zero] at scoreOf
        obtain rfl := Option.some.inj scoreOf
        simp [validScoredResult, durableForm, status, cases, Callback.Status.text]
  · intro resultID submissionID attemptNo
    apply validateResult_run (by rw [time]; decide) (by rw [memory]; decide) ?_ (by rw [stderr]; decide) (.inr diagnostics) ?_
      fun _ => diagnostics
    · rw [status]
      obtain ⟨unscored, untotalled⟩ | ⟨total, ⟨score, totalled⟩, bounds⟩ := points
      · rw [unscored, untotalled]
        rfl
      · rw [score, totalled]
        unfold maxTotalScore at bounds
        exact checked_run (rejectIf_pass (by omega)) rfl
    · rw [status]
      exact nofun

/-! ### Hidden compile errors -/

/-- The first case that does not pass is reported with the status of a failed compilation. -/
def FailsInCompilation (sha256 : Bytes → Bytes) (checker : Checker) (checks : List GoString)
    (events : List (Option ExecuteBatchV1Event)) : Prop :=
  ((checks.zip (caseResponses events)).find? fun pair => !passes sha256 checker pair.1 pair.2).map (fun pair => pair.2.status) =
    some (lit "Compile Error")

section

private theorem ContestantRun.crosses (run : ContestantRun sha256 pipeline input artifact contestant batch pairs)
    (shown : ¬ (artifact.manifest.judgeMode = .oi ∧ FailsInCompilation sha256 artifact.manifest.checker batch.expectedChecks batch.events))
    (judges : judgeContestant pipeline artifact checker batch = .ok judged)
    (scored : applyManifestScoring artifact.manifest judged = .ok result) : Crosses result := by
  have bounded := validate_bounded run.prepared.valid
  have scoring := validate_scoring run.prepared.valid
  have few := prepareBatch_few run.prepares
  cases run.ends with
  | inl failed =>
    obtain ⟨_, _, _, compile⟩ := failed
    rw [judgeContestant_compileError (by rw [compile]; rfl)] at judges
    obtain rfl := Except.ok.inj judges
    rw [compile] at scored
    exact compileError_crosses bounded scoring scored
  | inr answered =>
    obtain ⟨responses, answers, aggregated, _⟩ := answered
    obtain ⟨reported, length, uncompiled⟩ := run.reportedResult answers aggregated judges
    cases scoring.modes with
    | inl acm =>
      rw [applyManifestScoring_acm acm] at scored
      obtain rfl := Except.ok.inj scored
      exact reported.crosses bounded few
    | inr oi =>
      have reports : batch.result.cases = List.zipWith (report sha256 artifact.manifest.checker) pairs responses := by
        rw [aggregated, answeredResult_cases]
      have complete := run.oi_complete answers oi
      have same := (run.length answers reports).1
      refine reported.scored_crosses bounded scoring few oi (by omega) (fun compile => shown ⟨oi, ?_⟩) scored
      have overall := uncompiled compile
      rw [aggregated, answeredResult_status, answeredResult_cases, overallStatus_failsInCompilation] at overall
      unfold FailsInCompilation
      rw [answers.reported, run.checks]
      exact overall

/-- A scored compile error with reported cases is returned, whatever the checker. -/
theorem executeCanonical_uncrossed (prepares : prepareBatch sha256 pipeline input artifact = .ok (request, checks))
    (ran : pipeline.runBatch contestant request = .ok (some events)) (oi : artifact.manifest.judgeMode = .oi)
    (fails : FailsInCompilation sha256 artifact.manifest.checker checks events) :
    ∃ result, (∀ checker, executeCanonical sha256 pipeline input artifact contestant checker = .ok result) ∧ ¬ Crosses result := by
  obtain ⟨pairs, prepared, rfl⟩ := prepareBatch_ok prepares
  have scoring := validate_scoring prepared.valid
  cases validateBatchEvents_ok (runBatch_ok ran).2 with
  | inl failed =>
    obtain ⟨event, rfl, compile⟩ := failed
    have none : caseResponses [some event] = [] := by simp [caseResponses, compile]
    rw [FailsInCompilation, none, List.zip_nil_right] at fails
    cases fails
  | inr answered =>
    obtain ⟨responses, answers⟩ := answered
    have within : responses.length ≤ artifact.manifest.cases.length := by
      rw [← prepared.length]
      exact answers.within
    obtain ⟨batch, runs, compile, reports, bound, returns⟩ := executeCanonical_compileError prepares prepared ran answers (by
      rw [overallStatus_failsInCompilation, ← answers.reported]
      exact fails)
    obtain ⟨result, scores, cases, score, total, verdict⟩ := applyManifestScoring_oi oi (scoring.total oi) bound
    refine ⟨result, fun checker => (returns checker).trans scores, fun crosses => ?_⟩
    obtain ⟨⟨durable, stored⟩, _⟩ := crosses
    have reported : result.cases ≠ [] := by
      have positive := List.length_pos_iff.mpr answers.nonempty
      have pairsLength := prepared.all.length_eq
      rw [← List.length_pos_iff, cases, reports, List.length_zipWith, List.length_zipWith]
      omega
    exact durableResult_uncompiled (verdict.trans (if_pos compile)) score total reported durable stored

end

/-- Every result crosses both boundaries, exactly when no OI batch reports a
compile error as the first case that does not pass. -/
theorem canonical_result_crosses (sha256 : Bytes → Bytes) (pipeline : BatchBundlePipeline) (input : CanonicalExecutionRequest)
    (artifact : Artifact) (contestant : SandboxFleet) :
    (∀ checker result, executeCanonical sha256 pipeline input artifact contestant checker = .ok result → Crosses result) ↔
    ∀ request checks events, prepareBatch sha256 pipeline input artifact = .ok (request, checks) →
      pipeline.runBatch contestant request = .ok (some events) →
      ¬ (artifact.manifest.judgeMode = .oi ∧ FailsInCompilation sha256 artifact.manifest.checker checks events) := by
  constructor
  · rintro crosses request checks events prepares ran ⟨oi, fails⟩
    obtain ⟨result, returns, uncrossed⟩ := executeCanonical_uncrossed prepares ran oi fails
    exact uncrossed (crosses contestant result (returns contestant))
  · intro shown checker result returned
    obtain ⟨batch, ran, returned⟩ := checked_ok returned
    obtain ⟨pairs, run⟩ := runContestant_ok ran
    obtain ⟨judged, judges, scored⟩ := checked_ok returned
    exact run.crosses (shown _ _ _ run.prepares run.ran) judges scored

/-- The second case is reported as not compiled. The first one has its points, so
that both boundaries refuse the result. -/
theorem canonical_result_refused :
    ∃ result, executeCanonical id (newBatchBundlePipeline 3) sampleInput (scoredArtifact .token none)
        (steadyFleet [caseResult (lit "1") (lit "Accepted") (lit "3 4"), caseResult (lit "2") (lit "Compile Error") [], completion])
        (steadyFleet []) = .ok result ∧
      durableResult result = .error .invariantsInvalid ∧
      Callback.validateResult (completedCallback result (lit "r-1") 1 1) = .error .compileErrorScore := by
  refine ⟨⟨.compileError, 0, 5, 64,
    lit "case=1 sandboxStatus=Accepted status=ACCEPTED;case=2 sandboxStatus=Compile Error status=COMPILE_ERROR",
    compilationFailedText, some 60, some 100,
    [⟨lit "1", .accepted, 5, 64, some 60, some 60⟩, ⟨lit "2", .compileError, 5, 64, some 0, some 40⟩]⟩, ?_, ?_, ?_⟩ <;>
    decide +kernel

end JudgingServer.Proofs
