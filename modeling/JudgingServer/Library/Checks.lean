import Mathlib.Algebra.Order.Ring.Int

/-! Checks made one after the other: the first one that fails is reported. -/

namespace JudgingServer.Library

section

variable {ε α β : Type} {check : Except ε α}

/-- Reports the error where the condition holds. -/
def rejectIf (condition : Prop) [Decidable condition] (error : ε) : Except ε Unit :=
  if condition then .error error else .ok ()

theorem rejectIf_ok [Decidable condition] (passed : rejectIf condition error = .ok done) : ¬ condition := by
  unfold rejectIf at passed
  split at passed
  next => cases passed
  next fails => exact fails

theorem rejectIf_error [Decidable condition] (refused : rejectIf condition error = .error other) : condition ∧ other = error := by
  unfold rejectIf at refused
  split at refused
  next holds => exact ⟨holds, (Except.error.inj refused).symm⟩
  next => cases refused

theorem checked_ok (passed : (check >>= rest) = .ok value) : ∃ first, check = .ok first ∧ rest first = .ok value := by
  cases check with
  | error error => cases passed
  | ok first => exact ⟨first, rfl, passed⟩

theorem rejectIf_iff [Decidable condition] : rejectIf condition error = .ok done ↔ ¬ condition := by
  refine ⟨rejectIf_ok, fun passes => ?_⟩
  rw [rejectIf, if_neg passes]

theorem checked_iff : (check >>= rest) = .ok value ↔ ∃ first, check = .ok first ∧ rest first = .ok value := by
  refine ⟨checked_ok, ?_⟩
  rintro ⟨first, passes, continues⟩
  rw [passes]
  exact continues

/-- The error of a sequence is that of the first check or of the rest. -/
theorem checked_error (failed : (check >>= rest) = .error error) :
    check = .error error ∨ ∃ first, check = .ok first ∧ rest first = .error error := by
  cases check with
  | error other => exact .inl (congrArg _ (Except.error.inj failed))
  | ok first => exact .inr ⟨first, rfl, failed⟩

theorem rejectIf_pass [Decidable condition] (passes : ¬ condition) : rejectIf condition error = .ok () :=
  if_neg passes

theorem checked_run (passes : check = .ok first) (continues : rest first = .ok value) : (check >>= rest) = .ok value := by
  rw [passes]
  exact continues

theorem mapM_run {check : α → Except ε β} {value : α → β} (items : List α) (passes : ∀ item ∈ items, check item = .ok (value item)) :
    items.mapM check = .ok (items.map value) := by
  induction items with
  | nil => rfl
  | cons item rest ih =>
    rw [List.mapM_cons]
    refine checked_run (passes item List.mem_cons_self) ?_
    exact checked_run (ih fun other member => passes other (List.mem_cons_of_mem _ member)) rfl

theorem mapM_map {γ : Type} {check : α → Except ε β} {left : α → γ} {right : β → γ}
    (keeps : ∀ item value, check item = .ok value → right value = left item) (items : List α)
    (passed : items.mapM check = .ok values) : values.map right = items.map left := by
  induction items generalizing values with
  | nil =>
    obtain rfl := Except.ok.inj passed
    rfl
  | cons item rest ih =>
    rw [List.mapM_cons] at passed
    obtain ⟨first, here, passed⟩ := checked_ok passed
    obtain ⟨others, tail, passed⟩ := checked_ok passed
    rw [← Except.ok.inj passed, List.map_cons, List.map_cons, keeps item first here, ih tail]

theorem mapM_length {check : α → Except ε β} (items : List α) (passed : items.mapM check = .ok values) :
    values.length = items.length := by
  have same : values.map (fun _ => ()) = items.map fun _ => () := mapM_map (fun _ _ _ => rfl) items passed
  simpa using congrArg List.length same

theorem mapError_ok {ε' : Type} {report : ε → ε'} {value : α} (passed : check.mapError report = .ok value) :
    check = .ok value := by
  cases check with
  | error error => cases passed
  | ok first => rw [Except.ok.inj passed]

theorem mapError_iff {ε' : Type} {report : ε → ε'} {value : α} : check.mapError report = .ok value ↔ check = .ok value := by
  refine ⟨mapError_ok, fun passes => ?_⟩
  rw [passes]
  rfl

end

end JudgingServer.Library
