import Mathlib.Algebra.Order.Ring.Int

/-! Runs of a system whose steps are chosen by events, and the rules for what holds
along a run. -/

namespace JudgingServer.Library

variable {σ ε : Type}

/-- The state after the events, taken in order. -/
def run (step : ε → σ → σ) (events : List ε) (state : σ) : σ := events.foldl (fun state event => step event state) state

/-- Every event of the run is allowed in the state it is taken in. -/
def Along (step : ε → σ → σ) (allowed : σ → ε → Prop) : List ε → σ → Prop
  | [], _ => True
  | event :: rest, state => allowed state event ∧ Along step allowed rest (step event state)

/-- Every state of the run has the property, the first and the last included. -/
def Throughout (step : ε → σ → σ) (holds : σ → Prop) : List ε → σ → Prop
  | [], state => holds state
  | event :: rest, state => holds state ∧ Throughout step holds rest (step event state)

@[simp] theorem run_nil (state : σ) : run step [] state = state := rfl

@[simp] theorem run_cons (event : ε) (events : List ε) (state : σ) :
    run step (event :: events) state = run step events (step event state) := rfl

theorem run_append (first second : List ε) (state : σ) :
    run step (first ++ second) state = run step second (run step first state) := by
  simp [run]

theorem Throughout.first (all : Throughout step holds events state) : holds state := by
  cases events with
  | nil => exact all
  | cons event rest => exact all.1

theorem Throughout.last (all : Throughout step holds events state) : holds (run step events state) := by
  induction events generalizing state with
  | nil => exact all
  | cons event rest ih => exact ih all.2

/-- What every allowed step preserves holds at the end of a run of allowed steps. -/
theorem run_preserves {invariant : σ → Prop}
    (keeps : ∀ state event, invariant state → allowed state event → invariant (step event state)) (events : List ε)
    (start : invariant state) (along : Along step allowed events state) : invariant (run step events state) := by
  induction events generalizing state with
  | nil => exact start
  | cons event rest ih => exact ih (keeps state event start along.1) along.2

theorem along_of_mem {allowed : ε → Prop} (each : ∀ event ∈ events, allowed event) (state : σ) :
    Along step (fun _ event => allowed event) events state := by
  induction events generalizing state with
  | nil => trivial
  | cons event rest ih =>
    exact ⟨each event (List.mem_cons_self ..), ih (fun later member => each later (List.mem_cons_of_mem _ member)) _⟩

theorem along_append :
    Along step allowed (first ++ second) state ↔ Along step allowed first state ∧ Along step allowed second (run step first state) := by
  induction first generalizing state with
  | nil => exact ⟨fun along => ⟨trivial, along⟩, And.right⟩
  | cons event rest ih =>
    rw [List.cons_append, Along, Along, ih, run_cons, and_assoc]

theorem along_and (one : Along step first events state) (two : Along step second events state) :
    Along step (fun state event => first state event ∧ second state event) events state := by
  induction events generalizing state with
  | nil => trivial
  | cons event rest ih => exact ⟨⟨one.1, two.1⟩, ih one.2 two.2⟩

/-- What every step preserves holds at the end of every run. -/
theorem run_invariant {invariant : σ → Prop} (keeps : ∀ state event, invariant state → invariant (step event state))
    (events : List ε) (start : invariant state) : invariant (run step events state) :=
  run_preserves (fun state event holds _ => keeps state event holds) events start (along_of_mem (fun _ _ => trivial) state)

theorem run_along {invariant : σ → Prop} (keeps : ∀ state event, invariant state → invariant (step event state))
    (each : ∀ state event, invariant state → safe state event) (events : List ε) (start : invariant state) :
    Along step safe events state := by
  induction events generalizing state with
  | nil => trivial
  | cons event rest ih => exact ⟨each state event start, ih (keeps state event start)⟩

/-- Two conditions on steps that agree where the invariant holds allow the same runs. -/
theorem along_congr {invariant : σ → Prop} (keeps : ∀ state event, invariant state → invariant (step event state))
    (agree : ∀ state event, invariant state → (first state event ↔ second state event)) (events : List ε)
    (start : invariant state) : Along step first events state ↔ Along step second events state := by
  induction events generalizing state with
  | nil => exact Iff.rfl
  | cons event rest ih => exact and_congr (agree state event start) (ih (keeps state event start))

/-- A property that a step keeps exactly when it is allowed holds throughout exactly the
runs of allowed steps. -/
theorem throughout_iff_along {invariant : σ → Prop} {given : ε → Prop}
    (keeps : ∀ state event, invariant state → given event → invariant (step event state))
    (exact_ : ∀ state event, invariant state → given event → holds state → (holds (step event state) ↔ allowed state event))
    (each : ∀ event ∈ events, given event) (start : invariant state) (first : holds state) :
    Throughout step holds events state ↔ Along step allowed events state := by
  induction events generalizing state with
  | nil => exact iff_of_true first trivial
  | cons event rest ih =>
    have here := each event (List.mem_cons_self ..)
    have rest_each := fun later member => each later (List.mem_cons_of_mem event member)
    have allows := exact_ state event start here first
    constructor
    · rintro ⟨_, later⟩
      have next : holds (step event state) := by
        cases rest with
        | nil => exact later
        | cons _ _ => exact later.1
      exact ⟨allows.mp next, (ih rest_each (keeps state event start here) next).mp later⟩
    · rintro ⟨permitted, later⟩
      have next := allows.mpr permitted
      exact ⟨first, (ih rest_each (keeps state event start here) next).mpr later⟩

end JudgingServer.Library
