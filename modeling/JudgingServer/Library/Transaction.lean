import Mathlib.Algebra.Order.Ring.Int

/-! Transactions on a state: computations that either commit a new state together
with a result, or fail and leave the state as it was. Two families of lemmas come
with the statements: what a commit says about each statement (`_ok`), and how a
statement followed by the rest of the transaction evaluates (`_bind`). -/

namespace JudgingServer.Library

abbrev Transaction (σ ε α : Type) := StateT σ (Except ε) α

namespace Transaction

variable {σ ε ε' α β : Type} {rest : α → Transaction σ ε β} {report : ε → ε'} {read : σ → Except ε α} {write : σ → σ}

/-- The result of a transaction and the state it leaves behind. -/
def commit (tx : Transaction σ ε α) (state : σ) : Except ε α × σ :=
  match tx state with
  | .ok (value, next) => (.ok value, next)
  | .error error => (.error error, state)

/-- A statement that reads the state. -/
def query (read : σ → α) : Transaction σ ε α := fun state => .ok (read state, state)

/-- A statement that reads one row and fails where there is none. -/
def require (read : σ → Option α) (error : ε) : Transaction σ ε α := fun state =>
  match read state with
  | some value => .ok (value, state)
  | none => .error error

/-- A statement that reads the state and may fail on what it finds. -/
def attempt (read : σ → Except ε α) : Transaction σ ε α := fun state =>
  match read state with
  | .ok value => .ok (value, state)
  | .error error => .error error

/-- A statement that changes the state. -/
def execute (write : σ → σ) : Transaction σ ε Unit := fun state => .ok ((), write state)

def ensure (condition : Bool) (error : ε) : Transaction σ ε Unit := fun state =>
  if condition then .ok ((), state) else .error error

def fail (error : ε) : Transaction σ ε α := fun _ => .error error

/-- A transaction whose errors are reported in another form. -/
def wrap (report : ε → ε') (tx : Transaction σ ε α) : Transaction σ ε' α := fun state =>
  match tx state with
  | .ok committed => .ok committed
  | .error error => .error (report error)

section Commits

theorem bind_ok (ran : (tx >>= rest) state = .ok (result, last)) :
    ∃ value next, tx state = .ok (value, next) ∧ rest value next = .ok (result, last) := by
  cases first : tx state with
  | error error => simp [bind, StateT.bind, first, Except.bind] at ran
  | ok outcome =>
    refine ⟨outcome.1, outcome.2, rfl, ?_⟩
    simpa [bind, StateT.bind, first, Except.bind] using ran

theorem pure_ok (ran : (pure given : Transaction σ ε α) state = .ok (value, next)) : given = value ∧ state = next := by
  have same := Except.ok.inj ran
  exact ⟨congrArg Prod.fst same, congrArg Prod.snd same⟩

theorem query_ok {read : σ → α} (ran : (query read : Transaction σ ε α) state = .ok (value, next)) :
    read state = value ∧ state = next := by
  have same := Except.ok.inj ran
  exact ⟨congrArg Prod.fst same, congrArg Prod.snd same⟩

theorem require_ok {read : σ → Option α} (ran : require read error state = .ok (value, next)) :
    read state = some value ∧ state = next := by
  unfold require at ran
  split at ran
  next found =>
    have same := Except.ok.inj ran
    exact ⟨found.trans (congrArg (some ∘ Prod.fst) same), congrArg Prod.snd same⟩
  next => cases ran

theorem attempt_ok (ran : attempt read state = .ok (value, next)) : read state = .ok value ∧ state = next := by
  unfold attempt at ran
  split at ran
  next found =>
    have same := Except.ok.inj ran
    exact ⟨found.trans (congrArg (Except.ok ∘ Prod.fst) same), congrArg Prod.snd same⟩
  next => cases ran

theorem execute_ok (ran : (execute write : Transaction σ ε Unit) state = .ok (done, next)) : next = write state :=
  (congrArg Prod.snd (Except.ok.inj ran)).symm

theorem ensure_ok (ran : (ensure condition error : Transaction σ ε Unit) state = .ok (done, next)) :
    condition = true ∧ state = next := by
  unfold ensure at ran
  split at ran
  next holds => exact ⟨holds, congrArg Prod.snd (Except.ok.inj ran)⟩
  next => cases ran

theorem fail_ok (ran : (fail error : Transaction σ ε α) state = .ok (value, next)) : False := by
  cases ran

theorem wrap_ok (ran : wrap report tx state = .ok (value, next)) : tx state = .ok (value, next) := by
  unfold wrap at ran
  split at ran
  next outcome run => rw [run, Except.ok.inj ran]
  next => cases ran

section Sequences

variable {rest : α → Transaction σ ε β}

theorem after_ok (ran : (tx >>= rest) state = .ok (result, last)) (first : tx state = .ok (value, next)) :
    rest value next = .ok (result, last) := by
  obtain ⟨_, _, same, remaining⟩ := bind_ok ran
  obtain ⟨rfl, rfl⟩ := Prod.mk.inj (Except.ok.inj (first.symm.trans same))
  exact remaining

theorem after_query {read : σ → α} (ran : (query read >>= rest) state = .ok (result, last)) :
    rest (read state) state = .ok (result, last) := after_ok ran rfl

theorem after_require {read : σ → Option α} (ran : (require read error >>= rest) state = .ok (result, last)) :
    ∃ value, read state = some value ∧ rest value state = .ok (result, last) := by
  obtain ⟨value, next, first, remaining⟩ := bind_ok ran
  obtain ⟨found, rfl⟩ := require_ok first
  exact ⟨value, found, remaining⟩

theorem after_attempt (ran : (attempt read >>= rest) state = .ok (result, last)) :
    ∃ value, read state = .ok value ∧ rest value state = .ok (result, last) := by
  obtain ⟨value, next, first, remaining⟩ := bind_ok ran
  obtain ⟨found, rfl⟩ := attempt_ok first
  exact ⟨value, found, remaining⟩

theorem after_execute {rest : Unit → Transaction σ ε β} (ran : (execute write >>= rest) state = .ok (result, last)) :
    rest () (write state) = .ok (result, last) := after_ok ran rfl

theorem after_ensure {rest : Unit → Transaction σ ε β}
    (ran : (ensure condition error >>= rest) state = .ok (result, last)) :
    condition = true ∧ rest () state = .ok (result, last) := by
  obtain ⟨_, next, first, remaining⟩ := bind_ok ran
  obtain ⟨holds, rfl⟩ := ensure_ok first
  exact ⟨holds, remaining⟩

end Sequences

/-- A transaction changes the state only by committing. -/
theorem commit_cases (tx : Transaction σ ε α) (state : σ) :
    (∃ value next, tx state = .ok (value, next) ∧ tx.commit state = (.ok value, next)) ∨
    (∃ error, tx state = .error error ∧ tx.commit state = (.error error, state)) := by
  unfold commit
  cases run : tx state with
  | ok outcome => exact .inl ⟨outcome.1, outcome.2, rfl, rfl⟩
  | error error => exact .inr ⟨error, rfl, rfl⟩

end Commits

/-- The transaction does not fail with such an error. -/
def Avoids (bad : ε → Prop) (tx : Transaction σ ε α) (state : σ) : Prop := ∀ error, tx state = .error error → ¬ bad error

section Errors

variable {bad : ε → Prop}

theorem Avoids.bind (first : Avoids bad tx state)
    (second : ∀ value next, tx state = .ok (value, next) → Avoids bad (rest value) next) : Avoids bad (tx >>= rest) state := by
  intro error failed
  cases run : tx state with
  | error early =>
    have same : early = error := by simpa [Bind.bind, StateT.bind, run, Except.bind] using failed
    exact same ▸ first early run
  | ok outcome =>
    refine second outcome.1 outcome.2 run error ?_
    simpa [Bind.bind, StateT.bind, run, Except.bind] using failed

theorem Avoids.of_ok (run : tx state = .ok outcome) : Avoids bad tx state := by
  intro error failed
  rw [run] at failed
  cases failed

theorem Avoids.pure (value : α) : Avoids bad (Pure.pure value : Transaction σ ε α) state := .of_ok rfl

theorem Avoids.query (read : σ → α) : Avoids bad (Transaction.query read) state := .of_ok rfl

theorem Avoids.execute (write : σ → σ) : Avoids bad (Transaction.execute write) state := .of_ok rfl

theorem Avoids.require (read : σ → Option α) (good : ¬ bad error) : Avoids bad (Transaction.require read error) state := by
  intro failure failed
  unfold Transaction.require at failed
  split at failed
  next => cases failed
  next => exact Except.error.inj failed ▸ good

theorem Avoids.ensure (good : condition = false → ¬ bad error) : Avoids bad (Transaction.ensure condition error) state := by
  intro failure failed
  unfold Transaction.ensure at failed
  split at failed
  next => cases failed
  next fails => exact Except.error.inj failed ▸ good (by simpa using fails)

theorem Avoids.fail (good : ¬ bad error) : Avoids bad (Transaction.fail error : Transaction σ ε α) state := by
  intro failure failed
  exact Except.error.inj failed ▸ good

theorem Avoids.attempt (good : ∀ error, read state = .error error → ¬ bad error) :
    Avoids bad (Transaction.attempt read) state := by
  intro failure failed
  unfold Transaction.attempt at failed
  split at failed
  next => cases failed
  next error found => exact good failure (found.trans (congrArg Except.error (Except.error.inj failed)))

theorem Avoids.wrap {worse : ε' → Prop} (inner : Avoids (fun error => worse (report error)) tx state) :
    Avoids worse (Transaction.wrap report tx) state := by
  intro failure failed
  unfold Transaction.wrap at failed
  split at failed
  next => cases failed
  next error found => exact Except.error.inj failed ▸ inner error found

theorem Avoids.after_ok (first : tx state = .ok (value, next)) (later : Avoids bad (rest value) next) :
    Avoids bad (tx >>= rest) state := by
  refine .bind (.of_ok first) fun _ _ ran => ?_
  obtain ⟨rfl, rfl⟩ := Prod.mk.inj (Except.ok.inj (first.symm.trans ran))
  exact later

theorem Avoids.after_require {read : σ → Option α} (first : Avoids bad (Transaction.require read error) state)
    (later : ∀ value, read state = some value → Avoids bad (rest value) state) :
    Avoids bad (Transaction.require read error >>= rest) state := by
  refine .bind first fun value next ran => ?_
  obtain ⟨found, rfl⟩ := require_ok ran
  exact later value found

theorem Avoids.after_ensure {rest : Unit → Transaction σ ε β} (first : Avoids bad (Transaction.ensure condition error) state)
    (later : condition = true → Avoids bad (rest ()) state) : Avoids bad (Transaction.ensure condition error >>= rest) state := by
  refine .bind first fun _ next ran => ?_
  obtain ⟨holds, rfl⟩ := ensure_ok ran
  exact later holds

theorem Avoids.commit (avoids : Avoids bad tx state) (failed : (tx.commit state).1 = .error error) : ¬ bad error := by
  obtain ⟨value, next, _, committed⟩ | ⟨early, run, rolledBack⟩ := commit_cases tx state
  · rw [committed] at failed
    cases failed
  · rw [rolledBack] at failed
    exact avoids error (Except.error.inj failed ▸ run)

end Errors

/-- What holds of the state before still holds after a commit. -/
def Keeps (invariant : σ → Prop) (tx : Transaction σ ε α) : Prop :=
  ∀ state value next, tx state = .ok (value, next) → invariant state → invariant next

section Frames

variable {invariant : σ → Prop}

theorem Keeps.bind (first : Keeps invariant tx) (second : ∀ value, Keeps invariant (rest value)) :
    Keeps invariant (tx >>= rest) := by
  intro state value next ran holds
  obtain ⟨middle, between, run, ran⟩ := bind_ok ran
  exact second middle between value next ran (first state middle between run holds)

theorem Keeps.pure (value : α) : Keeps invariant (Pure.pure value : Transaction σ ε α) := by
  intro state _ next ran holds
  exact (pure_ok ran).2 ▸ holds

theorem Keeps.query (read : σ → α) : Keeps invariant (Transaction.query read : Transaction σ ε α) := by
  intro state _ next ran holds
  exact (query_ok ran).2 ▸ holds

theorem Keeps.require (read : σ → Option α) : Keeps invariant (Transaction.require read error) := by
  intro state _ next ran holds
  exact (require_ok ran).2 ▸ holds

theorem Keeps.attempt (read : σ → Except ε α) : Keeps invariant (Transaction.attempt read) := by
  intro state _ next ran holds
  exact (attempt_ok ran).2 ▸ holds

theorem Keeps.ensure : Keeps invariant (Transaction.ensure condition error) := by
  intro state _ next ran holds
  exact (ensure_ok ran).2 ▸ holds

theorem Keeps.fail : Keeps invariant (Transaction.fail error : Transaction σ ε α) := by
  intro state _ next ran holds
  exact (fail_ok ran).elim

theorem Keeps.execute (kept : ∀ state, invariant state → invariant (write state)) :
    Keeps invariant (Transaction.execute write : Transaction σ ε Unit) := by
  intro state _ next ran holds
  exact execute_ok ran ▸ kept state holds

theorem Keeps.wrap (inner : Keeps invariant tx) : Keeps invariant (Transaction.wrap report tx) :=
  fun state value next ran holds => inner state value next (wrap_ok ran) holds

theorem Keeps.commit (keeps : Keeps invariant tx) (holds : invariant state) : invariant (tx.commit state).2 := by
  obtain ⟨value, next, run, committed⟩ | ⟨error, run, rolledBack⟩ := commit_cases tx state
  · rw [committed]
    exact keeps state value next run holds
  · rw [rolledBack]
    exact holds

end Frames

section Evaluation

@[simp] theorem query_bind (read : σ → α) (rest : α → Transaction σ ε β) :
    (query read >>= rest) state = rest (read state) state := rfl

@[simp] theorem execute_bind (write : σ → σ) (rest : Unit → Transaction σ ε β) :
    (execute write >>= rest) state = rest () (write state) := rfl

theorem require_bind {read : σ → Option α} (found : read state = some value) (rest : α → Transaction σ ε β) :
    (require read error >>= rest) state = rest value state := by
  simp [bind, StateT.bind, require, found, Except.bind]

theorem attempt_run (found : read state = .ok value) : attempt read state = .ok (value, state) := by
  simp [attempt, found]

theorem ensure_bind (holds : condition = true) (rest : Unit → Transaction σ ε β) :
    (ensure condition error >>= rest) state = rest () state := by
  simp [bind, StateT.bind, ensure, holds, Except.bind]

theorem bind_run (run : tx state = .ok (value, next)) (rest : α → Transaction σ ε β) : (tx >>= rest) state = rest value next := by
  simp [bind, StateT.bind, run, Except.bind]

theorem bind_error (failed : tx state = .error error) (rest : α → Transaction σ ε β) : (tx >>= rest) state = .error error := by
  simp [bind, StateT.bind, failed, Except.bind]

theorem wrap_run (run : tx state = .ok (value, next)) : wrap report tx state = .ok (value, next) := by
  simp [wrap, run]

end Evaluation

end Transaction

end JudgingServer.Library
