import JudgingServer.Library.Concurrent
import JudgingServer.Library.Transaction

/-! Two runs side by side. A transaction couples related states where it ends in the same
way from both of them, and a pool follows another one whose world is related to its own. -/

namespace JudgingServer.Library

namespace Transaction

variable {σ ε ε' α β : Type}

/-- Two outcomes are alike: the same error, or the same value with states that are related. -/
inductive Alike (post : α → σ → σ → Prop) : Except ε (α × σ) → Except ε (α × σ) → Prop where
  | ok (related : post value state twin) : Alike post (.ok (value, state)) (.ok (value, twin))
  | error (error : ε) : Alike post (.error error) (.error error)

/-- From related states the transaction ends alike. -/
def Couples (pre : σ → σ → Prop) (tx : Transaction σ ε α) (post : α → σ → σ → Prop) : Prop :=
  ∀ state twin, pre state twin → Alike post (tx state) (tx twin)

variable {pre : σ → σ → Prop} {middle : α → σ → σ → Prop}

theorem Couples.bind {rest : α → Transaction σ ε β} (first : Couples pre tx middle)
    (second : ∀ value, Couples (middle value) (rest value) last) : Couples pre (tx >>= rest) last := by
  intro state twin related
  have alike := first state twin related
  generalize run : tx state = outcome at alike
  generalize runTwin : tx twin = outcomeTwin at alike
  cases alike with
  | ok between =>
    rw [bind_run run, bind_run runTwin]
    exact second _ _ _ between
  | error error =>
    rw [bind_error run, bind_error runTwin]
    exact .error error

theorem Couples.pure (holds : ∀ state twin, pre state twin → middle value state twin) :
    Couples pre (Pure.pure value : Transaction σ ε α) middle :=
  fun state twin related => .ok (holds state twin related)

theorem Couples.query {read : σ → α} (same : ∀ state twin, pre state twin → read twin = read state)
    (holds : ∀ state twin, pre state twin → middle (read state) state twin) :
    Couples pre (Transaction.query read : Transaction σ ε α) middle := by
  intro state twin related
  unfold Transaction.query
  rw [same state twin related]
  exact .ok (holds state twin related)

theorem Couples.attempt {read : σ → Except ε α} (same : ∀ state twin, pre state twin → read twin = read state)
    (holds : ∀ state twin value, pre state twin → read state = .ok value → middle value state twin) :
    Couples pre (Transaction.attempt read) middle := by
  intro state twin related
  unfold Transaction.attempt
  rw [same state twin related]
  cases found : read state with
  | ok value => exact .ok (holds state twin value related found)
  | error error => exact .error error

theorem Couples.require {read : σ → Option α} (same : ∀ state twin, pre state twin → read twin = read state)
    (holds : ∀ state twin value, pre state twin → read state = some value → middle value state twin) :
    Couples pre (Transaction.require read error) middle := by
  intro state twin related
  unfold Transaction.require
  rw [same state twin related]
  cases found : read state with
  | some value => exact .ok (holds state twin value related found)
  | none => exact .error error

theorem Couples.ensure :
    Couples pre (Transaction.ensure condition error) fun _ state twin => condition = true ∧ pre state twin := by
  intro state twin related
  unfold Transaction.ensure
  split
  next holds => exact .ok ⟨holds, related⟩
  next => exact .error error

theorem Couples.fail : Couples pre (Transaction.fail error : Transaction σ ε α) middle := fun _ _ _ => .error error

theorem Couples.execute {write : σ → σ} {post : σ → σ → Prop} (holds : ∀ state twin, pre state twin → post (write state) (write twin)) :
    Couples pre (Transaction.execute write : Transaction σ ε Unit) fun _ => post :=
  fun state twin related => .ok (holds state twin related)

theorem Couples.wrap (inner : Couples pre tx middle) : Couples pre (Transaction.wrap report tx) middle := by
  intro state twin related
  have alike := inner state twin related
  unfold Transaction.wrap
  generalize tx state = outcome at alike
  generalize tx twin = outcomeTwin at alike
  cases alike with
  | ok holds => exact .ok holds
  | error error => exact .error (report error)

theorem Couples.weaken {weaker : α → σ → σ → Prop} (couples : Couples pre tx middle)
    (implied : ∀ value state twin, middle value state twin → weaker value state twin) : Couples pre tx weaker := by
  intro state twin related
  have alike := couples state twin related
  generalize tx state = outcome at alike
  generalize tx twin = outcomeTwin at alike
  cases alike with
  | ok holds => exact .ok (implied _ _ _ holds)
  | error error => exact .error error

/-! The same rules where the relation stays as it is. -/

theorem Couples.query_same {read : σ → α} (same : ∀ state twin, pre state twin → read twin = read state) :
    Couples pre (Transaction.query read : Transaction σ ε α) fun _ => pre :=
  .query same fun _ _ related => related

theorem Couples.attempt_same {read : σ → Except ε α} (same : ∀ state twin, pre state twin → read twin = read state) :
    Couples pre (Transaction.attempt read) fun _ => pre :=
  .attempt same fun _ _ _ related _ => related

theorem Couples.require_same {read : σ → Option α} (same : ∀ state twin, pre state twin → read twin = read state) :
    Couples pre (Transaction.require read error) fun _ => pre :=
  .require same fun _ _ _ related _ => related

theorem Couples.ensure_same : Couples pre (Transaction.ensure condition error) fun _ => pre :=
  .weaken .ensure fun _ _ _ checked => checked.2

/-- Coupled states give the same answer, and the states that are left behind are related again. -/
theorem Couples.commit (couples : Couples pre tx fun _ => pre) (related : pre state twin) :
    (tx.commit twin).1 = (tx.commit state).1 ∧ pre (tx.commit state).2 (tx.commit twin).2 := by
  have alike := couples state twin related
  unfold Transaction.commit
  generalize tx state = outcome at alike
  generalize tx twin = outcomeTwin at alike
  cases alike with
  | ok holds => exact ⟨rfl, holds⟩
  | error error => exact ⟨rfl, related⟩

end Transaction

variable {Call : Type} {α σ ε ι : Type}

/-- A call that answers alike in two worlds can end in the second one as it did in the first. -/
theorem Returns.coupled {related : σ → σ → Prop} (returns : Returns effect fault world answer next) (before : related world twin)
    (same : (effect twin).1 = (effect world).1) (after : related (effect world).2 (effect twin).2) :
    ∃ final, Returns effect fault twin answer final ∧ related next final := by
  cases returns with
  | answered => exact ⟨_, same ▸ .answered, after⟩
  | lost faulty => exact ⟨_, .lost faulty, before⟩
  | hidden faulty => exact ⟨_, .hidden faulty, after⟩

/-- A run of a safe pool can be followed from every related world, with the same answers. -/
theorem Discipline.AllSafe.followed [DecidableEq ι] {rules : Discipline ι σ Call Answer} {related : σ → σ → Prop}
    (calls : ∀ {i request world twin answer next}, rules.permits i request world → related world twin →
      rules.performs request world answer next → ∃ final, rules.performs request twin answer final ∧ related next final)
    (drifting : ∀ {world twin next}, related world twin → rules.drifts world next → ∃ final, rules.drifts twin final ∧ related next final)
    (all : rules.AllSafe posts pool) (reached : rules.Reaches pool after) (start : related pool.world twin) :
    ∃ final, rules.Reaches ⟨twin, pool.processes⟩ ⟨final, after.processes⟩ ∧ related after.world final := by
  induction reached with
  | refl => exact ⟨twin, .refl, start⟩
  | tail early step ih =>
    obtain ⟨between, reaches, beside⟩ := ih
    obtain ⟨safe, -⟩ := all.reaches early
    cases step with
    | call turn performed =>
      obtain ⟨final, answered, related⟩ := calls (safe.permitted turn) beside performed
      exact ⟨final, reaches.tail (.call turn answered), related⟩
    | drift drifted =>
      obtain ⟨final, drifts, related⟩ := drifting beside drifted
      exact ⟨final, reaches.tail (.drift drifts), related⟩

end JudgingServer.Library
