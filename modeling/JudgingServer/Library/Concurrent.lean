import Mathlib.Logic.Function.Basic
import Mathlib.Logic.Relation

/-! Processes that share a world. A process makes one call after the other and may be
stopped between any two of them; the calls of different processes interleave in any
order. A discipline says what every call has to find in the world, what it leaves
alone, and what a process may rely on while others run. -/

namespace JudgingServer.Library

/-- A process: the calls it makes and what it does with each answer. -/
inductive Process (Call : Type) (Answer : Call → Type) (α : Type) where
  | done (result : α)
  | call (request : Call) (next : Answer request → Process Call Answer α)

variable {Call : Type} {Answer : Call → Type} {α β σ ε ι : Type}
namespace Process

def bind (process : Process Call Answer α) (rest : α → Process Call Answer β) : Process Call Answer β :=
  match process with
  | .done result => rest result
  | .call request next => .call request fun answer => (next answer).bind rest

instance : Monad (Process Call Answer) where
  pure := .done
  bind := bind

/-- The process that makes one call and returns its answer. -/
def ask (request : Call) : Process Call Answer (Answer request) := .call request .done

end Process

/-- How a call ends: with its answer, or with a fault that hides whether it took effect. -/
inductive Returns (effect : σ → Except ε α × σ) (fault : ε → Prop) (world : σ) : Except ε α → σ → Prop where
  | answered : Returns effect fault world (effect world).1 (effect world).2
  | lost (faulty : fault error) : Returns effect fault world (.error error) world
  | hidden (faulty : fault error) : Returns effect fault world (.error error) (effect world).2

namespace Returns

theorem world_cases (returns : Returns effect fault world answer next) : next = world ∨ next = (effect world).2 := by
  cases returns with
  | answered => exact .inr rfl
  | lost => exact .inl rfl
  | hidden => exact .inr rfl

theorem ok (returns : Returns effect fault world (.ok value) next) : (effect world).1 = .ok value ∧ next = (effect world).2 := by
  generalize given : Except.ok value = answer at returns
  cases returns with
  | answered => exact ⟨rfl, rfl⟩
  | lost => cases given
  | hidden => cases given

theorem error {error : ε} (returns : Returns effect fault world (.error error) next) (faultless : ¬ fault error) :
    (effect world).1 = .error error ∧ next = (effect world).2 := by
  generalize given : Except.error error = answer at returns
  cases returns with
  | answered => exact ⟨rfl, rfl⟩
  | lost faulty =>
    obtain rfl := Except.error.inj given
    exact absurd faulty faultless
  | hidden faulty =>
    obtain rfl := Except.error.inj given
    exact absurd faulty faultless

end Returns

/-- The processes and the world they share. -/
structure Pool (ι σ Call : Type) (Answer : Call → Type) (α : Type) where
  world : σ
  processes : ι → Process Call Answer α

/-- One step of a pool: a process makes its next call, or the world drifts. A process that
takes no more steps has crashed. -/
inductive Pool.Step [DecidableEq ι] (performs : (request : Call) → σ → Answer request → σ → Prop) (drifts : σ → σ → Prop) :
    Pool ι σ Call Answer α → Pool ι σ Call Answer α → Prop where
  | call {pool : Pool ι σ Call Answer α} {i : ι} {request : Call} {next : Answer request → Process Call Answer α}
      {answer : Answer request} {world : σ} (turn : pool.processes i = .call request next)
      (performed : performs request pool.world answer world) :
      Step performs drifts pool ⟨world, Function.update pool.processes i (next answer)⟩
  | drift {pool : Pool ι σ Call Answer α} {world : σ} (drifted : drifts pool.world world) :
      Step performs drifts pool ⟨world, pool.processes⟩

theorem Pool.Step.imp [DecidableEq ι] {performs performs' : (request : Call) → σ → Answer request → σ → Prop} {drifts drifts' : σ → σ → Prop}
    {pool after : Pool ι σ Call Answer α} (step : Pool.Step performs drifts pool after)
    (calls : ∀ {request answer}, performs request pool.world answer after.world → performs' request pool.world answer after.world)
    (drift : drifts pool.world after.world → drifts' pool.world after.world) : Pool.Step performs' drifts' pool after := by
  cases step with
  | call turn performed => exact .call turn (calls performed)
  | drift drifted => exact .drift (drift drifted)

/-- The process and the world after a number of calls, each performed as given. -/
def Process.carry (perform : (request : Call) → σ → Answer request × σ) : Nat → Process Call Answer α → σ → Process Call Answer α × σ
  | 0, process, world => (process, world)
  | _ + 1, .done result, world => (.done result, world)
  | steps + 1, .call request next, world => carry perform steps (next (perform request world).1) (perform request world).2

/-- A pool gets to where one of its processes carries it, with calls that keep an invariant. -/
theorem Pool.carry_keeps [DecidableEq ι] {performs : (request : Call) → σ → Answer request → σ → Prop}
    {perform : (request : Call) → σ → Answer request × σ} (invariant : σ → Prop) (performed : ∀ request world, invariant world →
      performs request world (perform request world).1 (perform request world).2 ∧ invariant (perform request world).2)
    (steps : Nat) (pool : Pool ι σ Call Answer α) (i : ι) (start : invariant pool.world) :
    Relation.ReflTransGen (Pool.Step performs drifts) pool
      ⟨((pool.processes i).carry perform steps pool.world).2,
        Function.update pool.processes i ((pool.processes i).carry perform steps pool.world).1⟩ ∧
      invariant ((pool.processes i).carry perform steps pool.world).2 := by
  induction steps generalizing pool with
  | zero => simpa [Process.carry] using ⟨Relation.ReflTransGen.refl, start⟩
  | succ steps ih =>
    cases turn : pool.processes i with
    | done result =>
      have unchanged : Function.update pool.processes i (.done result) = pool.processes := by rw [← turn, Function.update_eq_self]
      simpa [Process.carry, unchanged] using ⟨Relation.ReflTransGen.refl, start⟩
    | call request next =>
      let after : Pool ι σ Call Answer α :=
        ⟨(perform request pool.world).2, Function.update pool.processes i (next (perform request pool.world).1)⟩
      obtain ⟨performs, keeps⟩ := performed request pool.world start
      have first : Pool.Step _ drifts pool after := .call turn performs
      have rest := ih after keeps
      simp only [after, Function.update_self, Function.update_idem] at rest
      exact ⟨Relation.ReflTransGen.head first rest.1, rest.2⟩

theorem Pool.carry_reaches [DecidableEq ι] {performs : (request : Call) → σ → Answer request → σ → Prop}
    {perform : (request : Call) → σ → Answer request × σ}
    (performed : ∀ request world, performs request world (perform request world).1 (perform request world).2) (steps : Nat)
    (pool : Pool ι σ Call Answer α) (i : ι) :
    Relation.ReflTransGen (Pool.Step performs drifts) pool
      ⟨((pool.processes i).carry perform steps pool.world).2,
        Function.update pool.processes i ((pool.processes i).carry perform steps pool.world).1⟩ :=
  (Pool.carry_keeps (fun _ => True) (fun request world _ => ⟨performed request world, trivial⟩) steps pool i trivial).1

/-- What the calls of a system do, and the rules they keep: a call that is permitted keeps
the world valid, lets it evolve, and spares what another process relies on. -/
structure Discipline (ι σ Call : Type) (Answer : Call → Type) where
  performs : (request : Call) → σ → Answer request → σ → Prop
  drifts : σ → σ → Prop
  valid : σ → Prop
  evolves : σ → σ → Prop
  spares : ι → σ → σ → Prop
  permits : ι → Call → σ → Prop
  evolves_refl : ∀ world, evolves world world
  evolves_trans : ∀ {first second third}, evolves first second → evolves second third → evolves first third
  spares_refl : ∀ i world, spares i world world
  spares_trans : ∀ {i first second third}, spares i first second → spares i second third → spares i first third
  keeps : ∀ {i request world answer next}, valid world → permits i request world → performs request world answer next →
    valid next ∧ evolves world next ∧ ∀ j, j ≠ i → spares j world next
  drift : ∀ {world next}, valid world → drifts world next → valid next ∧ evolves world next ∧ ∀ i, spares i world next

namespace Discipline

section

variable (rules : Discipline ι σ Call Answer)

/-- What a process may rely on while others run. -/
def rely (i : ι) (world next : σ) : Prop :=
  rules.evolves world next ∧ rules.spares i world next

/-- Every call of the process is permitted when it is made, whatever the others do, and its
result meets the postcondition from then on. -/
def Safe (rules : Discipline ι σ Call Answer) (i : ι) (post : α → σ → Prop) : Process Call Answer α → σ → Prop
  | .done result, world => ∀ next, rules.valid next → rules.rely i world next → post result next
  | .call request rest, world => ∀ next, rules.valid next → rules.rely i world next →
      rules.permits i request next ∧ ∀ answer last, rules.performs request next answer last → Safe rules i post (rest answer) last

/-- An assertion that the other processes leave alone. -/
def Stable (i : ι) (assertion : σ → Prop) : Prop :=
  ∀ world next, rules.valid world → rules.valid next → rules.rely i world next → assertion world → assertion next

/-- An assertion that no call takes back, those of the process itself included. -/
def Kept (assertion : σ → Prop) : Prop :=
  ∀ world next, rules.valid world → rules.valid next → rules.evolves world next → assertion world → assertion next

end

variable {rules : Discipline ι σ Call Answer} {post : α → σ → Prop}

private theorem rely_refl (i : ι) (world : σ) : rules.rely i world world := ⟨rules.evolves_refl world, rules.spares_refl i world⟩

private theorem rely_trans (early : rules.rely i first second) (late : rules.rely i second third) : rules.rely i first third :=
  ⟨rules.evolves_trans early.1 late.1, rules.spares_trans early.2 late.2⟩

theorem Safe.mono (safe : rules.Safe i post process world) (later : rules.rely i world next) :
    rules.Safe i post process next := by
  cases process with
  | done result => exact fun last valid more => safe last valid (rely_trans later more)
  | call request rest => exact fun last valid more => safe last valid (rely_trans later more)

/-- The postcondition of a process that may fail. -/
def OnSuccess (post : α → σ → Prop) (result : Except ε α) (world : σ) : Prop := ∀ value, result = .ok value → post value world

theorem Safe.failed : rules.Safe i (OnSuccess post) (.done (.error error)) world := by
  intro next _ _ value given
  cases given

theorem Safe.succeeds {result : Except ε α} (stable : ∀ value, rules.Stable i (post value)) (valid : rules.valid world)
    (holds : OnSuccess post result world) : rules.Safe i (OnSuccess post) (.done result) world :=
  fun next kept later value given => stable value world next valid kept later (holds value given)

theorem Safe.finish {result : α} : rules.Safe i (fun _ _ => True) (.done result) world := fun _ _ _ => trivial

theorem Safe.permissive (permitted : ∀ request world, rules.permits i request world) (process : Process Call Answer α) (world : σ) :
    rules.Safe i (fun _ _ => True) process world := by
  induction process generalizing world with
  | done result => exact .finish
  | call request rest ih => exact fun next _ _ => ⟨permitted request next, fun answer last _ => ih answer last⟩

theorem Kept.stable (kept : rules.Kept assertion) (i : ι) : rules.Stable i assertion :=
  fun world next valid lastValid rely holds => kept world next valid lastValid rely.1 holds

theorem stable_true (i : ι) : rules.Stable i fun _ => True := fun _ _ _ _ _ _ => trivial

theorem Stable.and (left : rules.Stable i first) (right : rules.Stable i second) :
    rules.Stable i fun world => first world ∧ second world :=
  fun world next valid lastValid rely holds =>
    ⟨left world next valid lastValid rely holds.1, right world next valid lastValid rely holds.2⟩

/-- The rule for a call: a stable assertion permits it, and leads to what the rest needs. -/
theorem Safe.ask {rest : Answer request → Process Call Answer α} (assertion : σ → Prop) (stable : rules.Stable i assertion)
    (valid : rules.valid world) (holds : assertion world)
    (permitted : ∀ next, rules.valid next → assertion next → rules.permits i request next)
    (resume : ∀ next answer last, rules.valid next → assertion next → rules.valid last → rules.evolves next last → rules.performs request next answer last → rules.Safe i post (rest answer) last) :
    rules.Safe i post (Process.ask request >>= rest) world := by
  intro next kept later
  have held := stable world next valid kept later holds
  have permit := permitted next kept held
  refine ⟨permit, fun answer last performed => ?_⟩
  obtain ⟨lastValid, evolved, -⟩ := rules.keeps kept permit performed
  exact resume next answer last kept held lastValid evolved performed

theorem Safe.bind {rest : α → Process Call Answer β} (valid : rules.valid world) (first : rules.Safe i middle process world)
    (second : ∀ result next, rules.valid next → middle result next → rules.Safe i last (rest result) next) :
    rules.Safe i last (process >>= rest) world := by
  induction process generalizing world with
  | done result => exact second result world valid (first world valid (rely_refl i world))
  | call request step ih =>
    intro next kept later
    obtain ⟨permitted, resume⟩ := first next kept later
    refine ⟨permitted, fun answer final performed => ?_⟩
    exact ih answer (rules.keeps kept permitted performed).1 (resume answer final performed)

/-- A process that keeps to the rules from every valid world, whatever it knows. -/
def Compliant (rules : Discipline ι σ Call Answer) (i : ι) (process : Process Call Answer α) : Prop :=
  ∀ world, rules.valid world → rules.Safe i (fun _ _ => True) process world

theorem Compliant.done : rules.Compliant i (.done result) := fun _ _ => .finish

theorem Compliant.ask {rest : Answer request → Process Call Answer α} (permitted : ∀ world, rules.permits i request world)
    (resume : ∀ world answer next, rules.valid world → rules.performs request world answer next → rules.Compliant i (rest answer)) :
    rules.Compliant i (Process.ask request >>= rest) := by
  intro world valid
  refine .ask _ (stable_true i) valid trivial (fun next _ _ => permitted next) ?_
  intro next answer last nextValid _ lastValid _ performed
  exact resume next answer last nextValid performed last lastValid

theorem Compliant.bind {rest : α → Process Call Answer β} (first : rules.Compliant i process)
    (second : ∀ result, rules.Compliant i (rest result)) : rules.Compliant i (process >>= rest) :=
  fun world valid => .bind valid (first world valid) fun result next nextValid _ => second result next nextValid

theorem Safe.frame (safe : rules.Safe i post process world) (kept : rules.Kept assertion) (valid : rules.valid world)
    (holds : assertion world) : rules.Safe i (fun result world => post result world ∧ assertion world) process world := by
  induction process generalizing world with
  | done result => exact fun next nextValid later => ⟨safe next nextValid later, kept world next valid nextValid later.1 holds⟩
  | call request rest ih =>
    intro next nextValid later
    obtain ⟨permitted, resume⟩ := safe next nextValid later
    refine ⟨permitted, fun answer last performed => ?_⟩
    obtain ⟨lastValid, evolved, -⟩ := rules.keeps nextValid permitted performed
    have still := kept world next valid nextValid later.1 holds
    exact ih answer (resume answer last performed) lastValid (kept next last nextValid lastValid evolved still)

theorem Safe.permitted (safe : rules.Safe i post (.call request rest) world) (valid : rules.valid world) :
    rules.permits i request world :=
  (safe world valid (rely_refl i world)).1

theorem Safe.result {result : α} (safe : rules.Safe i post (.done result) world) (valid : rules.valid world) : post result world :=
  safe world valid (rely_refl i world)

/-- The world is valid and every process safe. -/
structure AllSafe (rules : Discipline ι σ Call Answer) (posts : ι → α → σ → Prop) (pool : Pool ι σ Call Answer α) : Prop where
  valid : rules.valid pool.world
  safe : ∀ i, rules.Safe i (posts i) (pool.processes i) pool.world

theorem AllSafe.permitted (all : rules.AllSafe posts pool) (turn : pool.processes i = .call request rest) :
    rules.permits i request pool.world := by
  have safe := all.safe i
  rw [turn] at safe
  exact safe.permitted all.valid

theorem AllSafe.result (all : rules.AllSafe posts pool) {result : α} (finished : pool.processes i = .done result) :
    posts i result pool.world := by
  have safe := all.safe i
  rw [finished] at safe
  exact safe.result all.valid

variable [DecidableEq ι]

/-- The pools that a pool can get to. -/
abbrev Reaches (rules : Discipline ι σ Call Answer) : Pool ι σ Call Answer α → Pool ι σ Call Answer α → Prop :=
  Relation.ReflTransGen (Pool.Step rules.performs rules.drifts)

theorem AllSafe.step (all : rules.AllSafe posts pool) (step : Pool.Step rules.performs rules.drifts pool after) :
    rules.AllSafe posts after ∧ rules.evolves pool.world after.world := by
  cases step with
  | @call i request rest answer world turn performed =>
    have safe := all.safe i
    rw [turn] at safe
    obtain ⟨permitted, resume⟩ := safe pool.world all.valid (rely_refl i pool.world)
    obtain ⟨valid, evolved, spared⟩ := rules.keeps all.valid permitted performed
    refine ⟨⟨valid, fun j => ?_⟩, evolved⟩
    by_cases same : j = i
    · subst same
      simpa using resume answer world performed
    · simpa [same] using (all.safe j).mono ⟨evolved, spared j same⟩
  | drift drifted =>
    obtain ⟨valid, evolved, spared⟩ := rules.drift all.valid drifted
    exact ⟨⟨valid, fun j => (all.safe j).mono ⟨evolved, spared j⟩⟩, evolved⟩

theorem AllSafe.reaches (all : rules.AllSafe posts pool) (reached : rules.Reaches pool after) :
    rules.AllSafe posts after ∧ rules.evolves pool.world after.world := by
  induction reached with
  | refl => exact ⟨all, rules.evolves_refl pool.world⟩
  | tail _ step ih =>
    obtain ⟨safe, evolved⟩ := ih
    obtain ⟨next, more⟩ := safe.step step
    exact ⟨next, rules.evolves_trans evolved more⟩

end Discipline

end JudgingServer.Library
