import Mathlib.Logic.Function.Basic

/-! Calls that share a resource: each call may claim a piece of it, and no piece is
claimed twice. -/

namespace JudgingServer.Library

variable {κ γ α : Type} [DecidableEq κ] {calls : κ → Option γ}

theorem update_cases (calling : Function.update calls caller (some call) other = some otherCall) :
    other = caller ∧ otherCall = call ∨ other ≠ caller ∧ calls other = some otherCall := by
  by_cases same : other = caller
  · subst same
    exact .inl ⟨rfl, by simpa using calling.symm⟩
  · exact .inr ⟨same, by rwa [Function.update_of_ne same] at calling⟩

/-- No two calls have claimed one piece. -/
def Exclusive (claim : γ → Option α) (calls : κ → Option γ) : Prop :=
  ∀ first second left right piece, calls first = some left → calls second = some right →
    claim left = some piece → claim right = some piece → first = second

theorem Exclusive.update (exclusive : Exclusive claim calls)
    (alone : ∀ piece, claim call = some piece →
      ∀ other otherCall, other ≠ caller → calls other = some otherCall → claim otherCall ≠ some piece) :
    Exclusive claim (Function.update calls caller (some call)) := by
  intro first second left right piece calling calling' claims claims'
  rcases update_cases calling with ⟨rfl, rfl⟩ | ⟨one, old⟩ <;> rcases update_cases calling' with ⟨rfl, rfl⟩ | ⟨two, old'⟩
  · rfl
  · exact absurd claims' (alone piece claims second right two old')
  · exact absurd claims (alone piece claims' first left one old)
  · exact exclusive first second left right piece old old' claims claims'

end JudgingServer.Library
