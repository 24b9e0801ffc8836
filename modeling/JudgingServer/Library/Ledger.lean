import Mathlib.Algebra.BigOperators.Group.List.Basic
import Mathlib.Algebra.Order.Ring.Int
import Mathlib.Logic.Function.Basic
import Mathlib.Logic.Relation

/-! Accounts with holds: an amount is held back on an account first, and later the
whole hold is released and a part of it is charged. -/

namespace JudgingServer.Library.Ledger

variable {ι κ : Type} {limit : Int}

/-- An amount held back on an account. -/
structure Hold (ι κ : Type) where
  id : ι
  account : κ
  amount : Int

/-- The open holds, and what was charged to each account. -/
structure Book (ι κ : Type) where
  holds : List (Hold ι κ)
  charged : κ → Int

variable [DecidableEq κ]

def Book.held (book : Book ι κ) (account : κ) : Int :=
  (book.holds.map fun hold => if hold.account = account then hold.amount else 0).sum

/-- What can happen to a book. A new hold has to be admitted; a hold is settled as a
whole, and what is charged for it is a part of it. -/
inductive Posting (admits : Book ι κ → Hold ι κ → Prop) (book : Book ι κ) : Book ι κ → Prop where
  | reserve (hold : Hold ι κ) (positive : 0 < hold.amount) (fresh : ∀ other ∈ book.holds, other.id ≠ hold.id)
      (admitted : admits book hold) : Posting admits book { book with holds := book.holds ++ [hold] }
  | settle (hold : Hold ι κ) (charge : Int) (open_ : book.holds = before ++ hold :: after)
      (nonneg : 0 ≤ charge) (within : charge ≤ hold.amount) :
      Posting admits book
        ⟨before ++ after, Function.update book.charged hold.account (book.charged hold.account + charge)⟩

def Postings (admits : Book ι κ → Hold ι κ → Prop) : Book ι κ → Book ι κ → Prop := Relation.ReflTransGen (Posting admits)

variable {admits : Book ι κ → Hold ι κ → Prop}

theorem Book.held_append (before after : List (Hold ι κ)) (charged : κ → Int) (account : κ) :
    (Book.mk (before ++ after) charged).held account =
      (Book.mk before charged).held account + (Book.mk after charged).held account := by
  simp [Book.held]

/-- Holds and charges stay within a limit that every hold was admitted under. -/
theorem Posting.bounded (posting : Posting admits book book')
    (limited : ∀ hold, admits book hold → hold.account = account → book.held account + book.charged account + hold.amount ≤ limit)
    (bounded : book.held account + book.charged account ≤ limit) : book'.held account + book'.charged account ≤ limit := by
  cases posting with
  | reserve hold positive fresh admitted =>
    rw [Book.held_append]
    by_cases same : hold.account = account
    · have room := limited hold admitted same
      simp only [Book.held, List.map_cons, List.map_nil, List.sum_cons, List.sum_nil, same, if_true] at room ⊢
      omega
    · simpa [Book.held, same] using bounded
  | @settle before after hold charge open_ nonneg within =>
    unfold Book.held at *
    rw [open_] at bounded
    by_cases same : hold.account = account
    · subst same
      simp only [List.map_append, List.map_cons, List.sum_append, List.sum_cons, if_true, Function.update_self] at *
      omega
    · simp only [List.map_append, List.map_cons, List.sum_append, List.sum_cons, if_neg same,
        Function.update_of_ne (Ne.symm same)] at *
      omega

theorem Postings.bounded (postings : Postings admits book book')
    (limited : ∀ book hold, admits book hold → hold.account = account → book.held account + book.charged account + hold.amount ≤ limit)
    (bounded : book.held account + book.charged account ≤ limit) : book'.held account + book'.charged account ≤ limit := by
  induction postings with
  | refl => exact bounded
  | tail _ posting ih => exact posting.bounded (limited _) ih

end JudgingServer.Library.Ledger
