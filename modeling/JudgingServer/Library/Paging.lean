import Mathlib.Data.Set.Basic
import Mathlib.Order.Lattice

/-! Keyset pagination: a set of keys is read page by page from the greatest key on, and each
page goes on below the last key of the page before. The set may change between the pages. -/

namespace JudgingServer.Library.Paging

variable {κ : Type} [LinearOrder κ]

/-- Still to come after the key that the last page ended with. -/
def Below (after : Option κ) (key : κ) : Prop := ∀ bound ∈ after, key < bound

/-- A page of the keys that are present: those below the cursor, from the greatest on. The
keys it leaves out are below the next cursor, which is its last key. -/
structure IsPage (present : Set κ) (after : Option κ) (items : List κ) (next : Option κ) : Prop where
  sorted : items.Pairwise (· > ·)
  sound : ∀ key ∈ items, key ∈ present ∧ Below after key
  complete : ∀ key ∈ present, Below after key → key ∈ items ∨ ∃ bound ∈ next, key < bound
  cursor : ∀ bound ∈ next, Below after bound ∧ ∀ key ∈ items, bound ≤ key

/-- Pages read one after the other, each from the keys present at its time. -/
inductive Walk : Option κ → List (Set κ) → List (List κ) → Prop
  | last (page : IsPage present after items none) :
      Walk after [present] [items]
  | more (page : IsPage present after items (some bound)) (rest : Walk (some bound) sets pages) :
      Walk after (present :: sets) (items :: pages)

variable {sets : List (Set κ)}

theorem isPage_take {keys : List κ} (sorted : keys.Pairwise (· > ·))
    (members : ∀ key, key ∈ keys ↔ key ∈ present ∧ Below after key) (positive : 0 < limit) :
    IsPage present after (keys.take limit) (if limit < keys.length then (keys.take limit).getLast? else none) := by
  have split : (keys.take limit ++ keys.drop limit).Pairwise (· > ·) := by rwa [List.take_append_drop]
  obtain ⟨first, -, across⟩ := List.pairwise_append.mp split
  refine ⟨first, fun key member => (members key).mp (List.mem_of_mem_take member), ?_, ?_⟩
  · intro key inside below
    have member := (members key).mpr ⟨inside, below⟩
    rw [← List.take_append_drop limit keys] at member
    cases List.mem_append.mp member with
    | inl taken => exact .inl taken
    | inr left =>
      -- Something is left for the next page, so this page is full and ends with a greater key.
      have long : limit < keys.length := by
        have rest := List.length_pos_of_mem left
        rw [List.length_drop] at rest
        omega
      have full : keys.take limit ≠ [] := by
        intro empty
        have width := congrArg List.length empty
        rw [List.length_take, List.length_nil] at width
        omega
      rw [if_pos long, List.getLast?_eq_some_getLast full]
      exact .inr ⟨_, rfl, across _ (List.getLast_mem full) key left⟩
  · intro bound last
    split at last
    · obtain ⟨front, ends⟩ := List.getLast?_eq_some_iff.mp last
      refine ⟨((members bound).mp (List.mem_of_mem_take (List.mem_of_getLast? last))).2, ?_⟩
      intro key member
      rw [ends] at first member
      cases List.mem_append.mp member with
      | inl earlier => exact le_of_lt ((List.pairwise_append.mp first).2.2 key earlier bound (List.mem_singleton_self _))
      | inr same => exact le_of_eq (List.mem_singleton.mp same).symm
    · cases last

private theorem Walk.items_below (walk : Walk after sets pages) : ∀ key ∈ pages.flatten, Below after key := by
  induction walk with
  | last page =>
    intro key member
    rw [List.flatten_singleton] at member
    exact (page.sound key member).2
  | more page rest ih =>
    intro key member
    rw [List.flatten_cons] at member
    cases List.mem_append.mp member with
    | inl here => exact (page.sound key here).2
    | inr later =>
      intro bound held
      exact lt_trans (ih key later _ rfl) ((page.cursor _ rfl).1 bound held)

theorem Walk.sorted (walk : Walk after sets pages) : pages.flatten.Pairwise (· > ·) := by
  induction walk with
  | last page =>
    rw [List.flatten_singleton]
    exact page.sorted
  | more page rest ih =>
    rw [List.flatten_cons]
    refine List.pairwise_append.mpr ⟨page.sorted, ih, ?_⟩
    intro key here other later
    exact lt_of_lt_of_le (rest.items_below other later _ rfl) ((page.cursor _ rfl).2 key here)

theorem Walk.sound (walk : Walk after sets pages) : ∀ key ∈ pages.flatten, ∃ present ∈ sets, key ∈ present := by
  induction walk with
  | last page =>
    intro key member
    rw [List.flatten_singleton] at member
    exact ⟨_, List.mem_cons_self, (page.sound key member).1⟩
  | more page rest ih =>
    intro key member
    rw [List.flatten_cons] at member
    cases List.mem_append.mp member with
    | inl here => exact ⟨_, List.mem_cons_self, (page.sound key here).1⟩
    | inr later =>
      obtain ⟨present, listed, inside⟩ := ih key later
      exact ⟨present, List.mem_cons_of_mem _ listed, inside⟩

theorem Walk.complete (walk : Walk after sets pages) (always : ∀ present ∈ sets, key ∈ present) (below : Below after key) :
    key ∈ pages.flatten := by
  induction walk with
  | last page =>
    rw [List.flatten_singleton]
    cases page.complete key (always _ List.mem_cons_self) below with
    | inl here => exact here
    | inr left =>
      obtain ⟨_, none, -⟩ := left
      cases none
  | more page rest ih =>
    rw [List.flatten_cons]
    cases page.complete key (always _ List.mem_cons_self) below with
    | inl here => exact List.mem_append_left _ here
    | inr left =>
      obtain ⟨bound, last, less⟩ := left
      apply List.mem_append_right
      apply ih (fun present listed => always present (List.mem_cons_of_mem _ listed))
      intro other same
      cases last
      cases same
      exact less

end JudgingServer.Library.Paging
