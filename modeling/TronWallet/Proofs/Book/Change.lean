import TronWallet.Proofs.Book.Lookup

/-!
# Changes of a book

The commands change a book in three ways: they register an account, remove one, or register
several at once. What a change adds is there after it (`Change.get?_of_added`), and nothing
but its own removal takes an account away (`Change.get?_of_apply`); the same is true of
changes one after the other (`Change.get?_applyAll_of_added`).
-/

namespace TronWallet

/-- A change of the book. -/
inductive Change where
  | register (name : String) (address : Address)
  | remove (name : String)
  | registerAll (accounts : List (String × Address))
  deriving DecidableEq

namespace Change

/-- Changes a book. -/
def apply (b : Book) : Change → Except Book.Refusal Book
  | register name address => b.register name address
  | remove name => (b.remove name).map Prod.snd
  | registerAll accounts => b.registerAll accounts

/-- The accounts that a change adds, under the names that they are registered with. -/
def added : Change → List (String × Address)
  | register name address => [(Text.trimmed name, address)]
  | remove _ => []
  | registerAll accounts => accounts.map fun p => (Text.trimmed p.1, p.2)

/-- Changes a book several times. -/
def applyAll (b : Book) (changes : List Change) : Except Book.Refusal Book :=
  changes.foldlM apply b

variable {b c : Book} {change : Change} {changes : List Change} {name : String} {address : Address}

theorem get?_of_apply (h : change.apply b = .ok c) (hkept : change ≠ .remove name)
    (hget : b.get? name = some address) : c.get? name = some address := by
  cases change with
  | register other added =>
      rw [apply, Book.register_eq_ok_iff] at h
      obtain ⟨-, hfree, rfl⟩ := h
      rw [Book.get?_set, if_neg, hget]
      rintro rfl
      rw [hfree] at hget
      cases hget
  | remove other =>
      obtain ⟨⟨removed, _⟩, hremove, rfl⟩ := Except.map_eq_ok_iff.1 h
      obtain ⟨-, rfl⟩ := Book.remove_eq_ok_iff.1 hremove
      rw [Book.get?_erase, if_neg, hget]
      rintro rfl
      exact hkept rfl
  | registerAll accounts =>
      rw [apply, Book.registerAll_eq_ok_iff] at h
      obtain ⟨hallowed, hnodup, rfl⟩ := h
      exact (Book.get?_setAll_eq_some_iff (fun p hp => (hallowed p hp).2) hnodup).2 (.inl hget)

theorem get?_of_added (h : change.apply b = .ok c) (hadded : (name, address) ∈ change.added) :
    c.get? name = some address := by
  cases change with
  | register other added =>
      rw [apply, Book.register_eq_ok_iff] at h
      obtain ⟨-, -, rfl⟩ := h
      cases List.mem_singleton.1 hadded
      rw [Book.get?_set, if_pos rfl]
  | remove other => cases hadded
  | registerAll accounts =>
      rw [apply, Book.registerAll_eq_ok_iff] at h
      obtain ⟨hallowed, hnodup, rfl⟩ := h
      exact (Book.get?_setAll_eq_some_iff (fun p hp => (hallowed p hp).2) hnodup).2 (.inr hadded)

/-! ## One change after the other -/

theorem applyAll_append_eq_ok_iff {more : List Change} :
    applyAll b (changes ++ more) = .ok c ↔
      ∃ d, applyAll b changes = .ok d ∧ applyAll d more = .ok c := by
  rw [applyAll, List.foldlM_append]
  exact Except.bind_eq_ok_iff

theorem applyAll_cons_eq_ok_iff :
    applyAll b (change :: changes) = .ok c ↔
      ∃ d, change.apply b = .ok d ∧ applyAll d changes = .ok c := by
  rw [applyAll, List.foldlM_cons]
  exact Except.bind_eq_ok_iff

theorem applyAll_append_singleton (h : applyAll b changes = .ok c) {d : Book}
    (happly : change.apply c = .ok d) : applyAll b (changes ++ [change]) = .ok d :=
  applyAll_append_eq_ok_iff.2 ⟨c, h, applyAll_cons_eq_ok_iff.2 ⟨d, happly, rfl⟩⟩

theorem get?_of_applyAll (h : applyAll b changes = .ok c)
    (hkept : ∀ change ∈ changes, change ≠ .remove name) (hget : b.get? name = some address) :
    c.get? name = some address := by
  induction changes generalizing b with
  | nil =>
      cases h
      exact hget
  | cons change changes ih =>
      obtain ⟨d, happly, hrest⟩ := applyAll_cons_eq_ok_iff.1 h
      obtain ⟨hfirst, hkept⟩ := List.forall_mem_cons.1 hkept
      exact ih hrest hkept (get?_of_apply happly hfirst hget)

/-- An added account is there after all changes, if none of the later ones removes it. -/
theorem get?_applyAll_of_added {before after : List Change}
    (h : applyAll b (before ++ change :: after) = .ok c) (hadded : (name, address) ∈ change.added)
    (hkept : ∀ later ∈ after, later ≠ .remove name) : c.get? name = some address := by
  obtain ⟨d, -, hafter⟩ := applyAll_append_eq_ok_iff.1 h
  obtain ⟨e, happly, hrest⟩ := applyAll_cons_eq_ok_iff.1 hafter
  exact get?_of_applyAll hrest hkept (get?_of_added happly hadded)

end Change

end TronWallet
