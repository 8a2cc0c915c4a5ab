import TronWallet.Proofs.Book.Lookup

/-!
# Accounts that are registered one after the other

`RegistersEach` registers accounts one at a time, each in the book that the one before has
left. Whether all of them are accepted, and which book they lead to, does not depend on the
order (`registersEach_iff_of_perm`): they have to be allowed and new, and no two of them may
have the same name without the white space around it. The book grows by each of them
(`size_of_registersEach`).
-/

namespace TronWallet.Book

/-- Accounts are registered one after the other, and each of them is accepted. -/
inductive RegistersEach : Book → List (String × Address) → Book → Prop where
  | nil (b : Book) : RegistersEach b [] b
  | cons {b b' c : Book} {name : String} {address : Address} {ps : List (String × Address)}
      (hregister : b.register name address = .ok b') (hrest : RegistersEach b' ps c) :
      RegistersEach b ((name, address) :: ps) c

variable {b c : Book} {name : String} {address : Address} {ps qs : List (String × Address)}

theorem registersEach_cons_iff {p : String × Address} :
    RegistersEach b (p :: ps) c ↔
      ∃ b', b.register p.1 p.2 = .ok b' ∧ RegistersEach b' ps c := by
  constructor
  · rintro ⟨⟩
    exact ⟨_, ‹_›, ‹_›⟩
  · rintro ⟨b', hregister, hrest⟩
    exact .cons hregister hrest

theorem registerAll_eq_ok_iff_registersEach :
    b.registerAll ps = .ok c ↔ RegistersEach b ps c := by
  induction ps generalizing b with
  | nil =>
      constructor
      · intro h
        cases h
        exact .nil _
      · intro h
        cases h
        rfl
  | cons p ps ih =>
      rw [registersEach_cons_iff, registerAll, List.foldlM_cons, Except.bind_eq_ok_iff]
      exact exists_congr fun b' => and_congr_right fun _ => ih

/-! ## The order does not matter -/

theorem registersEach_iff :
    RegistersEach b ps c ↔
      (∀ p ∈ ps, Allowed p.1 ∧ b.get? (Text.trimmed p.1) = none) ∧
        (ps.map fun p => Text.trimmed p.1).Nodup ∧ c = b.setAll ps := by
  rw [← registerAll_eq_ok_iff_registersEach, registerAll_eq_ok_iff]

/-- New accounts with different names make the same book in any order. -/
theorem setAll_eq_of_perm (h : ps.Perm qs)
    (hfree : ∀ p ∈ ps, b.get? (Text.trimmed p.1) = none)
    (hnodup : (ps.map fun p => Text.trimmed p.1).Nodup) : b.setAll ps = b.setAll qs := by
  refine ext_get? fun name => ?_
  ext address
  have hfree' : ∀ p ∈ qs, b.get? (Text.trimmed p.1) = none := fun p hp =>
    hfree p (h.mem_iff.2 hp)
  have hnodup' : (qs.map fun p => Text.trimmed p.1).Nodup := (h.map _).nodup_iff.1 hnodup
  rw [get?_setAll_eq_some_iff hfree hnodup, get?_setAll_eq_some_iff hfree' hnodup']
  exact or_congr_right (h.map _).mem_iff

theorem RegistersEach.of_perm (h : ps.Perm qs) (hps : RegistersEach b ps c) :
    RegistersEach b qs c := by
  obtain ⟨hall, hnodup, rfl⟩ := registersEach_iff.1 hps
  refine registersEach_iff.2 ⟨fun p hp => hall p (h.mem_iff.2 hp), (h.map _).nodup_iff.1 hnodup, ?_⟩
  exact setAll_eq_of_perm h (fun p hp => (hall p hp).2) hnodup

theorem registersEach_iff_of_perm (h : ps.Perm qs) :
    RegistersEach b ps c ↔ RegistersEach b qs c :=
  ⟨.of_perm h, .of_perm h.symm⟩

/-! ## What has been registered -/

/-- The old accounts are there unchanged, and the new ones under their names without the
white space around them. -/
theorem get?_of_registersEach (h : RegistersEach b ps c) (name : String) (address : Address) :
    c.get? name = some address ↔
      b.get? name = some address ∨ (name, address) ∈ ps.map fun p => (Text.trimmed p.1, p.2) := by
  obtain ⟨hall, hnodup, rfl⟩ := registersEach_iff.1 h
  exact get?_setAll_eq_some_iff (fun p hp => (hall p hp).2) hnodup

theorem length_setPair (h : ∀ p ∈ ps, p.1 ≠ name) :
    (setPair name address ps).length = ps.length + 1 := by
  induction ps with
  | nil => rfl
  | cons p ps ih =>
      obtain ⟨hp, hps⟩ := List.forall_mem_cons.1 h
      rw [setPair]
      split
      · rfl
      · rw [if_neg hp.symm, List.length_cons, ih hps, List.length_cons]

theorem size_set_of_get?_eq_none (h : b.get? name = none) :
    (b.set name address).size = b.size + 1 := by
  refine length_setPair ?_
  rintro p hp rfl
  rw [get?_eq_some_iff.2 hp] at h
  cases h

/-- Every registration adds one account. -/
theorem size_of_registersEach (h : RegistersEach b ps c) : c.size = b.size + ps.length := by
  induction h with
  | nil b => rfl
  | cons hregister _ ih =>
      obtain ⟨-, hfree, rfl⟩ := register_eq_ok_iff.1 hregister
      rw [ih, size_set_of_get?_eq_none hfree, List.length_cons]
      omega

end TronWallet.Book
