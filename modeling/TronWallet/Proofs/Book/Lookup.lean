import TronWallet.Book
import TronWallet.Proofs.Fallible

/-!
# What is registered in a book

A book is determined by what it has under each name (`ext_get?`), and each operation is
described by what it does to that: `set` changes one name, `erase` empties one, and a
registration that is accepted is a `set` under the name without the white space around it
(`register_eq_ok_iff`).
-/

namespace TronWallet.Book

/-! ## Pairs -/

theorem mem_setPair_iff (name : String) (address : Address) (p : String × Address)
    {ps : List (String × Address)} (h : ps.Pairwise fun p q => p.1 < q.1) :
    p ∈ setPair name address ps ↔ p = (name, address) ∨ (p.1 ≠ name ∧ p ∈ ps) := by
  induction ps with
  | nil => simp [setPair]
  | cons q qs ih =>
      obtain ⟨hq, hqs⟩ := List.pairwise_cons.1 h
      rw [setPair]
      split
      · rename_i hlt
        have hne : ∀ r ∈ q :: qs, r.1 ≠ name := by
          intro r hr heq
          rcases List.mem_cons.1 hr with rfl | hr
          · exact String.lt_irrefl _ (heq ▸ hlt)
          · exact String.lt_irrefl _ (String.lt_trans (heq ▸ hlt) (hq r hr))
        rw [List.mem_cons]
        exact or_congr_right ⟨fun hp => ⟨hne p hp, hp⟩, fun hp => hp.2⟩
      · split
        · rename_i heq
          have hne : ∀ r ∈ qs, r.1 ≠ name := by
            intro r hr hname
            have hlt := hq r hr
            rw [hname, heq] at hlt
            exact String.lt_irrefl _ hlt
          rw [List.mem_cons, List.mem_cons]
          refine or_congr_right ⟨fun hp => ⟨hne p hp, .inr hp⟩, fun hp => ?_⟩
          rcases hp.2 with rfl | hmem
          · exact absurd heq.symm hp.1
          · exact hmem
        · rename_i hne
          rw [List.mem_cons, List.mem_cons, ih hqs]
          constructor
          · rintro (rfl | rfl | hp)
            · exact .inr ⟨Ne.symm hne, .inl rfl⟩
            · exact .inl rfl
            · exact .inr ⟨hp.1, .inr hp.2⟩
          · rintro (rfl | ⟨hp, rfl | hmem⟩)
            · exact .inr (.inl rfl)
            · exact .inl rfl
            · exact .inr (.inr ⟨hp, hmem⟩)

/-- A name after all others is added at the end. -/
theorem setPair_eq_append {name : String} {address : Address} {ps : List (String × Address)}
    (h : ∀ p ∈ ps, p.1 < name) : setPair name address ps = ps ++ [(name, address)] := by
  induction ps with
  | nil => rfl
  | cons q qs ih =>
      obtain ⟨hq, hqs⟩ := List.forall_mem_cons.1 h
      have hlt : ¬ name < q.1 := fun hlt => String.lt_irrefl _ (String.lt_trans hlt hq)
      have hne : name ≠ q.1 := by
        rintro rfl
        exact String.lt_irrefl _ hq
      rw [setPair, if_neg hlt, if_neg hne, ih hqs, List.cons_append]

/-! ## Looking up -/

theorem get?_eq_some_iff {b : Book} {name : String} {address : Address} :
    b.get? name = some address ↔ (name, address) ∈ b.pairs := by
  obtain ⟨ps, hps⟩ := b
  simp only [get?, Option.map_eq_some_iff]
  induction ps with
  | nil => simp
  | cons q qs ih =>
      obtain ⟨hq, hqs⟩ := List.pairwise_cons.1 hps
      rw [List.find?_cons]
      by_cases heq : q.1 = name
      · have hne : (name, address) ∉ qs := by
          intro hmem
          have hlt := hq _ hmem
          rw [heq] at hlt
          exact String.lt_irrefl _ hlt
        simp only [heq, decide_true, Option.some.injEq, exists_eq_left', List.mem_cons, hne,
          or_false]
        constructor
        · rintro rfl
          rw [← heq]
        · intro h
          rw [← h]
      · have hne : (name, address) ≠ q := by
          rintro rfl
          exact heq rfl
        simpa [heq, hne] using ih hqs

/-- A book is determined by what it has under each name. -/
theorem ext_get? {a b : Book} (h : ∀ name, a.get? name = b.get? name) : a = b := by
  have hasymm : ∀ p q : String × Address, p.1 < q.1 → q.1 < p.1 → p = q := fun p q hpq hqp =>
    absurd (String.lt_trans hpq hqp) (String.lt_irrefl _)
  have hnodup : ∀ c : Book, c.pairs.Nodup := by
    intro c
    refine c.ascending.imp ?_
    rintro p q hlt rfl
    exact String.lt_irrefl _ hlt
  have hperm : a.pairs.Perm b.pairs := by
    rw [List.perm_ext_iff_of_nodup (hnodup a) (hnodup b)]
    intro p
    rw [← get?_eq_some_iff, ← get?_eq_some_iff, h]
  exact Book.ext (hperm.eq_of_pairwise (fun p q _ _ => hasymm p q) a.ascending b.ascending)

instance : DecidableEq Book := fun _ _ => decidable_of_iff _ ⟨Book.ext, congrArg pairs⟩

theorem get?_set (b : Book) (name other : String) (address : Address) :
    (b.set name address).get? other = if other = name then some address else b.get? other := by
  ext a
  have hmem := mem_setPair_iff name address (other, a) b.ascending
  rw [get?_eq_some_iff, set, hmem]
  split
  · rename_i heq
    simp [heq, eq_comm]
  · rename_i hne
    simp [hne, get?_eq_some_iff]

theorem get?_erase (b : Book) (name other : String) :
    (b.erase name).get? other = if other = name then none else b.get? other := by
  ext a
  rw [get?_eq_some_iff, erase, List.mem_filter]
  split
  · rename_i heq
    simp [heq]
  · rename_i hne
    simp [hne, get?_eq_some_iff]

/-! ## Operations -/

/-- The pairs of a book make the book again. -/
theorem ofPairs_pairs (b : Book) : ofPairs b.pairs = b := by
  have hfold : ∀ (ps : List (String × Address)) (c : Book),
      (c.pairs ++ ps).Pairwise (fun p q => p.1 < q.1) →
      (ps.foldl (fun b p => b.set p.1 p.2) c).pairs = c.pairs ++ ps := by
    intro ps
    induction ps with
    | nil =>
        intro c _
        rw [List.foldl_nil, List.append_nil]
    | cons p ps ih =>
        intro c hc
        have hlt : ∀ q ∈ c.pairs, q.1 < p.1 := fun q hq =>
          (List.pairwise_append.1 hc).2.2 q hq p List.mem_cons_self
        have hset : (c.set p.1 p.2).pairs = c.pairs ++ [p] := setPair_eq_append hlt
        rw [List.foldl_cons, ih, hset, List.append_assoc, List.singleton_append]
        rwa [hset, List.append_assoc, List.singleton_append]
  exact Book.ext (hfold b.pairs empty (by simpa [empty] using b.ascending))

/-- May a book have the name at all? Without the white space around it, it has a length
within the limit and is no address. -/
structure Allowed (name : String) : Prop where
  length_pos : 0 < Text.byteLength (Text.trimmed name).toList
  length_le : Text.byteLength (Text.trimmed name).toList ≤ nameLimit
  not_address : ∀ a, Address.parse (Text.trimmed name) ≠ .ok a

/-- A name is registered if it is allowed and not registered yet. -/
theorem register_eq_ok_iff {b c : Book} {name : String} {address : Address} :
    b.register name address = .ok c ↔
      Allowed name ∧ b.get? (Text.trimmed name) = none ∧
        c = b.set (Text.trimmed name) address := by
  rw [register]
  constructor
  · intro h
    split at h
    · cases h
    · rename_i hlength
      split at h
      · cases h
      · rename_i hok
        split at h
        · cases h
        · rename_i hsome
          cases h
          refine ⟨⟨by omega, by omega, fun a ha => ?_⟩, by simpa using hsome, rfl⟩
          rw [ha] at hok
          exact hok rfl
  · rintro ⟨hallowed, hnone, rfl⟩
    have hpos := hallowed.length_pos
    have hle := hallowed.length_le
    have hok : (Address.parse (Text.trimmed name)).isOk = false := by
      cases hparse : Address.parse (Text.trimmed name) with
      | ok a => exact absurd hparse (hallowed.not_address a)
      | error e => rfl
    rw [if_neg (by omega), hok, hnone]
    rfl

/-- The book with several names set, without the white space around them. -/
def setAll (b : Book) (ps : List (String × Address)) : Book :=
  ps.foldl (fun b p => b.set (Text.trimmed p.1) p.2) b

/-- Names are registered together if each is allowed and not registered yet, and no two of
them are the same. -/
theorem registerAll_eq_ok_iff {b c : Book} {ps : List (String × Address)} :
    b.registerAll ps = .ok c ↔
      (∀ p ∈ ps, Allowed p.1 ∧ b.get? (Text.trimmed p.1) = none) ∧
        (ps.map fun p => Text.trimmed p.1).Nodup ∧ c = b.setAll ps := by
  induction ps generalizing b with
  | nil => simp [registerAll, setAll, pure, Except.pure, eq_comm]
  | cons p ps ih =>
      have hcons : b.registerAll (p :: ps) = .ok c ↔
          ∃ b', b.register p.1 p.2 = .ok b' ∧ b'.registerAll ps = .ok c := by
        rw [registerAll, List.foldlM_cons, Except.bind_eq_ok_iff]
        rfl
      have hfree : ∀ q : String × Address,
          (b.set (Text.trimmed p.1) p.2).get? (Text.trimmed q.1) = none ↔
            Text.trimmed q.1 ≠ Text.trimmed p.1 ∧ b.get? (Text.trimmed q.1) = none := by
        intro q
        rw [get?_set]
        split
        · simp [*]
        · simp [*]
      rw [hcons, List.forall_mem_cons, List.map_cons, List.nodup_cons, List.mem_map]
      constructor
      · rintro ⟨b', hregister, hrest⟩
        obtain ⟨hallowed, hnone, rfl⟩ := register_eq_ok_iff.1 hregister
        obtain ⟨hall, hnodup, rfl⟩ := ih.1 hrest
        refine ⟨⟨⟨hallowed, hnone⟩, fun q hq => ⟨(hall q hq).1, ((hfree q).1 (hall q hq).2).2⟩⟩,
          ⟨?_, hnodup⟩, rfl⟩
        rintro ⟨q, hq, heq⟩
        exact ((hfree q).1 (hall q hq).2).1 heq
      · rintro ⟨⟨⟨hallowed, hnone⟩, hall⟩, ⟨hnew, hnodup⟩, rfl⟩
        refine ⟨_, register_eq_ok_iff.2 ⟨hallowed, hnone, rfl⟩, ih.2 ⟨fun q hq => ?_, hnodup, rfl⟩⟩
        exact ⟨(hall q hq).1, (hfree q).2 ⟨fun heq => hnew ⟨q, hq, heq⟩, (hall q hq).2⟩⟩

/-- Names that are registered together are added to those that are there. -/
theorem get?_setAll_eq_some_iff {b : Book} {ps : List (String × Address)} {name : String}
    {address : Address} (hfree : ∀ p ∈ ps, b.get? (Text.trimmed p.1) = none)
    (hnodup : (ps.map fun p => Text.trimmed p.1).Nodup) :
    (b.setAll ps).get? name = some address ↔
      b.get? name = some address ∨ (name, address) ∈ ps.map fun p => (Text.trimmed p.1, p.2) := by
  induction ps generalizing b with
  | nil => simp [setAll]
  | cons p ps ih =>
      obtain ⟨hnone, hrest⟩ := List.forall_mem_cons.1 hfree
      rw [List.map_cons, List.nodup_cons, List.mem_map] at hnodup
      have hfree' : ∀ q ∈ ps, (b.set (Text.trimmed p.1) p.2).get? (Text.trimmed q.1) = none := by
        intro q hq
        rw [get?_set, if_neg fun heq => hnodup.1 ⟨q, hq, heq⟩]
        exact hrest q hq
      have hcons : b.setAll (p :: ps) = (b.set (Text.trimmed p.1) p.2).setAll ps := rfl
      rw [hcons, ih hfree' hnodup.2, get?_set, List.map_cons, List.mem_cons, Prod.mk.injEq]
      by_cases heq : name = Text.trimmed p.1
      · simp [heq, hnone, eq_comm]
      · simp [heq]

theorem remove_eq_ok_iff {b c : Book} {name : String} {address : Address} :
    b.remove name = .ok (address, c) ↔ b.get? name = some address ∧ c = b.erase name := by
  rw [remove]
  cases b.get? name with
  | none => simp
  | some a => simp [eq_comm]

end TronWallet.Book
