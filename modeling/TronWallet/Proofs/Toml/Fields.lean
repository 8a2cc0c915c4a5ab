import TronWallet.Proofs.Fallible
import TronWallet.Proofs.Toml.Keys
import TronWallet.Toml.Decode

/-!
# Fields of what a table decodes to

A table is decoded entry by entry. A `Field` takes its value from the entry of one key and is left
alone by all others, so that after the whole table it has what this entry gives, or what it had at
the start if the table has no such entry (`Field.given`).
-/

namespace TronWallet.Toml

variable {σ α : Type}

/-- The field has what the value under its key gives, or its default if there is none. -/
def Given (found : Option Value) (reads : Value → α → Prop) (default a : α) : Prop :=
  match found with
  | some v => reads v a
  | none => a = default

/-- The value under the key of a field, if there is one, gives something. -/
def Readable (found : Option Value) (reads : Value → α → Prop) : Prop :=
  ∀ v, found = some v → ∃ a, reads v a

section

variable {found : Option Value} {reads : Value → α → Prop} {default a b : α}

theorem Given.readable (h : Given found reads default a) : Readable found reads := by
  rintro v rfl
  exact ⟨a, h⟩

/-- A field is given in one way, if values are read in one way. -/
theorem Given.unique (hreads : ∀ v a b, reads v a → reads v b → a = b)
    (ha : Given found reads default a) (hb : Given found reads default b) : a = b := by
  cases found with
  | none => exact Eq.trans ha (Eq.symm hb)
  | some v => exact hreads v a b ha hb

end

/-- The field takes its value from the entry of the key and from no other entry. -/
structure Field (add : σ → String × Value → Except Refusal σ) (key : String)
    (reads : Value → α → Prop) (get : σ → α) : Prop where
  own : ∀ c v c', add c (key, v) = .ok c' → reads v (get c')
  other : ∀ c e c', e.1 ≠ key → add c e = .ok c' → get c' = get c

variable {add : σ → String × Value → Except Refusal σ} {key : String}
  {reads : Value → α → Prop} {get : σ → α} {t : Table} {start c : σ}

/-- A field that is set to what is read of the value under its key. -/
theorem Field.of_read {read : Value → Except Refusal α} {set : σ → α → σ}
    (hread : ∀ v a, read v = .ok a → reads v a)
    (hadd : ∀ c v, add c (key, v) = (read v).map (set c)) (hget : ∀ c a, get (set c a) = a)
    (hother : ∀ c e c', e.1 ≠ key → add c e = .ok c' → get c' = get c) :
    Field add key reads get where
  own := fun c v c' h => by
    rw [hadd] at h
    obtain ⟨a, ha, rfl⟩ := Except.map_eq_ok_iff.1 h
    rw [hget]
    exact hread v a ha
  other := hother

theorem Field.eq_of_foldlM (hf : Field add key reads get) (ht : ∀ e ∈ t, e.1 ≠ key)
    (h : t.foldlM add start = .ok c) : get c = get start := by
  refine Except.foldlM_induction (P := fun c => get c = get start) ?_ rfl h
  intro e he b b' hb hadd
  rw [hf.other b e b' (ht e he) hadd, hb]

/-- After the whole table, the field has what the entry of its key gives. -/
theorem Field.given (hf : Field add key reads get) (hkeys : (t.map Prod.fst).Nodup)
    (h : t.foldlM add start = .ok c) : Given (Table.get? t key) reads (get start) (get c) := by
  cases hget : Table.get? t key with
  | none => exact hf.eq_of_foldlM (Table.get?_eq_none_iff.1 hget) h
  | some v =>
      obtain ⟨before, after, rfl⟩ := List.append_of_mem (Table.mem_of_get? hget)
      rw [List.foldlM_append, Except.bind_eq_ok_iff] at h
      obtain ⟨c₁, -, h⟩ := h
      rw [List.foldlM_cons, Except.bind_eq_ok_iff] at h
      obtain ⟨c₂, hadd, h⟩ := h
      rw [List.map_append, List.map_cons] at hkeys
      -- No later entry has the key again, so the field keeps what it has got.
      have hafter : ∀ e ∈ after, e.1 ≠ key := by
        intro e he heq
        have hnew := (List.nodup_cons.1 hkeys.of_append_right).1
        exact hnew (List.mem_map.2 ⟨e, he, heq⟩)
      have hreads : reads v (get c₂) := hf.own c₁ v c₂ hadd
      rw [← hf.eq_of_foldlM hafter h] at hreads
      exact hreads

/-- The same for a field of a part that is decoded from the table of a name. -/
theorem Field.given_at? (hf : Field add key reads get) {ofValue : Value → Except Refusal σ}
    (hofValue : ∀ sub, ofValue (.table sub) = sub.foldlM add start)
    (ht : ∀ e ∈ t, e.2.Distinct) {name : String}
    (htable : ∀ v, t.get? name = some v → ∃ sub, v = .table sub)
    (h : Given (t.get? name) (ofValue · = .ok ·) start c) :
    Given (t.at? name key) reads (get start) (get c) := by
  cases hget : t.get? name with
  | none =>
      rw [hget] at h
      rw [Table.at?_of_get?_eq_none hget]
      exact congrArg get h
  | some v =>
      obtain ⟨sub, rfl⟩ := htable v hget
      rw [hget] at h
      rw [Table.at?_of_get? hget]
      have hfold : sub.foldlM add start = .ok c := hofValue sub ▸ h
      exact hf.given (Table.nodup_of_get? ht hget) hfold

/-- A readable value stands in the entry of its key. -/
theorem Readable.of_mem {name : String} {sub : Table} {e : String × Value}
    (h : Readable (t.at? name key) reads) (ht : ∀ e ∈ t, e.2.Distinct)
    (hget : t.get? name = some (.table sub)) (he : e ∈ sub) (hkey : e.1 = key) :
    ∃ a, reads e.2 a := by
  subst hkey
  refine h e.2 ?_
  rw [Table.at?_of_get? hget]
  exact (Table.mem_iff_get? (Table.nodup_of_get? ht hget)).1 he

/-! ## Values of a type -/

namespace Value

variable {v : Value}

/-- The value is the text. -/
def IsText (v : Value) (s : String) : Prop :=
  v = .text s

/-- The value is the boolean. -/
def IsBoolean (v : Value) (b : Bool) : Prop :=
  v = .boolean b

/-- The value is the integer, which is not below zero. -/
def IsNatural (v : Value) (n : Nat) : Prop :=
  v = .integer n

theorem asText_eq_ok_iff {s : String} : v.asText = .ok s ↔ v.IsText s := by
  cases v <;> simp [asText, refuse, IsText]

theorem asBoolean_eq_ok_iff {b : Bool} : v.asBoolean = .ok b ↔ v.IsBoolean b := by
  cases v <;> simp [asBoolean, refuse, IsBoolean]

theorem asNatural_eq_ok_iff {n : Nat} : v.asNatural = .ok n ↔ v.IsNatural n := by
  cases v with
  | integer m =>
      cases m with
      | ofNat m =>
          rw [asNatural, IsNatural, Except.ok.injEq, integer.injEq]
          exact Int.natCast_inj.symm
      | negSucc m => simp [asNatural, IsNatural]
  | _ => simp [asNatural, refuse, IsNatural]

theorem IsText.unique (v : Value) (s s' : String) (h : v.IsText s) (h' : v.IsText s') : s = s' :=
  Value.text.inj (h.symm.trans h')

theorem IsBoolean.unique (v : Value) (b b' : Bool) (h : v.IsBoolean b) (h' : v.IsBoolean b') :
    b = b' :=
  Value.boolean.inj (h.symm.trans h')

theorem IsNatural.unique (v : Value) (n n' : Nat) (h : v.IsNatural n) (h' : v.IsNatural n') :
    n = n' :=
  Int.natCast_inj.1 (Value.integer.inj (h.symm.trans h'))

end Value

end TronWallet.Toml
