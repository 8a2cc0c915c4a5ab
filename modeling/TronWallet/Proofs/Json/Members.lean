import Mathlib.Data.List.Forall2
import TronWallet.Proofs.Fallible
import TronWallet.Proofs.Json.Reader

/-!
# Objects by their members

A decoder takes in the members of an object one after the other, each known one into a slot of
its own. `Fills` says so of a decoder, and `Slot.step` what one member does to one slot, so that
taking in a whole object is taking it in slot by slot (`Fills.step_foldlM`,
`Fills.exists_foldlM`). In a slot, only the values of its key count (`Slot.foldlM_step`). One
object `Keeps` the members of another if they have the same values of all known keys, in whatever
order and among whatever other members, and one text `Restates` another if it says such an object.
-/

namespace TronWallet.Json

variable {σ : Type} {known left : List String} {alike : String → Reading → Reading → Prop}
  {members members' : List (Option String × Reading)} {r : Reading}

/-- The values of a key, in their order. -/
def occurrences (key : String) (members : List (Option String × Reading)) : List Reading :=
  (members.filter fun member => member.1 = some key).map Prod.snd

theorem mem_occurrences_iff {key : String} :
    r ∈ occurrences key members ↔ (some key, r) ∈ members := by
  simp [occurrences]

theorem wellFormed_of_mem_members (h : Reading.wellFormedMembers members = true)
    {key : Option String} (hr : (key, r) ∈ members) : r.wellFormed = true := by
  induction members with
  | nil => cases hr
  | cons member members ih =>
      rw [Reading.wellFormedMembers, Bool.and_eq_true] at h
      rcases List.mem_cons.1 hr with rfl | hr
      · exact h.1
      · exact ih h.2 hr

theorem required_eq_ok_iff {α : Type} {name : String} {slot : Option α} {a : α} :
    required name slot = .ok a ↔ slot = some a := by
  cases slot <;> simp [required]

theorem getD_ite_none {α : Type} (p : Prop) [Decidable p] (slot : Option α) (default : α) :
    (if p then none else slot).getD default = if p then default else slot.getD default := by
  split <;> rfl

/-! ## Slots -/

/-- A place for the value of a known member. -/
structure Slot (σ : Type) where
  {α : Type}
  key : String
  field : Reading → Except Refusal α
  get : σ → Option α
  set : σ → Option α → σ

namespace Slot

variable (s : Slot σ)

/-- What one member makes of the slot. -/
def step (slot : Option s.α) (member : Option String × Reading) : Except Refusal (Option s.α) :=
  if member.1 = some s.key then fill s.key slot (s.field member.2) else .ok slot

/-- Only the values of the slot's key count. -/
theorem foldlM_step (members : List (Option String × Reading)) (slot : Option s.α) :
    members.foldlM s.step slot =
      (occurrences s.key members).foldlM (fun slot r => fill s.key slot (s.field r)) slot := by
  induction members generalizing slot with
  | nil => rfl
  | cons member members ih =>
      by_cases hkey : member.1 = some s.key
      · simp only [List.foldlM_cons, step, hkey, if_true, occurrences, List.filter_cons,
          decide_true, List.map_cons, ih]
      · simp only [List.foldlM_cons, step, hkey, if_false, occurrences, List.filter_cons,
          decide_false, Bool.false_eq_true, ih]
        rfl

theorem foldlM_step_of_occurrences (h : occurrences s.key members = [r]) :
    members.foldlM s.step none = (s.field r).map some := by
  rw [foldlM_step, h]
  cases hfield : s.field r <;> simp [fill, hfield, Except.map]

/-- A slot is filled by the only value of its key, and left empty if there is none. -/
theorem foldlM_step_eq_ok_iff {slot : Option s.α} :
    members.foldlM s.step none = .ok slot ↔
      (occurrences s.key members = [] ∧ slot = none) ∨
        ∃ r a, occurrences s.key members = [r] ∧ s.field r = .ok a ∧ slot = some a := by
  rw [foldlM_step]
  match occurrences s.key members with
  | [] => simp [pure, Except.pure, eq_comm]
  | [r] =>
      cases hfield : s.field r <;>
        simp [fill, hfield, pure, Except.pure, eq_comm, Except.map, bind, Except.bind]
  | r :: r' :: rs =>
      -- The second value finds the slot taken.
      cases hfield : s.field r <;> simp [fill, hfield, Except.map, bind, Except.bind]

end Slot

/-! ## Decoders with slots -/

/-- Can a member stand in an object with these known keys? -/
def Legible (known : List String) (member : Option String × Reading) : Prop :=
  ∃ key, member.1 = some key ∧ (key ∉ known → member.2.wellFormed = true)

/-- The decoder takes each known member into its slot and skips all others. -/
structure Fills (add : σ → Option String × Reading → Except Refusal σ)
    (slots : List (Slot σ)) : Prop where
  own : ∀ s ∈ slots, ∀ m r,
    add m (some s.key, r) = s.set m <$> fill s.key (s.get m) (s.field r)
  unknown : ∀ key, key ∉ slots.map Slot.key → ∀ m r, add m (some key, r) = r.skip.map fun _ => m
  keyless : ∀ m r, add m (none, r) = .error .malformed
  get_set : ∀ s ∈ slots, ∀ m a, s.get (s.set m a) = a
  get_set_other : ∀ s ∈ slots, ∀ t ∈ slots, s.key ≠ t.key →
    ∀ m a, t.get (s.set m a) = t.get m

namespace Fills

variable {add : σ → Option String × Reading → Except Refusal σ} {slots : List (Slot σ)}
  {s : Slot σ} {member : Option String × Reading} {m m' : σ} {e : Refusal}

/-- What a member does to the record, it does to each slot. -/
theorem step_add (hf : Fills add slots) (hs : s ∈ slots) (h : add m member = .ok m') :
    s.step (s.get m) member = .ok (s.get m') := by
  obtain ⟨key, r⟩ := member
  cases key with
  | none =>
      rw [hf.keyless] at h
      cases h
  | some key =>
      by_cases hkey : key = s.key
      · subst hkey
        rw [hf.own s hs] at h
        obtain ⟨slot, hfill, rfl⟩ := Except.map_eq_ok_iff.1 h
        rw [hf.get_set s hs, Slot.step, if_pos rfl]
        exact hfill
      · have hstep : s.step (s.get m) (some key, r) = .ok (s.get m) :=
          if_neg fun heq => hkey (Option.some.inj heq)
        rw [hstep]
        by_cases hknown : key ∈ slots.map Slot.key
        · obtain ⟨t, ht, rfl⟩ := List.mem_map.1 hknown
          rw [hf.own t ht] at h
          obtain ⟨slot, -, rfl⟩ := Except.map_eq_ok_iff.1 h
          rw [hf.get_set_other t ht s hs hkey]
        · rw [hf.unknown key hknown, Except.map_eq_ok_iff] at h
          obtain ⟨-, -, rfl⟩ := h
          rfl

/-- A member is taken in if every slot takes it. -/
theorem exists_add (hf : Fills add slots) (hlegible : Legible (slots.map Slot.key) member)
    (h : ∀ s ∈ slots, ∃ slot, s.step (s.get m) member = .ok slot) :
    ∃ m', add m member = .ok m' := by
  obtain ⟨key, r⟩ := member
  obtain ⟨key, rfl, hr⟩ := hlegible
  by_cases hknown : key ∈ slots.map Slot.key
  · obtain ⟨s, hs, rfl⟩ := List.mem_map.1 hknown
    obtain ⟨slot, hstep⟩ := h s hs
    rw [Slot.step, if_pos rfl] at hstep
    exact ⟨s.set m slot, by rw [hf.own s hs, hstep]; rfl⟩
  · exact ⟨m, by rw [hf.unknown key hknown, Reading.skip, if_pos (hr hknown)]; rfl⟩

/-- What a slot refuses is refused. -/
theorem add_eq_error (hf : Fills add slots) (hs : s ∈ slots)
    (h : s.step (s.get m) member = .error e) : add m member = .error e := by
  obtain ⟨key, r⟩ := member
  rw [Slot.step] at h
  split at h
  · rename_i hkey
    obtain rfl : key = some s.key := hkey
    rw [hf.own s hs, h]
    rfl
  · cases h

/-! ### Whole objects -/

theorem step_foldlM (hf : Fills add slots) (hs : s ∈ slots) (h : members.foldlM add m = .ok m') :
    members.foldlM s.step (s.get m) = .ok (s.get m') := by
  induction members generalizing m with
  | nil =>
      obtain rfl := Except.ok.inj h
      rfl
  | cons member members ih =>
      rw [List.foldlM_cons, Except.bind_eq_ok_iff] at h
      obtain ⟨m₁, hadd, h⟩ := h
      rw [List.foldlM_cons, hf.step_add hs hadd]
      exact ih h

theorem exists_foldlM (hf : Fills add slots)
    (hlegible : ∀ member ∈ members, Legible (slots.map Slot.key) member)
    (h : ∀ s ∈ slots, ∃ slot, members.foldlM s.step (s.get m) = .ok slot) :
    ∃ m', members.foldlM add m = .ok m' := by
  induction members generalizing m with
  | nil => exact ⟨m, rfl⟩
  | cons member members ih =>
      obtain ⟨hmember, hmembers⟩ := List.forall_mem_cons.1 hlegible
      simp only [List.foldlM_cons, Except.bind_eq_ok_iff] at h ⊢
      have hstep : ∀ s ∈ slots, ∃ slot, s.step (s.get m) member = .ok slot := by
        intro s hs
        obtain ⟨-, slot, hslot, -⟩ := h s hs
        exact ⟨slot, hslot⟩
      obtain ⟨m₁, hadd⟩ := hf.exists_add hmember hstep
      have hrest : ∀ s ∈ slots, ∃ slot, members.foldlM s.step (s.get m₁) = .ok slot := by
        intro s hs
        obtain ⟨slot', slot, hslot, hfold⟩ := h s hs
        rw [hf.step_add hs hadd] at hslot
        exact ⟨slot', Except.ok.inj hslot ▸ hfold⟩
      obtain ⟨m', hm'⟩ := ih hmembers hrest
      exact ⟨m', m₁, hadd, hm'⟩

/-- If one slot only refuses an object, the object is refused for its reason. -/
theorem foldlM_eq_error (hf : Fills add slots)
    (hlegible : ∀ member ∈ members, Legible (slots.map Slot.key) member) (hs : s ∈ slots)
    (h : members.foldlM s.step (s.get m) = .error e)
    (hothers : ∀ t ∈ slots, t ≠ s → ∃ slot, members.foldlM t.step (t.get m) = .ok slot) :
    members.foldlM add m = .error e := by
  induction members generalizing m with
  | nil => cases h
  | cons member members ih =>
      obtain ⟨hmember, hmembers⟩ := List.forall_mem_cons.1 hlegible
      rw [List.foldlM_cons] at h ⊢
      cases hstep : s.step (s.get m) member with
      | error e' =>
          rw [hstep] at h
          obtain rfl := Except.error.inj h
          rw [hf.add_eq_error hs hstep]
          rfl
      | ok slot =>
          simp only [List.foldlM_cons, Except.bind_eq_ok_iff] at hothers
          have hall : ∀ t ∈ slots, ∃ slot, t.step (t.get m) member = .ok slot := by
            intro t ht
            by_cases heq : t = s
            · subst heq
              exact ⟨slot, hstep⟩
            · obtain ⟨-, slot, hslot, -⟩ := hothers t ht heq
              exact ⟨slot, hslot⟩
          obtain ⟨m₁, hadd⟩ := hf.exists_add hmember hall
          rw [hf.step_add hs hadd] at h
          rw [hadd]
          refine ih hmembers h fun t ht heq => ?_
          obtain ⟨slot', slot, hslot, hfold⟩ := hothers t ht heq
          rw [hf.step_add ht hadd] at hslot
          exact ⟨slot', Except.ok.inj hslot ▸ hfold⟩

end Fills

/-! ## Objects with the same known members -/

/-- What a slot makes of a value, it makes of every value that is alike. -/
def Slot.Respects (s : Slot σ) (alike : String → Reading → Reading → Prop) : Prop :=
  ∀ r r' a, alike s.key r r' → r'.wellFormed = true → s.field r = .ok a → s.field r' = .ok a

/-- An object has the known members of another, but for those left out, in any order and among any
others. Values of one key stand for each other if they are alike. -/
structure Keeps (known left : List String) (alike : String → Reading → Reading → Prop)
    (members members' : List (Option String × Reading)) : Prop where
  texts : ∀ member ∈ members', member.1.isSome = true
  kept : ∀ key ∈ known, key ∉ left →
    List.Forall₂ (alike key) (occurrences key members) (occurrences key members')
  leftOut : ∀ key ∈ left, occurrences key members' = []

namespace Keeps

theorem legible (h : Keeps known left alike members members')
    (hwell : Reading.wellFormedMembers members' = true) :
    ∀ member ∈ members', Legible known member := by
  intro member hmember
  obtain ⟨key, hkey⟩ := Option.isSome_iff_exists.1 (h.texts member hmember)
  exact ⟨key, hkey, fun _ => wellFormed_of_mem_members hwell hmember⟩

theorem exists_alike {key : String} (h : Keeps known left alike members members')
    (hwell : Reading.wellFormedMembers members' = true) (hknown : key ∈ known) (hleft : key ∉ left)
    (hr : occurrences key members = [r]) :
    ∃ r', occurrences key members' = [r'] ∧ alike key r r' ∧ r'.wellFormed = true := by
  have hkept := h.kept key hknown hleft
  rw [hr, List.forall₂_cons_left_iff] at hkept
  obtain ⟨r', rs', halike, hrs', hr'⟩ := hkept
  rw [List.forall₂_nil_left_iff] at hrs'
  subst hrs'
  have hmem : (some key, r') ∈ members' := mem_occurrences_iff.1 (hr' ▸ List.mem_singleton_self r')
  exact ⟨r', hr', halike, wellFormed_of_mem_members hwell hmem⟩

/-- A slot takes from the object what it takes from the other, unless its member is left out. -/
theorem foldlM_step {s : Slot σ} {slot : Option s.α} (h : Keeps known left alike members members')
    (hwell : Reading.wellFormedMembers members' = true) (hs : s.key ∈ known)
    (halike : s.key ∉ left → s.Respects alike) (hfold : members.foldlM s.step none = .ok slot) :
    members'.foldlM s.step none = .ok (if s.key ∈ left then none else slot) := by
  rw [s.foldlM_step_eq_ok_iff] at hfold ⊢
  by_cases hleft : s.key ∈ left
  · exact .inl ⟨h.leftOut s.key hleft, if_pos hleft⟩
  · rw [if_neg hleft]
    rcases hfold with ⟨hnone, rfl⟩ | ⟨r, a, hr, hfield, rfl⟩
    · have hkept := h.kept s.key hs hleft
      rw [hnone, List.forall₂_nil_left_iff] at hkept
      exact .inl ⟨hkept, rfl⟩
    · obtain ⟨r', hr', hrr', hwell'⟩ := h.exists_alike hwell hs hleft hr
      exact .inr ⟨r', a, hr', halike hleft r r' a hrr' hwell' hfield, rfl⟩

/-- A decoder with slots takes in the object as it takes in the other, with the slots empty whose
members are left out. -/
theorem exists_foldlM {add : σ → Option String × Reading → Except Refusal σ}
    {slots : List (Slot σ)} {m₀ m : σ}
    (h : Keeps known left alike members members') (hf : Fills add slots)
    (hknown : slots.map Slot.key = known)
    (hwell : Reading.wellFormedMembers members' = true)
    (halike : ∀ s ∈ slots, s.key ∉ left → s.Respects alike)
    (hempty : ∀ s ∈ slots, s.get m₀ = none) (hfold : members.foldlM add m₀ = .ok m) :
    ∃ m', members'.foldlM add m₀ = .ok m' ∧
      ∀ s ∈ slots, s.get m' = if s.key ∈ left then none else s.get m := by
  subst hknown
  have hslots : ∀ s ∈ slots, members'.foldlM s.step (s.get m₀) =
      .ok (if s.key ∈ left then none else s.get m) := by
    intro s hs
    have hslot := hf.step_foldlM hs hfold
    rw [hempty s hs] at hslot ⊢
    exact h.foldlM_step hwell (List.mem_map_of_mem hs) (halike s hs) hslot
  obtain ⟨m', hm'⟩ := hf.exists_foldlM (h.legible hwell) fun s hs => ⟨_, hslots s hs⟩
  refine ⟨m', hm', fun s hs => ?_⟩
  have hslot := hf.step_foldlM hs hm'
  rw [hslots s hs] at hslot
  exact (Except.ok.inj hslot).symm

end Keeps

theorem Slot.respects_eq (s : Slot σ) : s.Respects fun _ => Eq := by
  rintro r _ a rfl - h
  exact h

/-- A value is an object that has the known members of another, but for those left out. -/
def KeepsObject (known left : List String) (r r' : Reading) : Prop :=
  ∃ members members', r = .object members ∧ r' = .object members' ∧
    Keeps known left (fun _ => Eq) members members'

/-- Two texts are JSON objects, and the second has the known members of the first, but for those
left out. -/
def Restates (known left : List String) (alike : String → Reading → Reading → Prop)
    (text text' : String) : Prop :=
  ∃ members members', IsElement (.object members) text.toList ∧
    IsElement (.object members') text'.toList ∧ Keeps known left alike members members'

theorem Restates.exists_keeps {α : Type} {text text' : String} (field : Reading → Except Refusal α)
    (h : Restates known left alike text text') :
    ∃ members members', Keeps known left alike members members' ∧
      Reading.wellFormedMembers members' = true ∧ decode field text = field (.object members) ∧
      decode field text' = field (.object members') := by
  obtain ⟨members, members', htext, htext', hkeeps⟩ := h
  exact ⟨members, members', hkeeps, wellFormed_of_isElement htext', decode_of_isElement htext,
    decode_of_isElement htext'⟩

end TronWallet.Json
