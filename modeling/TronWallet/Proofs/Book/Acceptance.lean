import TronWallet.Proofs.Book.Bulk
import TronWallet.Proofs.Book.Store

/-!
# Which names a book accepts

The wordings of the refusals describe the names that can be registered (`Described`): without the
white space around them they have 1 to 64 characters, are no address, and are not registered yet.
The limit is meant in characters and counted in bytes, and no text has more characters than bytes.
So every name that is accepted is described, but of those that are described only the ones within
64 bytes are accepted (`register_iff_described`).
-/

namespace TronWallet

namespace Text

theorem length_le_byteLength (cs : List Char) : cs.length ≤ byteLength cs := by
  induction cs with
  | nil => exact Nat.le_refl 0
  | cons c cs ih =>
      have hsize := c.utf8Size_pos
      rw [List.length_cons, byteLength_cons]
      omega

theorem byteLength_pos_iff {cs : List Char} : 0 < byteLength cs ↔ 0 < cs.length := by
  constructor
  · intro h
    refine List.length_pos_of_ne_nil ?_
    rintro rfl
    exact Nat.lt_irrefl 0 h
  · exact fun h => Nat.lt_of_lt_of_le h (length_le_byteLength cs)

end Text

namespace Book

variable {b c : Book} {name : String} {address : Address}

/-- The name can be registered by what the user is told: without the white space around it, it
has 1 to 64 characters, is no address, and is not registered yet. -/
structure Described (b : Book) (name : String) : Prop where
  length_pos : 1 ≤ (Text.trimmed name).length
  length_le : (Text.trimmed name).length ≤ 64
  not_address : ∀ a, Address.parse (Text.trimmed name) ≠ .ok a
  free : b.get? (Text.trimmed name) = none

/-- A name is allowed and new if it is described and has at most 64 bytes. -/
theorem allowed_and_free_iff_described :
    Allowed name ∧ b.get? (Text.trimmed name) = none ↔
      Described b name ∧ Text.byteLength (Text.trimmed name).toList ≤ 64 := by
  have hlength := Text.length_le_byteLength (Text.trimmed name).toList
  rw [String.length_toList] at hlength
  constructor
  · rintro ⟨hallowed, hfree⟩
    have hpos := Text.byteLength_pos_iff.1 hallowed.length_pos
    rw [String.length_toList] at hpos
    exact ⟨⟨hpos, hlength.trans hallowed.length_le, hallowed.not_address, hfree⟩,
      hallowed.length_le⟩
  · rintro ⟨hdescribed, hle⟩
    exact ⟨⟨Nat.lt_of_lt_of_le hdescribed.length_pos hlength, hle, hdescribed.not_address⟩,
      hdescribed.free⟩

theorem exists_register_iff :
    (∃ c, b.register name address = .ok c) ↔
      Described b name ∧ Text.byteLength (Text.trimmed name).toList ≤ 64 := by
  simp only [← allowed_and_free_iff_described, register_eq_ok_iff]
  exact ⟨fun ⟨_, hallowed, hfree, _⟩ => ⟨hallowed, hfree⟩,
    fun ⟨hallowed, hfree⟩ => ⟨_, hallowed, hfree, rfl⟩⟩

/-- A new name is one more account, and all others stay. -/
theorem mem_pairs_set_iff (h : b.get? name = none) (p : String × Address) :
    p ∈ (b.set name address).pairs ↔ p = (name, address) ∨ p ∈ b.pairs := by
  rw [set, mem_setPair_iff name address p b.ascending]
  refine or_congr_right (and_iff_right_of_imp ?_)
  rintro hp rfl
  rw [get?_eq_some_iff.2 hp] at h
  cases h

/-- The length of a name is looked at first. -/
theorem register_eq_nameLength (h : 64 < Text.byteLength (Text.trimmed name).toList) :
    b.register name address = .error .nameLength :=
  if_pos (.inr h)

/-- A name is accepted exactly if it is described and has at most 64 bytes without the white space
around it. Then the book gains the one account, under this name; and a refusal changes nothing.
A name that is described and has more bytes is refused for its length. -/
theorem register_iff_described (t : Store) (name : String) (address : Address) :
    let after := t.step (.register name address)
    (after.2 = .ok () ↔
        Described t.book name ∧ Text.byteLength (Text.trimmed name).toList ≤ 64) ∧
      (after.2 = .ok () →
        (∀ p, p ∈ after.1.book.pairs ↔ p = (Text.trimmed name, address) ∨ p ∈ t.book.pairs) ∧
          after.1.book.size = t.book.size + 1) ∧
      (∀ failure, after.2 = .error failure → after.1 = t) ∧
      (Described t.book name → 64 < Text.byteLength (Text.trimmed name).toList →
        after.2 = .error (.book .nameLength)) := by
  intro after
  rw [← @exists_register_iff t.book name address]
  cases hregister : t.book.register name address with
  | ok b =>
      have hafter : after = ({ t with book := b }, .ok ()) := by
        simp only [after, Store.step, hregister]
      obtain ⟨-, hfree, rfl⟩ := register_eq_ok_iff.1 hregister
      rw [hafter]
      refine ⟨iff_of_true rfl ⟨_, rfl⟩, fun _ => ?_, ?_, fun _ hlong => ?_⟩
      · exact ⟨mem_pairs_set_iff hfree, size_set_of_get?_eq_none hfree⟩
      · intro failure h
        cases h
      · rw [register_eq_nameLength hlong] at hregister
        cases hregister
  | error refusal =>
      have hafter : after = (t, .error (.book refusal)) := by
        simp only [after, Store.step, hregister]
      rw [hafter]
      refine ⟨iff_of_false ?_ ?_, ?_, fun _ _ => rfl, fun _ hlong => ?_⟩
      · intro h
        cases h
      · rintro ⟨c, h⟩
        cases h
      · intro h
        cases h
      · rw [register_eq_nameLength hlong] at hregister
        cases hregister
        rfl

/-- A name of 33 letters is refused, although by the wording of the refusal it may have up to 64
characters: each of the letters has two bytes. -/
theorem described_name_refused :
    let name := String.ofList (List.replicate 33 'é')
    Described empty name ∧ name.length = 33 ∧
      empty.register name ⟨List.replicate 20 1, rfl⟩ = .error .nameLength ∧
      Refusal.message .nameLength = "account name must be 1..=64 characters" := by
  intro name
  have hparse : (Address.parse (Text.trimmed name)).toOption = none := by decide +kernel
  refine ⟨⟨by decide +kernel, by decide +kernel, fun a ha => ?_, by decide +kernel⟩,
    by decide +kernel, by decide +kernel, by decide +kernel⟩
  rw [ha] at hparse
  cases hparse

end Book

end TronWallet
