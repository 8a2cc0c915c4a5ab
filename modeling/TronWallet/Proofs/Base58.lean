import TronWallet.Base58
import TronWallet.Proofs.Text.Positional

/-!
# Reading base 58 undoes writing it

Both directions are one step on digit lists: `changeBase` reads digits in one base as a
number, writes it in the other, and carries the leading zeros over one for one. Going
there and back is the identity on digits of the base, which makes reading and writing
inverse to each other: a text is read as some bytes exactly if it is what is written for
them (`decode_eq_ok_iff`), with a checksum (`decodeChecked_eq_ok_iff`) or without.
-/

namespace TronWallet.Base58

open Text.Positional

/-! ## Changing the base -/

/-- The digits in another base, after as many zeros as the digits begin with. -/
def changeBase (b c : Nat) (ds : List Nat) : List Nat :=
  List.replicate (leading 0 ds) 0 ++ digits c (value b ds)

theorem leading_replicate_append {k : Nat} {ds : List Nat} (h : ds.head? ≠ some 0) :
    leading 0 (List.replicate k 0 ++ ds) = k := by
  have hds : ds.takeWhile (· = 0) = [] := by
    cases ds with
    | nil => rfl
    | cons d ds =>
        have hd : d ≠ 0 := by simpa using h
        simp [hd]
  rw [leading, List.takeWhile_append_of_pos (by simp), hds, List.append_nil,
    List.length_replicate]

/-- Digits are their leading zeros and digits that do not begin with one. -/
theorem exists_eq_replicate_append (ds : List Nat) :
    ∃ k es, es.head? ≠ some 0 ∧ (∀ e ∈ es, e ∈ ds) ∧ ds = List.replicate k 0 ++ es := by
  induction ds with
  | nil => exact ⟨0, [], by simp, by simp, rfl⟩
  | cons d ds ih =>
      by_cases hd : d = 0
      · obtain ⟨k, es, hhead, hmem, heq⟩ := ih
        refine ⟨k + 1, es, hhead, fun e he => List.mem_cons_of_mem _ (hmem e he), ?_⟩
        rw [hd, heq, List.replicate_succ, List.cons_append]
      · exact ⟨0, d :: ds, by simpa using hd, fun e he => he, rfl⟩

theorem changeBase_replicate_append {b c k : Nat} {ds : List Nat} (h : ds.head? ≠ some 0) :
    changeBase b c (List.replicate k 0 ++ ds) =
      List.replicate k 0 ++ digits c (value b ds) := by
  rw [changeBase, leading_replicate_append h, value_replicate_zero_append]

/-- Changing the base and changing it back. -/
theorem changeBase_changeBase {b c : Nat} (hb : 1 < b) (hc : 1 < c) {ds : List Nat}
    (hlt : ∀ d ∈ ds, d < b) : changeBase c b (changeBase b c ds) = ds := by
  obtain ⟨k, es, hhead, hmem, rfl⟩ := exists_eq_replicate_append ds
  rw [changeBase_replicate_append hhead, changeBase_replicate_append (head?_digits_ne_zero hc _),
    value_digits hc, digits_value hb (fun e he => hlt e (hmem e he)) hhead]

theorem lt_of_mem_changeBase {b c d : Nat} {ds : List Nat} (hc : 1 < c)
    (h : d ∈ changeBase b c ds) : d < c := by
  rcases List.mem_append.1 h with h | h
  · rw [List.eq_of_mem_replicate h]
    omega
  · exact lt_of_mem_digits hc h

/-! ## The alphabet -/

theorem digitValue?_digitChar {d : Nat} (h : d < 58) : digitValue? (digitChar d) = some d := by
  have hall : ∀ d < 58, digitValue? (digitChar d) = some d := by decide
  exact hall d h

theorem toNat_digitChar_le {d : Nat} (h : d < 58) : (digitChar d).toNat ≤ 0x7f := by
  have hall : ∀ d < 58, (digitChar d).toNat ≤ 0x7f := by decide
  exact hall d h

theorem eq_digitChar_of_digitValue? {c : Char} {d : Nat} (h : digitValue? c = some d) :
    d < 58 ∧ c = digitChar d := by
  rw [digitValue?, List.idxOf?, List.findIdx?_eq_some_iff_getElem] at h
  obtain ⟨hlt, heq, -⟩ := h
  have hget : alphabet.getD d '1' = alphabet[d] := by
    simp [hlt]
  exact ⟨hlt, (hget.trans (beq_iff_eq.1 heq)).symm⟩

/-- A text is read as digits exactly if it is what is written for them. -/
theorem digitValues_eq_ok_iff {i : Nat} {cs : List Char} {ds : List Nat} :
    digitValues i cs = .ok ds ↔ (∀ d ∈ ds, d < 58) ∧ cs = ds.map digitChar := by
  constructor
  · intro h
    induction cs generalizing i ds with
    | nil =>
        cases h
        simp
    | cons c cs ih =>
        rw [digitValues] at h
        split at h
        · cases h
        · split at h
          · cases h
          · rename_i d hd
            obtain ⟨hlt, rfl⟩ := eq_digitChar_of_digitValue? hd
            cases hrest : digitValues (i + 1) cs with
            | error e =>
                rw [hrest] at h
                cases h
            | ok es =>
                rw [hrest] at h
                cases h
                obtain ⟨hes, rfl⟩ := ih hrest
                exact ⟨List.forall_mem_cons.2 ⟨hlt, hes⟩, rfl⟩
  · rintro ⟨hlt, rfl⟩
    induction ds generalizing i with
    | nil => rfl
    | cons d ds ih =>
        obtain ⟨hd, hds⟩ := List.forall_mem_cons.1 hlt
        rw [List.map_cons, digitValues, if_neg (by have := toNat_digitChar_le hd; omega),
          digitValue?_digitChar hd]
        simp only [ih hds]
        rfl

/-! ## Bytes -/

theorem leading_map_toNat (bs : List UInt8) : leading 0 (bs.map UInt8.toNat) = leading 0 bs := by
  have hzero : ((fun n : Nat => decide (n = 0)) ∘ UInt8.toNat) =
      fun b : UInt8 => decide (b = 0) := by
    funext b
    simp [← UInt8.toNat_inj]
  rw [leading, leading, List.takeWhile_map, List.length_map, hzero]

theorem encode_eq_map_changeBase (bs : List UInt8) :
    encode bs = (changeBase 256 58 (bs.map UInt8.toNat)).map digitChar := by
  rw [encode, changeBase, List.map_append, List.map_replicate, leading_map_toNat, bytesValue]
  rfl

theorem decode_eq_ok_iff_exists {cs : List Char} {bs : List UInt8} :
    decode cs = .ok bs ↔ ∃ ds, ((∀ d ∈ ds, d < 58) ∧ cs = ds.map digitChar) ∧
      bs = (changeBase 58 256 ds).map UInt8.ofNat := by
  have hbytes : ∀ ds, List.replicate (leading 0 ds) 0 ++ valueBytes (value 58 ds) =
      (changeBase 58 256 ds).map UInt8.ofNat := by
    intro ds
    rw [changeBase, List.map_append, List.map_replicate, valueBytes]
    rfl
  rw [decode]
  cases hds : digitValues 0 cs with
  | error e =>
      constructor
      · intro h
        cases h
      · rintro ⟨ds, hcs, -⟩
        rw [digitValues_eq_ok_iff.2 hcs] at hds
        cases hds
  | ok ds =>
      constructor
      · intro h
        cases h
        exact ⟨ds, digitValues_eq_ok_iff.1 hds, hbytes ds⟩
      · rintro ⟨es, hcs, rfl⟩
        rw [digitValues_eq_ok_iff.2 hcs] at hds
        cases hds
        rw [← hbytes]
        rfl

theorem map_ofNat_map_toNat (bs : List UInt8) : (bs.map UInt8.toNat).map UInt8.ofNat = bs := by
  rw [List.map_map]
  conv_rhs => rw [← List.map_id bs]
  exact List.map_congr_left fun b _ => UInt8.ofNat_toNat

theorem map_toNat_map_ofNat {ds : List Nat} (h : ∀ d ∈ ds, d < 256) :
    (ds.map UInt8.ofNat).map UInt8.toNat = ds := by
  rw [List.map_map]
  conv_rhs => rw [← List.map_id ds]
  refine List.map_congr_left fun d hd => ?_
  simp [Nat.mod_eq_of_lt (h d hd)]

/-- A text is read as bytes exactly if it is what is written for them. -/
theorem decode_eq_ok_iff {cs : List Char} {bs : List UInt8} :
    decode cs = .ok bs ↔ cs = encode bs := by
  rw [decode_eq_ok_iff_exists, encode_eq_map_changeBase]
  constructor
  · rintro ⟨ds, ⟨hlt, rfl⟩, rfl⟩
    rw [map_toNat_map_ofNat fun d hd => lt_of_mem_changeBase (by decide) hd,
      changeBase_changeBase (by decide) (by decide) hlt]
  · rintro rfl
    have hlt : ∀ d ∈ bs.map UInt8.toNat, d < 256 := by
      intro d hd
      obtain ⟨x, -, rfl⟩ := List.mem_map.1 hd
      exact x.toNat_lt
    refine ⟨_, ⟨fun d hd => lt_of_mem_changeBase (by decide) hd, rfl⟩, ?_⟩
    rw [changeBase_changeBase (by decide) (by decide) hlt, map_ofNat_map_toNat]

/-- A text is read as bytes with a checksum exactly if it is what is written for them. -/
theorem decodeChecked_eq_ok_iff {cs : List Char} {payload : List UInt8} :
    decodeChecked cs = .ok payload ↔ cs = encodeChecked payload := by
  rw [encodeChecked, ← decode_eq_ok_iff, decodeChecked]
  cases hbs : decode cs with
  | error e => simp [bind, Except.bind]
  | ok bs =>
      simp only [bind, Except.bind, pure, Except.pure, throw, throwThe, MonadExceptOf.throw]
      constructor
      · intro h
        split at h
        · cases h
        · split at h
          · rename_i hsum
            cases h
            rw [hsum, List.take_append_drop]
          · cases h
      · intro h
        cases h
        rw [if_neg (by simp)]
        simp

end TronWallet.Base58
