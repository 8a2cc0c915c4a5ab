import TronWallet.Proofs.Text.Positional
import TronWallet.Text.Decimal

/-!
# Decimal text

The decimal text of a number consists of digits, stands for the number, and begins with a
zero only where it is a zero alone. It is the text that `toString` writes.
-/

namespace TronWallet.Text.Decimal

theorem isDigit_digitChar {d : Nat} (h : d < 10) : isDigit (digitChar d) = true := by
  have hall : ∀ d < 10, isDigit (digitChar d) = true := by decide
  exact hall d h

theorem digitValue_digitChar {d : Nat} (h : d < 10) : digitValue (digitChar d) = d := by
  have hall : ∀ d < 10, digitValue (digitChar d) = d := by decide
  exact hall d h

theorem ofNat_of_ne_zero {n : Nat} (h : n ≠ 0) :
    ofNat n = (Positional.digits 10 n).map digitChar :=
  if_neg h

theorem isDigit_of_mem_ofNat {n : Nat} {c : Char} (h : c ∈ ofNat n) : isDigit c = true := by
  by_cases hzero : n = 0
  · subst hzero
    obtain rfl := List.mem_singleton.1 h
    rfl
  · rw [ofNat_of_ne_zero hzero] at h
    obtain ⟨d, hd, rfl⟩ := List.mem_map.1 h
    exact isDigit_digitChar (Positional.lt_of_mem_digits (by decide) hd)

/-- The decimal text of a number stands for it. -/
theorem value_ofNat (n : Nat) : value (ofNat n) = n := by
  by_cases hzero : n = 0
  · subst hzero
    rfl
  · have hdigits : ((Positional.digits 10 n).map digitChar).map digitValue =
        Positional.digits 10 n := by
      rw [List.map_map]
      conv_rhs => rw [← List.map_id (Positional.digits 10 n)]
      apply List.map_congr_left
      intro d hd
      exact digitValue_digitChar (Positional.lt_of_mem_digits (by decide) hd)
    rw [ofNat_of_ne_zero hzero, value, hdigits, Positional.value_digits (by decide)]

theorem ofNat_ne_nil (n : Nat) : ofNat n ≠ [] := by
  intro h
  have hvalue := value_ofNat n
  rw [h] at hvalue
  obtain rfl : 0 = n := hvalue
  cases h

theorem exists_ofNat_eq_cons (n : Nat) : ∃ c ds, ofNat n = c :: ds ∧ isDigit c = true := by
  obtain ⟨c, ds, hcons⟩ := List.exists_cons_of_ne_nil (ofNat_ne_nil n)
  have hmem : c ∈ ofNat n := by simp [hcons]
  exact ⟨c, ds, hcons, isDigit_of_mem_ofNat hmem⟩

/-- Only zero is written with a zero in front. -/
theorem head?_ofNat_ne_zero {n : Nat} (h : n ≠ 0) : (ofNat n).head? ≠ some '0' := by
  intro hhead
  rw [ofNat_of_ne_zero h, List.head?_map, Option.map_eq_some_iff] at hhead
  obtain ⟨d, hd, hchar⟩ := hhead
  have hlt : d < 10 := Positional.lt_of_mem_digits (by decide) (List.mem_of_head? hd)
  have hzero : d = 0 := by
    rw [← digitValue_digitChar hlt, hchar]
    rfl
  exact Positional.head?_digits_ne_zero (by decide) n (hzero ▸ hd)

/-! ## The library's text of a number -/

theorem digitChar_eq {d : Nat} (h : d < 10) : digitChar d = Nat.digitChar d := by
  have hall : ∀ d < 10, digitChar d = Nat.digitChar d := by decide
  exact hall d h

/-- The last digit comes off the end. -/
theorem ofNat_of_le {n : Nat} (h : 10 ≤ n) :
    ofNat n = ofNat (n / 10) ++ [digitChar (n % 10)] := by
  rw [ofNat_of_ne_zero (by omega), ofNat_of_ne_zero (by omega),
    Positional.digits_eq_reverse (by decide), Positional.digits_eq_reverse (by decide),
    Nat.digits_def' (by decide) (by omega)]
  simp

theorem ofNat_eq_toDigits (n : Nat) : ofNat n = Nat.toDigits 10 n := by
  induction n using Nat.strongRecOn with
  | ind n ih =>
      rw [Nat.toDigits_eq_if (by decide)]
      split
      · rename_i hlt
        have hall : ∀ n < 10, ofNat n = [Nat.digitChar n] := by decide
        exact hall n hlt
      · rename_i hle
        rw [ofNat_of_le (by omega), ih (n / 10) (by omega), digitChar_eq (by omega)]

theorem natString_eq_toString (n : Nat) : natString n = toString n := by
  rw [natString, ofNat_eq_toDigits, Nat.toString_eq_repr, Nat.repr_eq_ofList_toDigits]

theorem intString_eq_toString (n : Int) : intString n = toString n := by
  cases n with
  | ofNat n => exact natString_eq_toString n
  | negSucc n =>
      have hsuccessor := congrArg ("-" ++ ·) (natString_eq_toString (n + 1))
      rw [intString, ofInt, String.ofList_cons]
      exact hsuccessor

end TronWallet.Text.Decimal
