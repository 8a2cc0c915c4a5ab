import TronWallet.Json.Numeral
import TronWallet.Proofs.Text.Decimal

/-!
# Integers in JSON

An integer is written without a fraction and without an exponent, as the numeral of its sign and
digits. `Numeral.integer?` is the integer that a numeral says, of any size; a decoder, which has
64 bits for it, finds the same one where it fits (`number?_of_integer?`).
-/

namespace TronWallet.Json

open Text (Decimal.digitValue Decimal.ofNat)

namespace Numeral

/-- The numeral as which an integer is written. -/
def ofInt (n : Int) : Numeral :=
  ⟨n < 0, (Decimal.ofNat n.natAbs).map Decimal.digitValue, [], none⟩

/-- The integer that a numeral says, if it is written as one. A zero with a minus sign is
none: it is the negative zero among the floating point numbers. -/
def integer? (n : Numeral) : Option Int :=
  let magnitude : Int := Text.Positional.value 10 n.whole
  if n.fraction = [] ∧ n.exponent = none ∧ (n.negative → magnitude ≠ 0) then
    some (if n.negative then -magnitude else magnitude)
  else none

theorem value_whole_ofInt (n : Int) : Text.Positional.value 10 (ofInt n).whole = n.natAbs :=
  Text.Decimal.value_ofNat n.natAbs

theorem integer?_ofInt (n : Int) : (ofInt n).integer? = some n := by
  rw [integer?, value_whole_ofInt]
  by_cases hneg : n < 0
  · have hmagnitude : ((n.natAbs : Nat) : Int) = -n := by omega
    simp [ofInt, hneg, hmagnitude, Int.ne_of_lt hneg]
  · have hmagnitude : ((n.natAbs : Nat) : Int) = n := by omega
    simp [ofInt, hneg, hmagnitude]

/-! ## What decoders find -/

/-- Digits of a number within the limit are taken up to the last. -/
theorem absorb_eq {s : Nat} {ds : List Nat}
    (h : ds.foldl (fun n d => n * 10 + d) s ≤ significandLimit) :
    absorb s ds = (ds.foldl (fun n d => n * 10 + d) s, []) := by
  induction ds generalizing s with
  | nil => rfl
  | cons d ds ih =>
      have hle : s * 10 + d ≤ significandLimit :=
        Nat.le_trans (Text.Positional.le_foldl_digits (by decide) _ ds) h
      rw [absorb, if_pos hle]
      exact ih h

/-- Where the integer that a numeral says fits 64 bits, with or without a sign, a decoder
finds this integer. -/
theorem number?_of_integer? {n : Numeral} {i : Int} (h : n.integer? = some i)
    (hlow : -0x8000000000000000 ≤ i) (hhigh : i ≤ 0xFFFFFFFFFFFFFFFF) :
    n.number? = some (.integer i) := by
  obtain ⟨negative, whole, fraction, exponent⟩ := n
  rw [integer?] at h
  dsimp only at h
  split at h
  · rename_i hinteger
    obtain ⟨rfl, rfl, hzero⟩ := hinteger
    obtain rfl := Option.some.inj h
    have habsorb : absorb 0 whole = (Text.Positional.value 10 whole, []) := by
      apply absorb_eq
      change Text.Positional.value 10 whole ≤ significandLimit
      rw [significandLimit]
      cases negative <;> simp at hlow hhigh <;> omega
    cases negative with
    | false => simp [number?, habsorb]
    | true =>
        have hpos : 0 < Text.Positional.value 10 whole := by
          have hne := hzero rfl
          omega
        have hle : Text.Positional.value 10 whole ≤ 0x8000000000000000 := by
          simp at hlow
          omega
        simp [number?, habsorb, hpos, hle, Int.negOfNat_eq]
  · cases h

end Numeral

end TronWallet.Json
