import TronWallet.CommandLine.Parse
import TronWallet.Proofs.Text.Decimal

/-!
# Numbers of a command line

A number in decimal is read as the number, as long as it is within the limit of its kind.
The limit is looked at after each digit, so what counts is that the number read so far
never exceeds the whole one (`Positional.le_foldl_digits`).
-/

namespace TronWallet.CommandLine

open Text.Decimal (isDigit digitValue ofNat natString)

theorem readDigits_eq {limit : Nat} {above : NumberFault} {n : Nat} {cs : List Char}
    (hdigits : ∀ c ∈ cs, isDigit c = true)
    (hlimit : (cs.map digitValue).foldl (fun n d => n * 10 + d) n ≤ limit) :
    readDigits limit above n cs =
      .ok ((cs.map digitValue).foldl (fun n d => n * 10 + d) n) := by
  induction cs generalizing n with
  | nil => rfl
  | cons c cs ih =>
      obtain ⟨hc, hcs⟩ := List.forall_mem_cons.1 hdigits
      rw [List.map_cons, List.foldl_cons] at hlimit ⊢
      have hle : n * 10 + digitValue c ≤ limit :=
        Nat.le_trans (Text.Positional.le_foldl_digits (by decide) _ _) hlimit
      rw [readDigits, if_pos hc, if_pos hle]
      exact ih hcs hlimit

theorem readMagnitude_ofNat {limit n : Nat} (above : NumberFault) (h : n ≤ limit) :
    readMagnitude limit above (ofNat n) = .ok n := by
  have hvalue : ((ofNat n).map digitValue).foldl (fun n d => n * 10 + d) 0 = n :=
    Text.Decimal.value_ofNat n
  have hdigits : ∀ c ∈ ofNat n, isDigit c = true := fun _ => Text.Decimal.isDigit_of_mem_ofNat
  rw [readMagnitude, if_neg (Text.Decimal.ofNat_ne_nil n),
    readDigits_eq hdigits (by rwa [hvalue]), hvalue]

/-- The text of a number begins with no sign. -/
theorem exists_toList_natString (n : Nat) :
    ∃ c cs, (natString n).toList = c :: cs ∧ ofNat n = c :: cs ∧ c ≠ '+' ∧ c ≠ '-' := by
  obtain ⟨c, cs, hcons, hc⟩ := Text.Decimal.exists_ofNat_eq_cons n
  refine ⟨c, cs, by rw [natString, String.toList_ofList, hcons], hcons, ?_, ?_⟩
  · rintro rfl
    cases hc
  · rintro rfl
    cases hc

theorem readNatural_natString {n : Nat} (h : n < UInt64.size) :
    readNatural (natString n) = .ok n := by
  obtain ⟨c, cs, hlist, hcons, hplus, -⟩ := exists_toList_natString n
  have hread : readMagnitude (UInt64.size - 1) .tooLarge (c :: cs) = .ok n := by
    rw [← hcons]
    exact readMagnitude_ofNat _ (Nat.le_sub_one_of_lt h)
  rw [readNatural, hlist]
  split
  · exact absurd ‹_› (by simp)
  · exact absurd (List.cons.inj ‹_›).1 hplus
  · exact hread

theorem readSeconds_natString {n : Nat} (h : n < UInt32.size) :
    readSeconds (natString n) = .ok n := by
  obtain ⟨c, cs, hlist, hcons, hplus, hminus⟩ := exists_toList_natString n
  have hle : n ≤ secondsLimit := Nat.le_sub_one_of_lt h
  have hmagnitude : readMagnitude 0x7FFFFFFFFFFFFFFF .tooLarge (c :: cs) = .ok n := by
    rw [← hcons]
    exact readMagnitude_ofNat _ (Nat.le_trans hle (by decide))
  have hread : readInteger (natString n) = .ok n := by
    rw [readInteger, hlist]
    split
    · exact absurd ‹_› (by simp)
    · exact absurd (List.cons.inj ‹_›).1 hminus
    · exact absurd (List.cons.inj ‹_›).1 hplus
    · rw [hmagnitude]
      rfl
  have hrange : (0 : Int) ≤ n ∧ (n : Int) ≤ secondsLimit := ⟨by omega, by exact_mod_cast hle⟩
  rw [readSeconds, hread]
  simp only
  rw [if_pos hrange, Int.toNat_natCast]

end TronWallet.CommandLine
