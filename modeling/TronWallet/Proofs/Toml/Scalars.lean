import TronWallet.Proofs.Text.Decimal
import TronWallet.Proofs.Toml.Lines
import TronWallet.Toml.Reading
import TronWallet.Toml.Writing

/-!
# TOML entries read back

The value of an entry of one line is read as the value for which it is written, where the
line ends after it: every text, every boolean, and every number that fits 64 bits. For
numbers there is more to show than that their digits are read. A date, a time and a
floating point number also begin with digits and are tried first; what they need after
their digits is none and no end of a line (`expect_append`).
-/

namespace TronWallet.Toml

open Text.Decimal (isDigit)

/-! ## Values of entries -/

/-- The value for which the value of an entry is written. -/
def Scalar.value : Scalar → Value
  | text s => .text s
  | integer n => .integer n
  | boolean b => .boolean b

/-- What is written for the value is read as the value, up to the end of the line. -/
def Scalar.ReadsBack (v : Scalar) : Prop :=
  ∀ bound depth rest, readValue (bound + 1) depth (skipBlanks (v.write ++ '\n' :: rest)) =
    some (v.value, '\n' :: rest)

theorem Scalar.readsBack_text (s : String) : (Scalar.text s).ReadsBack := by
  intro bound depth rest
  have hread : read (Toml.write s.toList ++ '\n' :: rest) = some (s.toList, '\n' :: rest) :=
    read_write s.toList (by simp) (by simp)
  obtain ⟨c, ds, hcons, hc⟩ := exists_write_eq_cons s.toList
  have hskip : skipBlanks (c :: (ds ++ '\n' :: rest)) = c :: (ds ++ '\n' :: rest) := by
    obtain rfl | rfl := hc <;> rfl
  have hvalue : ∀ cs, readValue (bound + 1) depth (c :: cs) =
      (read (c :: cs)).map fun r => (.text (String.ofList r.1), r.2) := by
    intro cs
    obtain rfl | rfl := hc <;> rw [readValue]
  rw [hcons, List.cons_append] at hread
  rw [Scalar.write, hcons, List.cons_append, hskip, hvalue, hread]
  simp [Scalar.value]

theorem Scalar.readsBack_boolean (b : Bool) : (Scalar.boolean b).ReadsBack := by
  intro bound depth rest
  cases b <;> rfl

/-! ## Numbers -/

variable {ds rest : List Char}

theorem moreDigits_append (hds : ∀ c ∈ ds, isDigit c = true) (rest : List Char) :
    moreDigits isDigit (ds ++ '\n' :: rest) = (ds, '\n' :: rest) := by
  induction ds with
  | nil => rfl
  | cons c ds ih =>
      obtain ⟨hc, hds⟩ := List.forall_mem_cons.1 hds
      have hne : c ≠ '_' := by
        rintro rfl
        cases hc
      rw [List.cons_append, moreDigits]
      · simp [hc, ih hds]
      · simp [hne]

/-- The digits of a number are read up to the end of the line. -/
theorem readDecimal_append (n : Nat) (rest : List Char) :
    readDecimal (Text.Decimal.ofNat n ++ '\n' :: rest) =
      some (Text.Decimal.ofNat n, '\n' :: rest) := by
  by_cases hzero : n = 0
  · subst hzero
    rfl
  · obtain ⟨c, ds, hcons, hc⟩ := Text.Decimal.exists_ofNat_eq_cons n
    have hds : ∀ d ∈ ds, isDigit d = true := by
      intro d hd
      apply Text.Decimal.isDigit_of_mem_ofNat (n := n)
      rw [hcons]
      exact List.mem_cons_of_mem c hd
    have hne : c ≠ '0' := by
      rintro rfl
      apply Text.Decimal.head?_ofNat_ne_zero hzero
      rw [hcons]
      rfl
    rw [hcons, List.cons_append, readDecimal]
    · simp [someDigits, hc, moreDigits_append hds]
    · simp [hne]

/-- After digits there is no other mark. -/
theorem expect_append (hds : ∀ c ∈ ds, isDigit c = true) {mark : Char}
    (hmark : isDigit mark = false) (hbreak : mark ≠ '\n') (rest : List Char) :
    expect mark (ds ++ '\n' :: rest) = none := by
  cases ds with
  | nil => simp [expect, Ne.symm hbreak]
  | cons c ds =>
      have hne : c ≠ mark := by
        rintro rfl
        rw [hds _ List.mem_cons_self] at hmark
        cases hmark
      simp [expect, hne]

/-- A number of exactly so many digits leaves the other digits. -/
theorem readFixed_append {count : Nat} {r : Nat × List Char}
    (h : readFixed count (ds ++ '\n' :: rest) = some r) : r.2 = ds.drop count ++ '\n' :: rest := by
  rw [readFixed] at h
  split at h
  · rename_i hrun
    obtain rfl := Option.some.inj h
    have hle : count ≤ ds.length := by
      by_contra hlt
      obtain ⟨k, hk⟩ : ∃ k, count - ds.length = k + 1 := ⟨count - ds.length - 1, by omega⟩
      have hall := hrun.2
      rw [List.take_append, hk, List.take_succ_cons] at hall
      have hbreak : isDigit '\n' = false := rfl
      simp [hbreak] at hall
    exact List.drop_append_of_le_length hle
  · cases h

/-- What comes after a number of exactly so many digits is a digit or the end of the line. -/
theorem expect_of_readFixed (hds : ∀ c ∈ ds, isDigit c = true) {mark : Char}
    (hmark : isDigit mark = false) (hbreak : mark ≠ '\n') {count : Nat} {r : Nat × List Char}
    (h : readFixed count (ds ++ '\n' :: rest) = some r) : expect mark r.2 = none := by
  rw [readFixed_append h]
  exact expect_append (fun c hc => hds c (List.mem_of_mem_drop hc)) hmark hbreak rest

theorem readDate_append (hds : ∀ c ∈ ds, isDigit c = true) (rest : List Char) :
    readDate (ds ++ '\n' :: rest) = none := by
  rw [readDate]
  cases hyear : readFixed 4 (ds ++ '\n' :: rest) with
  | none => rfl
  | some r =>
      have hexpect : expect '-' r.2 = none := expect_of_readFixed hds rfl (by decide) hyear
      simp [hexpect]

theorem readClock_append (hds : ∀ c ∈ ds, isDigit c = true) (rest : List Char) :
    readClock (ds ++ '\n' :: rest) = none := by
  rw [readClock]
  cases hhour : readFixed 2 (ds ++ '\n' :: rest) with
  | none => rfl
  | some r =>
      have hexpect : expect ':' r.2 = none := expect_of_readFixed hds rfl (by decide) hhour
      simp [hexpect]

/-- Digits alone are no date and no time. -/
theorem readMoment_append (hds : ∀ c ∈ ds, isDigit c = true) (rest : List Char) :
    readMoment (ds ++ '\n' :: rest) = none := by
  rw [readMoment, readDate_append hds, readClock_append hds]
  rfl

/-- A number begins with no other mark than a digit. -/
theorem ofNat_append_ne_cons {mark : Char} (hmark : isDigit mark = false) (n : Nat)
    (rest tail : List Char) : Text.Decimal.ofNat n ++ rest ≠ mark :: tail := by
  intro heq
  obtain ⟨c, ds, hcons, hc⟩ := Text.Decimal.exists_ofNat_eq_cons n
  rw [hcons] at heq
  rw [(List.cons.inj heq).1, hmark] at hc
  cases hc

/-- A zero in front is the whole number. -/
theorem ofNat_append_ne_zero_cons {mark : Char} (hmark : mark ≠ '\n') (n : Nat)
    (rest tail : List Char) :
    Text.Decimal.ofNat n ++ '\n' :: rest ≠ '0' :: mark :: tail := by
  intro heq
  by_cases hzero : n = 0
  · subst hzero
    exact hmark (List.cons.inj (List.cons.inj heq).2).1.symm
  · obtain ⟨c, ds, hcons, -⟩ := Text.Decimal.exists_ofNat_eq_cons n
    apply Text.Decimal.head?_ofNat_ne_zero hzero
    rw [hcons] at heq ⊢
    rw [List.head?_cons, (List.cons.inj heq).1]

theorem skipBlanks_ofNat_append (n : Nat) (rest : List Char) :
    skipBlanks (Text.Decimal.ofNat n ++ rest) = Text.Decimal.ofNat n ++ rest := by
  obtain ⟨c, ds, hcons, hc⟩ := Text.Decimal.exists_ofNat_eq_cons n
  have hblank : isBlank c = false := by
    rw [isBlank, Bool.or_eq_false_iff, decide_eq_false_iff_not, decide_eq_false_iff_not]
    constructor <;> rintro rfl <;> cases hc
  simp [hcons, skipBlanks, hblank]

theorem readSign_ofNat (n : Nat) (rest : List Char) :
    readSign (Text.Decimal.ofNat n ++ rest) = (false, Text.Decimal.ofNat n ++ rest) := by
  rw [readSign]
  · exact fun tail => ofNat_append_ne_cons rfl n rest tail
  · exact fun tail => ofNat_append_ne_cons rfl n rest tail

/-- Digits alone are no floating point number. -/
theorem readFloating_ofNat (n : Nat) (rest : List Char) :
    readFloating (Text.Decimal.ofNat n ++ '\n' :: rest) = none := by
  have hfraction : readFraction ('\n' :: rest) = none := rfl
  have hexponent : readExponent ('\n' :: rest) = none := rfl
  rw [readFloating, readSign_ofNat]
  simp only
  split
  · exact absurd ‹_› (ofNat_append_ne_cons rfl n _ _)
  · exact absurd ‹_› (ofNat_append_ne_cons rfl n _ _)
  · simp [readDecimal_append, hfraction, hexponent]

theorem readInteger_ofNat {n : Nat} (hn : n < 0x8000000000000000) (rest : List Char) :
    readInteger (Text.Decimal.ofNat n ++ '\n' :: rest) = some (.integer n, '\n' :: rest) := by
  have hinteger : integer? n = some (.integer n) := by
    rw [integer?, if_pos]
    omega
  rw [readInteger]
  · simp [readSign_ofNat, readDecimal_append, Text.Decimal.value_ofNat, hinteger]
  all_goals exact fun tail => ofNat_append_ne_zero_cons (by decide) n rest tail

theorem Scalar.readsBack_integer {n : Nat} (hn : n < 0x8000000000000000) :
    (Scalar.integer n).ReadsBack := by
  intro bound depth rest
  have hdigits : ∀ c ∈ Text.Decimal.ofNat n, isDigit c = true :=
    fun _ => Text.Decimal.isDigit_of_mem_ofNat
  have hnumber : readNumber (Text.Decimal.ofNat n ++ '\n' :: rest) =
      some (.integer n, '\n' :: rest) := by
    rw [readNumber, readMoment_append hdigits, readFloating_ofNat, readInteger_ofNat hn]
  have hwrite : (Scalar.integer n).write = Text.Decimal.ofNat n := rfl
  rw [hwrite, skipBlanks_ofNat_append, readValue]
  · exact hnumber
  all_goals exact fun tail => ofNat_append_ne_cons rfl n _ _

end TronWallet.Toml
