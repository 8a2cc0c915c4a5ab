import Mathlib.Data.List.TakeWhile
import TronWallet.Proofs.Json.Grammar

/-!
# Numbers and strings are read by their grammar

For each rule of the grammar that has no parts of its own kind there are two lemmas: a text of
the rule is read up to its end, whatever stands after it (`exists_readString_append`,
`Numeral.read?_append`), and what is read is a text of the rule (`exists_of_readString`,
`Numeral.exists_of_read?`). A number has no end mark, so the text after it must not go on with
the number.
-/

namespace TronWallet.Json

open Text (Decimal.isDigit Decimal.digitValue)

variable {cs ds rest : List Char}

/-! ## Strings -/

/-- A string is read up to the quote that ends it. -/
theorem readPieces_append {ps : List Piece} (h : IsPieces ps cs) (rest : List Char) :
    readPieces (cs ++ '"' :: rest) = some (ps, rest) := by
  induction h with
  | nil => rfl
  | character hcontrol hquote hbackslash _ ih =>
      simp [readPieces, hbackslash, Nat.not_lt.2 hcontrol, ih]
  | @escape e c ps cs hescape _ ih =>
      have hu : e ≠ 'u' := by
        rintro rfl
        cases hescape
      simp [readPieces, hu, hescape, ih]
  | unit hunit _ ih => simp [readPieces, hunit, ih]

theorem exists_of_readPieces {ps : List Piece} (h : readPieces cs = some (ps, rest)) :
    ∃ text, IsPieces ps text ∧ cs = text ++ '"' :: rest := by
  fun_induction readPieces cs generalizing ps with
  | case1 => cases h
  | case2 cs =>
      cases h
      exact ⟨[], .nil, rfl⟩
  | case3 => cases h
  | case4 a b c d cs u hunit ih =>
      obtain ⟨⟨ps', rest'⟩, hread, heq⟩ := Option.map_eq_some_iff.1 h
      cases heq
      obtain ⟨text, htext, rfl⟩ := ih hread
      exact ⟨_, .unit hunit htext, rfl⟩
  | case5 => cases h
  | case6 e cs hne c hescape ih =>
      obtain ⟨⟨ps', rest'⟩, hread, heq⟩ := Option.map_eq_some_iff.1 h
      cases heq
      obtain ⟨text, htext, rfl⟩ := ih hread
      exact ⟨_, .escape hescape htext, rfl⟩
  | case7 => cases h
  | case8 c cs hquote hu hescape hc ih =>
      obtain ⟨⟨ps', rest'⟩, hread, heq⟩ := Option.map_eq_some_iff.1 h
      cases heq
      obtain ⟨text, htext, rfl⟩ := ih hread
      rw [not_or, Nat.not_lt] at hc
      exact ⟨_, .character hc.1 (fun heq => hquote heq) hc.2 htext, rfl⟩

/-- A string begins with a quote and is read up to its other quote. -/
theorem exists_readString_append {text : Option String} (h : IsString text cs) :
    ∃ string, cs = '"' :: string ∧
      ∀ rest, readString (string ++ rest) = some (text, rest) := by
  cases h with
  | mk h =>
      refine ⟨_, rfl, fun rest => ?_⟩
      rw [readString, List.append_assoc, List.singleton_append, readPieces_append h]
      rfl

theorem exists_of_readString {text : Option String} (h : readString cs = some (text, rest)) :
    ∃ string, IsString text ('"' :: string) ∧ cs = string ++ rest := by
  obtain ⟨⟨ps, rest'⟩, hread, heq⟩ := Option.map_eq_some_iff.1 h
  cases heq
  obtain ⟨pieces, hpieces, rfl⟩ := exists_of_readPieces hread
  exact ⟨pieces ++ ['"'], .mk hpieces, by simp⟩

/-! ## Numbers -/

/-- Can the character go on with a number that has digits only so far? -/
def continuesNumeral (c : Char) : Bool :=
  Decimal.isDigit c || c = '.' || c = 'e' || c = 'E'

/-- Can a number begin with the character? -/
def beginsNumeral (c : Char) : Bool :=
  c = '-' || Decimal.isDigit c

theorem ne_of_beginsNumeral {c d : Char} (hc : beginsNumeral c = true)
    (hd : beginsNumeral d = false) : c ≠ d := by
  rintro rfl
  rw [hd] at hc
  cases hc

/-- A number that stands before the text ends there. -/
def EndsNumeral (rest : List Char) : Prop :=
  ∀ c ∈ rest.head?, continuesNumeral c = false

theorem endsNumeral_nil : EndsNumeral [] := by
  simp [EndsNumeral]

theorem endsNumeral_cons {c : Char} {rest : List Char} (h : continuesNumeral c = false) :
    EndsNumeral (c :: rest) := by
  simpa [EndsNumeral] using h

namespace Numeral

/-- The text does not go on with a digit. -/
def EndsDigits (rest : List Char) : Prop :=
  ∀ c ∈ rest.head?, Decimal.isDigit c = false

theorem endsDigits_of_endsNumeral (h : EndsNumeral rest) : EndsDigits rest := by
  intro c hc
  have hends := h c hc
  simp only [continuesNumeral, Bool.or_eq_false_iff] at hends
  exact hends.1.1.1

theorem takeWhile_digits_append (h : ∀ c ∈ ds, Decimal.isDigit c = true)
    (hrest : EndsDigits rest) : (ds ++ rest).takeWhile Decimal.isDigit = ds := by
  rw [List.takeWhile_append_of_pos h]
  cases rest with
  | nil => simp
  | cons c rest => simp [hrest c rfl]

theorem dropWhile_digits_append (h : ∀ c ∈ ds, Decimal.isDigit c = true)
    (hrest : EndsDigits rest) : (ds ++ rest).dropWhile Decimal.isDigit = rest := by
  rw [List.dropWhile_append_of_pos h]
  cases rest with
  | nil => simp
  | cons c rest => simp [hrest c rfl]

theorem isDigits_takeWhile (h : cs.takeWhile Decimal.isDigit ≠ []) :
    IsDigits (cs.takeWhile Decimal.isDigit) :=
  ⟨h, fun _ hc => List.mem_takeWhile_imp hc⟩

theorem readWhole_append {ns : List Nat} (h : IsWhole ns ds) (hrest : EndsDigits rest) :
    readWhole (ds ++ rest) = some (ns, rest) := by
  cases h with
  | mk hdigits hzero =>
      rw [readWhole, takeWhile_digits_append hdigits.digits hrest,
        dropWhile_digits_append hdigits.digits hrest]
      split
      · exact absurd rfl hdigits.ne_nil
      · cases hzero rfl
      · rfl

theorem exists_of_readWhole {ns : List Nat} (h : readWhole cs = some (ns, rest)) :
    ∃ text, IsWhole ns text ∧ cs = text ++ rest := by
  rw [readWhole] at h
  split at h
  · cases h
  · cases h
  · rename_i hne hzero
    cases h
    refine ⟨_, .mk (isDigits_takeWhile hne) ?_, (List.takeWhile_append_dropWhile).symm⟩
    intro hhead
    obtain ⟨ds, hds⟩ := List.head?_eq_some_iff.1 hhead
    cases ds with
    | nil => exact hds
    | cons d ds => exact absurd hds (hzero d ds)

theorem readFraction_append {ns : List Nat} (h : IsFraction ns ds) (hrest : EndsDigits rest)
    (hpoint : rest.head? ≠ some '.') : readFraction (ds ++ rest) = some (ns, rest) := by
  cases h with
  | none =>
      cases rest with
      | nil => rfl
      | cons c rest =>
          have hc : c ≠ '.' := by simpa using hpoint
          simp [readFraction, hc]
  | digits hdigits =>
      simp [readFraction, takeWhile_digits_append hdigits.digits hrest,
        dropWhile_digits_append hdigits.digits hrest, hdigits.ne_nil]

theorem exists_of_readFraction {ns : List Nat} (h : readFraction cs = some (ns, rest)) :
    ∃ text, IsFraction ns text ∧ cs = text ++ rest := by
  rw [readFraction.eq_def] at h
  split at h
  · rename_i ds
    dsimp only at h
    split at h
    · cases h
    · rename_i hne
      cases h
      exact ⟨_, .digits (isDigits_takeWhile hne), by simp⟩
  · cases h
    exact ⟨[], .none, rfl⟩

theorem readExponent_append {e : Option Int} (h : IsExponent e ds) (hrest : EndsNumeral rest) :
    readExponent (ds ++ rest) = some (e, rest) := by
  have hends := endsDigits_of_endsNumeral hrest
  cases h with
  | none =>
      cases rest with
      | nil => rfl
      | cons c rest =>
          have hc := hrest c rfl
          simp only [continuesNumeral, Bool.or_eq_false_iff, decide_eq_false_iff_not] at hc
          simp [readExponent, hc.1.2, hc.2]
  | @plain e ds he hdigits =>
      obtain ⟨d, ds', rfl⟩ := List.exists_cons_of_ne_nil hdigits.ne_nil
      have hd := hdigits.digits d List.mem_cons_self
      have hsign : d ≠ '-' ∧ d ≠ '+' := by
        constructor <;> (rintro rfl; cases hd)
      have hrun := takeWhile_digits_append hdigits.digits hends
      have hdrop := dropWhile_digits_append hdigits.digits hends
      rw [List.cons_append] at hrun hdrop
      simp [readExponent, he, hsign, hrun, hdrop]
  | plus he hdigits =>
      simp [readExponent, he, takeWhile_digits_append hdigits.digits hends,
        dropWhile_digits_append hdigits.digits hends, hdigits.ne_nil]
  | minus he hdigits =>
      simp [readExponent, he, takeWhile_digits_append hdigits.digits hends,
        dropWhile_digits_append hdigits.digits hends, hdigits.ne_nil]

theorem exists_of_readExponent {e : Option Int} (h : readExponent cs = some (e, rest)) :
    ∃ text, IsExponent e text ∧ cs = text ++ rest := by
  rw [readExponent.eq_def] at h
  split at h
  · rename_i c ds
    split at h
    · rename_i hc
      -- A sign, if there is one, and then the digits.
      split at h
      · obtain ⟨hne, hread⟩ := Option.ite_none_left_eq_some.1 h
        cases hread
        exact ⟨_, .minus hc (isDigits_takeWhile hne), by simp⟩
      · obtain ⟨hne, hread⟩ := Option.ite_none_left_eq_some.1 h
        cases hread
        exact ⟨_, .plus hc (isDigits_takeWhile hne), by simp⟩
      · obtain ⟨hne, hread⟩ := Option.ite_none_left_eq_some.1 h
        cases hread
        exact ⟨_, .plain hc (isDigits_takeWhile hne), by simp⟩
    · cases h
      exact ⟨[], .none, rfl⟩
  · cases h
    exact ⟨[], .none, rfl⟩

/-- The digits, the fraction and the exponent of a numeral, whose sign has been read. -/
def readUnsigned (negative : Bool) (cs : List Char) : Option (Numeral × List Char) := do
  let (whole, cs) ← readWhole cs
  let (fraction, cs) ← readFraction cs
  let (exponent, cs) ← readExponent cs
  return (⟨negative, whole, fraction, exponent⟩, cs)

theorem read?_minus (cs : List Char) : read? ('-' :: cs) = readUnsigned true cs := rfl

theorem read?_of_head? (h : cs.head? ≠ some '-') : read? cs = readUnsigned false cs := by
  cases cs with
  | nil => rfl
  | cons c cs =>
      have hc : c ≠ '-' := by simpa using h
      simp [read?, readUnsigned, hc]

variable {negative : Bool} {ns fs : List Nat} {e : Option Int} {whole fraction exponent : List Char}

/-- What comes after the fraction goes on with neither digits nor a point. -/
theorem head?_exponent_append (hexponent : IsExponent e exponent) (hrest : EndsNumeral rest) :
    ∀ c ∈ (exponent ++ rest).head?, Decimal.isDigit c = false ∧ c ≠ '.' := by
  intro c hc
  have hletter : ∀ {d : Char}, d = 'e' ∨ d = 'E' → d = c →
      Decimal.isDigit c = false ∧ c ≠ '.' := by
    rintro d (rfl | rfl) rfl <;> decide
  cases hexponent with
  | none =>
      have hends := hrest c hc
      simp only [continuesNumeral, Bool.or_eq_false_iff, decide_eq_false_iff_not] at hends
      exact ⟨hends.1.1.1, hends.1.1.2⟩
  | plain he => exact hletter he (Option.some.inj hc)
  | plus he => exact hletter he (Option.some.inj hc)
  | minus he => exact hletter he (Option.some.inj hc)

theorem endsDigits_fraction_append (hfraction : IsFraction fs fraction)
    (hexponent : IsExponent e exponent) (hrest : EndsNumeral rest) :
    EndsDigits (fraction ++ (exponent ++ rest)) := by
  cases hfraction with
  | none => exact fun c hc => (head?_exponent_append hexponent hrest c hc).1
  | digits _ =>
      rintro c hc
      obtain rfl := Option.some.inj hc
      rfl

theorem readUnsigned_append (negative : Bool) (hwhole : IsWhole ns whole)
    (hfraction : IsFraction fs fraction) (hexponent : IsExponent e exponent) (hrest : EndsNumeral rest) :
    readUnsigned negative (whole ++ (fraction ++ (exponent ++ rest))) =
      some (⟨negative, ns, fs, e⟩, rest) := by
  have hhead := head?_exponent_append hexponent hrest
  have hends := endsDigits_fraction_append hfraction hexponent hrest
  have hread := readFraction_append hfraction (fun c hc => (hhead c hc).1)
    (fun hpoint => (hhead '.' hpoint).2 rfl)
  simp [readUnsigned, readWhole_append hwhole hends, hread, readExponent_append hexponent hrest]

theorem exists_of_readUnsigned {n : Numeral} (h : readUnsigned negative cs = some (n, rest)) :
    ∃ text, (∀ sign, IsSign negative sign → IsNumeral n (sign ++ text)) ∧ cs = text ++ rest := by
  simp only [readUnsigned, bind, pure, Option.bind_eq_some_iff, Prod.exists, Option.some.injEq,
    Prod.mk.injEq] at h
  obtain ⟨ns, cs₁, hread₁, fs, cs₂, hread₂, e, cs₃, hread₃, rfl, rfl⟩ := h
  obtain ⟨whole, hwhole, rfl⟩ := exists_of_readWhole hread₁
  obtain ⟨fraction, hfraction, rfl⟩ := exists_of_readFraction hread₂
  obtain ⟨exponent, hexponent, rfl⟩ := exists_of_readExponent hread₃
  refine ⟨whole ++ fraction ++ exponent, fun sign hsign => ?_, by simp⟩
  have hnumeral : IsNumeral ⟨negative, ns, fs, e⟩ (sign ++ whole ++ fraction ++ exponent) :=
    .mk hsign hwhole hfraction hexponent
  simpa using hnumeral

variable {n : Numeral}

/-- What the text of a number begins with. -/
theorem exists_cons_of_isWhole (h : IsWhole ns whole) :
    ∃ c ds, whole = c :: ds ∧ Decimal.isDigit c = true := by
  cases h with
  | mk hdigits _ =>
      obtain ⟨c, ds, rfl⟩ := List.exists_cons_of_ne_nil hdigits.ne_nil
      exact ⟨c, ds, rfl, hdigits.digits c List.mem_cons_self⟩

/-- A number is read up to its end. -/
theorem read?_append (h : IsNumeral n cs) (hrest : EndsNumeral rest) :
    read? (cs ++ rest) = some (n, rest) := by
  obtain ⟨negative, ns, fs, e⟩ := n
  cases h with
  | mk hsign hwhole hfraction hexponent =>
      have hread := readUnsigned_append negative hwhole hfraction hexponent hrest
      simp only [List.append_assoc]
      cases hsign with
      | minus => rw [List.singleton_append, read?_minus, hread]
      | none =>
          obtain ⟨c, ds, rfl, hc⟩ := exists_cons_of_isWhole hwhole
          have hminus : c ≠ '-' := by
            rintro rfl
            cases hc
          rw [List.nil_append, read?_of_head? (by simpa using hminus), hread]

/-- What is read as a number is the text of one. -/
theorem exists_of_read? (h : read? cs = some (n, rest)) :
    ∃ text, IsNumeral n text ∧ cs = text ++ rest := by
  by_cases hminus : cs.head? = some '-'
  · obtain ⟨cs, rfl⟩ := List.head?_eq_some_iff.1 hminus
    rw [read?_minus] at h
    obtain ⟨text, htext, rfl⟩ := exists_of_readUnsigned h
    exact ⟨'-' :: text, htext ['-'] .minus, rfl⟩
  · rw [read?_of_head? hminus] at h
    obtain ⟨text, htext, rfl⟩ := exists_of_readUnsigned h
    exact ⟨text, htext [] .none, rfl⟩

/-- The text of a number begins as a number does. -/
theorem exists_cons_of_isNumeral (h : IsNumeral n cs) :
    ∃ c ds, cs = c :: ds ∧ beginsNumeral c = true := by
  cases h with
  | mk hsign hwhole _ _ =>
      obtain ⟨c, ds, rfl, hc⟩ := exists_cons_of_isWhole hwhole
      generalize n.negative = negative at hsign
      cases hsign with
      | minus => exact ⟨'-', _, rfl, rfl⟩
      | none => exact ⟨c, _, rfl, by rw [beginsNumeral, hc, Bool.or_true]⟩

end Numeral

end TronWallet.Json
