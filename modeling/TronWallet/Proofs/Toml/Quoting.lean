import Mathlib.Data.Option.Basic
import TronWallet.Toml.Quoting

/-!
# TOML strings and keys read back

A basic string of one line is written character by character (`inLine`), and each piece
is read as its character again. A key is read back in whichever of its three forms it is
written: bare, basic or literal (`readKeyPart_writeKey`).
-/

namespace TronWallet.Toml

/-! ## Basic strings of one line -/

/-- A character of a basic string of one line. -/
def inLine (c : Char) : List Char :=
  if c = '"' then ['\\', '"'] else escapeBasic c

theorem basicBody_eq_flatMap (run : Nat) (cs : List Char) :
    basicBody 0 false run cs = cs.flatMap inLine := by
  induction cs generalizing run with
  | nil => rfl
  | cons c cs ih =>
      rw [basicBody, List.flatMap_cons, inLine]
      split
      · simp [ih]
      · simp [ih]

theorem readCodePoint_controlEscape {c : Char} (h : c.toNat < 128) (rest : List Char) :
    readCodePoint 4 ('0' :: '0' :: upperDigit (c.toNat / 16) :: upperDigit (c.toNat % 16) :: rest) =
      some (c, rest) := by
  have hall : ∀ n < 128,
      Text.Hex.toNat? ['0', '0', upperDigit (n / 16), upperDigit (n % 16)] = some n := by
    decide
  have hvalid : c.toNat.isValidChar := c.valid
  simp [readCodePoint, hall c.toNat h, hvalid]

theorem lt_of_needsEscape {c : Char} (h : needsEscape c = true) : c.toNat < 128 := by
  simp only [needsEscape, isCommentChar, Bool.and_eq_true, Bool.not_eq_true', Bool.or_eq_false_iff,
    Bool.and_eq_false_iff, decide_eq_false_iff_not] at h
  omega

/-- A character other than a quote is written as an escape of it, which does not continue
the line on the next one, or stands for itself. -/
theorem escapeBasic_cases {c : Char} (hquote : c ≠ '"') :
    (∃ escape, escapeBasic c = '\\' :: escape ∧
      (∀ cs, readEscape (escape ++ cs) = some (c, cs)) ∧
      ∀ cs, continuation? (escape ++ cs) = none) ∨
    escapeBasic c = [c] ∧ isBasicChar c = true := by
  rw [escapeBasic]
  iterate 6
    split
    · subst_vars
      exact .inl ⟨_, rfl, fun _ => rfl, fun _ => rfl⟩
  split
  · rename_i hneeds
    refine .inl ⟨_, rfl, fun cs => ?_, fun _ => rfl⟩
    exact readCodePoint_controlEscape (lt_of_needsEscape hneeds) cs
  · refine .inr ⟨rfl, ?_⟩
    simp_all [isBasicChar, needsEscape]

/-- What is written for a character other than a quote begins with no quote. -/
theorem exists_escapeBasic_eq_cons {c : Char} (hquote : c ≠ '"') :
    ∃ d ds, escapeBasic c = d :: ds ∧ d ≠ '"' := by
  obtain ⟨escape, heq, -⟩ | ⟨heq, -⟩ := escapeBasic_cases hquote
  · exact ⟨_, _, heq, by decide⟩
  · exact ⟨_, _, heq, hquote⟩

theorem exists_inLine_eq_cons (c : Char) : ∃ d ds, inLine c = d :: ds ∧ d ≠ '"' := by
  rw [inLine]
  split
  · exact ⟨_, _, rfl, by decide⟩
  · exact exists_escapeBasic_eq_cons ‹_›

theorem readBasic_escape {bound : Nat} {c : Char} {escape cs : List Char}
    (hread : readEscape (escape ++ cs) = some (c, cs)) :
    readBasic (bound + 1) ('\\' :: escape ++ cs) =
      (readBasic bound cs).map fun r => (c :: r.1, r.2) := by
  rw [List.cons_append, readBasic]
  cases h : readBasic bound cs <;> simp [hread, h]

/-- One written character is read as this character. -/
theorem readBasic_inLine_append (c : Char) (bound : Nat) (cs : List Char) :
    readBasic (bound + 1) (inLine c ++ cs) =
      (readBasic bound cs).map fun r => (c :: r.1, r.2) := by
  rw [inLine]
  split
  · subst_vars
    exact readBasic_escape rfl
  · rename_i hquote
    obtain ⟨escape, heq, hread, -⟩ | ⟨heq, hbasic⟩ := escapeBasic_cases hquote
    · rw [heq]
      exact readBasic_escape (hread cs)
    · have hbackslash : c ≠ '\\' := by
        rintro rfl
        cases hbasic
      rw [heq, List.singleton_append, readBasic]
      · cases readBasic bound cs <;> simp [hbasic, guard]
      · exact hquote
      · exact hbackslash

theorem readBasic_flatMap_inLine {bound : Nat} {cs : List Char} (h : cs.length < bound)
    (rest : List Char) :
    readBasic bound (cs.flatMap inLine ++ '"' :: rest) = some (cs, rest) := by
  induction cs generalizing bound with
  | nil =>
      obtain ⟨bound, rfl⟩ := Nat.exists_eq_add_of_lt h
      simp [readBasic]
  | cons c cs ih =>
      obtain ⟨bound, rfl⟩ : ∃ n, bound = n + 1 := ⟨bound - 1, by omega⟩
      rw [List.flatMap_cons, List.append_assoc, readBasic_inLine_append,
        ih (by simpa using h)]
      rfl

theorem length_le_length_flatMap_inLine (cs : List Char) :
    cs.length ≤ (cs.flatMap inLine).length := by
  induction cs with
  | nil => simp
  | cons c cs ih =>
      obtain ⟨d, ds, hd, -⟩ := exists_inLine_eq_cons c
      rw [List.flatMap_cons, hd, List.length_append, List.length_cons, List.length_cons]
      omega

/-- What is written in the basic form is read back after its opening quote. -/
theorem readBasic_basicBody (cs rest : List Char) :
    readBasic ((basicBody 0 false 0 cs ++ '"' :: rest).length + 1)
      (basicBody 0 false 0 cs ++ '"' :: rest) = some (cs, rest) := by
  rw [basicBody_eq_flatMap]
  apply readBasic_flatMap_inLine
  have hle := length_le_length_flatMap_inLine cs
  simp only [List.length_append, List.length_cons]
  omega

/-- What is written in the basic form is read back as a value. -/
theorem read_basic (cs : List Char) {rest : List Char} (hrest : rest.head? ≠ some '"') :
    read (writeAs .basic cs ++ rest) = some (cs, rest) := by
  have hbody : writeAs .basic cs ++ rest = '"' :: (basicBody 0 false 0 cs ++ '"' :: rest) := by
    simp [writeAs]
  rw [hbody, read, readBasic_basicBody]
  -- The body begins with no quote, so the quote before it does not begin a delimiter of three.
  intro tail htail
  rw [basicBody_eq_flatMap] at htail
  cases cs with
  | nil =>
      apply hrest
      rw [(List.cons.inj htail).2]
      rfl
  | cons c cs =>
      obtain ⟨d, ds, hd, hne⟩ := exists_inLine_eq_cons c
      rw [List.flatMap_cons, hd] at htail
      exact hne (List.cons.inj htail).1

/-! ## Literal strings of one line -/

theorem readLiteral_append {cs : List Char} (h : ∀ c ∈ cs, isLiteralChar c = true)
    (rest : List Char) : readLiteral (cs ++ '\'' :: rest) = some (cs, rest) := by
  induction cs with
  | nil => simp [readLiteral]
  | cons c cs ih =>
      obtain ⟨hc, hcs⟩ := List.forall_mem_cons.1 h
      have hne : c ≠ '\'' := by
        rintro rfl
        cases hc
      simp [readLiteral, hc, guard, ih hcs]

/-! ## Keys -/

/-- May a key begin with the character? -/
def isKeyStart (c : Char) : Bool :=
  isBareChar c || c = '"' || c = '\''

theorem exists_writeKey_eq_cons (cs : List Char) :
    ∃ c rest, writeKey cs = c :: rest ∧ isKeyStart c = true := by
  rw [writeKey]
  split
  · rename_i h
    obtain ⟨c, cs, rfl⟩ := List.exists_cons_of_ne_nil h.1
    have hc : isBareChar c = true := by simp_all
    exact ⟨c, cs, rfl, by simp [isKeyStart, hc]⟩
  · split
    · exact ⟨'"', _, rfl, rfl⟩
    · split
      · exact ⟨'\'', _, rfl, rfl⟩
      · exact ⟨'"', _, rfl, rfl⟩

theorem readKeyPart_basic (cs rest : List Char) :
    readKeyPart (writeAs .basic cs ++ rest) = some (String.ofList cs, rest) := by
  have hbody : writeAs .basic cs ++ rest = '"' :: (basicBody 0 false 0 cs ++ '"' :: rest) := by
    simp [writeAs]
  rw [hbody, readKeyPart, readBasic_basicBody]
  rfl

theorem readKeyPart_literal {cs : List Char} (h : ∀ c ∈ cs, isLiteralChar c = true)
    (rest : List Char) :
    readKeyPart (writeAs .literal cs ++ rest) = some (String.ofList cs, rest) := by
  have hbody : writeAs .literal cs ++ rest = '\'' :: (cs ++ '\'' :: rest) := by
    simp [writeAs]
  rw [hbody, readKeyPart, readLiteral_append h]
  rfl

theorem readKeyPart_bare {cs rest : List Char} (hne : cs ≠ [])
    (hbare : ∀ c ∈ cs, isBareChar c = true) (hrest : ∀ c ∈ rest.head?, isBareChar c = false) :
    readKeyPart (cs ++ rest) = some (String.ofList cs, rest) := by
  have hend : rest.takeWhile isBareChar = [] ∧ rest.dropWhile isBareChar = rest := by
    cases rest with
    | nil => exact ⟨rfl, rfl⟩
    | cons d rest =>
        have hd : isBareChar d = false := hrest d rfl
        simp [hd]
  have htake : (cs ++ rest).takeWhile isBareChar = cs := by
    rw [List.takeWhile_append_of_pos hbare, hend.1, List.append_nil]
  have hdrop : (cs ++ rest).dropWhile isBareChar = rest := by
    rw [List.dropWhile_append_of_pos hbare, hend.2]
  have hnobare : ∀ c ∈ ['"', '\''], ∀ ds, cs ++ rest ≠ c :: ds := by
    intro c hc ds heq
    obtain ⟨d, es, rfl⟩ := List.exists_cons_of_ne_nil hne
    have hd : isBareChar d = true := hbare d List.mem_cons_self
    have hall : ['"', '\''].all (fun c => isBareChar c = false) = true := by decide
    rw [(List.cons.inj heq).1, of_decide_eq_true (List.all_eq_true.1 hall c hc)] at hd
    cases hd
  rw [readKeyPart]
  · simp [htake, hdrop, hne]
  · exact hnobare '"' (by simp)
  · exact hnobare '\'' (by simp)

/-- A written key is read back, whatever follows it that does not prolong a bare key. -/
theorem readKeyPart_writeKey (cs : List Char) {rest : List Char}
    (hrest : ∀ c ∈ rest.head?, isBareChar c = false) :
    readKeyPart (writeKey cs ++ rest) = some (String.ofList cs, rest) := by
  rw [writeKey]
  split
  · rename_i h
    exact readKeyPart_bare h.1 (List.all_eq_true.1 h.2) hrest
  · split
    · exact readKeyPart_basic cs rest
    · split
      · rename_i h
        have hliteral : ∀ c ∈ cs, isLiteralChar c = true := by
          intro c hc
          simp_all [isLiteralChar]
        exact readKeyPart_literal hliteral rest
      · exact readKeyPart_basic cs rest

end TronWallet.Toml
