import TronWallet.Proofs.Toml.Quoting

/-!
# TOML strings on several lines

Between triple delimiters up to two of them in a row stand for themselves, also right
before the end. The basic form escapes a third one (`readBasicLines_basicBody`); the literal
form is taken only where there is none (`readLiteralLines_append`). A line break is written
after the opening delimiter where the text has more than one line, so that none of its own
is dropped. Together with the forms of one line, every text is read back in the form in
which it is written (`read_write`).
-/

namespace TronWallet.Toml

variable {cs rest : List Char} {delimiter : Char} {bound run : Nat}

/-! ## Delimiters -/

/-- The end of a string whose last characters are no delimiters. -/
theorem closeLines_nil (hrest : rest.head? ≠ some delimiter) :
    closeLines delimiter rest = ([], rest) := by
  match rest with
  | [] => rfl
  | [_] => simp_all [closeLines]
  | _ :: _ :: _ => simp_all [closeLines]

theorem closeLines_one (hrest : rest.head? ≠ some delimiter) :
    closeLines delimiter (delimiter :: rest) = ([delimiter], rest) := by
  cases rest <;> simp_all [closeLines]

theorem closeLines_two (delimiter : Char) (rest : List Char) :
    closeLines delimiter (delimiter :: delimiter :: rest) = ([delimiter, delimiter], rest) := by
  simp [closeLines]

theorem lineBreak?_cons {c : Char} (hbreak : c ≠ '\n') (hreturn : c ≠ '\r') (cs : List Char) :
    lineBreak? (c :: cs) = none := by
  simp [lineBreak?, hbreak, hreturn]

/-- Where a text begins with a line break, one more is written for the one that is dropped. -/
theorem skipOpeningBreak_openingBreak {body : List Char}
    (h : '\n' ∉ cs → lineBreak? body = none) :
    skipOpeningBreak (openingBreak cs ++ body) = body := by
  rw [openingBreak]
  split
  · rfl
  · rename_i hlines
    rw [List.nil_append, skipOpeningBreak, h (by simpa using hlines), Option.getD_none]

/-! ## Basic strings -/

/-- A quote that two others do not follow belongs to the string. -/
theorem readBasicLines_quote (h : ∀ tail, cs ≠ '"' :: '"' :: tail) :
    readBasicLines (bound + 1) ('"' :: cs) =
      (readBasicLines bound cs).map fun r => ('"' :: r.1, r.2) := by
  rw [readBasicLines]
  · cases readBasicLines bound cs <;> simp [guard]
  · simpa using h
  all_goals simp

theorem readBasicLines_break (bound : Nat) (cs : List Char) :
    readBasicLines (bound + 1) ('\n' :: cs) =
      (readBasicLines bound cs).map fun r => ('\n' :: r.1, r.2) := by
  cases h : readBasicLines bound cs <;> simp [readBasicLines, guard, h]

theorem readBasicLines_escape {c : Char} {escape : List Char}
    (hread : readEscape (escape ++ cs) = some (c, cs))
    (hcontinuation : continuation? (escape ++ cs) = none) :
    readBasicLines (bound + 1) ('\\' :: escape ++ cs) =
      (readBasicLines bound cs).map fun r => (c :: r.1, r.2) := by
  rw [List.cons_append, readBasicLines, hcontinuation]
  cases h : readBasicLines bound cs <;> simp [hread, h]

/-- One written character that is no quote is read as this character. -/
theorem readBasicLines_escapeBasic {c : Char} (hquote : c ≠ '"') (bound : Nat) (cs : List Char) :
    readBasicLines (bound + 1) (escapeBasic c ++ cs) =
      (readBasicLines bound cs).map fun r => (c :: r.1, r.2) := by
  obtain ⟨escape, heq, hread, hcontinuation⟩ | ⟨heq, hbasic⟩ := escapeBasic_cases hquote
  · rw [heq]
    exact readBasicLines_escape (hread cs) (hcontinuation cs)
  · have hne : c ≠ '\\' ∧ c ≠ '\r' := by
      constructor <;> rintro rfl <;> cases hbasic
    rw [heq, List.singleton_append, readBasicLines]
    · cases readBasicLines bound cs <;> simp [hbasic, guard]
    all_goals simp [hquote, hne]

/-- After two quotes in a row, or before another character, no unescaped quote is written. -/
theorem basicBody_append_ne_cons {c : Char} (h : c = '"' → run = 2) (rest tail : List Char) :
    basicBody 2 true run (c :: cs) ++ rest ≠ '"' :: tail := by
  intro heq
  rw [basicBody] at heq
  split at heq
  · rw [if_neg (by simp [h ‹_›])] at heq
    cases heq
  · split at heq
    · cases heq
    · obtain ⟨d, ds, hd, hne⟩ := exists_escapeBasic_eq_cons ‹_›
      rw [hd] at heq
      exact hne (List.cons.inj heq).1

/-- A quote that ends the string is read together with the delimiter; any other quote that
stands unescaped is followed by at most one. -/
theorem basicBody_append_ne_cons_cons (hcs : cs ≠ []) (hone : run = 0 → cs ≠ ['"'])
    (hrun : run < 2) (rest tail : List Char) :
    basicBody 2 true (run + 1) cs ++ rest ≠ '"' :: '"' :: tail := by
  obtain ⟨c, cs, rfl⟩ := List.exists_cons_of_ne_nil hcs
  by_cases hc : c = '"' ∧ run = 0
  · obtain ⟨rfl, rfl⟩ := hc
    obtain ⟨d, ds, rfl⟩ := List.exists_cons_of_ne_nil (l := cs) fun h => hone rfl (by rw [h])
    intro heq
    exact basicBody_append_ne_cons (fun _ => rfl) _ _ (List.cons.inj heq).2
  · apply basicBody_append_ne_cons
    intro hquote
    have : run ≠ 0 := fun h => hc ⟨hquote, h⟩
    omega

/-- What is written in the basic form is read back after its opening delimiter. The
induction is on the text; `run` is the number of quotes that have just been written. -/
theorem readBasicLines_basicBody (hrest : rest.head? ≠ some '"') (hbound : cs.length < bound)
    (run : Nat) :
    readBasicLines bound (basicBody 2 true run cs ++ '"' :: '"' :: '"' :: rest) =
      some (cs, rest) := by
  induction cs generalizing bound run with
  | nil =>
      obtain ⟨bound, rfl⟩ := Nat.exists_eq_add_of_lt hbound
      simp [basicBody, readBasicLines, closeLines_nil hrest]
  | cons c cs ih =>
      obtain ⟨bound, rfl⟩ : ∃ n, bound = n + 1 := ⟨bound - 1, by omega⟩
      rw [List.length_cons] at hbound
      have ih := ih (show cs.length < bound by omega)
      rw [basicBody]
      split
      · subst_vars
        split
        · rename_i hrun
          by_cases hcs : cs = []
          · subst_vars
            simp [basicBody, readBasicLines, closeLines_one hrest]
          · by_cases hone : run = 0 ∧ cs = ['"']
            · obtain ⟨rfl, rfl⟩ := hone
              simp [basicBody, readBasicLines, closeLines_two]
            · have hne := basicBody_append_ne_cons_cons hcs (fun h0 h1 => hone ⟨h0, h1⟩) hrun
              rw [List.cons_append, readBasicLines_quote (hne _), ih]
              rfl
        · change readBasicLines (bound + 1) ('\\' :: ['"'] ++ (basicBody 2 true 0 cs ++ _)) = _
          rw [readBasicLines_escape rfl rfl, ih]
          rfl
      · split
        · rename_i hbreak
          obtain rfl : c = '\n' := by simpa using hbreak
          rw [List.cons_append, readBasicLines_break, ih]
          rfl
        · rename_i hquote _
          rw [List.append_assoc, readBasicLines_escapeBasic hquote, ih]
          rfl

theorem lineBreak?_basicBody_append (hlines : '\n' ∉ cs) (rest : List Char) :
    lineBreak? (basicBody 2 true 0 cs ++ '"' :: rest) = none := by
  cases cs with
  | nil => rfl
  | cons c cs =>
      rw [basicBody]
      split
      · rfl
      · have hbreak : c ≠ '\n' := fun h => hlines (by simp [h])
        rw [if_neg (by simp [hbreak])]
        obtain ⟨escape, heq, -⟩ | ⟨heq, hbasic⟩ := escapeBasic_cases ‹_›
        · rw [heq]
          rfl
        · have hreturn : c ≠ '\r' := by
            rintro rfl
            cases hbasic
          rw [heq]
          exact lineBreak?_cons hbreak hreturn _

theorem length_le_length_basicBody (cs : List Char) (run : Nat) :
    cs.length ≤ (basicBody 2 true run cs).length := by
  induction cs generalizing run with
  | nil => simp
  | cons c cs ih =>
      rw [basicBody]
      split
      · split
        · simpa using ih (run + 1)
        · have := ih 0
          simp only [List.length_cons]
          omega
      · split
        · simpa using ih 0
        · obtain ⟨d, ds, hd, -⟩ := exists_escapeBasic_eq_cons ‹_›
          have := ih 0
          rw [hd, List.length_append, List.length_cons, List.length_cons]
          omega

theorem read_basicLines (cs : List Char) (hrest : rest.head? ≠ some '"') :
    read (writeAs .basicLines cs ++ rest) = some (cs, rest) := by
  have htext : writeAs .basicLines cs ++ rest = '"' :: '"' :: '"' ::
      (openingBreak cs ++ (basicBody 2 true 0 cs ++ '"' :: '"' :: '"' :: rest)) := by
    simp [writeAs]
  have hlength := length_le_length_basicBody cs 0
  rw [htext, read, skipOpeningBreak_openingBreak fun h => lineBreak?_basicBody_append h _]
  apply readBasicLines_basicBody hrest
  simp only [List.length_append, List.length_cons]
  omega

/-! ## Literal strings -/

theorem le_longestRun (x : Char) (cs : List Char) (run longest : Nat) :
    longest ≤ longestRun x cs run longest := by
  induction cs generalizing run longest with
  | nil => exact Nat.le_refl _
  | cons c cs ih =>
      rw [longestRun]
      split
      · exact Nat.le_trans (Nat.le_max_left _ _) (ih _ _)
      · exact ih _ _

/-- A text without runs of a character does not hold it. -/
theorem not_mem_of_longestRun_eq_zero {x : Char} {longest : Nat}
    (h : longestRun x cs run longest = 0) : x ∉ cs := by
  induction cs generalizing run longest with
  | nil => exact List.not_mem_nil
  | cons c cs ih =>
      rw [longestRun] at h
      split at h
      · have hle := le_longestRun x cs (run + 1) (max longest (run + 1))
        omega
      · rw [List.mem_cons, not_or]
        exact ⟨Ne.symm ‹_›, ih h⟩

theorem isLiteralChar_of_needsEscape {c : Char} (hescape : needsEscape c = false)
    (hc : c ≠ '\'') (hbreak : c ≠ '\n') : isLiteralChar c = true := by
  simp_all [isLiteralChar, needsEscape]

theorem readLiteralLines_cons {c : Char} (hescape : needsEscape c = false) (hc : c ≠ '\'')
    (cs : List Char) :
    readLiteralLines (c :: cs) = (readLiteralLines cs).map fun r => (c :: r.1, r.2) := by
  have hreturn : c ≠ '\r' := by
    rintro rfl
    cases hescape
  have hliteral : (isLiteralChar c || c = '\'' || c = '\n') = true := by
    by_cases hbreak : c = '\n'
    · simp [hbreak]
    · simp [isLiteralChar_of_needsEscape hescape hc hbreak]
  rw [readLiteralLines]
  · cases readLiteralLines cs <;> simp [guard, hliteral]
  all_goals simp [hc, hreturn]

/-- An apostrophe that two others do not follow belongs to the string. -/
theorem readLiteralLines_apostrophe (h : ∀ tail, cs ≠ '\'' :: '\'' :: tail) :
    readLiteralLines ('\'' :: cs) =
      (readLiteralLines cs).map fun r => ('\'' :: r.1, r.2) := by
  rw [readLiteralLines]
  · cases readLiteralLines cs <;> simp [guard]
  · simpa using h
  all_goals simp

/-- Where no run is longer than two, an apostrophe before the end is followed by at most one. -/
theorem append_ne_cons_cons_of_longestRun {x : Char} {longest : Nat} (hcs : cs ≠ [])
    (hone : cs ≠ [x]) (hrun : longestRun x cs (run + 1) longest ≤ 2) (rest tail : List Char) :
    cs ++ rest ≠ x :: x :: tail := by
  intro heq
  obtain ⟨c, cs, rfl⟩ := List.exists_cons_of_ne_nil hcs
  obtain ⟨rfl, heq⟩ := List.cons.inj heq
  obtain ⟨d, cs, rfl⟩ := List.exists_cons_of_ne_nil fun h => hone (congrArg _ h)
  obtain ⟨rfl, -⟩ := List.cons.inj heq
  have hle := le_longestRun d cs (run + 1 + 1 + 1)
    (max (max longest (run + 1 + 1)) (run + 1 + 1 + 1))
  simp only [longestRun, if_true] at hrun
  omega

/-- What is written in the literal form is read back after its opening delimiter, provided
that no three apostrophes stand in a row. -/
theorem readLiteralLines_append {longest : Nat} (hrest : rest.head? ≠ some '\'')
    (hcs : ∀ c ∈ cs, needsEscape c = false) (hrun : longestRun '\'' cs run longest ≤ 2) :
    readLiteralLines (cs ++ '\'' :: '\'' :: '\'' :: rest) = some (cs, rest) := by
  induction cs generalizing run longest with
  | nil => simp [readLiteralLines, closeLines_nil hrest]
  | cons c cs ih =>
      obtain ⟨hc, htail⟩ := List.forall_mem_cons.1 hcs
      rw [longestRun] at hrun
      rw [List.cons_append]
      split at hrun
      · subst_vars
        by_cases hnil : cs = []
        · subst_vars
          simp [readLiteralLines, closeLines_one hrest]
        · by_cases hone : cs = ['\'']
          · subst_vars
            simp [readLiteralLines, closeLines_two]
          · have hne := append_ne_cons_cons_of_longestRun hnil hone hrun
            rw [readLiteralLines_apostrophe (hne _), ih htail hrun]
            rfl
      · rw [readLiteralLines_cons hc ‹_›, ih htail hrun]
        rfl

theorem lineBreak?_append (hcs : ∀ c ∈ cs, needsEscape c = false) (hlines : '\n' ∉ cs)
    (rest : List Char) : lineBreak? (cs ++ '\'' :: rest) = none := by
  cases cs with
  | nil => rfl
  | cons c cs =>
      rw [List.cons_append]
      apply lineBreak?_cons
      · rintro rfl
        exact hlines (by simp)
      · rintro rfl
        cases hcs _ List.mem_cons_self

theorem read_literalLines (hrest : rest.head? ≠ some '\'')
    (hcs : ∀ c ∈ cs, needsEscape c = false) (hrun : longestRun '\'' cs 0 0 ≤ 2) :
    read (writeAs .literalLines cs ++ rest) = some (cs, rest) := by
  have htext : writeAs .literalLines cs ++ rest = '\'' :: '\'' :: '\'' ::
      (openingBreak cs ++ (cs ++ '\'' :: '\'' :: '\'' :: rest)) := by
    simp [writeAs]
  rw [htext, read, skipOpeningBreak_openingBreak fun h => lineBreak?_append hcs h _]
  exact readLiteralLines_append hrest hcs hrun

/-! ## Every form -/

theorem read_literal (hrest : rest.head? ≠ some '\'')
    (hcs : ∀ c ∈ cs, isLiteralChar c = true) :
    read (writeAs .literal cs ++ rest) = some (cs, rest) := by
  have htext : writeAs .literal cs ++ rest = '\'' :: (cs ++ '\'' :: rest) := by
    simp [writeAs]
  rw [htext, read, readLiteral_append hcs]
  -- The text begins with no apostrophe, so the one before it does not begin a delimiter of three.
  intro tail htail
  cases cs with
  | nil =>
      apply hrest
      rw [(List.cons.inj htail).2]
      rfl
  | cons c cs =>
      have hc := hcs c List.mem_cons_self
      rw [(List.cons.inj htail).1] at hc
      cases hc

theorem exists_write_eq_cons (cs : List Char) :
    ∃ c ds, write cs = c :: ds ∧ (c = '"' ∨ c = '\'') := by
  rw [write]
  cases formOf cs with
  | basic => exact ⟨_, _, rfl, .inl rfl⟩
  | literal => exact ⟨_, _, rfl, .inr rfl⟩
  | basicLines => exact ⟨_, _, rfl, .inl rfl⟩
  | literalLines => exact ⟨_, _, rfl, .inr rfl⟩

/-- Every text is read back in the form in which it is written, where no delimiter follows. -/
theorem read_write (cs : List Char) (hquote : rest.head? ≠ some '"')
    (hapostrophe : rest.head? ≠ some '\'') : read (write cs ++ rest) = some (cs, rest) := by
  rw [write, formOf]
  split
  · exact read_basic cs hquote
  · split
    · rename_i h
      simp only [Bool.and_eq_true, Bool.not_eq_true', List.any_eq_false, decide_eq_true_eq] at h
      obtain ⟨⟨hescapes, hapostrophes⟩, hlines⟩ := h
      apply read_literal hapostrophe
      intro c hc
      apply isLiteralChar_of_needsEscape (by simpa using hescapes c hc) _ (hlines c hc)
      rintro rfl
      exact not_mem_of_longestRun_eq_zero hapostrophes hc
    · split
      · exact read_basicLines cs hquote
      · split
        · rename_i h
          simp only [Bool.and_eq_true, Bool.not_eq_true', List.any_eq_false, Bool.not_eq_true,
            decide_eq_true_eq] at h
          exact read_literalLines hapostrophe h.1 h.2
        · split
          · exact read_basicLines cs hquote
          · exact read_basic cs hquote

end TronWallet.Toml
