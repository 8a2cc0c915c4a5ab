import Mathlib.Data.List.DropRight
import TronWallet.Json.Decode
import TronWallet.Proofs.Json.Leaves

/-!
# The reader reads the grammar

A text is read as the tree of a whole document exactly if the grammar says that it is JSON for
this tree (`read_eq_iff`). So a decoder succeeds with a text exactly if the text is JSON for a
tree that fits (`decode_eq_ok_iff`), and of two texts that are JSON it makes the same if it makes
the same of their trees (`decode_of_isElement`).
-/

namespace TronWallet.Json

variable {bound : Nat} {blanks cs rest after : List Char} {r : Reading} {key : Option String}

/-! ## Blanks -/

theorem skipBlanks_append (h : IsBlanks blanks) (cs : List Char) :
    skipBlanks (blanks ++ cs) = skipBlanks cs :=
  List.dropWhile_append_of_pos h

theorem skipBlanks_cons {c : Char} (h : isBlank c = false) (cs : List Char) :
    skipBlanks (c :: cs) = c :: cs := by
  simp [skipBlanks, h]

@[simp] theorem skipBlanks_skipBlanks (cs : List Char) :
    skipBlanks (skipBlanks cs) = skipBlanks cs :=
  List.dropWhile_idempotent isBlank cs

theorem exists_of_skipBlanks (h : skipBlanks cs = rest) :
    ∃ blanks, IsBlanks blanks ∧ cs = blanks ++ rest := by
  subst h
  exact ⟨cs.takeWhile isBlank, fun _ hc => List.mem_takeWhile_imp hc,
    (List.takeWhile_append_dropWhile).symm⟩

theorem isBlanks_nil : IsBlanks [] :=
  List.forall_mem_nil _

theorem endsNumeral_append (h : IsBlanks blanks) (hrest : EndsNumeral rest) :
    EndsNumeral (blanks ++ rest) := by
  cases blanks with
  | nil => exact hrest
  | cons c blanks =>
      have hc := h c List.mem_cons_self
      simp only [isBlank, Bool.or_eq_true, decide_eq_true_eq] at hc
      apply endsNumeral_cons
      rcases hc with ((rfl | rfl) | rfl) | rfl <;> rfl

theorem isBlank_of_beginsNumeral {c : Char} (h : beginsNumeral c = true) :
    isBlank c = false := by
  rw [Bool.eq_false_iff]
  intro hblank
  simp only [isBlank, Bool.or_eq_true, decide_eq_true_eq] at hblank
  rcases hblank with ((rfl | rfl) | rfl) | rfl <;> cases h

/-! ## One step of the reader

Each lemma is about one value, element or member, and takes what is read of its parts as
a hypothesis. Blanks in front change nothing for any of the three readers. -/

theorem readValue_skipBlanks (bound : Nat) (cs : List Char) :
    readValue bound (skipBlanks cs) = readValue bound cs := by
  cases bound with
  | zero => rfl
  | succ bound => rw [readValue, readValue, skipBlanks_skipBlanks]

theorem readItems_skipBlanks (bound : Nat) (cs : List Char) :
    readItems bound (skipBlanks cs) = readItems bound cs := by
  cases bound with
  | zero => rfl
  | succ bound => rw [readItems, readItems, readValue_skipBlanks]

theorem readMembers_skipBlanks (bound : Nat) (cs : List Char) :
    readMembers bound (skipBlanks cs) = readMembers bound cs := by
  cases bound with
  | zero => rfl
  | succ bound => rw [readMembers, readMembers, skipBlanks_skipBlanks]

theorem readValue_string {text : Option String} (h : readString cs = some (text, rest)) :
    readValue (bound + 1) ('"' :: cs) = (.string text, some rest) := by
  have hskip : skipBlanks ('"' :: cs) = '"' :: cs := rfl
  simp only [readValue, hskip, h]

theorem readValue_number {n : Numeral} {c : Char} (hc : beginsNumeral c = true)
    (h : Numeral.read? (c :: cs) = some (n, rest)) :
    readValue (bound + 1) (c :: cs) = (.number n, some rest) := by
  rw [readValue, skipBlanks_cons (isBlank_of_beginsNumeral hc)]
  -- What a number begins with begins no other value.
  have hne : ∀ d, beginsNumeral d = false → c ≠ d := fun _ => ne_of_beginsNumeral hc
  simp [hne 'n' rfl, hne 't' rfl, hne 'f' rfl, hne '"' rfl, hne '[' rfl, hne '\x7b' rfl, h]

theorem readValue_noElements (h : IsBlanks blanks) :
    readValue (bound + 1) ('[' :: (blanks ++ ']' :: rest)) = (.array [], some rest) := by
  have hskip : skipBlanks ('[' :: (blanks ++ ']' :: rest)) = '[' :: (blanks ++ ']' :: rest) := rfl
  have hclose : skipBlanks (']' :: rest) = ']' :: rest := rfl
  simp only [readValue, hskip, skipBlanks_append h, hclose]

theorem readValue_bracket (h : (skipBlanks cs).head? ≠ some ']') :
    readValue (bound + 1) ('[' :: cs) =
      (.array (readItems bound cs).1, (readItems bound cs).2) := by
  have hskip : skipBlanks ('[' :: cs) = '[' :: cs := rfl
  rw [← readItems_skipBlanks]
  simp only [readValue, hskip]
  split
  · rename_i hclose
    exact absurd (by rw [hclose]; rfl) h
  · rfl

theorem readValue_noMembers (h : IsBlanks blanks) :
    readValue (bound + 1) ('\x7b' :: (blanks ++ '\x7d' :: rest)) = (.object [], some rest) := by
  have hskip : skipBlanks ('\x7b' :: (blanks ++ '\x7d' :: rest)) =
      '\x7b' :: (blanks ++ '\x7d' :: rest) := rfl
  have hclose : skipBlanks ('\x7d' :: rest) = '\x7d' :: rest := rfl
  simp only [readValue, hskip, skipBlanks_append h, hclose]

theorem readValue_brace (h : (skipBlanks cs).head? ≠ some '\x7d') :
    readValue (bound + 1) ('\x7b' :: cs) =
      (.object (readMembers bound cs).1, (readMembers bound cs).2) := by
  have hskip : skipBlanks ('\x7b' :: cs) = '\x7b' :: cs := rfl
  rw [← readMembers_skipBlanks]
  simp only [readValue, hskip]
  split
  · rename_i hclose
    exact absurd (by rw [hclose]; rfl) h
  · rfl

theorem readItems_last (hitem : readValue bound cs = (r, some after))
    (hafter : skipBlanks after = ']' :: rest) :
    readItems (bound + 1) cs = ([r], some rest) := by
  simp only [readItems, hitem, hafter]

theorem readItems_more (hitem : readValue bound cs = (r, some after))
    (hafter : skipBlanks after = ',' :: rest) :
    readItems (bound + 1) cs = (r :: (readItems bound rest).1, (readItems bound rest).2) := by
  simp only [readItems, hitem, hafter]

/-- The key of a member is read up to the colon. -/
theorem exists_of_isKey {ks : List Char} (hkey : IsKey key ks) (cs : List Char) :
    ∃ string after, skipBlanks (ks ++ ':' :: cs) = '"' :: string ∧
      readString string = some (key, after) ∧ skipBlanks after = ':' :: cs := by
  obtain @⟨before, ks, after, hbefore, hstring, hafter⟩ := hkey
  obtain ⟨string, rfl, hread⟩ := exists_readString_append hstring
  refine ⟨_, _, ?_, hread (after ++ ':' :: cs), ?_⟩
  · rw [List.append_assoc, List.append_assoc, skipBlanks_append hbefore, List.cons_append,
      skipBlanks_cons rfl]
  · rw [skipBlanks_append hafter, skipBlanks_cons rfl]

theorem readMembers_last {ks : List Char} (hkey : IsKey key ks)
    (hitem : readValue bound cs = (r, some after)) (hafter : skipBlanks after = '\x7d' :: rest) :
    readMembers (bound + 1) (ks ++ ':' :: cs) = ([(key, r)], some rest) := by
  obtain ⟨string, colon, hquote, hread, hcolon⟩ := exists_of_isKey hkey cs
  simp only [readMembers, hquote, hread, hcolon, hitem, hafter]

theorem readMembers_more {ks : List Char} (hkey : IsKey key ks)
    (hitem : readValue bound cs = (r, some after)) (hafter : skipBlanks after = ',' :: rest) :
    readMembers (bound + 1) (ks ++ ':' :: cs) =
      ((key, r) :: (readMembers bound rest).1, (readMembers bound rest).2) := by
  obtain ⟨string, colon, hquote, hread, hcolon⟩ := exists_of_isKey hkey cs
  simp only [readMembers, hquote, hread, hcolon, hitem, hafter]

/-! ## Every text of the grammar is read -/

/-- No value begins with a blank or closes a bracket. -/
theorem exists_cons_of_isValue (h : IsValue r cs) :
    ∃ c ds, cs = c :: ds ∧ isBlank c = false ∧ c ≠ ']' := by
  cases h with
  | null => exact ⟨'n', _, rfl, rfl, by decide⟩
  | yes => exact ⟨'t', _, rfl, rfl, by decide⟩
  | no => exact ⟨'f', _, rfl, rfl, by decide⟩
  | number h =>
      obtain ⟨c, ds, rfl, hc⟩ := Numeral.exists_cons_of_isNumeral h
      exact ⟨c, ds, rfl, isBlank_of_beginsNumeral hc, ne_of_beginsNumeral hc rfl⟩
  | string h =>
      obtain ⟨string, rfl, -⟩ := exists_readString_append h
      exact ⟨'"', _, rfl, rfl, by decide⟩
  | noElements _ => exact ⟨'[', _, rfl, rfl, by decide⟩
  | elements _ => exact ⟨'[', _, rfl, rfl, by decide⟩
  | noMembers _ => exact ⟨'\x7b', _, rfl, rfl, by decide⟩
  | members _ => exact ⟨'\x7b', _, rfl, rfl, by decide⟩

theorem skipBlanks_element_append (h : IsElement r cs) (rest : List Char) :
    ∃ c ds, skipBlanks (cs ++ rest) = c :: ds ∧ c ≠ ']' := by
  obtain @⟨_, before, cs, after, hbefore, hvalue, hafter⟩ := h
  obtain ⟨c, ds, rfl, hblank, hc⟩ := exists_cons_of_isValue hvalue
  refine ⟨c, ds ++ (after ++ rest), ?_, hc⟩
  rw [List.append_assoc, List.append_assoc, skipBlanks_append hbefore, List.cons_append,
    skipBlanks_cons hblank]

theorem head?_skipBlanks_elements {items : List Reading} (h : IsElements items cs)
    (rest : List Char) : (skipBlanks (cs ++ rest)).head? ≠ some ']' := by
  have hhead : ∀ {r cs}, IsElement r cs → ∀ rest, (skipBlanks (cs ++ rest)).head? ≠ some ']' := by
    intro r cs h rest
    obtain ⟨c, ds, hskip, hc⟩ := skipBlanks_element_append h rest
    simpa [hskip] using hc
  cases h with
  | last h => exact hhead h rest
  | more h _ =>
      rw [List.append_assoc]
      exact hhead h _

theorem head?_skipBlanks_members {members : List (Option String × Reading)}
    (h : IsMembers members cs) (rest : List Char) :
    (skipBlanks (cs ++ rest)).head? ≠ some '\x7d' := by
  have hhead : ∀ {key ks}, IsKey key ks → ∀ rest,
      (skipBlanks (ks ++ ':' :: rest)).head? ≠ some '\x7d' := by
    intro key ks hkey rest
    obtain ⟨string, -, hquote, -, -⟩ := exists_of_isKey hkey rest
    simp [hquote]
  cases h with
  | last hkey _ =>
      rw [List.append_assoc]
      exact hhead hkey _
  | more hkey _ _ =>
      rw [List.append_assoc, List.append_assoc]
      exact hhead hkey _

theorem length_pos_of_isValue (h : IsValue r cs) : 0 < cs.length := by
  obtain ⟨c, ds, rfl, -, -⟩ := exists_cons_of_isValue h
  exact Nat.zero_lt_succ _

mutual

/-- A value is read up to its end. It takes at most twice as many steps as it has characters,
since a bracket or a comma stands before each part. -/
theorem readValue_append : ∀ {r : Reading} {cs : List Char}, IsValue r cs →
    ∀ (bound : Nat) (rest : List Char), EndsNumeral rest → 2 * cs.length ≤ bound →
      readValue bound (cs ++ rest) = (r, some rest)
  | _, _, h, 0, _, _, hbound => by
      have hpos := length_pos_of_isValue h
      omega
  | _, _, .null, _ + 1, _, _, _ => rfl
  | _, _, .yes, _ + 1, _, _, _ => rfl
  | _, _, .no, _ + 1, _, _, _ => rfl
  | _, _, .number h, _ + 1, _, hends, _ => by
      have hread := Numeral.read?_append h hends
      obtain ⟨c, ds, rfl, hc⟩ := Numeral.exists_cons_of_isNumeral h
      exact readValue_number hc hread
  | _, _, .string h, _ + 1, rest, _, _ => by
      obtain ⟨string, rfl, hread⟩ := exists_readString_append h
      exact readValue_string (hread rest)
  | _, _, .noElements h, _ + 1, rest, _, _ => by
      rw [List.cons_append, List.append_assoc, List.singleton_append, readValue_noElements h]
  | _, _, .elements h, bound + 1, rest, _, hbound => by
      simp only [List.length_append, List.length_cons] at hbound
      rw [List.cons_append, List.append_assoc, List.singleton_append,
        readValue_bracket (head?_skipBlanks_elements h _),
        readItems_append h bound rest (by omega)]
  | _, _, .noMembers h, _ + 1, rest, _, _ => by
      rw [List.cons_append, List.append_assoc, List.singleton_append, readValue_noMembers h]
  | _, _, .members h, bound + 1, rest, _, hbound => by
      simp only [List.length_append, List.length_cons] at hbound
      rw [List.cons_append, List.append_assoc, List.singleton_append,
        readValue_brace (head?_skipBlanks_members h _),
        readMembers_append h bound rest (by omega)]

/-- A value is read up to its end, and only blanks are left of its element. -/
theorem readValue_element_append : ∀ {r : Reading} {cs : List Char}, IsElement r cs →
    ∀ (bound : Nat) (rest : List Char), EndsNumeral rest → 2 * cs.length ≤ bound →
      ∃ after, readValue bound (cs ++ rest) = (r, some after) ∧
        skipBlanks after = skipBlanks rest
  | _, _, .mk hbefore h hafter, bound, rest, hends, hbound => by
      simp only [List.length_append] at hbound
      refine ⟨_, ?_, skipBlanks_append hafter rest⟩
      rw [← readValue_skipBlanks, List.append_assoc, List.append_assoc,
        skipBlanks_append hbefore, readValue_skipBlanks]
      exact readValue_append h bound _ (endsNumeral_append hafter hends) (by omega)

theorem readItems_append : ∀ {items : List Reading} {cs : List Char}, IsElements items cs →
    ∀ (bound : Nat) (rest : List Char), 2 * cs.length + 1 ≤ bound →
      readItems bound (cs ++ ']' :: rest) = (items, some rest)
  | _, _, _, 0, _, hbound => by omega
  | _, _, .last h, bound + 1, rest, hbound => by
      obtain ⟨after, hitem, hafter⟩ :=
        readValue_element_append h bound (']' :: rest) (endsNumeral_cons rfl) (by omega)
      exact readItems_last hitem hafter
  | _, _, .more h hmore, bound + 1, rest, hbound => by
      simp only [List.length_append, List.length_cons] at hbound
      rw [List.append_assoc, List.cons_append]
      obtain ⟨after, hitem, hafter⟩ :=
        readValue_element_append h bound (',' :: _) (endsNumeral_cons rfl) (by omega)
      rw [readItems_more hitem hafter, readItems_append hmore bound rest (by omega)]

theorem readMembers_append : ∀ {members : List (Option String × Reading)} {cs : List Char},
    IsMembers members cs → ∀ (bound : Nat) (rest : List Char), 2 * cs.length + 1 ≤ bound →
      readMembers bound (cs ++ '\x7d' :: rest) = (members, some rest)
  | _, _, _, 0, _, hbound => by omega
  | _, _, .last hkey h, bound + 1, rest, hbound => by
      simp only [List.length_append, List.length_cons] at hbound
      rw [List.append_assoc, List.cons_append]
      obtain ⟨after, hitem, hafter⟩ :=
        readValue_element_append h bound ('\x7d' :: rest) (endsNumeral_cons rfl) (by omega)
      exact readMembers_last hkey hitem hafter
  | _, _, .more hkey h hmore, bound + 1, rest, hbound => by
      simp only [List.length_append, List.length_cons] at hbound
      rw [List.append_assoc, List.append_assoc, List.cons_append, List.cons_append]
      obtain ⟨after, hitem, hafter⟩ :=
        readValue_element_append h bound (',' :: _) (endsNumeral_cons rfl) (by omega)
      rw [readMembers_more hkey hitem hafter, readMembers_append hmore bound rest (by omega)]

end

/-! ## Only texts of the grammar are read -/

/-- A key that is read, with the blanks around it. -/
theorem exists_isKey_of_readString {string : List Char} (hskip : skipBlanks cs = '"' :: string)
    (hread : readString string = some (key, after)) (hcolon : skipBlanks after = ':' :: rest) :
    ∃ ks, IsKey key ks ∧ cs = ks ++ ':' :: rest := by
  obtain ⟨before, hbefore, rfl⟩ := exists_of_skipBlanks hskip
  obtain ⟨text, htext, rfl⟩ := exists_of_readString hread
  obtain ⟨blanks, hblanks, rfl⟩ := exists_of_skipBlanks hcolon
  exact ⟨before ++ '"' :: text ++ blanks, .mk hbefore htext hblanks, by simp⟩

/-- A value that is read, with the blanks around it. -/
theorem exists_isElement_of_isValue (h : ∃ text, IsValue r text ∧ skipBlanks cs = text ++ after)
    (hafter : skipBlanks after = rest) : ∃ text, IsElement r text ∧ cs = text ++ rest := by
  obtain ⟨text, hvalue, hskip⟩ := h
  obtain ⟨before, hbefore, rfl⟩ := exists_of_skipBlanks hskip
  obtain ⟨blanks, hblanks, rfl⟩ := exists_of_skipBlanks hafter
  exact ⟨before ++ text ++ blanks, .mk hbefore hvalue hblanks, by simp⟩

mutual

theorem exists_of_readValue : ∀ {bound : Nat} {cs rest : List Char} {r : Reading},
    readValue bound cs = (r, some rest) → ∃ text, IsValue r text ∧ skipBlanks cs = text ++ rest
  | 0, _, _, _, h => by cases h
  | bound + 1, cs, rest, r, h => by
      rw [readValue] at h
      split at h
      · cases h
        exact ⟨_, .null, ‹_›⟩
      · cases h
        exact ⟨_, .yes, ‹_›⟩
      · cases h
        exact ⟨_, .no, ‹_›⟩
      · rename_i string hskip
        split at h
        · rename_i hread
          cases h
          obtain ⟨text, htext, rfl⟩ := exists_of_readString hread
          exact ⟨_, .string htext, hskip⟩
        · cases h
      · rename_i items hskip
        split at h
        · rename_i hclose
          cases h
          obtain ⟨blanks, hblanks, rfl⟩ := exists_of_skipBlanks hclose
          exact ⟨_, .noElements hblanks, by simp [hskip]⟩
        · obtain ⟨rfl, hrest⟩ := Prod.mk.inj h
          rw [readItems_skipBlanks] at hrest ⊢
          obtain ⟨text, htext, rfl⟩ := exists_of_readItems (Prod.ext rfl hrest)
          exact ⟨_, .elements htext, by simp [hskip]⟩
      · rename_i members hskip
        split at h
        · rename_i hclose
          cases h
          obtain ⟨blanks, hblanks, rfl⟩ := exists_of_skipBlanks hclose
          exact ⟨_, .noMembers hblanks, by simp [hskip]⟩
        · obtain ⟨rfl, hrest⟩ := Prod.mk.inj h
          rw [readMembers_skipBlanks] at hrest ⊢
          obtain ⟨text, htext, rfl⟩ := exists_of_readMembers (Prod.ext rfl hrest)
          exact ⟨_, .members htext, by simp [hskip]⟩
      · split at h
        · rename_i hread
          cases h
          obtain ⟨text, htext, hskip⟩ := Numeral.exists_of_read? hread
          exact ⟨_, .number htext, hskip⟩
        · cases h

theorem exists_of_readItems : ∀ {bound : Nat} {cs rest : List Char} {items : List Reading},
    readItems bound cs = (items, some rest) →
      ∃ text, IsElements items text ∧ cs = text ++ ']' :: rest
  | 0, _, _, _, h => by cases h
  | bound + 1, cs, rest, items, h => by
      rw [readItems] at h
      split at h
      · cases h
      · rename_i hitem
        have hvalue := exists_of_readValue hitem
        split at h
        · rename_i hclose
          cases h
          obtain ⟨text, htext, rfl⟩ := exists_isElement_of_isValue hvalue hclose
          exact ⟨_, .last htext, rfl⟩
        · rename_i hcomma
          obtain ⟨text, htext, rfl⟩ := exists_isElement_of_isValue hvalue hcomma
          obtain ⟨rfl, hrest⟩ := Prod.mk.inj h
          obtain ⟨more, hmore, rfl⟩ := exists_of_readItems (Prod.ext rfl hrest)
          exact ⟨_, .more htext hmore, by simp⟩
        · cases h

theorem exists_of_readMembers : ∀ {bound : Nat} {cs rest : List Char}
    {members : List (Option String × Reading)}, readMembers bound cs = (members, some rest) →
      ∃ text, IsMembers members text ∧ cs = text ++ '\x7d' :: rest
  | 0, _, _, _, h => by cases h
  | bound + 1, cs, rest, members, h => by
      rw [readMembers] at h
      split at h
      · rename_i hskip
        split at h
        · cases h
        · rename_i hread
          split at h
          · rename_i hcolon
            obtain ⟨ks, hkey, rfl⟩ := exists_isKey_of_readString hskip hread hcolon
            split at h
            · cases h
            · rename_i hitem
              have hvalue := exists_of_readValue hitem
              split at h
              · rename_i hclose
                cases h
                obtain ⟨text, htext, rfl⟩ := exists_isElement_of_isValue hvalue hclose
                exact ⟨_, .last hkey htext, by simp⟩
              · rename_i hcomma
                obtain ⟨text, htext, rfl⟩ := exists_isElement_of_isValue hvalue hcomma
                obtain ⟨rfl, hrest⟩ := Prod.mk.inj h
                obtain ⟨more, hmore, rfl⟩ := exists_of_readMembers (Prod.ext rfl hrest)
                exact ⟨_, .more hkey htext hmore, by simp⟩
              · cases h
          · cases h
      · cases h

end

/-! ## Whole texts -/

/-- A text is read as one document if and only if it is JSON for its tree. -/
theorem read_eq_iff : read cs = ⟨r, true⟩ ↔ IsElement r cs := by
  constructor
  · intro h
    rw [read] at h
    split at h
    · rename_i hvalue
      obtain ⟨rfl, hends⟩ := Document.mk.inj h
      obtain ⟨text, htext, rfl⟩ := exists_isElement_of_isValue (exists_of_readValue hvalue)
        (List.isEmpty_iff.1 hends)
      rwa [List.append_nil]
    · cases h
  · intro h
    obtain ⟨after, hvalue, hafter⟩ :=
      readValue_element_append h (2 * cs.length + 2) [] endsNumeral_nil (by omega)
    rw [List.append_nil] at hvalue
    simp only [read, hvalue, hafter]
    rfl

variable {α : Type} {field : Reading → Except Refusal α} {text : String}

/-- What is made of a text that is JSON is what is made of its tree. -/
theorem decode_of_isElement (h : IsElement r text.toList) : decode field text = field r := by
  rw [decode, read_eq_iff.2 h]
  cases field r <;> rfl

/-- A text decodes if and only if it is JSON for a tree that fits. -/
theorem decode_eq_ok_iff {a : α} :
    decode field text = .ok a ↔ ∃ r, IsElement r text.toList ∧ field r = .ok a := by
  constructor
  · intro h
    rw [decode] at h
    split at h
    · cases h
    · rename_i hfield
      split at h
      · rename_i hends
        obtain rfl := Except.ok.inj h
        have hread : read text.toList = ⟨(read text.toList).value, true⟩ :=
          congrArg (Document.mk _) hends
        exact ⟨_, read_eq_iff.1 hread, hfield⟩
      · cases h
  · rintro ⟨r, hr, hfield⟩
    rw [decode_of_isElement hr, hfield]

end TronWallet.Json
