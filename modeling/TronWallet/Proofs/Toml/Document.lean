import TronWallet.Proofs.Toml.Entries
import TronWallet.Proofs.Toml.Scalars

/-!
# TOML documents read back

A document written as sections is read as the table of these sections, provided that no
name occurs twice and that the value of each entry reads back (`parse?_writeSections`).
Reading goes line by line: `Lines cs statements` says that any sufficient bound makes the
text `cs` these statements, which is what the induction over the written lines carries.
-/

namespace TronWallet.Toml

/-! ## Keys -/

/-- May a written line begin with the character? -/
def isLineStart (c : Char) : Bool :=
  c = '[' || isKeyStart c

theorem not_mem_of_isLineStart {c : Char} (h : isLineStart c = true) :
    c ∉ [' ', '\t', '#', '\n', '\r'] := by
  intro hmem
  have hall : [' ', '\t', '#', '\n', '\r'].all (fun c => isLineStart c = false) = true := by
    decide
  rw [of_decide_eq_true (List.all_eq_true.1 hall c hmem)] at h
  cases h

theorem isBlank_of_isLineStart {c : Char} (h : isLineStart c = true) : isBlank c = false := by
  have hne := not_mem_of_isLineStart h
  simp only [List.mem_cons, not_or] at hne
  simp [isBlank, hne]

theorem skipBlanks_writeKey_append (cs rest : List Char) :
    skipBlanks (writeKey cs ++ rest) = writeKey cs ++ rest := by
  obtain ⟨c, ds, heq, hc⟩ := exists_writeKey_eq_cons cs
  have hstart : isLineStart c = true := by simp [isLineStart, hc]
  simp [skipBlanks, heq, isBlank_of_isLineStart hstart]

theorem writeKey_append_ne_cons (cs rest tail : List Char) : writeKey cs ++ rest ≠ '[' :: tail := by
  intro heq
  obtain ⟨c, ds, hcons, hc⟩ := exists_writeKey_eq_cons cs
  rw [hcons] at heq
  rw [(List.cons.inj heq).1] at hc
  cases hc

/-- A written key is one part, which is followed by no point. -/
theorem readKey_writeKey (cs rest : List Char) {after : List Char} {c : Char}
    (hrest : ∀ c ∈ rest.head?, isBareChar c = false) (hafter : skipBlanks rest = c :: after)
    (hc : c ≠ '.') :
    readKey (writeKey cs ++ rest) = some ([], String.ofList cs, c :: after) := by
  have hparts : readParts (nestingLimit - 1) (writeKey cs ++ rest) =
      some ([String.ofList cs], c :: after) := by
    rw [show nestingLimit - 1 = 78 + 1 from rfl, readParts, skipBlanks_writeKey_append,
      readKeyPart_writeKey cs hrest]
    simp [hafter, hc]
  rw [readKey, hparts]
  rfl

/-! ## Lines -/

/-- The text is read as these statements. -/
def Lines (cs : List Char) (statements : List Statement) : Prop :=
  ∀ bound, cs.length < bound → readLines bound cs = some statements

theorem lines_nil : Lines [] [] := by
  intro bound hbound
  obtain ⟨n, rfl⟩ := Nat.exists_eq_add_of_lt hbound
  rfl

/-- An empty line says nothing. -/
theorem Lines.break {cs : List Char} {statements : List Statement} (h : Lines cs statements) :
    Lines ('\n' :: cs) statements := by
  intro bound hbound
  obtain ⟨n, rfl⟩ : ∃ n, bound = n + 1 := ⟨bound - 1, by omega⟩
  rw [List.length_cons] at hbound
  have hskip : skipBlanks ('\n' :: cs) = '\n' :: cs := rfl
  rw [readLines, hskip]
  simpa [lineBreak?] using h n (by omega)

/-- A line that is read as a statement comes before those of the rest. -/
theorem Lines.cons {line rest : List Char} {statement : Statement} {statements : List Statement}
    (hstart : ∀ c ∈ line.head?, isLineStart c = true) (hne : line ≠ [])
    (hread : readStatement (line ++ rest) = some (statement, rest)) (h : Lines rest statements) :
    Lines (line ++ rest) (statement :: statements) := by
  intro bound hbound
  obtain ⟨n, rfl⟩ : ∃ n, bound = n + 1 := ⟨bound - 1, by omega⟩
  obtain ⟨c, cs, rfl⟩ := List.exists_cons_of_ne_nil hne
  have hc : isLineStart c = true := hstart c rfl
  have hrest : readLines n rest = some statements := by
    apply h
    simp only [List.cons_append, List.length_cons, List.length_append] at hbound
    omega
  have hne := not_mem_of_isLineStart hc
  simp only [List.mem_cons, not_or] at hne
  have hskip : skipBlanks (c :: (cs ++ rest)) = c :: (cs ++ rest) := by
    simp [skipBlanks, isBlank_of_isLineStart hc]
  have hbreak : lineBreak? (c :: (cs ++ rest)) = none :=
    lineBreak?_cons (by simp [hne]) (by simp [hne]) _
  rw [List.cons_append] at hread ⊢
  rw [readLines, hskip]
  simp [hbreak, hread, hrest, hne]

/-! ## Sections -/

/-- The table of a section. -/
def Section.table (s : Section) : Table :=
  s.entries.map fun e => (e.1, e.2.value)

/-- What the entries of a section bind. -/
def Section.bindings (s : Section) : List (Binding Value) :=
  s.entries.map fun e => ⟨[], e.1, e.2.value⟩

/-- What the lines of a section say. -/
def Section.statements (s : Section) : List Statement :=
  .table [] s.name :: s.bindings.map .binding

/-- No key occurs twice, and the value of each entry reads back. -/
structure Section.WellFormed (s : Section) : Prop where
  nodup : (s.entries.map Prod.fst).Nodup
  readsBack : ∀ e ∈ s.entries, e.2.ReadsBack

theorem readStatement_header (name : String) (rest : List Char) :
    readStatement ('[' :: writeKey name.toList ++ [']', '\n'] ++ rest) =
      some (.table [] name, rest) := by
  have hkey : readKey (writeKey name.toList ++ ']' :: '\n' :: rest) =
      some ([], name, ']' :: '\n' :: rest) := by
    have h := readKey_writeKey name.toList (']' :: '\n' :: rest) (by simp; rfl) rfl
      (by decide)
    rwa [String.ofList_toList] at h
  have hend : readLineEnd ('\n' :: rest) = some rest := rfl
  rw [List.append_assoc, List.cons_append, List.cons_append, List.cons_append, List.nil_append,
    readStatement]
  · simp [hkey, expect, hend]
  · exact writeKey_append_ne_cons _ _

theorem readStatement_entry {e : String × Scalar} (he : e.2.ReadsBack) (rest : List Char) :
    readStatement (entryLine e ++ rest) = some (.binding ⟨[], e.1, e.2.value⟩, rest) := by
  have hline : entryLine e ++ rest =
      writeKey e.1.toList ++ ' ' :: '=' :: ' ' :: (e.2.write ++ '\n' :: rest) := by
    simp [entryLine]
  have hkey : readKey (writeKey e.1.toList ++ ' ' :: '=' :: ' ' :: (e.2.write ++ '\n' :: rest)) =
      some ([], e.1, '=' :: ' ' :: (e.2.write ++ '\n' :: rest)) := by
    have h := readKey_writeKey e.1.toList
      (' ' :: '=' :: ' ' :: (e.2.write ++ '\n' :: rest)) (by simp; rfl) rfl (by decide)
    rwa [String.ofList_toList] at h
  have hskip : skipBlanks (' ' :: (e.2.write ++ '\n' :: rest)) =
      skipBlanks (e.2.write ++ '\n' :: rest) := rfl
  have hend : readLineEnd ('\n' :: rest) = some rest := rfl
  rw [hline, readStatement]
  · simp [hkey, expect, hskip, he _ _ rest, hend]
  · intro tail
    exact writeKey_append_ne_cons _ _ _
  · exact writeKey_append_ne_cons _ _

theorem lines_entries {es : List (String × Scalar)} (hes : ∀ e ∈ es, e.2.ReadsBack)
    {rest : List Char} {statements : List Statement} (h : Lines rest statements) :
    Lines (es.flatMap entryLine ++ rest)
      (es.map (fun e => .binding ⟨[], e.1, e.2.value⟩) ++ statements) := by
  induction es with
  | nil => exact h
  | cons e es ih =>
      obtain ⟨he, hes⟩ := List.forall_mem_cons.1 hes
      obtain ⟨c, ds, hcons, hc⟩ := exists_writeKey_eq_cons e.1.toList
      have hline : ∃ ds, entryLine e = c :: ds := by
        simp [entryLine, hcons]
      obtain ⟨ds, hline⟩ := hline
      rw [List.flatMap_cons, List.append_assoc, List.map_cons, List.cons_append]
      refine Lines.cons ?_ (by simp [hline]) (readStatement_entry he _) (ih hes)
      simp [hline, isLineStart, hc]

theorem lines_section {s : Section} (hs : s.WellFormed) {rest : List Char}
    {statements : List Statement} (h : Lines rest statements) :
    Lines (s.write ++ rest) (s.statements ++ statements) := by
  rw [Section.write, List.append_assoc, Section.statements, List.cons_append, Section.bindings,
    List.map_map]
  refine Lines.cons ?_ (by simp) (readStatement_header s.name _) (lines_entries hs.readsBack h)
  simp [isLineStart]

/-- The lines of written sections say what the sections hold. -/
theorem lines_writeSections {ss : List Section} (hss : ∀ s ∈ ss, s.WellFormed) :
    Lines (writeSections ss) (ss.flatMap Section.statements) := by
  induction ss with
  | nil => exact lines_nil
  | cons s ss ih =>
      obtain ⟨hs, hss⟩ := List.forall_mem_cons.1 hss
      cases ss with
      | nil =>
          have h := lines_section hs lines_nil
          rw [List.append_nil] at h
          exact h
      | cons t ss => exact lines_section hs (ih hss).break

theorem head?_writeSections (ss : List Section) : (writeSections ss).head? ≠ some '\ufeff' := by
  have hhead : ∀ s : Section, s.write.head? = some '[' := fun _ => rfl
  match ss with
  | [] => simp [writeSections]
  | [s] => simp [writeSections, hhead]
  | s :: t :: rest => simp [writeSections, hhead]

theorem readStatements_writeSections {ss : List Section} (hss : ∀ s ∈ ss, s.WellFormed) :
    readStatements (writeSections ss) = some (ss.flatMap Section.statements) := by
  rw [readStatements]
  · exact lines_writeSections hss _ (by omega)
  · intro rest heq
    apply head?_writeSections ss
    rw [heq]
    rfl

/-! ## The table of a document -/

theorem takeBindings_statements (bs : List (Binding Value)) (ss : List Section) :
    takeBindings (bs.map .binding ++ ss.flatMap Section.statements) =
      (bs, ss.flatMap Section.statements) := by
  induction bs with
  | nil => cases ss <;> rfl
  | cons b bs ih => simp [takeBindings, ih]

theorem carryOut_bindings (bs : List (Binding Value)) (rest : List Statement) (es : Entries) :
    carryOut (bs.map .binding ++ rest) es = carryOut rest es := by
  induction bs with
  | nil => rfl
  | cons b bs ih => rw [List.map_cons, List.cons_append, carryOut, ih]

/-- New keys are defined in their order, after those that are there. -/
theorem fill_bindings (entries : List (String × Scalar)) (es : Entries)
    (h : (es.map Prod.fst ++ entries.map Prod.fst).Nodup) :
    fill (entries.map fun e => ⟨[], e.1, e.2.value⟩) es =
      some (es ++ entries.map fun e => (e.1, .value e.2.value)) := by
  induction entries generalizing es with
  | nil => simp [fill]
  | cons e entries ih =>
      have hnew : e.1 ∉ es.map Prod.fst := by
        intro hmem
        exact (List.nodup_append.1 h).2.2 _ hmem _ (by simp) rfl
      have hdefine : Entries.define e.2.value e.1 [] es =
          some (es ++ [(e.1, .value e.2.value)]) := by
        simp [Entries.define, Entries.get?_eq_none_iff.2 hnew, Entries.push]
      have hrest := ih (es ++ [(e.1, .value e.2.value)]) (by simpa using h)
      rw [fill] at hrest ⊢
      rw [List.map_cons, List.foldlM_cons, hdefine]
      simpa using hrest

/-- The section as an entry of a table under construction. -/
def Section.node (s : Section) : String × Node :=
  (s.name, .table .header (s.entries.map fun e => (e.1, .value e.2.value)))

theorem carryOut_section {s : Section} (hs : s.WellFormed) {es : Entries}
    (hnew : s.name ∉ es.map Prod.fst) (ss : List Section) :
    carryOut (s.statements ++ ss.flatMap Section.statements) es =
      carryOut (ss.flatMap Section.statements) (es ++ [s.node]) := by
  have hfill : fill s.bindings [] = some (s.entries.map fun e => (e.1, .value e.2.value)) :=
    fill_bindings s.entries [] (by simpa using hs.nodup)
  have hdefine : Entries.defineTable (fill s.bindings) s.name es = some (es ++ [s.node]) := by
    simp [Entries.defineTable, Entries.get?_eq_none_iff.2 hnew, hfill, Entries.push, Section.node]
  rw [Section.statements, List.cons_append, carryOut, takeBindings_statements, Entries.descend,
    hdefine]
  exact carryOut_bindings s.bindings _ _

/-- Sections with new names are added in their order. -/
theorem carryOut_sections {ss : List Section} (hss : ∀ s ∈ ss, s.WellFormed) (es : Entries)
    (h : (es.map Prod.fst ++ ss.map Section.name).Nodup) :
    carryOut (ss.flatMap Section.statements) es = some (es ++ ss.map Section.node) := by
  induction ss generalizing es with
  | nil => simp [carryOut]
  | cons s ss ih =>
      obtain ⟨hs, hss⟩ := List.forall_mem_cons.1 hss
      have hnew : s.name ∉ es.map Prod.fst := by
        intro hmem
        exact (List.nodup_append.1 h).2.2 _ hmem _ (by simp) rfl
      rw [List.flatMap_cons, carryOut_section hs hnew, ih hss (es ++ [s.node])
        (by simpa [Section.node] using h)]
      simp

theorem toTable_values (entries : List (String × Scalar)) :
    Node.toTable (entries.map fun e => (e.1, .value e.2.value)) =
      entries.map fun e => (e.1, e.2.value) := by
  induction entries with
  | nil => rw [List.map_nil, Node.toTable, List.map_nil]
  | cons e entries ih => rw [List.map_cons, Node.toTable, ih, Node.toValue, List.map_cons]

theorem toTable_nodes (ss : List Section) :
    Node.toTable (ss.map Section.node) = ss.map fun s => (s.name, .table s.table) := by
  induction ss with
  | nil => rw [List.map_nil, Node.toTable, List.map_nil]
  | cons s ss ih =>
      rw [List.map_cons, Section.node, Node.toTable, ih, Node.toValue, toTable_values,
        List.map_cons, Section.table]

/-- A document written as sections is read as their tables, under their names and in their
order. -/
theorem parse?_writeSections {ss : List Section} (hnames : (ss.map Section.name).Nodup)
    (hss : ∀ s ∈ ss, s.WellFormed) :
    parse? (String.ofList (writeSections ss)) =
      some (ss.map fun s => (s.name, .table s.table)) := by
  have htake := takeBindings_statements [] ss
  have hcarry := carryOut_sections hss [] (by simpa using hnames)
  rw [List.map_nil, List.nil_append] at htake
  rw [List.nil_append] at hcarry
  rw [parse?, String.toList_ofList, readStatements_writeSections hss, Option.bind_some, tableOf?,
    htake]
  simp [fill, hcarry, toTable_nodes]

end TronWallet.Toml
