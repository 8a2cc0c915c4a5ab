import TronWallet.Proofs.Documentation.Tree
import TronWallet.Proofs.Files.Receiving
import TronWallet.Proofs.Text.Cutting

/-!
# The documentation is complete

Writing pages with different names into a directory that receives them leaves each page in its
file and everything else as it is (`writePages_of_receives`), and nothing but the directory can
stop it (`receives_of_writePages`). Each line of a page's list of links holds the name of a file
in parentheses: first that of the parent's page, then those of the children's (`seeAlso_eq`). So
the documentation of a tree has one page for each documented command, and no link leads out of it
(`generate_complete`).
-/

namespace TronWallet.Documentation

open CommandLine (Command helpWord)
open Files (Disk Location IsName)

/-! ## Writing pages -/

section Writing

variable {disk after : Disk} {working reached : Location} {directory : String}
  {all : List (String × String)}

theorem writePages_of_receives (hnames : ∀ page ∈ all, IsName page.1 ∧ page.1 ≠ "..")
    (hdistinct : (all.map Prod.fst).Nodup)
    (h : disk.Receives working directory reached (all.map Prod.fst)) :
    ∃ after, writePages working directory all disk = (after, none) ∧
      (∀ page ∈ all, after.entry (reached ++ [page.1]) = some (.file (.text page.2))) ∧
      ∀ l, (∀ page ∈ all, l ≠ reached ++ [page.1]) → after.entry l = disk.entry l := by
  induction all generalizing disk with
  | nil => exact ⟨disk, rfl, List.forall_mem_nil _, fun l _ => rfl⟩
  | cons page rest ih =>
      obtain ⟨name, text⟩ := page
      obtain ⟨hname, hrest⟩ := List.forall_mem_cons.1 hnames
      obtain ⟨htakes, hrests⟩ := List.forall_mem_cons.1 h.takes
      rw [List.map_cons, List.nodup_cons] at hdistinct
      have hwrite := (Disk.write_join_eq_ok_iff text hname.1 hname.2).2
        ⟨reached, ⟨h.leads, h.isDirectory, List.forall_mem_singleton.2 htakes⟩, rfl⟩
      obtain ⟨after, hafter, hpages, hframe⟩ := ih hrest hdistinct.2
        ((Disk.receives_set_iff htakes.free).2 ⟨h.leads, h.isDirectory, hrests⟩)
      have hnew : ∀ page ∈ rest, reached ++ [name] ≠ reached ++ [page.1] := by
        intro page hpage heq
        have hname : name = page.1 := by simpa using heq
        exact hdistinct.1 (List.mem_map.2 ⟨page, hpage, hname.symm⟩)
      refine ⟨after, by simpa only [writePages, hwrite] using hafter, ?_, ?_⟩
      · rw [List.forall_mem_cons]
        refine ⟨?_, hpages⟩
        rw [hframe _ hnew, Disk.entry_set_self]
      · intro l hl
        rw [List.forall_mem_cons] at hl
        rw [hframe l hl.2, Disk.entry_set_of_ne _ _ hl.1]

/-- Only what the directory does not receive is not written. -/
theorem receives_of_writePages (hne : all ≠ [])
    (hnames : ∀ page ∈ all, IsName page.1 ∧ page.1 ≠ "..")
    (h : writePages working directory all disk = (after, none)) :
    ∃ reached, disk.Receives working directory reached (all.map Prod.fst) := by
  induction all generalizing disk with
  | nil => exact absurd rfl hne
  | cons page rest ih =>
      obtain ⟨name, text⟩ := page
      obtain ⟨hname, hrest⟩ := List.forall_mem_cons.1 hnames
      rw [writePages] at h
      split at h
      · rename_i disk' hwrite
        obtain ⟨reached, hfirst, rfl⟩ := (Disk.write_join_eq_ok_iff _ hname.1 hname.2).1 hwrite
        have htakes := hfirst.takes name (List.mem_singleton_self name)
        refine ⟨reached, hfirst.leads, hfirst.isDirectory, List.forall_mem_cons.2 ⟨htakes, ?_⟩⟩
        by_cases hnil : rest = []
        · simp [hnil]
        · obtain ⟨reached', hothers⟩ := ih hnil hrest h
          have hothers := (Disk.receives_set_iff htakes.free).1 hothers
          obtain rfl : reached = reached' :=
            Except.ok.inj (hfirst.leads.symm.trans hothers.leads)
          exact hothers.takes
      · cases h

end Writing

theorem generate_eq_ok_iff {root : Command} {verbosity : Option String} {working : Location}
    {directory : String} {disk after : Disk} {written : List String} :
    generate root verbosity working directory disk = (after, .ok written) ↔
      (disk.makeDirectories directoryMode working directory).2 = .ok () ∧
        writePages working directory (pages verbosity [] root)
          (disk.makeDirectories directoryMode working directory).1 = (after, none) ∧
        written = (pages verbosity [] root).map Prod.fst := by
  rw [generate]
  cases disk.makeDirectories directoryMode working directory with
  | mk made result =>
      cases result with
      | error cause => simp
      | ok _ =>
          dsimp only
          cases writePages working directory (pages verbosity [] root) made with
          | mk disk' fault =>
              cases fault with
              | none => simp [eq_comm]
              | some fault => simp

/-! ## Links -/

/-- A line that links to a page: what is shown, the file of the page, and what is said of it. -/
structure Link where
  label : String
  file : String
  note : String

/-- The text of a link, without the end of its line. -/
def Link.line (l : Link) : String :=
  "* [" ++ l.label ++ "](" ++ l.file ++ ")" ++ l.note

/-- The links of a page under their title; nothing if there are none. -/
def linkSection (lines : List String) : String :=
  if lines.isEmpty then "" else "### SEE ALSO\n\n" ++ String.join (lines.map (· ++ "\n"))

/-- A link to the page of a command. -/
def Descent.link (note : Descent → String) (o : Descent) : Link :=
  ⟨" ".intercalate o.words, o.file, note o⟩

/-- The links of a command's page: to the page of its parent, and to those of its children with
what they are about. -/
def Descent.links (o : Descent) : List Link :=
  o.parent?.toList.map (Descent.link fun _ => "") ++
    o.children.map (Descent.link fun d => "\t - " ++ d.command.description.about)

theorem Descent.line_link (note : Descent → String) (o : Descent) :
    (o.link note).line = Documentation.link o.words ++ note o := rfl

theorem seeAlso_eq (o : Descent) : seeAlso o.command o.words = o.links.map Link.line := by
  have hparent : (if o.words.length ≤ 1 then [] else [link o.words.dropLast]) =
      (o.parent?.toList.map (Descent.link fun _ => "")).map Link.line := by
    have hwords : o.words.dropLast = o.above.map Command.name := by
      simp [Descent.words, Descent.path]
    have hlength : o.words.length = o.above.length + 1 := by
      simp [Descent.words, Descent.path]
    cases hparent : o.parent? with
    | none =>
        have hnil : o.above = [] := by simpa [Descent.parent?] using hparent
        rw [if_pos (by simp [hlength, hnil])]
        rfl
    | some p =>
        have habove := Descent.path_of_parent? hparent
        rw [if_neg (by simp [hlength, habove, Descent.path]), hwords, habove]
        simp only [Option.toList_some, List.map_singleton, Descent.line_link, String.append_empty]
        rfl
  have hchildren : (pageChildren o.command).map (fun d =>
      link (o.words ++ [d.name]) ++ "\t - " ++ d.description.about) =
        (o.children.map (Descent.link fun d => "\t - " ++ d.command.description.about)).map
          Link.line := by
    rw [Descent.children, List.map_map, List.map_map]
    refine List.map_congr_left fun d _ => ?_
    have hwords : Descent.words ⟨o.path, d⟩ = o.words ++ [d.name] := by
      simp [Descent.words, Descent.path]
    simp only [Function.comp_apply, Descent.line_link, hwords, String.append_assoc]
  rw [seeAlso, hparent, hchildren, Descent.links, List.map_append]

theorem map_file_links (o : Descent) :
    o.links.map Link.file = (o.parent?.toList ++ o.children).map Descent.file := by
  have hfile : ∀ note, Link.file ∘ Descent.link note = Descent.file := fun _ => rfl
  rw [Descent.links, List.map_append, List.map_map, List.map_map, hfile, hfile, List.map_append]

/-- The file of a link, as it is read off its line: what stands in parentheses after brackets. -/
def target? (line : String) : Option String :=
  match line.toList.dropWhile (· ≠ ']') with
  | ']' :: '(' :: rest => some (String.ofList (rest.takeWhile (· ≠ ')')))
  | _ => none

theorem Link.target?_line {l : Link} (hlabel : ']' ∉ l.label.toList) (hfile : ')' ∉ l.file.toList) :
    target? l.line = some l.file := by
  have hline : l.line.toList = '*' :: ' ' :: '[' :: l.label.toList ++
      ']' :: '(' :: (l.file.toList ++ ')' :: l.note.toList) := by
    simp [line]
  have hall : ∀ {mark : Char} {text : List Char}, mark ∉ text →
      ∀ c ∈ text, decide (c ≠ mark) = true :=
    fun hmark c hc => decide_eq_true fun heq => hmark (heq ▸ hc)
  have hlabel : ']' ∉ '*' :: ' ' :: '[' :: l.label.toList := by simpa using hlabel
  rw [target?, hline, List.dropWhile_append_of_pos (hall hlabel),
    List.dropWhile_cons_of_neg (by simp)]
  simp only [List.takeWhile_append_of_pos (hall hfile)]
  simp

/-! ## The whole documentation -/

variable {root : Command} {o : Descent}

/-- No word of the tree holds a bracket that ends a part of a link. -/
def Unbracketed (root : Command) : Prop :=
  ∀ o ∈ descents root, ∀ word ∈ o.words, ']' ∉ word.toList ∧ ')' ∉ word.toList

theorem map_target?_links (h : Unbracketed root) (ho : o ∈ documented root) :
    (o.links.map Link.line).map target? = o.links.map (some ·.file) := by
  have hlink : ∀ note, ∀ q ∈ documented root,
      target? (Descent.link note q).line = some (Descent.link note q).file := by
    intro note q hq
    have hwords := h q (mem_documented_iff.1 hq).1
    refine Link.target?_line ?_ ?_
    · have hlabel : (Descent.link note q).label.toList =
          List.intercalate [' '] (q.words.map String.toList) := by
        simp [Descent.link]
      rw [hlabel]
      exact not_mem_intercalate (by decide) fun word hword => (hwords word hword).1
    · have hfile : (Descent.link note q).file.toList =
          List.intercalate ['_'] (q.words.map String.toList) ++ ".md".toList :=
        toList_fileName q.words
      rw [hfile, List.mem_append, not_or]
      exact ⟨not_mem_intercalate (by decide) fun word hword => (hwords word hword).2, by decide⟩
  rw [List.map_map]
  refine List.map_congr_left fun l hl => ?_
  rw [Descent.links, List.mem_append, List.mem_map, List.mem_map] at hl
  rcases hl with ⟨q, hq, rfl⟩ | ⟨q, hq, rfl⟩
  · exact hlink _ q (parent_mem_documented ho (Option.mem_toList.1 hq))
  · exact hlink _ q ((mem_children_iff ho).1 hq).1

/-- What the links of a page are in the documentation of a tree. -/
structure Linked (root : Command) (o : Descent) : Prop where
  /-- The text of the page ends in its links, one in a line. -/
  text : ∀ verbosity, ∃ opening,
    page o.command o.words verbosity = opening ++ linkSection (o.links.map Link.line)
  /-- They are to the parent and to the children in their order. -/
  files : o.links.map Link.file = (o.parent?.toList ++ o.children).map Descent.file
  /-- Every page but the root's has a parent, to whose command its own belongs. -/
  parentless : o.parent? = none ↔ o = ⟨[], root⟩
  parent : ∀ p, o.parent? = some p → p ∈ documented root ∧ o.above = p.path
  /-- The children are all documented commands that belong to the page's command. -/
  children : ∀ q, q ∈ o.children ↔ q ∈ documented root ∧ q.above = o.path
  /-- No link is to a file that is not a page. -/
  closed : ∀ l ∈ o.links, l.file ∈ (documented root).map Descent.file
  /-- The files can be read off the lines of the links. -/
  targets : Unbracketed root →
    (o.links.map Link.line).map target? = o.links.map (some ·.file)

theorem linked (ho : o ∈ documented root) : Linked root o where
  text verbosity := ⟨_, by rw [page, seeAlso_eq]; rfl⟩
  files := map_file_links o
  parentless := parent?_eq_none_iff ho
  parent _ hp := ⟨parent_mem_documented ho hp, Descent.path_of_parent? hp⟩
  children _ := mem_children_iff ho
  closed l hl := by
    have hfile := List.mem_map_of_mem (f := Link.file) hl
    rw [map_file_links, List.mem_map] at hfile
    obtain ⟨q, hq, heq⟩ := hfile
    refine List.mem_map.2 ⟨q, ?_, heq⟩
    rcases List.mem_append.1 hq with hq | hq
    · exact parent_mem_documented ho (Option.mem_toList.1 hq)
    · exact ((mem_children_iff ho).1 hq).1
  targets h := map_target?_links h ho

/-! ### What is written -/

theorem map_fst_pages_eq (verbosity : Option String) (root : Command) :
    (pages verbosity [] root).map Prod.fst = (documented root).map Descent.file := by
  rw [pages_eq, List.map_map]
  rfl

theorem pages_ne_nil (verbosity : Option String) (root : Command) : pages verbosity [] root ≠ [] := by
  cases root
  simp [pages]

theorem isName_of_mem_pages (h : WellNamed root) (verbosity : Option String) :
    ∀ page ∈ pages verbosity [] root, IsName page.1 ∧ page.1 ≠ ".." := by
  rw [pages_eq, List.forall_mem_map]
  exact fun o => isName_file h

/-- A directory that receives the files of a tree gets the pages of the tree and nothing else. -/
theorem writePages_pages (h : WellNamed root) (verbosity : Option String) {disk : Disk}
    {working reached : Location} {directory : String}
    (hreceives : disk.Receives working directory reached ((documented root).map Descent.file)) :
    ∃ after, writePages working directory (pages verbosity [] root) disk = (after, none) ∧
      (∀ o ∈ documented root, after.entry (reached ++ [o.file]) =
        some (.file (.text (page o.command o.words verbosity)))) ∧
      ∀ l, (∀ o ∈ documented root, l ≠ reached ++ [o.file]) → after.entry l = disk.entry l := by
  rw [← map_fst_pages_eq verbosity] at hreceives
  have hdistinct : ((pages verbosity [] root).map Prod.fst).Nodup := by
    rw [map_fst_pages_eq]
    exact nodup_map_file h
  obtain ⟨after, hwrite, hpages, hframe⟩ :=
    writePages_of_receives (isName_of_mem_pages h verbosity) hdistinct hreceives
  rw [pages_eq, List.forall_mem_map] at hpages
  simp only [pages_eq, List.forall_mem_map] at hframe
  exact ⟨after, hwrite, hpages, hframe⟩

/-- The documentation of a tree whose words are apart has one page for each command that is not a
`help` below the root or below such a one, in pre-order and each in a file of its own. It can be
written exactly into the directories that receive these files, and then leaves each page in its
file and nothing else. The links of a page are to the pages of its parent and its children, so
that none leads to a file that is not there. -/
theorem generate_complete {root : Command} (h : WellNamed root) :
    ((documented root).map Descent.file).Nodup ∧ (∀ o ∈ documented root, Linked root o) ∧
      ∀ verbosity working directory disk,
        let made := disk.makeDirectories directoryMode working directory
        let files := (documented root).map Descent.file
        ((∃ after written,
            generate root verbosity working directory disk = (after, .ok written)) ↔
          made.2 = .ok () ∧ ∃ reached, made.1.Receives working directory reached files) ∧
        ∀ after written, generate root verbosity working directory disk = (after, .ok written) →
          written = files ∧ ∃ reached, made.1.Leads working directory reached ∧
            (∀ o ∈ documented root, after.entry (reached ++ [o.file]) =
              some (.file (.text (page o.command o.words verbosity)))) ∧
            ∀ l, (∀ o ∈ documented root, l ≠ reached ++ [o.file]) →
              after.entry l = made.1.entry l := by
  refine ⟨nodup_map_file h, fun o => linked, fun verbosity working directory disk => ?_⟩
  intro made files
  have hreceived : ∀ {after},
      writePages working directory (pages verbosity [] root) made.1 = (after, none) →
        ∃ reached, made.1.Receives working directory reached files := by
    intro after hwrite
    rw [show files = (pages verbosity [] root).map Prod.fst from (map_fst_pages_eq _ _).symm]
    exact receives_of_writePages (pages_ne_nil verbosity root) (isName_of_mem_pages h verbosity)
      hwrite
  simp only [generate_eq_ok_iff]
  refine ⟨⟨?_, ?_⟩, ?_⟩
  · rintro ⟨after, written, hmade, hwrite, -⟩
    exact ⟨hmade, hreceived hwrite⟩
  · rintro ⟨hmade, reached, hreceives⟩
    obtain ⟨after, hwrite, -⟩ := writePages_pages h verbosity hreceives
    exact ⟨after, _, hmade, hwrite, rfl⟩
  · rintro after written ⟨-, hwrite, rfl⟩
    obtain ⟨reached, hreceives⟩ := hreceived hwrite
    obtain ⟨after', hwrite', hpages, hframe⟩ := writePages_pages h verbosity hreceives
    obtain rfl : after = after' := congrArg Prod.fst (hwrite.symm.trans hwrite')
    exact ⟨map_fst_pages_eq verbosity root, reached, hreceives.leads, hpages, hframe⟩

/-- The files of the program's documentation. -/
def programFiles : List String :=
  ["tronctl.md", "tronctl_docs.md", "tronctl_accounts.md", "tronctl_accounts_add.md",
    "tronctl_accounts_remove.md", "tronctl_accounts_list.md", "tronctl_accounts_import.md",
    "tronctl_address.md", "tronctl_address_resolve.md", "tronctl_node.md",
    "tronctl_node_status.md", "tronctl_transfer.md"]

/-- The documentation of the program, in a directory that has to be made. -/
theorem generate_complete_program :
    WellNamed CommandLine.program ∧
      ∃ after, generate CommandLine.program none [] "/state/docs" Disk.empty =
          (after, .ok programFiles) ∧
        ∀ o ∈ documented CommandLine.program, after.entry ["state", "docs", o.file] =
          some (.file (.text (page o.command o.words none))) := by
  have hnamed : WellNamed CommandLine.program := by decide +kernel
  have hfiles : (documented CommandLine.program).map Descent.file = programFiles := by
    decide +kernel
  let made := Disk.empty.makeDirectories directoryMode [] "/state/docs"
  have hleads : made.1.Leads [] "/state/docs" ["state", "docs"] := by decide +kernel
  have htakes : ∀ name ∈ programFiles, '\x00' ∉ (Files.join "/state/docs" name).toList ∧
      Text.byteLength (Files.join "/state/docs" name).toList ≤ Disk.pathLimit ∧
      Text.byteLength name.toList ≤ Disk.nameLimit ∧
      made.1.isDirectory (["state", "docs"] ++ [name]) = false := by
    decide +kernel
  have hreceives : made.1.Receives [] "/state/docs" ["state", "docs"] programFiles := by
    refine ⟨hleads, by decide +kernel, fun name hname => ?_⟩
    obtain ⟨noNul, path, length, free⟩ := htakes name hname
    exact ⟨noNul, path, length, free⟩
  obtain ⟨hsuccess, hwritten⟩ :=
    (generate_complete hnamed).2.2 none [] "/state/docs" Disk.empty
  rw [hfiles] at hsuccess hwritten
  obtain ⟨after, written, hgenerate⟩ := hsuccess.2 ⟨by decide +kernel, _, hreceives⟩
  obtain ⟨rfl, reached, hreached, hpages, -⟩ := hwritten after written hgenerate
  obtain rfl : reached = ["state", "docs"] := Except.ok.inj (hreached.symm.trans hleads)
  exact ⟨hnamed, after, hgenerate, hpages⟩

end TronWallet.Documentation
