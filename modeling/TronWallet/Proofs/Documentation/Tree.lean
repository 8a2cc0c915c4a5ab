import Mathlib.Data.List.Chain
import Mathlib.Data.List.Nodup
import TronWallet.Documentation
import TronWallet.Proofs.Files.Joining

/-!
# The commands of a tree and their pages

`descents` lists the commands of a tree, a command before its subcommands, each with the commands
above it; they are the ways down from the root (`mem_descents_iff`). The pages of a tree are those
of its descents that do not pass through a `help` below the root (`pages_eq`). If no word holds an
underscore and no two subcommands of a command have the same word, the words of a command can be
read off the name of its file, so that no two pages have the same file (`nodup_map_file`).
-/

namespace TronWallet.Documentation

open CommandLine (Command helpWord)

/-- A command of a tree with the commands above it, the root first. -/
structure Descent where
  above : List Command
  command : Command

namespace Descent

/-- The commands from the root to the command itself. -/
def path (o : Descent) : List Command := o.above ++ [o.command]

/-- The words by which the command is called. -/
def words (o : Descent) : List String := o.path.map Command.name

/-- The file of the command's page. -/
def file (o : Descent) : String := fileName o.words

/-- The same command in a tree with another root above it. -/
def below (c : Command) (o : Descent) : Descent := ⟨c :: o.above, o.command⟩

/-- Is the command neither a `help` below the root nor below such a one? -/
def hasPage (o : Descent) : Bool := o.path.tail.all fun c => c.name ≠ helpWord

variable {c : Command} {o : Descent}

@[simp] theorem path_below : (o.below c).path = c :: o.path := rfl

@[simp] theorem words_below : (o.below c).words = c.name :: o.words := rfl

@[simp] theorem command_below : (o.below c).command = o.command := rfl

theorem words_ne_nil (o : Descent) : o.words ≠ [] := by
  simp [words, path]

end Descent

mutual

/-- The commands of a tree in pre-order. -/
def descents : Command → List Descent
  | .node d children =>
    ⟨[], .node d children⟩ :: (childDescents children).map (.below (.node d children))

/-- The commands of several trees, one tree after the other. -/
def childDescents : List Command → List Descent
  | [] => []
  | c :: cs => descents c ++ childDescents cs

end

/-- The commands that have pages, in pre-order. -/
def documented (root : Command) : List Descent :=
  (descents root).filter Descent.hasPage

variable {root c : Command} {o : Descent}

theorem childDescents_eq (cs : List Command) : childDescents cs = cs.flatMap descents := by
  induction cs with
  | nil => rfl
  | cons c cs ih => rw [childDescents, List.flatMap_cons, ih]

theorem descents_eq (c : Command) :
    descents c = ⟨[], c⟩ :: (c.children.flatMap descents).map (.below c) := by
  cases c with
  | node d children => rw [descents, childDescents_eq, CommandLine.Command.children]

/-- The commands of a tree are those at the ends of the ways down from its root. -/
theorem mem_descents_iff :
    o ∈ descents root ↔
      o.path.head? = some root ∧ o.path.IsChain fun c d => d ∈ c.children := by
  obtain ⟨above, command⟩ := o
  induction above generalizing root with
  | nil =>
      rw [descents_eq]
      simp [Descent.path, Descent.below, eq_comm]
  | cons c above ih =>
      have hbelow : ⟨c :: above, command⟩ ∈ descents root ↔
          root = c ∧ ∃ d ∈ root.children, ⟨above, command⟩ ∈ descents d := by
        rw [descents_eq, List.mem_cons, List.mem_map]
        constructor
        · rintro (h | ⟨⟨above', command'⟩, hmem, h⟩)
          · cases h
          · cases h
            exact ⟨rfl, List.mem_flatMap.1 hmem⟩
        · rintro ⟨rfl, hd⟩
          exact .inr ⟨⟨above, command⟩, List.mem_flatMap.2 hd, rfl⟩
      have hpath : Descent.path ⟨c :: above, command⟩ = c :: Descent.path ⟨above, command⟩ := rfl
      rw [hbelow, hpath, List.head?_cons, Option.some.injEq, List.isChain_cons]
      simp only [ih]
      constructor
      · rintro ⟨rfl, d, hd, hhead, hchain⟩
        refine ⟨rfl, fun e he => ?_, hchain⟩
        rw [hhead, Option.mem_some_iff] at he
        exact he ▸ hd
      · rintro ⟨rfl, hhead, hchain⟩
        obtain ⟨d, hd⟩ : ∃ d, (Descent.path ⟨above, command⟩).head? = some d := by
          simp [Descent.path]
        exact ⟨rfl, d, hhead d hd, hd, hchain⟩

theorem path_eq_cons_of_mem (h : o ∈ descents c) : o.path = c :: o.path.tail :=
  List.eq_cons_of_mem_head? (mem_descents_iff.1 h).1

/-! ## The pages of a tree -/

/-- The page of a command in a tree whose root is called after other words, with its file. -/
def Descent.page (verbosity : Option String) (parents : List String) (o : Descent) :
    String × String :=
  (fileName (parents ++ o.words), Documentation.page o.command (parents ++ o.words) verbosity)

theorem Descent.page_below (verbosity : Option String) (parents : List String) (c : Command)
    (o : Descent) :
    (o.below c).page verbosity parents = o.page verbosity (parents ++ [c.name]) := by
  simp only [page, words_below, command_below, List.append_assoc, List.singleton_append]

/-- A subcommand `help` leaves no pages; of another the ways below it decide. -/
theorem filter_descents (c : Command) :
    (descents c).filter (fun o => o.path.all fun d => d.name ≠ helpWord) =
      if c.name = helpWord then [] else documented c := by
  split
  · rename_i hname
    refine List.filter_eq_nil_iff.2 fun o ho => ?_
    rw [path_eq_cons_of_mem ho]
    simp [hname]
  · rename_i hname
    refine List.filter_congr fun o ho => ?_
    rw [Descent.hasPage, path_eq_cons_of_mem ho]
    simp [hname]

mutual

/-- The pages of a tree are those of its documented commands, in the same order. -/
theorem pages_eq (verbosity : Option String) (parents : List String) :
    ∀ c, pages verbosity parents c = (documented c).map (Descent.page verbosity parents)
  | .node d children => by
      have hbelow : Descent.page verbosity parents ∘ .below (.node d children) =
          Descent.page verbosity (parents ++ [d.name]) :=
        funext (Descent.page_below verbosity parents _)
      rw [pages, childPages_eq, documented, descents, List.filter_cons_of_pos rfl, List.map_cons,
        List.filter_map, List.map_map, hbelow]
      rfl

theorem childPages_eq (verbosity : Option String) (words : List String) :
    ∀ cs, childPages verbosity words cs =
      ((childDescents cs).filter fun o => o.path.all fun d => d.name ≠ helpWord).map
        (Descent.page verbosity words)
  | [] => rfl
  | c :: cs => by
      rw [childPages, childDescents, List.filter_append, List.map_append, filter_descents,
        childPages_eq]
      split
      · rfl
      · rw [pages_eq]

end

/-! ## Parents and children -/

namespace Descent

/-- The command to which a command belongs. -/
def parent? (o : Descent) : Option Descent :=
  o.above.getLast?.map fun c => ⟨o.above.dropLast, c⟩

/-- The subcommands of a command that have pages, in their order. -/
def children (o : Descent) : List Descent :=
  (pageChildren o.command).map fun c => ⟨o.path, c⟩

theorem path_of_parent? {p : Descent} (h : o.parent? = some p) :
    o.above = p.path := by
  obtain ⟨c, hc, rfl⟩ := Option.map_eq_some_iff.1 h
  exact (List.dropLast_append_getLast? c hc).symm

end Descent

theorem mem_documented_iff :
    o ∈ documented root ↔ o ∈ descents root ∧ ∀ c ∈ o.path.tail, c.name ≠ helpWord := by
  simp [documented, Descent.hasPage]

theorem parent_mem_documented {p : Descent} (ho : o ∈ documented root) (h : o.parent? = some p) :
    p ∈ documented root := by
  have hpath : o.path = p.path ++ [o.command] := by
    rw [Descent.path, Descent.path_of_parent? h]
  have hne : p.path ≠ [] := by simp [Descent.path]
  rw [mem_documented_iff, mem_descents_iff, hpath, List.head?_append_of_ne_nil _ hne,
    List.tail_append_of_ne_nil hne] at ho
  obtain ⟨⟨hhead, hchain⟩, hhelp⟩ := ho
  rw [mem_documented_iff, mem_descents_iff]
  exact ⟨⟨hhead, hchain.left_of_append⟩, fun c hc => hhelp c (List.mem_append_left _ hc)⟩

theorem child_mem_documented_iff (ho : o ∈ documented root) (c : Command) :
    ⟨o.path, c⟩ ∈ documented root ↔ c ∈ pageChildren o.command := by
  have hpath : Descent.path ⟨o.path, c⟩ = o.path ++ [c] := rfl
  have hne : o.path ≠ [] := by simp [Descent.path]
  have hlast : o.path.getLast? = some o.command := by simp [Descent.path]
  rw [mem_documented_iff, mem_descents_iff] at ho
  obtain ⟨⟨hhead, hchain⟩, hhelp⟩ := ho
  rw [mem_documented_iff, mem_descents_iff, hpath, List.head?_append_of_ne_nil _ hne,
    List.tail_append_of_ne_nil hne, List.isChain_append, List.forall_mem_append, hlast,
    pageChildren, List.mem_filter]
  simpa [hhead, hchain] using fun _ _ => hhelp

/-- The children of a command are the documented commands right below it. -/
theorem mem_children_iff (ho : o ∈ documented root) {q : Descent} :
    q ∈ o.children ↔ q ∈ documented root ∧ q.above = o.path := by
  rw [Descent.children, List.mem_map]
  constructor
  · rintro ⟨c, hc, rfl⟩
    exact ⟨(child_mem_documented_iff ho c).2 hc, rfl⟩
  · obtain ⟨above, c⟩ := q
    rintro ⟨hq, rfl⟩
    exact ⟨c, (child_mem_documented_iff ho c).1 hq, rfl⟩

/-- Only the root belongs to no command. -/
theorem parent?_eq_none_iff (ho : o ∈ documented root) : o.parent? = none ↔ o = ⟨[], root⟩ := by
  obtain ⟨above, command⟩ := o
  have hhead := (mem_descents_iff.1 (mem_documented_iff.1 ho).1).1
  simp only [Descent.parent?, Option.map_eq_none_iff, List.getLast?_eq_none_iff,
    Descent.mk.injEq]
  constructor
  · rintro rfl
    exact ⟨rfl, Option.some.inj hhead⟩
  · exact And.left

/-! ## The files of pages -/

/-- No word of the tree holds an underscore or a slash, and the subcommands of a command have
different words. -/
def WellNamed (root : Command) : Prop :=
  ∀ o ∈ descents root, ('_' ∉ o.command.name.toList ∧ '/' ∉ o.command.name.toList) ∧
    (o.command.children.map Command.name).Nodup

instance (root : Command) : Decidable (WellNamed root) :=
  inferInstanceAs (Decidable (∀ o ∈ descents root, _))

/-- The commands on the way to a command are commands of the tree. -/
theorem exists_mem_descents_of_mem_path (ho : o ∈ descents root) (hc : c ∈ o.path) :
    ∃ above, ⟨above, c⟩ ∈ descents root := by
  obtain ⟨hhead, hchain⟩ := mem_descents_iff.1 ho
  obtain ⟨above, rest, hpath⟩ := List.append_of_mem hc
  have hsplit : o.path = (above ++ [c]) ++ rest := by simp [hpath]
  rw [hsplit] at hhead hchain
  refine ⟨above, mem_descents_iff.2 ⟨?_, hchain.left_of_append⟩⟩
  rwa [List.head?_append_of_ne_nil _ (by simp)] at hhead

theorem WellNamed.of_mem_words (h : WellNamed root) (ho : o ∈ descents root) {word : String}
    (hword : word ∈ o.words) : '_' ∉ word.toList ∧ '/' ∉ word.toList := by
  obtain ⟨c, hc, rfl⟩ := List.mem_map.1 hword
  obtain ⟨above, habove⟩ := exists_mem_descents_of_mem_path ho hc
  exact (h _ habove).1

theorem WellNamed.of_mem_children {d : Command} (h : WellNamed c) (hd : d ∈ c.children) :
    WellNamed d := by
  intro o ho
  have hbelow : o.below c ∈ descents c := by
    rw [descents_eq]
    exact List.mem_cons_of_mem _ (List.mem_map_of_mem (List.mem_flatMap.2 ⟨d, hd, ho⟩))
  exact h (o.below c) hbelow

theorem head?_words_of_mem (h : o ∈ descents c) : o.words.head? = some c.name := by
  rw [Descent.words, path_eq_cons_of_mem h]
  rfl

/-- Different commands of a tree are called by different words. -/
theorem nodup_map_words (root : Command) (h : WellNamed root) :
    ((descents root).map Descent.words).Nodup := by
  have hdistinct : (root.children.map Command.name).Nodup :=
    (h ⟨[], root⟩ (by rw [descents_eq]; exact List.mem_cons_self)).2
  have hchildren : ∀ d ∈ root.children, ((descents d).map Descent.words).Nodup :=
    fun d hd => nodup_map_words d (h.of_mem_children hd)
  have hbelow : Descent.words ∘ Descent.below root = (root.name :: ·) ∘ Descent.words := rfl
  rw [descents_eq, List.map_cons, List.map_map, hbelow, ← List.map_map, List.nodup_cons,
    List.map_flatMap]
  refine ⟨?_, (List.nodup_flatMap.2 ⟨hchildren, ?_⟩).map List.cons_injective⟩
  · -- The root is called by one word, all others by more.
    rw [List.mem_map, ← List.map_flatMap]
    rintro ⟨words, hmem, heq⟩
    obtain ⟨o, -, rfl⟩ := List.mem_map.1 hmem
    exact o.words_ne_nil (List.cons.inj heq).2
  · refine (List.pairwise_map.1 hdistinct).imp fun {d e} hne => ?_
    refine List.disjoint_left.2 fun words hd he => ?_
    obtain ⟨o, ho, rfl⟩ := List.mem_map.1 hd
    obtain ⟨o', ho', heq⟩ := List.mem_map.1 he
    have hhead := head?_words_of_mem ho'
    rw [heq, head?_words_of_mem ho, Option.some.injEq] at hhead
    exact hne hhead
termination_by sizeOf root
decreasing_by
  cases root with
  | node description children =>
      have hlt := List.sizeOf_lt_of_mem hd
      simp only [CommandLine.Command.children, CommandLine.Command.node.sizeOf_spec] at hlt ⊢
      omega

theorem toList_fileName (words : List String) :
    (fileName words).toList = List.intercalate ['_'] (words.map String.toList) ++ ".md".toList := by
  simp [fileName]

/-- The words can be read off the name of a file. -/
theorem eq_of_fileName_eq {words words' : List String} (hne : words ≠ []) (hne' : words' ≠ [])
    (h : ∀ word ∈ words, '_' ∉ word.toList) (h' : ∀ word ∈ words', '_' ∉ word.toList)
    (heq : fileName words = fileName words') : words = words' := by
  have hsplit : ∀ {words : List String}, words ≠ [] → (∀ word ∈ words, '_' ∉ word.toList) →
      Text.split '_' (List.intercalate ['_'] (words.map String.toList)) =
        words.map String.toList := fun hne h =>
    Text.split_intercalate (by simpa using hne) (List.forall_mem_map.2 h)
  rw [← String.toList_inj, toList_fileName, toList_fileName, List.append_cancel_right_eq] at heq
  have hmap := hsplit hne h
  rw [heq, hsplit hne' h'] at hmap
  exact (List.map_injective_iff.2 (fun _ _ => String.toList_inj.1) hmap).symm

theorem nodup_map_file (h : WellNamed root) : ((documented root).map Descent.file).Nodup := by
  have hwords : ((documented root).map Descent.words).Nodup :=
    (nodup_map_words root h).sublist (List.filter_sublist.map _)
  refine List.pairwise_map.2 ((List.pairwise_map.1 hwords).imp_of_mem ?_)
  intro o o' ho ho' hne hfile
  have hunderscore : ∀ {o}, o ∈ documented root → ∀ word ∈ o.words, '_' ∉ word.toList :=
    fun ho word hword => (h.of_mem_words (mem_documented_iff.1 ho).1 hword).1
  exact hne (eq_of_fileName_eq o.words_ne_nil o'.words_ne_nil (hunderscore ho) (hunderscore ho')
    hfile)

theorem not_mem_intercalate {c separator : Char} {words : List String} (hne : c ≠ separator)
    (h : ∀ word ∈ words, c ∉ word.toList) :
    c ∉ List.intercalate [separator] (words.map String.toList) := by
  induction words with
  | nil => simp [List.intercalate]
  | cons word words ih =>
      obtain ⟨hword, hwords⟩ := List.forall_mem_cons.1 h
      by_cases hnil : words = []
      · rw [hnil, List.map_singleton, List.intercalate_singleton]
        exact hword
      · rw [List.map_cons, List.intercalate_cons_of_ne_nil (by simpa using hnil)]
        simp only [List.mem_append, List.mem_singleton, not_or]
        exact ⟨⟨hword, hne⟩, ih hwords⟩

/-- The file of a page is named by one step of a path, which leads down. -/
theorem isName_file (h : WellNamed root) (ho : o ∈ documented root) :
    Files.IsName o.file ∧ o.file ≠ ".." := by
  have hslash : '/' ∉ List.intercalate ['_'] (o.words.map String.toList) :=
    not_mem_intercalate (by decide) fun word hword =>
      (h.of_mem_words (mem_documented_iff.1 ho).1 hword).2
  have hfile : o.file.toList =
      List.intercalate ['_'] (o.words.map String.toList) ++ ['.', 'm', 'd'] := toList_fileName _
  refine ⟨⟨?_, ?_⟩, ?_⟩
  · cases hnames : List.intercalate ['_'] (o.words.map String.toList) <;>
      simp [Files.isIdle, hfile, hnames]
  · rw [hfile, List.mem_append, not_or]
    exact ⟨hslash, by decide⟩
  · intro hup
    have hlast := congrArg List.getLast? hfile
    rw [hup, List.getLast?_append] at hlast
    cases hlast

end TronWallet.Documentation
