import TronWallet.Proofs.Files.Directories

/-!
# What writing the documentation changes

Where the working directory exists, writing the documentation touches its own directory
and the pages in it, and nothing else (`entry_generate`); neither has the name of another
file of the program (`ne_of_mem_names`). It makes no directory a file, whether it succeeds
or stops half way.
-/

namespace TronWallet

namespace Files

/-- The names on the way are names of directories, and the directories are there. -/
structure Disk.Grounded (d : Disk) (working : Location) : Prop where
  names : ∀ step ∈ working, IsName step ∧ step ≠ ".."
  directories : ∀ place ∈ passing [] working, d.isDirectory place = true

theorem Disk.grounded_nil (d : Disk) : d.Grounded [] where
  names := by simp
  directories := by simp

/-- The working directory itself is there. -/
theorem Disk.Grounded.isDirectory {d : Disk} {working : Location} (h : d.Grounded working) :
    d.isDirectory working = true := by
  have harrive : arrive [] working = working :=
    arrive_of_ne_up fun step hstep => (h.names step hstep).2
  rw [← harrive]
  exact Disk.isDirectory_arrive rfl h.directories

theorem stepsOf_split_join {name : String} (h : IsName name) (directory : String) :
    stepsOf (Text.split '/' (join directory name).toList) =
        stepsOf (Text.split '/' directory.toList) ++ [name] ∧
      ((join directory name).toList.head? = some '/' ↔
        directory.toList.head? = some '/') := by
  have hne : (join directory name).toList ≠ [] := by
    rcases toList_join h directory with ⟨-, htext⟩ | ⟨xs, htext, -, -⟩
    · rw [htext]
      exact h.ne_nil
    · simp [htext]
  have hparse := parse?_join h directory
  rw [parse?_eq hne] at hparse
  simp only [Option.some.injEq, Path.mk.injEq, decide_eq_decide] at hparse
  exact ⟨hparse.2.1, hparse.1⟩

end Files

namespace Documentation

open Files (Disk Location IsName)

/-! ## The names of pages -/

mutual

theorem map_fst_pages (v w : Option String) (parents : List String) :
    ∀ c, (pages v parents c).map Prod.fst = (pages w parents c).map Prod.fst
  | .node d children => by
      simp only [pages, List.map_cons, map_fst_childPages v w (parents ++ [d.name]) children]

theorem map_fst_childPages (v w : Option String) (words : List String) :
    ∀ cs, (childPages v words cs).map Prod.fst = (childPages w words cs).map Prod.fst
  | [] => rfl
  | c :: cs => by
      rw [childPages, childPages, List.map_append, List.map_append, map_fst_childPages v w words cs]
      split
      · rfl
      · rw [map_fst_pages v w words c]

end

/-- The names of the files of all pages. -/
def names : List String :=
  (pages none [] CommandLine.program).map Prod.fst

theorem names_spec : ∀ name ∈ names,
    (Files.isIdle name.toList = false ∧ '/' ∉ name.toList) ∧ name ≠ ".." ∧
      name ≠ "accounts.toml" := by
  decide +kernel

theorem mem_names {v : Option String} {page : String × String}
    (h : page ∈ pages v [] CommandLine.program) : page.1 ∈ names := by
  rw [names, map_fst_pages none v]
  exact List.mem_map_of_mem h

/-! ## Pages -/

variable {disk disk' : Disk} {working : Location} {directory name text : String}

/-- A page is written at its name in the directory, where no directory is. -/
theorem write_join (h : IsName name) (hup : name ≠ "..")
    (habsolute : directory.toList.head? = some '/')
    (hsteps : ∀ step ∈ Files.stepsOf (Text.split '/' directory.toList), step ≠ "..")
    (hwrite : disk.write working (Files.join directory name) text = .ok disk') :
    disk.isDirectory (Files.stepsOf (Text.split '/' directory.toList) ++ [name]) = false ∧
      disk' = disk.set (Files.stepsOf (Text.split '/' directory.toList) ++ [name])
        (some (.file (.text text))) := by
  obtain ⟨place, hwritable, rfl⟩ := Disk.write_eq_ok_iff.1 hwrite
  obtain ⟨p, hparse, -, hwalk, hplace⟩ := Disk.writable_eq_ok_iff.1 hwritable
  have hpath := (Disk.parsePath_eq_ok_iff.1 hparse).2.2
  rw [Files.parse?_join h, Option.some.injEq] at hpath
  subst hpath
  obtain ⟨-, -, -, rfl⟩ := Disk.walk_append_singleton_eq_ok_iff.1 hwalk
  have hnames : ∀ step ∈ Files.stepsOf (Text.split '/' directory.toList) ++ [name],
      step ≠ ".." := by
    rw [List.forall_mem_append, List.forall_mem_singleton]
    exact ⟨hsteps, hup⟩
  rw [Files.arrive_of_ne_up hnames] at hplace ⊢
  simp only [Disk.start, habsolute, decide_true, if_true, List.nil_append] at hplace ⊢
  exact ⟨hplace, trivial⟩

/-- Writing pages changes entries of pages only, and no directory. -/
theorem entry_writePages {all : List (String × String)}
    (hnames : ∀ page ∈ all, IsName page.1 ∧ page.1 ≠ "..")
    (habsolute : directory.toList.head? = some '/')
    (hsteps : ∀ step ∈ Files.stepsOf (Text.split '/' directory.toList), step ≠ "..")
    (disk : Disk) (l : Location) :
    (writePages working directory all disk).1.entry l = disk.entry l ∨
      disk.isDirectory l = false ∧
        ∃ page ∈ all, l = Files.stepsOf (Text.split '/' directory.toList) ++ [page.1] := by
  induction all generalizing disk with
  | nil => exact .inl rfl
  | cons page rest ih =>
      obtain ⟨hpage, hrest⟩ := List.forall_mem_cons.1 hnames
      obtain ⟨name, text⟩ := page
      rw [writePages]
      split
      · rename_i disk' hwrite
        obtain ⟨hplace, rfl⟩ := write_join hpage.1 hpage.2 habsolute hsteps hwrite
        by_cases heq : l = Files.stepsOf (Text.split '/' directory.toList) ++ [name]
        · right
          rw [heq]
          exact ⟨hplace, (name, text), List.mem_cons_self, rfl⟩
        · rcases ih hrest (disk.set _ (some (.file (.text text)))) with hsame | ⟨hfree, hpage⟩
          · exact .inl (hsame.trans (Disk.entry_set_of_ne _ _ heq))
          · rw [Disk.isDirectory_set_of_ne _ heq] at hfree
            obtain ⟨page, hmem, hl⟩ := hpage
            exact .inr ⟨hfree, page, List.mem_cons_of_mem _ hmem, hl⟩
      · exact .inl rfl

/-! ## The whole documentation -/

/-- The place of the documentation's directory. -/
def place (working : Location) : Location := working ++ ["tronctl-docs"]

theorem isName_directory : IsName "tronctl-docs" where
  step := by decide
  noSlash := by decide

/-- The documentation's directory, and how its path is followed. -/
theorem path_directory (h : disk.Grounded working) :
    (Files.join (Files.absolutePath working) "tronctl-docs").toList.head? = some '/' ∧
      Files.stepsOf (Text.split '/'
        (Files.join (Files.absolutePath working) "tronctl-docs").toList) = place working ∧
      Files.passingPath working (Files.join (Files.absolutePath working) "tronctl-docs") =
        Files.passing [] working ++ [place working] := by
  have hhead : (Files.absolutePath working).toList.head? = some '/' := by
    simp [Files.absolutePath]
  have hworking := Files.stepsOf_split_absolutePath fun step hstep => (h.names step hstep).1
  obtain ⟨hsteps, habsolute⟩ :=
    Files.stepsOf_split_join isName_directory (Files.absolutePath working)
  have hnames : ∀ step ∈ working ++ ["tronctl-docs"], step ≠ ".." := by
    rw [List.forall_mem_append, List.forall_mem_singleton]
    exact ⟨fun step hstep => (h.names step hstep).2, by decide⟩
  refine ⟨habsolute.2 hhead, hsteps.trans (by rw [hworking, place]), ?_⟩
  rw [Files.passingPath, Files.parse?_join isName_directory, hworking]
  simp only [Disk.start, hhead, decide_true, if_true, Files.passing_append_singleton,
    Files.arrive_of_ne_up hnames, List.nil_append, place]

theorem generate_fst (root : CommandLine.Command) (verbosity : Option String)
    (working : Location) (directory : String) (disk : Disk) :
    (generate root verbosity working directory disk).1 =
        (disk.makeDirectories directoryMode working directory).1 ∨
      (generate root verbosity working directory disk).1 =
        (writePages working directory (pages verbosity [] root)
          (disk.makeDirectories directoryMode working directory).1).1 := by
  rw [generate]
  split
  · rename_i made cause heq
    left
    rw [heq]
  · rename_i made heq
    right
    rw [heq]
    dsimp only
    split
    · rename_i written hwrite
      rw [hwrite]
    · rename_i written fault hwrite
      rw [hwrite]

/-- Making the documentation's directory changes no entry but its own. -/
theorem entry_makeDirectories (h : disk.Grounded working) (mode : Nat) (l : Location) :
    let made := (disk.makeDirectories mode working
      (Files.join (Files.absolutePath working) "tronctl-docs")).1
    made.entry l = disk.entry l ∨
      (l = place working ∧ disk.occupied l = false ∧ made.isDirectory l = true) := by
  have hmakes := Disk.makes_makeDirectories disk mode working
    (Files.join (Files.absolutePath working) "tronctl-docs")
  rw [(path_directory h).2.2] at hmakes
  rcases hmakes l with hsame | ⟨hl, hfree, hmade⟩
  · exact .inl hsame
  · rcases List.mem_append.1 hl with hworking | hplace
    · rw [Disk.occupied_of_isDirectory (h.directories l hworking)] at hfree
      cases hfree
    · exact .inr ⟨List.mem_singleton.1 hplace, hfree, hmade⟩

/-- Writing the documentation changes two kinds of entries: that of its directory, which is
made, and those of its pages, where no directory is. -/
theorem entry_generate (h : disk.Grounded working) (verbosity : Option String) (l : Location) :
    let after := (generate CommandLine.program verbosity working
      (Files.join (Files.absolutePath working) "tronctl-docs") disk).1
    after.entry l = disk.entry l ∨
      (l = place working ∧ disk.occupied l = false ∧ after.isDirectory l = true) ∨
      (disk.isDirectory l = false ∧ ∃ name ∈ names, l = place working ++ [name]) := by
  intro after
  have hmakes := Disk.makes_makeDirectories disk directoryMode working
    (Files.join (Files.absolutePath working) "tronctl-docs")
  have hmade := entry_makeDirectories h directoryMode l
  rcases generate_fst CommandLine.program verbosity working
    (Files.join (Files.absolutePath working) "tronctl-docs") disk with hafter | hafter
  · rw [← hafter] at hmade
    exact hmade.imp id .inl
  · obtain ⟨habsolute, hsteps, -⟩ := path_directory h
    have hnames : ∀ page ∈ pages verbosity [] CommandLine.program,
        IsName page.1 ∧ page.1 ≠ ".." := by
      intro page hpage
      obtain ⟨⟨hidle, hslash⟩, hup, -⟩ := names_spec page.1 (mem_names hpage)
      exact ⟨⟨hidle, hslash⟩, hup⟩
    have hup : ∀ step ∈ place working, step ≠ ".." := by
      rw [place, List.forall_mem_append, List.forall_mem_singleton]
      exact ⟨fun step hstep => (h.names step hstep).2, by decide⟩
    rcases entry_writePages hnames habsolute (hsteps ▸ hup) _ l with
      hsame | ⟨hfree, page, hpage, hl⟩
    · rw [← hafter] at hsame
      rcases hmade with hmade | ⟨hplace, hunoccupied, hdirectory⟩
      · exact .inl (hsame.trans hmade)
      · refine .inr (.inl ⟨hplace, hunoccupied, ?_⟩)
        rw [← hdirectory]
        exact Disk.isDirectory_congr hsame
    · refine .inr (.inr ⟨?_, page.1, mem_names hpage, by rw [hl, hsteps]⟩)
      cases hbefore : disk.isDirectory l with
      | false => rfl
      | true =>
          rw [hmakes.keepsDirectories l hbefore] at hfree
          cases hfree

end Documentation

end TronWallet
