import Mathlib.Data.Set.Defs
import TronWallet.Proofs.Book.Site
import TronWallet.Proofs.Documentation

/-!
# Runs with one state directory

Runs that have their state directory at one location share the book in it, although their
paths to it may differ with the environment and the directory they work in. `SharesHome`
says so of the disk before the runs, by what making room for the book comes to; it gives
the `Site` of the book, and that every run reaches it (`SharesHome.reached`). Of the rest that
a run writes, only the directories on the way to its book have to do with a book
(`makes_makeRoom`, `entry_generate_bookPlace`).
-/

namespace TronWallet

open Files (Disk Location)

/-- The place of the book's file in a state directory. -/
def bookPlace (home : Location) : Location := home ++ ["accounts.toml"]

/-- The directories on the way to the book of a run. -/
def Surroundings.bookWay (s : Surroundings) : List Location :=
  (Files.passingPath s.working s.bookPath).dropLast

/-- The runs have their state directory at one location: making room for the book comes to
the same for all of them, and then all their paths lead to the same place. -/
structure SharesHome (first made : Disk) (home : Location) (runs : Set Surroundings) : Prop where
  room : ∀ s ∈ runs, Book.makeRoom first s.working s.bookPath = (made, .ok ())
  leads : ∀ s ∈ runs, made.writable s.working s.bookPath = .ok (bookPlace home)

/-- The pages of the documentation of a run. -/
def Surroundings.pages (s : Surroundings) : List Location :=
  Documentation.names.map fun name => Documentation.place s.working ++ [name]

theorem bookPlace_ne_nil (home : Location) : bookPlace home ≠ [] :=
  List.append_ne_nil_of_right_ne_nil home (List.cons_ne_nil _ [])

/-- The book that a state directory starts with: the empty one if there is no file, and else
that of the file, if the directories are all there. -/
def StartsWith (first made : Disk) (home : Location) (b : Book) : Prop :=
  (made.entry (bookPlace home) = none ∧ b = .empty) ∨
    (made = first ∧ ∃ text, first.entry (bookPlace home) = some (.file (.text text)) ∧
      Book.parse text = .ok b)

theorem StartsWith.isDirectory_bookPlace {first made : Disk} {home : Location} {b : Book}
    (h : StartsWith first made home b) : made.isDirectory (bookPlace home) = false := by
  rcases h with ⟨hnone, -⟩ | ⟨rfl, text, htext, -⟩
  · exact Disk.isDirectory_eq_false_of_none (bookPlace_ne_nil home) hnone
  · exact Disk.isDirectory_eq_false_of_file (bookPlace_ne_nil home) htext

theorem isName_accounts : Files.IsName "accounts.toml" where
  step := by decide
  noSlash := by decide

/-! ## The way to the book -/

namespace Surroundings

/-- Where the path of the state directory starts. -/
def homeOrigin (s : Surroundings) : Location :=
  if s.stateDirectory.toList.head? = some '/' then [] else s.working

/-- The steps of the path of the state directory. -/
def homeSteps (s : Surroundings) : List String :=
  Files.stepsOf (Text.split '/' s.stateDirectory.toList)

/-- The place of the book's file: the last one that its path leads through. -/
def bookFile (s : Surroundings) : Location :=
  (Files.passingPath s.working s.bookPath).getLastD []

theorem passingPath_bookPath (s : Surroundings) :
    Files.passingPath s.working s.bookPath = Files.passing s.homeOrigin s.homeSteps ++
      [bookPlace (Files.arrive s.homeOrigin s.homeSteps)] := by
  have hplace : bookPlace (Files.arrive s.homeOrigin s.homeSteps) =
      Files.arrive s.homeOrigin (s.homeSteps ++ ["accounts.toml"]) := by
    simp [Files.arrive_append, Files.arrive, bookPlace]
  rw [hplace, ← Files.passing_append_singleton, Files.passingPath, bookPath, TronWallet.bookPath,
    Files.parse?_join isName_accounts]
  simp [Disk.start, homeOrigin, homeSteps]

theorem bookWay_eq (s : Surroundings) : s.bookWay = Files.passing s.homeOrigin s.homeSteps := by
  rw [bookWay, passingPath_bookPath, List.dropLast_concat]

theorem bookFile_eq (s : Surroundings) :
    s.bookFile = bookPlace (Files.arrive s.homeOrigin s.homeSteps) := by
  rw [bookFile, passingPath_bookPath, List.getLastD_concat]

end Surroundings

/-- Making room for the book makes directories on the way to it only. -/
theorem makes_makeRoom (disk : Disk) (s : Surroundings) :
    disk.Makes (Book.makeRoom disk s.working s.bookPath).1 s.bookWay := by
  obtain ⟨parent, hparent, -, hparse⟩ :=
    Files.exists_parent?_join isName_accounts s.stateDirectory
  have hmakes := Disk.makes_makeDirectories disk Files.usualMode s.working parent
  have hroom : (Book.makeRoom disk s.working s.bookPath).1 =
      (disk.makeDirectories Files.usualMode s.working parent).1 := by
    rw [Book.makeRoom, Surroundings.bookPath, bookPath, hparent]
  rw [hroom]
  refine hmakes.mono ?_
  rcases hparse with ⟨rfl, -⟩ | ⟨ending, hparse, -⟩
  · exact List.nil_subset _
  · rw [Files.passingPath, hparse, s.bookWay_eq]
    simp [Disk.start, Surroundings.homeOrigin, Surroundings.homeSteps]

/-- Writing the documentation leaves the books of all state directories alone. -/
theorem entry_generate_bookPlace {s : Surroundings} {disk : Disk}
    (hground : disk.Grounded s.working) (verbosity : Option String) (home : Location) :
    (Documentation.generate CommandLine.program verbosity s.working (documentationDirectory s)
      disk).1.entry (bookPlace home) = disk.entry (bookPlace home) := by
  have hlast : ∀ (xs : Location) (name : String), bookPlace home = xs ++ [name] →
      name = "accounts.toml" := by
    intro xs name heq
    have hgetLast := congrArg List.getLast? heq
    simpa [bookPlace, eq_comm] using hgetLast
  rcases Documentation.entry_generate hground verbosity (bookPlace home) with
    hsame | ⟨hplace, -⟩ | ⟨-, name, hname, hplace⟩
  · exact hsame
  · exact absurd (hlast _ _ hplace) (by decide)
  · exact absurd (hlast _ _ hplace) (Documentation.names_spec name hname).2.2

/-! ## Shared state directories -/

namespace SharesHome

variable {first made : Disk} {home : Location} {runs : Set Surroundings} {s : Surroundings}

/-- The site of the book in a state directory: the directories that the first disk has on
the ways of the runs, and those that are made. -/
def site (first made : Disk) (home : Location) (runs : Set Surroundings)
    (hfree : made.isDirectory (bookPlace home) = false) : Book.Site where
  place := bookPlace home
  standing l := first.isDirectory l = true ∧ ∃ s ∈ runs, l ∈ s.bookWay
  missing l := first.isDirectory l = false ∧ made.isDirectory l = true
  place_ne := bookPlace_ne_nil home
  not_missing := by simp [hfree]

theorem exists_route (h : SharesHome first made home runs) (hs : s ∈ runs) :
    ∃ p steps, Disk.parsePath s.bookPath = .ok p ∧ p.ending = .name ∧
      p.steps = steps ++ ["accounts.toml"] ∧
      s.bookWay = Files.passing (Disk.start s.working p) steps ∧
      ∃ ending parent, (ending = .dot → steps = []) ∧
        ∀ disk, Book.makeRoom disk s.working s.bookPath =
          ((Disk.makeDirectoriesAt Files.usualMode (Disk.start s.working p) ending steps.reverse
              disk).1,
            (Disk.makeDirectoriesAt Files.usualMode (Disk.start s.working p) ending steps.reverse
              disk).2.mapError (Failure.file parent)) := by
  obtain ⟨p, hparse, hending, -, -⟩ := Disk.writable_eq_ok_iff.1 (h.leads s hs)
  obtain ⟨steps, ending, parent, hsteps, -, hdot, hparent, hmake⟩ :=
    Disk.exists_makeDirectories_parent isName_accounts hparse
  refine ⟨p, steps, hparse, hending, hsteps, ?_, ending, parent, hdot, fun disk => ?_⟩
  · rw [Surroundings.bookWay, Files.passingPath, (Disk.parsePath_eq_ok_iff.1 hparse).2.2]
    simp only [hsteps, Files.passing_append_singleton, List.dropLast_concat]
  · rw [← hmake, Book.makeRoom, Surroundings.bookPath, TronWallet.bookPath, hparent]

/-- Making room makes directories on the way of every run. -/
theorem makes (h : SharesHome first made home runs) (hs : s ∈ runs) :
    first.Makes made s.bookWay := by
  have hmakes := makes_makeRoom first s
  rwa [h.room s hs] at hmakes

/-- Every run reaches the site, from the root or from where it works. -/
theorem reached (h : SharesHome first made home runs) (hs : s ∈ runs)
    (hfree : made.isDirectory (bookPlace home) = false) :
    ∃ origin steps, (site first made home runs hfree).Reached s.working s.bookPath origin steps
        "accounts.toml" ∧ (origin = [] ∨ origin = s.working) := by
  obtain ⟨p, steps, hparse, hending, hsteps, hway, ending, parent, hdot, hroom⟩ :=
    h.exists_route hs
  obtain ⟨p', hparse', -, hwalk, -⟩ := Disk.writable_eq_ok_iff.1 (h.leads s hs)
  rw [hparse] at hparse'
  cases hparse'
  rw [hsteps] at hwalk
  obtain ⟨-, hdirectories, hfits, hplace⟩ := Disk.walk_append_singleton_eq_ok_iff.1 hwalk
  refine ⟨Disk.start s.working p, steps, ⟨⟨p, hparse, hending, rfl, hsteps⟩,
    ⟨ending, parent, hdot, hroom⟩, hfits, hplace.symm, ?_, ?_⟩, ?_⟩
  · intro l hl
    cases hfirst : first.isDirectory l with
    | true => exact .inl ⟨hfirst, s, hs, hway ▸ hl⟩
    | false => exact .inr ⟨hfirst, hdirectories l hl⟩
  · rintro l ⟨hfirst, hmade⟩
    rcases h.makes hs l with heq | ⟨hpassing, -, -⟩
    · rw [Disk.isDirectory_congr heq, hfirst] at hmade
      cases hmade
    · rwa [hway] at hpassing
  · rw [Disk.start]
    split
    · exact .inl rfl
    · exact .inr rfl

/-- The site holds the book that the state directory starts with. -/
theorem holds_first (h : SharesHome first made home runs) (hs : s ∈ runs) {b : Book}
    (hstart : StartsWith first made home b) :
    (site first made home runs hstart.isDirectory_bookPlace).Holds b first where
  standing := fun l hl => hl.1
  file := by
    rcases hstart with ⟨hnone, hempty⟩ | ⟨hmade, text, htext, hparse⟩
    · have hfree := Disk.isDirectory_eq_false_of_none (bookPlace_ne_nil home) hnone
      refine .inl ⟨?_, hempty, ?_⟩
      · rcases h.makes hs (bookPlace home) with heq | ⟨-, -, hdirectory⟩
        · exact heq.symm.trans hnone
        · rw [hfree] at hdirectory
          cases hdirectory
      · rintro l ⟨hfirst, hmade⟩
        rcases h.makes hs l with heq | ⟨-, hunoccupied, -⟩
        · rw [Disk.isDirectory_congr heq, hfirst] at hmade
          cases hmade
        · exact .inr hunoccupied
    · refine .inr ⟨text, htext, hparse, ?_⟩
      rintro l ⟨hfirst, hdirectory⟩
      rw [hmade, hfirst] at hdirectory
      cases hdirectory

end SharesHome

/-! ## A state directory that is left to its runs -/

/-- The disk of a state directory that is made, with a book in it. -/
def diskWith (made : Disk) (home : Location) (b : Book) : Disk :=
  made.set (bookPlace home) (some (.file (.text b.write)))

/-- The disks of a state directory in which nothing but the book changes: the first one, with
the book that it starts with, and after that those with a book that has been written. -/
inductive HomeHolds (first made : Disk) (home : Location) (b₀ : Book) : Book → Disk → Prop where
  | start : HomeHolds first made home b₀ b₀ first
  | written (b : Book) : HomeHolds first made home b₀ b (diskWith made home b)

namespace SharesHome

variable {first made disk : Disk} {home : Location} {runs : Set Surroundings} {s : Surroundings}
  {b₀ b : Book}

theorem keepsDirectories_diskWith (h : SharesHome first made home runs) (hs : s ∈ runs)
    (b : Book) : made.KeepsDirectories (diskWith made home b) := by
  obtain ⟨-, -, -, -, hfree⟩ := Disk.writable_eq_ok_iff.1 (h.leads s hs)
  exact Disk.keepsDirectories_set _ hfree

theorem kept_diskWith (h : SharesHome first made home runs) (hs : s ∈ runs) (b : Book) :
    b.Kept (diskWith made home b) s.working s.bookPath (bookPlace home) where
  room := Book.makeRoom_of_makeRoom (h.room s hs) (h.keepsDirectories_diskWith hs b)
  writable := by
    refine Disk.writable_mono (h.keepsDirectories_diskWith hs b) ?_ (h.leads s hs)
    exact Disk.isDirectory_eq_false_of_file (bookPlace_ne_nil home) (Disk.entry_set_self _ _ _)
  entry := Disk.entry_set_self _ _ _

/-- Saving gives the disk with the book, whatever was there before. -/
theorem save_of_homeHolds (h : SharesHome first made home runs) (hs : s ∈ runs)
    (hholds : HomeHolds first made home b₀ b disk) (c : Book) :
    c.save disk s.working s.bookPath = (diskWith made home c, .ok ()) := by
  rw [Book.save_eq_ok_iff]
  cases hholds with
  | start =>
      exact ⟨made, h.room s hs, Disk.write_eq_ok_iff.2 ⟨bookPlace home, h.leads s hs, rfl⟩⟩
  | written b =>
      have hkept := h.kept_diskWith hs b
      refine ⟨diskWith made home b, hkept.room, Disk.write_eq_ok_iff.2 ?_⟩
      refine ⟨bookPlace home, hkept.writable, ?_⟩
      rw [diskWith, diskWith, Disk.set_set]

theorem load_of_homeHolds (h : SharesHome first made home runs) (hs : s ∈ runs)
    (hstart : StartsWith first made home b₀) (hworking : first.isDirectory s.working = true)
    (hholds : HomeHolds first made home b₀ b disk) :
    Book.load disk s.working s.bookPath = .ok b := by
  cases hholds with
  | start =>
      obtain ⟨origin, steps, hreached, horigin⟩ := h.reached hs hstart.isDirectory_bookPlace
      refine (h.holds_first hs hstart).load hreached ?_
      rcases horigin with rfl | rfl
      · rfl
      · exact hworking
  | written b => exact (h.kept_diskWith hs b).load

/-- Another file that is there at first stays as it is. -/
theorem read_of_homeHolds (h : SharesHome first made home runs) (hs : s ∈ runs)
    (hholds : HomeHolds first made home b₀ b disk) {working place : Location} {path text : String}
    (hwritable : first.writable working path = .ok place)
    (hentry : first.entry place = some (.file (.text text))) (hne : place ≠ bookPlace home) :
    disk.read working path = .ok text := by
  obtain ⟨-, -, -, -, hfree⟩ := Disk.writable_eq_ok_iff.1 hwritable
  have hmakes := h.makes hs
  have hmade : made.entry place = some (.file (.text text)) := by
    rcases hmakes place with heq | ⟨-, hunoccupied, -⟩
    · exact heq.trans hentry
    · rw [Disk.occupied, hentry, Option.isSome_some, Bool.or_true] at hunoccupied
      cases hunoccupied
  cases hholds with
  | start => exact Disk.read_of_writable hwritable hentry
  | written b =>
      have hafter : (diskWith made home b).entry place = some (.file (.text text)) := by
        rw [diskWith, Disk.entry_set_of_ne _ _ hne, hmade]
      refine Disk.read_of_writable (Disk.writable_mono ?_ ?_ hwritable) hafter
      · exact hmakes.keepsDirectories.trans (h.keepsDirectories_diskWith hs b)
      · exact Disk.isDirectory_eq_false_of_file (Disk.ne_nil_of_isDirectory_eq_false hfree) hafter

end SharesHome

/-- Surroundings with an empty root to work in and a state directory that is not there. -/
def freshSurroundings : Surroundings where
  lookup name := if name = Surroundings.stateVariable then some "/state" else none
  working := []
  contact _ := .reached 5
  service _ _ := .lost
  now := 0

/-- The empty disk after its state directory has been made. -/
def freshHome : Disk := (Book.makeRoom .empty [] "/state/accounts.toml").1

theorem sharesHome_fresh {runs : Set Surroundings} (h : ∀ s ∈ runs, s = freshSurroundings) :
    SharesHome .empty freshHome ["state"] runs where
  room := by
    intro s hs
    rw [h s hs]
    exact Prod.ext rfl (by decide +kernel)
  leads := by
    intro s hs
    rw [h s hs]
    decide +kernel

end TronWallet
