import TronWallet.Proofs.Book.Persistence

/-!
# Where a book is kept

A `Site` is the place of a book's file with the directories on the ways to it: those that
are standing, and those that are missing until a book is first saved. Runs may reach it on
different ways (`Reached`), as long as each of them passes all that is missing. A site
holds the empty book before there is a file, and else the book of the file (`Holds`); a
book is loaded from a site that holds it (`Holds.load`), saving replaces the book that is
held (`Holds.save`), and it is held as long as the site is left alone (`Holds.of_spared`).
-/

namespace TronWallet.Book

open Files (Disk Location)

/-- The place of a book's file, and the directories on the ways to it. -/
structure Site where
  place : Location
  standing : Location → Prop
  missing : Location → Prop
  place_ne : place ≠ []
  not_missing : ¬ missing place

namespace Site

variable {site : Site} {b c : Book} {disk disk' : Disk} {working origin : Location}
  {path name : String} {steps : List String}

/-- A path leads to the site's place, over directories of the site and over all that are
missing. The last step is the name of the file, and making room for the file makes the
directories of the steps before. -/
structure Reached (site : Site) (working : Location) (path : String) (origin : Location)
    (steps : List String) (name : String) : Prop where
  parsed : ∃ p, Disk.parsePath path = .ok p ∧ p.ending = .name ∧
    Disk.start working p = origin ∧ p.steps = steps ++ [name]
  room : ∃ ending parent, (ending = .dot → steps = []) ∧ ∀ disk, makeRoom disk working path =
    ((Disk.makeDirectoriesAt Files.usualMode origin ending steps.reverse disk).1,
      (Disk.makeDirectoriesAt Files.usualMode origin ending steps.reverse disk).2.mapError
        (Failure.file parent))
  fits : Disk.Fits (steps ++ [name])
  arrives : Files.arrive origin (steps ++ [name]) = site.place
  through : ∀ l ∈ Files.passing origin steps, site.standing l ∨ site.missing l
  missing : ∀ l, site.missing l → l ∈ Files.passing origin steps

/-- The site holds a book: the empty one while there is no file, and else the file's. -/
structure Holds (site : Site) (b : Book) (disk : Disk) : Prop where
  standing : ∀ l, site.standing l → disk.isDirectory l = true
  file : (disk.entry site.place = none ∧ b = empty ∧ ∀ l, site.missing l → disk.IsOpen l) ∨
    ∃ text, disk.entry site.place = some (.file (.text text)) ∧ parse text = .ok b ∧
      ∀ l, site.missing l → disk.isDirectory l = true

namespace Holds

/-- A book is held as long as its file and the directories are left alone. -/
theorem of_spared (h : site.Holds b disk)
    (hplace : disk'.entry site.place = disk.entry site.place)
    (hstanding : ∀ l, site.standing l → disk'.isDirectory l = true)
    (hmissing : ∀ l, site.missing l →
      disk'.entry l = disk.entry l ∨ disk'.isDirectory l = true) :
    site.Holds b disk' where
  standing := hstanding
  file := by
    rcases h.file with ⟨hfree, hempty, hopen⟩ | ⟨text, htext, hparse, hmade⟩
    · refine .inl ⟨hplace.trans hfree, hempty, fun l hl => ?_⟩
      rcases hmissing l hl with heq | hdirectory
      · exact (hopen l hl).congr heq
      · exact .inl hdirectory
    · refine .inr ⟨text, hplace.trans htext, hparse, fun l hl => ?_⟩
      rcases hmissing l hl with heq | hdirectory
      · rw [Disk.isDirectory_congr heq, hmade l hl]
      · exact hdirectory

theorem isDirectory_place (h : site.Holds b disk) : disk.isDirectory site.place = false := by
  rcases h.file with ⟨hfree, -, -⟩ | ⟨text, htext, -, -⟩
  · exact Disk.isDirectory_eq_false_of_none site.place_ne hfree
  · exact Disk.isDirectory_eq_false_of_file site.place_ne htext

theorem not_standing_place (h : site.Holds b disk) : ¬ site.standing site.place := by
  intro hstanding
  have hplace := h.isDirectory_place
  rw [h.standing _ hstanding] at hplace
  cases hplace

/-- Nothing bars the way to the place. -/
theorem isOpen (h : site.Holds b disk) (hreached : site.Reached working path origin steps name)
    {l : Location} (hl : l ∈ Files.passing origin steps) : disk.IsOpen l := by
  rcases hreached.through l hl with hstanding | hmissing
  · exact .inl (h.standing l hstanding)
  · rcases h.file with ⟨-, -, hopen⟩ | ⟨text, -, -, hmade⟩
    · exact hopen l hmissing
    · exact .inl (hmade l hmissing)

/-- The path leads to the place, if the directories on its way have been made. -/
theorem writable (h : site.Holds b disk) (hreached : site.Reached working path origin steps name)
    (horigin : disk.isDirectory origin = true)
    (hmade : ∀ l ∈ Files.passing origin steps, disk.isDirectory l = true) :
    disk.writable working path = .ok site.place := by
  obtain ⟨p, hparse, hending, hstart, hsteps⟩ := hreached.parsed
  refine Disk.writable_eq_ok_iff.2 ⟨p, hparse, hending, ?_, h.isDirectory_place⟩
  rw [hstart, hsteps, ← hreached.arrives]
  exact Disk.walk_append_singleton_eq_ok_iff.2 ⟨horigin, hmade, hreached.fits, rfl⟩

theorem leadsSomewhere_eq_false (h : site.Holds b disk)
    (hreached : site.Reached working path origin steps name)
    (horigin : disk.isDirectory origin = true) (hfree : disk.entry site.place = none) :
    disk.leadsSomewhere working path = false := by
  by_cases hmade : ∀ l ∈ Files.passing origin steps, disk.isDirectory l = true
  · rw [Disk.leadsSomewhere, Disk.locate_of_writable (h.writable hreached horigin hmade)]
    simp [Disk.occupied, site.place_ne, hfree]
  · obtain ⟨p, hparse, hending, hstart, hsteps⟩ := hreached.parsed
    have hwalk : disk.walk origin (steps ++ [name]) = .error .notFound :=
      Disk.walk_eq_error_of_open (List.forall_mem_append.1 hreached.fits).1 horigin
        (fun l hl => h.isOpen hreached hl) hmade (List.cons_ne_nil name [])
    rw [Disk.leadsSomewhere, Disk.locate, hparse]
    simp [bind, Except.bind, hstart, hsteps, hwalk]

/-- A book that a site holds is loaded from it. -/
theorem load (h : site.Holds b disk) (hreached : site.Reached working path origin steps name)
    (horigin : disk.isDirectory origin = true) : Book.load disk working path = .ok b := by
  rcases h.file with ⟨hfree, rfl, -⟩ | ⟨text, htext, hbook, hmade⟩
  · rw [Book.load, h.leadsSomewhere_eq_false hreached horigin hfree]
    rfl
  · have hdirectories : ∀ l ∈ Files.passing origin steps, disk.isDirectory l = true := by
      intro l hl
      exact (hreached.through l hl).elim (h.standing l) (hmade l)
    have hwritable := h.writable hreached horigin hdirectories
    rw [Book.load, Disk.leadsSomewhere_of_writable hwritable htext,
      Disk.read_of_writable hwritable htext]
    simp [hbook]

/-- The disk of a site with a book's text in the file. -/
theorem set (h : site.Holds b disk) (hmade : ∀ l, site.missing l → disk.isDirectory l = true)
    (c : Book) : site.Holds c (disk.set site.place (some (.file (.text c.write)))) where
  standing := by
    intro l hl
    have hne : l ≠ site.place := fun heq => h.not_standing_place (heq ▸ hl)
    rw [Disk.isDirectory_set_of_ne _ hne, h.standing l hl]
  file := by
    refine .inr ⟨c.write, Disk.entry_set_self _ _ _, c.parse_write, fun l hl => ?_⟩
    have hne : l ≠ site.place := fun heq => site.not_missing (heq ▸ hl)
    rw [Disk.isDirectory_set_of_ne _ hne, hmade l hl]

/-- A site still holds its book after directories have been made on a way to it. -/
theorem of_makes (h : site.Holds b disk)
    (hreached : site.Reached working path origin steps name)
    (hmakes : disk.Makes disk' (Files.passing origin steps)) : site.Holds b disk' := by
  refine h.of_spared ?_ (fun l hl => hmakes.keepsDirectories l (h.standing l hl)) ?_
  · rcases hmakes site.place with heq | ⟨hpassing, -, -⟩
    · exact heq
    · exact absurd (hreached.through _ hpassing) (not_or.2 ⟨h.not_standing_place, site.not_missing⟩)
  · intro l _
    exact (hmakes l).imp id fun hmade => hmade.2.2

/-- Saving succeeds, and the site holds the saved book then. -/
theorem save (h : site.Holds b disk) (hreached : site.Reached working path origin steps name)
    (horigin : disk.isDirectory origin = true) (c : Book) :
    ∃ disk', c.save disk working path = (disk', .ok ()) ∧ site.Holds c disk' := by
  obtain ⟨ending, parent, hending, hroom⟩ := hreached.room
  have hfits : Disk.Fits steps.reverse.reverse := by
    rw [List.reverse_reverse]
    exact (List.forall_mem_append.1 hreached.fits).1
  have hopen : ∀ l ∈ Files.passing origin steps.reverse.reverse, disk.IsOpen l := by
    rw [List.reverse_reverse]
    exact fun l hl => h.isOpen hreached hl
  have hback : ending = .dot → steps.reverse = [] := fun hdot => by rw [hending hdot]; rfl
  have hmakes := Disk.makes_makeDirectoriesAt Files.usualMode origin ending steps.reverse disk
  obtain ⟨hok, hmade⟩ :=
    Disk.makeDirectoriesAt_of_open Files.usualMode hback hfits horigin hopen
  rw [List.reverse_reverse] at hmakes hmade
  have hroom' := hroom disk
  rw [hok] at hroom'
  generalize (Disk.makeDirectoriesAt Files.usualMode origin ending steps.reverse disk).1 = made
    at hroom' hmakes hmade
  have hheld := h.of_makes hreached hmakes
  have hwritable := hheld.writable hreached (hmakes.keepsDirectories origin horigin) hmade
  refine ⟨_, save_eq_ok_iff.2 ⟨made, hroom', Disk.write_eq_ok_iff.2 ⟨_, hwritable, rfl⟩⟩, ?_⟩
  exact hheld.set (fun l hl => hmade l (hreached.missing l hl)) c

end Holds

end Site

end TronWallet.Book
