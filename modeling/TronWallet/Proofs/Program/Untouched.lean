import TronWallet.Proofs.Program.Home
import TronWallet.Proofs.Session.Change

/-!
# Runs that leave the book alone

A run does one of three things to the disk (`execute_effect`): nothing, it writes the
documentation, or it saves a book. Writing the documentation does not come near the book. A
book that could not be saved leaves at most directories behind, all of them on the way to its
own place (`makes_of_save_error`); so a run that fails or asks for no change of the book leaves
the book as it was, unless that way leads through the place of the book itself.
-/

namespace TronWallet

open Files (Disk Location)

variable {s : Surroundings} {disk after : Disk} {words : List String} {b : Book}

/-- A book that could not be saved leaves at most directories on the way to it. -/
theorem makes_of_save_error {failure : Failure}
    (h : b.save disk s.working s.bookPath = (after, .error failure)) :
    disk.Makes after s.bookWay := by
  have hmakes := makes_makeRoom disk s
  rw [Book.save] at h
  split at h
  · rename_i made fault hroom
    cases h
    rwa [hroom] at hmakes
  · rename_i made hroom
    rw [hroom] at hmakes
    split at h
    · cases h
    · cases h
      exact hmakes

/-! ## What a run does to the disk -/

/-- What a run can do to the disk. -/
inductive Effect (s : Surroundings) (disk : Disk) (words : List String) (run : Run) : Prop where
  | nothing (hdisk : run.disk = disk)
  | documented (hdisk : run.disk = (Documentation.generate CommandLine.program
      (s.lookup CommandLine.verboseVariable) s.working (documentationDirectory s) disk).1)
  | saved {options : CommandLine.Options} {request : CommandLine.Request} {b : Book}
      {result : Except Failure Unit} (hasks : Asks s words options request)
      (hchanges : changesBook request = true)
      (hsave : b.save disk s.working s.bookPath = (run.disk, result))
      (hcode : run.outcome.code = 0 ↔ result = .ok ())

theorem Outcome.code_eq_zero_iff {outcome : Outcome} :
    outcome.code = 0 ↔ ∃ text, outcome = .finished text := by
  cases outcome <;> simp [Outcome.code]

theorem execute_effect (s : Surroundings) (disk : Disk) (words : List String) :
    Effect s disk words (execute s disk words) := by
  by_cases hnone : ∀ options request, ¬ Asks s words options request
  · exact .nothing (execute_of_not_asks hnone)
  push Not at hnone
  obtain ⟨options, request, hasks⟩ := hnone
  cases hopened : Session.opened s disk options with
  | error failure => exact .nothing (execute_of_not_opened hasks hopened).1
  | ok session =>
      obtain ⟨hdisk, houtcome⟩ := execute_of_opened hasks hopened
      cases hchanges : changesBook request with
      | false =>
          exact (disk_carryOut_of_not_changesBook hchanges).elim
            (fun hsame => .nothing (hdisk.trans hsame))
            (fun hgenerate => .documented (hdisk.trans hgenerate))
      | true =>
          cases hplan : session.plan s disk request with
          | error failure =>
              refine .nothing (hdisk.trans ?_)
              rw [Session.carryOut, hplan]
          | ok action =>
              obtain ⟨-, c, text, -, -, rfl⟩ := wanted_of_plan hchanges hplan
              simp only [Session.carryOut, hplan, Action.perform] at hdisk houtcome
              refine .saved hasks hchanges (Prod.ext hdisk.symm rfl) ?_
              simp only [Outcome.code_eq_zero_iff, houtcome, Except.map_eq_ok_iff]
              grind

/-- A run that fails or asks for no change of the book leaves the book as it was. There is one
exception: nothing was at its place, a change of the book has failed, and the way to the book
leads through this place. Then a directory is there afterwards. -/
theorem entry_book_execute (hground : disk.Grounded s.working)
    (h : (execute s disk words).outcome.code = 1 ∨
      ∀ options request, Asks s words options request → changesBook request = false) :
    let run := execute s disk words
    run.disk.entry s.bookFile = disk.entry s.bookFile ∨
      (s.bookFile ∈ s.bookWay ∧ disk.occupied s.bookFile = false ∧
        run.disk.isDirectory s.bookFile = true ∧ run.outcome.code = 1 ∧
        ∃ options request, Asks s words options request ∧ changesBook request = true) := by
  intro run
  have heffect : Effect s disk words run := execute_effect s disk words
  cases heffect with
  | nothing hdisk => exact .inl (by rw [hdisk])
  | documented hdisk =>
      exact .inl (by rw [hdisk, s.bookFile_eq, entry_generate_bookPlace hground])
  | @saved options request b result hasks hchanges hsave hcode =>
      have hfails : run.outcome.code = 1 := by
        rcases h with hfails | hnone
        · exact hfails
        · rw [hnone options request hasks] at hchanges
          cases hchanges
      cases result with
      | ok _ =>
          have hsucceeds := hcode.2 rfl
          omega
      | error failure =>
          refine (makes_of_save_error hsave s.bookFile).imp id ?_
          rintro ⟨hway, hfree, hmade⟩
          exact ⟨hway, hfree, hmade, hfails, options, request, hasks, hchanges⟩

/-- The words that add an account for the null address. -/
def addAlice : List String := ["accounts", "add", "alice", "T9yD14Nj9j7xAB4dbGeiX9h8unkKHxuWwb"]

/-- A disk with an account on it. -/
def diskWithAlice : Disk := (execute freshSurroundings .empty addAlice).disk

/-- An account that is there already cannot be added once more, and the book stays. -/
theorem entry_book_execute_addTwice :
    diskWithAlice.Grounded freshSurroundings.working ∧
      (execute freshSurroundings diskWithAlice addAlice).outcome.code = 1 ∧
      (diskWithAlice.entry freshSurroundings.bookFile).isSome = true ∧
      (execute freshSurroundings diskWithAlice addAlice).disk.entry freshSurroundings.bookFile =
        diskWithAlice.entry freshSurroundings.bookFile := by
  have hground : diskWithAlice.Grounded freshSurroundings.working := diskWithAlice.grounded_nil
  have hcode : (execute freshSurroundings diskWithAlice addAlice).outcome.code = 1 := by
    decide +kernel
  have hway : freshSurroundings.bookFile ∉ freshSurroundings.bookWay := by decide +kernel
  refine ⟨hground, hcode, by decide +kernel, ?_⟩
  exact (entry_book_execute hground (.inl hcode)).resolve_right fun h => hway h.1

/-- Surroundings whose state directory is reached through the place of the book. -/
def roundabout : Surroundings where
  lookup name := if name = Surroundings.stateVariable then some "x/accounts.toml/.." else none
  working := []
  contact _ := .reached 5
  service _ _ := .lost
  now := 0

/-- Such a run makes a directory in the place of the book, and fails. The book could be loaded
before, and it cannot be loaded afterwards. -/
theorem touched_roundabout :
    let run := execute roundabout .empty addAlice
    run.outcome.code = 1 ∧ Disk.empty.entry roundabout.bookFile = none ∧
      run.disk.entry roundabout.bookFile = some (.directory 0o755) ∧
      (Book.load .empty roundabout.working roundabout.bookPath).isOk = true ∧
      (Book.load run.disk roundabout.working roundabout.bookPath).isOk = false := by
  decide +kernel

end TronWallet
