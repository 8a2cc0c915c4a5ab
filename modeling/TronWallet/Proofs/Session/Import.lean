import TronWallet.Proofs.Book.Bulk
import TronWallet.Proofs.Program.Home
import TronWallet.Proofs.Session.Change

/-!
# Importing accounts

An import registers the accounts of a file in the order in which the file's table lists
them, and writes the book once. `importAccounts_agrees` compares this with the same accounts
added one at a time, in any order: by registrations in one book (`Book.RegistersEach`), and
by commands of which each loads the book and writes it again (`AddsEach`).
-/

namespace TronWallet

open Files (Disk)
open Book (RegistersEach)

variable {s : Surroundings} {disk after : Disk} {session : Session} {b c imported : Book}
  {path : String} {ps : List (String × Address)}

/-- What an import prints. -/
def importedText (count : Nat) : String :=
  "Imported " ++ Text.Decimal.natString count ++ " account(s).\n"

/-- Accounts are added one at a time, each in a session with the book that the disk then
holds, and each of these commands succeeds. -/
inductive AddsEach (s : Surroundings) : List (String × Address) → Disk → Disk → Prop where
  | nil (disk : Disk) : AddsEach s [] disk disk
  | cons {name : String} {address : Address} {ps : List (String × Address)}
      {disk mid after : Disk} {session : Session} {text : String}
      (hload : Book.load disk s.working s.bookPath = .ok session.book)
      (hadd : session.carryOut s disk (.addAccount name address.toBase58) = (mid, .ok text))
      (hrest : AddsEach s ps mid after) : AddsEach s ((name, address) :: ps) disk after

/-! ## One command for each account -/

/-- Adding an account saves the book with the account registered. -/
theorem save_of_carryOut_add {name text : String} {address : Address}
    (h : session.carryOut s disk (.addAccount name address.toBase58) = (after, .ok text)) :
    ∃ c, session.book.register name address = .ok c ∧
      c.save disk s.working s.bookPath = (after, .ok ()) := by
  rw [Session.carryOut] at h
  cases hplan : session.plan s disk (.addAccount name address.toBase58) with
  | error failure =>
      rw [hplan] at h
      cases h
  | ok action =>
      obtain ⟨change, c, printed, hwanted, happly, rfl⟩ := wanted_of_plan rfl hplan
      obtain ⟨address', hparse, rfl⟩ := wantedChange?_addAccount_iff.1 hwanted
      rw [Address.parse_toBase58] at hparse
      cases hparse
      rw [hplan] at h
      simp only [Action.perform] at h
      cases hsave : c.save disk s.working s.bookPath with
      | mk made result =>
          rw [hsave] at h
          cases result with
          | error failure => cases h
          | ok _ =>
              cases h
              exact ⟨c, happly, hsave⟩

theorem carryOut_add_of_register (session : Session) {name : String} {address : Address}
    (h : session.book.register name address = .ok c)
    (hsave : c.save disk s.working s.bookPath = (after, .ok ())) :
    ∃ text, session.carryOut s disk (.addAccount name address.toBase58) = (after, .ok text) :=
  carryOut_of_wanted
    (wantedChange?_addAccount_iff.2 ⟨address, Address.parse_toBase58 address, rfl⟩) h hsave

/-- Accounts that are added one at a time are registered one after the other, and the disk
holds the book they lead to. -/
theorem AddsEach.registersEach (h : AddsEach s ps disk after)
    (hload : Book.load disk s.working s.bookPath = .ok b) :
    ∃ c, RegistersEach b ps c ∧ Book.load after s.working s.bookPath = .ok c := by
  induction h generalizing b with
  | nil disk => exact ⟨b, .nil b, hload⟩
  | cons hfirst hadd _ ih =>
      obtain ⟨c, hregister, hsave⟩ := save_of_carryOut_add hadd
      rw [hload] at hfirst
      cases hfirst
      obtain ⟨d, hrest, hafter⟩ := ih (Book.load_of_save hsave)
      exact ⟨d, .cons hregister hrest, hafter⟩

/-- Accounts that can be registered one after the other can be added one at a time, where
the book can be saved. -/
theorem exists_addsEach (session : Session) (h : RegistersEach b ps c)
    (hload : Book.load disk s.working s.bookPath = .ok b)
    (hsave : (b.save disk s.working s.bookPath).2 = .ok ()) :
    ∃ after, AddsEach s ps disk after := by
  induction h generalizing disk with
  | nil b => exact ⟨disk, .nil disk⟩
  | @cons b b' c name address ps hregister _ ih =>
      obtain ⟨mid, hmid⟩ := Book.exists_save_of_save (Prod.ext rfl hsave) b'
      obtain ⟨again, hagain⟩ := Book.exists_save_after_save hmid
      obtain ⟨after, hrest⟩ := ih (Book.load_of_save hmid) (congrArg Prod.snd hagain)
      obtain ⟨text, hadd⟩ := carryOut_add_of_register { session with book := b } hregister hmid
      exact ⟨after, .cons hload hadd hrest⟩

/-! ## One command for all of them -/

/-- An import whose accounts can be registered saves the book they lead to. -/
theorem carryOut_import_of_registersEach (hfile : session.settings.file = some path)
    (himported : Session.importedBook s disk path = .ok imported)
    (h : RegistersEach session.book imported.pairs c) :
    session.carryOut s disk .importAccounts = ((c.save disk s.working s.bookPath).1,
      (c.save disk s.working s.bookPath).2.map fun () => importedText imported.size) := by
  have hregister := Book.registerAll_eq_ok_iff_registersEach.2 h
  have hplan : session.plan s disk .importAccounts =
      .ok (.writeBook c (importedText imported.size)) := by
    rw [Session.plan, Session.importAccounts, hfile]
    refine Except.bind_eq_ok_iff.2 ⟨imported, himported, Except.bind_eq_ok_iff.2 ⟨c, ?_, rfl⟩⟩
    exact Except.mapError_eq_ok_iff.2 hregister
  rw [Session.carryOut, hplan]
  rfl

/-- An import of which some account is refused writes nothing. -/
theorem carryOut_import_of_refused (hfile : session.settings.file = some path)
    (himported : Session.importedBook s disk path = .ok imported)
    (h : ¬ ∃ c, RegistersEach session.book imported.pairs c) :
    ∃ failure, session.carryOut s disk .importAccounts = (disk, .error failure) := by
  refine carryOut_of_unwanted rfl fun change c hwanted happly => h ⟨c, ?_⟩
  obtain ⟨path', imported', hfile', himported', rfl⟩ := wantedChange?_importAccounts_iff.1 hwanted
  rw [hfile] at hfile'
  cases hfile'
  rw [himported] at himported'
  cases himported'
  exact Book.registerAll_eq_ok_iff_registersEach.1 happly

/-- A bulk import agrees with registering the accounts one by one, in any order. If each of
them is accepted, then the import saves the book that they lead to, which has the old
accounts and the new ones under their names without the white space around them, and is
larger by the printed number; otherwise it fails and the disk stays as it is. So where the
book can be written, the import succeeds exactly if the accounts can all be registered one
after the other, and exactly if they can be added by one command each, and then the same
book is loaded after it. -/
theorem importAccounts_agrees (hfile : session.settings.file = some path)
    (himported : Session.importedBook s disk path = .ok imported)
    (hload : Book.load disk s.working s.bookPath = .ok session.book)
    (hperm : ps.Perm imported.pairs) :
    (∀ c, RegistersEach session.book ps c →
      session.carryOut s disk .importAccounts = ((c.save disk s.working s.bookPath).1,
          (c.save disk s.working s.bookPath).2.map fun () => importedText imported.size) ∧
        (∀ name address, c.get? name = some address ↔ session.book.get? name = some address ∨
          (name, address) ∈ ps.map fun p => (Text.trimmed p.1, p.2)) ∧
        c.size = session.book.size + imported.size) ∧
      ((¬ ∃ c, RegistersEach session.book ps c) →
        ∃ failure, session.carryOut s disk .importAccounts = (disk, .error failure)) ∧
      ((session.book.save disk s.working s.bookPath).2 = .ok () →
        ((∃ text, (session.carryOut s disk .importAccounts).2 = .ok text) ↔
            ∃ c, RegistersEach session.book ps c) ∧
          ((∃ after, AddsEach s ps disk after) ↔ ∃ c, RegistersEach session.book ps c) ∧
          ∀ c, RegistersEach session.book ps c →
            Book.load (session.carryOut s disk .importAccounts).1 s.working s.bookPath = .ok c ∧
              ∀ after, AddsEach s ps disk after →
                Book.load after s.working s.bookPath = .ok c) := by
  have himport : ∀ c, RegistersEach session.book ps c →
      session.carryOut s disk .importAccounts = ((c.save disk s.working s.bookPath).1,
        (c.save disk s.working s.bookPath).2.map fun () => importedText imported.size) :=
    fun c h => carryOut_import_of_registersEach hfile himported (h.of_perm hperm)
  have hrefused : (¬ ∃ c, RegistersEach session.book ps c) →
      ∃ failure, session.carryOut s disk .importAccounts = (disk, .error failure) := by
    intro hnone
    refine carryOut_import_of_refused hfile himported ?_
    rintro ⟨c, h⟩
    exact hnone ⟨c, h.of_perm hperm.symm⟩
  refine ⟨fun c h => ⟨himport c h, Book.get?_of_registersEach h, ?_⟩, hrefused, fun hsave => ?_⟩
  · rw [Book.size_of_registersEach h, hperm.length_eq]
    rfl
  have hsaved : ∀ c : Book, ∃ after, c.save disk s.working s.bookPath = (after, .ok ()) :=
    Book.exists_save_of_save (Prod.ext rfl hsave)
  refine ⟨⟨?_, ?_⟩, ⟨?_, ?_⟩, fun c h => ⟨?_, fun after hadds => ?_⟩⟩
  · rintro ⟨text, htext⟩
    by_contra hnone
    obtain ⟨failure, hfails⟩ := hrefused hnone
    rw [hfails] at htext
    cases htext
  · rintro ⟨c, h⟩
    obtain ⟨after, hafter⟩ := hsaved c
    exact ⟨importedText imported.size, by rw [himport c h, hafter]; rfl⟩
  · rintro ⟨after, hadds⟩
    obtain ⟨c, h, -⟩ := hadds.registersEach hload
    exact ⟨c, h⟩
  · rintro ⟨c, h⟩
    exact exists_addsEach session h hload hsave
  · obtain ⟨after, hafter⟩ := hsaved c
    rw [himport c h, hafter]
    exact Book.load_of_save hafter
  · obtain ⟨d, hd, hload'⟩ := hadds.registersEach hload
    rw [hload', Except.ok.injEq]
    rw [Book.registersEach_iff] at h hd
    rw [h.2.2, hd.2.2]

/-- A book with one account. -/
def oneAccount : Book :=
  Book.empty.set "carol" ⟨List.replicate 20 8, rfl⟩

/-- The disk of that book, and of a file with two accounts to be imported. -/
def importDisk : Disk :=
  (oneAccount.save .empty [] "/state/accounts.toml").1.set ["more.toml"]
    (some (.file (.text
      ("\" bob \" = 'TR7NHqjeKQxGTCi8q8ZY4pL8otSzgjLj6t' # padded\n" ++
        "alice = 'TA4Wt1DUCqz6YegbnsmqsWC5uUfbdBqPxm'\n"))))

/-- The session of an import from that file. -/
def importSession : Session where
  settings := .of { file := some "/more.toml" } {}
  latency := 5
  signer := none
  book := oneAccount

/-- The accounts of that file. -/
def fileAccounts : List (String × Address) :=
  [(" bob ", ⟨[166, 20, 248, 3, 182, 253, 120, 9, 134, 164, 44, 120, 236, 156, 127, 119, 230, 222,
    209, 60], rfl⟩), ("alice", ⟨List.replicate 20 1, rfl⟩)]

theorem importAccounts_agrees_twoNames :
    (importSession.settings.file = some "/more.toml" ∧
      Session.importedBook freshSurroundings importDisk "/more.toml" =
        .ok (.ofPairs fileAccounts) ∧
      Book.load importDisk [] "/state/accounts.toml" = .ok importSession.book ∧
      fileAccounts.reverse.Perm (Book.ofPairs fileAccounts).pairs ∧
      (importSession.book.save importDisk [] "/state/accounts.toml").2 = .ok ()) ∧
    (importSession.carryOut freshSurroundings importDisk .importAccounts).2 =
      .ok "Imported 2 account(s).\n" ∧
    (∃ after, AddsEach freshSurroundings fileAccounts.reverse importDisk after) ∧
    ∃ c, RegistersEach importSession.book fileAccounts.reverse c ∧ c.size = 3 ∧
      Book.load (importSession.carryOut freshSurroundings importDisk .importAccounts).1 []
        "/state/accounts.toml" = .ok c := by
  have hfile : importSession.settings.file = some "/more.toml" := rfl
  have himported : Session.importedBook freshSurroundings importDisk "/more.toml" =
      .ok (.ofPairs fileAccounts) := by decide +kernel
  have hload : Book.load importDisk [] "/state/accounts.toml" = .ok importSession.book := by
    decide +kernel
  have hperm : fileAccounts.reverse.Perm (Book.ofPairs fileAccounts).pairs := by
    decide +kernel
  have hsave : (importSession.book.save importDisk [] "/state/accounts.toml").2 = .ok () := by
    decide +kernel
  have hprinted : (importSession.carryOut freshSurroundings importDisk .importAccounts).2 =
      .ok "Imported 2 account(s).\n" := by decide +kernel
  obtain ⟨hcontents, -, hwritten⟩ := importAccounts_agrees hfile himported hload hperm
  obtain ⟨hsucceeds, hadds, hloads⟩ := hwritten hsave
  obtain ⟨c, hc⟩ := hsucceeds.1 ⟨_, hprinted⟩
  exact ⟨⟨hfile, himported, hload, hperm, hsave⟩, hprinted, hadds.2 ⟨c, hc⟩, c, hc,
    (hcontents c hc).2.2, (hloads c hc).1⟩

end TronWallet
