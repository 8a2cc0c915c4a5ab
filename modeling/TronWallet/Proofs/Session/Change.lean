import TronWallet.Program
import TronWallet.Proofs.Book.Change
import TronWallet.Proofs.Book.Site

/-!
# What a command changes

A command line that asks for something first opens a session, which reads and changes
nothing (`Session.opened`), and then carries the request out in it (`execute_of_opened`).
The book is written only by requests that ask for a `Change` of it, and then what is
written is the session's book with this change (`wanted_of_plan`, `plan_of_wanted`).
-/

namespace TronWallet

open Files (Disk)

variable {s : Surroundings} {disk : Disk} {words : List String} {options : CommandLine.Options}
  {request : CommandLine.Request} {session : Session} {b c : Book} {text : String}

/-! ## Sessions that are opened -/

/-- The session of a command line: the configuration is loaded, then the session is
established. -/
def Session.opened (s : Surroundings) (disk : Disk) (options : CommandLine.Options) :
    Except Failure Session := do
  let config ← loadConfig s disk
  Session.establish s disk (.of options config) config

/-- Do the words ask for the request? -/
def Asks (s : Surroundings) (words : List String) (options : CommandLine.Options)
    (request : CommandLine.Request) : Prop :=
  CommandLine.parse (s.lookup CommandLine.verboseVariable) words = .ok ⟨options, some request⟩

@[simp] theorem Run.disk_fail (s : Surroundings) (disk : Disk) (update : Option UpdateConfig)
    (failure : Failure) : (Run.fail s disk update failure).disk = disk := by
  rw [Run.fail]
  split <;> rfl

theorem Run.outcome_fail_ne (s : Surroundings) (disk : Disk) (update : Option UpdateConfig)
    (failure : Failure) :
    ∀ text, (Run.fail s disk update failure).outcome ≠ .finished text := by
  intro text
  rw [Run.fail]
  split <;> simp

/-- A run without a session changes nothing and fails. -/
theorem execute_of_not_opened (h : Asks s words options request) {failure : Failure}
    (hopened : Session.opened s disk options = .error failure) :
    (execute s disk words).disk = disk ∧
      ∀ text, (execute s disk words).outcome ≠ .finished text := by
  rw [execute, h]
  dsimp only
  rw [Session.opened] at hopened
  split
  · exact ⟨Run.disk_fail _ _ _ _, Run.outcome_fail_ne _ _ _ _⟩
  · rename_i config hconfig
    have hestablish : Session.establish s disk (.of options config) config = .error failure := by
      simpa [hconfig, bind, Except.bind] using hopened
    rw [runCommand, hestablish]
    exact ⟨Run.disk_fail _ _ _ _, Run.outcome_fail_ne _ _ _ _⟩

/-- A run with a session carries out the request in it. -/
theorem execute_of_opened (h : Asks s words options request)
    (hopened : Session.opened s disk options = .ok session) :
    (execute s disk words).disk = (session.carryOut s disk request).1 ∧
      ∀ text, (execute s disk words).outcome = .finished text ↔
        (session.carryOut s disk request).2 = .ok text := by
  obtain ⟨config, hconfig, hestablish⟩ := Except.bind_eq_ok_iff.1 hopened
  rw [execute, h]
  dsimp only
  rw [hconfig]
  dsimp only
  simp only [runCommand, hestablish]
  cases session.carryOut s disk request with
  | mk after result =>
      cases result with
      | ok printed => simp [Run.finish]
      | error failure => simp [Run.outcome_fail_ne]

/-- A command line that asks for no request changes nothing. -/
theorem execute_of_not_asks (h : ∀ options request, ¬ Asks s words options request) :
    (execute s disk words).disk = disk := by
  rw [execute]
  split
  · rfl
  · rfl
  · exact Run.disk_fail ..
  · rfl
  · rename_i options request hparse
    exact absurd hparse (h options request)

/-! ## What a session holds -/

theorem resolveSigner_eq_ok_iff {signer : Option String} {resolved : Option Address} :
    resolveSigner b signer = .ok resolved ↔
      (∀ name, signer = some name → name ≠ "" → ∃ address, b.resolve name = some address) ∧
        resolved = (signer.filter (· ≠ "")).bind b.resolve := by
  cases signer with
  | none => simp [resolveSigner, eq_comm]
  | some name =>
      by_cases hempty : name = ""
      · simp [resolveSigner, hempty, Option.filter, eq_comm]
      · cases hresolve : b.resolve name <;>
          simp [resolveSigner, resolve, hempty, hresolve, Option.filter, Except.map, eq_comm]

theorem opened_eq_ok_iff (hload : Book.load disk s.working s.bookPath = .ok b) :
    Session.opened s disk options = .ok session ↔
      ∃ config, loadConfig s disk = .ok config ∧ session.settings = .of options config ∧
        connect s session.settings.node config.node.connectTimeout = .ok session.latency ∧
        resolveSigner b options.signer = .ok session.signer ∧ session.book = b := by
  rw [Session.opened, Except.bind_eq_ok_iff]
  refine exists_congr fun config => and_congr_right fun _ => ?_
  simp only [Session.establish, Except.bind_eq_ok_iff, hload, Except.ok.injEq, exists_eq_left']
  constructor
  · rintro ⟨latency, hconnect, signer, hsigner, hsession⟩
    cases hsession
    exact ⟨rfl, hconnect, hsigner, rfl⟩
  · rintro ⟨hsettings, hconnect, hsigner, hbook⟩
    obtain ⟨settings, latency, signer, book⟩ := session
    subst hsettings hbook
    exact ⟨latency, hconnect, signer, hsigner, rfl⟩

/-! ## Changes of the book -/

/-- The change that a request asks for, given the file that the options name. -/
def wantedChange? (s : Surroundings) (disk : Disk) (file : Option String) :
    CommandLine.Request → Option Change
  | .addAccount name text => (Address.parse text).toOption.map (.register name)
  | .removeAccount name => some (.remove name)
  | .importAccounts => file.bind fun path =>
      (Session.importedBook s disk path).toOption.map fun imported => .registerAll imported.pairs
  | _ => none

/-- Does the request ask for a change of the book? -/
def changesBook : CommandLine.Request → Bool
  | .addAccount _ _ | .removeAccount _ | .importAccounts => true
  | _ => false

variable {file : Option String} {change : Change}

theorem wantedChange?_addAccount_iff {name : String} :
    wantedChange? s disk file (.addAccount name text) = some change ↔
      ∃ address, Address.parse text = .ok address ∧ change = .register name address := by
  rw [wantedChange?, Option.map_eq_some_iff]
  refine exists_congr fun address => ?_
  rw [Except.toOption_eq_some_iff, eq_comm (a := change)]

theorem wantedChange?_importAccounts_iff :
    wantedChange? s disk file .importAccounts = some change ↔
      ∃ path imported, file = some path ∧ Session.importedBook s disk path = .ok imported ∧
        change = .registerAll imported.pairs := by
  rw [wantedChange?, Option.bind_eq_some_iff]
  simp only [Option.map_eq_some_iff, Except.toOption_eq_some_iff, exists_and_left,
    eq_comm (b := change)]

/-- A request for a change writes the session's book with this change, and does nothing
else. -/
theorem wanted_of_plan (h : changesBook request = true) {action : Action}
    (hplan : session.plan s disk request = .ok action) :
    ∃ change c text, wantedChange? s disk session.settings.file request = some change ∧
      change.apply session.book = .ok c ∧ action = .writeBook c text := by
  cases request with
  | addAccount name value =>
      obtain ⟨address, hparse, hrest⟩ := Except.bind_eq_ok_iff.1 hplan
      obtain ⟨book, hregister, hwrite⟩ := Except.bind_eq_ok_iff.1 hrest
      rw [Except.mapError_eq_ok_iff] at hparse hregister
      cases hwrite
      exact ⟨.register name address, book, _,
        wantedChange?_addAccount_iff.2 ⟨address, hparse, rfl⟩, hregister, rfl⟩
  | removeAccount name =>
      obtain ⟨⟨address, book⟩, hremove, hwrite⟩ := Except.bind_eq_ok_iff.1 hplan
      rw [Except.mapError_eq_ok_iff] at hremove
      cases hwrite
      exact ⟨.remove name, book, _, rfl, by rw [Change.apply, hremove]; rfl, rfl⟩
  | importAccounts =>
      rw [Session.plan, Session.importAccounts] at hplan
      split at hplan
      · cases hplan
      · rename_i path hfile
        obtain ⟨imported, himported, hrest⟩ := Except.bind_eq_ok_iff.1 hplan
        obtain ⟨book, hregister, hwrite⟩ := Except.bind_eq_ok_iff.1 hrest
        rw [Except.mapError_eq_ok_iff] at hregister
        cases hwrite
        exact ⟨.registerAll imported.pairs, book, _,
          wantedChange?_importAccounts_iff.2 ⟨path, imported, hfile, himported, rfl⟩,
          hregister, rfl⟩
  | docs => cases h
  | listAccounts => cases h
  | resolveAddress value => cases h
  | nodeStatus => cases h
  | transfer recipient amount => cases h

theorem plan_of_wanted (hwanted : wantedChange? s disk session.settings.file request = some change)
    (happly : change.apply session.book = .ok c) :
    ∃ text, session.plan s disk request = .ok (.writeBook c text) := by
  cases request with
  | addAccount name value =>
      obtain ⟨address, hparse, rfl⟩ := wantedChange?_addAccount_iff.1 hwanted
      refine ⟨_, Except.bind_eq_ok_iff.2 ⟨address, ?_, Except.bind_eq_ok_iff.2 ⟨c, ?_, rfl⟩⟩⟩
      · exact Except.mapError_eq_ok_iff.2 hparse
      · exact Except.mapError_eq_ok_iff.2 happly
  | removeAccount name =>
      cases hwanted
      obtain ⟨⟨address, book⟩, hremove, rfl⟩ := Except.map_eq_ok_iff.1 happly
      exact ⟨_, Except.bind_eq_ok_iff.2
        ⟨(address, book), Except.mapError_eq_ok_iff.2 hremove, rfl⟩⟩
  | importAccounts =>
      obtain ⟨path, imported, hfile, himported, rfl⟩ := wantedChange?_importAccounts_iff.1 hwanted
      rw [Session.plan, Session.importAccounts, hfile]
      refine ⟨_, Except.bind_eq_ok_iff.2
        ⟨imported, himported, Except.bind_eq_ok_iff.2 ⟨c, ?_, rfl⟩⟩⟩
      exact Except.mapError_eq_ok_iff.2 happly
  | docs => cases hwanted
  | listAccounts => cases hwanted
  | resolveAddress value => cases hwanted
  | nodeStatus => cases hwanted
  | transfer recipient amount => cases hwanted

/-- No other request writes the book. -/
theorem plan_ne_writeBook (h : changesBook request = false) :
    session.plan s disk request ≠ .ok (.writeBook c text) := by
  intro hplan
  cases request with
  | resolveAddress value =>
      obtain ⟨address, -, hprint⟩ := Except.bind_eq_ok_iff.1 hplan
      cases hprint
  | transfer recipient amount =>
      rw [Session.plan, Session.transfer] at hplan
      split at hplan
      · cases hplan
      · obtain ⟨address, -, hrest⟩ := Except.bind_eq_ok_iff.1 hplan
        split at hrest
        · cases hrest
        · obtain ⟨receipt, -, hprint⟩ := Except.bind_eq_ok_iff.1 hrest
          cases hprint
  | docs => cases hplan
  | listAccounts => cases hplan
  | nodeStatus => cases hplan
  | addAccount name value => cases h
  | removeAccount name => cases h
  | importAccounts => cases h

/-! ## Carrying out -/

variable {site : Book.Site} {origin : Files.Location} {steps : List String} {name : String}

/-- A request for a change writes the session's book with this change. -/
theorem carryOut_of_wanted {after : Disk}
    (hwanted : wantedChange? s disk session.settings.file request = some change)
    (happly : change.apply session.book = .ok c)
    (hsave : c.save disk s.working s.bookPath = (after, .ok ())) :
    ∃ text, session.carryOut s disk request = (after, .ok text) := by
  obtain ⟨text, hplan⟩ := plan_of_wanted hwanted happly
  refine ⟨text, ?_⟩
  rw [Session.carryOut, hplan]
  simp only [Action.perform, hsave]
  rfl

/-- A request for a change fails if there is no such change of the session's book. -/
theorem carryOut_of_unwanted (h : changesBook request = true)
    (hnone : ∀ change c, wantedChange? s disk session.settings.file request = some change →
      change.apply session.book ≠ .ok c) :
    ∃ failure, session.carryOut s disk request = (disk, .error failure) := by
  cases hplan : session.plan s disk request with
  | error failure => exact ⟨failure, by rw [Session.carryOut, hplan]⟩
  | ok action =>
      obtain ⟨change, c, text, hwanted, happly, -⟩ := wanted_of_plan h hplan
      exact absurd happly (hnone change c hwanted)

/-- Any other request changes nothing, or it writes the documentation. -/
theorem disk_carryOut_of_not_changesBook (h : changesBook request = false) :
    (session.carryOut s disk request).1 = disk ∨
      (session.carryOut s disk request).1 = (Documentation.generate CommandLine.program
        (s.lookup CommandLine.verboseVariable) s.working (documentationDirectory s) disk).1 := by
  cases hplan : session.plan s disk request with
  | error failure =>
      left
      rw [Session.carryOut, hplan]
  | ok action =>
      rw [Session.carryOut, hplan]
      cases action with
      | print text => exact .inl rfl
      | writeBook c text => exact absurd hplan (plan_ne_writeBook h)
      | writeDocumentation => exact .inr rfl

/-! ## What the other commands print -/

theorem carryOut_list :
    (session.carryOut s disk .listAccounts).2 = .ok text ↔
      text = session.book.listing := by
  simp [Session.carryOut, Session.plan, Action.perform, eq_comm]

theorem carryOut_status :
    (session.carryOut s disk .nodeStatus).2 = .ok text ↔
      text = session.render session.statusDocument := by
  simp [Session.carryOut, Session.plan, Action.perform, eq_comm]

theorem carryOut_resolve {value : String} :
    (session.carryOut s disk (.resolveAddress value)).2 = .ok text ↔
      ∃ address, session.book.resolve value = some address ∧
        text = session.render (Session.resolvedDocument value address) := by
  rw [Session.carryOut, Session.plan, Session.resolveAddress, resolve]
  cases session.book.resolve value with
  | none => simp [bind, Except.bind]
  | some address => simp [bind, Except.bind, pure, Except.pure, Action.perform, eq_comm]

end TronWallet
