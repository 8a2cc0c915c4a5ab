import TronWallet.Proofs.Program.Home
import TronWallet.Proofs.Program.Outcome
import TronWallet.Proofs.Session.Change
import TronWallet.Proofs.Session.Receipt

/-!
# When a transfer is granted

A transfer needs a signer, a recipient that stands for an address, an amount, and a dry run.
`Session.Grants` is the case where all four are there, and `Session.Refuses` says for each of
the others why the transfer is refused: its rules ask for all that comes before, so that only
the first defect counts. One of the two holds of every session
(`Session.refuses_or_grants`), and the command does what they say, alone and in a whole run
(`Session.carryOut_transfer_iff`). Nothing but a dry run gives a receipt, and no receipt says
that anything was broadcast.
-/

namespace TronWallet

open Files (Disk)

/-- The receipt of a dry run, member by member. -/
def receiptShown (t : Transfer) (b : Behavior) : Json.Value :=
  .object [
    ("txid", .string t.txid),
    ("broadcast", .boolean false),
    ("behavior", .object [
      ("dry_run", .boolean true),
      ("signing_impl", .string b.signing.word),
      ("confirmation_wait_time", .integer b.confirmationWait)]),
    ("transaction", .object [
      ("owner_address", .string t.owner.toBase58),
      ("to_address", .string t.recipient.toBase58),
      ("amount", .integer t.amount),
      ("timestamp", .integer t.timestamp),
      ("expiration", .integer t.expiration)])]

theorem Receipt.document_of_dryRun (t : Transfer) {b : Behavior} (h : b.dryRun = true) :
    (Receipt.mk t.txid false b t).document = receiptShown t b := by
  rw [Receipt.document, Behavior.document, h]
  rfl

/-- What is not set in the settings is as it is at the start of a run. -/
theorem Settings.apply_start (settings : Settings) :
    settings.apply {} = ⟨settings.dryRun, if settings.ledger then .ledger else .software,
      settings.timeout⟩ := by
  rw [apply, Bool.or_false]
  congr 1
  by_cases h : 0 < settings.timeout
  · rw [if_pos h]
  · rw [if_neg h, Nat.eq_zero_of_not_pos h]

namespace Session

/-- Who signs the transfers of a session. -/
def signing (session : Session) : Signing :=
  if session.settings.ledger then .ledger else .software

variable {session : Session} {s : Surroundings} {disk : Disk} {recipient : String}
  {amount : Nat} {owner address : Address} {failure : Failure}

/-- The transfer is granted, and moves the amount from one account to the other. -/
structure Grants (session : Session) (recipient : String) (amount : Nat)
    (owner address : Address) : Prop where
  signer : session.signer = some owner
  resolves : session.book.resolve recipient = some address
  amount_ne_zero : amount ≠ 0
  dryRun : session.settings.dryRun = true

/-- The transfer is refused at a time, with the text that is reported. -/
inductive Refuses (session : Session) (now : Int) (recipient : String) (amount : Nat) :
    Failure → String → Prop where
  | signerMissing (h : session.signer = none) :
      Refuses session now recipient amount .signerMissing
        "transfer needs a signer; pass --signer <address|name>"
  | unresolved {owner : Address} (hsigner : session.signer = some owner)
      (h : session.book.resolve recipient = none) :
      Refuses session now recipient amount (.unresolved recipient)
        ("invalid address/invalid account name: " ++ recipient)
  | amountZero {owner address : Address} (hsigner : session.signer = some owner)
      (hresolves : session.book.resolve recipient = some address) (h : amount = 0) :
      Refuses session now recipient amount .amountZero
        "transfer amount must be greater than zero"
  | noBackend {owner address : Address} (hsigner : session.signer = some owner)
      (hresolves : session.book.resolve recipient = some address) (hamount : amount ≠ 0)
      (h : session.settings.dryRun = false) :
      Refuses session now recipient amount
        (.noBackend ⟨session.signing,
          Transfer.txid ⟨owner, address, amount, now, now + 60000⟩⟩)
        (session.signing.word ++ " signing backend is not available in this build; " ++
          "re-run with --dry-run to inspect transaction " ++
          Transfer.txid ⟨owner, address, amount, now, now + 60000⟩)

/-- A transfer is refused for the first of its defects, or granted. -/
theorem refuses_or_grants (session : Session) (now : Int) (recipient : String) (amount : Nat) :
    (∃ failure text, session.Refuses now recipient amount failure text) ∨
      ∃ owner address, session.Grants recipient amount owner address := by
  cases hsigner : session.signer with
  | none => exact .inl ⟨_, _, .signerMissing hsigner⟩
  | some owner =>
      cases hresolves : session.book.resolve recipient with
      | none => exact .inl ⟨_, _, .unresolved hsigner hresolves⟩
      | some address =>
          by_cases hamount : amount = 0
          · exact .inl ⟨_, _, .amountZero hsigner hresolves hamount⟩
          · cases hdryRun : session.settings.dryRun with
            | false => exact .inl ⟨_, _, .noBackend hsigner hresolves hamount hdryRun⟩
            | true => exact .inr ⟨owner, address, hsigner, hresolves, hamount, hdryRun⟩

theorem report_of_refuses {now : Int} {text : String}
    (h : session.Refuses now recipient amount failure text) (toml : Toml.Wording) :
    failure.report toml = text := by
  cases h <;> rfl

/-! ## The command -/

/-- The receipt that is printed where a transfer is granted. -/
def receipt (session : Session) (now : Int) (amount : Nat) (owner address : Address) :
    Json.Value :=
  receiptShown ⟨owner, address, amount, now, now + 60000⟩
    ⟨true, session.signing, session.settings.timeout⟩

theorem plan_of_refuses {text : String}
    (h : session.Refuses s.now recipient amount failure text) :
    session.plan s disk (.transfer recipient amount) = .error failure := by
  rw [plan, transfer]
  cases h with
  | signerMissing h => rw [h]
  | unresolved hsigner h =>
      rw [hsigner, resolve, h]
      rfl
  | amountZero hsigner hresolves h =>
      rw [hsigner, resolve, hresolves]
      exact if_pos h
  | noBackend hsigner hresolves hamount h =>
      rw [hsigner, resolve, hresolves, Settings.apply_start, h]
      exact if_neg hamount

theorem plan_of_grants (h : session.Grants recipient amount owner address) :
    session.plan s disk (.transfer recipient amount) =
      .ok (.print (session.render (session.receipt s.now amount owner address))) := by
  rw [plan, transfer, h.signer, resolve, h.resolves, Settings.apply_start, h.dryRun]
  exact if_neg h.amount_ne_zero

theorem carryOut_of_refuses {text : String}
    (h : session.Refuses s.now recipient amount failure text) :
    session.carryOut s disk (.transfer recipient amount) = (disk, .error failure) := by
  rw [carryOut, plan_of_refuses h]

theorem carryOut_of_grants (h : session.Grants recipient amount owner address) :
    session.carryOut s disk (.transfer recipient amount) =
      (disk, .ok (session.render (session.receipt s.now amount owner address))) := by
  rw [carryOut, plan_of_grants h]
  rfl

theorem carryOut_transfer_eq_ok_iff {text : String} :
    (session.carryOut s disk (.transfer recipient amount)).2 = .ok text ↔
      ∃ owner address, session.Grants recipient amount owner address ∧
        text = session.render (session.receipt s.now amount owner address) := by
  constructor
  · intro hresult
    rcases session.refuses_or_grants s.now recipient amount with
      ⟨failure, text, hrefuses⟩ | ⟨owner, address, hgrants⟩
    · rw [carryOut_of_refuses hrefuses] at hresult
      cases hresult
    · rw [carryOut_of_grants hgrants] at hresult
      cases hresult
      exact ⟨owner, address, hgrants, rfl⟩
  · rintro ⟨owner, address, hgrants, rfl⟩
    rw [carryOut_of_grants hgrants]

theorem carryOut_transfer_eq_error_iff :
    (session.carryOut s disk (.transfer recipient amount)).2 = .error failure ↔
      ∃ text, session.Refuses s.now recipient amount failure text := by
  constructor
  · intro hresult
    rcases session.refuses_or_grants s.now recipient amount with
      ⟨failure, text, hrefuses⟩ | ⟨owner, address, hgrants⟩
    · rw [carryOut_of_refuses hrefuses] at hresult
      cases hresult
      exact ⟨text, hrefuses⟩
    · rw [carryOut_of_grants hgrants] at hresult
      cases hresult
  · rintro ⟨text, hrefuses⟩
    rw [carryOut_of_refuses hrefuses]

/-- A run that opens a session comes to what the session makes of the request. -/
theorem bareRun_of_opened {words : List String} {options : CommandLine.Options}
    {request : CommandLine.Request} (hasks : Asks s words options request)
    (hopened : Session.opened s disk options = .ok session) :
    bareRun s disk words (loadConfig s disk) = session.carryOut s disk request := by
  obtain ⟨config, hconfig, hestablish⟩ := Except.bind_eq_ok_iff.1 hopened
  rw [bareRun, hasks]
  simp only [hconfig, runCommand, hestablish]

/-- A transfer is granted exactly if a signer is there, the recipient stands for an address,
the amount is not zero, and it is a dry run. Then one receipt is printed, which says so.
Otherwise nothing is printed, and what is reported is the first defect: the signer, the
recipient, the amount, and last that nothing can sign. A whole run with the session comes to
the same. -/
theorem carryOut_transfer_iff (session : Session) (s : Surroundings) (disk : Disk)
    (recipient : String) (amount : Nat) :
    let result := (session.carryOut s disk (.transfer recipient amount)).2
    ((∃ text, result = .ok text) ↔
        (∃ owner, session.signer = some owner) ∧
          (∃ address, session.book.resolve recipient = some address) ∧
          amount ≠ 0 ∧ session.settings.dryRun = true) ∧
      (∀ text, result = .ok text → ∃ owner address, session.signer = some owner ∧
        session.book.resolve recipient = some address ∧
        Json.parse? text.toList = some (.object [
          ("txid", .string (Transfer.txid ⟨owner, address, amount, s.now, s.now + 60000⟩)),
          ("broadcast", .boolean false),
          ("behavior", .object [
            ("dry_run", .boolean true),
            ("signing_impl", .string (if session.settings.ledger then "ledger" else "software")),
            ("confirmation_wait_time", .integer session.settings.timeout)]),
          ("transaction", .object [
            ("owner_address", .string owner.toBase58),
            ("to_address", .string address.toBase58),
            ("amount", .integer amount),
            ("timestamp", .integer s.now),
            ("expiration", .integer (s.now + 60000))])])) ∧
      (∀ failure, result = .error failure ↔
        ∃ text, session.Refuses s.now recipient amount failure text ∧
          ∀ toml, failure.report toml = text) ∧
      ∀ words options, Asks s words options (.transfer recipient amount) →
        Session.opened s disk options = .ok session →
        (∀ text, result = .ok text → (execute s disk words).outcome = .finished text) ∧
          ∀ failure, result = .error failure →
            ∃ report, (execute s disk words).outcome = .failed report ∧
              report.failure = failure ∧ (execute s disk words).outcome.output = "" := by
  intro result
  refine ⟨?_, ?_, ?_, ?_⟩
  · simp only [result, carryOut_transfer_eq_ok_iff]
    constructor
    · rintro ⟨text, owner, address, hgrants, -⟩
      exact ⟨⟨owner, hgrants.signer⟩, ⟨address, hgrants.resolves⟩, hgrants.amount_ne_zero,
        hgrants.dryRun⟩
    · rintro ⟨⟨owner, hsigner⟩, ⟨address, hresolves⟩, hamount, hdryRun⟩
      exact ⟨_, owner, address, ⟨hsigner, hresolves, hamount, hdryRun⟩, rfl⟩
  · intro text hresult
    obtain ⟨owner, address, hgrants, rfl⟩ := carryOut_transfer_eq_ok_iff.1 hresult
    have hword : session.signing.word =
        if session.settings.ledger then "ledger" else "software" := by
      rw [signing]
      split <;> rfl
    refine ⟨owner, address, hgrants.signer, hgrants.resolves, ?_⟩
    rw [parse?_render, receipt, receiptShown, hword]
  · intro failure
    rw [carryOut_transfer_eq_error_iff]
    exact exists_congr fun text =>
      ⟨fun hrefuses => ⟨hrefuses, report_of_refuses hrefuses⟩, And.left⟩
  · intro words options hasks hopened
    have hbare := congrArg Prod.snd (bareRun_of_opened hasks hopened)
    constructor
    · intro text hresult
      exact (execute_of_ok (hbare.trans hresult)).2
    · intro failure hresult
      have houtcome := (execute_of_error (hbare.trans hresult)).2
      exact ⟨_, houtcome, rfl, by rw [houtcome, Outcome.output]⟩

/-- The options of a dry run that the null account is to sign on a ledger. -/
def dryRunOptions : CommandLine.Options where
  signer := some "T9yD14Nj9j7xAB4dbGeiX9h8unkKHxuWwb"
  dryRun := true
  ledger := true

/-- The words of such a run. -/
def dryRunWords (recipient amount : String) : List String :=
  ["--dry-run", "--ledger", "--signer", "T9yD14Nj9j7xAB4dbGeiX9h8unkKHxuWwb", "transfer",
    recipient, amount]

/-- The session that they open where there is neither a configuration nor a book. -/
def dryRunSession : Session where
  settings := .of dryRunOptions {}
  latency := 5
  signer := some (.uniform 0)
  book := .empty

theorem opened_dryRunOptions :
    Session.opened freshSurroundings .empty dryRunOptions = .ok dryRunSession := by
  have hconfig : loadConfig freshSurroundings .empty = .ok {} := by decide +kernel
  have hload : Book.load .empty freshSurroundings.working freshSurroundings.bookPath =
      .ok .empty := by decide +kernel
  have hconnect : connect freshSurroundings dryRunSession.settings.node
      ({} : Config).node.connectTimeout = .ok dryRunSession.latency := by decide +kernel
  have hsigner : resolveSigner .empty dryRunOptions.signer = .ok dryRunSession.signer := by
    decide +kernel
  exact (opened_eq_ok_iff hload).2 ⟨{}, hconfig, rfl, hconnect, hsigner, rfl⟩

theorem carryOut_transfer_dryRun :
    (Session.opened freshSurroundings .empty dryRunOptions = .ok dryRunSession ∧
      Asks freshSurroundings (dryRunWords "TA4Wt1DUCqz6YegbnsmqsWC5uUfbdBqPxm" "7") dryRunOptions
        (.transfer "TA4Wt1DUCqz6YegbnsmqsWC5uUfbdBqPxm" 7) ∧
      Asks freshSurroundings (dryRunWords "bob" "0") dryRunOptions (.transfer "bob" 0)) ∧
    (∃ text, (execute freshSurroundings .empty
        (dryRunWords "TA4Wt1DUCqz6YegbnsmqsWC5uUfbdBqPxm" "7")).outcome = .finished text) ∧
      ∃ report, (execute freshSurroundings .empty (dryRunWords "bob" "0")).outcome =
        .failed report ∧ report.failure = .unresolved "bob" := by
  have hopened := opened_dryRunOptions
  have hasks : Asks freshSurroundings (dryRunWords "TA4Wt1DUCqz6YegbnsmqsWC5uUfbdBqPxm" "7")
      dryRunOptions (.transfer "TA4Wt1DUCqz6YegbnsmqsWC5uUfbdBqPxm" 7) := rfl
  have hasksBob : Asks freshSurroundings (dryRunWords "bob" "0") dryRunOptions
      (.transfer "bob" 0) := rfl
  have hresolves : dryRunSession.book.resolve "TA4Wt1DUCqz6YegbnsmqsWC5uUfbdBqPxm" =
      some (.uniform 1) := by decide +kernel
  have hbob : dryRunSession.book.resolve "bob" = none := by decide +kernel
  have hrefuses : dryRunSession.Refuses freshSurroundings.now "bob" 0 (.unresolved "bob")
      ("invalid address/invalid account name: " ++ "bob") := .unresolved rfl hbob
  obtain ⟨hok, -, -, hrun⟩ := carryOut_transfer_iff dryRunSession freshSurroundings .empty
    "TA4Wt1DUCqz6YegbnsmqsWC5uUfbdBqPxm" 7
  obtain ⟨-, -, herror, hrunBob⟩ := carryOut_transfer_iff dryRunSession freshSurroundings
    .empty "bob" 0
  obtain ⟨text, htext⟩ := hok.2 ⟨⟨_, rfl⟩, ⟨_, hresolves⟩, by decide, rfl⟩
  have hrefused := (herror (.unresolved "bob")).2 ⟨_, hrefuses, report_of_refuses hrefuses⟩
  obtain ⟨report, houtcome, hfailure, -⟩ := (hrunBob _ _ hasksBob hopened).2 _ hrefused
  exact ⟨⟨hopened, hasks, hasksBob⟩, ⟨text, (hrun _ _ hasks hopened).1 text htext⟩, report,
    houtcome, hfailure⟩

end Session

end TronWallet
