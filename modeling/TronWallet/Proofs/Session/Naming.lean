import TronWallet.Proofs.Session.Transfer

/-!
# Accounts under their names

An account is registered under its name without the white space around it, and every later use
takes a name as it is written. So the registered name works wherever an account is named, and
what the user has given works exactly if it has no white space around it
(`works_of_register`). What is reported as added is the name as it was given.
-/

namespace TronWallet

open Files (Disk)

namespace Address

/-- White space around a text makes no difference to reading an address. -/
theorem parse_trimmed_eq_ok_iff {s : String} {a : Address} :
    parse (Text.trimmed s) = .ok a ↔ parse s = .ok a := by
  rw [parse_eq_ok_iff, parse_eq_ok_iff, Text.trimmed, String.toList_ofList,
    (Text.noWhiteEnds_trim _).trim_eq_self]

end Address

namespace Book

variable {b c : Book} {name text : String} {address : Address}

/-- A text that is no address is looked up as a name. -/
theorem resolve_eq_get? (h : ∀ a, Address.parse text ≠ .ok a) : b.resolve text = b.get? text := by
  rw [resolve]
  split
  · rename_i a hparse
    exact absurd hparse (h a)
  · rfl

/-- Removing an account that has just been added leaves the book as it was. -/
theorem erase_set (h : b.get? name = none) : (b.set name address).erase name = b := by
  refine ext_get? fun other => ?_
  rw [get?_erase, get?_set]
  split
  · rename_i heq
    rw [heq, h]
  · rfl

/-- After an account has been added, the text stands for its address, and removing what the text
names leaves the book that there was before. -/
structure Works (before after : Book) (address : Address) (text : String) : Prop where
  resolves : after.resolve text = some address
  removes : after.remove text = .ok (address, before)

theorem Allowed.parse_ne_ok (h : Allowed name) (a : Address) : Address.parse name ≠ .ok a :=
  fun hparse => h.not_address a (Address.parse_trimmed_eq_ok_iff.2 hparse)

theorem Allowed.trimmed_ne_empty (h : Allowed name) : Text.trimmed name ≠ "" := by
  intro hempty
  have hpos := h.length_pos
  rw [hempty] at hpos
  exact absurd hpos (by decide)

theorem works_trimmed (h : b.register name address = .ok c) :
    Works b c address (Text.trimmed name) := by
  obtain ⟨hallowed, hfree, rfl⟩ := register_eq_ok_iff.1 h
  have hget : (b.set (Text.trimmed name) address).get? (Text.trimmed name) = some address := by
    rw [get?_set, if_pos rfl]
  exact ⟨(resolve_eq_get? hallowed.not_address).trans hget,
    remove_eq_ok_iff.2 ⟨hget, (erase_set hfree).symm⟩⟩

/-- Only the name that was registered leads back to the book before. -/
theorem trimmed_eq_of_remove {removed : Address} (h : b.register name address = .ok c)
    (hremove : c.remove name = .ok (removed, b)) : Text.trimmed name = name := by
  obtain ⟨-, hfree, rfl⟩ := register_eq_ok_iff.1 h
  obtain ⟨-, hbefore⟩ := remove_eq_ok_iff.1 hremove
  by_contra hne
  -- The account is still there under the name that it was registered with.
  rw [hbefore, get?_erase, if_neg hne, get?_set, if_pos rfl] at hfree
  cases hfree

/-- A name as it was given stands for the account if it has no white space around it, or if a
book that was written by hand has had this account under the very text. -/
theorem resolve_given_iff (h : b.register name address = .ok c) :
    c.resolve name = some address ↔ Text.trimmed name = name ∨ b.get? name = some address := by
  obtain ⟨hallowed, -, rfl⟩ := register_eq_ok_iff.1 h
  rw [resolve_eq_get? hallowed.parse_ne_ok, get?_set]
  split
  · rename_i heq
    exact iff_of_true rfl (.inl heq.symm)
  · rename_i hne
    rw [or_iff_right (Ne.symm hne)]

end Book

namespace Session

variable {session : Session} {s : Surroundings} {disk after : Disk} {b c : Book}
  {name text : String} {address : Address}

/-- In a session after an account has been added, the text can be used wherever an account is
named: for the signer, as the recipient of a transfer, to show its address, and to remove it,
which leaves the book before. -/
structure Knows (session : Session) (before : Book) (address : Address) (text : String) : Prop where
  signer : resolveSigner session.book (some text) = .ok (some address)
  recipient : ∀ amount owner recipient, session.Grants text amount owner recipient ↔
    session.signer = some owner ∧ recipient = address ∧ amount ≠ 0 ∧
      session.settings.dryRun = true
  shown : ∀ s disk, (session.carryOut s disk (.resolveAddress text)).2 =
    .ok (session.render (resolvedDocument text address))
  removal : ∀ s disk, session.plan s disk (.removeAccount text) =
    .ok (.writeBook before ("Removed " ++ text ++ " (" ++ address.toBase58 ++ ")\n"))

theorem resolveSigner_of_resolve (hne : text ≠ "") (h : b.resolve text = some address) :
    resolveSigner b (some text) = .ok (some address) := by
  have hfilter : (some text).filter (· ≠ "") = some text := by
    simp [Option.filter, hne]
  rw [resolveSigner, hfilter]
  simp only [resolve, h, Except.map]

theorem plan_removeAccount_eq_ok_iff {action : Action} :
    session.plan s disk (.removeAccount name) = .ok action ↔
      ∃ address c, session.book.remove name = .ok (address, c) ∧
        action = .writeBook c ("Removed " ++ name ++ " (" ++ address.toBase58 ++ ")\n") := by
  rw [plan, removeAccount, Except.bind_eq_ok_iff]
  simp only [Except.mapError_eq_ok_iff, Prod.exists]
  refine exists_congr fun address => exists_congr fun c => and_congr_right fun _ => ?_
  exact ⟨fun h => (Except.ok.inj h).symm, fun h => h ▸ rfl⟩

theorem knows_of_works (h : Book.Works b session.book address text) (hne : text ≠ "") :
    session.Knows b address text where
  signer := resolveSigner_of_resolve hne h.resolves
  recipient amount owner recipient := by
    constructor
    · intro hgrants
      have hresolves := hgrants.resolves
      rw [h.resolves, Option.some_inj] at hresolves
      exact ⟨hgrants.signer, hresolves.symm, hgrants.amount_ne_zero, hgrants.dryRun⟩
    · rintro ⟨hsigner, rfl, hamount, hdryRun⟩
      exact ⟨hsigner, h.resolves, hamount, hdryRun⟩
  shown s disk := carryOut_resolve.2 ⟨address, h.resolves, rfl⟩
  removal s disk := plan_removeAccount_eq_ok_iff.2 ⟨address, b, h.removes, rfl⟩

/-- Adding an account prints its name as it was given. -/
theorem plan_addAccount_of_register (h : session.book.register name address = .ok c) :
    session.plan s disk (.addAccount name address.toBase58) =
      .ok (.writeBook c ("Added " ++ name ++ " -> " ++ address.toBase58 ++ "\n")) := by
  rw [plan, addAccount, Address.parse_toBase58]
  simp only [Except.mapError_ok, bind, Except.bind, h]
  rfl

/-- An account that has been added is known by its name without the white space around it, and
by the name as it was given exactly if this has no white space around it. Then the text stands
for the address, alone and in every session with the new book, and removing it leaves the book
before. What is printed is the name as it was given, and the next run loads the new book. -/
theorem works_of_register (h : b.register name address = .ok c) :
    Book.Works b c address (Text.trimmed name) ∧
      (Book.Works b c address name ↔ Text.trimmed name = name) ∧
      (c.resolve name = some address ↔ Text.trimmed name = name ∨ b.get? name = some address) ∧
      (∀ session : Session, session.book = c →
        session.Knows b address (Text.trimmed name) ∧
          (session.Knows b address name ↔ Text.trimmed name = name)) ∧
      ∀ (session : Session) (s : Surroundings) (disk after : Disk) (text : String),
        session.book = b →
        session.carryOut s disk (.addAccount name address.toBase58) = (after, .ok text) →
        text = "Added " ++ name ++ " -> " ++ address.toBase58 ++ "\n" ∧
          Book.load after s.working s.bookPath = .ok c := by
  have hworks := Book.works_trimmed h
  have hne := (Book.register_eq_ok_iff.1 h).1.trimmed_ne_empty
  refine ⟨hworks, ⟨fun hgiven => Book.trimmed_eq_of_remove h hgiven.removes, fun heq => ?_⟩,
    Book.resolve_given_iff h, ?_, ?_⟩
  · rwa [heq] at hworks
  · rintro session rfl
    have hknows := knows_of_works hworks hne
    refine ⟨hknows, fun hgiven => ?_, fun heq => ?_⟩
    · obtain ⟨removed, left, hremove, hwrite⟩ :=
        plan_removeAccount_eq_ok_iff.1 (hgiven.removal freshSurroundings .empty)
      obtain ⟨rfl, -⟩ := Action.writeBook.inj hwrite
      exact Book.trimmed_eq_of_remove h hremove
    · rwa [heq] at hknows
  · rintro session s disk after text rfl hadded
    rw [carryOut, plan_addAccount_of_register h] at hadded
    simp only [Action.perform] at hadded
    cases hsave : c.save disk s.working s.bookPath with
    | mk made result =>
        rw [hsave] at hadded
        cases result with
        | error failure => cases hadded
        | ok _ =>
            cases hadded
            exact ⟨rfl, Book.load_of_save hsave⟩

/-- A book that was written by hand, with an account whose name begins with a blank. -/
def handwrittenBook : Book := Book.empty.set " alice" (.uniform 2)

/-- The name that is registered is known; the text as it was given is another account. -/
theorem works_of_register_besidePadded :
    let c := handwrittenBook.set "alice" (.uniform 1)
    handwrittenBook.register " alice" (.uniform 1) = .ok c ∧
      Book.Works handwrittenBook c (.uniform 1) "alice" ∧
      ¬ Book.Works handwrittenBook c (.uniform 1) " alice" ∧
      { dryRunSession with book := c }.Knows handwrittenBook (.uniform 1) "alice" := by
  intro c
  have hregister : handwrittenBook.register " alice" (.uniform 1) = .ok c := by decide +kernel
  have htrimmed : Text.trimmed " alice" = "alice" := by decide +kernel
  obtain ⟨hworks, hgiven, -, hsessions, -⟩ := works_of_register hregister
  rw [htrimmed] at hworks hgiven hsessions
  exact ⟨hregister, hworks, fun h => absurd (hgiven.1 h) (by decide),
    (hsessions { dryRunSession with book := c } rfl).1⟩

/-- What is reported as added need not be known: with blanks around it, the name stands for no
address and names no account that could be removed. -/
theorem unknown_as_reported :
    let c := Book.empty.set "alice" (.uniform 1)
    Book.empty.register " alice " (.uniform 1) = .ok c ∧
      (dryRunSession.carryOut freshSurroundings .empty
        (.addAccount " alice " "TA4Wt1DUCqz6YegbnsmqsWC5uUfbdBqPxm")).2 =
          .ok "Added  alice  -> TA4Wt1DUCqz6YegbnsmqsWC5uUfbdBqPxm\n" ∧
      resolve c " alice " = .error (.unresolved " alice ") ∧
      c.remove " alice " = .error (.notRegistered " alice ") := by
  decide +kernel

end Session

end TronWallet
