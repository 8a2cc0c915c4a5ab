import TronWallet.Proofs.Session.Transfer

/-!
# Documents that are shown

Three requests print a document: that of a text and the address it stands for, that of the
connection, and the receipt of a dry run. `Session.Shows` lists their members, in the order in
which they are printed, and what each of them says. Whatever is shown is read back as it was
meant, from either layout, and the layout without indentation is a single line
(`Session.shown_readsBack`).
-/

namespace TronWallet

open CommandLine (Request)
open Files (Disk)

/-- A document of which nothing is lost in either layout, and which one of them writes on a
single line. -/
structure Json.Value.ReadsBack (v : Json.Value) : Prop where
  pretty : Json.parse? v.pretty = some v
  compact : Json.parse? v.compact = some v
  singleLine : ∀ c ∈ v.compact, 0x20 ≤ c.toNat

theorem Json.Value.readsBack (v : Json.Value) : v.ReadsBack where
  pretty := v.parse?_pretty
  compact := v.parse?_compact
  singleLine _ := v.le_toNat_of_mem_compact

/-- Does the request print a document? -/
def showsDocument : Request → Bool
  | .resolveAddress _ | .nodeStatus | .transfer _ _ => true
  | _ => false

namespace Session

/-- The document that a session shows at a time for a request. -/
inductive Shows (session : Session) (now : Int) : Request → Json.Value → Prop where
  | resolved {text : String} {address : Address}
      (h : session.book.resolve text = some address) :
      Shows session now (.resolveAddress text) (.object [
        ("input", .string text),
        ("base58", .string address.toBase58),
        ("hex", .string address.toHex)])
  | unsigned (h : session.signer = none) :
      Shows session now .nodeStatus (.object [
        ("node", .string session.settings.node),
        ("connected", .boolean true),
        ("latency_ms", .integer session.latency),
        ("signer", .null)])
  | signed {owner : Address} (h : session.signer = some owner) :
      Shows session now .nodeStatus (.object [
        ("node", .string session.settings.node),
        ("connected", .boolean true),
        ("latency_ms", .integer session.latency),
        ("signer", .string owner.toBase58)])
  | receipt {recipient : String} {amount : Nat} {owner address : Address}
      (h : session.Grants recipient amount owner address) :
      Shows session now (.transfer recipient amount)
        (session.receipt now amount owner address)

variable {session : Session} {s : Surroundings} {disk : Disk} {request : Request} {text : String}

theorem shows_resolveAddress_iff {now : Int} {value : String} {v : Json.Value} :
    session.Shows now (.resolveAddress value) v ↔
      ∃ address, session.book.resolve value = some address ∧
        v = resolvedDocument value address := by
  constructor
  · rintro (h | _ | _ | _)
    exact ⟨_, h, rfl⟩
  · rintro ⟨address, h, rfl⟩
    exact .resolved h

theorem shows_nodeStatus_iff {now : Int} {v : Json.Value} :
    session.Shows now .nodeStatus v ↔ v = session.statusDocument := by
  rw [statusDocument]
  constructor
  · rintro (_ | h | h) <;> rw [h] <;> rfl
  · rintro rfl
    cases hsigner : session.signer with
    | none => exact .unsigned hsigner
    | some owner => exact .signed hsigner

theorem shows_transfer_iff {now : Int} {recipient : String} {amount : Nat} {v : Json.Value} :
    session.Shows now (.transfer recipient amount) v ↔
      ∃ owner address, session.Grants recipient amount owner address ∧
        v = session.receipt now amount owner address := by
  constructor
  · intro h
    cases h with
    | receipt hgrants => exact ⟨_, _, hgrants, rfl⟩
  · rintro ⟨owner, address, hgrants, rfl⟩
    exact .receipt hgrants

/-- A request that prints a document prints what is shown for it, in the layout of the
session, and nothing else. -/
theorem carryOut_eq_ok_iff_shows (h : showsDocument request = true) :
    (session.carryOut s disk request).2 = .ok text ↔
      ∃ v, session.Shows s.now request v ∧ text = session.render v := by
  cases request with
  | resolveAddress value => simp [carryOut_resolve, shows_resolveAddress_iff]
  | nodeStatus => simp [carryOut_status, shows_nodeStatus_iff]
  | transfer recipient amount => simp [carryOut_transfer_eq_ok_iff, shows_transfer_iff]
  | _ => cases h

/-- What is printed as a document is faithful, whatever its layout. The three requests print
what is shown for them, and the receipt of every dry run is the one shown. Every document is
read back from either layout, member by member in the order in which they stand, with the
same texts and numbers, and is a single line without indentation. Numbers that fit 64 bits
are the same to a decoder, which has no room for others. -/
theorem shown_readsBack (session : Session) (s : Surroundings) (disk : Disk) :
    (∀ request, showsDocument request = true → ∀ text,
        (session.carryOut s disk request).2 = .ok text ↔
          ∃ v, session.Shows s.now request v ∧ text = session.render v) ∧
      (∀ (t : Transfer) (b : Behavior), b.dryRun = true →
        ∃ r, t.execute b = .ok r ∧ r.document = receiptShown t b) ∧
      (∀ v : Json.Value, v.ReadsBack ∧ Json.parse? (session.render v).toList = some v ∧
        (session.settings.pretty = false →
          (session.render v).toList = v.compact ++ ['\n'])) ∧
      ∀ n : Int, -0x8000000000000000 ≤ n → n ≤ 0xFFFFFFFFFFFFFFFF →
        Json.decode Json.Reading.found (String.ofList (Json.Value.integer n).compact) =
          .ok (.integer n) := by
  refine ⟨fun request h text => carryOut_eq_ok_iff_shows h, ?_, ?_, ?_⟩
  · intro t b h
    exact ⟨_, t.execute_of_dryRun h, Receipt.document_of_dryRun t h⟩
  · intro v
    refine ⟨v.readsBack, session.parse?_render v, fun hpretty => ?_⟩
    rw [toList_render, hpretty]
    rfl
  · intro n hlow hhigh
    exact Json.Value.decode_found_compact hlow hhigh

/-- A name of characters that are escaped. -/
def awkwardName : String := "\"\\\n\x01"

/-- A session with an account of that name, which prints on a single line. -/
def awkwardSession : Session where
  settings := .of { noPretty := true } {}
  latency := 5
  signer := none
  book := Book.empty.set awkwardName (.uniform 1)

theorem shown_readsBack_awkward :
    (∃ v, v.member? "input" = some (.string awkwardName) ∧ v.ReadsBack ∧
        (awkwardSession.carryOut freshSurroundings .empty (.resolveAddress awkwardName)).2 =
          .ok (awkwardSession.render v) ∧
        (awkwardSession.render v).toList = v.compact ++ ['\n']) ∧
      (∃ r, Transfer.sample.execute ⟨true, .ledger, 45⟩ = .ok r ∧ r.document.ReadsBack) ∧
      Json.decode Json.Reading.found "18446744073709551615" =
        .ok (.integer 18446744073709551615) := by
  have hresolves : awkwardSession.book.resolve awkwardName = some (.uniform 1) := by
    decide +kernel
  have hshows : awkwardSession.Shows freshSurroundings.now (.resolveAddress awkwardName) _ :=
    .resolved hresolves
  obtain ⟨hprints, hreceipt, hreadsBack, hnumbers⟩ :=
    shown_readsBack awkwardSession freshSurroundings .empty
  obtain ⟨r, hexecute, -⟩ := hreceipt Transfer.sample ⟨true, .ledger, 45⟩ rfl
  refine ⟨⟨_, rfl, (hreadsBack _).1, (hprints _ rfl _).2 ⟨_, hshows, rfl⟩,
    (hreadsBack _).2.2 rfl⟩, ⟨r, hexecute, (hreadsBack _).1⟩, ?_⟩
  exact hnumbers 18446744073709551615 (by decide) (by decide)

end Session

end TronWallet
