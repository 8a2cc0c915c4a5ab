import TronWallet.Proofs.Json.Document
import TronWallet.Proofs.Transfer
import TronWallet.Session.Action

/-!
# Receipts that can be checked

What a session prints for a document, in whichever layout, holds this document and no other
(`parse?_render`). So whoever has a printed receipt can take the transaction out of it,
write it on one line and digest it: this gives the id that the receipt shows
(`Transfer.execute_checkable`). The nested transaction is written at another depth and in
another layout than the text that was digested, which is why the document is read back
first.
-/

namespace TronWallet

/-! ## Printed documents -/

namespace Session

theorem toList_render (session : Session) (v : Json.Value) :
    (session.render v).toList =
      (if session.settings.pretty then v.pretty else v.compact) ++ ['\n'] := by
  rw [render, String.toList_append, String.toList_ofList]
  rfl

/-- A printed text holds the document that it was printed for. -/
theorem parse?_render (session : Session) (v : Json.Value) :
    Json.parse? (session.render v).toList = some v := by
  have hblank : ∀ c ∈ ['\n'], Json.isBlank c = true := List.forall_mem_singleton.2 rfl
  rw [toList_render]
  cases session.settings.pretty with
  | false => exact v.parse?_compact_append hblank
  | true => exact v.parse?_pretty_append hblank

end Session

/-! ## Receipts -/

/-- The value of a member of an object. -/
def Json.Value.member? (key : String) : Json.Value → Option Json.Value
  | .object members => (members.find? fun m => m.1 = key).map Prod.snd
  | _ => none

namespace Receipt

/-- The id that a printed receipt shows. -/
def shownId? (cs : List Char) : Option String := do
  let receipt ← Json.parse? cs
  match ← receipt.member? "txid" with
  | .string id => some id
  | _ => none

/-- The digest of the transaction that a printed receipt shows, written on one line. -/
def recomputedId? (cs : List Char) : Option String := do
  let receipt ← Json.parse? cs
  let transaction ← receipt.member? "transaction"
  return String.ofList (Text.Hex.ofBytes (Digest.sha256 (Text.utf8 transaction.compact)))

variable (r : Receipt)

theorem shownId?_render (session : Session) :
    shownId? (session.render r.document).toList = some r.txid := by
  rw [shownId?, session.parse?_render]
  rfl

theorem recomputedId?_render (session : Session) :
    recomputedId? (session.render r.document).toList = some r.transaction.txid := by
  rw [recomputedId?, session.parse?_render]
  rfl

end Receipt

/-- The address of an account whose hash has a single byte throughout. -/
def Address.uniform (byte : UInt8) : Address :=
  ⟨List.replicate 20 byte, List.length_replicate⟩

namespace Transfer

theorem length_txid (t : Transfer) : t.txid.length = 64 := by
  rw [txid, String.length_ofList, Text.Hex.length_ofBytes, Digest.length_sha256]

theorem mem_lowerDigits_of_mem_txid {t : Transfer} {c : Char} (h : c ∈ t.txid.toList) :
    c ∈ Text.Hex.lowerDigits := by
  rw [txid, String.toList_ofList] at h
  exact Text.Hex.mem_lowerDigits_of_mem_ofBytes h

theorem execute_of_dryRun (t : Transfer) {b : Behavior} (h : b.dryRun = true) :
    t.execute b = .ok ⟨t.txid, false, b, t⟩ :=
  if_pos h

theorem execute_of_not_dryRun (t : Transfer) {b : Behavior} (h : b.dryRun = false) :
    t.execute b = .error ⟨b.signing, t.txid⟩ :=
  if_neg (by simp [h])

/-- A dry run of a transfer gives a receipt, and the id that the receipt shows when it is
printed, 64 hexadecimal digits, is the one computed anew from the transaction that it shows.
Every other execution fails, whoever is to sign, and names the same id and who it is. -/
theorem execute_checkable (t : Transfer) {b : Behavior} (h : b.dryRun = true) :
    (∃ r, t.execute b = .ok r ∧ ∀ session : Session,
        Receipt.shownId? (session.render r.document).toList = some t.txid ∧
          Receipt.recomputedId? (session.render r.document).toList = some t.txid) ∧
      t.txid.length = 64 ∧ (∀ c ∈ t.txid.toList, c ∈ Text.Hex.lowerDigits) ∧
      ∀ signing, ∃ refusal,
        t.execute { b with dryRun := false, signing := signing } = .error refusal ∧
          refusal.message = signing.word ++ " signing backend is not available in this build; " ++
            "re-run with --dry-run to inspect transaction " ++ t.txid := by
  refine ⟨⟨_, execute_of_dryRun t h, ?_⟩, t.length_txid, fun c => mem_lowerDigits_of_mem_txid, ?_⟩
  · intro session
    exact ⟨Receipt.shownId?_render _ session, Receipt.recomputedId?_render _ session⟩
  · intro signing
    exact ⟨⟨signing, t.txid⟩, execute_of_not_dryRun t rfl, rfl⟩

/-- A transfer of a million units between two accounts, in the year 2023. -/
def sample : Transfer :=
  ⟨.uniform 1, .uniform 2, 1000000, 1700000000000, 1700000060000⟩

theorem execute_checkable_sample :
    sample.txid = "63e8cdb10ecc29ab83bc47435073811903ce00622bfe094a5c21906545bdfa03" ∧
      (⟨true, .ledger, 45⟩ : Behavior).dryRun = true ∧
      (∃ r, sample.execute ⟨true, .ledger, 45⟩ = .ok r ∧ ∀ session : Session,
        Receipt.recomputedId? (session.render r.document).toList = some sample.txid) ∧
      ∃ refusal, sample.execute ⟨false, .software, 45⟩ = .error refusal ∧
        refusal.message = "software signing backend is not available in this build; " ++
          "re-run with --dry-run to inspect transaction " ++ sample.txid := by
  have hdryRun : (⟨true, .ledger, 45⟩ : Behavior).dryRun = true := rfl
  obtain ⟨⟨r, hexecute, hshown⟩, -, -, hrefused⟩ := execute_checkable sample hdryRun
  exact ⟨by decide +kernel, hdryRun, ⟨r, hexecute, fun session => (hshown session).2⟩,
    hrefused .software⟩

end Transfer

end TronWallet
