import TronWallet.Proofs.Address
import TronWallet.Proofs.Json.Document
import TronWallet.Proofs.Text.Hex
import TronWallet.Proofs.Text.Utf8
import TronWallet.Transfer

/-!
# What the id of a transfer stands for

The text that is digested holds the transfer's document, which has a member for each
field, so no two transfers have the same text (`canonical_injective`). Transfers with the
same id are the same, or their texts are a collision of SHA-256
(`Transfer.utf8_canonical_eq_iff`).
-/

namespace TronWallet

/-- Two different messages with the same digest. -/
def Digest.Collides (m n : List UInt8) : Prop :=
  m ≠ n ∧ sha256 m = sha256 n

namespace Transfer

variable {t u : Transfer}

theorem document_injective (h : t.document = u.document) : t = u := by
  obtain ⟨owner, recipient, amount, timestamp, expiration⟩ := t
  obtain ⟨owner', recipient', amount', timestamp', expiration'⟩ := u
  simp only [document, Json.Value.object.injEq, List.cons.injEq, Prod.mk.injEq,
    Json.Value.string.injEq, Json.Value.integer.injEq, Int.natCast_inj, true_and, and_true] at h
  obtain ⟨howner, hrecipient, rfl, rfl, rfl⟩ := h
  rw [Address.toBase58_injective howner, Address.toBase58_injective hrecipient]

/-- A canonical text is that of one transfer only. -/
theorem canonical_injective (h : t.canonical = u.canonical) : t = u :=
  document_injective (Json.Value.compact_injective h)

theorem txid_eq_iff :
    t.txid = u.txid ↔ Digest.sha256 (Text.utf8 t.canonical) =
      Digest.sha256 (Text.utf8 u.canonical) := by
  rw [txid, txid, String.ofList_inj]
  exact ⟨Text.Hex.ofBytes_injective, fun h => by rw [h]⟩

/-- The canonical text is unambiguous: two transfers have the same bytes of it exactly if
they agree in all five fields. So they have the same id exactly if they are the same, or
if the bytes of their texts are a collision of the digest. -/
theorem utf8_canonical_eq_iff (t u : Transfer) :
    (Text.utf8 t.canonical = Text.utf8 u.canonical ↔
        t.owner = u.owner ∧ t.recipient = u.recipient ∧ t.amount = u.amount ∧
          t.timestamp = u.timestamp ∧ t.expiration = u.expiration) ∧
      (t.txid = u.txid ↔
        t = u ∨ Digest.Collides (Text.utf8 t.canonical) (Text.utf8 u.canonical)) := by
  constructor
  · constructor
    · intro h
      obtain rfl := canonical_injective (Text.utf8_injective h)
      exact ⟨rfl, rfl, rfl, rfl, rfl⟩
    · intro hfields
      have heq : t = u := by
        cases t
        cases u
        rw [mk.injEq]
        exact hfields
      rw [heq]
  · rw [txid_eq_iff]
    constructor
    · intro hdigest
      by_cases htext : Text.utf8 t.canonical = Text.utf8 u.canonical
      · exact .inl (canonical_injective (Text.utf8_injective htext))
      · exact .inr ⟨htext, hdigest⟩
    · rintro (rfl | ⟨-, hdigest⟩)
      · rfl
      · exact hdigest

end Transfer

end TronWallet
