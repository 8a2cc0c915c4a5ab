import TronWallet.Address
import TronWallet.Json.Value
import TronWallet.Text.Utf8

/-!
# Transfers

A `Transfer` moves an amount from one account to another. Its canonical text is its JSON
on one line, and its id is the SHA-256 digest of that text. `execute` builds the receipt
of a dry run; sending a transfer needs a signing backend, of which there is none, so every
other execution is refused.
-/

namespace TronWallet

/-- Who signs a transfer. -/
inductive Signing where
  | software
  | ledger
  deriving DecidableEq

/-- The word for a way of signing. -/
def Signing.word : Signing → String
  | software => "software"
  | ledger => "ledger"

/-- How a transfer is executed. -/
structure Behavior where
  dryRun : Bool := false
  signing : Signing := .software
  /-- The seconds to wait for confirmation; zero does not wait. -/
  confirmationWait : Nat := 0
  deriving DecidableEq

/-- A transfer that has not been signed. Times are in milliseconds. -/
structure Transfer where
  owner : Address
  recipient : Address
  amount : Nat
  timestamp : Int
  expiration : Int
  deriving DecidableEq

/-- What has been done with a transfer. -/
structure Receipt where
  txid : String
  broadcast : Bool
  behavior : Behavior
  transaction : Transfer
  deriving DecidableEq

/-- The refusal of a transfer that no backend can sign. -/
structure NoBackend where
  signing : Signing
  txid : String
  deriving DecidableEq

/-- The wording of the refusal. -/
def NoBackend.message (r : NoBackend) : String :=
  r.signing.word ++ " signing backend is not available in this build; " ++
    "re-run with --dry-run to inspect transaction " ++ r.txid

/-- The document of a behavior. -/
def Behavior.document (b : Behavior) : Json.Value :=
  .object [("dry_run", .boolean b.dryRun), ("signing_impl", .string b.signing.word),
    ("confirmation_wait_time", .integer b.confirmationWait)]

namespace Transfer

/-- How long after it is built a transfer expires. -/
def lifetime : Int := 60000

/-- A transfer that is built at a time. -/
def build (owner recipient : Address) (amount : Nat) (now : Int) : Transfer :=
  ⟨owner, recipient, amount, now, now + lifetime⟩

/-- The document of a transfer. -/
def document (t : Transfer) : Json.Value :=
  .object [("owner_address", .string t.owner.toBase58),
    ("to_address", .string t.recipient.toBase58), ("amount", .integer t.amount),
    ("timestamp", .integer t.timestamp), ("expiration", .integer t.expiration)]

/-- The text that is digested. -/
def canonical (t : Transfer) : List Char :=
  t.document.compact

/-- The id of a transfer: the digest of its canonical text in hexadecimal. -/
def txid (t : Transfer) : String :=
  String.ofList (Text.Hex.ofBytes (Digest.sha256 (Text.utf8 t.canonical)))

/-- Executes a transfer. -/
def execute (t : Transfer) (b : Behavior) : Except NoBackend Receipt :=
  if b.dryRun then .ok ⟨t.txid, false, b, t⟩ else .error ⟨b.signing, t.txid⟩

end Transfer

/-- The document of a receipt. -/
def Receipt.document (r : Receipt) : Json.Value :=
  .object [("txid", .string r.txid), ("broadcast", .boolean r.broadcast),
    ("behavior", r.behavior.document), ("transaction", r.transaction.document)]

end TronWallet
