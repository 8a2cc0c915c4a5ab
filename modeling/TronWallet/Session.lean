import TronWallet.Book.Storage
import TronWallet.Config.Storage
import TronWallet.Settings
import TronWallet.Surroundings

/-!
# Sessions

A `Session` is what every command is given: the settings, a connection to the node, the
signer if one is named, and the address book as it was when the session was established.
The connection comes first, so that nothing is read when the node cannot be reached.
-/

namespace TronWallet

/-- Connects to an endpoint; what is left of the connection is the time it took, in
milliseconds. -/
def connect (s : Surroundings) (endpoint : String) (timeout : Nat) : Except Failure Nat :=
  match Endpoint.port? endpoint with
  | none => .error (.connection endpoint .invalidPort)
  | some _ =>
    match s.contact endpoint with
    | .reached latency => .ok latency
    | .silent => .error (.connection endpoint (.timedOut timeout))
    | .failed text => .error (.connection endpoint (.reported text))

/-- The address that a text stands for in a book. -/
def resolve (b : Book) (text : String) : Except Failure Address :=
  match b.resolve text with
  | some address => .ok address
  | none => .error (.unresolved text)

/-- The signer of a run, if one is named by a text that is not empty. -/
def resolveSigner (b : Book) (signer : Option String) : Except Failure (Option Address) :=
  match signer.filter (· ≠ "") with
  | some text => (resolve b text).map some
  | none => .ok none

/-- What a command is given. -/
structure Session where
  settings : Settings
  latency : Nat
  signer : Option Address
  book : Book

/-- Establishes a session. -/
def Session.establish (s : Surroundings) (disk : Files.Disk) (settings : Settings)
    (config : Config) : Except Failure Session := do
  let latency ← connect s settings.node config.node.connectTimeout
  let book ← Book.load disk s.working s.bookPath
  let signer ← resolveSigner book settings.signer
  return ⟨settings, latency, signer, book⟩

end TronWallet
