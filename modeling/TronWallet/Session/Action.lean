import TronWallet.Book.Listing
import TronWallet.Session

/-!
# What a command does

A command is planned before anything is changed: `Session.plan` decides, from the session
and the files that the command reads, what is to be printed and what is to be written.
`Action.perform` writes, and the text of a command whose writing fails is not printed. The
address book is written as a whole, from the book of the session.
-/

namespace TronWallet

/-- What is left to do for a command. -/
inductive Action where
  | print (text : String)
  /-- Write the book, then print. -/
  | writeBook (book : Book) (text : String)
  | writeDocumentation

namespace Session

/-- A document in the layout of the settings. -/
def render (session : Session) (document : Json.Value) : String :=
  String.ofList (if session.settings.pretty then document.pretty else document.compact) ++ "\n"

/-! ## Accounts -/

/-- Registers an account. -/
def addAccount (session : Session) (name address : String) : Except Failure Action := do
  let address ← (Address.parse address).mapError .address
  let book ← (session.book.register name address).mapError .book
  return .writeBook book ("Added " ++ name ++ " -> " ++ address.toBase58 ++ "\n")

/-- Removes an account. -/
def removeAccount (session : Session) (name : String) : Except Failure Action := do
  let (address, book) ← (session.book.remove name).mapError .book
  return .writeBook book ("Removed " ++ name ++ " (" ++ address.toBase58 ++ ")\n")

/-- The accounts of a file that is to be imported. -/
def importedBook (s : Surroundings) (disk : Files.Disk) (path : String) : Except Failure Book := do
  let text ← (disk.read s.working path).mapError (.importUnreadable path)
  (Book.parseEntries text).mapError (.importMalformed path text)

/-- Registers all accounts of the file that the settings name, or none of them. -/
def importAccounts (session : Session) (s : Surroundings) (disk : Files.Disk) :
    Except Failure Action :=
  match session.settings.file with
  | none => .error .importWithoutFile
  | some path => do
    let imported ← importedBook s disk path
    let book ← (session.book.registerAll imported.pairs).mapError .book
    return .writeBook book
      ("Imported " ++ Text.Decimal.natString imported.size ++ " account(s).\n")

/-! ## Addresses and the node -/

/-- The document of a text and the address it stands for. -/
def resolvedDocument (text : String) (address : Address) : Json.Value :=
  .object [("input", .string text), ("base58", .string address.toBase58),
    ("hex", .string address.toHex)]

/-- Shows the address that a text stands for. -/
def resolveAddress (session : Session) (text : String) : Except Failure Action := do
  let address ← resolve session.book text
  return .print (session.render (resolvedDocument text address))

/-- The document of the connection. -/
def statusDocument (session : Session) : Json.Value :=
  .object [("node", .string session.settings.node), ("connected", .boolean true),
    ("latency_ms", .integer session.latency),
    ("signer", (session.signer.map fun a => Json.Value.string a.toBase58).getD .null)]

/-! ## Transfers -/

/-- Transfers an amount from the signer to the account that a text stands for. -/
def transfer (session : Session) (now : Int) (recipient : String) (amount : Nat) :
    Except Failure Action :=
  match session.signer with
  | none => .error .signerMissing
  | some owner => do
    let address ← resolve session.book recipient
    if amount = 0 then .error .amountZero
    else
      let receipt ← ((Transfer.build owner address amount now).execute
        (session.settings.apply {})).mapError .noBackend
      return .print (session.render receipt.document)

/-! ## All commands -/

/-- Plans a command. -/
def plan (session : Session) (s : Surroundings) (disk : Files.Disk) :
    CommandLine.Request → Except Failure Action
  | .docs => .ok .writeDocumentation
  | .addAccount name address => session.addAccount name address
  | .removeAccount name => session.removeAccount name
  | .listAccounts => .ok (.print session.book.listing)
  | .importAccounts => session.importAccounts s disk
  | .resolveAddress text => session.resolveAddress text
  | .nodeStatus => .ok (.print (session.render session.statusDocument))
  | .transfer recipient amount => session.transfer s.now recipient amount

end Session

/-- The directory of the documentation, in the working directory. -/
def documentationDirectory (s : Surroundings) : String :=
  Files.join (Files.absolutePath s.working) "tronctl-docs"

/-- Performs an action: the disk after it, and what is printed. -/
def Action.perform (s : Surroundings) (disk : Files.Disk) :
    Action → Files.Disk × Except Failure String
  | print text => (disk, .ok text)
  | writeBook book text =>
    let (disk, result) := book.save disk s.working s.bookPath
    (disk, result.map fun () => text)
  | writeDocumentation =>
    let directory := documentationDirectory s
    let (disk, result) := Documentation.generate CommandLine.program
      (s.lookup CommandLine.verboseVariable) s.working directory disk
    (disk, match result with
      | .ok written =>
        .ok ("Wrote " ++ Text.Decimal.natString written.length ++ " page(s) to " ++ directory ++
          "\n")
      | .error fault => .error (.documentation fault))

/-- Carries out a command in a session. -/
def Session.carryOut (session : Session) (s : Surroundings) (disk : Files.Disk)
    (request : CommandLine.Request) : Files.Disk × Except Failure String :=
  match session.plan s disk request with
  | .ok action => action.perform s disk
  | .error failure => (disk, .error failure)

end TronWallet
