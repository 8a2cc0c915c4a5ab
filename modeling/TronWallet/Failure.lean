import TronWallet.Book
import TronWallet.CommandLine.Refusal
import TronWallet.Documentation
import TronWallet.Files.Disk
import TronWallet.Toml.Decode
import TronWallet.Transfer

/-!
# Why a run fails

`Failure` lists the causes, and `Failure.message` words them. Some causes have a cause of
their own whose wording the message repeats at its end; `Failure.report` is the message
with these. What is wrong with a TOML document is shown with the part of the text where it
is, so its wording depends on the text and on what that is read as. It is an argument: which
part that is makes no difference to anything else.
-/

namespace TronWallet

/-- Why no connection is made. -/
inductive ConnectionFault where
  /-- What follows the last colon of the endpoint is no port number. -/
  | invalidPort
  /-- The node does not answer within a time, given in seconds. -/
  | timedOut (seconds : Nat)
  /-- What the network says. -/
  | reported (text : String)
  deriving DecidableEq

/-- The wording of a fault. -/
def ConnectionFault.message : ConnectionFault → String
  | invalidPort => "invalid port value"
  | timedOut seconds => "no response within " ++ Text.Decimal.natString seconds ++ "s"
  | reported text => text

/-- What a TOML document is read as. -/
inductive DocumentKind where
  | config
  | book
  /-- Accounts that are to be imported. -/
  | accounts
  deriving DecidableEq

/-- Why a run fails. -/
inductive Failure where
  | commandLine (refusal : CommandLine.Refusal)
  | connection (endpoint : String) (fault : ConnectionFault)
  /-- A text that is neither an address nor a registered name. -/
  | unresolved (text : String)
  | address (refusal : Address.Refusal)
  | book (refusal : Book.Refusal)
  | file (path : String) (fault : Files.Fault)
  /-- A file of the program's that does not decode. -/
  | document (kind : DocumentKind) (text : String) (refusal : Toml.Refusal)
  | importWithoutFile
  | importUnreadable (path : String) (fault : Files.Fault)
  | importMalformed (path text : String) (refusal : Toml.Refusal)
  | signerMissing
  | amountZero
  | noBackend (refusal : NoBackend)
  | documentation (fault : Documentation.Fault)
  deriving DecidableEq

/-- How a refused TOML document is worded, given what its text is read as. -/
abbrev Toml.Wording := DocumentKind → String → Toml.Refusal → String

/-- The wording that shows nothing of the text. -/
def Toml.Refusal.message : Toml.Refusal → String
  | .malformed => "the text is not valid TOML"
  | .mismatch cause => Toml.mismatchMessage cause

namespace Failure

/-- The wording of a failure, given that of a refused TOML document. -/
def message (toml : Toml.Wording) : Failure → String
  | commandLine refusal => refusal.message
  | connection endpoint fault =>
    "could not connect to node " ++ endpoint ++ ": " ++ fault.message
  | unresolved text => "invalid address/invalid account name: " ++ text
  | address refusal => refusal.message
  | book refusal => "address book error: " ++ refusal.message
  | file path fault => "IO error on " ++ path ++ ": " ++ fault.message
  | document kind text refusal => "TOML parse error: " ++ toml kind text refusal
  | importWithoutFile => "accounts import needs --file <PATH>"
  | importUnreadable path fault => "reading " ++ path ++ ": " ++ fault.message
  | importMalformed path text refusal =>
    "parsing " ++ path ++ ": " ++ toml .accounts text refusal
  | signerMissing => "transfer needs a signer; pass --signer <address|name>"
  | amountZero => "transfer amount must be greater than zero"
  | noBackend refusal => refusal.message
  | documentation fault => fault.message

/-- The causes that a report repeats after the message. -/
def repeatedCause (toml : Toml.Wording) : Failure → Option String
  | connection _ fault => some fault.message
  | file _ fault => some fault.message
  | document kind text refusal => some (toml kind text refusal)
  | _ => none

/-- The message with the cause that is repeated after it. -/
def report (toml : Toml.Wording) (f : Failure) : String :=
  match f.repeatedCause toml with
  | some cause => f.message toml ++ ": " ++ cause
  | none => f.message toml

end Failure

end TronWallet
