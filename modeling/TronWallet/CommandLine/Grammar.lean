/-!
# The commands and their options

The tree of commands, with what each of them takes, is a value: parsing, help texts and
the documentation pages are functions of it. Every command takes the same options, which
may stand before or after the word of a subcommand; the root also knows its version, and
a command with subcommands has one more, `help`.
-/

namespace TronWallet.CommandLine

/-- Options without a value. -/
inductive Switch where
  | verbose
  | noPretty
  | dryRun
  | ledger
  deriving DecidableEq

/-- Options with a value. -/
inductive Setting where
  | signer
  | node
  | timeout
  | file
  deriving DecidableEq

/-- The options of a command. -/
inductive Opt where
  | switch (s : Switch)
  | setting (s : Setting)
  | help
  | version
  deriving DecidableEq

/-- What a value must be. -/
inductive Kind where
  /-- Any text. -/
  | text
  /-- A text that is not empty. -/
  | path
  /-- A number of seconds of 32 bits. -/
  | seconds
  /-- A number of 64 bits. -/
  | amount
  deriving DecidableEq

/-- The word of an option after its two hyphens. -/
def Opt.long : Opt → String
  | switch .verbose => "verbose"
  | switch .noPretty => "no-pretty"
  | switch .dryRun => "dry-run"
  | switch .ledger => "ledger"
  | setting .signer => "signer"
  | setting .node => "node"
  | setting .timeout => "timeout"
  | setting .file => "file"
  | help => "help"
  | version => "version"

/-- The letter of an option after its single hyphen. -/
def Opt.short : Opt → Option Char
  | switch .verbose => some 'v'
  | switch .ledger => some 'e'
  | setting .signer => some 's'
  | setting .node => some 'n'
  | help => some 'h'
  | version => some 'V'
  | _ => none

/-- How the value of an option is named. -/
def Setting.valueName : Setting → String
  | signer => "SIGNER"
  | node => "HOST"
  | timeout => "TIMEOUT"
  | file => "PATH"

/-- What the value of an option must be. -/
def Setting.kind : Setting → Kind
  | signer => .text
  | node => .text
  | timeout => .seconds
  | file => .path

/-- How an option is named in a message. -/
def Opt.shown (o : Opt) : String :=
  match o with
  | setting s => "--" ++ o.long ++ " <" ++ s.valueName ++ ">"
  | _ => "--" ++ o.long

/-- The variable of the environment that can stand for a switch. -/
def verboseVariable : String := "TRONCTL_DEBUG"

/-- The seconds to wait for confirmation if no timeout is given. -/
def defaultTimeout : Nat := 20

/-- An argument that is given by its position. -/
structure Positional where
  name : String
  about : String
  kind : Kind := .text
  /-- May it be given any number of times, also none? -/
  repeats : Bool := false
  deriving DecidableEq

/-- How an argument is named. -/
def Positional.shown (p : Positional) : String :=
  if p.repeats then "[" ++ p.name ++ "]..." else "<" ++ p.name ++ ">"

/-- What a command is and takes. -/
structure Description where
  name : String
  about : String
  /-- What the long help says in place of `about`. -/
  longAbout : Option String := none
  options : List Opt := []
  arguments : List Positional := []
  /-- Is a subcommand required? -/
  needsCommand : Bool := false

/-- A command with its subcommands. -/
inductive Command where
  | node (description : Description) (children : List Command)

/-- What a command is and takes. -/
def Command.description : Command → Description
  | node d _ => d

/-- The subcommands of a command. -/
def Command.children : Command → List Command
  | node _ cs => cs

/-- The word of a command. -/
def Command.name (c : Command) : String :=
  c.description.name

/-- The subcommand of a word. -/
def Command.child? (c : Command) (word : String) : Option Command :=
  c.children.find? fun d => d.name = word

/-! ## The commands of this program -/

/-- The options of every command, in the order in which they are listed. -/
def sharedOptions : List Opt :=
  [.switch .verbose, .setting .signer, .setting .node, .switch .noPretty, .switch .dryRun,
    .setting .timeout, .switch .ledger, .setting .file, .help]

/-- The word of the subcommand that prints help. -/
def helpWord : String := "help"

/-- The subcommand that prints help. -/
def helpCommand : Command :=
  .node
    { name := helpWord
      about := "Print this message or the help of the given subcommand(s)"
      arguments :=
        [{ name := "COMMAND", about := "Print help for the subcommand(s)", repeats := true }] }
    []

/-- A command that takes arguments. -/
def leaf (name about : String) (arguments : List Positional) : Command :=
  .node { name, about, options := sharedOptions, arguments } []

/-- A command that takes a subcommand. -/
def group (name about : String) (children : List Command) : Command :=
  .node { name, about, options := sharedOptions, needsCommand := true } (children ++ [helpCommand])

/-- The name of the program. -/
def programName : String := "tronctl"

/-- The whole program. -/
def program : Command :=
  .node
    { name := programName
      about := "Tron Blockchain Controller"
      longAbout :=
        some "CLI interface to the Tron blockchain.\n\ntype 'tronctl --help' for details"
      options := sharedOptions ++ [.version] }
    [leaf "docs" "Generate docs to a local tronctl-docs directory" [],
      group "accounts" "Manage the local account-name address book"
        [leaf "add" "Register an account name for an address"
          [{ name := "NAME", about := "Account name" },
            { name := "ADDRESS", about := "Base58 address" }],
          leaf "remove" "Forget an account name" [{ name := "NAME", about := "Account name" }],
          leaf "list" "List registered account names" [],
          leaf "import"
            "Register every `name = \"address\"` entry of the TOML file given with --file" []],
      group "address" "Inspect addresses"
        [leaf "resolve" "Resolve an address or account name and print both encodings"
          [{ name := "VALUE", about := "Address or account name" }]],
      group "node" "Inspect the node connection"
        [leaf "status" "Show the node endpoint and connect latency" []],
      leaf "transfer" "Transfer TRX from the signer to another account"
        [{ name := "TO", about := "Recipient address or account name" },
          { name := "AMOUNT", about := "Amount in sun (1 TRX = 1000000 sun)", kind := .amount }],
      helpCommand]

end TronWallet.CommandLine
