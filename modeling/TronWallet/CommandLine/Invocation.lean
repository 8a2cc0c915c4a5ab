import TronWallet.CommandLine.Parse

/-!
# What a command line asks for

`Request` is the command with its arguments, and `Options` are the options with their
defaults. Of the levels of a command line the innermost one that gives an option counts;
a variable of the environment can stand for the verbose switch.
-/

namespace TronWallet.CommandLine

/-- A command with its arguments. -/
inductive Request where
  | docs
  | addAccount (name address : String)
  | removeAccount (name : String)
  | listAccounts
  | importAccounts
  | resolveAddress (value : String)
  | nodeStatus
  | transfer (recipient : String) (amount : Nat)
  deriving DecidableEq

/-- The options of a run. -/
structure Options where
  verbose : Bool := false
  signer : Option String := none
  node : Option String := none
  noPretty : Bool := false
  dryRun : Bool := false
  timeout : Nat := defaultTimeout
  ledger : Bool := false
  file : Option String := none
  deriving DecidableEq

/-- A command line that has been read; one without a command asks for help. -/
structure Invocation where
  options : Options
  request : Option Request
  deriving DecidableEq

/-- The request of the words of a command and its arguments. -/
def Request.of? : List String → List Argument → Option Request
  | ["docs"], [] => some .docs
  | ["accounts", "add"], [.text name, .text address] => some (.addAccount name address)
  | ["accounts", "remove"], [.text name] => some (.removeAccount name)
  | ["accounts", "list"], [] => some .listAccounts
  | ["accounts", "import"], [] => some .importAccounts
  | ["address", "resolve"], [.text value] => some (.resolveAddress value)
  | ["node", "status"], [] => some .nodeStatus
  | ["transfer"], [.text recipient, .number amount] =>
    some (.transfer recipient amount)
  | _, _ => none

/-- Is a switch given at any level? -/
def given (levels : List Level) (s : Switch) : Bool :=
  levels.any fun l => s ∈ l.switches

/-- The value of an option at the innermost level that gives it. -/
def valueOf? (levels : List Level) (s : Setting) : Option Argument :=
  levels.reverse.findSome? fun l => (l.settings.find? fun p => p.1 = s).map Prod.snd

/-- A value that is a text. -/
def Argument.text? : Argument → Option String
  | text s => some s
  | number _ => none

/-- A value that is a number. -/
def Argument.number? : Argument → Option Nat
  | text _ => none
  | number n => some n

/-- The options that levels give. -/
def Options.ofLevels (verbosity : Option String) (levels : List Level) : Options where
  verbose := given levels .verbose || verbosity = some "true"
  signer := (valueOf? levels .signer).bind Argument.text?
  node := (valueOf? levels .node).bind Argument.text?
  noPretty := given levels .noPretty
  dryRun := given levels .dryRun
  timeout := ((valueOf? levels .timeout).bind Argument.number?).getD defaultTimeout
  ledger := given levels .ledger
  file := (valueOf? levels .file).bind Argument.text?

/-- What the words and levels of a command line ask for. -/
def Parsed.invocation (verbosity : Option String) (p : Parsed) : Invocation where
  options := .ofLevels verbosity p.levels
  request := Request.of? p.words.tail ((p.levels.getLast?).map (·.arguments) |>.getD [])

/-- Reads a command line, given the variable that can stand for the verbose switch. -/
def parse (verbosity : Option String) (words : List String) : Except Stop Invocation :=
  (readWords verbosity program [programName] false {} words).map (·.invocation verbosity)

end TronWallet.CommandLine
