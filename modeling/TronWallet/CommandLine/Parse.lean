import TronWallet.CommandLine.Refusal

/-!
# Reading a command line

A command line is read word by word. The word of a subcommand opens a new level, which
reads the remaining words; each level keeps what was given at its place. A value that
stands in a word of its own is looked at only when the next option or argument is met, or
when the level ends, and the levels end from the innermost out: that decides which of two
mistakes is reported. After the word `--` all words are arguments.
-/

namespace TronWallet.CommandLine

/-! ## Values -/

/-- A value that has been looked at. -/
inductive Argument where
  | text (value : String)
  | number (value : Nat)
  deriving DecidableEq

/-- The value of decimal digits that do not exceed a limit, from left to right. -/
def readDigits (limit : Nat) (above : NumberFault) : Nat → List Char → Except NumberFault Nat
  | n, [] => .ok n
  | n, c :: cs =>
    if Text.Decimal.isDigit c then
      let m := n * 10 + Text.Decimal.digitValue c
      if m ≤ limit then readDigits limit above m cs else .error above
    else .error .invalidDigit

/-- A nonempty sequence of digits after a sign. -/
def readMagnitude (limit : Nat) (above : NumberFault) (cs : List Char) : Except NumberFault Nat :=
  if cs = [] then .error .invalidDigit else readDigits limit above 0 cs

/-- Reads an integer of 64 bits without a sign of its own, a plus allowed. -/
def readNatural (s : String) : Except NumberFault Nat :=
  match s.toList with
  | [] => .error .noDigits
  | '+' :: cs => readMagnitude (UInt64.size - 1) .tooLarge cs
  | cs => readMagnitude (UInt64.size - 1) .tooLarge cs

/-- Reads an integer of 64 bits with a sign. -/
def readInteger (s : String) : Except NumberFault Int :=
  match s.toList with
  | [] => .error .noDigits
  | '-' :: cs => (readMagnitude 0x8000000000000000 .tooSmall cs).map Int.negOfNat
  | '+' :: cs => (readMagnitude 0x7FFFFFFFFFFFFFFF .tooLarge cs).map Int.ofNat
  | cs => (readMagnitude 0x7FFFFFFFFFFFFFFF .tooLarge cs).map Int.ofNat

/-- The greatest number of seconds. -/
def secondsLimit : Nat := UInt32.size - 1

/-- Reads a number of seconds. -/
def readSeconds (s : String) : Except NumberFault Nat :=
  match readInteger s with
  | .error fault => .error fault
  | .ok n =>
    if 0 ≤ n ∧ n ≤ secondsLimit then .ok n.toNat else .error (.outOfRange n secondsLimit)

/-- Looks at a value. -/
def Kind.read (k : Kind) (shown value : String) : Except Refusal Argument :=
  match k with
  | text => .ok (.text value)
  | path => if value = "" then .error (.missingValue shown) else .ok (.text value)
  | seconds => match readSeconds value with
    | .ok n => .ok (.number n)
    | .error fault => .error (.badNumber value shown fault)
  | amount => match readNatural value with
    | .ok n => .ok (.number n)
    | .error fault => .error (.badNumber value shown fault)

/-! ## Levels -/

/-- A value that has not been looked at. -/
inductive Pending where
  /-- The value of an option, which may not have come yet. -/
  | setting (s : Setting) (value : Option String)
  | positional (p : Positional) (value : String)
  deriving DecidableEq

/-- What has been given at one level. -/
structure Level where
  switches : List Switch := []
  settings : List (Setting × Argument) := []
  arguments : List Argument := []
  pending : Option Pending := none
  deriving DecidableEq

namespace Level

/-- Is the value of an option expected next? -/
def awaiting (l : Level) : Bool :=
  match l.pending with
  | some (.setting _ none) => true
  | _ => false

/-- Takes in the value of an option. -/
def addSetting (l : Level) (s : Setting) (value : String) : Except Refusal Level :=
  let shown := (Opt.setting s).shown
  if l.settings.any fun p => p.1 = s then .error (.repeated shown)
  else (s.kind.read shown value).map fun a => { l with settings := l.settings ++ [(s, a)] }

/-- Looks at the pending value. -/
def resolve (l : Level) : Except Refusal Level :=
  let rest := { l with pending := none }
  match l.pending with
  | none => .ok rest
  | some (.setting s none) => .error (.missingValue (Opt.setting s).shown)
  | some (.setting s (some value)) => rest.addSetting s value
  | some (.positional p value) =>
    (p.kind.read p.shown value).map fun a => { rest with arguments := rest.arguments ++ [a] }

/-- Takes in a switch. -/
def addSwitch (l : Level) (s : Switch) : Except Refusal Level := do
  let l ← l.resolve
  if s ∈ l.switches then .error (.repeated (Opt.switch s).shown)
  else .ok { l with switches := l.switches ++ [s] }

/-- Takes in an option that has its value in the same word. -/
def addAttached (l : Level) (s : Setting) (value : String) : Except Refusal Level := do
  (← l.resolve).addSetting s value

/-- Takes in an option whose value is the next word. -/
def expect (l : Level) (s : Setting) : Except Refusal Level := do
  return { (← l.resolve) with pending := some (.setting s none) }

/-- The number of positional arguments, the pending one included. -/
def argumentCount (l : Level) : Nat :=
  l.arguments.length + match l.pending with
    | some (.positional _ _) => 1
    | _ => 0

/-- Is nothing given at all? -/
def isBare (l : Level) : Bool :=
  l.switches = [] && l.settings = [] && l.arguments = []

end Level

/-- Why reading stops before its end. -/
inductive Stop where
  /-- The help of the command with these words is asked for, in its long form or not. -/
  | help (command : Command) (words : List String) (long : Bool)
  | version
  | refused (refusal : Refusal)

/-- A refusal stops reading. -/
def orStop {α : Type} : Except Refusal α → Except Stop α
  | .ok a => .ok a
  | .error r => .error (.refused r)

/-! ## Options -/

/-- The option of a word. -/
def optionOf? (options : List Opt) (word : List Char) : Option Opt :=
  options.find? fun o => o.long.toList = word

/-- The option of a letter. -/
def optionOfLetter? (options : List Opt) (letter : Char) : Option Opt :=
  options.find? fun o => o.short = some letter

/-- The command whose words are given asks for its help or the version. -/
def informative (c : Command) (words : List String) (long : Bool) (o : Opt) (l : Level) :
    Except Stop Level :=
  match l.resolve with
  | .error r => .error (.refused r)
  | .ok _ => .error (if o = .version then .version else .help c words long)

/-- Takes in an option that is written as a word after two hyphens, with its value after
an equals sign or without one. -/
def readLong (c : Command) (words : List String) (l : Level) (body : List Char) :
    Except Stop Level :=
  let word := body.takeWhile (· ≠ '=')
  let value? : Option String :=
    if '=' ∈ body then some (String.ofList (body.drop (word.length + 1))) else none
  match optionOf? c.description.options word, value? with
  | none, _ =>
    .error (.refused (.unexpectedArgument ("--" ++ String.ofList word)))
  | some (.setting s), some value => orStop (l.addAttached s value)
  | some (.setting s), none => orStop (l.expect s)
  | some o, some value => .error (.refused (.unneededValue value o.shown))
  | some (.switch s), none => orStop (l.addSwitch s)
  | some o, none => informative c words true o l

/-- Takes in options that are written as letters after one hyphen. A letter whose option
has a value takes the rest of the word for it, without an equals sign in front. -/
def readShort (c : Command) (words : List String) : List Char → Level → Except Stop Level
  | [], l => .ok l
  | letter :: letters, l =>
    match optionOfLetter? c.description.options letter with
    | none => .error (.refused (.unexpectedArgument ("-" ++ String.ofList [letter])))
    | some (.switch s) =>
      match l.addSwitch s with
      | .error r => .error (.refused r)
      | .ok l => readShort c words letters l
    | some (.setting s) =>
      match letters with
      | [] => orStop (l.expect s)
      | '=' :: value => orStop (l.addAttached s (String.ofList value))
      | value => orStop (l.addAttached s (String.ofList value))
    | some o => informative c words false o l

/-! ## Words -/

/-- The form of a word. -/
inductive Form where
  /-- The two hyphens after which all words are arguments. -/
  | separator
  | long (body : List Char)
  | short (letters : List Char)
  | plain
  deriving DecidableEq

/-- The form of a word. A hyphen alone is a plain word. -/
def formOf (word : String) : Form :=
  match word.toList with
  | ['-', '-'] => .separator
  | '-' :: '-' :: body => .long body
  | ['-'] => .plain
  | '-' :: letters => .short letters
  | _ => .plain

/-- The refusal of a word that no argument takes. -/
def unexpectedWord (c : Command) (separated : Bool) (word : String) : Refusal :=
  if separated && (c.child? word).isSome then .unexpectedArgument word
  else if c.children.isEmpty then .unexpectedArgument word
  else .unknownCommand word

/-- Takes in a positional argument. -/
def readPositional (c : Command) (separated : Bool) (l : Level) (word : String) :
    Except Stop Level :=
  match c.description.arguments[l.argumentCount]? with
  | none => .error (.refused (unexpectedWord c separated word))
  | some p =>
    match l.resolve with
    | .error r => .error (.refused r)
    | .ok l => .ok { l with pending := some (.positional p word) }

/-- The help that the words after `help` ask for. -/
def helpOn : Command → List String → List String → Stop
  | c, words, [] => .help c words true
  | c, words, word :: rest =>
    match c.child? word with
    | some d => helpOn d (words ++ [word]) rest
    | none => .refused (.unknownCommand word)

/-! ## The end of a level -/

/-- Looks at the variable of the environment that can stand for the verbose switch. -/
def checkVerbosity (verbosity : Option String) (l : Level) : Except Refusal Unit :=
  if .verbose ∈ l.switches then .ok ()
  else
    match verbosity with
    | none => .ok ()
    | some value =>
      if value = "true" ∨ value = "false" then .ok ()
      else if value = "" then .error (.missingValue (Opt.switch .verbose).shown)
      else .error (.switchVariable value (Opt.switch .verbose).shown)

/-- Ends a level; `last` tells whether no subcommand was given. -/
def endLevel (verbosity : Option String) (c : Command) (words : List String) (last : Bool)
    (l : Level) : Except Refusal Level := do
  let l ← l.resolve
  checkVerbosity verbosity l
  if last && c.description.needsCommand then
    if l.isBare && verbosity.isNone then .error (.nothingGiven c.description.about)
    else .error (.missingCommand words)
  else if last && l.arguments.length < c.description.arguments.length then
    .error .missingArguments
  else .ok l

/-- The words of the commands of a command line and the levels they opened, from the
outermost in. -/
structure Parsed where
  words : List String
  levels : List Level

/-- Reads the words of a level. `separated` tells whether the word `--` has been met. -/
def readWords (verbosity : Option String) :
    Command → List String → Bool → Level → List String → Except Stop Parsed
  | c, words, _, l, [] =>
    (orStop (endLevel verbosity c words true l)).map fun l => ⟨words, [l]⟩
  | c, words, separated, l, word :: rest =>
    if separated then
      match readPositional c true l word with
      | .error stop => .error stop
      | .ok l => readWords verbosity c words true l rest
    else
      match if l.awaiting then none else c.child? word with
      | some d =>
        if word = helpWord then .error (helpOn c words rest)
        else
          match readWords verbosity d (words ++ [word]) false {} rest with
          | .error stop => .error stop
          | .ok parsed =>
            (orStop (endLevel verbosity c words false l)).map fun l =>
              ⟨parsed.words, l :: parsed.levels⟩
      | none =>
        match formOf word with
        | .separator => readWords verbosity c words true l rest
        | .long body =>
          match readLong c words l body with
          | .error stop => .error stop
          | .ok l => readWords verbosity c words false l rest
        | .short letters =>
          match readShort c words letters l with
          | .error stop => .error stop
          | .ok l => readWords verbosity c words false l rest
        | .plain =>
          match l.pending with
          | some (.setting s none) =>
            readWords verbosity c words false
              { l with pending := some (.setting s (some word)) } rest
          | _ =>
            match readPositional c false l word with
            | .error stop => .error stop
            | .ok l => readWords verbosity c words false l rest

end TronWallet.CommandLine
