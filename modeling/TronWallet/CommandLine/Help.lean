import TronWallet.CommandLine.Grammar
import TronWallet.Release.Stamp
import TronWallet.Text.Decimal
import TronWallet.Text.Pad
import TronWallet.Text.Style
import TronWallet.Text.Terminal

/-!
# Help texts

The help of a command says what it is and how it is used, and lists its subcommands, its
arguments and its options. The short layout has one line for each of them, with the
explanations in one column; the long layout puts the explanations of arguments and options
on lines of their own. Only a command with a long description asks for the long layout by
itself.
-/

namespace TronWallet.CommandLine

/-- How a help text is laid out. -/
inductive Layout where
  | short
  | long
  deriving DecidableEq

/-- The layout of a command's help when its long form is asked for or not. -/
def Command.layout (c : Command) (long : Bool) : Layout :=
  if long && c.description.longAbout.isSome then .long else .short

/-- What a command is, as a layout says it. -/
def Command.about (c : Command) : Layout → String
  | .short => c.description.about
  | .long => c.description.longAbout.getD c.description.about

/-- What an option does. -/
def Opt.about (c : Command) (layout : Layout) : Opt → String
  | switch .verbose =>
    "Dump out debug information, same as env var " ++ verboseVariable ++ "=true"
  | switch .noPretty => "Disable pretty print JSON outputs"
  | switch .dryRun => "Do not send signed transaction"
  | switch .ledger => "Use ledger hardware wallet"
  | setting .signer => "Account address or account name used to sign"
  | setting .node => "Node host, with optional port (default port 50051)"
  | setting .timeout => "Set timeout in seconds. Set to 0 to not wait for confirm"
  | setting .file => "Path to file for given command when applicable"
  | version => "Print version"
  | help =>
    if c.description.longAbout.isSome then
      match layout with
      | .short => "Print help (see more with '--help')"
      | .long => "Print help (see a summary with '-h')"
    else "Print help"

/-- What stands for an option that is not given; `verbosity` is the value of the variable
that can stand for the verbose switch. -/
def Opt.note? (verbosity : Option String) : Opt → Option String
  | switch .verbose => some ("[env: " ++ verboseVariable ++ "=" ++ verbosity.getD "" ++ "]")
  | setting .timeout => some ("[default: " ++ Text.Decimal.natString defaultTimeout ++ "]")
  | _ => none

/-- An entry of a help text: what is written, the number of characters of it that show,
and what it means. -/
structure Entry where
  usage : String
  width : Nat
  about : String
  note : Option String := none

/-- How an option is written. -/
def Opt.usage (o : Opt) : String :=
  let letter := match o.short with
    | some letter => Text.Style.literal.on ("-" ++ String.ofList [letter]) ++ ", "
    | none => "    "
  let value := match o with
    | setting s => " <" ++ s.valueName ++ ">"
    | _ => ""
  letter ++ Text.Style.literal.on ("--" ++ o.long) ++ value

/-- The entry of an option: its letter or the blanks in place of one take four characters. -/
def Opt.entry (c : Command) (layout : Layout) (verbosity : Option String) (o : Opt) : Entry :=
  ⟨o.usage, 4 + o.shown.length, o.about c layout, o.note? verbosity⟩

/-- The entry of an argument. -/
def Positional.entry (p : Positional) : Entry :=
  { usage := p.shown, width := p.shown.length, about := p.about }

/-- The entry of a subcommand. -/
def Command.entry (c : Command) : Entry where
  usage := Text.Style.literal.on c.name
  width := c.name.length
  about := c.description.about

/-- The lines of entries in two columns; an explanation of several lines stays in its
column. -/
def columns (entries : List Entry) : String :=
  let width := (entries.map Entry.width).foldl max 0
  String.join (entries.map fun e =>
    let text := match e.note with
      | some note => e.about ++ " " ++ note
      | none => e.about
    "  " ++ e.usage ++ Text.blanks (width - e.width) ++ "  " ++ Text.hang (width + 4) text ++ "\n")

/-- The blanks before an explanation on lines of its own. -/
def margin : Nat := 10

/-- The lines of entries with their explanations, notes apart, on lines of their own. -/
def paragraphs (entries : List Entry) : String :=
  "\n".intercalate (entries.map fun e =>
    let text := match e.note with
      | some note => e.about ++ "\n\n" ++ note
      | none => e.about
    "  " ++ e.usage ++ "\n" ++ Text.blanks margin ++ Text.hang margin text ++ "\n")

/-- Entries in a layout. -/
def Layout.entries : Layout → List Entry → String
  | .short => columns
  | .long => paragraphs

/-- How a command is used. -/
def Command.usage (c : Command) (words : List String) : String :=
  let options := if c.description.options.isEmpty then [] else ["[OPTIONS]"]
  let arguments := c.description.arguments.map Positional.shown
  let child :=
    if c.children.isEmpty then []
    else if c.description.needsCommand then ["<COMMAND>"] else ["[COMMAND]"]
  " ".intercalate (Text.Style.literal.on (" ".intercalate words) :: options ++ arguments ++ child)

/-- A part of a help text under its title; none if it has no entries. -/
def part (title : String) (layout : Layout) (entries : List Entry) : List String :=
  if entries.isEmpty then []
  else [Text.Style.heading.on (title ++ ":") ++ "\n" ++ layout.entries entries]

/-- The help of a command that is called by some words, with the codes of its styles. -/
def Command.styledHelp (c : Command) (words : List String) (layout : Layout)
    (verbosity : Option String) : String :=
  let d := c.description
  let usage := Text.Style.heading.on "Usage:" ++ " " ++ c.usage words ++ "\n"
  "\n".intercalate
    ([c.about layout ++ "\n", usage] ++ part "Commands" .short (c.children.map Command.entry) ++
      part "Arguments" layout (d.arguments.map Positional.entry) ++
      part "Options" layout (d.options.map (Opt.entry c layout verbosity)))

/-- The help of a command that is called by some words. -/
def Command.help (c : Command) (words : List String) (layout : Layout)
    (verbosity : Option String) : String :=
  String.ofList (Text.plain (c.styledHelp words layout verbosity).toList)

/-- The line that tells the version. -/
def versionText : String :=
  programName ++ " " ++ Release.version ++ "\n"

end TronWallet.CommandLine
