import TronWallet.CommandLine.Grammar
import TronWallet.Text.Decimal
import TronWallet.Text.Style
import TronWallet.Text.Terminal

/-!
# Refused command lines

`Refusal` lists why a command line is refused, and `Refusal.line` is what the user is
told: one line, in which what a terminal would obey has been dropped from quoted words.
-/

namespace TronWallet.CommandLine

/-- Why a text is no integer of a type. -/
inductive NumberFault where
  | noDigits
  | invalidDigit
  | tooLarge
  | tooSmall
  /-- An integer, but not one from zero to a limit. -/
  | outOfRange (value : Int) (limit : Nat)
  deriving DecidableEq

/-- The wording of a fault. -/
def NumberFault.message : NumberFault → String
  | noDigits => "cannot parse integer from empty string"
  | invalidDigit => "invalid digit found in string"
  | tooLarge => "number too large to fit in target type"
  | tooSmall => "number too small to fit in target type"
  | outOfRange value limit =>
    Text.Decimal.intString value ++ " is not in 0..=" ++ Text.Decimal.natString limit

/-- Why a command line is refused. -/
inductive Refusal where
  /-- An option that is not known, or a word where none is taken. -/
  | unexpectedArgument (shown : String)
  | unknownCommand (word : String)
  /-- An option without its value, or with an empty one that may not be. -/
  | missingValue (shown : String)
  /-- A switch that is given a value. -/
  | unneededValue (value shown : String)
  /-- A variable of the environment that stands for a switch and is neither true nor false. -/
  | switchVariable (value shown : String)
  | badNumber (value shown : String) (fault : NumberFault)
  /-- An option that is given twice in one place. -/
  | repeated (shown : String)
  /-- Positional arguments are missing. -/
  | missingArguments
  /-- A subcommand is missing; the command is named by its words. -/
  | missingCommand (words : List String)
  /-- A subcommand is missing and nothing else is given, so the command's help is shown. -/
  | nothingGiven (about : String)
  deriving DecidableEq

namespace Refusal

/-- A word that is refused, between apostrophes. -/
def refused (word : String) : String :=
  "'" ++ Text.Style.invalid.on word ++ "'"

/-- A word that the program knows, between apostrophes. -/
def known (word : String) : String :=
  "'" ++ Text.Style.literal.on word ++ "'"

/-- What is wrong, without an introduction and with the codes of its styles. -/
def body : Refusal → String
  | unexpectedArgument shown => "unexpected argument " ++ refused shown ++ " found"
  | unknownCommand word => "unrecognized subcommand " ++ refused word
  | missingValue shown => "a value is required for " ++ refused shown ++ " but none was supplied"
  | unneededValue value shown =>
    "unexpected value " ++ refused value ++ " for " ++ known shown ++
      " found; no more were expected"
  | switchVariable value shown => "invalid value " ++ refused value ++ " for " ++ known shown
  | badNumber value shown fault =>
    "invalid value " ++ refused value ++ " for " ++ known shown ++ ": " ++ fault.message
  | repeated shown => "the argument " ++ refused shown ++ " cannot be used multiple times"
  | missingArguments => "the following required arguments were not provided:"
  | missingCommand words =>
    refused (" ".intercalate words) ++ " requires a subcommand but one was not provided"
  | nothingGiven about => about

/-- The word before what is wrong. -/
def introduction : Refusal → String
  | nothingGiven _ => ""
  | _ => "error: "

/-- The line that tells the user, with its introduction. -/
def line (r : Refusal) : String :=
  String.ofList (Text.firstLine (Text.plain (r.introduction ++ r.body).toList))

/-- The line that tells the user, without its introduction. -/
def message (r : Refusal) : String :=
  String.ofList (Text.firstLine (Text.plain r.body.toList))

end Refusal

end TronWallet.CommandLine
