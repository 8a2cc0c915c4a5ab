import TronWallet.Toml.Quoting
import TronWallet.Text.Decimal

/-!
# Writing TOML

The documents written here are lists of sections: tables under a header whose entries are
texts, integers and booleans, one on each line. Sections are separated by an empty line.
-/

namespace TronWallet.Toml

/-- The value of an entry that is written on one line. -/
inductive Scalar where
  | text (value : String)
  | integer (value : Int)
  | boolean (value : Bool)
  deriving DecidableEq

/-- The text of an entry's value. -/
def Scalar.write : Scalar → List Char
  | text s => Toml.write s.toList
  | integer n => Text.Decimal.ofInt n
  | boolean b => if b then "true".toList else "false".toList

/-- A table under a header. -/
structure Section where
  name : String
  entries : List (String × Scalar)

/-- The line of an entry. -/
def entryLine (e : String × Scalar) : List Char :=
  writeKey e.1.toList ++ [' ', '=', ' '] ++ e.2.write ++ ['\n']

/-- The lines of a section. -/
def Section.write (s : Section) : List Char :=
  '[' :: writeKey s.name.toList ++ [']', '\n'] ++ s.entries.flatMap entryLine

/-- The sections with an empty line between them. -/
def writeSections : List Section → List Char
  | [] => []
  | [s] => s.write
  | s :: t :: rest => s.write ++ '\n' :: writeSections (t :: rest)

end TronWallet.Toml
