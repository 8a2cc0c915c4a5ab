import TronWallet.Address
import TronWallet.Number.Binary64

/-!
# Values that do not fit

A document may be well formed and still not be what a field asks for. `Mismatch` lists
the ways, for every format that is decoded here; the formats share the wording and
differ only in how they write a floating point number, which `Mismatch.message` takes
as an argument.
-/

namespace TronWallet

/-- What stood where something else was expected. -/
inductive Found where
  | text (value : String)
  | integer (value : Int)
  | floating (value : Number.Binary64)
  | boolean (value : Bool)
  | null
  | sequence
  | table
  deriving DecidableEq

/-- How a well formed value fails to fit. -/
inductive Mismatch where
  /-- A value of another type. -/
  | wrongType (found : Found) (expected : String)
  /-- A value of the right type outside its range. -/
  | wrongValue (found : Found) (expected : String)
  /-- A sequence that ends before the last field that has no default. -/
  | wrongLength (length : Nat) (expected : String)
  | missingField (name : String)
  | duplicateField (name : String)
  /-- A text that is no address. -/
  | address (refusal : Address.Refusal)
  deriving DecidableEq

/-- The wording of a found value. -/
def Found.message (floatText : Number.Binary64 → List Char) : Found → String
  | .text value => "string " ++ Text.quotedString value
  | .integer value => "integer `" ++ Text.Decimal.intString value ++ "`"
  | .floating value => "floating point `" ++ String.ofList (floatText value) ++ "`"
  | .boolean value => "boolean `" ++ (if value then "true" else "false") ++ "`"
  | .null => "null"
  | .sequence => "sequence"
  | .table => "map"

/-- The wording of a mismatch. -/
def Mismatch.message (floatText : Number.Binary64 → List Char) : Mismatch → String
  | .wrongType found expected =>
    "invalid type: " ++ found.message floatText ++ ", expected " ++ expected
  | .wrongValue found expected =>
    "invalid value: " ++ found.message floatText ++ ", expected " ++ expected
  | .wrongLength length expected =>
    "invalid length " ++ Text.Decimal.natString length ++ ", expected " ++ expected
  | .missingField name => "missing field `" ++ name ++ "`"
  | .duplicateField name => "duplicate field `" ++ name ++ "`"
  | .address refusal => refusal.message

end TronWallet
