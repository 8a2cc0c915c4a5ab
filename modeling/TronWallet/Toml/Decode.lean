import TronWallet.Mismatch
import TronWallet.Number.Shortest
import TronWallet.Toml.Reading

/-!
# Fitting a TOML document to a type

Entries are fitted in the order of their definition, and the first one that does not fit
decides the refusal. A date or time stands for a table of one entry, whose key no field
has and whose value is its text.
-/

namespace TronWallet.Toml

/-- Why a document does not decode. -/
inductive Refusal where
  /-- The text is not TOML. -/
  | malformed
  | mismatch (cause : Mismatch)
  deriving DecidableEq

/-- The wording of a mismatch in TOML. -/
def mismatchMessage (m : Mismatch) : String :=
  m.message Number.Binary64.plain

/-- The key of the entry for which a date or time stands. -/
def momentKey : String := "$datetime"

namespace Value

/-- How a value is named where it does not fit. -/
def found : Value → Found
  | text s => .text s
  | integer n => .integer n
  | floating x => .floating x
  | boolean b => .boolean b
  | moment _ => .table
  | array _ => .sequence
  | table _ => .table

/-- The refusal of a value of another type. -/
def refuse {α : Type} (v : Value) (expected : String) : Except Refusal α :=
  .error (.mismatch (.wrongType v.found expected))

/-- Fits a text. -/
def asText (v : Value) : Except Refusal String :=
  match v with
  | text s => .ok s
  | _ => v.refuse "a string"

/-- Fits a boolean. -/
def asBoolean (v : Value) : Except Refusal Bool :=
  match v with
  | boolean b => .ok b
  | _ => v.refuse "a boolean"

/-- Fits an integer that is not negative. -/
def asNatural (v : Value) : Except Refusal Nat :=
  match v with
  | integer (.ofNat n) => .ok n
  | integer n => .error (.mismatch (.wrongValue (.integer n) "u64"))
  | _ => v.refuse "u64"

/-- Fits an address. -/
def asAddress (v : Value) : Except Refusal Address :=
  match v.asText with
  | .ok s => (Address.parse s).mapError fun e => .mismatch (.address e)
  | .error e => .error e

/-- The entries of a value that stands for a table. -/
def entries? : Value → Option Table
  | table entries => some entries
  | moment m => some [(momentKey, .text (String.ofList m.text))]
  | _ => none

end Value

/-- Fits the value of every entry of a table. -/
def asAddresses (entries : Table) : Except Refusal (List (String × Address)) :=
  entries.mapM fun e => (e.2.asAddress).map (e.1, ·)

/-- Decodes a text. -/
def decode {α : Type} (document : Table → Except Refusal α) (text : String) : Except Refusal α :=
  match parse? text with
  | some entries => document entries
  | none => .error .malformed

end TronWallet.Toml
