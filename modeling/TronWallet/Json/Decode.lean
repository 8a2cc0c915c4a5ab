import TronWallet.Json.Reading
import TronWallet.Mismatch
import TronWallet.Number.Shortest
import TronWallet.Time.Instant

/-!
# Fitting a JSON text to a type

Decoders walk the tree of a text from left to right and stop at the first defect, be it
a place where the text is no JSON or a value that does not fit. A mismatch names what it
found, so a string or number that does not fit is still required to have a value; arrays
and objects that do not fit are not looked into.
-/

namespace TronWallet.Json

/-- Why a text does not decode. -/
inductive Refusal where
  /-- The text is not JSON, or a number or string in it has no value. -/
  | malformed
  | mismatch (cause : Mismatch)
  /-- A text that is no point in time. -/
  | badInstant (text : String)
  deriving DecidableEq

/-- The wording of a mismatch in JSON. -/
def mismatchMessage (m : Mismatch) : String :=
  m.message Number.Binary64.scientific

namespace Reading

/-- How a value is named where it does not fit. -/
def found : Reading → Except Refusal Found
  | null => .ok .null
  | boolean b => .ok (.boolean b)
  | number n =>
    match n.number? with
    | some (.integer i) => .ok (.integer i)
    | some (.floating x) => .ok (.floating x)
    | none => .error .malformed
  | string (some s) => .ok (.text s)
  | string none => .error .malformed
  | array _ => .ok .sequence
  | object _ => .ok .table
  | broken => .error .malformed

/-- The refusal of a value of another type. -/
def refuse {α : Type} (r : Reading) (expected : String) : Except Refusal α :=
  match r.found with
  | .ok f => .error (.mismatch (.wrongType f expected))
  | .error e => .error e

/-- Fits a text. -/
def asText (r : Reading) : Except Refusal String :=
  match r with
  | string (some s) => .ok s
  | _ => r.refuse "a string"

/-- Fits a boolean. -/
def asBoolean (r : Reading) : Except Refusal Bool :=
  match r with
  | boolean b => .ok b
  | _ => r.refuse "a boolean"

/-- Fits an integer from zero to 2 ^ 64 - 1. -/
def asNatural (r : Reading) : Except Refusal Nat :=
  match r.found with
  | .ok (.integer (.ofNat n)) => .ok n
  | .ok (.integer i) => .error (.mismatch (.wrongValue (.integer i) "u64"))
  | _ => r.refuse "u64"

/-- Fits a sequence of values, each by the same rule. -/
def asList {α : Type} (element : Reading → Except Refusal α) (r : Reading) :
    Except Refusal (List α) :=
  match r with
  | array items => items.mapM element
  | _ => r.refuse "a sequence"

/-- Fits a point in time or its absence. -/
def asInstant? (r : Reading) : Except Refusal (Option Time.Instant) :=
  match r with
  | null => .ok none
  | string (some s) =>
    match Time.Instant.parse? s.toList with
    | some t => .ok (some t)
    | none => .error (.badInstant s)
  | _ => r.refuse "an RFC 3339 formatted date and time string"

/-- Fits an address. -/
def asAddress (r : Reading) : Except Refusal Address :=
  match r.asText with
  | .ok s => (Address.parse s).mapError fun e => .mismatch (.address e)
  | .error e => .error e

/-- Accepts any value of an unknown member. -/
def skip (r : Reading) : Except Refusal Unit :=
  if r.wellFormed then .ok () else .error .malformed

end Reading

/-- Fills the slot of a member that has not occurred before. -/
def fill {α : Type} (name : String) (slot : Option α) (value : Except Refusal α) :
    Except Refusal (Option α) :=
  match slot with
  | some _ => .error (.mismatch (.duplicateField name))
  | none => value.map some

/-- The value of a slot that has no default. -/
def required {α : Type} (name : String) (slot : Option α) : Except Refusal α :=
  match slot with
  | some a => .ok a
  | none => .error (.mismatch (.missingField name))

/-- The next element of an array that stands for fields in their order, or the default. -/
def nextOr {α : Type} (default : α) (field : Reading → Except Refusal α) :
    List Reading → Except Refusal (α × List Reading)
  | [] => .ok (default, [])
  | r :: rs => (field r).map (·, rs)

/-- The next element of an array that stands for fields in their order. `position` is the
number of elements before it. -/
def next {α : Type} (position : Nat) (expected : String) (field : Reading → Except Refusal α) :
    List Reading → Except Refusal (α × List Reading)
  | [] => .error (.mismatch (.wrongLength position expected))
  | r :: rs => (field r).map (·, rs)

/-- The end of an array that stands for fields in their order. -/
def finish : List Reading → Except Refusal Unit
  | [] => .ok ()
  | _ :: _ => .error .malformed

/-- Decodes a text that holds one value and nothing else. -/
def decode {α : Type} (field : Reading → Except Refusal α) (text : String) : Except Refusal α :=
  let document := read text.toList
  match field document.value with
  | .error e => .error e
  | .ok a => if document.ends then .ok a else .error .malformed

end TronWallet.Json
