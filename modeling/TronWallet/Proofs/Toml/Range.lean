import TronWallet.Proofs.Toml.Hereditary

/-!
# Integers of a document fit 64 bits

`parse?` refuses an integer that does not fit 64 bits, at whatever depth of arrays, inline
tables and dotted keys it stands (`fits_of_parse?`): that all integers in a value fit is
`Hereditary`, whatever the keys are.
-/

namespace TronWallet.Toml

/-- Every integer in the value fits 64 bits. -/
inductive Value.Fits : Value → Prop where
  | text (s : String) : Fits (.text s)
  | integer {n : Int} (h : -0x8000000000000000 ≤ n ∧ n < 0x8000000000000000) : Fits (.integer n)
  | floating (x : Number.Binary64) : Fits (.floating x)
  | boolean (b : Bool) : Fits (.boolean b)
  | moment (m : Moment) : Fits (.moment m)
  | array {items : List Value} (h : ∀ v ∈ items, Fits v) : Fits (.array items)
  | table {entries : Table} (h : ∀ e ∈ entries, Fits e.2) : Fits (.table entries)

theorem hereditary_fits : Hereditary Value.Fits fun _ => True where
  text := .text
  integer := fun _ => .integer
  floating := .floating
  boolean := .boolean
  moment := .moment
  array := fun _ => .array
  table := fun _ _ => .table
  nil := trivial
  push := fun _ _ _ _ => trivial
  sublist := fun _ _ _ _ => trivial

/-- Every integer of a document that is read fits 64 bits. -/
theorem fits_of_parse? {text : String} {entries : Table} (h : parse? text = some entries) :
    ∀ e ∈ entries, e.2.Fits :=
  (hereditary_fits.of_parse? h).2

end TronWallet.Toml
