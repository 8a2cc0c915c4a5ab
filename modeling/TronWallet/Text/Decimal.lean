import TronWallet.Text.Positional

/-!
# Decimal text of integers

`Decimal.ofNat` and `Decimal.ofInt` are the one way this library writes an integer:
plain decimal digits, no leading zeros, a minus sign before a negative number.
`Decimal.toNat?` reads a sequence of digits of any length, leading zeros allowed.
-/

namespace TronWallet.Text.Decimal

/-- Is the character one of the ten ASCII digits? -/
def isDigit (c : Char) : Bool :=
  '0' ≤ c && c ≤ '9'

/-- The value of an ASCII digit. -/
def digitValue (c : Char) : Nat :=
  c.toNat - 48

/-- The ASCII digit of a value below ten. -/
def digitChar (d : Nat) : Char :=
  Char.ofNat (48 + d)

/-- A natural number in decimal. -/
def ofNat (n : Nat) : List Char :=
  if n = 0 then ['0'] else (Positional.digits 10 n).map digitChar

/-- An integer in decimal. -/
def ofInt : Int → List Char
  | .ofNat n => ofNat n
  | .negSucc n => '-' :: ofNat (n + 1)

/-- The value of a sequence of ASCII digits. -/
def value (cs : List Char) : Nat :=
  Positional.value 10 (cs.map digitValue)

/-- The value of a nonempty sequence of ASCII digits. -/
def toNat? (cs : List Char) : Option Nat :=
  if cs ≠ [] ∧ cs.all isDigit then some (value cs) else none

/-- `ofNat` as a string. -/
def natString (n : Nat) : String :=
  String.ofList (ofNat n)

/-- `ofInt` as a string. -/
def intString (n : Int) : String :=
  String.ofList (ofInt n)

end TronWallet.Text.Decimal
