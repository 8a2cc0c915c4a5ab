import TronWallet.Text.Positional

/-!
# Binary floating point of 64 bits

A finite number is a sign and a natural number of units of 2 ^ -1074, the least
positive number of the format, so the exact value of every finite number is an integer
count and no arithmetic here leaves the natural numbers. `roundRatio` rounds a quotient
of two natural numbers to the nearest number of the format, ties to the even
significand; products, quotients and numbers read from decimal text are instances of it.
-/

namespace TronWallet.Number

/-- A number of the format. A finite one counts units of 2 ^ -1074. -/
inductive Binary64 where
  | finite (negative : Bool) (units : Nat)
  | infinite (negative : Bool)
  | nan
  deriving DecidableEq

namespace Binary64

open TronWallet.Text

/-- The number of units in one. -/
def one : Nat := Nat.pow 2 1074

/-- The units of the greatest finite number. -/
def greatest : Nat := (Nat.pow 2 53 - 1) * Nat.pow 2 2045

/-- The number of binary digits by which the significand of a magnitude is shifted:
zero for magnitudes of at most 53 binary digits. -/
def shift (units : Nat) : Nat :=
  units.log2 + 1 - 53

/-- The nearest integer to a quotient, ties to the even one. -/
def roundDiv (numerator denominator : Nat) : Nat :=
  let q := numerator / denominator
  let r := 2 * (numerator % denominator)
  if r < denominator then q
  else if denominator < r then q + 1
  else q + q % 2

/-- The units of the magnitude nearest to a quotient of units, ties to the even
significand; it may exceed `greatest`. -/
def roundUnits (numerator denominator : Nat) : Nat :=
  let s := Nat.pow 2 (shift (numerator / denominator))
  roundDiv numerator (denominator * s) * s

/-- The finite number of a magnitude, or `infinite` past the greatest one. -/
def ofUnits (negative : Bool) (units : Nat) : Binary64 :=
  if units ≤ greatest then finite negative units else infinite negative

/-- The number nearest to a quotient. -/
def roundRatio (negative : Bool) (numerator denominator : Nat) : Binary64 :=
  ofUnits negative (roundUnits (numerator * one) denominator)

/-- The number nearest to `significand` times ten to the power `exponent`. Powers that
leave the range of the format on either side, whatever the digits are, are not computed. -/
def ofDecimal (negative : Bool) (significand : Nat) (exponent : Int) : Binary64 :=
  let length : Int := (Positional.digits 10 significand).length
  if significand = 0 ∨ length + exponent < -330 then finite negative 0
  else if 310 < length + exponent then infinite negative
  else if exponent < 0 then roundRatio negative significand (Nat.pow 10 exponent.natAbs)
  else roundRatio negative (significand * Nat.pow 10 exponent.natAbs) 1

/-- The magnitude of a power of ten, in units. -/
def powerOfTen (n : Nat) : Nat :=
  roundUnits (Nat.pow 10 n * one) 1

end Binary64

end TronWallet.Number
