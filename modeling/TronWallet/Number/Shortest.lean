import TronWallet.Number.Binary64
import TronWallet.Text.Decimal

/-!
# The shortest decimal text of a floating point number

A positive magnitude stands for the interval of real numbers that round to it, ends
included if its significand is even. `shortestDigits` finds the least number of decimal
digits for which a decimal lies in that interval, and of those decimals the nearest: for
one, two, … seventeen digits it tests the two neighbours of the magnitude on that decimal
grid. How the digits are laid out is a matter of the format: `plain` never uses an
exponent, `scientific` does outside of a range.
-/

namespace TronWallet.Number.Binary64

open TronWallet.Text

/-- Decimal digits and the power of ten of the first one: `d₀.d₁d₂… · 10 ^ exponent`. -/
structure Scientific where
  digits : List Nat
  exponent : Int
  deriving DecidableEq

/-- The ends of the interval that rounds to a magnitude, in quarter units, and whether
they belong to it. -/
structure Interval where
  low : Nat
  high : Nat
  closed : Bool

/-- The interval that rounds to a magnitude. Below a power of two the neighbour is half
as far. -/
def interval (units : Nat) : Interval :=
  let s := Nat.pow 2 (shift units)
  let m := units / s
  let below := if m = Nat.pow 2 52 ∧ s ≠ 1 then s else 2 * s
  { low := 4 * units - below, high := 4 * units + 2 * s, closed := m % 2 = 0 }

/-- Does the fraction `numerator / denominator` lie in the interval? -/
def Interval.contains (i : Interval) (numerator denominator : Nat) : Bool :=
  if i.closed then i.low * denominator ≤ numerator && numerator ≤ i.high * denominator
  else i.low * denominator < numerator && numerator < i.high * denominator

/-- The greatest `e` within the bound for which ten to the power `e` is at most
`numerator / denominator`, which is at least one. -/
def floorLog10 : Nat → Nat → Nat → Nat
  | 0, _, _ => 0
  | bound + 1, numerator, denominator =>
    if numerator < 10 * denominator then 0
    else floorLog10 bound numerator (10 * denominator) + 1

/-- The power of ten of the first decimal digit of a positive magnitude. -/
def decimalExponent (units : Nat) : Int :=
  if one ≤ units then floorLog10 400 units one
  else
    -- the exponent of the least power of ten that lifts the magnitude to one or more
    Int.negOfNat (floorLog10 400 (one - 1) units + 1)

/-- The grid of decimals with `n` digits at a magnitude whose first digit has power
`exponent`: a step of the grid is `numerator / denominator` quarter units. -/
def gridStep (n : Nat) (exponent : Int) : Nat × Nat :=
  let e := exponent - (n - 1 : Nat)
  if e < 0 then (4 * one, Nat.pow 10 e.natAbs) else (4 * one * Nat.pow 10 e.natAbs, 1)

/-- The nearest decimal of `n` digits that rounds to the magnitude, as a count of steps. -/
def onGrid? (units n : Nat) (exponent : Int) : Option Nat :=
  let i := interval units
  let (p, q) := gridStep n exponent
  let down := 4 * units * q / p
  let hit (k : Nat) : Bool := i.contains (k * p) q
  match hit down, hit (down + 1) with
  | true, true =>
    let before := 4 * units * q - down * p
    let after := (down + 1) * p - 4 * units * q
    if before < after ∨ (before = after ∧ down % 2 = 0) then some down else some (down + 1)
  | true, false => some down
  | false, true => some (down + 1)
  | false, false => none

/-- Digits without the zeros at their end. -/
def dropTrailingZeros (ds : List Nat) : List Nat :=
  (ds.reverse.dropWhile (· = 0)).reverse

/-- The fewest digits, from `n` on and at most `bound` more, that round to the magnitude. -/
def shortestFrom (units : Nat) (exponent : Int) : Nat → Nat → Scientific
  | 0, _ => ⟨[], exponent⟩
  | bound + 1, n =>
    match onGrid? units n exponent with
    | some k =>
      let ds := Positional.digits 10 k
      ⟨dropTrailingZeros ds, exponent + (ds.length - n : Nat)⟩
    | none => shortestFrom units exponent bound (n + 1)

/-- The fewest digits that round to a positive magnitude. -/
def shortestDigits (units : Nat) : Scientific :=
  shortestFrom units (decimalExponent units) 17 1

/-- Digits as characters. -/
def digitText (ds : List Nat) : List Char :=
  ds.map Decimal.digitChar

/-- Digits with a point where the power of ten passes zero and at least one digit on
either side of it. -/
def positional (s : Scientific) : List Char :=
  if s.exponent < 0 then
    ['0', '.'] ++ List.replicate (s.exponent.natAbs - 1) '0' ++ digitText s.digits
  else
    let wholeCount := s.exponent.natAbs + 1
    let whole := s.digits.take wholeCount
    let fraction := s.digits.drop wholeCount
    digitText whole ++ List.replicate (wholeCount - whole.length) '0' ++ ['.'] ++
      (if fraction = [] then ['0'] else digitText fraction)

/-- The sign of a number that is written with one. -/
def signText (negative : Bool) : List Char :=
  if negative then ['-'] else []

/-- A finite number with the positional layout, whatever its size. -/
def plainMagnitude (units : Nat) : List Char :=
  if units = 0 then ['0', '.', '0'] else positional (shortestDigits units)

/-- One digit before the point, and a signed exponent. -/
def withExponent (s : Scientific) : List Char :=
  let mantissa := match s.digits with
    | [] => ['0']
    | [d] => digitText [d]
    | d :: ds => digitText [d] ++ '.' :: digitText ds
  mantissa ++ ['e', if s.exponent < 0 then '-' else '+'] ++ Decimal.ofNat s.exponent.natAbs

/-- A finite magnitude in positional layout where the power of ten of its first digit is
from -5 to 15, and with an exponent elsewhere. -/
def scientificMagnitude (units : Nat) : List Char :=
  if units = 0 then ['0', '.', '0']
  else
    let s := shortestDigits units
    if -5 ≤ s.exponent ∧ s.exponent ≤ 15 then positional s else withExponent s

/-- A number in positional layout. -/
def plain : Binary64 → List Char
  | finite negative units => signText negative ++ plainMagnitude units
  | infinite negative => signText negative ++ "inf".toList
  | nan => "NaN".toList

/-- A number with an exponent if it is very large or very small. -/
def scientific : Binary64 → List Char
  | finite negative units => signText negative ++ scientificMagnitude units
  | infinite negative => signText negative ++ "inf".toList
  | nan => "NaN".toList

end TronWallet.Number.Binary64
