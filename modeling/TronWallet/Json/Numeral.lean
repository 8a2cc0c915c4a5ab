import TronWallet.Number.Binary64
import TronWallet.Text.Decimal

/-!
# JSON numbers

A numeral keeps what a JSON number says: its sign, the digits before and after the
point, and its exponent. `Numeral.number?` is the number it stands for: an integer if it
is written as one and fits 64 bits, and otherwise a floating point number, which is
scaled from at most 64 bits of significand by powers of ten and may thus miss the
nearest one by a few units in the last place. A numeral too large for the format has
none.
-/

namespace TronWallet.Json

/-- A number as it is written. -/
structure Numeral where
  negative : Bool
  whole : List Nat
  fraction : List Nat
  exponent : Option Int
  deriving DecidableEq

/-- What a numeral stands for. -/
inductive Number where
  | integer (value : Int)
  | floating (value : Number.Binary64)
  deriving DecidableEq

namespace Numeral

open TronWallet.Number (Binary64)
open TronWallet.Text

/-- The greatest significand: it has 64 bits. -/
def significandLimit : Nat := 0xFFFFFFFFFFFFFFFF

/-- The greatest magnitude of an exponent: it has 31 bits. -/
def exponentLimit : Nat := 0x7FFFFFFF

/-- Appends digits to a significand while it stays within the limit, and returns the
digits that are left. -/
def absorb : Nat → List Nat → Nat × List Nat
  | s, [] => (s, [])
  | s, d :: ds => if s * 10 + d ≤ significandLimit then absorb (s * 10 + d) ds else (s, d :: ds)

/-- Scales a magnitude by a power of ten, dividing step by step if the power is below the
reciprocal of the greatest one of the format; `none` if the result exceeds the format. -/
def scale? : Nat → Nat → Int → Option Nat
  | 0, _, _ => some 0
  | bound + 1, units, exponent =>
    if exponent.natAbs ≤ 308 then
      let power := Binary64.powerOfTen exponent.natAbs
      if 0 ≤ exponent then
        let product := Binary64.roundUnits (units * power) Binary64.one
        if product ≤ Binary64.greatest then some product else none
      else some (Binary64.roundUnits (units * Binary64.one) power)
    else if units = 0 then some 0
    else if 0 ≤ exponent then none
    else
      scale? bound (Binary64.roundUnits (units * Binary64.one) (Binary64.powerOfTen 308))
        (exponent + 308)

/-- The floating point number of a significand and a power of ten. Three divisions by the
greatest power of ten leave nothing of a significand. -/
def floating? (negative : Bool) (significand : Nat) (exponent : Int) : Option Number :=
  (scale? 4 (Binary64.roundUnits (significand * Binary64.one) 1) exponent).map
    fun units => .floating (.finite negative units)

/-- The number that a numeral stands for. -/
def number? (n : Numeral) : Option Number :=
  let (s, wholeRest) := absorb 0 n.whole
  if wholeRest = [] ∧ n.fraction = [] ∧ n.exponent = none then
    if !n.negative then some (.integer s)
    else if 0 < s ∧ s ≤ 0x8000000000000000 then some (.integer (Int.negOfNat s))
    else floating? true s 0
  else
    let (significand, fractionRest) := absorb s n.fraction
    let shift : Int := wholeRest.length - (n.fraction.length - fractionRest.length)
    match n.exponent with
    | none => floating? n.negative significand shift
    | some e =>
      if e.natAbs ≤ exponentLimit then floating? n.negative significand (shift + e)
      else if significand = 0 ∨ e < 0 then some (.floating (.finite n.negative 0))
      else none

/-- The exponent part of a numeral, if one begins here; `none` if it has no digits. -/
def readExponent (cs : List Char) : Option (Option Int × List Char) :=
  let digits (negative : Bool) (ds : List Char) : Option (Option Int × List Char) :=
    let run := ds.takeWhile Decimal.isDigit
    if run = [] then none
    else
      let magnitude : Int := Decimal.value run
      some (some (if negative then -magnitude else magnitude), ds.dropWhile Decimal.isDigit)
  match cs with
  | c :: rest =>
    if c = 'e' ∨ c = 'E' then
      match rest with
      | '-' :: ds => digits true ds
      | '+' :: ds => digits false ds
      | ds => digits false ds
    else some (none, cs)
  | [] => some (none, [])

/-- The digits after a point, if one stands here; `none` if there are none. -/
def readFraction (cs : List Char) : Option (List Nat × List Char) :=
  match cs with
  | '.' :: ds =>
    let run := ds.takeWhile Decimal.isDigit
    if run = [] then none
    else some (run.map Decimal.digitValue, ds.dropWhile Decimal.isDigit)
  | _ => some ([], cs)

/-- The digits before the point: no leading zero unless it stands alone. -/
def readWhole (cs : List Char) : Option (List Nat × List Char) :=
  let run := cs.takeWhile Decimal.isDigit
  match run with
  | [] => none
  | '0' :: _ :: _ => none
  | _ => some (run.map Decimal.digitValue, cs.dropWhile Decimal.isDigit)

/-- Reads a numeral and returns the text after it. -/
def read? (cs : List Char) : Option (Numeral × List Char) := do
  let (negative, cs) := match cs with
    | '-' :: rest => (true, rest)
    | _ => (false, cs)
  let (whole, cs) ← readWhole cs
  let (fraction, cs) ← readFraction cs
  let (exponent, cs) ← readExponent cs
  return (⟨negative, whole, fraction, exponent⟩, cs)

end Numeral

end TronWallet.Json
