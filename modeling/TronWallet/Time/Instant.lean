import TronWallet.Text.Decimal
import TronWallet.Text.White
import TronWallet.Time.Date

/-!
# Instants

An `Instant` is a point in time by its date and time of day in universal time, to the
nanosecond; second 60 is the leap second. `Instant.parse?` reads RFC 3339 text with some
freedom: white space may stand before numbers and separators and at the end, a month, day,
hour, minute or second may have one digit, the year may carry a sign, a blank may stand in
place of the `T`, and the offset may be written `UTC` or without its colon.
`Instant.text` writes the strict form with the offset `+00:00`.
-/

namespace TronWallet.Time

open Text

/-- A point in universal time. -/
structure Instant where
  date : Date
  hour : Nat
  minute : Nat
  second : Nat
  nanosecond : Nat
  deriving DecidableEq

namespace Instant

/-! ## Reading -/

/-- A number of at least one and at most `width` digits, with white space before it. -/
def number? (width : Nat) (cs : List Char) : Option (Nat × List Char) :=
  let cs := trimStart cs
  let run := (cs.take width).takeWhile Decimal.isDigit
  if run = [] then none else some (Decimal.value run, cs.drop run.length)

/-- A year: up to four digits, or a sign and any number of them. -/
def year? (cs : List Char) : Option (Int × List Char) :=
  let signed (negative : Bool) (rest : List Char) : Option (Int × List Char) :=
    let run := rest.takeWhile Decimal.isDigit
    if run = [] then none
    else
      let magnitude : Int := Decimal.value run
      some (if negative then -magnitude else magnitude, rest.drop run.length)
  match trimStart cs with
  | '-' :: rest => signed true rest
  | '+' :: rest => signed false rest
  | rest => (number? 4 rest).map fun r => (r.1, r.2)

/-- The text after a separator with white space before it. -/
def separator? (c : Char) (cs : List Char) : Option (List Char) :=
  match trimStart cs with
  | d :: rest => if d = c then some rest else none
  | [] => none

/-- The text after the character between date and time. -/
def dateEnd? : List Char → Option (List Char)
  | 'T' :: rest | 't' :: rest | ' ' :: rest => some rest
  | _ => none

/-- The nanoseconds of a fraction of a second, of which nine digits count. -/
def fraction? (cs : List Char) : Option (Nat × List Char) :=
  match cs with
  | '.' :: rest =>
    let run := rest.takeWhile Decimal.isDigit
    if run = [] then none
    else
      let kept := run.take 9
      some (Decimal.value kept * Nat.pow 10 (9 - kept.length), rest.drop run.length)
  | _ => some (0, cs)

/-- Hours and minutes of an offset after its sign. -/
def offsetMinutes? : List Char → Option (Nat × List Char)
  | h₁ :: h₂ :: rest =>
    if Decimal.isDigit h₁ && Decimal.isDigit h₂ then
      match rest.dropWhile (fun c => c = ':' || isWhite c) with
      | m₁ :: m₂ :: rest =>
        if '0' ≤ m₁ && m₁ ≤ '5' && Decimal.isDigit m₂ then
          some (60 * Decimal.value [h₁, h₂] + Decimal.value [m₁, m₂], rest)
        else none
      | _ => none
    else none
  | _ => none

/-- The offset from universal time in minutes. -/
def offset? (cs : List Char) : Option (Int × List Char) :=
  match cs with
  | 'Z' :: rest | 'z' :: rest => some (0, rest)
  | '+' :: rest => (offsetMinutes? rest).map fun r => (r.1, r.2)
  | '-' :: rest | '\u2212' :: rest => (offsetMinutes? rest).map fun r => (-r.1, r.2)
  | _ =>
    if (cs.take 3).map Char.toLower = ['u', 't', 'c'] then some (0, cs.drop 3) else none

/-- The first and the last year that an instant may have. -/
def yearRange : Int × Int := (-262143, 262142)

/-- Is the date's year one that an instant may have? -/
def inRange (d : Date) : Bool :=
  yearRange.1 ≤ d.year && d.year ≤ yearRange.2

/-- The instant of a local date and time that is `offset` minutes ahead of universal time. -/
def ofLocal? (d : Date) (hour minute second nanosecond : Nat) (offset : Int) : Option Instant :=
  if d.isValid && inRange d && hour ≤ 23 && minute ≤ 59 && second ≤ 60 && offset.natAbs < 1440 then
    let m : Int := hour * 60 + minute - offset
    let date := if m < 0 then d.previous else if m < 1440 then d else d.next
    let m := (m % 1440).toNat
    if inRange date then some ⟨date, m / 60, m % 60, second, nanosecond⟩ else none
  else none

/-- Reads an instant. -/
def parse? (cs : List Char) : Option Instant := do
  let (year, cs) ← year? cs
  let cs ← separator? '-' cs
  let (month, cs) ← number? 2 cs
  let cs ← separator? '-' cs
  let (day, cs) ← number? 2 cs
  let cs ← dateEnd? cs
  let (hour, cs) ← number? 2 cs
  let cs ← separator? ':' cs
  let (minute, cs) ← number? 2 cs
  let cs ← separator? ':' cs
  let (second, cs) ← number? 2 cs
  let (nanosecond, cs) ← fraction? cs
  let (offset, cs) ← offset? (trimStart cs)
  if trimStart cs = [] then
    ofLocal? ⟨year, month, day⟩ hour minute second nanosecond offset
  else none

/-! ## Writing -/

/-- A number with zeros in front up to a width. -/
def padded (width n : Nat) : List Char :=
  let ds := Decimal.ofNat n
  List.replicate (width - ds.length) '0' ++ ds

/-- A year of four digits, or one with a sign outside of the range of these. -/
def yearText (year : Int) : List Char :=
  if 0 ≤ year ∧ year ≤ 9999 then padded 4 year.natAbs
  else (if year < 0 then '-' else '+') :: padded 4 year.natAbs

/-- The fraction of a second in the fewest of 0, 3, 6 and 9 digits. -/
def fractionText (nanosecond : Nat) : List Char :=
  if nanosecond = 0 then []
  else if nanosecond % 1000000 = 0 then '.' :: padded 3 (nanosecond / 1000000)
  else if nanosecond % 1000 = 0 then '.' :: padded 6 (nanosecond / 1000)
  else '.' :: padded 9 nanosecond

/-- The instant in RFC 3339. -/
def text (t : Instant) : List Char :=
  yearText t.date.year ++ '-' :: padded 2 t.date.month ++ '-' :: padded 2 t.date.day ++
    'T' :: padded 2 t.hour ++ ':' :: padded 2 t.minute ++ ':' :: padded 2 t.second ++
    fractionText t.nanosecond ++ "+00:00".toList

end Instant

end TronWallet.Time
