import TronWallet.Toml.Quoting
import TronWallet.Toml.Value

/-!
# Numbers, dates and times in TOML

Readers of the values that begin with a digit or a sign. Each takes the longest text of
its kind and returns what is left; whether that may stand there is for the reader of the
whole value to see. A date or time is tried before a floating point number and that before
an integer, since each of them may begin with the text of the next.
-/

namespace TronWallet.Toml

open Text (Decimal.isDigit Decimal.value)

/-! ## Digits -/

/-- More digits of a number; an underscore may stand between two of them. -/
def moreDigits (isDigit : Char → Bool) : List Char → List Char × List Char
  | [] => ([], [])
  | '_' :: c :: rest =>
    if isDigit c then
      let (ds, rest) := moreDigits isDigit rest
      (c :: ds, rest)
    else ([], '_' :: c :: rest)
  | c :: rest =>
    if isDigit c then
      let (ds, rest) := moreDigits isDigit rest
      (c :: ds, rest)
    else ([], c :: rest)

/-- At least one digit, underscores between them allowed. -/
def someDigits (isDigit : Char → Bool) : List Char → Option (List Char × List Char)
  | [] => none
  | c :: rest =>
    if isDigit c then
      let (ds, rest) := moreDigits isDigit rest
      some (c :: ds, rest)
    else none

/-- A sign at the beginning: whether it is a minus, and the text after it. -/
def readSign : List Char → Bool × List Char
  | '-' :: rest => (true, rest)
  | '+' :: rest => (false, rest)
  | cs => (false, cs)

/-- The digits of a decimal number: a zero alone, or digits that begin with none. -/
def readDecimal : List Char → Option (List Char × List Char)
  | '0' :: rest => some (['0'], rest)
  | cs => someDigits Decimal.isDigit cs

/-! ## Integers -/

/-- An integer, if it fits 64 bits. -/
def integer? (n : Int) : Option Value :=
  if -0x8000000000000000 ≤ n ∧ n < 0x8000000000000000 then some (.integer n) else none

/-- An integer in a base that is marked by a letter. -/
def readMarked (base : Nat) (cs : List Char) : Option (Value × List Char) :=
  let isDigit (c : Char) : Bool := (Text.Hex.value? c).any (· < base)
  match someDigits isDigit cs with
  | none => none
  | some (ds, rest) =>
    let n := Text.Positional.value base (ds.map fun c => (Text.Hex.value? c).getD 0)
    (integer? n).map (·, rest)

/-- Reads an integer. -/
def readInteger (cs : List Char) : Option (Value × List Char) :=
  match cs with
  | '0' :: 'x' :: rest => readMarked 16 rest
  | '0' :: 'o' :: rest => readMarked 8 rest
  | '0' :: 'b' :: rest => readMarked 2 rest
  | _ =>
    let (negative, digits) := readSign cs
    match readDecimal digits with
    | none => none
    | some (ds, rest) =>
      let n : Int := Decimal.value ds
      (integer? (if negative then -n else n)).map (·, rest)

/-! ## Floating point numbers -/

/-- The digits after a point. -/
def readFraction : List Char → Option (List Char × List Char)
  | '.' :: rest => someDigits Decimal.isDigit rest
  | _ => none

/-- An exponent. -/
def readExponent : List Char → Option (Int × List Char)
  | c :: rest =>
    if c = 'e' ∨ c = 'E' then
      let (negative, digits) := readSign rest
      (someDigits Decimal.isDigit digits).map fun r =>
        let magnitude : Int := Decimal.value r.1
        (if negative then -magnitude else magnitude, r.2)
    else none
  | [] => none

/-- The number of a sign, digits before and after the point, and an exponent; one too large
for the format is refused unless it is negative. -/
def floating? (negative : Bool) (whole fraction : List Char) (exponent : Int) : Option Value :=
  let x := Number.Binary64.ofDecimal negative (Decimal.value (whole ++ fraction))
    (exponent - fraction.length)
  if x = .infinite false then none else some (.floating x)

/-- Reads a floating point number: with a fraction, an exponent or both, or one of the
words for infinity and for what is no number. -/
def readFloating (cs : List Char) : Option (Value × List Char) :=
  let (negative, rest) := readSign cs
  match rest with
  | 'i' :: 'n' :: 'f' :: rest => some (.floating (.infinite negative), rest)
  | 'n' :: 'a' :: 'n' :: rest => some (.floating .nan, rest)
  | _ =>
    match readDecimal rest with
    | none => none
    | some (whole, rest) =>
      match readFraction rest with
      | some (fraction, rest) =>
        match readExponent rest with
        | some (exponent, rest) => (floating? negative whole fraction exponent).map (·, rest)
        | none => (floating? negative whole fraction 0).map (·, rest)
      | none =>
        match readExponent rest with
        | some (exponent, rest) => (floating? negative whole [] exponent).map (·, rest)
        | none => none

/-! ## Dates and times -/

/-- A number of exactly `count` digits. -/
def readFixed (count : Nat) (cs : List Char) : Option (Nat × List Char) :=
  let run := cs.take count
  if run.length = count ∧ run.all Decimal.isDigit then some (Decimal.value run, cs.drop count)
  else none

/-- The text after a character. -/
def expect (c : Char) : List Char → Option (List Char)
  | d :: rest => if d = c then some rest else none
  | [] => none

/-- Reads a date. -/
def readDate (cs : List Char) : Option (Time.Date × List Char) := do
  let (year, cs) ← readFixed 4 cs
  let (month, cs) ← readFixed 2 (← expect '-' cs)
  let (day, cs) ← readFixed 2 (← expect '-' cs)
  let date : Time.Date := ⟨year, month, day⟩
  guard date.isValid
  return (date, cs)

/-- The nanoseconds of a fraction of a second, of which nine digits count. -/
def readNanoseconds (cs : List Char) : Nat × List Char :=
  match cs with
  | '.' :: rest =>
    let run := rest.takeWhile Decimal.isDigit
    if run = [] then (0, cs)
    else
      let kept := run.take 9
      (Decimal.value kept * Nat.pow 10 (9 - kept.length), rest.dropWhile Decimal.isDigit)
  | _ => (0, cs)

/-- Reads a time of day. -/
def readClock (cs : List Char) : Option (Clock × List Char) := do
  let (hour, cs) ← readFixed 2 cs
  let (minute, cs) ← readFixed 2 (← expect ':' cs)
  let (second, cs) ← readFixed 2 (← expect ':' cs)
  guard (hour ≤ 23 ∧ minute ≤ 59 ∧ second ≤ 60)
  let (nanosecond, cs) := readNanoseconds cs
  return (⟨hour, minute, second, nanosecond⟩, cs)

/-- Reads an offset. -/
def readOffset (cs : List Char) : Option (Offset × List Char) :=
  match cs with
  | 'Z' :: rest | 'z' :: rest => some (.universal, rest)
  | '+' :: rest => (hoursAndMinutes rest).map fun r => (.minutes r.1, r.2)
  | '-' :: rest => (hoursAndMinutes rest).map fun r => (.minutes (-r.1), r.2)
  | _ => none
where
  /-- Hours and minutes as minutes. -/
  hoursAndMinutes (cs : List Char) : Option (Nat × List Char) := do
    let (hour, cs) ← readFixed 2 cs
    let (minute, cs) ← readFixed 2 (← expect ':' cs)
    guard (hour ≤ 23 ∧ minute ≤ 59)
    return (60 * hour + minute, cs)

/-- The time of day after a date, if one follows. -/
def readDateClock : List Char → Option (Clock × List Char)
  | 'T' :: rest | 't' :: rest | ' ' :: rest => readClock rest
  | _ => none

/-- Reads a date, a time of day, or both. -/
def readMoment (cs : List Char) : Option (Moment × List Char) :=
  match readDate cs with
  | some (date, rest) =>
    match readDateClock rest with
    | some (clock, rest) =>
      match readOffset rest with
      | some (offset, rest) => some (⟨date, clock, offset⟩, rest)
      | none => some (⟨date, clock, none⟩, rest)
    | none => some (⟨date, none, none⟩, rest)
  | none => (readClock cs).map fun r => (⟨none, r.1, none⟩, r.2)

/-- Reads a value that begins with a digit or a sign, or is one of the words for a
floating point number. -/
def readNumber (cs : List Char) : Option (Value × List Char) :=
  match readMoment cs with
  | some (moment, rest) => some (.moment moment, rest)
  | none =>
    match readFloating cs with
    | some result => some result
    | none => readInteger cs

end TronWallet.Toml
