import TronWallet.Number.Binary64
import TronWallet.Text.Decimal
import TronWallet.Time.Date

/-!
# TOML values

The value of a TOML document is a table: texts, integers of 64 bits, floating point
numbers, booleans, dates and times, arrays and tables, where a table lists its entries in
the order in which they were defined. An array of tables is an array whose elements are
tables, and an inline table is a table; how a table was spelled is no part of its value.
-/

namespace TronWallet.Toml

/-- A time of day. -/
structure Clock where
  hour : Nat
  minute : Nat
  second : Nat
  nanosecond : Nat
  deriving DecidableEq

/-- How far a local time is ahead of universal time. -/
inductive Offset where
  | universal
  | minutes (value : Int)
  deriving DecidableEq

/-- A date, a time of day, or both, the latter with or without an offset. -/
structure Moment where
  date : Option Time.Date
  clock : Option Clock
  offset : Option Offset
  deriving DecidableEq

/-- The value of an entry or of a whole document. -/
inductive Value where
  | text (value : String)
  | integer (value : Int)
  | floating (value : Number.Binary64)
  | boolean (value : Bool)
  | moment (value : Moment)
  | array (items : List Value)
  | table (entries : List (String × Value))

/-- The entries of a table, in the order of their definition. -/
abbrev Table := List (String × Value)

/-- A number with zeros in front up to a width. -/
def padTo (width n : Nat) : List Char :=
  let ds := Text.Decimal.ofNat n
  List.replicate (width - ds.length) '0' ++ ds

/-- A time of day as text, the fraction without zeros at its end. -/
def Clock.text (c : Clock) : List Char :=
  padTo 2 c.hour ++ ':' :: padTo 2 c.minute ++ ':' :: padTo 2 c.second ++
    (if c.nanosecond = 0 then []
    else '.' :: ((padTo 9 c.nanosecond).reverse.dropWhile (· = '0')).reverse)

/-- An offset as text. -/
def Offset.text : Offset → List Char
  | universal => ['Z']
  | minutes m =>
    (if m < 0 then '-' else '+') :: padTo 2 (m.natAbs / 60) ++ ':' :: padTo 2 (m.natAbs % 60)

/-- A date as text. -/
def dateText (d : Time.Date) : List Char :=
  padTo 4 d.year.natAbs ++ '-' :: padTo 2 d.month ++ '-' :: padTo 2 d.day

/-- A date or time as text. -/
def Moment.text (m : Moment) : List Char :=
  let date := (m.date.map dateText).getD []
  let clock := (m.clock.map Clock.text).getD []
  let joint := if m.date.isSome && m.clock.isSome then ['T'] else []
  date ++ joint ++ clock ++ (m.offset.map Offset.text).getD []

end TronWallet.Toml
