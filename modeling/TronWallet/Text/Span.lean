/-!
# Spans of characters

Many a property of characters has no shorter rule than a table of code points. A table is
kept as text: blanks and line breaks stand between its rows, commas between the fields of a
row, and each field is a number in base 16. `spans` reads a table whose rows are spans of
code points, or single ones.
-/

namespace TronWallet.Text

/-- Code points from one to another, both of them included. -/
structure Span where
  first : Nat
  last : Nat
  deriving DecidableEq

/-- Is the character in the span? -/
def Span.covers (c : Char) (s : Span) : Bool :=
  s.first ≤ c.toNat && c.toNat ≤ s.last

/-- The part of a table that has been read: rows and fields, the last one first. -/
structure TableReading where
  rows : List (List Nat) := []
  fields : List Nat := []

namespace TableReading

/-- Ends the row, if there is one. -/
def endRow (t : TableReading) : TableReading :=
  if t.fields = [] then t else { rows := t.fields.reverse :: t.rows, fields := [] }

/-- The value of a digit in base 16. -/
def digitValue (c : Char) : Nat :=
  if c.isDigit then c.toNat - '0'.toNat else c.toNat - 'a'.toNat + 10

/-- Reads a character of a table. -/
def read (t : TableReading) (c : Char) : TableReading :=
  if c = ',' then { t with fields := 0 :: t.fields }
  else if c.isWhitespace then t.endRow
  else
    match t.fields with
    | [] => { t with fields := [digitValue c] }
    | n :: ns => { t with fields := (16 * n + digitValue c) :: ns }

end TableReading

/-- The rows of a table. -/
def tableRows (table : String) : List (List Nat) :=
  ((table.toList.foldl TableReading.read {}).endRow).rows.reverse

/-- The spans of a table. -/
def spans (table : String) : List Span :=
  (tableRows table).filterMap fun
    | [point] => some ⟨point, point⟩
    | [first, last] => some ⟨first, last⟩
    | _ => none

end TronWallet.Text
