/-!
# Padded text

Columns of a listing line up because their texts are filled with blanks to one width,
which counts characters. A text of several lines stays in its column if each line after
the first is indented.
-/

namespace TronWallet.Text

/-- A number of blanks. -/
def blanks (n : Nat) : String :=
  String.ofList (List.replicate n ' ')

/-- A text with blanks behind it up to a width. -/
def padRight (width : Nat) (s : String) : String :=
  s ++ blanks (width - s.length)

/-- A text with each line after the first indented. -/
def hang (indent : Nat) (s : String) : String :=
  String.ofList (s.toList.flatMap fun c =>
    if c = '\n' then c :: List.replicate indent ' ' else [c])

end TronWallet.Text
