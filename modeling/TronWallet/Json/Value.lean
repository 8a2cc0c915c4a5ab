import TronWallet.Text.Decimal
import TronWallet.Text.Hex

/-!
# JSON documents and their two layouts

`Json.Value` is a document that is written: objects keep the order of their members and
numbers are integers. `compact` writes it on one line without blanks, `pretty` puts each
element and member on a line of its own, indented by two blanks for each level. Both
share the texts of the leaves, so the layouts differ in insignificant white space only.
-/

namespace TronWallet.Json

/-- A document to be written. -/
inductive Value where
  | null
  | boolean (value : Bool)
  | integer (value : Int)
  | string (value : String)
  | array (items : List Value)
  | object (members : List (String × Value))

/-- A character inside a JSON string: the quote, the backslash and the control characters
below the blank are escaped. -/
def escape (c : Char) : List Char :=
  if c = '"' then ['\\', '"']
  else if c = '\\' then ['\\', '\\']
  else if c = '\n' then ['\\', 'n']
  else if c = '\r' then ['\\', 'r']
  else if c = '\t' then ['\\', 't']
  else if c = '\x08' then ['\\', 'b']
  else if c = '\x0c' then ['\\', 'f']
  else if c.toNat < 0x20 then
    ['\\', 'u', '0', '0', Text.Hex.digit (c.toNat / 16), Text.Hex.digit (c.toNat % 16)]
  else [c]

/-- A JSON string. -/
def stringText (cs : List Char) : List Char :=
  '"' :: cs.flatMap escape ++ ['"']

/-- The text of a boolean. -/
def booleanText (b : Bool) : List Char :=
  if b then "true".toList else "false".toList

namespace Value

mutual

/-- The document on one line, without blanks. -/
def compact : Value → List Char
  | null => "null".toList
  | boolean b => booleanText b
  | integer n => Text.Decimal.ofInt n
  | string s => stringText s.toList
  | array items => '[' :: compactItems items ++ [']']
  | object members => '\x7b' :: compactMembers members ++ ['\x7d']

/-- Elements with commas between them. -/
def compactItems : List Value → List Char
  | [] => []
  | [v] => compact v
  | v :: w :: vs => compact v ++ ',' :: compactItems (w :: vs)

/-- Members with commas between them. -/
def compactMembers : List (String × Value) → List Char
  | [] => []
  | [(k, v)] => stringText k.toList ++ ':' :: compact v
  | (k, v) :: m :: ms => stringText k.toList ++ ':' :: compact v ++ ',' :: compactMembers (m :: ms)

end

/-- A line break and the indentation of a level. -/
def lineBreak (level : Nat) : List Char :=
  '\n' :: List.replicate (2 * level) ' '

mutual

/-- The document with each element and member on a line of its own; `level` is the depth
at which it stands. -/
def prettyAt (level : Nat) : Value → List Char
  | null => "null".toList
  | boolean b => booleanText b
  | integer n => Text.Decimal.ofInt n
  | string s => stringText s.toList
  | array [] => ['[', ']']
  | array (v :: vs) => '[' :: prettyItems (level + 1) (v :: vs) ++ lineBreak level ++ [']']
  | object [] => ['\x7b', '\x7d']
  | object (m :: ms) =>
    '\x7b' :: prettyMembers (level + 1) (m :: ms) ++ lineBreak level ++ ['\x7d']

/-- Elements, each on its own line, with commas between them. -/
def prettyItems (level : Nat) : List Value → List Char
  | [] => []
  | [v] => lineBreak level ++ prettyAt level v
  | v :: w :: vs => lineBreak level ++ prettyAt level v ++ ',' :: prettyItems level (w :: vs)

/-- Members, each on its own line, with commas between them. -/
def prettyMembers (level : Nat) : List (String × Value) → List Char
  | [] => []
  | [(k, v)] => lineBreak level ++ stringText k.toList ++ ':' :: ' ' :: prettyAt level v
  | (k, v) :: m :: ms =>
    lineBreak level ++ stringText k.toList ++ ':' :: ' ' :: prettyAt level v ++
      ',' :: prettyMembers level (m :: ms)

end

/-- The document with each element and member on a line of its own. -/
def pretty (v : Value) : List Char :=
  prettyAt 0 v

end Value

end TronWallet.Json
