import TronWallet.Text.Split
import TronWallet.Url.Escape

/-!
# Paths of a URL

A path is read segment by segment. A dot segment stands for the place it is in and a double
dot for the place above, so neither is left in the result; but nothing leads above the
letter of a drive. In a file's path, a drive at the start is written with a colon, and empty
segments before it count for nothing.
-/

namespace TronWallet.Url

/-- The path of a URL. -/
inductive Path where
  /-- Segments with a slash before each of them. -/
  | segments (parts : List (List Char))
  /-- A text that starts with no slash. -/
  | rootless (text : List Char)
  deriving DecidableEq

namespace Path

/-- The text of a path. -/
def text : Path → List Char
  | segments parts => parts.flatMap ('/' :: ·)
  | rootless text => text

/-! ## Segments -/

/-- The ways to write a dot in a segment. -/
def dotForms : List (List Char) :=
  [['.'], ['%', '2', 'e'], ['%', '2', 'E']]

/-- Does a segment stand for the place it is in? -/
def isDot (segment : List Char) : Bool :=
  segment ∈ dotForms

/-- Does a segment stand for the place above? -/
def isDoubleDot (segment : List Char) : Bool :=
  dotForms.any fun first => dotForms.any fun second => segment = first ++ second

/-- Is a text the letter of a drive, as in `C:` and `C|`? -/
def isDrive : List Char → Bool
  | [letter, mark] => letter.isAlpha && (mark = ':' || mark = '|')
  | _ => false

/-- The segments of the place above. -/
def above (taken : List (List Char)) : List (List Char) :=
  if taken.getLast?.any isDrive then taken else taken.dropLast

/-- The segments of a place within. -/
def within (ofFile : Bool) (taken : List (List Char)) (segment : List Char) :
    List (List Char) :=
  if ofFile && taken = [] && isDrive segment then [segment.take 1 ++ [':']]
  else taken ++ [segment]

/-- The segments of a path after those already taken. A path that ends in a dot segment
ends in a slash. -/
def resolveDots (ofFile : Bool) (taken : List (List Char)) :
    List (List Char) → List (List Char)
  | [] => taken
  | [s] =>
    if isDoubleDot s then above taken ++ [[]]
    else if isDot s then taken ++ [[]]
    else within ofFile taken s
  | s :: t :: rest =>
    if isDoubleDot s then resolveDots ofFile (above taken) (t :: rest)
    else if isDot s then resolveDots ofFile taken (t :: rest)
    else resolveDots ofFile (within ofFile taken s) (t :: rest)

/-- The segments without the empty ones before the first other one. -/
def dropEmpty : List (List Char) → List (List Char)
  | [] :: s :: rest => dropEmpty (s :: rest)
  | parts => parts

/-- The segments of a text that follows a slash. -/
def readSegments (ofFile : Bool) (cs : List Char) : List (List Char) :=
  resolveDots ofFile [] ((Text.split '/' cs).map (escape reservedInPath))

end Path

end TronWallet.Url
