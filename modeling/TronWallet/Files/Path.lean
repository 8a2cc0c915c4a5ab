import TronWallet.Text.Split

/-!
# Paths

A path is the text of its parts with slashes between them. `join` puts a name below a
directory. Parsed, a path is its steps from the root or from the working directory; empty
parts and single dots take no step, but a path that ends in one asks for a directory.
-/

namespace TronWallet.Files

/-- The path of a name in a directory. An absolute name is the path itself. -/
def join (directory name : String) : String :=
  if name.toList.head? = some '/' then name
  else if directory = "" ∨ directory.toList.getLast? = some '/' then directory ++ name
  else directory ++ "/" ++ name

/-- The path from the root through steps. -/
def absolutePath (steps : List String) : String :=
  "/" ++ "/".intercalate steps

/-- How the text of a path ends. -/
inductive Ending where
  /-- In a name. -/
  | name
  /-- In a slash. -/
  | slash
  /-- In a single dot, slashes after it or not. -/
  | dot
  deriving DecidableEq

/-- A parsed path. -/
structure Path where
  absolute : Bool
  steps : List String
  ending : Ending
  deriving DecidableEq

/-- Is the part no step? -/
def isIdle (part : List Char) : Bool :=
  part = [] || part = ['.']

/-- How a path with these parts ends. -/
def endingOf (parts : List (List Char)) : Ending :=
  if (parts.reverse.find? (· ≠ [])) = some ['.'] then .dot
  else if parts.getLast? = some [] then .slash
  else .name

/-- Parses a path; the empty text is none. -/
def Path.parse? (text : String) : Option Path :=
  match text.toList with
  | [] => none
  | c :: cs =>
    let parts := Text.split '/' (c :: cs)
    some
      { absolute := c = '/'
        steps := (parts.filter fun part => !isIdle part).map String.ofList
        ending := endingOf parts }

/-- Parts without those at the end that are no step. -/
def dropIdleEnd (parts : List (List Char)) : List (List Char) :=
  (parts.reverse.dropWhile isIdle).reverse

/-- The text of parts with slashes between them. -/
def joinParts (parts : List (List Char)) : String :=
  String.ofList (List.intercalate ['/'] parts)

/-- The directory that a path lies in: empty for a name alone, and none for the root and
the empty path. A dot stands for a name only where a relative path begins. -/
def parent? (path : String) : Option String :=
  match Text.split '/' path.toList with
  | [] | [[]] => none
  | [] :: parts =>
    match dropIdleEnd parts with
    | [] => none
    | kept => some ("/" ++ joinParts (dropIdleEnd kept.dropLast))
  | first :: parts =>
    match dropIdleEnd parts with
    | [] => some ""
    | kept => some (joinParts (first :: dropIdleEnd kept.dropLast))

end TronWallet.Files
