import TronWallet.Json.Numeral
import TronWallet.Text.Hex

/-!
# What a JSON text says

A `Reading` is the tree of a JSON text from its beginning up to the place where it stops
being JSON, which is marked `broken`. Keeping that tree lets a decoder, which walks it
from left to right, meet a value of the wrong type and a defect of the text in the order
in which they stand; a text is well formed if its tree has no mark. Strings whose escapes
name half of a surrogate pair are well formed but have no text.
-/

namespace TronWallet.Json

/-- The tree of a JSON text. A string or key without a text is one with an unpaired
surrogate; a key that is no string is `none` with a broken value. -/
inductive Reading where
  | null
  | boolean (value : Bool)
  | number (numeral : Numeral)
  | string (text : Option String)
  | array (items : List Reading)
  | object (members : List (Option String × Reading))
  | broken

namespace Reading

mutual

/-- Is the whole tree JSON? -/
def wellFormed : Reading → Bool
  | broken => false
  | array items => wellFormedItems items
  | object members => wellFormedMembers members
  | _ => true

/-- Are all elements JSON? -/
def wellFormedItems : List Reading → Bool
  | [] => true
  | r :: rs => wellFormed r && wellFormedItems rs

/-- Are all members JSON? -/
def wellFormedMembers : List (Option String × Reading) → Bool
  | [] => true
  | (_, r) :: ms => wellFormed r && wellFormedMembers ms

end

end Reading

/-! ## Strings -/

/-- A piece of a string: a character, or a code unit that was written as `\uXXXX`. -/
inductive Piece where
  | character (c : Char)
  | unit (value : Nat)

/-- The code unit of four hexadecimal digits. -/
def unit? (a b c d : Char) : Option Nat :=
  Text.Hex.toNat? [a, b, c, d]

/-- The character of an escape of one letter. -/
def escaped? : Char → Option Char
  | '"' => some '"'
  | '\\' => some '\\'
  | '/' => some '/'
  | 'b' => some '\x08'
  | 'f' => some '\x0c'
  | 'n' => some '\n'
  | 'r' => some '\r'
  | 't' => some '\t'
  | _ => none

/-- The pieces of a string up to its closing quote, and the text after it. -/
def readPieces : List Char → Option (List Piece × List Char)
  | [] => none
  | '"' :: rest => some ([], rest)
  | '\\' :: 'u' :: a :: b :: c :: d :: rest =>
    match unit? a b c d with
    | none => none
    | some u => (readPieces rest).map fun r => (.unit u :: r.1, r.2)
  | '\\' :: e :: rest =>
    match escaped? e with
    | none => none
    | some c => (readPieces rest).map fun r => (.character c :: r.1, r.2)
  | c :: rest =>
    if c.toNat < 0x20 ∨ c = '\\' then none
    else (readPieces rest).map fun r => (.character c :: r.1, r.2)

/-- Is the code unit the first half of a surrogate pair? -/
def isHighSurrogate (u : Nat) : Bool :=
  0xd800 ≤ u && u ≤ 0xdbff

/-- Is the code unit the second half of a surrogate pair? -/
def isLowSurrogate (u : Nat) : Bool :=
  0xdc00 ≤ u && u ≤ 0xdfff

/-- The text of a string; `none` if a surrogate is not one of a pair. -/
def joinPieces : List Piece → Option (List Char)
  | [] => some []
  | .character c :: ps => (joinPieces ps).map (c :: ·)
  | .unit u :: .unit v :: ps =>
    if isHighSurrogate u then
      if isLowSurrogate v then
        (joinPieces ps).map (Char.ofNat (0x10000 + (u - 0xd800) * 0x400 + (v - 0xdc00)) :: ·)
      else none
    else if isLowSurrogate u then none
    else (joinPieces (.unit v :: ps)).map (Char.ofNat u :: ·)
  | .unit u :: ps =>
    if isHighSurrogate u || isLowSurrogate u then none
    else (joinPieces ps).map (Char.ofNat u :: ·)

/-- Reads a string after its opening quote. -/
def readString (cs : List Char) : Option (Option String × List Char) :=
  (readPieces cs).map fun r => ((joinPieces r.1).map String.ofList, r.2)

/-! ## Values -/

/-- The blanks of JSON. -/
def isBlank (c : Char) : Bool :=
  c = ' ' || c = '\t' || c = '\n' || c = '\r'

/-- Without the blanks at the beginning. -/
def skipBlanks (cs : List Char) : List Char :=
  cs.dropWhile isBlank

mutual

/-- Reads a value and returns the text after it, which there is none of if the value is
broken. The first argument bounds the number of values read. -/
def readValue : Nat → List Char → Reading × Option (List Char)
  | 0, _ => (.broken, none)
  | bound + 1, cs =>
    match skipBlanks cs with
    | 'n' :: 'u' :: 'l' :: 'l' :: rest => (.null, some rest)
    | 't' :: 'r' :: 'u' :: 'e' :: rest => (.boolean true, some rest)
    | 'f' :: 'a' :: 'l' :: 's' :: 'e' :: rest => (.boolean false, some rest)
    | '"' :: rest =>
      match readString rest with
      | some (text, rest) => (.string text, some rest)
      | none => (.broken, none)
    | '[' :: rest =>
      match skipBlanks rest with
      | ']' :: rest => (.array [], some rest)
      | rest =>
        let (items, rest) := readItems bound rest
        (.array items, rest)
    | '\x7b' :: rest =>
      match skipBlanks rest with
      | '\x7d' :: rest => (.object [], some rest)
      | rest =>
        let (members, rest) := readMembers bound rest
        (.object members, rest)
    | rest =>
      match Numeral.read? rest with
      | some (numeral, rest) => (.number numeral, some rest)
      | none => (.broken, none)

/-- Reads the elements of an array up to its closing bracket. -/
def readItems : Nat → List Char → List Reading × Option (List Char)
  | 0, _ => ([.broken], none)
  | bound + 1, cs =>
    match readValue bound cs with
    | (item, none) => ([item], none)
    | (item, some rest) =>
      match skipBlanks rest with
      | ']' :: rest => ([item], some rest)
      | ',' :: rest =>
        let (items, rest) := readItems bound rest
        (item :: items, rest)
      | _ => ([item, .broken], none)

/-- Reads the members of an object up to its closing brace. -/
def readMembers : Nat → List Char → List (Option String × Reading) × Option (List Char)
  | 0, _ => ([(none, .broken)], none)
  | bound + 1, cs =>
    match skipBlanks cs with
    | '"' :: rest =>
      match readString rest with
      | none => ([(none, .broken)], none)
      | some (key, rest) =>
        match skipBlanks rest with
        | ':' :: rest =>
          match readValue bound rest with
          | (value, none) => ([(key, value)], none)
          | (value, some rest) =>
            match skipBlanks rest with
            | '\x7d' :: rest => ([(key, value)], some rest)
            | ',' :: rest =>
              let (members, rest) := readMembers bound rest
              ((key, value) :: members, rest)
            | _ => ([(key, value), (none, .broken)], none)
        | _ => ([(key, .broken)], none)
    | _ => ([(none, .broken)], none)

end

/-- A text that is read as one document: its tree, and whether only blanks follow it. -/
structure Document where
  value : Reading
  ends : Bool

/-- Reads a text as one document. Each value takes at least one character, and so does
what stands before it in its array or object, which bounds the reading. -/
def read (cs : List Char) : Document :=
  match readValue (2 * cs.length + 2) cs with
  | (value, some rest) => ⟨value, (skipBlanks rest).isEmpty⟩
  | (value, none) => ⟨value, false⟩

end TronWallet.Json
