import TronWallet.Toml.Entries
import TronWallet.Toml.Scalar

/-!
# Reading TOML

A text is read in two steps: into the statements of its lines (`readStatements`), and from
these into the table they define (`tableOf?`). `parse?` is both; it is `none` for a text
that is not TOML, that defines something twice, or that holds a number out of range or
more nesting than the limit.
-/

namespace TronWallet.Toml

/-- The number of parts of a key, and of arrays and inline tables within each other, that
is too many. -/
def nestingLimit : Nat := 80

/-- A key with its value: the parts of the key before the last one, and the last one. -/
structure Binding (α : Type) where
  path : List String
  key : String
  value : α

/-! ## Keys -/

/-- Without blanks at the beginning. -/
def skipBlanks (cs : List Char) : List Char :=
  cs.dropWhile isBlank

/-- The parts of a dotted key, blanks around each part allowed. The first argument bounds
their number. -/
def readParts : Nat → List Char → Option (List String × List Char)
  | 0, _ => none
  | bound + 1, cs => do
    let (part, rest) ← readKeyPart (skipBlanks cs)
    match skipBlanks rest with
    | '.' :: rest =>
      let (parts, rest) ← readParts bound rest
      return (part :: parts, rest)
    | rest => return ([part], rest)

/-- A key: the parts before the last one, the last one, and the text after the key. -/
def readKey (cs : List Char) : Option (List String × String × List Char) :=
  match readParts (nestingLimit - 1) cs with
  | some (parts, rest) => (parts.getLast?).map (parts.dropLast, ·, rest)
  | none => none

/-! ## Values -/

/-- Without comments, blanks and line breaks at the beginning. The argument tells whether
the text begins within a comment. -/
def skipFiller : Bool → List Char → List Char
  | _, [] => []
  | _, '\r' :: '\n' :: rest => skipFiller false rest
  | _, '\n' :: rest => skipFiller false rest
  | true, c :: rest => if isCommentChar c then skipFiller true rest else c :: rest
  | false, c :: rest =>
    if c = '#' then skipFiller true rest
    else if isBlank c then skipFiller false rest
    else c :: rest

/-- The table of an inline table's bindings. -/
def inlineTable? (bindings : List (Binding Value)) : Option Value :=
  (bindings.foldlM (fun es b => Entries.define b.value b.key b.path es) []).map fun es =>
    .table (Node.toTable es)

mutual

/-- Reads a value and returns the text after it. The first argument bounds the number of
values read, the second the depth of arrays and inline tables. -/
def readValue : Nat → Nat → List Char → Option (Value × List Char)
  | 0, _, _ => none
  | bound + 1, depth, cs =>
    match cs with
    | '"' :: _ | '\'' :: _ => (read cs).map fun r => (.text (String.ofList r.1), r.2)
    | 't' :: 'r' :: 'u' :: 'e' :: rest => some (.boolean true, rest)
    | 'f' :: 'a' :: 'l' :: 's' :: 'e' :: rest => some (.boolean false, rest)
    | '[' :: rest =>
      if depth = 0 then none
      else (readItems bound (depth - 1) rest).map fun r => (.array r.1, r.2)
    | '\x7b' :: rest =>
      if depth = 0 then none
      else
        match skipBlanks rest with
        | '\x7d' :: rest => some (.table [], rest)
        | rest => do
          let (bindings, rest) ← readBindings bound (depth - 1) rest
          let table ← inlineTable? bindings
          return (table, rest)
    | _ => readNumber cs

/-- Reads the elements of an array up to its closing bracket. -/
def readItems : Nat → Nat → List Char → Option (List Value × List Char)
  | 0, _, _ => none
  | bound + 1, depth, cs =>
    match skipFiller false cs with
    | ']' :: rest => some ([], rest)
    | cs => do
      let (item, rest) ← readValue bound depth cs
      match skipFiller false rest with
      | ']' :: rest => return ([item], rest)
      | ',' :: rest =>
        let (items, rest) ← readItems bound depth rest
        return (item :: items, rest)
      | _ => none

/-- Reads the bindings of an inline table up to its closing brace. -/
def readBindings : Nat → Nat → List Char → Option (List (Binding Value) × List Char)
  | 0, _, _ => none
  | bound + 1, depth, cs => do
    let (path, key, rest) ← readKey cs
    let rest ← expect '=' rest
    let (value, rest) ← readValue bound depth (skipBlanks rest)
    match skipBlanks rest with
    | '\x7d' :: rest => return ([⟨path, key, value⟩], rest)
    | ',' :: rest =>
      let (bindings, rest) ← readBindings bound depth rest
      return (⟨path, key, value⟩ :: bindings, rest)
    | _ => none

end

/-! ## Lines -/

/-- What a line says. -/
inductive Statement where
  /-- The header of a table. -/
  | table (path : List String) (key : String)
  /-- The header of an element of an array of tables. -/
  | element (path : List String) (key : String)
  | binding (binding : Binding Value)

/-- The text after the end of a line: blanks, a comment, and a line break or the end of
the text. -/
def readLineEnd (cs : List Char) : Option (List Char) :=
  let rest := match skipBlanks cs with
    | '#' :: rest => rest.dropWhile isCommentChar
    | rest => rest
  match rest with
  | [] => some []
  | _ => lineBreak? rest

/-- Reads one statement and the end of its line. -/
def readStatement (cs : List Char) : Option (Statement × List Char) :=
  match cs with
  | '[' :: '[' :: rest => do
    let (path, key, rest) ← readKey rest
    let rest ← readLineEnd (← expect ']' (← expect ']' rest))
    return (.element path key, rest)
  | '[' :: rest => do
    let (path, key, rest) ← readKey rest
    let rest ← readLineEnd (← expect ']' rest)
    return (.table path key, rest)
  | _ => do
    let (path, key, rest) ← readKey cs
    let value := skipBlanks (← expect '=' rest)
    let (value, rest) ← readValue (2 * value.length + 2) (nestingLimit - 1) value
    let rest ← readLineEnd rest
    return (.binding ⟨path, key, value⟩, rest)

/-- Reads the statements of a text. The first argument bounds the number of lines. -/
def readLines : Nat → List Char → Option (List Statement)
  | 0, _ => none
  | bound + 1, cs =>
    match skipBlanks cs with
    | [] => some []
    | '#' :: rest =>
      match readLineEnd ('#' :: rest) with
      | none => none
      | some rest => readLines bound rest
    | cs =>
      match lineBreak? cs with
      | some rest => readLines bound rest
      | none => do
        let (statement, rest) ← readStatement cs
        let statements ← readLines bound rest
        return statement :: statements

/-- Reads the statements of a text, which may begin with a byte order mark. -/
def readStatements (cs : List Char) : Option (List Statement) :=
  let cs := match cs with
    | '\ufeff' :: rest => rest
    | _ => cs
  readLines (cs.length + 1) cs

/-! ## Tables -/

/-- The bindings at the head of a list of statements, and the statements from the first
header on. -/
def takeBindings : List Statement → List (Binding Value) × List Statement
  | .binding b :: rest =>
    let (bindings, rest) := takeBindings rest
    (b :: bindings, rest)
  | rest => ([], rest)

/-- Adds bindings to a table. -/
def fill (bindings : List (Binding Value)) (es : Entries) : Option Entries :=
  bindings.foldlM (fun es b => Entries.define b.value b.key b.path es) es

/-- Carries out statements that begin with a header. Bindings are taken in together with
the header before them. -/
def carryOut : List Statement → Entries → Option Entries
  | [], es => some es
  | .table path key :: rest, es =>
    match Entries.descend (Entries.defineTable (fill (takeBindings rest).1) key) path es with
    | none => none
    | some es => carryOut rest es
  | .element path key :: rest, es =>
    match Entries.descend (Entries.defineElement (fill (takeBindings rest).1) key) path es with
    | none => none
    | some es => carryOut rest es
  | .binding _ :: rest, es => carryOut rest es

/-- The table that statements define. -/
def tableOf? (statements : List Statement) : Option Table := do
  let (bindings, rest) := takeBindings statements
  let root ← fill bindings []
  let root ← carryOut rest root
  return Node.toTable root

/-- The table of a text. -/
def parse? (text : String) : Option Table :=
  (readStatements text.toList).bind tableOf?

end TronWallet.Toml
