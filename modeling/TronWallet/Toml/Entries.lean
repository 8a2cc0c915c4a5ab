import TronWallet.Toml.Value

/-!
# Tables under construction

A document defines its tables piecemeal: by headers, by dotted keys and by the elements
of arrays of tables, and what a later line may still add depends on how a table came to
be. A `Node` is a value that is complete, a table that remembers its `Origin`, or an
array of tables, whose last element is the one that later lines add to. Entries keep the
order in which they were defined. Every operation is partial: it has no result where the
line it stands for would define something twice or extend what is complete.
-/

namespace TronWallet.Toml

/-- How a table came to be. -/
inductive Origin where
  /-- By a header of its own. -/
  | header
  /-- On the way to the table of another header. -/
  | passed
  /-- By a dotted key. -/
  | dotted
  deriving DecidableEq

/-- An entry of a table under construction. -/
inductive Node where
  | value (value : Value)
  | table (origin : Origin) (entries : List (String × Node))
  | tables (elements : List (List (String × Node)))

/-- A table under construction. -/
abbrev Entries := List (String × Node)

namespace Node

mutual

/-- The value of an entry. -/
def toValue : Node → Value
  | value v => v
  | table _ entries => .table (toTable entries)
  | tables elements => .array (toTables elements)

/-- The value of a table. -/
def toTable : List (String × Node) → Table
  | [] => []
  | (key, node) :: rest => (key, toValue node) :: toTable rest

/-- The values of an array of tables. -/
def toTables : List (List (String × Node)) → List Value
  | [] => []
  | entries :: rest => .table (toTable entries) :: toTables rest

end

end Node

namespace Entries

/-- The entry of a key. -/
def get? (es : Entries) (key : String) : Option Node :=
  (es.find? fun e => e.1 = key).map Prod.snd

/-- Replaces the entry of a key where it stands. -/
def replace (es : Entries) (key : String) (node : Node) : Entries :=
  es.map fun e => if e.1 = key then (key, node) else e

/-- Without the entry of a key. -/
def erase (es : Entries) (key : String) : Entries :=
  es.filter fun e => e.1 ≠ key

/-- Adds an entry at the end. -/
def push (es : Entries) (key : String) (node : Node) : Entries :=
  es ++ [(key, node)]

/-- Changes the last table of an array of tables. -/
def updateLast (f : Entries → Option Entries) (elements : List Entries) : Option (List Entries) :=
  match elements.getLast? with
  | none => none
  | some last => (f last).map fun last => elements.dropLast ++ [last]

/-- Defines a value under a dotted key: `path` are the parts before the last. It may pass
through tables that no header has defined and must end in one that dotted keys made. -/
def define (value : Value) (key : String) : List String → Entries → Option Entries
  | [], es => if (es.get? key).isSome then none else some (es.push key (.value value))
  | part :: path, es =>
    match es.get? part with
    | none => (define value key path []).map fun sub => es.push part (.table .dotted sub)
    | some (.table origin sub) =>
      if origin = .header ∨ (path = [] ∧ origin = .passed) then none
      else (define value key path sub).map fun sub => es.replace part (.table origin sub)
    | some (.tables elements) =>
      if path = [] then none
      else (updateLast (define value key path) elements).map fun elements =>
        es.replace part (.tables elements)
    | some (.value _) => none

/-- Changes the table that a header's path leads to, making the tables on the way that are
missing. -/
def descend (f : Entries → Option Entries) : List String → Entries → Option Entries
  | [], es => f es
  | part :: path, es =>
    match es.get? part with
    | none => (descend f path []).map fun sub => es.push part (.table .passed sub)
    | some (.table origin sub) =>
      (descend f path sub).map fun sub => es.replace part (.table origin sub)
    | some (.tables elements) =>
      (updateLast (descend f path) elements).map fun elements => es.replace part (.tables elements)
    | some (.value _) => none

/-- Defines the table of a header, filled by `fill`. A table that was only passed through
keeps its entries and moves to the end. -/
def defineTable (fill : Entries → Option Entries) (key : String) (es : Entries) : Option Entries :=
  match es.get? key with
  | none => (fill []).map fun sub => es.push key (.table .header sub)
  | some (.table .passed sub) =>
    (fill sub).map fun sub => (es.erase key).push key (.table .header sub)
  | some _ => none

/-- Adds an element, filled by `fill`, to an array of tables. -/
def defineElement (fill : Entries → Option Entries) (key : String) (es : Entries) :
    Option Entries :=
  match es.get? key with
  | none => (fill []).map fun sub => es.push key (.tables [sub])
  | some (.tables elements) =>
    (fill []).map fun sub => es.replace key (.tables (elements ++ [sub]))
  | some _ => none

end Entries

end TronWallet.Toml
