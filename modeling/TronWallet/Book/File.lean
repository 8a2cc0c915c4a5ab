import TronWallet.Book
import TronWallet.Toml.Decode
import TronWallet.Toml.Writing

/-!
# The address book as a file

The book is kept in a TOML file with one section, `accounts`, whose entries are names with
the texts of their addresses. Reading takes every name, as the file may have been written
by hand, and ignores what else the file holds. A file to be imported holds the same entries
without a section.
-/

namespace TronWallet.Book

/-- The section of the book's file. -/
def accountsSection (b : Book) : Toml.Section where
  name := "accounts"
  entries := b.pairs.map fun p => (p.1, .text p.2.toBase58)

/-- The book's file. -/
def write (b : Book) : String :=
  String.ofList (Toml.writeSections [b.accountsSection])

/-- Decodes a value that stands for a table of accounts. -/
def ofValue (v : Toml.Value) : Except Toml.Refusal Book :=
  match v.entries? with
  | some entries => (Toml.asAddresses entries).map ofPairs
  | none => v.refuse "a map"

/-- Decodes the entries of the book's file: those of the section `accounts`. -/
def ofTable : Toml.Table → Except Toml.Refusal Book
  | [] => .ok empty
  | (key, value) :: rest => if key = "accounts" then ofValue value else ofTable rest

/-- Reads the book's file. -/
def parse (text : String) : Except Toml.Refusal Book :=
  Toml.decode ofTable text

/-- Reads a file to be imported. -/
def parseEntries (text : String) : Except Toml.Refusal Book :=
  Toml.decode (fun entries => (Toml.asAddresses entries).map ofPairs) text

end TronWallet.Book
