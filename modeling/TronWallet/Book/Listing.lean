import TronWallet.Book
import TronWallet.Text.Pad

/-!
# The listing of the address book

One line for each account, in the order of the book: the name, filled with blanks to a
column, and the address. A line with the number of accounts ends the listing.
-/

namespace TronWallet.Book

/-- The width of the column of names. -/
def nameColumn : Nat := 20

/-- The line of an account. -/
def listingLine (p : String × Address) : String :=
  Text.padRight nameColumn p.1 ++ " " ++ p.2.toBase58 ++ "\n"

/-- The accounts of a book as they are shown. -/
def listing (b : Book) : String :=
  if b.isEmpty then "No accounts registered.\n"
  else
    String.join (b.pairs.map listingLine) ++
      "\n" ++ Text.Decimal.natString b.size ++ " account(s) total.\n"

end TronWallet.Book
