import TronWallet.Book.File
import TronWallet.Failure

/-!
# Keeping the address book

The book is loaded as a whole and written as a whole. A file that does not exist stands for
the empty book; writing makes the directories on the way to the file.
-/

namespace TronWallet.Book

/-- Loads the book of a file. -/
def load (disk : Files.Disk) (working : Files.Location) (path : String) : Except Failure Book :=
  if disk.leadsSomewhere working path then
    match disk.read working path with
    | .error fault => .error (.file path fault)
    | .ok text => (parse text).mapError (.document .book text)
  else .ok empty

/-- Makes the directory that a file is to lie in. -/
def makeRoom (disk : Files.Disk) (working : Files.Location) (path : String) :
    Files.Disk × Except Failure Unit :=
  match Files.parent? path with
  | none => (disk, .ok ())
  | some directory =>
    let (disk, made) := disk.makeDirectories Files.usualMode working directory
    (disk, made.mapError (.file directory))

/-- Writes the book to a file: the disk after it, on which directories may have been made
even if the file could not be written. -/
def save (b : Book) (disk : Files.Disk) (working : Files.Location) (path : String) :
    Files.Disk × Except Failure Unit :=
  match makeRoom disk working path with
  | (disk, .error failure) => (disk, .error failure)
  | (disk, .ok ()) =>
    match disk.write working path b.write with
    | .ok disk => (disk, .ok ())
    | .error fault => (disk, .error (.file path fault))

end TronWallet.Book
