import TronWallet.CommandLine.Help
import TronWallet.Files.Disk
import TronWallet.Text.White

/-!
# Documentation pages

One Markdown page is written for each command, a command before its subcommands. A page
holds the command's help in the long layout and links to the page of the command it
belongs to and to those of its subcommands. The subcommand `help`, with all that belongs
to it, has no page.
-/

namespace TronWallet.Documentation

open CommandLine (Command)

/-- The subcommands that have pages. -/
def pageChildren (c : Command) : List Command :=
  c.children.filter fun d => d.name ≠ CommandLine.helpWord

/-- The file of the page of a command that is called by some words. -/
def fileName (words : List String) : String :=
  "_".intercalate words ++ ".md"

/-- A link to the page of a command that is called by some words. -/
def link (words : List String) : String :=
  "* [" ++ " ".intercalate words ++ "](" ++ fileName words ++ ")"

/-- The links of a page. -/
def seeAlso (c : Command) (words : List String) : List String :=
  (if words.length ≤ 1 then [] else [link words.dropLast]) ++
    (pageChildren c).map fun d => link (words ++ [d.name]) ++ "\t - " ++ d.description.about

/-- The page of a command that is called by some words. -/
def page (c : Command) (words : List String) (verbosity : Option String) : String :=
  let help := (c.help words .long verbosity).toList
  let links := seeAlso c words
  "## " ++ " ".intercalate words ++ "\n\n" ++ c.description.about ++ "\n\n### Synopsis\n\n```\n" ++
    String.ofList (Text.trimEnd help) ++ "\n```\n\n" ++
    (if links.isEmpty then "" else "### SEE ALSO\n\n" ++ String.join (links.map (· ++ "\n")))

mutual

/-- The files of the pages of a command and of its subcommands, with their texts; `parents`
are the words before the command's own. -/
def pages (verbosity : Option String) (parents : List String) : Command → List (String × String)
  | .node d children =>
    let words := parents ++ [d.name]
    (fileName words, page (.node d children) words verbosity) ::
      childPages verbosity words children

/-- The files of the pages of subcommands. -/
def childPages (verbosity : Option String) (words : List String) :
    List Command → List (String × String)
  | [] => []
  | c :: cs =>
    (if c.name = CommandLine.helpWord then [] else pages verbosity words c) ++
      childPages verbosity words cs

end

/-- Why the documentation cannot be written. -/
inductive Fault where
  | directory (path : String) (cause : Files.Fault)
  | page (path : String) (cause : Files.Fault)
  deriving DecidableEq

/-- The permissions of the directory of the pages and of those made on the way to it. -/
def directoryMode : Nat := 0o700

/-- Writes pages into a directory, one after the other, up to the first that cannot be
written. -/
def writePages (working : Files.Location) (directory : String) :
    List (String × String) → Files.Disk → Files.Disk × Option Fault
  | [], disk => (disk, none)
  | (name, text) :: rest, disk =>
    let path := Files.join directory name
    match disk.write working path text with
    | .ok disk => writePages working directory rest disk
    | .error cause => (disk, some (.page path cause))

/-- Writes the documentation of a tree of commands into a directory, which is made if it
does not exist. Returns the disk after it, and the files that have been written or why not
all could be. -/
def generate (root : Command) (verbosity : Option String) (working : Files.Location)
    (directory : String) (disk : Files.Disk) : Files.Disk × Except Fault (List String) :=
  match disk.makeDirectories directoryMode working directory with
  | (disk, .error cause) => (disk, .error (.directory directory cause))
  | (disk, .ok ()) =>
    let all := pages verbosity [] root
    match writePages working directory all disk with
    | (disk, none) => (disk, .ok (all.map Prod.fst))
    | (disk, some fault) => (disk, .error fault)

/-- The wording of a fault. -/
def Fault.message : Fault → String
  | .directory path cause => "creating " ++ path ++ ": " ++ cause.message
  | .page path cause => "writing " ++ path ++ ": " ++ cause.message

end TronWallet.Documentation
