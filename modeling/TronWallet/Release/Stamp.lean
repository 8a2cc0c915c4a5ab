import TronWallet.Text.Hex
import TronWallet.Text.Quoted
import TronWallet.Text.Utf8

/-!
# Build stamps and the commit of a release

A build is stamped `v<version>-<commit>`, where the commit is a prefix of 7 or 8
hexadecimal digits. `compare` tells from a stamp, the name of the latest release's tag
and that tag's commit whether the build is current. It is total: a stamp without a
usable commit, or a commit hash too short to be cut at the stamp's length, gives the
verdict `undetermined` with its reason.
-/

namespace TronWallet.Release

/-- The stamp of a build of a version, with the commit it was made from if that is known; an
empty one is not. -/
def stampOf (version : String) (commit : Option String) : String :=
  match commit with
  | some c => if c = "" then "v" ++ version else "v" ++ version ++ "-" ++ c
  | none => "v" ++ version

/-- The version of this program. -/
def version : String := "0.1.0"

/-- The stamp of this program, built from a commit. -/
def buildStamp (commit : Option String) : String := stampOf version commit

/-- Why a build cannot be compared with a release. -/
inductive Indecision where
  /-- The stamp has no hyphen. -/
  | noCommit (stamp : String)
  /-- What follows the stamp's last hyphen is not 7 or 8 hexadecimal digits. -/
  | unusableCommit (commit : String)
  /-- The release's commit hash has no prefix of the length of the stamp's commit. -/
  | shortHash (hash : String)
  deriving DecidableEq

/-- How a build stands to the latest release. -/
inductive Verdict where
  | current (tag : String)
  | outdated (latest : String)
  | undetermined (reason : Indecision)
  deriving DecidableEq

/-- What follows the last hyphen of a text. -/
def afterLastHyphen? (cs : List Char) : Option (List Char) :=
  if '-' ∈ cs then some (cs.reverse.takeWhile (· ≠ '-')).reverse else none

/-- Is the text 7 or 8 hexadecimal digits? -/
def isCommitAbbreviation (cs : List Char) : Bool :=
  (cs.length = 7 || cs.length = 8) && cs.all Text.Hex.isDigit

/-- The commit of a stamp. -/
def stampCommit (stamp : String) : Except Indecision (List Char) :=
  match afterLastHyphen? stamp.toList with
  | none => .error (.noCommit stamp)
  | some commit =>
    if isCommitAbbreviation commit then .ok commit
    else .error (.unusableCommit (String.ofList commit))

/-- The part of a commit hash that stands against an abbreviation of `length` digits:
its first `length` bytes, if the hash has eight or more. -/
def hashStart? (hash : String) (length : Nat) : Option (List Char) :=
  if Text.byteLength hash.toList < 8 then none else Text.takeBytes? length hash.toList

/-- Are two texts equal up to the case of ASCII letters? -/
def equalUpToCase (cs ds : List Char) : Bool :=
  cs.map Char.toLower = ds.map Char.toLower

/-- Compares a build with the release whose tag and commit hash are given. -/
def compare (stamp tag hash : String) : Verdict :=
  match stampCommit stamp with
  | .error reason => .undetermined reason
  | .ok commit =>
    match hashStart? hash commit.length with
    | none => .undetermined (.shortHash hash)
    | some start => if equalUpToCase start commit then .current tag else .outdated tag

/-- The wording of a reason. -/
def Indecision.message : Indecision → String
  | .noCommit stamp => "build stamp " ++ Text.quotedString stamp ++ " has no commit"
  | .unusableCommit commit =>
    "build stamp commit " ++ Text.quotedString commit ++ " is not a 7 or 8 digit hex prefix"
  | .shortHash hash => "short commit sha " ++ Text.quotedString hash

/-- The warning that a newer release is out. -/
def outdatedMessage (latest : String) : String :=
  "Warning: Using outdated version. Redownload to upgrade to " ++ latest

/-- The wording of a verdict that no comparison was possible. -/
def undeterminedMessage (reason : Indecision) : String :=
  "cannot determine version status: " ++ reason.message

end TronWallet.Release
