import TronWallet.Files.Path
import TronWallet.Text.Utf8

/-!
# Files

A `Disk` assigns entries to locations, which are lists of names from the root. The
operations follow a path step by step and fail where it leads through something that is
no directory. Reading changes nothing, and writing a file either writes all of it or
changes nothing; making several directories can stop half way. A disk has files and
directories only: there are no links and no devices, every entry may be read and written
whatever its mode says, and there is always room for more.
-/

namespace TronWallet.Files

/-- A place on a disk: the names on the way from the root. -/
abbrev Location := List String

/-- What a file holds. -/
inductive Content where
  | text (value : String)
  /-- Bytes that are no UTF-8. -/
  | binary (bytes : List UInt8)
  deriving DecidableEq

/-- What is at a location. -/
inductive Entry where
  | file (content : Content)
  | directory (mode : Nat)
  deriving DecidableEq

/-- Why an operation on files fails. -/
inductive Fault where
  | notFound
  | alreadyExists
  | notDirectory
  | isDirectory
  /-- A name or a whole path has too many bytes. -/
  | nameTooLong
  /-- The path holds the character NUL. -/
  | holdsNul
  /-- The bytes of the file are no UTF-8. -/
  | notText
  deriving DecidableEq

/-- The wording of a fault. -/
def Fault.message : Fault → String
  | notFound => "No such file or directory (os error 2)"
  | alreadyExists => "File exists (os error 17)"
  | notDirectory => "Not a directory (os error 20)"
  | isDirectory => "Is a directory (os error 21)"
  | nameTooLong => "File name too long (os error 36)"
  | holdsNul => "file name contained an unexpected NUL byte"
  | notText => "stream did not contain valid UTF-8"

/-- The entries of all locations. The root is a directory without an entry of its own. -/
structure Disk where
  entry : Location → Option Entry

namespace Disk

/-- The disk that holds nothing. -/
def empty : Disk := ⟨fun _ => none⟩

/-- The disk with another entry at one location. -/
def set (d : Disk) (place : Location) (e : Option Entry) : Disk :=
  ⟨fun other => if other = place then e else d.entry other⟩

@[simp] theorem entry_set_self (d : Disk) (place : Location) (e : Option Entry) :
    (d.set place e).entry place = e := by
  simp [set]

theorem entry_set_of_ne (d : Disk) {place other : Location} (e : Option Entry)
    (h : other ≠ place) : (d.set place e).entry other = d.entry other := by
  simp [set, h]

/-- Is there a directory at the location? -/
def isDirectory (d : Disk) (place : Location) : Bool :=
  place = [] || match d.entry place with
    | some (.directory _) => true
    | _ => false

/-- Is there anything at the location? -/
def occupied (d : Disk) (place : Location) : Bool :=
  place = [] || (d.entry place).isSome

/-- Why no step can be taken from a location that is no directory. -/
def stepFault (d : Disk) (place : Location) : Fault :=
  if d.occupied place then .notDirectory else .notFound

/-- The greatest number of bytes of a name. -/
def nameLimit : Nat := 255

/-- The greatest number of bytes of a path. -/
def pathLimit : Nat := 4095

/-- Follows steps from a location. -/
def walk (d : Disk) : Location → List String → Except Fault Location
  | place, [] => .ok place
  | place, step :: steps =>
    if !d.isDirectory place then .error (d.stepFault place)
    else if step = ".." then d.walk place.dropLast steps
    else if nameLimit < Text.byteLength step.toList then .error .nameTooLong
    else d.walk (place ++ [step]) steps

/-- The location where a parsed path starts. -/
def start (working : Location) (path : Path) : Location :=
  if path.absolute then [] else working

/-- Parses a path that can be followed at all. -/
def parsePath (path : String) : Except Fault Path :=
  if path.toList.contains '\x00' then .error .holdsNul
  else if pathLimit < Text.byteLength path.toList then .error .nameTooLong
  else
    match Path.parse? path with
    | some p => .ok p
    | none => .error .notFound

/-- The location, which has to be that of a directory. -/
def requireDirectory (d : Disk) (place : Location) : Except Fault Location :=
  if d.isDirectory place then .ok place else .error (d.stepFault place)

/-- The location of a path, relative to a working directory. A path that asks for a
directory leads nowhere else. -/
def locate (d : Disk) (working : Location) (path : String) : Except Fault Location := do
  let p ← parsePath path
  let place ← d.walk (start working p) p.steps
  if p.ending = .name then .ok place else d.requireDirectory place

/-- Does the path lead to anything? -/
def leadsSomewhere (d : Disk) (working : Location) (path : String) : Bool :=
  match d.locate working path with
  | .ok place => d.occupied place
  | .error _ => false

/-- The text of a file. -/
def read (d : Disk) (working : Location) (path : String) : Except Fault String := do
  let place ← d.locate working path
  if d.isDirectory place then .error .isDirectory
  else
    match d.entry place with
    | some (.file (.text s)) => .ok s
    | some (.file (.binary _)) => .error .notText
    | _ => .error .notFound

/-- The location at which a file can be written. A path that ends in a slash names no
file, whatever is there. -/
def writable (d : Disk) (working : Location) (path : String) : Except Fault Location := do
  let p ← parsePath path
  let origin := start working p
  match p.ending with
  | .name =>
    let place ← d.walk origin p.steps
    if d.isDirectory place then .error .isDirectory else .ok place
  | .slash =>
    let _ ← d.requireDirectory (← d.walk origin p.steps.dropLast)
    .error .isDirectory
  | .dot =>
    let _ ← d.requireDirectory (← d.walk origin p.steps)
    .error .isDirectory

/-- Writes a file, which is made if there is none. -/
def write (d : Disk) (working : Location) (path text : String) : Except Fault Disk := do
  let place ← d.writable working path
  .ok (d.set place (some (.file (.text text))))

/-- Makes one directory. A path that ends in a dot makes none: it names a directory that
exists. -/
def makeDirectory (d : Disk) (mode : Nat) (origin : Location) (steps : List String)
    (ending : Ending) : Except Fault Disk := do
  let place ← d.walk origin steps
  if ending = .dot then
    let _ ← d.requireDirectory place
    .error .alreadyExists
  else if d.occupied place then .error .alreadyExists
  else .ok (d.set place (some (.directory mode)))

/-- Do the steps lead to a directory? -/
def reachesDirectory (d : Disk) (origin : Location) (steps : List String) : Bool :=
  match d.walk origin steps with
  | .ok place => d.isDirectory place
  | .error _ => false

/-- What has come of making a directory: a fault is none if the directory is there. -/
def settle (d : Disk) (origin : Location) (steps : List String) :
    Except Fault Disk → Disk × Except Fault Unit
  | .ok made => (made, .ok ())
  | .error fault => (d, if d.reachesDirectory origin steps then .ok () else .error fault)

/-- Makes a directory, and first those on the way to it that are missing; the steps are
given last one first. A directory that exists already is left alone. -/
def makeDirectoriesAt (mode : Nat) (origin : Location) (ending : Ending) :
    List String → Disk → Disk × Except Fault Unit
  | [], d => (d, .ok ())
  | step :: before, d =>
    let steps := (step :: before).reverse
    match d.makeDirectory mode origin steps ending with
    | .error .notFound =>
      match makeDirectoriesAt mode origin .name before d with
      | (d, .error fault) => (d, .error fault)
      | (d, .ok ()) => d.settle origin steps (d.makeDirectory mode origin steps ending)
    | result => d.settle origin steps result

/-- Makes the directory of a path and those on the way to it. The empty path is the working
directory. -/
def makeDirectories (d : Disk) (mode : Nat) (working : Location) (path : String) :
    Disk × Except Fault Unit :=
  if path = "" then (d, .ok ())
  else
    match parsePath path with
    | .error fault => (d, .error fault)
    | .ok p => makeDirectoriesAt mode (start working p) p.ending p.steps.reverse d

end Disk

/-- The permissions of a directory that is made without others in mind. -/
def usualMode : Nat := 0o755

end TronWallet.Files
