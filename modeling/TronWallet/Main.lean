import TronWallet.Footprint
import Std.Time.DateTime.Timestamp

/-!
# The command line program

Reads what a run may look at, runs the program on it, and writes back what has changed. No
transport is built in, so every node and every service is out of reach, and no record of the
user is read, so the home directory is that of the environment.
-/

namespace TronWallet

/-- The entry at a location whose directory exists. -/
def readEntry (place : Files.Location) : IO (Option Files.Entry) := do
  match ← (IO.FS.readBinFile (Files.absolutePath place)).toBaseIO with
  | .ok bytes =>
    match String.fromUTF8? bytes with
    | some text => return some (.file (.text text))
    | none => return some (.file (.binary bytes.toList))
  | .error (.noFileOrDirectory ..) => return none
  | .error _ => return some (.directory Files.usualMode)

/-- The disk that holds the entries at locations, a directory before what is in it. -/
def readDisk (places : List Files.Location) : IO Files.Disk :=
  places.foldlM (fun disk place => do
    if disk.isDirectory place.dropLast then return disk.set place (← readEntry place)
    else return disk) .empty

/-- Three bits of permissions. -/
def rights (bits : Nat) : IO.AccessRight where
  read := bits / 4 % 2 = 1
  write := bits / 2 % 2 = 1
  execution := bits % 2 = 1

/-- Makes the entry at a location. -/
def writeEntry (place : Files.Location) : Files.Entry → IO Unit
  | .directory mode => do
    IO.FS.createDir (Files.absolutePath place)
    IO.setAccessRights (Files.absolutePath place)
      ⟨rights (mode / 64), rights (mode / 8), rights mode⟩
  | .file (.text text) => IO.FS.writeFile (Files.absolutePath place) text
  | .file (.binary bytes) => IO.FS.writeBinFile (Files.absolutePath place) ⟨bytes.toArray⟩

/-- Writes back the entries that have changed. -/
def writeChanges (before after : Files.Disk) (places : List Files.Location) : IO Unit :=
  places.forM fun place =>
    if before.entry place = after.entry place then pure ()
    else
      match after.entry place with
      | some entry => writeEntry place entry
      | none => pure ()

/-- The variables that a run looks up. -/
def knownVariables : List String :=
  [Surroundings.stateVariable, Surroundings.homeVariable, CommandLine.verboseVariable,
    forceVariable, forbidVariable, colorVariable, terminalVariable, unattendedVariable]

/-- The commit that this program is built from. -/
def builtFrom : Option String := some "abcdef12"

/-- What this process finds around it. -/
def readSurroundings : IO Surroundings := do
  let values ← knownVariables.mapM fun name => return (name, ← IO.getEnv name)
  let directory ← IO.currentDir
  let now ← Std.Time.Timestamp.now
  return {
    lookup := fun name => (values.lookup name).join
    working := ((Files.Path.parse? directory.toString).map (·.steps)).getD []
    contact := fun _ => .failed "Network is unreachable (os error 101)"
    service := fun _ _ => .lost
    now := now.toMillisecondsSinceUnixEpoch.toInt
    commit := builtFrom
    terminal := ← (← IO.getStdout).isTty }

/-- Runs the program in this process. -/
def runProcess (words : List String) : IO UInt32 := do
  let surroundings ← readSurroundings
  let locations := places surroundings words
  let disk ← readDisk locations
  let run := execute surroundings disk words
  writeChanges disk run.disk locations
  IO.print run.outcome.output
  IO.eprint (run.outcome.errors fun _ _ refusal => refusal.message)
  return UInt32.ofNat run.outcome.code

end TronWallet

/-- Runs the program. -/
def main (words : List String) : IO UInt32 :=
  TronWallet.runProcess words
