import TronWallet.Program

/-!
# Which files a run may touch

A run reads and writes at a few paths only, all of them known from its command line and
surroundings: the configuration, the address book, the file to import, and the pages of
the documentation. `places` are the locations on the way to them, a directory before what
is in it, so that a disk which holds the entries of these is all that a run can see.
-/

namespace TronWallet

namespace Files

/-- The locations that steps lead through. -/
def passing (place : Location) : List String → List Location
  | [] => []
  | step :: steps =>
    let reached := if step = ".." then place.dropLast else place ++ [step]
    reached :: passing reached steps

/-- The locations that a path leads through. -/
def passingPath (working : Location) (path : String) : List Location :=
  match Path.parse? path with
  | some p => passing (Disk.start working p) p.steps
  | none => []

end Files

/-- The file that a command line names. -/
def namedFile (s : Surroundings) (words : List String) : Option String :=
  match CommandLine.parse (s.lookup CommandLine.verboseVariable) words with
  | .ok invocation => invocation.options.file
  | .error _ => none

/-- The paths at which a run reads or writes. -/
def touchedPaths (s : Surroundings) (words : List String) : List String :=
  let directory := documentationDirectory s
  let pages := Documentation.pages none [] CommandLine.program
  [s.configPath, s.bookPath] ++ (namedFile s words).toList ++
    pages.map fun page => Files.join directory page.1

/-- The locations that a run may look at. -/
def places (s : Surroundings) (words : List String) : List Files.Location :=
  (Files.passing [] s.working ++
    (touchedPaths s words).flatMap (Files.passingPath s.working)).eraseDups

end TronWallet
