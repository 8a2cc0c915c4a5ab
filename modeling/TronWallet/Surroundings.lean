import TronWallet.Config
import TronWallet.Files.Disk
import TronWallet.Http.Attempt

/-!
# What a run finds around it

Apart from its arguments and the files, a run depends on the variables of the environment,
on the directory it works in, on what the network says, on the time, on where its output goes
and on the commit it was built from. `Surroundings` holds these; nothing in it changes during a
run. It is taken for granted that the variables, the arguments and the working directory are
Unicode text and that the working directory exists.
-/

namespace TronWallet

/-- What comes of connecting to a node. -/
inductive Contact where
  /-- The connection stands after some milliseconds. -/
  | reached (latency : Nat)
  /-- The node does not answer in time. -/
  | silent
  | failed (text : String)
  deriving DecidableEq

/-- What a run finds around it. -/
structure Surroundings where
  /-- The value of a variable of the environment. -/
  lookup : String → Option String
  working : Files.Location
  /-- What comes of connecting to an endpoint. -/
  contact : String → Contact
  service : Http.Service
  /-- The milliseconds since the start of 1970. -/
  now : Int
  /-- The commit that the program was built from, if the build knew it. -/
  commit : Option String := none
  /-- Is the standard output a terminal? -/
  terminal : Bool := false
  /-- The home directory that the system has on record for the user. -/
  recordedHome : Option String := none

namespace Surroundings

/-- The variable that gives the directory of the program's files. -/
def stateVariable : String := "TRONCTL_HOME"

/-- The variable that gives the home directory. -/
def homeVariable : String := "HOME"

/-- The home directory: the one that the variable gives, unless it is empty, and else the one on
record. -/
def home? (s : Surroundings) : Option String :=
  ((s.lookup homeVariable).filter (· ≠ "")).or s.recordedHome

/-- The directory of the program's files. -/
def stateDirectory (s : Surroundings) : String :=
  TronWallet.stateDirectory (s.lookup stateVariable) s.home?

/-- The path of the configuration file. -/
def configPath (s : Surroundings) : String :=
  TronWallet.configPath s.stateDirectory

/-- The path of the address book's file. -/
def bookPath (s : Surroundings) : String :=
  TronWallet.bookPath s.stateDirectory

end Surroundings

end TronWallet
