import TronWallet.Files.Path
import TronWallet.Toml.Decode
import TronWallet.Toml.Writing

/-!
# Configuration

Where the node is and how newer releases are looked for. A configuration is read from a
TOML file in which every field has a default, unknown entries are ignored, and a section
may be given as an array of its fields in their order. `Config.write?` is the file that
reads back as the same configuration.
-/

namespace TronWallet

/-- How the node is reached. -/
structure NodeConfig where
  endpoint : String := "grpc.trongrid.io:50051"
  connectTimeoutSecs : Nat := 10
  deriving DecidableEq

/-- Where and how newer releases are looked for. -/
structure UpdateConfig where
  enabled : Bool := true
  apiBase : String := "https://api.github.com"
  repository : String := "fbsobreira/gotron-sdk"
  timeoutSecs : Nat := 10
  deriving DecidableEq

/-- The configuration of a run. -/
structure Config where
  node : NodeConfig := {}
  update : UpdateConfig := {}
  deriving DecidableEq

/-- A timeout in seconds, where zero stands for ten. -/
def effectiveSeconds (seconds : Nat) : Nat :=
  if seconds = 0 then 10 else seconds

namespace NodeConfig

/-- The time allowed for connecting, in seconds. -/
def connectTimeout (c : NodeConfig) : Nat :=
  effectiveSeconds c.connectTimeoutSecs

/-- Takes in one entry of the section. -/
def add (c : NodeConfig) (entry : String × Toml.Value) : Except Toml.Refusal NodeConfig :=
  match entry.1 with
  | "endpoint" => entry.2.asText.map fun s => { c with endpoint := s }
  | "connect_timeout_secs" => entry.2.asNatural.map fun n => { c with connectTimeoutSecs := n }
  | _ => .ok c

/-- The fields in the order in which an array gives them. -/
def fieldOrder : List String := ["endpoint", "connect_timeout_secs"]

/-- Decodes the section. -/
def ofValue (v : Toml.Value) : Except Toml.Refusal NodeConfig :=
  match v.entries?, v with
  | some entries, _ => entries.foldlM add {}
  | none, .array items => (fieldOrder.zip items).foldlM add {}
  | none, _ => v.refuse "struct NodeConfig"

end NodeConfig

namespace UpdateConfig

/-- The time allowed for a request, in seconds. -/
def timeout (c : UpdateConfig) : Nat :=
  effectiveSeconds c.timeoutSecs

/-- The service's address without slashes at its end. -/
def base (c : UpdateConfig) : String :=
  String.ofList (c.apiBase.toList.reverse.dropWhile (· = '/')).reverse

/-- The text of the address of the latest release. -/
def latestReleaseUrl (c : UpdateConfig) : String :=
  c.base ++ "/repos/" ++ c.repository ++ "/releases/latest"

/-- The text of the address of a tag. -/
def tagUrl (c : UpdateConfig) (tag : String) : String :=
  c.base ++ "/repos/" ++ c.repository ++ "/git/ref/tags/" ++ tag

/-- Takes in one entry of the section. -/
def add (c : UpdateConfig) (entry : String × Toml.Value) : Except Toml.Refusal UpdateConfig :=
  match entry.1 with
  | "enabled" => entry.2.asBoolean.map fun b => { c with enabled := b }
  | "api_base" => entry.2.asText.map fun s => { c with apiBase := s }
  | "repository" => entry.2.asText.map fun s => { c with repository := s }
  | "timeout_secs" => entry.2.asNatural.map fun n => { c with timeoutSecs := n }
  | _ => .ok c

/-- The fields in the order in which an array gives them. -/
def fieldOrder : List String := ["enabled", "api_base", "repository", "timeout_secs"]

/-- Decodes the section. -/
def ofValue (v : Toml.Value) : Except Toml.Refusal UpdateConfig :=
  match v.entries?, v with
  | some entries, _ => entries.foldlM add {}
  | none, .array items => (fieldOrder.zip items).foldlM add {}
  | none, _ => v.refuse "struct UpdateConfig"

end UpdateConfig

namespace Config

/-- Takes in one entry of the file. -/
def add (c : Config) (entry : String × Toml.Value) : Except Toml.Refusal Config :=
  match entry.1 with
  | "node" => (NodeConfig.ofValue entry.2).map fun n => { c with node := n }
  | "update" => (UpdateConfig.ofValue entry.2).map fun u => { c with update := u }
  | _ => .ok c

/-- Decodes the entries of a configuration file. -/
def ofTable (entries : Toml.Table) : Except Toml.Refusal Config :=
  entries.foldlM add {}

/-- Decodes a configuration file. -/
def parse (text : String) : Except Toml.Refusal Config :=
  Toml.decode ofTable text

/-- The sections of the configuration's file. -/
def sections (c : Config) : List Toml.Section :=
  [{ name := "node"
     entries := [("endpoint", .text c.node.endpoint),
       ("connect_timeout_secs", .integer c.node.connectTimeoutSecs)] },
   { name := "update"
     entries := [("enabled", .boolean c.update.enabled), ("api_base", .text c.update.apiBase),
       ("repository", .text c.update.repository),
       ("timeout_secs", .integer c.update.timeoutSecs)] }]

/-- The configuration as a file; a timeout of 2 ^ 63 seconds or more has no place in one. -/
def write? (c : Config) : Option String :=
  let limit := 0x8000000000000000
  if c.node.connectTimeoutSecs < limit ∧ c.update.timeoutSecs < limit then
    some (String.ofList (Toml.writeSections c.sections))
  else none

end Config

/-! ## Where the state of the program lies -/

/-- The directory that holds the program's files: the one given for them, unless it is
empty, and else `.tronctl` in the home directory, or in the working directory where there is no
home. -/
def stateDirectory (given home : Option String) : String :=
  match given.filter (· ≠ "") with
  | some directory => directory
  | none => Files.join (home.getD ".") ".tronctl"

/-- The configuration file of a state directory. -/
def configPath (directory : String) : String :=
  Files.join directory "config.toml"

/-- The address book's file of a state directory. -/
def bookPath (directory : String) : String :=
  Files.join directory "accounts.toml"

end TronWallet
