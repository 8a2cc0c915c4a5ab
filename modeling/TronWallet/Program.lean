import TronWallet.Release.Check
import TronWallet.Session.Action
import TronWallet.Text.Style

/-!
# Whole runs of the program

`execute` takes a command line to the end of its run: the disk after it, the attempts of
the release check, and an outcome. A run finishes with a text, or it fails with a report.
The release check is made for a report only, and only where a configuration that could be
loaded allows it; it can add a warning and the tag of the release to the report, and
changes nothing else. It is taken for granted that standard output and standard error can be
written, so printing is no step that fails; the lines of a log are no part of what is printed.
-/

namespace TronWallet

/-- What the user is told about a failure. -/
structure Report where
  failure : Failure
  /-- What the release check found, if it was made. -/
  finding : Option (Except Http.Fault Release.Verdict)
  /-- Is a warning colored? -/
  colored : Bool
  /-- The commit that the program was built from. -/
  commit : Option String

namespace Report

/-- The warning that a newer release is out, if the check found one. -/
def warning (r : Report) : String :=
  match r.finding with
  | some (.ok (.outdated latest)) =>
    let text := (Release.outdatedMessage latest).toList
    String.ofList (if r.colored then Text.red text else text) ++ "\n"
  | _ => ""

/-- The build stamp, with the tag of the latest release if the build is current. -/
def stamp (r : Report) : String :=
  match r.finding with
  | some (.ok (.current tag)) => Release.buildStamp r.commit ++ ":" ++ tag
  | _ => Release.buildStamp r.commit

/-- The line after every failure. -/
def hint : String := "try adding a \x60--help\x60 flag\n"

/-- The whole report, given the wording of a refused TOML document. -/
def text (r : Report) (toml : Toml.Wording) : String :=
  r.warning ++ "commit: " ++ r.stamp ++ ", error: " ++ r.failure.report toml ++ "\n" ++ hint

end Report

/-- How a run ends. -/
inductive Outcome where
  | finished (text : String)
  | failed (report : Report)

namespace Outcome

/-- The exit code of the process. -/
def code : Outcome → Nat
  | finished _ => 0
  | failed _ => 1

/-- What is printed. -/
def output : Outcome → String
  | finished text => text
  | failed _ => ""

/-- What is reported, given the wording of a refused TOML document. -/
def errors (toml : Toml.Wording) : Outcome → String
  | finished _ => ""
  | failed report => report.text toml

end Outcome

/-- A run that has ended. -/
structure Run where
  disk : Files.Disk
  /-- The attempts of the release check. -/
  attempts : List Http.Attempt
  outcome : Outcome

/-! ## Styles -/

/-- The variable that forces styles. -/
def forceVariable : String := "CLICOLOR_FORCE"

/-- The variable that forbids styles. -/
def forbidVariable : String := "NO_COLOR"

/-- The variable that asks for styles on a terminal, or declines them. -/
def colorVariable : String := "CLICOLOR"

/-- The variable that names the kind of terminal. -/
def terminalVariable : String := "TERM"

/-- The variable that is set where nobody watches. -/
def unattendedVariable : String := "CI"

namespace Surroundings

/-- Are warnings colored? Forcing comes before forbidding, and else a terminal decides, unless
color is declined. -/
def colorsWarnings (s : Surroundings) : Bool :=
  if (s.lookup forceVariable).any (· ≠ "0") then true
  else if (s.lookup forbidVariable).isSome then false
  else s.terminal && (s.lookup colorVariable).all (· ≠ "0")

/-- Does the terminal know styles, or is there a reason to think so? -/
def terminalStyles (s : Surroundings) : Bool :=
  (s.lookup terminalVariable).any (· ≠ "dumb") || (s.lookup colorVariable).any (· ≠ "0") ||
    (s.lookup unattendedVariable).isSome

/-- Are help texts styled? Here forbidding comes before forcing, and for both a variable that is
set to nothing counts as not set. -/
def stylesHelp (s : Surroundings) : Bool :=
  if (s.lookup forbidVariable).any (· ≠ "") then false
  else if (s.lookup forceVariable).any (· ≠ "") then true
  else (s.lookup colorVariable).all (· ≠ "0") && s.terminal && s.terminalStyles

end Surroundings

/-! ## Runs -/

/-- Ends a run with a text. -/
def Run.finish (disk : Files.Disk) (text : String) : Run :=
  ⟨disk, [], .finished text⟩

/-- Ends a run with a failure. The release check is made if it is allowed. -/
def Run.fail (s : Surroundings) (disk : Files.Disk) (update : Option UpdateConfig)
    (failure : Failure) : Run :=
  match update.filter (·.enabled) with
  | some config =>
    let check := Release.check s.service config (Release.buildStamp s.commit)
    ⟨disk, check.attempts, .failed ⟨failure, some check.result, s.colorsWarnings, s.commit⟩⟩
  | none => ⟨disk, [], .failed ⟨failure, none, s.colorsWarnings, s.commit⟩⟩

/-- Loads the configuration of the state directory. -/
def loadConfig (s : Surroundings) (disk : Files.Disk) : Except Failure Config :=
  Config.load disk s.working s.configPath

/-- Runs a command: the disk after it, and what it prints. -/
def runCommand (s : Surroundings) (disk : Files.Disk) (config : Config)
    (options : CommandLine.Options) (request : CommandLine.Request) :
    Files.Disk × Except Failure String :=
  match Session.establish s disk (.of options config) config with
  | .error failure => (disk, .error failure)
  | .ok session => session.carryOut s disk request

/-- The help of a command that is called by some words, as it is printed. -/
def printedHelp (s : Surroundings) (command : CommandLine.Command) (called : List String)
    (layout : CommandLine.Layout) : String :=
  let verbosity := s.lookup CommandLine.verboseVariable
  if s.stylesHelp then command.styledHelp called layout verbosity
  else command.help called layout verbosity

/-- The help that a command line without a command asks for. -/
def overview (s : Surroundings) : String :=
  printedHelp s CommandLine.program [CommandLine.programName] .long

/-- Runs the program on a command line. -/
def execute (s : Surroundings) (disk : Files.Disk) (words : List String) : Run :=
  let verbosity := s.lookup CommandLine.verboseVariable
  match CommandLine.parse verbosity words with
  | .error (.help command called long) =>
    .finish disk (printedHelp s command called (command.layout long))
  | .error .version => .finish disk CommandLine.versionText
  | .error (.refused refusal) =>
    .fail s disk ((loadConfig s disk).toOption.map (·.update)) (.commandLine refusal)
  -- Showing the overview is a failure only where standard output cannot be written.
  | .ok ⟨_, none⟩ => .finish disk (overview s)
  | .ok ⟨options, some request⟩ =>
    match loadConfig s disk with
    | .error failure => .fail s disk none failure
    | .ok config =>
      match runCommand s disk config options request with
      | (disk, .ok text) => .finish disk text
      | (disk, .error failure) => .fail s disk (some config.update) failure

end TronWallet
