import Mathlib.Logic.Basic
import TronWallet.Program
import TronWallet.Proofs.Program.Wording

/-!
# What a run says

A run is the bare run of its words, which knows nothing of the release check, and then, if
that has failed, the check (`execute_eq`). So whether a run fails and why depends neither on
the release service nor on where newer releases are looked for (`bareRun_independent`); the
check can only annotate the report. `Annotates` says what it adds, and that it adds nothing
if it is not made, if it fails or if it comes to no verdict. What is printed then is written
out in full: the warning (`Warns`), the stamp (`bareStamp`), the failure (`Failure.Says`) and
the lines around them (`Outcome.Fails`).
-/

namespace TronWallet

open Files (Disk)

/-! ## The run without the release check -/

/-- What words come to apart from the release check: the disk after them, and what is printed
or why they fail. `loaded` is what loading the configuration has come to. -/
def bareRun (s : Surroundings) (disk : Disk) (words : List String)
    (loaded : Except Failure Config) : Disk × Except Failure String :=
  match CommandLine.parse (s.lookup CommandLine.verboseVariable) words with
  | .error (.help command called long) =>
    (disk, .ok (printedHelp s command called (command.layout long)))
  | .error .version => (disk, .ok CommandLine.versionText)
  | .error (.refused refusal) => (disk, .error (.commandLine refusal))
  | .ok ⟨_, none⟩ => (disk, .ok (overview s))
  | .ok ⟨options, some request⟩ =>
    match loaded with
    | .error failure => (disk, .error failure)
    | .ok config => runCommand s disk config options request

/-- The release check that a failure calls for: none if the configuration could not be loaded
or forbids it. -/
def releaseCheck? (s : Surroundings) (loaded : Except Failure Config) : Option Release.Check :=
  match loaded with
  | .error _ => none
  | .ok config =>
    if config.update.enabled then
      some (Release.check s.service config.update (Release.buildStamp s.commit))
    else none

theorem releaseCheck?_eq_some_iff {s : Surroundings} {loaded : Except Failure Config}
    {check : Release.Check} :
    releaseCheck? s loaded = some check ↔
      ∃ config, loaded = .ok config ∧ config.update.enabled = true ∧
        check = Release.check s.service config.update (Release.buildStamp s.commit) := by
  cases loaded with
  | error failure => simp [releaseCheck?]
  | ok config =>
      rw [releaseCheck?, Option.ite_none_right_eq_some, Option.some.injEq]
      simp only [Except.ok.injEq, exists_eq_left', eq_comm (b := check)]

theorem execute_eq (s : Surroundings) (disk : Disk) (words : List String) :
    execute s disk words =
      match bareRun s disk words (loadConfig s disk) with
      | (after, .ok text) => Run.finish after text
      | (after, .error failure) =>
        Run.fail s after ((loadConfig s disk).toOption.map (·.update)) failure := by
  rw [execute, bareRun]
  cases CommandLine.parse (s.lookup CommandLine.verboseVariable) words with
  | error stop => cases stop <;> rfl
  | ok invocation =>
      obtain ⟨options, _ | request⟩ := invocation
      · rfl
      · cases loadConfig s disk with
        | error failure => rfl
        | ok config => rfl

theorem Run.fail_eq (s : Surroundings) (disk : Disk) (loaded : Except Failure Config)
    (failure : Failure) :
    Run.fail s disk (loaded.toOption.map (·.update)) failure =
      ⟨disk, ((releaseCheck? s loaded).map (·.attempts)).getD [],
        .failed ⟨failure, (releaseCheck? s loaded).map (·.result), s.colorsWarnings,
          s.commit⟩⟩ := by
  cases loaded with
  | error cause => rfl
  | ok config =>
      cases henabled : config.update.enabled <;>
        simp [Run.fail, releaseCheck?, henabled, Except.toOption, Option.filter]

variable {s : Surroundings} {disk : Disk} {words : List String}

/-- A run whose bare run succeeds makes no check and prints what that prints. -/
theorem execute_of_ok {text : String}
    (h : (bareRun s disk words (loadConfig s disk)).2 = .ok text) :
    (execute s disk words).attempts = [] ∧ (execute s disk words).outcome = .finished text := by
  rw [execute_eq]
  cases hbare : bareRun s disk words (loadConfig s disk) with
  | mk after result =>
      rw [hbare] at h
      cases h
      exact ⟨rfl, rfl⟩

/-- A run whose bare run fails makes the check that this calls for and reports both. -/
theorem execute_of_error {failure : Failure}
    (h : (bareRun s disk words (loadConfig s disk)).2 = .error failure) :
    (execute s disk words).attempts =
        ((releaseCheck? s (loadConfig s disk)).map (·.attempts)).getD [] ∧
      (execute s disk words).outcome =
        .failed ⟨failure, (releaseCheck? s (loadConfig s disk)).map (·.result), s.colorsWarnings,
          s.commit⟩ := by
  rw [execute_eq]
  cases hbare : bareRun s disk words (loadConfig s disk) with
  | mk after result =>
      rw [hbare] at h
      cases h
      simp [Run.fail_eq]

/-! ## The release service has no part in it -/

section Independence

variable (s : Surroundings) (disk : Disk) (service : Http.Service)

theorem establish_service (settings : Settings) (config : Config) (update : UpdateConfig) :
    Session.establish { s with service := service } disk settings { config with update := update } =
      Session.establish s disk settings config := rfl

theorem plan_service (session : Session) (request : CommandLine.Request) :
    session.plan { s with service := service } disk request = session.plan s disk request := by
  cases request <;> rfl

theorem perform_service (action : Action) :
    action.perform { s with service := service } disk = action.perform s disk := by
  cases action <;> rfl

theorem carryOut_service (session : Session) (request : CommandLine.Request) :
    session.carryOut { s with service := service } disk request =
      session.carryOut s disk request := by
  rw [Session.carryOut, Session.carryOut, plan_service]
  cases session.plan s disk request with
  | ok action => exact perform_service s disk service action
  | error failure => rfl

theorem runCommand_service (config : Config) (update : UpdateConfig)
    (options : CommandLine.Options) (request : CommandLine.Request) :
    runCommand { s with service := service } disk { config with update := update } options
        request =
      runCommand s disk config options request := by
  have hsettings : Settings.of options { config with update := update } =
      Settings.of options config := rfl
  simp only [runCommand, hsettings, establish_service, carryOut_service]

/-- The bare run knows nothing of the release service and of the configuration of the check. -/
theorem bareRun_independent (words : List String) (loaded : Except Failure Config)
    (update : UpdateConfig) :
    bareRun { s with service := service } disk words
        (loaded.map fun config => { config with update := update }) =
      bareRun s disk words loaded := by
  rw [bareRun, bareRun]
  cases CommandLine.parse (s.lookup CommandLine.verboseVariable) words with
  | error stop => cases stop <;> rfl
  | ok invocation =>
      obtain ⟨options, _ | request⟩ := invocation
      · rfl
      · cases loaded with
        | error failure => rfl
        | ok config => exact runCommand_service s disk service config update options request

end Independence

/-! ## What the check adds to a report -/

/-- What a release check has found, if it was made. -/
abbrev Finding := Option (Except Http.Fault Release.Verdict)

/-- The findings that leave a report as it is. -/
inductive Finding.Silent : Finding → Prop where
  | notMade : Silent none
  | failed (fault : Http.Fault) : Silent (some (.error fault))
  | undetermined (reason : Release.Indecision) : Silent (some (.ok (.undetermined reason)))

/-- Warnings are in color where that is forced, and on a terminal where it is neither forbidden
nor declined. -/
def Surroundings.Colors (s : Surroundings) : Prop :=
  (∃ value, s.lookup "CLICOLOR_FORCE" = some value ∧ value ≠ "0") ∨
    s.lookup "NO_COLOR" = none ∧ s.terminal = true ∧ s.lookup "CLICOLOR" ≠ some "0"

/-- The line that warns of an outdated build. -/
inductive Warns (s : Surroundings) (tag : String) : String → Prop where
  | plain (h : ¬ s.Colors) :
      Warns s tag ("Warning: Using outdated version. Redownload to upgrade to " ++ tag ++ "\n")
  | red {line : String} (h : s.Colors)
      (hline : Text.InRed ("Warning: Using outdated version. Redownload to upgrade to " ++ tag)
        line) :
      Warns s tag (line ++ "\n")

/-- The stamp of a build from a commit, where an empty one is none. -/
def bareStamp : Option String → String
  | some commit => if commit = "" then "v0.1.0" else "v0.1.0-" ++ commit
  | none => "v0.1.0"

/-- What a finding adds to a report: a warning before it if the build is outdated, and the tag
after the build's stamp if it is current. -/
structure Annotates (s : Surroundings) (finding : Finding) (warning stamp : String) : Prop where
  outdated : ∀ tag, finding = some (.ok (.outdated tag)) → Warns s tag warning
  notOutdated : (∀ tag, finding ≠ some (.ok (.outdated tag))) → warning = ""
  current : ∀ tag, finding = some (.ok (.current tag)) →
    stamp = bareStamp s.commit ++ ":" ++ tag
  notCurrent : (∀ tag, finding ≠ some (.ok (.current tag))) → stamp = bareStamp s.commit

theorem Surroundings.colorsWarnings_iff (s : Surroundings) :
    s.colorsWarnings = true ↔ s.Colors := by
  have hforced : (s.lookup forceVariable).any (· ≠ "0") = true ↔
      ∃ value, s.lookup "CLICOLOR_FORCE" = some value ∧ value ≠ "0" := by
    rw [Option.any_eq_true]
    simp only [forceVariable, decide_eq_true_eq]
  have hdeclined : (s.lookup colorVariable).all (· ≠ "0") = true ↔
      s.lookup "CLICOLOR" ≠ some "0" := by
    rw [colorVariable]
    cases s.lookup "CLICOLOR" <;> simp
  rw [colorsWarnings, Colors, ← hforced, ← hdeclined, forbidVariable]
  cases (s.lookup forceVariable).any (· ≠ "0") <;> cases s.lookup "NO_COLOR" <;> simp

theorem buildStamp_eq_bareStamp (commit : Option String) :
    Release.buildStamp commit = bareStamp commit := by
  have hversion : "v" ++ Release.version = "v0.1.0" := by decide
  have hhyphen : "v0.1.0" ++ "-" = "v0.1.0-" := by decide
  cases commit with
  | none => exact hversion
  | some commit => rw [Release.buildStamp, Release.stampOf, hversion, hhyphen, bareStamp]

/-- The report of a run that has failed. -/
abbrev Surroundings.reportOf (s : Surroundings) (failure : Failure) (finding : Finding) : Report :=
  ⟨failure, finding, s.colorsWarnings, s.commit⟩

variable {failure : Failure} {finding : Finding}

theorem warns_of_outdated {tag : String} (h : finding = some (.ok (.outdated tag))) :
    Warns s tag (s.reportOf failure finding).warning := by
  subst h
  have hcolors := s.colorsWarnings_iff
  cases hcolored : s.colorsWarnings with
  | false =>
      have hplain : Warns s tag (Release.outdatedMessage tag ++ "\n") :=
        .plain fun h => by simp [hcolors.2 h] at hcolored
      simpa [Report.warning, hcolored] using hplain
  | true =>
      have hred : Warns s tag
          (String.ofList (Text.red (Release.outdatedMessage tag).toList) ++ "\n") :=
        .red (hcolors.1 hcolored) (Text.inRed_red _)
      simpa [Report.warning, hcolored] using hred

theorem annotates_reportOf (s : Surroundings) (failure : Failure) (finding : Finding) :
    Annotates s finding (s.reportOf failure finding).warning
      (s.reportOf failure finding).stamp where
  outdated _ h := warns_of_outdated h
  notOutdated h := by
    rw [Report.warning]
    split
    · exact absurd ‹_› (h _)
    · rfl
  current tag h := by simp only [Report.stamp, h, buildStamp_eq_bareStamp]
  notCurrent h := by
    rw [Report.stamp]
    split
    · exact absurd ‹_› (h _)
    · exact buildStamp_eq_bareStamp s.commit

theorem Annotates.of_silent {warning stamp : String} (h : Annotates s finding warning stamp)
    (hsilent : finding.Silent) : warning = "" ∧ stamp = bareStamp s.commit := by
  cases hsilent <;> exact ⟨h.notOutdated (by simp), h.notCurrent (by simp)⟩

/-! ## The two ways to end -/

namespace Outcome

variable {toml : Toml.Wording}

/-- The process ends well: it prints the text and reports nothing. -/
structure Succeeds (outcome : Outcome) (toml : Toml.Wording) (text : String) : Prop where
  code : outcome.code = 0
  output : outcome.output = text
  errors : outcome.errors toml = ""

/-- The process ends badly: it prints nothing, and reports the message with the build's stamp
before it, between a warning and the hint. -/
structure Fails (outcome : Outcome) (toml : Toml.Wording) (warning stamp message : String) :
    Prop where
  code : outcome.code = 1
  output : outcome.output = ""
  errors : outcome.errors toml =
    warning ++ "commit: " ++ stamp ++ ", error: " ++ message ++ "\n" ++
      "try adding a \x60--help\x60 flag\n"

theorem succeeds_finished (text : String) : (finished text).Succeeds toml text :=
  ⟨rfl, rfl, rfl⟩

theorem fails_failed (r : Report) :
    (failed r).Fails toml r.warning r.stamp (r.failure.report toml) :=
  ⟨rfl, rfl, rfl⟩

variable {outcome outcome' : Outcome} {text warning stamp message : String}

/-- To whoever started the process, both endings are the same. -/
def LooksLike (outcome' outcome : Outcome) (toml : Toml.Wording) : Prop :=
  outcome'.code = outcome.code ∧ outcome'.output = outcome.output ∧
    outcome'.errors toml = outcome.errors toml

theorem Succeeds.looksLike (h' : outcome'.Succeeds toml text) (h : outcome.Succeeds toml text) :
    outcome'.LooksLike outcome toml :=
  ⟨h'.code.trans h.code.symm, h'.output.trans h.output.symm, h'.errors.trans h.errors.symm⟩

theorem Fails.looksLike (h' : outcome'.Fails toml warning stamp message)
    (h : outcome.Fails toml warning stamp message) : outcome'.LooksLike outcome toml :=
  ⟨h'.code.trans h.code.symm, h'.output.trans h.output.symm, h'.errors.trans h.errors.symm⟩

end Outcome

/-! ## The endings of runs -/

section Endings

variable {toml : Toml.Wording}

/-- What the release check of a run finds, if the run has to make one once it fails. -/
def calledFor (s : Surroundings) (disk : Disk) : Finding :=
  (releaseCheck? s (loadConfig s disk)).map (·.result)

theorem succeeds_of_ok {text : String}
    (h : (bareRun s disk words (loadConfig s disk)).2 = .ok text) :
    (execute s disk words).outcome.Succeeds toml text := by
  rw [(execute_of_ok h).2]
  exact Outcome.succeeds_finished text

theorem fails_of_error {failure : Failure}
    (h : (bareRun s disk words (loadConfig s disk)).2 = .error failure) :
    ∃ warning stamp, Annotates s (calledFor s disk) warning stamp ∧
      (execute s disk words).outcome.Fails toml warning stamp (failure.report toml) := by
  let report := s.reportOf failure (calledFor s disk)
  refine ⟨report.warning, report.stamp, annotates_reportOf s failure _, ?_⟩
  rw [(execute_of_error h).2]
  exact Outcome.fails_failed report

/-- A silent check leaves no trace in the report. -/
theorem fails_of_silent {failure : Failure}
    (h : (bareRun s disk words (loadConfig s disk)).2 = .error failure)
    (hsilent : (calledFor s disk).Silent) :
    (execute s disk words).outcome.Fails toml "" (bareStamp s.commit) (failure.report toml) := by
  obtain ⟨warning, stamp, hannotates, hfails⟩ := @fails_of_error s disk words toml failure h
  obtain ⟨rfl, rfl⟩ := hannotates.of_silent hsilent
  exact hfails

/-- A run either succeeds, with nothing reported, or it fails, with nothing printed and a report
that says what its failure does and that only a verdict of the release check adds to. Neither
the service nor the configuration of the check has a part in which of the two happens and with
which failure; so runs of one build that come to the same apart from the check end in the same
way if the check is silent. -/
theorem execute_succeeds_or_fails (s : Surroundings) (disk : Disk) (words : List String)
    (toml : Toml.Wording) :
    let bare := bareRun s disk words (loadConfig s disk)
    let outcome := (execute s disk words).outcome
    Xor (∃ text, bare.2 = .ok text ∧ outcome.Succeeds toml text)
        (∃ failure warning stamp message, bare.2 = .error failure ∧
          Annotates s (calledFor s disk) warning stamp ∧ failure.Says toml message ∧
          outcome.Fails toml warning stamp message) ∧
      (∀ service update, bareRun { s with service := service } disk words
        ((loadConfig s disk).map fun config => { config with update := update }) = bare) ∧
      ∀ s' disk' words', (bareRun s' disk' words' (loadConfig s' disk')).2 = bare.2 →
        s'.commit = s.commit → (calledFor s disk).Silent → (calledFor s' disk').Silent →
        (execute s' disk' words').outcome.LooksLike outcome toml := by
  intro bare outcome
  refine ⟨?_, fun service update => bareRun_independent s disk service words _ update, ?_⟩
  · cases hbare : bare.2 with
    | ok text => exact .inl ⟨⟨text, rfl, succeeds_of_ok hbare⟩, by simp⟩
    | error failure =>
        obtain ⟨warning, stamp, hannotates, hfails⟩ :=
          @fails_of_error s disk words toml failure hbare
        exact .inr ⟨⟨failure, warning, stamp, _, rfl, hannotates, failure.says_report toml,
          hfails⟩, by simp⟩
  · intro s' disk' words' hsame hcommit hsilent hsilent'
    cases hbare : bare.2 with
    | ok text => exact (succeeds_of_ok (hsame.trans hbare)).looksLike (succeeds_of_ok hbare)
    | error failure =>
        have hfails := @fails_of_silent s' disk' words' toml failure (hsame.trans hbare) hsilent'
        rw [hcommit] at hfails
        exact hfails.looksLike (fails_of_silent hbare hsilent)

end Endings

/-! ## A build that cannot reach its node -/

namespace Release

/-- A service of releases on this machine. -/
def localService : UpdateConfig where
  apiBase := "http://[::1]:8080/api/v3/"
  repository := "owner/wallet"

/-- A service with one text for the first request and one for all others. -/
def serving (release tag : String) : Http.Service
  | [], _ => .answered 200 release
  | _ :: _, _ => .answered 200 tag

end Release

/-- The surroundings of a build where no node is reached and the latest release is another one.
Color is forced. -/
def cutOff (commit : Option String) : Surroundings where
  lookup name :=
    if name = "TRONCTL_HOME" then some "/state"
    else if name = "CLICOLOR_FORCE" then some "1" else none
  working := []
  contact _ := .failed "Network is unreachable (os error 101)"
  service := Release.serving "\x7b\"tag_name\":\"v2\"\x7d"
    "\x7b\"ref\":\"r\",\"object\":\x7b\"sha\":\"1234567890\"\x7d\x7d"
  now := 0
  commit := commit

/-- A disk with a configuration only. -/
def configured (text : String) : Disk :=
  (Disk.empty.set ["state"] (some (.directory 0o755))).set ["state", "config.toml"]
    (some (.file (.text text)))

/-- A configuration that uses the service of releases on this machine. -/
def localConfig : String :=
  "[update]\napi_base = \"http://[::1]:8080/api/v3/\"\nrepository = \"owner/wallet\"\n"

/-- A build from a known commit is warned of being outdated. One from no known commit fails in
the same way as where the check is forbidden. -/
theorem execute_succeeds_or_fails_cutOff :
    (execute (cutOff (some "abcdef12")) (configured localConfig) ["node", "status"]).outcome.errors
        (fun _ _ _ => "") =
      "\x1b[31mWarning: Using outdated version. Redownload to upgrade to v2\x1b[0m\n" ++
      "commit: v0.1.0-abcdef12, error: could not connect to node grpc.trongrid.io:50051: " ++
      "Network is unreachable (os error 101): Network is unreachable (os error 101)\n" ++
      "try adding a \x60--help\x60 flag\n" ∧
    let s := cutOff none
    let checked := configured localConfig
    let forbidden := configured "[update]\nenabled = false\n"
    ((bareRun s checked ["node", "status"] (loadConfig s checked)).2 =
        (bareRun s forbidden ["node", "status"] (loadConfig s forbidden)).2 ∧
      (calledFor s forbidden).Silent ∧ (calledFor s checked).Silent) ∧
    ∀ toml, (execute s checked ["node", "status"]).outcome.LooksLike
      (execute s forbidden ["node", "status"]).outcome toml := by
  refine ⟨by decide +kernel, ?_⟩
  intro s checked forbidden
  have hsame : (bareRun s checked ["node", "status"] (loadConfig s checked)).2 =
      (bareRun s forbidden ["node", "status"] (loadConfig s forbidden)).2 := by
    decide +kernel
  have hforbidden : calledFor s forbidden = none := by decide +kernel
  have hchecked : calledFor s checked =
      some (.ok (.undetermined (.noCommit "v0.1.0"))) := by
    decide +kernel
  have hsilent : (calledFor s forbidden).Silent := hforbidden ▸ .notMade
  have hsilent' : (calledFor s checked).Silent := hchecked ▸ .undetermined _
  exact ⟨⟨hsame, hsilent, hsilent'⟩, fun toml =>
    (execute_succeeds_or_fails s forbidden ["node", "status"] toml).2.2 s checked
      ["node", "status"] hsame rfl hsilent hsilent'⟩

end TronWallet
