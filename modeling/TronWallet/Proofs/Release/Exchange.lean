import TronWallet.Proofs.Program.Outcome
import TronWallet.Proofs.Release.Comparison

/-!
# The exchange with the release service

`Exchange` says what a release check asks for and what it makes of the answers: nothing is
asked for a stamp without a usable commit, the first resource that is not got is the last, and
a comparison is made of what the two requests have got. Each request is made once, at an
address that is written out here (`latestAddress`, `tagAddress`); `Gets` and `Misses` are all
that can come of one. `check` is this exchange and no other (`check_eq_iff`). A run enters it if
and only if it has failed and its configuration is loaded and allows it (`not_checked`,
`checked`).
-/

namespace TronWallet

namespace Http

variable {ε α : Type} {service : Service} {before : List Url} {address : String}
  {parse : String → Except ε α} {url : Url} {document : α}

/-- The address is that of a URL, and the URL can be asked for. -/
def Reaches (address : String) (url : Url) : Prop :=
  ∃ source, Url.parse? address = some source ∧ source.carried = url ∧ url.isRequestable = true

/-- A document is got from a resource by a request that is sent after others: the address can be
asked for, the answer is a success, and its body decodes. -/
structure Gets (service : Service) (before : List Url) (address : String)
    (parse : String → Except ε α) (url : Url) (document : α) : Prop where
  asked : Reaches address url
  answered : ∃ code body, service before url = .answered code body ∧
    (200 ≤ code ∧ code < 300) ∧ parse body = .ok document

/-- No document is got. Either nothing is sent, or no answer comes to the one request, or it is no
success, or its body does not decode. -/
inductive Misses (service : Service) (before : List Url) (address : String)
    (parse : String → Except ε α) : Attempt → Fault → Prop where
  | malformed (h : Url.parse? address = none) :
      Misses service before address parse ⟨address, .malformed⟩ .malformed
  | unusable {source : Url} (h : Url.parse? address = some source)
      (hunusable : source.carried.isRequestable = false) :
      Misses service before address parse ⟨address, .unusable source.carried⟩
        (.unusable source.carried)
  | lost {url : Url} (h : Reaches address url) (hreply : service before url = .lost) :
      Misses service before address parse ⟨address, .replied url .lost⟩ (.lost url)
  | refused {url : Url} {code : Nat} {body : String} (h : Reaches address url)
      (hreply : service before url = .answered code body) (hcode : ¬ (200 ≤ code ∧ code < 300)) :
      Misses service before address parse ⟨address, .replied url (.answered code body)⟩
        (.status address code)
  | undecodable {url : Url} {code : Nat} {body : String} {cause : ε} (h : Reaches address url)
      (hreply : service before url = .answered code body) (hcode : 200 ≤ code ∧ code < 300)
      (hbody : parse body = .error cause) :
      Misses service before address parse ⟨address, .replied url (.answered code body)⟩
        .undecodable

theorem isSuccess_iff {code : Nat} : isSuccess code = true ↔ 200 ≤ code ∧ code < 300 := by
  simp [isSuccess]

theorem attempt_of_reaches (h : Reaches address url) :
    attempt service before address = ⟨address, .replied url (service before url)⟩ := by
  obtain ⟨source, hparse, rfl, hrequestable⟩ := h
  simp [attempt, hparse, hrequestable]

theorem document_of_gets (h : Gets service before address parse url document) :
    (attempt service before address).document parse = .ok document := by
  obtain ⟨code, body, hreply, hcode, hdocument⟩ := h.answered
  rw [attempt_of_reaches h.asked, hreply]
  simp only [Attempt.document, Attempt.body, if_pos (isSuccess_iff.2 hcode), hdocument,
    Except.mapError]

theorem document_of_misses {a : Attempt} {fault : Fault}
    (h : Misses service before address parse a fault) :
    a = attempt service before address ∧ a.document parse = .error fault := by
  cases h with
  | malformed h => exact ⟨by simp [attempt, h], rfl⟩
  | unusable h hunusable => exact ⟨by simp [attempt, h, hunusable], rfl⟩
  | lost h hreply => exact ⟨by rw [attempt_of_reaches h, hreply], rfl⟩
  | refused h hreply hcode =>
      refine ⟨by rw [attempt_of_reaches h, hreply], ?_⟩
      simp only [Attempt.document, Attempt.body, if_neg (mt isSuccess_iff.1 hcode)]
  | undecodable h hreply hcode hbody =>
      refine ⟨by rw [attempt_of_reaches h, hreply], ?_⟩
      simp only [Attempt.document, Attempt.body, if_pos (isSuccess_iff.2 hcode), hbody,
        Except.mapError]

/-- A document is got, or it is missed. -/
theorem gets_or_misses (service : Service) (before : List Url) (address : String)
    (parse : String → Except ε α) :
    (∃ url document, Gets service before address parse url document) ∨
      ∃ fault, Misses service before address parse (attempt service before address) fault := by
  cases hparse : Url.parse? address with
  | none =>
      refine .inr ⟨.malformed, ?_⟩
      simp only [attempt, hparse]
      exact .malformed hparse
  | some source =>
      cases hrequestable : source.carried.isRequestable with
      | false =>
          refine .inr ⟨.unusable source.carried, ?_⟩
          simp only [attempt, hparse, hrequestable]
          exact .unusable hparse hrequestable
      | true =>
          have hreaches : Reaches address source.carried := ⟨source, hparse, rfl, hrequestable⟩
          rw [attempt_of_reaches hreaches]
          cases hreply : service before source.carried with
          | lost => exact .inr ⟨_, .lost hreaches hreply⟩
          | answered code body =>
              by_cases hcode : 200 ≤ code ∧ code < 300
              · cases hbody : parse body with
                | error cause => exact .inr ⟨_, .undecodable hreaches hreply hcode hbody⟩
                | ok document =>
                    exact .inl ⟨_, document, hreaches, code, body, hreply, hcode, hbody⟩
              · exact .inr ⟨_, .refused hreaches hreply hcode⟩

end Http

namespace Release

open Http (Gets Misses)

variable {service : Http.Service} {config : UpdateConfig} {stamp : String}

/-! ## What is asked for -/

/-- The base is the given address without the slashes at its end. -/
structure IsBase (given base : String) : Prop where
  given : ∃ slashes, given.toList = base.toList ++ List.replicate slashes '/'
  bare : base.toList.getLast? ≠ some '/'

/-- The address of the latest release. -/
def latestAddress (base repository : String) : String :=
  base ++ "/repos/" ++ repository ++ "/releases/latest"

/-- The address of a tag. -/
def tagAddress (base repository tag : String) : String :=
  base ++ "/repos/" ++ repository ++ "/git/ref/tags/" ++ tag

theorem isBase_iff {base : String} : IsBase config.apiBase base ↔ config.base = base := by
  have hbase : config.base.toList = config.apiBase.toList.rdropWhile (· = '/') :=
    String.toList_ofList
  rw [← String.toList_inj, hbase, Text.rdropWhile_eq_iff]
  exact ⟨fun h => ⟨h.given, h.bare⟩, fun h => ⟨h.1, h.2⟩⟩

/-- What a release check asks for, in this order, and what it finds. -/
inductive Exchange (service : Http.Service) (config : UpdateConfig) (stamp : String) :
    List Http.Attempt → Except Http.Fault Verdict → Prop where
  /-- Nothing is asked for a stamp whose commit cannot be compared. -/
  | unusable {reason : Indecision} (hstamp : Unusable stamp reason) :
      Exchange service config stamp [] (.ok (.undetermined reason))
  /-- The latest release is not got, and nothing more is asked for. -/
  | noRelease {commit : List Char} {base : String} {attempt : Http.Attempt} {fault : Http.Fault}
      (hstamp : StampedWith stamp commit) (hbase : IsBase config.apiBase base)
      (hmisses : Misses service [] (latestAddress base config.repository) Latest.parse attempt
        fault) :
      Exchange service config stamp [attempt] (.error fault)
  /-- The release is got, but not its tag. -/
  | noTag {commit : List Char} {base : String} {url : Url} {release : Latest}
      {attempt : Http.Attempt} {fault : Http.Fault}
      (hstamp : StampedWith stamp commit) (hbase : IsBase config.apiBase base)
      (hrelease : Gets service [] (latestAddress base config.repository) Latest.parse url release)
      (hmisses : Misses service [url] (tagAddress base config.repository release.tagName)
        Tag.parse attempt fault) :
      Exchange service config stamp
        [⟨latestAddress base config.repository, .replied url (service [] url)⟩, attempt]
        (.error fault)
  /-- Both are got, and the stamp is compared with the commit of the tag. -/
  | compared {commit : List Char} {base : String} {url url' : Url} {release : Latest} {tag : Tag}
      (hstamp : StampedWith stamp commit) (hbase : IsBase config.apiBase base)
      (hrelease : Gets service [] (latestAddress base config.repository) Latest.parse url release)
      (htag : Gets service [url] (tagAddress base config.repository release.tagName) Tag.parse
        url' tag) :
      Exchange service config stamp
        [⟨latestAddress base config.repository, .replied url (service [] url)⟩,
          ⟨tagAddress base config.repository release.tagName,
            .replied url' (service [url] url')⟩]
        (.ok (compare stamp release.tagName tag.sha))

/-- What is left of a check once the release is got. -/
theorem check_of_gets {commit : List Char} {url : Url} {release : Latest}
    {result : Except Http.Fault Tag} (hstamp : stampCommit stamp = .ok commit)
    (hrelease : Gets service [] config.latestReleaseUrl Latest.parse url release)
    (htag : (Http.attempt service [url] (config.tagUrl release.tagName)).document Tag.parse =
      result) :
    check service config stamp =
      ⟨[⟨config.latestReleaseUrl, .replied url (service [] url)⟩,
          Http.attempt service [url] (config.tagUrl release.tagName)],
        result.map fun tag => compare stamp release.tagName tag.sha⟩ := by
  have hattempt : Http.attempt service [] config.latestReleaseUrl =
      ⟨config.latestReleaseUrl, .replied url (service [] url)⟩ :=
    Http.attempt_of_reaches hrelease.asked
  have hlatest := Http.document_of_gets hrelease
  rw [hattempt] at hlatest
  cases result with
  | error fault =>
      simp only [check, hstamp, hattempt, hlatest, Http.Attempt.sent?, Option.toList_some, htag,
        Except.map]
  | ok tag =>
      simp only [check, hstamp, hattempt, hlatest, Http.Attempt.sent?, Option.toList_some, htag,
        Except.map]

theorem check_of_exchange {attempts : List Http.Attempt} {result : Except Http.Fault Verdict}
    (h : Exchange service config stamp attempts result) :
    check service config stamp = ⟨attempts, result⟩ := by
  cases h with
  | unusable hstamp => simp only [check, stampCommit_eq_error_iff.2 hstamp]
  | @noRelease commit base attempt fault hstamp hbase hmisses =>
      obtain rfl := isBase_iff.1 hbase
      obtain ⟨rfl, hlatest⟩ := Http.document_of_misses hmisses
      have hlatest : (Http.attempt service [] config.latestReleaseUrl).document Latest.parse =
        .error fault := hlatest
      simp only [check, stampCommit_eq_ok_iff.2 hstamp, hlatest]
      rfl
  | noTag hstamp hbase hrelease hmisses =>
      obtain rfl := isBase_iff.1 hbase
      obtain ⟨rfl, htag⟩ := Http.document_of_misses hmisses
      exact check_of_gets (stampCommit_eq_ok_iff.2 hstamp) hrelease htag
  | compared hstamp hbase hrelease htag =>
      obtain rfl := isBase_iff.1 hbase
      rw [← Http.attempt_of_reaches htag.asked]
      exact check_of_gets (stampCommit_eq_ok_iff.2 hstamp) hrelease (Http.document_of_gets htag)

/-- A check makes the exchange. -/
theorem exchange_check (service : Http.Service) (config : UpdateConfig) (stamp : String) :
    Exchange service config stamp (check service config stamp).attempts
      (check service config stamp).result := by
  have hexchange : ∃ attempts result, Exchange service config stamp attempts result := by
    have hbase : IsBase config.apiBase config.base := isBase_iff.2 rfl
    cases hstamp : stampCommit stamp with
    | error reason => exact ⟨_, _, .unusable (stampCommit_eq_error_iff.1 hstamp)⟩
    | ok commit =>
        have hstamped := stampCommit_eq_ok_iff.1 hstamp
        rcases Http.gets_or_misses service [] (latestAddress config.base config.repository)
            Latest.parse with ⟨url, release, hrelease⟩ | ⟨fault, hmisses⟩
        · rcases Http.gets_or_misses service [url]
              (tagAddress config.base config.repository release.tagName) Tag.parse with
            ⟨url', tag, htag⟩ | ⟨fault, hmisses⟩
          · exact ⟨_, _, .compared hstamped hbase hrelease htag⟩
          · exact ⟨_, _, .noTag hstamped hbase hrelease hmisses⟩
        · exact ⟨_, _, .noRelease hstamped hbase hmisses⟩
  obtain ⟨attempts, result, hexchange⟩ := hexchange
  rw [check_of_exchange hexchange]
  exact hexchange

/-- A check is the exchange and no other. -/
theorem check_eq_iff {attempts : List Http.Attempt} {result : Except Http.Fault Verdict} :
    check service config stamp = ⟨attempts, result⟩ ↔
      Exchange service config stamp attempts result := by
  refine ⟨fun h => ?_, check_of_exchange⟩
  have hexchange := exchange_check service config stamp
  rwa [h] at hexchange

end Release

/-! ## Which runs enter the exchange -/

open Files (Disk)

/-- What the release check of a run has found, if the run has made one. -/
def Outcome.finding : Outcome → Finding
  | finished _ => none
  | failed report => report.finding

variable {s : Surroundings} {disk : Disk} {words : List String}

theorem attempts_execute_of_ok {text : String}
    (h : (bareRun s disk words (loadConfig s disk)).2 = .ok text) :
    (execute s disk words).outcome.code = 0 ∧ (execute s disk words).attempts = [] ∧
      (execute s disk words).outcome.finding = none := by
  obtain ⟨hattempts, houtcome⟩ := execute_of_ok h
  simp [hattempts, houtcome, Outcome.code, Outcome.finding]

theorem attempts_execute_of_error {failure : Failure}
    (h : (bareRun s disk words (loadConfig s disk)).2 = .error failure) :
    (execute s disk words).outcome.code = 1 ∧
      (execute s disk words).attempts =
        ((releaseCheck? s (loadConfig s disk)).map (·.attempts)).getD [] ∧
      (execute s disk words).outcome.finding =
        (releaseCheck? s (loadConfig s disk)).map (·.result) := by
  obtain ⟨hattempts, houtcome⟩ := execute_of_error h
  simp [hattempts, houtcome, Outcome.code, Outcome.finding]

/-- A run that succeeds or whose configuration is not loaded or forbids it makes no check. -/
theorem not_checked (h : (execute s disk words).outcome.code = 0 ∨
      ∀ config, loadConfig s disk = .ok config → config.update.enabled = false) :
    (execute s disk words).attempts = [] ∧ (execute s disk words).outcome.finding = none := by
  cases hbare : (bareRun s disk words (loadConfig s disk)).2 with
  | ok text => exact (attempts_execute_of_ok hbare).2
  | error failure =>
      obtain ⟨hcode, hattempts, hfinding⟩ := attempts_execute_of_error hbare
      have hnone : releaseCheck? s (loadConfig s disk) = none := by
        rw [Option.eq_none_iff_forall_ne_some]
        intro check hcheck
        obtain ⟨config, hloaded, henabled, -⟩ := releaseCheck?_eq_some_iff.1 hcheck
        rcases h with hsuccess | hforbidden
        · omega
        · simp [hforbidden config hloaded] at henabled
      simp [hattempts, hfinding, hnone]

/-- Every other run makes the check once. -/
theorem checked {config : Config} (hloaded : loadConfig s disk = .ok config)
    (henabled : config.update.enabled = true) (hcode : (execute s disk words).outcome.code = 1) :
    ∃ result, (execute s disk words).outcome.finding = some result ∧
      Release.check s.service config.update (bareStamp s.commit) =
        ⟨(execute s disk words).attempts, result⟩ := by
  cases hbare : (bareRun s disk words (loadConfig s disk)).2 with
  | ok text =>
      have hzero := (attempts_execute_of_ok hbare).1
      omega
  | error failure =>
      obtain ⟨-, hattempts, hfinding⟩ := attempts_execute_of_error hbare
      have hsome := (releaseCheck?_eq_some_iff (s := s)).2 ⟨config, hloaded, henabled, rfl⟩
      rw [buildStamp_eq_bareStamp] at hsome
      generalize Release.check s.service config.update (bareStamp s.commit) = check at hsome ⊢
      rw [hsome] at hattempts hfinding
      rw [hattempts]
      exact ⟨check.result, hfinding, rfl⟩

/-- A release check is the exchange of its service, configuration and stamp, and of all runs
those enter it that have failed and whose configuration is loaded and allows it. The stamp is
that of the build, whatever commit it is from. -/
theorem check_iff_exchange_and_execute_gated :
    (∀ service config stamp attempts result,
      Release.check service config stamp = ⟨attempts, result⟩ ↔
        Release.Exchange service config stamp attempts result) ∧
      ∀ s disk words, let run := execute s disk words
        (run.outcome.code = 0 ∨
            (∀ config, loadConfig s disk = .ok config → config.update.enabled = false) →
          run.attempts = [] ∧ run.outcome.finding = none) ∧
        ∀ config, loadConfig s disk = .ok config → config.update.enabled = true →
          run.outcome.code = 1 →
          ∃ result, run.outcome.finding = some result ∧
            Release.Exchange s.service config.update (bareStamp s.commit) run.attempts result := by
  refine ⟨fun service config stamp attempts result => Release.check_eq_iff,
    fun s disk words => ?_⟩
  intro run
  refine ⟨not_checked, ?_⟩
  intro config hloaded henabled hcode
  obtain ⟨result, hfinding, hcheck⟩ := checked hloaded henabled hcode
  exact ⟨result, hfinding, Release.check_eq_iff.1 hcheck⟩

/-- What a build that is cut off from its node asks of a service on this machine: once for the
latest release and once for the tag of that release. With a known commit the answers are
compared; with none, nothing is asked; and nothing is asked by a run that succeeds. -/
theorem check_iff_exchange_and_execute_gated_cutOff :
    let disk := configured localConfig
    let run := execute (cutOff (some "abcdef12")) disk ["node", "status"]
    let unstamped := execute (cutOff none) disk ["node", "status"]
    let helped := execute (cutOff (some "abcdef12")) disk ["--version"]
    ((loadConfig (cutOff (some "abcdef12")) disk).map (·.update) = .ok Release.localService ∧
      run.outcome.code = 1 ∧ unstamped.outcome.code = 1 ∧ helped.outcome.code = 0) ∧
    (run.attempts.map (·.address) =
        ["http://[::1]:8080/api/v3/repos/owner/wallet/releases/latest",
          "http://[::1]:8080/api/v3/repos/owner/wallet/git/ref/tags/v2"] ∧
      run.attempts.map (fun a => a.sent?.map (·.target)) =
        [some "/api/v3/repos/owner/wallet/releases/latest".toList,
          some "/api/v3/repos/owner/wallet/git/ref/tags/v2".toList] ∧
      run.outcome.finding = some (.ok (.outdated "v2")) ∧
      Release.Exchange (cutOff none).service Release.localService "v0.1.0-abcdef12" run.attempts
        (.ok (.outdated "v2"))) ∧
    Release.Exchange (cutOff none).service Release.localService "v0.1.0" unstamped.attempts
      (.ok (.undetermined (.noCommit "v0.1.0"))) ∧
    helped.attempts = [] := by
  intro disk run unstamped helped
  obtain ⟨-, hgated⟩ := check_iff_exchange_and_execute_gated
  have hconfig : ∀ commit, loadConfig (cutOff commit) disk =
      .ok ⟨{}, Release.localService⟩ := by
    intro commit
    have hnone : loadConfig (cutOff none) disk = .ok ⟨{}, Release.localService⟩ := by
      decide +kernel
    exact hnone
  have hcode : run.outcome.code = 1 := by decide +kernel
  have hcode' : unstamped.outcome.code = 1 := by decide +kernel
  have hcode'' : helped.outcome.code = 0 := by decide +kernel
  have hfinding : run.outcome.finding = some (.ok (.outdated "v2")) := by decide +kernel
  have hfinding' : unstamped.outcome.finding =
      some (.ok (.undetermined (.noCommit "v0.1.0"))) := by
    decide +kernel
  obtain ⟨result, hresult, hexchange⟩ :=
    (hgated (cutOff (some "abcdef12")) disk ["node", "status"]).2 _ (hconfig _) rfl hcode
  obtain ⟨result', hresult', hexchange'⟩ :=
    (hgated (cutOff none) disk ["node", "status"]).2 _ (hconfig _) rfl hcode'
  obtain rfl := Option.some.inj (hfinding.symm.trans hresult)
  obtain rfl := Option.some.inj (hfinding'.symm.trans hresult')
  refine ⟨⟨by rw [hconfig]; rfl, hcode, hcode', hcode''⟩,
    ⟨by decide +kernel, by decide +kernel, hfinding, hexchange⟩, hexchange', ?_⟩
  exact ((hgated (cutOff (some "abcdef12")) disk ["--version"]).1 (.inl hcode'')).1

end TronWallet
