import TronWallet.Config
import TronWallet.Http.Attempt
import TronWallet.Release.Payload
import TronWallet.Release.Stamp

/-!
# The release check

`check` asks the release service for the latest release, then for the commit that the
release's tag names, and compares that commit with a build stamp. A stamp without a usable
commit is found out before anything is asked, and the first request that fails is the last.
-/

namespace TronWallet.Release

/-- The name under which requests are made. -/
def userAgent : String := "tronctl/" ++ version

/-- A check: the attempts it made, in their order, and what it found. -/
structure Check where
  attempts : List Http.Attempt
  result : Except Http.Fault Verdict

/-- Checks a build stamp against the latest release. -/
def check (service : Http.Service) (config : UpdateConfig) (stamp : String) : Check :=
  match stampCommit stamp with
  | .error reason => ⟨[], .ok (.undetermined reason)⟩
  | .ok _ =>
    let latest := Http.attempt service [] config.latestReleaseUrl
    match latest.document Latest.parse with
    | .error fault => ⟨[latest], .error fault⟩
    | .ok release =>
      let tag := Http.attempt service latest.sent?.toList (config.tagUrl release.tagName)
      match tag.document Tag.parse with
      | .error fault => ⟨[latest, tag], .error fault⟩
      | .ok t => ⟨[latest, tag], .ok (compare stamp release.tagName t.sha)⟩

/-- The wording of a check that could not be made. -/
def faultMessage (fault : Http.Fault) : String :=
  "could not fetch version: " ++ fault.message

end TronWallet.Release
