import TronWallet.CommandLine.Invocation
import TronWallet.Config
import TronWallet.Endpoint
import TronWallet.Transfer

/-!
# The settings of a run

What a run goes by: the options of the command line, and the configuration where an option
is not given. The node is given a port here, so that `Settings.node` can be connected to.
-/

namespace TronWallet

/-- What a run goes by. -/
structure Settings where
  node : String
  verbose : Bool
  signer : Option String
  dryRun : Bool
  ledger : Bool
  /-- The seconds to wait for confirmation; zero leaves what is set already. -/
  timeout : Nat
  file : Option String
  pretty : Bool
  deriving DecidableEq

/-- The settings of options and a configuration. -/
def Settings.of (options : CommandLine.Options) (config : Config) : Settings where
  node := Endpoint.normalize (options.node.getD config.node.endpoint)
  verbose := options.verbose
  signer := options.signer
  dryRun := options.dryRun
  ledger := options.ledger
  timeout := options.timeout
  file := options.file
  pretty := !options.noPretty

/-- A behavior with what the settings change in it. -/
def Settings.apply (s : Settings) (b : Behavior) : Behavior where
  dryRun := s.dryRun || b.dryRun
  signing := if s.ledger then .ledger else b.signing
  confirmationWait := if 0 < s.timeout then s.timeout else b.confirmationWait

end TronWallet
