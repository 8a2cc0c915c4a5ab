import TronWallet.Config
import TronWallet.Failure

/-!
# Loading the configuration

A configuration file that does not exist stands for the defaults.
-/

namespace TronWallet.Config

/-- Loads the configuration of a file. -/
def load (disk : Files.Disk) (working : Files.Location) (path : String) : Except Failure Config :=
  if disk.leadsSomewhere working path then
    match disk.read working path with
    | .error fault => .error (.file path fault)
    | .ok text => (parse text).mapError (.document .config text)
  else .ok {}

end TronWallet.Config
