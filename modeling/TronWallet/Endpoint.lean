import TronWallet.Text.Decimal

/-!
# Node endpoints

An endpoint is the text `host:port`. `normalize` appends the default port to a text
without a colon and leaves every other text alone. `port?` is the port that an endpoint
names, which is what a connection needs first.
-/

namespace TronWallet.Endpoint

/-- The port of a node that is given without one. -/
def defaultPort : String := "50051"

/-- A node with a port: the text itself if it has a colon, and with the default port
appended otherwise. -/
def normalize (node : String) : String :=
  if ':' ∈ node.toList then node else node ++ ":" ++ defaultPort

/-- What follows the last colon of a text. -/
def afterLastColon? (cs : List Char) : Option (List Char) :=
  if ':' ∈ cs then some (cs.reverse.takeWhile (· ≠ ':')).reverse else none

/-- A number of 16 bits, a plus sign before it allowed. -/
def number? (cs : List Char) : Option Nat :=
  let digits := match cs with
    | '+' :: rest => rest
    | _ => cs
  (Text.Decimal.toNat? digits).filter (· < UInt16.size)

/-- The port of an endpoint. -/
def port? (endpoint : String) : Option Nat :=
  (afterLastColon? endpoint.toList).bind number?

end TronWallet.Endpoint
