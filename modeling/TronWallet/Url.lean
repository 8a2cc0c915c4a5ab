import TronWallet.Text.Decimal
import TronWallet.Url.Host
import TronWallet.Url.Path
import TronWallet.Url.User

/-!
# URLs

A `Url` is the address of a resource in its normal form: the scheme in lower case, no port
that the scheme implies, a path without dot segments, and every character that a part
reserves escaped. `text` is the whole URL and `target` the part of it that a request names;
a fragment never leaves the client.
-/

namespace TronWallet

namespace Url

/-- Who serves a resource, and as whom to ask for it. -/
structure Authority where
  user : Option User
  host : Option Host
  port : Option Nat
  deriving DecidableEq

/-- Something that may be missing, after a mark. -/
def marked (mark : Char) : Option (List Char) → List Char
  | some cs => mark :: cs
  | none => []

/-- The authority that says nothing. -/
def Authority.empty : Authority :=
  ⟨none, none, none⟩

/-- The text of an authority. -/
def Authority.text (a : Authority) : List Char :=
  (a.user.map User.text).getD [] ++ (a.host.map Host.text).getD [] ++
    marked ':' (a.port.map Text.Decimal.ofNat)

end Url

/-- The address of a resource. -/
structure Url where
  scheme : String
  authority : Option Url.Authority
  path : Url.Path
  query : Option (List Char)
  fragment : Option (List Char)
  deriving DecidableEq

namespace Url

/-- The host of a URL. -/
def host (u : Url) : Option Host :=
  u.authority.bind (·.host)

/-- The user of a URL. -/
def user (u : Url) : Option User :=
  u.authority.bind (·.user)

/-- What stands between the scheme and the path. Without an authority, a path that starts
with two slashes would be read as one, so a dot segment is put before it. -/
def beforePath (u : Url) : List Char :=
  match u.authority, u.path with
  | some a, _ => '/' :: '/' :: a.text
  | none, .segments ([] :: _ :: _) => ['/', '.']
  | none, _ => []

/-- What a request for the resource names. -/
def target (u : Url) : List Char :=
  u.path.text ++ marked '?' u.query

/-- A URL as text. -/
def text (u : Url) : List Char :=
  u.scheme.toList ++ ':' :: u.beforePath ++ u.target ++ marked '#' u.fragment

/-- The URL that a request carries: the user is left out if it can be told apart. -/
def carried (u : Url) : Url :=
  if u.user.any User.isSeparable then
    { u with authority := u.authority.map fun a => { a with user := none } }
  else u

/-- The schemes that share the web's rules, with the ports they imply. -/
def webSchemes : List (String × Option Nat) :=
  [("http", some 80), ("https", some 443), ("ws", some 80), ("wss", some 443), ("ftp", some 21),
    ("file", none)]

/-- Does a scheme follow the web's rules? -/
def isWebScheme (scheme : String) : Bool :=
  (webSchemes.lookup scheme).isSome

/-- The port that a scheme implies. -/
def impliedPort (scheme : String) : Option Nat :=
  (webSchemes.lookup scheme).bind id

/-- Can a URL be asked for over HTTP? It needs a scheme and a host for that, and room in
the request. -/
def isRequestable (u : Url) : Bool :=
  (u.scheme = "http" || u.scheme = "https") && u.text.length < 65535 &&
    match u.host with
    | some h => h.text.all fun c => c ∉ ['"', '\x60', '\x7b', '\x7d']
    | none => false

end Url

end TronWallet
