import TronWallet.Text.Split
import TronWallet.Url

/-!
# Reading URLs

`Url.parse?` reads a URL that stands for itself, without another one that it is relative
to. White space around it and line breaks within it are dropped. For the web's schemes a
backslash counts as a slash and there is always a host, but for files, where a drive may
take its place. Dot segments take effect on the path when it is read.
-/

namespace TronWallet.Url

/-- May the character stand in a scheme after its first letter? -/
def inScheme (c : Char) : Bool :=
  c.isAlphanum || c ∈ ['+', '-', '.']

/-- The scheme, in lower case, and what follows its colon. -/
def readScheme? (cs : List Char) : Option (String × List Char) :=
  match cs.takeWhile inScheme, cs.dropWhile inScheme with
  | c :: scheme, ':' :: rest =>
    if c.isAlpha then some (String.ofList ((c :: scheme).map Char.toLower), rest) else none
  | _, _ => none

/-- A text without the control characters and blanks around it, and without tabs and line
breaks. -/
def tidy (cs : List Char) : List Char :=
  let blank (c : Char) : Bool := c ≤ ' '
  let inner := ((cs.dropWhile blank).reverse.dropWhile blank).reverse
  inner.filter fun c => c ∉ ['\t', '\n', '\r']

/-- The path after an authority. -/
def readPath (web : Bool) : List Char → Path
  | [] => .segments (if web then [[]] else [])
  | '/' :: rest => .segments (Path.readSegments false rest)
  | rest => .segments (Path.readSegments false rest)

/-! ## Authorities -/

/-- The user before the last at sign of an authority, and the rest of it. An at sign needs
something around it. -/
def cutUser? (cs : List Char) : Option (Option User × List Char) :=
  if cs = ['@'] then none
  else if '@' ∈ cs then
    let rest := (cs.reverse.takeWhile (· ≠ '@')).reverse
    some (User.read? (cs.take (cs.length - rest.length - 1)), rest)
  else some (none, cs)

/-- The host of an authority and what follows the colon after it. A colon in brackets
belongs to the host. -/
def cutPort : Bool → List Char → List Char × Option (List Char)
  | _, [] => ([], none)
  | bracketed, c :: cs =>
    if c = ':' ∧ !bracketed then ([], some cs)
    else
      let inside := if c = '[' then true else if c = ']' then false else bracketed
      let (host, port) := cutPort inside cs
      (c :: host, port)

/-- The port of a scheme; none for the one the scheme implies. -/
def readPort? (scheme : String) : Option (List Char) → Option (Option Nat)
  | none | some [] => some none
  | some cs => do
    let port ← (Text.Decimal.toNat? cs).filter (· < UInt16.size)
    return if impliedPort scheme = some port then none else some port

/-- Reads an authority, and returns what does not belong to it: a backslash ends a port. -/
def readAuthority? (scheme : String) (cs : List Char) : Option (Authority × List Char) := do
  let (user, place) ← cutUser? cs
  let (host, port) := cutPort false place
  if host = [] then
    if isWebScheme scheme ∨ user.isSome ∨ port.isSome then none else some (.empty, [])
  else
    let h ← if isWebScheme scheme then Host.parse? host else Host.parseOpaque? host
    let number ← readPort? scheme (port.map (·.takeWhile (· ≠ '\\')))
    return (⟨user, some h, number⟩, (port.getD []).dropWhile (· ≠ '\\'))

/-! ## Whole URLs -/

/-- The text up to a mark, and what follows the mark if there is one. -/
def cut (mark : Char) (cs : List Char) : List Char × Option (List Char) :=
  (cs.takeWhile (· ≠ mark),
    match cs.dropWhile (· ≠ mark) with
    | [] => none
    | _ :: rest => some rest)

/-- The authority and the path of a file's URL that has no host. -/
def localFile (cs : List Char) : Authority × Path :=
  (.empty, .segments (Path.dropEmpty (Path.readSegments true cs)))

/-- The authority and the path of a file's URL. A drive has no host. -/
def readFilePlace? : List Char → Option (Authority × Path)
  | '/' :: '/' :: cs =>
    let name := cs.takeWhile (· ≠ '/')
    let rest := cs.dropWhile (· ≠ '/')
    if Path.isDrive name then some (localFile cs)
    else if name = [] then some (localFile rest)
    else do
      let host ← Host.parse? name
      let segments := Path.readSegments true (rest.drop 1)
      if host = .name "localhost".toList then return localFile rest
      else if segments.head?.any Path.isDrive then return (.empty, .segments segments)
      else return (⟨none, some host, none⟩, .segments (Path.dropEmpty segments))
  | '/' :: cs => some (localFile cs)
  | cs => some (localFile cs)

/-- The authority and the path after the slashes before them. -/
def readPlace? (scheme : String) (cs : List Char) : Option (Authority × Path) := do
  let (authority, rest) ← readAuthority? scheme (cs.takeWhile (· ≠ '/'))
  return (authority, readPath (isWebScheme scheme) (rest ++ cs.dropWhile (· ≠ '/')))

/-- The authority, if there is one, and the path. -/
def readHierarchy? (scheme : String) (cs : List Char) : Option (Option Authority × Path) :=
  if scheme = "file" then
    (readFilePlace? (cs.map fun c => if c = '\\' then '/' else c)).map fun (a, p) => (some a, p)
  else if isWebScheme scheme then
    let slashed := cs.map fun c => if c = '\\' then '/' else c
    (readPlace? scheme (slashed.dropWhile (· = '/'))).map fun (a, p) => (some a, p)
  else
    match cs with
    | '/' :: '/' :: rest => (readPlace? scheme rest).map fun (a, p) => (some a, p)
    | '/' :: rest => some (none, .segments (Path.readSegments false rest))
    | rest => some (none, .rootless (escape reservedAlways rest))

/-- Reads a URL. -/
def parse? (source : String) : Option Url := do
  let (scheme, rest) ← readScheme? (tidy source.toList)
  let (beforeFragment, fragment) := cut '#' rest
  let (hierarchy, query) := cut '?' beforeFragment
  let (authority, path) ← readHierarchy? scheme hierarchy
  let reserved := if isWebScheme scheme then reservedInWebQuery else reservedInQuery
  return {
    scheme := scheme
    authority := authority
    path := path
    query := query.map (escape reserved)
    fragment := fragment.map (escape reservedInFragment) }

end TronWallet.Url
