import TronWallet.Text.Decimal
import TronWallet.Text.Split
import TronWallet.Url.Domain
import TronWallet.Url.Escape

/-!
# Hosts of a URL

A host of the web is a domain name, an IPv4 address or, in brackets, an IPv6 address; a
host of another scheme that is no IPv6 address is a text of its own. A name whose last
part is a number must be an IPv4 address, which may leave out parts and may be written in
base 8 or 16. Names are in ASCII.
-/

namespace TronWallet.Url

/-- A host. -/
inductive Host where
  | name (text : List Char)
  | ipv4 (value : Nat)
  /-- The eight numbers of 16 bits, the first one first. -/
  | ipv6 (pieces : List Nat)
  deriving DecidableEq

namespace Host

/-! ## IPv4 -/

/-- The value of digits in a base. -/
def numeral? (base : Nat) (cs : List Char) : Option Nat :=
  cs.foldlM (fun n c => ((Text.Hex.value? c).filter (· < base)).map (base * n + ·)) 0

/-- A part of an IPv4 address: hexadecimal after `0x`, octal after `0`, else decimal. -/
def ipv4Part? : List Char → Option Nat
  | [] => none
  | ['0'] => some 0
  | '0' :: 'x' :: cs | '0' :: 'X' :: cs => numeral? 16 cs
  | '0' :: cs => numeral? 8 cs
  | cs => numeral? 10 cs

/-- The parts of a name between its dots; one dot at the end counts for nothing. -/
def dotted (cs : List Char) : List (List Char) :=
  let parts := Text.split '.' cs
  if 1 < parts.length ∧ parts.getLast? = some [] then parts.dropLast else parts

/-- Is the last part of a name a number? -/
def endsInNumber (cs : List Char) : Bool :=
  match (dotted cs).getLast? with
  | some part => (part ≠ [] && part.all Text.Decimal.isDigit) || (ipv4Part? part).isSome
  | none => false

/-- The address of one to four numbers: the last one fills the bytes that the others leave. -/
def ipv4OfNumbers? (ns : List Nat) : Option Nat :=
  match ns.getLast? with
  | none => none
  | some last =>
    let front := ns.dropLast
    if front.length ≤ 3 ∧ front.all (· < 256) ∧ last < Nat.pow 256 (4 - front.length) then
      some (front.foldl (fun n byte => 256 * n + byte) 0 * Nat.pow 256 (4 - front.length) + last)
    else none

/-- Reads an IPv4 address. -/
def ipv4? (cs : List Char) : Option Nat := do
  ipv4OfNumbers? (← (dotted cs).mapM ipv4Part?)

/-- The text of an IPv4 address. -/
def ipv4Text (n : Nat) : List Char :=
  List.intercalate ['.'] ([n / 0x1000000, n / 0x10000 % 256, n / 0x100 % 256, n % 256].map
    Text.Decimal.ofNat)

/-! ## IPv6 -/

/-- A piece of an IPv6 address: one to four hexadecimal digits. -/
def ipv6Piece? (cs : List Char) : Option Nat :=
  if 0 < cs.length ∧ cs.length ≤ 4 then Text.Hex.toNat? cs else none

/-- A byte of an IPv4 address inside an IPv6 address: decimal, without leading zeros. -/
def plainByte? (cs : List Char) : Option Nat :=
  ((Text.Decimal.toNat? cs).filter (· < 256)).filter fun n => Text.Decimal.ofNat n = cs

/-- The two pieces of an IPv4 address inside an IPv6 address. -/
def embeddedPieces? (cs : List Char) : Option (List Nat) :=
  match (Text.split '.' cs).mapM plainByte? with
  | some [a, b, c, d] => some [256 * a + b, 256 * c + d]
  | _ => none

/-- The pieces between colons, of which the last may be an IPv4 address if `mayEmbed`. -/
def ipv6Pieces? (mayEmbed : Bool) : List (List Char) → Option (List Nat)
  | [] => some []
  | [part] =>
    if mayEmbed && '.' ∈ part then embeddedPieces? part else (ipv6Piece? part).map ([·])
  | part :: parts => do
    return (← ipv6Piece? part) :: (← ipv6Pieces? mayEmbed parts)

/-- The texts before and after the first two colons in a row. -/
def cutDoubleColon : List Char → Option (List Char × List Char)
  | ':' :: ':' :: cs => some ([], cs)
  | c :: cs => (cutDoubleColon cs).map fun (before, after) => (c :: before, after)
  | [] => none

/-- The parts between colons of a text that may be empty. -/
def colonParts (cs : List Char) : List (List Char) :=
  if cs = [] then [] else Text.split ':' cs

/-- Reads an IPv6 address, where two colons stand for one or more pieces of zero. -/
def ipv6? (cs : List Char) : Option (List Nat) :=
  match cutDoubleColon cs with
  | none => (ipv6Pieces? true (colonParts cs)).filter (·.length = 8)
  | some (before, after) => do
    let front ← ipv6Pieces? false (colonParts before)
    let back ← ipv6Pieces? true (colonParts after)
    let count := front.length + back.length
    if count < 8 then some (front ++ List.replicate (8 - count) 0 ++ back) else none

/-- The number of zeros at the start. -/
def zeros (pieces : List Nat) : Nat :=
  (pieces.takeWhile (· = 0)).length

/-- The greatest number of zeros in a row. -/
def longestZeros : List Nat → Nat
  | [] => 0
  | p :: ps => max (zeros (p :: ps)) (longestZeros ps)

/-- Pieces with colons between them. -/
def piecesText (pieces : List Nat) : List Char :=
  List.intercalate [':'] (pieces.map Text.Hex.ofNat)

/-- Pieces with the first row of `run` zeros cut to two colons; `before` are the pieces
before, last one first. -/
def compressedText (run : Nat) (before : List Nat) : List Nat → List Char
  | [] => piecesText before.reverse
  | p :: ps =>
    if zeros (p :: ps) = run then
      piecesText before.reverse ++ ':' :: ':' :: piecesText ((p :: ps).drop run)
    else compressedText run (p :: before) ps

/-- The text of an IPv6 address without brackets; its longest row of zeros is cut to two
colons if it has more than one. -/
def ipv6Text (pieces : List Nat) : List Char :=
  if 1 < longestZeros pieces then compressedText (longestZeros pieces) [] pieces
  else piecesText pieces

/-! ## Names -/

/-- The characters that no host may hold. -/
def forbidden (c : Char) : Bool :=
  c ∈ ['\x00', '\t', '\n', '\r', ' ', '#', '/', ':', '<', '>', '?', '@', '[', '\\', ']', '^', '|']

/-- The characters that no domain name may hold. -/
def forbiddenInName (c : Char) : Bool :=
  forbidden c || c = '%' || c.toNat < 0x20 || c = '\x7f'

/-- Reads an IPv6 address in brackets, without the first one. -/
def bracketed? (cs : List Char) : Option Host :=
  if cs.getLast? = some ']' then (ipv6? cs.dropLast).map .ipv6 else none

/-- Reads a host of one of the web's schemes. -/
def parse? : List Char → Option Host
  | '[' :: cs => bracketed? cs
  | cs => do
    let name ← Domain.toAscii? (← unescaped? cs)
    if name = [] ∨ name.any forbiddenInName then none
    else if endsInNumber name then (ipv4? name).map .ipv4
    else some (.name name)

/-- Reads a host of another scheme. -/
def parseOpaque? : List Char → Option Host
  | '[' :: cs => bracketed? cs
  | cs => if cs.any forbidden then none else some (.name (escape reservedAlways cs))

/-- The text of a host. -/
def text : Host → List Char
  | name cs => cs
  | ipv4 n => ipv4Text n
  | ipv6 pieces => '[' :: ipv6Text pieces ++ [']']

end Host

end TronWallet.Url
