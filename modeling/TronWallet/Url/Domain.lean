import TronWallet.Text.Split
import TronWallet.Url.Domain.Direction
import TronWallet.Url.Domain.Joining
import TronWallet.Url.Domain.Replacement
import TronWallet.Url.Punycode

/-!
# Domain names

A domain name is a sequence of labels with dots between them. It can hold characters beyond
ASCII, but on the wire it is ASCII: `Domain.toAscii?` replaces what the standard mapping
replaces, composes the characters, and encodes each label that is not ASCII then. A label
that comes encoded has to stand for one that could have been written out.
-/

namespace TronWallet.Url.Domain

open TronWallet.Text

/-- A label: in ASCII, and with the characters that it stands for. -/
structure Label where
  written : List Char
  meant : List Char
  deriving DecidableEq

/-- The start of every encoded label. -/
def encodedMark : List Char := ['x', 'n', '-', '-']

/-- The greatest number of characters of a label that is to be encoded. -/
def lengthLimit : Nat := 1000

/-- The greatest number of characters of an encoded label after its mark. -/
def encodedLimit : Nat := 2000

/-- Is every character an ASCII character? -/
def isAscii (cs : List Char) : Bool :=
  cs.all fun c => c.toNat < 0x80

/-- Does a label begin with no mark, and are its joiners where they may be? -/
def isReadable (label : List Char) : Bool :=
  !(label.head?).any isMark && joinersAllowed [] label

/-- Could a label have been written out, so that encoding is needed and nothing is replaced
in it? -/
def isCanonical (label : List Char) : Bool :=
  !isAscii label && (label.all fun c => fate c = .kept) && composed label = label &&
    !encodedMark.isPrefixOf label

/-- Reads an encoded label. -/
def readEncoded? (label : List Char) : Option Label := do
  let encoded := label.drop encodedMark.length
  guard (encoded.length ≤ encodedLimit)
  let meant ← Punycode.decode? encoded
  guard (isCanonical meant && isReadable meant)
  return ⟨label, meant⟩

/-- Reads a label. -/
def readLabel? (label : List Char) : Option Label :=
  if encodedMark.isPrefixOf label then
    if isAscii label then readEncoded? label else none
  else if isAscii label then some ⟨label, label⟩
  else if label.length ≤ lengthLimit && isReadable label then
    some ⟨encodedMark ++ Punycode.encode label, label⟩
  else none

/-- The labels of a domain name. -/
def labels? (cs : List Char) : Option (List Label) := do
  let replaced ← replaceAll? cs
  (split '.' (composed replaced)).mapM readLabel?

/-- A domain name in ASCII. If a part of it is written from right to left, every label has
to be readable without doubt. -/
def toAscii? (cs : List Char) : Option (List Char) := do
  let labels ← labels? cs
  guard (!(labels.any fun l => hasRight l.meant) || labels.all fun l => isClear l.meant)
  return List.intercalate ['.'] (labels.map (·.written))

end TronWallet.Url.Domain
