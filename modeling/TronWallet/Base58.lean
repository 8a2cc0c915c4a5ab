import TronWallet.Digest.Sha256
import TronWallet.Text.Positional

/-!
# Base 58 with a checksum

Bytes are read as a number in base 256 and written in base 58 with an alphabet that
leaves out look-alikes; each leading zero byte becomes one leading `1`, which the
number alone would lose. The checked form appends the first four bytes of the double
SHA-256 digest before writing, and reading it verifies and drops them. The causes of
refusal are values of `Base58.Refusal`; positions are counted in bytes.
-/

namespace TronWallet.Base58

open Digest

/-- The digits in ascending order. -/
def alphabet : List Char :=
  "123456789ABCDEFGHJKLMNPQRSTUVWXYZabcdefghijkmnopqrstuvwxyz".toList

/-- Why a text is no checked base 58 text. -/
inductive Refusal where
  /-- A character outside ASCII. -/
  | nonAscii (position : Nat)
  /-- An ASCII character outside the alphabet. -/
  | badCharacter (character : Char) (position : Nat)
  /-- Fewer than the four bytes of a checksum. -/
  | tooShort
  /-- The last four bytes are not the checksum of the others. -/
  | badChecksum (calculated expected : List UInt8)
  deriving DecidableEq

/-- The digit of a value below 58. -/
def digitChar (d : Nat) : Char :=
  alphabet.getD d '1'

/-- The value of a digit. -/
def digitValue? (c : Char) : Option Nat :=
  alphabet.idxOf? c

/-- How many elements at the head of a list equal `x`. -/
def leading {α : Type} [DecidableEq α] (x : α) (xs : List α) : Nat :=
  (xs.takeWhile (· = x)).length

/-- The number that bytes stand for, most significant first. -/
def bytesValue (bs : List UInt8) : Nat :=
  Text.Positional.value 256 (bs.map UInt8.toNat)

/-- The shortest bytes of a number, most significant first. -/
def valueBytes (n : Nat) : List UInt8 :=
  (Text.Positional.digits 256 n).map UInt8.ofNat

/-- Writes bytes in base 58. -/
def encode (bs : List UInt8) : List Char :=
  List.replicate (leading 0 bs) '1' ++ (Text.Positional.digits 58 (bytesValue bs)).map digitChar

/-- The values of the digits, or the first character that is none. The first argument
is the position of the text's first character. -/
def digitValues : Nat → List Char → Except Refusal (List Nat)
  | _, [] => .ok []
  | i, c :: cs =>
    if 0x7f < c.toNat then .error (.nonAscii i)
    else match digitValue? c with
      | none => .error (.badCharacter c i)
      | some d => (digitValues (i + 1) cs).map (d :: ·)

/-- Reads the bytes of a base 58 text. -/
def decode (cs : List Char) : Except Refusal (List UInt8) :=
  (digitValues 0 cs).map fun ds =>
    List.replicate (leading 0 ds) 0 ++ valueBytes (Text.Positional.value 58 ds)

/-- The first four bytes of the double SHA-256 digest. -/
def checksum (bs : List UInt8) : List UInt8 :=
  (sha256 (sha256 bs)).take 4

/-- Writes bytes followed by their checksum. -/
def encodeChecked (payload : List UInt8) : List Char :=
  encode (payload ++ checksum payload)

/-- Reads a checked text and returns its bytes without the checksum. -/
def decodeChecked (cs : List Char) : Except Refusal (List UInt8) := do
  let bs ← decode cs
  if bs.length < 4 then throw .tooShort
  let payload := bs.take (bs.length - 4)
  let expected := bs.drop (bs.length - 4)
  if checksum payload = expected then return payload
  throw (.badChecksum (checksum payload) expected)

@[simp] theorem length_checksum (bs : List UInt8) : (checksum bs).length = 4 := by
  simp [checksum]

end TronWallet.Base58
