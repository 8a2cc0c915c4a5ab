import TronWallet.Base58
import TronWallet.Text.Decimal
import TronWallet.Text.Hex
import TronWallet.Text.Quoted
import TronWallet.Text.White

/-!
# Account addresses

An address is a 20 byte account hash. Its bytes are the network's leading byte `0x41`
followed by the hash, and its text is those bytes in checked base 58. White space
around a text is dropped before it is read; a refusal quotes the text as it was given.
-/

namespace TronWallet

/-- The address of an account, by its 20 byte hash. -/
structure Address where
  /-- The account hash. -/
  hash : List UInt8
  length_hash : hash.length = 20
  deriving DecidableEq

namespace Address

/-- The first byte of every address. -/
def leadingByte : UInt8 := 0x41

/-- The number of bytes of an address. -/
def byteCount : Nat := 21

/-- The leading byte and the account hash. -/
def bytes (a : Address) : List UInt8 :=
  leadingByte :: a.hash

@[simp] theorem length_bytes (a : Address) : a.bytes.length = byteCount := by
  simp [bytes, a.length_hash, byteCount]

/-- The text of an address, as characters. -/
def text (a : Address) : List Char :=
  Base58.encodeChecked a.bytes

/-- The text of an address. -/
def toBase58 (a : Address) : String :=
  String.ofList a.text

/-- The bytes of an address in lower case hexadecimal. -/
def toHex (a : Address) : String :=
  String.ofList (Text.Hex.ofBytes a.bytes)

/-- The text of an address marked as one. -/
def describe (a : Address) : String :=
  "Address(" ++ a.toBase58 ++ ")"

/-- Why bytes or a text are no address. -/
inductive Defect where
  | encoding (cause : Base58.Refusal)
  | byteCount (actual : Nat)
  | leadingByte (actual : UInt8)
  deriving DecidableEq

/-- A refused text and what is wrong with it. -/
structure Refusal where
  value : String
  defect : Defect
  deriving DecidableEq

/-- Reads the bytes of an address. -/
def ofBytes (bs : List UInt8) : Except Defect Address :=
  if h : bs.length = byteCount then
    if bs.head? = some leadingByte then
      .ok ⟨bs.tail, by simp [h, byteCount]⟩
    else .error (.leadingByte (bs.headD 0))
  else .error (.byteCount bs.length)

/-- Reads the text of an address, with white space around it. -/
def ofText (cs : List Char) : Except Defect Address := do
  let bs ← (Base58.decodeChecked (Text.trim cs)).mapError .encoding
  ofBytes bs

/-- Reads the text of an address, with white space around it. -/
def parse (s : String) : Except Refusal Address :=
  (ofText s.toList).mapError fun defect => ⟨s, defect⟩

/-- Bytes as decimal numbers in brackets. -/
def bytesList (bs : List UInt8) : String :=
  "[" ++ ", ".intercalate (bs.map fun b => Text.Decimal.natString b.toNat) ++ "]"

/-- The wording of a refused base 58 text. -/
def encodingMessage : Base58.Refusal → String
  | .nonAscii i =>
    "provided string contained non-ascii character starting at byte " ++ Text.Decimal.natString i
  | .badCharacter c i =>
    "provided string contained invalid character " ++ String.ofList (Text.quotedChar c) ++
      " at byte " ++ Text.Decimal.natString i
  | .tooShort => "provided string is too small to contain a checksum"
  | .badChecksum calculated expected =>
    "invalid checksum, calculated checksum: '" ++ bytesList calculated ++
      "', expected checksum: " ++ bytesList expected

/-- The wording of a defect. -/
def Defect.message : Defect → String
  | .encoding cause => encodingMessage cause
  | .byteCount n =>
    "expected " ++ Text.Decimal.natString Address.byteCount ++ " bytes, got " ++
      Text.Decimal.natString n
  | .leadingByte b => "unexpected prefix byte 0x" ++ String.ofList (Text.Hex.ofByte b)

/-- The wording of a refusal. -/
def Refusal.message (r : Refusal) : String :=
  "invalid address " ++ r.value ++ ": " ++ r.defect.message

end Address

end TronWallet
