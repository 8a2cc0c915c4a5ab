import TronWallet.Text.Hex
import TronWallet.Text.Utf8

/-!
# Escaped characters of a URL

A character that a part of a URL may not hold is written as its UTF-8 bytes, each as a
percent sign and two upper case hexadecimal digits. Which characters these are depends on
the part. A percent sign itself is never escaped, so a text that is escaped already stays
as it is.
-/

namespace TronWallet.Url

/-- A byte as a percent sign and two digits. -/
def escapeByte (b : UInt8) : List Char :=
  '%' :: (Text.Hex.ofByte b).map Char.toUpper

/-- A text with the reserved characters escaped. -/
def escape (reserved : Char → Bool) (cs : List Char) : List Char :=
  cs.flatMap fun c => if reserved c then (Text.utf8 [c]).flatMap escapeByte else [c]

/-- The bytes of a text, where a percent sign with two digits stands for one byte. -/
def unescape : List Char → List UInt8
  | [] => []
  | '%' :: high :: low :: cs =>
    match Text.Hex.value? high, Text.Hex.value? low with
    | some h, some l => UInt8.ofNat (16 * h + l) :: unescape cs
    | _, _ => Text.utf8 ['%'] ++ unescape (high :: low :: cs)
  | c :: cs => Text.utf8 [c] ++ unescape cs

/-- A text with its escaped bytes taken for themselves; none if they are no UTF-8. -/
def unescaped? (cs : List Char) : Option (List Char) :=
  if '%' ∈ cs then (String.fromUTF8? ⟨(unescape cs).toArray⟩).map String.toList else some cs

/-- Control characters and those beyond ASCII, which every part reserves. -/
def reservedAlways (c : Char) : Bool :=
  c.toNat < 0x20 || 0x7e < c.toNat

/-- The characters reserved in a fragment. -/
def reservedInFragment (c : Char) : Bool :=
  reservedAlways c || c ∈ [' ', '"', '<', '>', '\x60']

/-- The characters reserved in a segment of a path. -/
def reservedInPath (c : Char) : Bool :=
  reservedInFragment c || c ∈ ['#', '?', '\x7b', '\x7d']

/-- The characters reserved in the name of a user and in a password. -/
def reservedInUser (c : Char) : Bool :=
  reservedInPath c || c ∈ ['/', ':', ';', '=', '@', '[', '\\', ']', '^', '|']

/-- The characters reserved in a query. -/
def reservedInQuery (c : Char) : Bool :=
  reservedAlways c || c ∈ [' ', '"', '#', '<', '>']

/-- The characters reserved in a query of one of the web's own schemes. -/
def reservedInWebQuery (c : Char) : Bool :=
  reservedInQuery c || c = '\''

@[simp] theorem escape_nil (reserved : Char → Bool) : escape reserved [] = [] := rfl

theorem escape_cons (reserved : Char → Bool) (c : Char) (cs : List Char) :
    escape reserved (c :: cs) =
      (if reserved c then (Text.utf8 [c]).flatMap escapeByte else [c]) ++ escape reserved cs := rfl

@[simp] theorem escape_append (reserved : Char → Bool) (cs ds : List Char) :
    escape reserved (cs ++ ds) = escape reserved cs ++ escape reserved ds := by
  simp [escape]

end TronWallet.Url
