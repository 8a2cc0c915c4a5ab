import TronWallet.Text.GraphemeExtend
import TronWallet.Text.Hex
import TronWallet.Text.Printable

/-!
# Quoted text in messages

Messages show foreign text between quotes, so that its ends are visible and nothing
in it disturbs the terminal. Within double quotes the quote and the backslash are
escaped, NUL, tab, line feed and carriage return have letter escapes, and every
other character that is unprintable or would merge with the one before it is written
by its code point. A single character stands between apostrophes, where the
apostrophe is escaped in place of the double quote.
-/

namespace TronWallet.Text

/-- A character by its code point, as in `\u{301}`. -/
def codePointEscape (c : Char) : List Char :=
  ['\\', 'u', '\x7b'] ++ Hex.ofNat c.toNat ++ ['\x7d']

/-- One character of a quoted text whose delimiter is `quote`. -/
def escapeWithin (quote c : Char) : List Char :=
  if c = '\x00' then ['\\', '0']
  else if c = '\t' then ['\\', 't']
  else if c = '\r' then ['\\', 'r']
  else if c = '\n' then ['\\', 'n']
  else if c = '\\' || c = quote then ['\\', c]
  else if (extendsGrapheme c && !isHalfwidthMark c) || !isPrintable c then codePointEscape c
  else [c]

/-- A text between double quotes. -/
def quoted (cs : List Char) : List Char :=
  '"' :: cs.flatMap (escapeWithin '"') ++ ['"']

/-- A character between apostrophes. -/
def quotedChar (c : Char) : List Char :=
  '\'' :: escapeWithin '\'' c ++ ['\'']

/-- `quoted` on strings. -/
def quotedString (s : String) : String :=
  String.ofList (quoted s.toList)

end TronWallet.Text
