/-!
# Styled text

A terminal shows the text between a style's codes and a reset in that style. `Style.on`
writes a text that way. A reset inside the text would end the style early; `red` sets it
again after each.
-/

namespace TronWallet.Text

/-- How a terminal shows a text. -/
inductive Style where
  /-- Bold and underlined: a title. -/
  | heading
  /-- Bold: a word to be typed as it stands. -/
  | literal
  /-- Yellow: a word that is refused. -/
  | invalid
  /-- Red: a warning. -/
  | warning
  deriving DecidableEq

/-- The codes that set a style. -/
def Style.codes : Style → List Char
  | heading => ['\x1b', '[', '1', 'm', '\x1b', '[', '4', 'm']
  | literal => ['\x1b', '[', '1', 'm']
  | invalid => ['\x1b', '[', '3', '3', 'm']
  | warning => ['\x1b', '[', '3', '1', 'm']

/-- The code that ends every style. -/
def resetCode : List Char := ['\x1b', '[', '0', 'm']

/-- A text in a style. -/
def Style.on (style : Style) (s : String) : String :=
  String.ofList (style.codes ++ s.toList ++ resetCode)

/-- A text with a style set again after each reset. -/
def restyle (style : Style) : List Char → List Char
  | '\x1b' :: '[' :: '0' :: 'm' :: cs => resetCode ++ style.codes ++ restyle style cs
  | c :: cs => c :: restyle style cs
  | [] => []

/-- A text in red. -/
def red (cs : List Char) : List Char :=
  Style.warning.codes ++ restyle .warning cs ++ resetCode

end TronWallet.Text
