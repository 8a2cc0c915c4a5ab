import TronWallet.Text.Hex

/-!
# TOML strings

A TOML string has four forms: basic ones between quotes, in which characters can be
escaped, and literal ones between apostrophes, in which they cannot; each on one line or,
between triple delimiters, on several. Writing takes the first form in which a text needs
no escape, and a form with escapes where there is none (`write`). Reading (`read`)
accepts every form. Keys use the forms of one line (`writeKey`, `readKeyPart`).
-/

namespace TronWallet.Toml

/-! ## Characters -/

/-- Blanks within a line. -/
def isBlank (c : Char) : Bool :=
  c = ' ' || c = '\t'

/-- May the character stand in a comment? All but control characters other than the tab. -/
def isCommentChar (c : Char) : Bool :=
  c = '\t' || (0x20 ≤ c.toNat && c.toNat ≠ 0x7f)

/-- May the character stand unescaped in a basic string? -/
def isBasicChar (c : Char) : Bool :=
  isCommentChar c && c ≠ '"' && c ≠ '\\'

/-- May the character stand in a literal string? -/
def isLiteralChar (c : Char) : Bool :=
  isCommentChar c && c ≠ '\''

/-- May the character stand in a key without quotes? -/
def isBareChar (c : Char) : Bool :=
  ('A' ≤ c && c ≤ 'Z') || ('a' ≤ c && c ≤ 'z') || ('0' ≤ c && c ≤ '9') || c = '_' || c = '-'

/-- Is the character one that only an escape can write, a line break aside? -/
def needsEscape (c : Char) : Bool :=
  !isCommentChar c && c ≠ '\n'

/-! ## Writing -/

/-- The length of the longest run of a character. -/
def longestRun (x : Char) : List Char → Nat → Nat → Nat
  | [], _, longest => longest
  | c :: cs, run, longest =>
    if c = x then longestRun x cs (run + 1) (max longest (run + 1)) else longestRun x cs 0 longest

/-- The forms of a string. -/
inductive Form where
  | basic
  | literal
  | basicLines
  | literalLines
  deriving DecidableEq

/-- The form in which a text is written. -/
def formOf (cs : List Char) : Form :=
  let quotes := longestRun '"' cs 0 0
  let apostrophes := longestRun '\'' cs 0 0
  let controls := cs.any needsEscape
  let lines := cs.any (· = '\n')
  let backslash := cs.any (· = '\\')
  if !controls && !backslash && quotes = 0 && !lines then .basic
  else if !controls && apostrophes = 0 && !lines then .literal
  else if !controls && !backslash && quotes ≤ 2 then .basicLines
  else if !controls && apostrophes ≤ 2 then .literalLines
  else if lines then .basicLines
  else .basic

/-- An upper case hexadecimal digit. -/
def upperDigit (n : Nat) : Char :=
  if n < 10 then Char.ofNat (48 + n) else Char.ofNat (55 + n)

/-- A control character by its code point. -/
def controlEscape (c : Char) : List Char :=
  ['\\', 'u', '0', '0', upperDigit (c.toNat / 16), upperDigit (c.toNat % 16)]

/-- A character of a basic string that is no quote and, on several lines, no line break. -/
def escapeBasic (c : Char) : List Char :=
  if c = '\x08' then ['\\', 'b']
  else if c = '\t' then ['\\', 't']
  else if c = '\n' then ['\\', 'n']
  else if c = '\x0c' then ['\\', 'f']
  else if c = '\r' then ['\\', 'r']
  else if c = '\\' then ['\\', '\\']
  else if needsEscape c then controlEscape c
  else [c]

/-- The characters of a basic string. `allowed` quotes in a row stand unescaped, of which
`run` have just been written; `lines` tells whether a line break stands unescaped. -/
def basicBody (allowed : Nat) (lines : Bool) : Nat → List Char → List Char
  | _, [] => []
  | run, c :: cs =>
    if c = '"' then
      if run < allowed then '"' :: basicBody allowed lines (run + 1) cs
      else '\\' :: '"' :: basicBody allowed lines 0 cs
    else if c = '\n' && lines then '\n' :: basicBody allowed lines 0 cs
    else escapeBasic c ++ basicBody allowed lines 0 cs

/-- The line break after an opening delimiter of three. -/
def openingBreak (cs : List Char) : List Char :=
  if cs.any (· = '\n') then ['\n'] else []

/-- A text in a form. -/
def writeAs (form : Form) (cs : List Char) : List Char :=
  match form with
  | .basic => '"' :: basicBody 0 false 0 cs ++ ['"']
  | .literal => '\'' :: cs ++ ['\'']
  | .basicLines => ['"', '"', '"'] ++ openingBreak cs ++ basicBody 2 true 0 cs ++ ['"', '"', '"']
  | .literalLines => ['\'', '\'', '\''] ++ openingBreak cs ++ cs ++ ['\'', '\'', '\'']

/-- Writes a text as a string. -/
def write (cs : List Char) : List Char :=
  writeAs (formOf cs) cs

/-- Writes a text as a key: bare if it can be, and else as a string of one line. -/
def writeKey (cs : List Char) : List Char :=
  let controls := cs.any fun c => !isCommentChar c
  let escapes := cs.any fun c => c = '"' || c = '\\'
  if cs ≠ [] ∧ cs.all isBareChar then cs
  else if !controls && !escapes then writeAs .basic cs
  else if !controls && !cs.any (· = '\'') then writeAs .literal cs
  else writeAs .basic cs

/-! ## Reading -/

/-- The character of a code point in hexadecimal, and the text after its `count` digits. -/
def readCodePoint (count : Nat) (cs : List Char) : Option (Char × List Char) :=
  let digits := cs.take count
  if digits.length = count then
    match Text.Hex.toNat? digits with
    | some n => if n.isValidChar then some (Char.ofNat n, cs.drop count) else none
    | none => none
  else none

/-- The character of an escape after its backslash, and the text after it. -/
def readEscape : List Char → Option (Char × List Char)
  | 'b' :: rest => some ('\x08', rest)
  | 't' :: rest => some ('\t', rest)
  | 'n' :: rest => some ('\n', rest)
  | 'f' :: rest => some ('\x0c', rest)
  | 'r' :: rest => some ('\r', rest)
  | '"' :: rest => some ('"', rest)
  | '\\' :: rest => some ('\\', rest)
  | 'u' :: rest => readCodePoint 4 rest
  | 'U' :: rest => readCodePoint 8 rest
  | _ => none

/-- A line break at the beginning: the text after it. -/
def lineBreak? : List Char → Option (List Char)
  | '\n' :: rest => some rest
  | '\r' :: '\n' :: rest => some rest
  | _ => none

/-- Without the blanks and line breaks at the beginning. -/
def skipLines : List Char → List Char
  | '\r' :: '\n' :: rest => skipLines rest
  | c :: rest => if isBlank c || c = '\n' then skipLines rest else c :: rest
  | [] => []

/-- The text after the line break that follows, blanks aside, and all blanks and line
breaks after it. -/
def continuation? (cs : List Char) : Option (List Char) :=
  (lineBreak? (cs.dropWhile isBlank)).map skipLines

/-- The rest of a basic string of one line. The first argument bounds its length. -/
def readBasic : Nat → List Char → Option (List Char × List Char)
  | 0, _ => none
  | bound + 1, cs =>
    match cs with
    | [] => none
    | '"' :: rest => some ([], rest)
    | '\\' :: rest => do
      let (c, rest) ← readEscape rest
      let (s, rest) ← readBasic bound rest
      return (c :: s, rest)
    | c :: rest => do
      guard (isBasicChar c)
      let (s, rest) ← readBasic bound rest
      return (c :: s, rest)

/-- The rest of a literal string of one line. -/
def readLiteral : List Char → Option (List Char × List Char)
  | [] => none
  | '\'' :: rest => some ([], rest)
  | c :: rest => do
    guard (isLiteralChar c)
    let (s, rest) ← readLiteral rest
    return (c :: s, rest)

/-- The end of a string on several lines after three delimiters: up to two more of them
belong to the string. -/
def closeLines (delimiter : Char) (cs : List Char) : List Char × List Char :=
  match cs with
  | c :: d :: rest =>
    if c = delimiter then
      if d = delimiter then ([c, d], rest) else ([c], d :: rest)
    else ([], cs)
  | [c] => if c = delimiter then ([c], []) else ([], [c])
  | [] => ([], [])

/-- The rest of a basic string on several lines. The first argument bounds its length. -/
def readBasicLines : Nat → List Char → Option (List Char × List Char)
  | 0, _ => none
  | bound + 1, cs =>
    match cs with
    | [] => none
    | '"' :: '"' :: '"' :: rest => some (closeLines '"' rest)
    | '\\' :: rest =>
      match continuation? rest with
      | some rest => readBasicLines bound rest
      | none => do
        let (c, rest) ← readEscape rest
        let (s, rest) ← readBasicLines bound rest
        return (c :: s, rest)
    | '\r' :: '\n' :: rest => do
      let (s, rest) ← readBasicLines bound rest
      return ('\n' :: s, rest)
    | c :: rest => do
      guard (isBasicChar c || c = '"' || c = '\n')
      let (s, rest) ← readBasicLines bound rest
      return (c :: s, rest)

/-- The rest of a literal string on several lines. -/
def readLiteralLines : List Char → Option (List Char × List Char)
  | [] => none
  | '\'' :: '\'' :: '\'' :: rest => some (closeLines '\'' rest)
  | '\r' :: '\n' :: rest => do
    let (s, rest) ← readLiteralLines rest
    return ('\n' :: s, rest)
  | c :: rest => do
    guard (isLiteralChar c || c = '\'' || c = '\n')
    let (s, rest) ← readLiteralLines rest
    return (c :: s, rest)

/-- Without the line break that may follow an opening delimiter of three. -/
def skipOpeningBreak (cs : List Char) : List Char :=
  (lineBreak? cs).getD cs

/-- Reads a string and returns the text after it. -/
def read (cs : List Char) : Option (List Char × List Char) :=
  match cs with
  | '"' :: '"' :: '"' :: rest => readBasicLines (rest.length + 1) (skipOpeningBreak rest)
  | '"' :: rest => readBasic (rest.length + 1) rest
  | '\'' :: '\'' :: '\'' :: rest => readLiteralLines (skipOpeningBreak rest)
  | '\'' :: rest => readLiteral rest
  | _ => none

/-- Reads one part of a key and returns the text after it. -/
def readKeyPart (cs : List Char) : Option (String × List Char) :=
  match cs with
  | '"' :: rest => (readBasic (rest.length + 1) rest).map fun r => (String.ofList r.1, r.2)
  | '\'' :: rest => (readLiteral rest).map fun r => (String.ofList r.1, r.2)
  | _ =>
    let bare := cs.takeWhile isBareChar
    if bare = [] then none else some (String.ofList bare, cs.dropWhile isBareChar)

end TronWallet.Toml
