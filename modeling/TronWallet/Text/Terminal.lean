/-!
# Text without terminal control

Messages may quote what a user typed. `plain` is a text as a terminal that obeys no
control sequence shows it: control characters other than blanks are dropped, and so are
escape sequences, from the escape character to the character that ends them.
`firstLine` is the text up to its first line break.
-/

namespace TronWallet.Text

/-- Where in an escape sequence a character stands. -/
inductive ControlState where
  | ground
  /-- After an escape character. -/
  | escape
  /-- After an escape character and an intermediate one. -/
  | intermediate
  /-- In a control sequence, which a letter ends. -/
  | sequence
  /-- In an operating system command, which a bell ends. -/
  | command
  /-- At the start of a device control string. -/
  | device
  /-- In the parameters of a device control string. -/
  | deviceParameter
  /-- After the parameters of a device control string. -/
  | deviceIntermediate
  /-- In a string that a terminator ends. -/
  | string
  deriving DecidableEq

/-- Is the character one of the ASCII blanks that stay in a text? -/
def isTerminalBlank (c : Char) : Bool :=
  c = '\t' || c = '\n' || c = '\x0c' || c = '\r'

/-- Is the byte that terminates strings one of those that encode the character? -/
def holdsTerminator (c : Char) : Bool :=
  0x9c ∈ String.utf8EncodeChar c

/-- The state after an ASCII character in the middle of an escape sequence, controls that
act in every state apart. -/
def ControlState.stepAscii (s : ControlState) (c : Char) : ControlState :=
  let n := c.toNat
  let isIntermediate := 0x20 ≤ n && n ≤ 0x2f
  let isFinal := 0x40 ≤ n && n ≤ 0x7e
  match s with
  | ground => ground
  | escape =>
    if c = '[' then sequence
    else if c = ']' then command
    else if c = 'P' then device
    else if c = 'X' || c = '^' || c = '_' then string
    else if isIntermediate then intermediate
    else if 0x30 ≤ n && n ≤ 0x7e then ground
    else escape
  | intermediate => if 0x30 ≤ n && n ≤ 0x7e then ground else intermediate
  | sequence => if isFinal then ground else sequence
  | command => if n = 0x07 then ground else command
  | device =>
    if isIntermediate then deviceIntermediate
    else if 0x30 ≤ n && n ≤ 0x3f then deviceParameter
    else if isFinal then string
    else device
  | deviceParameter =>
    if isIntermediate then deviceIntermediate
    else if 0x3c ≤ n && n ≤ 0x7e then string
    else deviceParameter
  | deviceIntermediate =>
    if 0x30 ≤ n && n ≤ 0x7e then string else deviceIntermediate
  | string => string

/-- The state after a character in the middle of an escape sequence. A character beyond
ASCII has no meaning there, but the byte that terminates strings may be part of it. -/
def ControlState.step (s : ControlState) (c : Char) : ControlState :=
  let n := c.toNat
  if n = 0x1b then escape
  else if n = 0x18 || n = 0x1a then ground
  else if n < 0x80 then s.stepAscii c
  else if s = string ∧ holdsTerminator c then ground
  else s

/-- Is the character shown in a state? Within the sequences that may hold blanks, a blank
is shown and ends the sequence. -/
def ControlState.shows (s : ControlState) (c : Char) : Bool :=
  match s with
  | ground => (0x20 ≤ c.toNat && c.toNat ≠ 0x7f) || isTerminalBlank c
  | escape | intermediate | sequence => isTerminalBlank c
  | command | device | deviceParameter | deviceIntermediate | string => false

/-- A text from a state on without what a terminal would obey. -/
def plainFrom : ControlState → List Char → List Char
  | _, [] => []
  | s, c :: cs =>
    if s.shows c then c :: plainFrom .ground cs else plainFrom (s.step c) cs

/-- A text without what a terminal would obey. -/
def plain (cs : List Char) : List Char :=
  plainFrom .ground cs

/-- A text up to its first line break. -/
def firstLine (cs : List Char) : List Char :=
  let line := cs.takeWhile (· ≠ '\n')
  if line.length < cs.length ∧ line.getLast? = some '\r' then line.dropLast else line

theorem plain_nil : plain [] = [] := rfl

end TronWallet.Text
