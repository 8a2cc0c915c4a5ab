import TronWallet.Text.Utf8

/-!
# Punycode

Domain names hold ASCII only. `Punycode.encode` writes a label with other characters in
ASCII: its ASCII characters, a hyphen if there are any, and then where the others are to be
inserted, in ascending order of code points. Each insertion is the number of steps from the
one before, in digits of base 36 whose weights adapt to the size of the steps.
`Punycode.decode?` reads such a label.
-/

namespace TronWallet.Url.Punycode

/-- The digit of a value below 36: the letters, then the ten digits. -/
def digit (n : Nat) : Char :=
  if n < 26 then Char.ofNat (97 + n) else Char.ofNat (22 + n)

/-- From which value on another digit follows, at a position that is counted in steps of 36. -/
def threshold (bias position : Nat) : Nat :=
  if position ≤ bias then 1 else min 26 (position - bias)

/-- The digits of a number of steps; the first argument bounds their number. -/
def digits (bias : Nat) : Nat → Nat → Nat → List Char
  | 0, _, _ => []
  | bound + 1, position, n =>
    let t := threshold bias position
    if n < t then [digit n]
    else digit (t + (n - t) % (36 - t)) :: digits bias bound (position + 36) ((n - t) / (36 - t))

/-- Divides by 35 until at most 455 is left; each division adds 36 to the bias. The first
argument bounds the number of divisions. -/
def shrink : Nat → Nat → Nat → Nat
  | 0, bias, n => bias + 36 * n / (n + 38)
  | bound + 1, bias, n =>
    if 455 < n then shrink bound (bias + 36) (n / 35) else bias + 36 * n / (n + 38)

/-- The bias after an insertion of some steps, which was the first or not, when there are
`count` characters. -/
def adapt (isFirst : Bool) (steps count : Nat) : Nat :=
  let n := if isFirst then steps / 700 else steps / 2
  shrink n 0 (n + n / count)

/-- What has been written, and where the next insertion stands. -/
structure State where
  written : List Char
  bias : Nat
  /-- The number of characters that are in place. -/
  placed : Nat
  steps : Nat

/-- Passes a character of the label while those with one code point are inserted. -/
def State.pass (basic point : Nat) (s : State) (c : Char) : State :=
  if c.toNat < point then { s with steps := s.steps + 1 }
  else if c.toNat = point then
    { written := s.written ++ digits s.bias (s.steps + 1) 36 s.steps
      bias := adapt (s.placed = basic) s.steps (s.placed + 1)
      placed := s.placed + 1
      steps := 0 }
  else s

/-- Inserts the characters of code points that are given in ascending order; `before` is
the least code point that has not been passed. -/
def State.insertAll (label : List Char) (basic : Nat) : State → Nat → List Nat → State
  | s, _, [] => s
  | s, before, point :: points =>
    let arrived := { s with steps := s.steps + (point - before) * (s.placed + 1) }
    let passed := label.foldl (State.pass basic point) arrived
    State.insertAll label basic { passed with steps := passed.steps + 1 } (point + 1) points

/-- A label in ASCII, without a mark that it is encoded. -/
def encode (label : List Char) : List Char :=
  let basic := label.filter fun c => c.toNat < 0x80
  let points := ((label.filter fun c => 0x80 ≤ c.toNat).map Char.toNat).eraseDups.mergeSort
  let start : State :=
    { written := if basic.isEmpty then [] else basic ++ ['-']
      bias := 72
      placed := basic.length
      steps := 0 }
  (State.insertAll label basic.length start 0x80 points).written

/-! ## Decoding -/

/-- The value of a digit. -/
def digitValue? (c : Char) : Option Nat :=
  if c.isLower then some (c.toNat - 97)
  else if c.isUpper then some (c.toNat - 65)
  else if c.isDigit then some (c.toNat - 22)
  else none

/-- Reads a number of steps from its digits, and returns the rest; a weight has 32 bits. -/
def readSteps? (bias : Nat) : Nat → Nat → List Char → Option (Nat × List Char)
  | _, _, [] => none
  | position, weight, c :: cs =>
    let t := threshold bias position
    match digitValue? c with
    | none => none
    | some d =>
      if d < t then some (d * weight, cs)
      else if UInt32.size ≤ weight * (36 - t) then none
      else
        match readSteps? bias (position + 36) (weight * (36 - t)) cs with
        | none => none
        | some (n, rest) => some (d * weight + n, rest)

/-- Reading a number takes at least one digit. -/
theorem length_of_readSteps {bias position weight n : Nat} {cs rest : List Char}
    (h : readSteps? bias position weight cs = some (n, rest)) : rest.length < cs.length := by
  fun_induction readSteps? bias position weight cs generalizing n rest with
  | case1 => cases h
  | case2 => cases h
  | case3 =>
    cases h
    simp
  | case4 => cases h
  | case5 => cases h
  | case6 =>
    rename_i hrest ih
    cases h
    have := ih hrest
    simp only [List.length_cons]
    omega

/-- Inserts characters into a label as the digits tell, from a code point and a place in
the label on. -/
def insertRead? (bias point place : Nat) (label digits : List Char) : Option (List Char) :=
  match digits with
  | [] => some label
  | c :: cs =>
    match h : readSteps? bias 36 1 (c :: cs) with
    | none => none
    | some (n, rest) =>
      let count := label.length + 1
      let next := point + (place + n) / count
      let spot := (place + n) % count
      if next.isValidChar then
        insertRead? (adapt (place = 0) n count) next (spot + 1)
          (label.insertIdx spot (Char.ofNat next)) rest
      else none
termination_by digits.length
decreasing_by exact length_of_readSteps h

/-- The label that an encoded one stands for. A hyphen at its start belongs to the digits,
where it means nothing. -/
def decode? (encoded : List Char) : Option (List Char) :=
  let digits := (encoded.reverse.takeWhile (· ≠ '-')).reverse
  let basic := encoded.take (encoded.length - digits.length - 1)
  if basic = [] then insertRead? 72 0x80 0 [] encoded
  else insertRead? 72 0x80 0 basic digits

end TronWallet.Url.Punycode
