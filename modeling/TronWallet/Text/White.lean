/-!
# White space and trimming

`isWhite` is the Unicode property White_Space, and `trim` drops a text's longest
white beginning and its longest white end. Text is worked on as a list of
characters throughout this library, so trimming is two `dropWhile`s and a text
that neither begins nor ends in white space is a fixed point.
-/

namespace TronWallet.Text

/-- The characters with the Unicode property White_Space. -/
def isWhite (c : Char) : Bool :=
  let n := c.toNat
  (0x09 ≤ n && n ≤ 0x0d) || n == 0x20 || n == 0x85 || n == 0xa0 || n == 0x1680 ||
    (0x2000 ≤ n && n ≤ 0x200a) || n == 0x2028 || n == 0x2029 || n == 0x202f ||
    n == 0x205f || n == 0x3000

/-- Without its longest white beginning. -/
def trimStart (cs : List Char) : List Char :=
  cs.dropWhile isWhite

/-- Without its longest white end. -/
def trimEnd (cs : List Char) : List Char :=
  (cs.reverse.dropWhile isWhite).reverse

/-- Without its longest white beginning and its longest white end. -/
def trim (cs : List Char) : List Char :=
  trimEnd (trimStart cs)

/-- `trim` on strings. -/
def trimmed (s : String) : String :=
  String.ofList (trim s.toList)

@[simp] theorem trimStart_nil : trimStart [] = [] := rfl

@[simp] theorem trim_nil : trim [] = [] := rfl

theorem trimStart_cons_of_white {c : Char} (cs : List Char) (h : isWhite c = true) :
    trimStart (c :: cs) = trimStart cs := by
  simp [trimStart, h]

theorem trimStart_cons_of_not_white {c : Char} (cs : List Char) (h : isWhite c = false) :
    trimStart (c :: cs) = c :: cs := by
  simp [trimStart, h]

end TronWallet.Text
