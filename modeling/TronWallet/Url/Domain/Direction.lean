import TronWallet.Text.Marks

/-!
# Names in two directions

Where a domain name has characters that are written from right to left, each of its labels
has to be readable without doubt: it begins with a letter, keeps to one direction, and ends
in a letter or a number, marks apart (Unicode 17).
-/

namespace TronWallet.Url.Domain

open TronWallet.Text

/-- What a character does to the direction of a text. -/
inductive Direction where
  | left
  | right
  /-- European digits. -/
  | number
  /-- Arabic digits. -/
  | arabicNumber
  /-- Takes the direction of the character before. -/
  | mark
  | neutral
  deriving DecidableEq

/-- Marks that are written from left to right on their own. -/
def leftMarks : List Span :=
  spans "cbf cc6 11a07 11a08 11c3f"

/-- Letters that are written from right to left, and marks among them. -/
def rightSpans : List Span :=
  spans "
    5be,5f4 608 60b 60d 61b,64a 66d,6d5 6e5,6e6 6ee,6ef 6fa,7f5 7fa,8c9 fbb2,fbc2 fe73
    10800,1091b 10920,10b35 10b40,10d23 10d4a,10d4f 10d6f,10d85 10e80,10ec7 10f00,10ff6
    1e800,1ed3d"

/-- European digits. -/
def numberSpans : List Span :=
  spans "
    30,39 6f0,6f9 102e1,102fb"

/-- Arabic digits. -/
def arabicNumberSpans : List Span :=
  spans "
    660,669 66b,66c 10d30,10d49 10e60,10e7e"

/-- Characters without a direction, and marks among them. -/
def neutralSpans : List Span :=
  spans "
    0,2f 3a,60 7b,d7 f7 2b9,2ba 2c2,2cf 2d2,2ed 2ef,2ff 375 3f6 58a,58f 606,607 609,60a 60c
    60e,60f 66a 6de 6e9 7f6,7f9 9f2,9f3 9fb af1 bf3,bfa c78,c7e e3f f3a,f3d 1390,1399 1400
    169b,169c 17db 17f0,180a 1940,1945 19de,19ff 200c,214d 218a,2335 237b,2394 2396,26ab
    26ad,27ff 2900,2bff 2ce5,2cea 2cf9,2cff 2e00,3004 3008,3020 3030 3037 303d,303f 30a0 30fb
    31c0,31e5 4dc0,4dff a490,a4c6 a60d,a60f a673,a67f a700,a721 a788 a828,a82b a838,a839
    a874,a877 ab6a,ab6b fbc3,fe46 10101 10140,1018c 10190,101a0 1091f 10b39,10b3f 10d6e
    10d8e,10d8f 10ed0,10ed8 11052,11065 11660,1166c 11fd5,11ff1 16fe2 1cc00,1cef0 1d1e9,1d245
    1d300,1d356 1e2ff 1eef0,1f12f 1f16d,1f16f 1f1ad 1f260,1fbfa"

/-- What a character does to the direction of a text. -/
def direction (c : Char) : Direction :=
  if leftMarks.any (Span.covers c) then .left
  else if isNonspacingMark c then .mark
  else if rightSpans.any (Span.covers c) then .right
  else if numberSpans.any (Span.covers c) then .number
  else if arabicNumberSpans.any (Span.covers c) then .arabicNumber
  else if neutralSpans.any (Span.covers c) then .neutral
  else .left

/-- Does a text have a part from right to left? -/
def hasRight (cs : List Char) : Bool :=
  cs.any fun c => direction c = .right || direction c = .arabicNumber

/-- The last direction of a label, marks apart. -/
def lastDirection (ds : List Direction) : Option Direction :=
  ds.reverse.find? (· ≠ .mark)

/-- Is a label from right to left readable without doubt? -/
def isClearRight (ds : List Direction) : Bool :=
  .left ∉ ds && !(.number ∈ ds && .arabicNumber ∈ ds) &&
    (lastDirection ds).any fun d => d = .right || d = .number || d = .arabicNumber

/-- Is a label from left to right readable without doubt? -/
def isClearLeft (ds : List Direction) : Bool :=
  .right ∉ ds && .arabicNumber ∉ ds &&
    (lastDirection ds).any fun d => d = .left || d = .number

/-- Is a label of a name in two directions readable without doubt? -/
def isClear (label : List Char) : Bool :=
  let ds := label.map direction
  match ds with
  | [] => true
  | .right :: _ => isClearRight ds
  | .left :: _ => isClearLeft ds
  | _ => false

end TronWallet.Url.Domain
