/-!
# Hexadecimal digits

`Hex.ofBytes` writes bytes as lower case hexadecimal text and `Hex.toBytes?` reads
such a text, in either case of the letters. `Hex.ofNat` writes a number without
leading zeros.
-/

namespace TronWallet.Text.Hex

/-- The digit of a value below sixteen, in lower case. -/
def digit (n : Nat) : Char :=
  if n < 10 then Char.ofNat (48 + n) else Char.ofNat (87 + n)

/-- The value of a hexadecimal digit of either case. -/
def value? (c : Char) : Option Nat :=
  if '0' ≤ c ∧ c ≤ '9' then some (c.toNat - 48)
  else if 'a' ≤ c ∧ c ≤ 'f' then some (c.toNat - 87)
  else if 'A' ≤ c ∧ c ≤ 'F' then some (c.toNat - 55)
  else none

/-- Is the character a hexadecimal digit of either case? -/
def isDigit (c : Char) : Bool :=
  (value? c).isSome

/-- The two digits of a byte. -/
def ofByte (b : UInt8) : List Char :=
  [digit (b.toNat / 16), digit (b.toNat % 16)]

/-- Two lower case digits for each byte. -/
def ofBytes (bs : List UInt8) : List Char :=
  bs.flatMap ofByte

/-- Reads pairs of digits as bytes. -/
def toBytes? : List Char → Option (List UInt8)
  | [] => some []
  | [_] => none
  | h :: l :: cs => do
    let high ← value? h
    let low ← value? l
    return UInt8.ofNat (16 * high + low) :: (← toBytes? cs)

/-- The value of a digit sequence, most significant first; `none` if a character is
no digit. -/
def toNat? (cs : List Char) : Option Nat :=
  cs.foldlM (fun n c => (value? c).map (16 * n + ·)) 0

/-- A number in lower case hexadecimal without leading zeros. -/
def ofNat (n : Nat) : List Char :=
  Nat.toDigits 16 n

@[simp] theorem ofBytes_nil : ofBytes [] = [] := rfl

@[simp] theorem ofBytes_cons (b : UInt8) (bs : List UInt8) :
    ofBytes (b :: bs) = digit (b.toNat / 16) :: digit (b.toNat % 16) :: ofBytes bs := rfl

@[simp] theorem length_ofBytes (bs : List UInt8) : (ofBytes bs).length = 2 * bs.length := by
  induction bs with
  | nil => rfl
  | cons b bs ih => simp [ih]; omega

end TronWallet.Text.Hex
