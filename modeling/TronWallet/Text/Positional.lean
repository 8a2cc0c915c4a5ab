/-!
# Positional number systems

`digits b n` are the digits of `n` in base `b`, most significant first and without
leading zeros (so zero has none), and `value b ds` is the number that digits stand
for. Base 10 writes the integers of every format here, base 58 and base 256 are the
two sides of an address.
-/

namespace TronWallet.Text.Positional

/-- The digits of `n` below those already found, given least significant digit last.
The first argument bounds the number of digits. -/
def digitsOnto (b : Nat) : Nat → Nat → List Nat → List Nat
  | 0, _, ds => ds
  | bound + 1, n, ds => if n = 0 then ds else digitsOnto b bound (n / b) (n % b :: ds)

/-- The digits of a number, most significant first and without leading zeros. -/
def digits (b n : Nat) : List Nat :=
  digitsOnto b n n []

/-- The number that digits stand for, most significant first. -/
def value (b : Nat) (ds : List Nat) : Nat :=
  ds.foldl (fun n d => n * b + d) 0

@[simp] theorem digits_zero (b : Nat) : digits b 0 = [] := rfl

@[simp] theorem value_nil (b : Nat) : value b [] = 0 := rfl

theorem value_append_singleton (b : Nat) (ds : List Nat) (d : Nat) :
    value b (ds ++ [d]) = value b ds * b + d := by
  simp [value]

end TronWallet.Text.Positional
