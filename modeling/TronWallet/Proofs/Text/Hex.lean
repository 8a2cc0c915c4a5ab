import TronWallet.Text.Hex

/-!
# Hexadecimal text read back

The two digits of each byte are read as the byte (`toBytes?_ofBytes`), so bytes that are
written alike are the same. What is written consists of the sixteen digits in lower case
(`mem_lowerDigits_of_mem_ofBytes`).
-/

namespace TronWallet.Text.Hex

/-- The digits that are written. -/
def lowerDigits : List Char := "0123456789abcdef".toList

theorem value?_digit {n : Nat} (h : n < 16) : value? (digit n) = some n := by
  have hall : ∀ n < 16, value? (digit n) = some n := by decide
  exact hall n h

theorem digit_mem_lowerDigits {n : Nat} (h : n < 16) : digit n ∈ lowerDigits := by
  have hall : ∀ n < 16, digit n ∈ lowerDigits := by decide
  exact hall n h

theorem toBytes?_ofBytes (bs : List UInt8) : toBytes? (ofBytes bs) = some bs := by
  induction bs with
  | nil => rfl
  | cons b bs ih =>
      have hhigh := value?_digit (n := b.toNat / 16) (by have := b.toNat_lt; omega)
      have hlow := value?_digit (n := b.toNat % 16) (by omega)
      have hsplit : 16 * (b.toNat / 16) + b.toNat % 16 = b.toNat := Nat.div_add_mod _ _
      rw [ofBytes_cons, toBytes?, hhigh, hlow, ih]
      simp only [bind, pure, Option.bind_some, hsplit, UInt8.ofNat_toNat]

theorem ofBytes_injective {bs ds : List UInt8} (h : ofBytes bs = ofBytes ds) : bs = ds := by
  have hbs := toBytes?_ofBytes bs
  rw [h, toBytes?_ofBytes] at hbs
  exact (Option.some.inj hbs).symm

theorem mem_lowerDigits_of_mem_ofBytes {bs : List UInt8} {c : Char} (h : c ∈ ofBytes bs) :
    c ∈ lowerDigits := by
  obtain ⟨b, -, hc⟩ := List.mem_flatMap.1 h
  have hlt := b.toNat_lt
  simp only [ofByte, List.mem_cons, List.not_mem_nil, or_false] at hc
  rcases hc with rfl | rfl
  · exact digit_mem_lowerDigits (by omega)
  · exact digit_mem_lowerDigits (by omega)

end TronWallet.Text.Hex
