import TronWallet.Proofs.Text.Utf8
import TronWallet.Url.Escape

/-!
# Escaped texts are told apart

An escaped byte is read back from its two digits, so the bytes of a text that holds no percent
sign are those of the escaped text (`unescape_escape`), whatever is reserved. Two such texts
that are escaped alike are the same (`eq_of_escape_eq`). With percent signs they need not be: a
text may be written as if it were escaped already.
-/

namespace TronWallet.Url

theorem value?_toUpper_digit : ∀ n < 16,
    Text.Hex.value? (Text.Hex.digit n).toUpper = some n := by
  decide

theorem unescape_escapeByte_append (b : UInt8) (rest : List Char) :
    unescape (escapeByte b ++ rest) = b :: unescape rest := by
  have hhigh := value?_toUpper_digit (b.toNat / 16) (by have := b.toNat_lt; omega)
  have hlow := value?_toUpper_digit (b.toNat % 16) (by omega)
  have hsplit : 16 * (b.toNat / 16) + b.toNat % 16 = b.toNat := Nat.div_add_mod _ _
  simp [escapeByte, Text.Hex.ofByte, unescape, hhigh, hlow, hsplit]

theorem unescape_flatMap_escapeByte_append (bs : List UInt8) (rest : List Char) :
    unescape (bs.flatMap escapeByte ++ rest) = bs ++ unescape rest := by
  induction bs with
  | nil => rfl
  | cons b bs ih =>
      rw [List.flatMap_cons, List.append_assoc, unescape_escapeByte_append, ih, List.cons_append]

theorem unescape_cons_of_ne {c : Char} (h : c ≠ '%') (cs : List Char) :
    unescape (c :: cs) = Text.utf8 [c] ++ unescape cs := by
  simp [unescape, h]

/-- The bytes of an escaped text are those of the text. -/
theorem unescape_escape (reserved : Char → Bool) {cs : List Char} (h : '%' ∉ cs) :
    unescape (escape reserved cs) = Text.utf8 cs := by
  induction cs with
  | nil => rfl
  | cons c cs ih =>
      rw [List.mem_cons, not_or] at h
      have hbytes : Text.utf8 (c :: cs) = Text.utf8 [c] ++ Text.utf8 cs := Text.utf8_append [c] cs
      rw [escape_cons, hbytes, ← ih h.2]
      cases reserved c with
      | true => exact unescape_flatMap_escapeByte_append _ _
      | false => exact unescape_cons_of_ne (Ne.symm h.1) _

theorem eq_of_escape_eq (reserved : Char → Bool) {cs ds : List Char} (hcs : '%' ∉ cs)
    (hds : '%' ∉ ds) (h : escape reserved cs = escape reserved ds) : cs = ds := by
  refine Text.utf8_injective ?_
  rw [← unescape_escape reserved hcs, h, unescape_escape reserved hds]

end TronWallet.Url
