import Mathlib.Data.List.Lex
import Mathlib.Tactic.SplitIfs
import TronWallet.Text.Utf8

/-!
# The order of texts and of their bytes

No two texts have the same bytes (`utf8_injective`), and UTF-8 keeps the order: texts are
compared by their code points as their encodings are by bytes (`utf8_lt_utf8`). Of two
characters the one with the smaller code point has the smaller first byte, or after equal
bytes a smaller one, so what follows does not matter (`utf8EncodeChar_append_lt`).
-/

namespace TronWallet.Text

theorem utf8_injective : Function.Injective utf8 := by
  intro cs ds h
  have hbytes : cs.utf8Encode = ds.utf8Encode := congrArg List.toByteArray h
  have hdecoded := congrArg ByteArray.utf8Decode? hbytes
  simpa using hdecoded

/-- The smaller number has the smaller leading digits in base 64, or the same and a smaller
last one. -/
theorem div_lt_or_mod_lt {m n : Nat} (h : m < n) :
    m / 64 < n / 64 ∨ m / 64 = n / 64 ∧ m % 64 < n % 64 := by
  omega

/-- The digits of four bytes are compared from the first one on. -/
theorem digits_lt_of_lt {m n : Nat} (h : m < n) :
    m / 262144 < n / 262144 ∨ m / 262144 = n / 262144 ∧
      (m / 4096 % 64 < n / 4096 % 64 ∨ m / 4096 % 64 = n / 4096 % 64 ∧
        (m / 64 % 64 < n / 64 % 64 ∨ m / 64 % 64 = n / 64 % 64 ∧ m % 64 < n % 64)) := by
  have hdiv : ∀ k : Nat, k / 4096 = k / 64 / 64 ∧ k / 262144 = k / 64 / 64 / 64 := by
    intro k
    rw [Nat.div_div_eq_div_mul, Nat.div_div_eq_div_mul]
    exact ⟨rfl, rfl⟩
  rw [(hdiv m).1, (hdiv m).2, (hdiv n).1, (hdiv n).2]
  rcases div_lt_or_mod_lt h with h | ⟨heq, h⟩
  · rcases div_lt_or_mod_lt h with h | ⟨heq, h⟩
    · rcases div_lt_or_mod_lt h with h | ⟨heq, h⟩
      · exact .inl h
      · exact .inr ⟨heq, .inl h⟩
    · rw [heq]
      exact .inr ⟨rfl, .inr ⟨rfl, .inl h⟩⟩
  · rw [heq]
    exact .inr ⟨rfl, .inr ⟨rfl, .inr ⟨rfl, h⟩⟩⟩

theorem ofNat_cons_lt_iff {m n : Nat} (hm : m < 256) (hn : n < 256) (xs ys : List UInt8) :
    UInt8.ofNat m :: xs < UInt8.ofNat n :: ys ↔ m < n ∨ m = n ∧ xs < ys := by
  rw [List.cons_lt_cons_iff, UInt8.lt_iff_toNat_lt, ← UInt8.toNat_inj, UInt8.toNat_ofNat',
    UInt8.toNat_ofNat', Nat.mod_eq_of_lt hm, Nat.mod_eq_of_lt hn]

theorem utf8EncodeChar_append_lt {c d : Char} (h : c < d) (xs ys : List UInt8) :
    String.utf8EncodeChar c ++ xs < String.utf8EncodeChar d ++ ys := by
  have hlt : c.val.toNat < d.val.toNat := h
  have hdigits := digits_lt_of_lt hlt
  have hmax : d.val.toNat < 1114112 := by
    have hvalid := d.valid
    simp only [UInt32.isValidChar, Nat.isValidChar] at hvalid
    omega
  have hc : c.val.toNat / 262144 % 8 = c.val.toNat / 262144 := Nat.mod_eq_of_lt (by omega)
  have hd : d.val.toNat / 262144 % 8 = d.val.toNat / 262144 := Nat.mod_eq_of_lt (by omega)
  -- With different numbers of bytes the first ones differ, and with the same number the bytes
  -- hold the digits of the code points.
  simp only [String.utf8EncodeChar, hc, hd]
  split_ifs <;>
    simp (disch := omega) only [List.cons_append, List.nil_append, ofNat_cons_lt_iff] <;>
    omega

/-- Encoding keeps the order of texts. -/
theorem utf8_lt_utf8 {cs ds : List Char} (h : cs < ds) : utf8 cs < utf8 ds := by
  induction h with
  | @nil d ds =>
      obtain ⟨b, bs, hbs⟩ := List.exists_cons_of_ne_nil (String.utf8EncodeChar_ne_nil (c := d))
      rw [utf8_nil, utf8_cons, hbs, List.cons_append]
      exact List.nil_lt_cons ..
  | rel h =>
      rw [utf8_cons, utf8_cons]
      exact utf8EncodeChar_append_lt h _ _
  | cons _ ih =>
      rw [utf8_cons, utf8_cons]
      exact List.append_left_lt ih

end TronWallet.Text
