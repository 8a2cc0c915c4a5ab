import TronWallet.Proofs.Address

/-!
# Every address begins with T

The 25 bytes of an address and its checksum begin with the byte 65, so they are a number from
`65 * 256 ^ 24` on and below `66 * 256 ^ 24`. These bounds lie between `26 * 58 ^ 33` and
`27 * 58 ^ 33`, and `T` is the digit 26 in base 58. So the text of an address has 34 characters
and begins with `T`, whatever the account hash and the checksum are (`shaped_encode`).
-/

namespace TronWallet

open Text.Positional

namespace Base58

/-- What follows the first byte changes the number by less than one power of the base. -/
theorem bytesValue_cons_bounds (b : UInt8) (bs : List UInt8) :
    b.toNat * 256 ^ bs.length ≤ bytesValue (b :: bs) ∧
      bytesValue (b :: bs) < (b.toNat + 1) * 256 ^ bs.length := by
  have hlt : ∀ d ∈ bs.map UInt8.toNat, d < 256 := by
    intro d hd
    obtain ⟨x, -, rfl⟩ := List.mem_map.1 hd
    exact x.toNat_lt
  have hrest := value_lt_pow (by decide) hlt
  rw [List.length_map] at hrest
  rw [bytesValue, List.map_cons, value_cons, List.length_map, Nat.add_mul]
  omega

theorem encode_cons_of_ne_zero {b : UInt8} (hb : b ≠ 0) (bs : List UInt8) :
    encode (b :: bs) = (digits 58 (bytesValue (b :: bs))).map digitChar := by
  have hleading : leading 0 (b :: bs) = 0 := by simp [leading, hb]
  rw [encode, hleading, List.replicate_zero, List.nil_append]

end Base58

namespace Address

/-- 34 characters of the alphabet, of which the first is `T`. -/
structure Shaped (cs : List Char) : Prop where
  length_eq : cs.length = 34
  head?_eq : cs.head? = some 'T'
  mem_alphabet : ∀ c ∈ cs, c ∈ Base58.alphabet

/-- The leading byte and any 24 bytes after it are written in the shape of an address. -/
theorem shaped_encode {bs : List UInt8} (h : bs.length = 24) :
    Shaped (Base58.encode (leadingByte :: bs)) := by
  obtain ⟨hle, hlt⟩ := Base58.bytesValue_cons_bounds leadingByte bs
  rw [h] at hle hlt
  have hlower : 26 * 58 ^ 33 ≤ leadingByte.toNat * 256 ^ 24 := by decide
  have hupper : (leadingByte.toNat + 1) * 256 ^ 24 ≤ (26 + 1) * 58 ^ 33 := by decide
  obtain ⟨ds, hlength, hdigits⟩ := exists_digits_eq_cons (by decide) (by decide) (by decide)
    (hlower.trans hle) (hlt.trans_le hupper)
  have hencode : Base58.encode (leadingByte :: bs) = 'T' :: ds.map Base58.digitChar := by
    rw [Base58.encode_cons_of_ne_zero (by decide), hdigits]
    rfl
  refine ⟨?_, ?_, fun c => Base58.mem_alphabet_of_mem_encode⟩
  · rw [hencode, List.length_cons, List.length_map, hlength]
  · rw [hencode]
    rfl

theorem shaped_encode_append (a : Address) {check : List UInt8} (h : check.length = 4) :
    Shaped (Base58.encode (a.bytes ++ check)) := by
  rw [bytes, List.cons_append]
  exact shaped_encode (by rw [List.length_append, a.length_hash, h])

theorem shaped_text (a : Address) : Shaped a.text :=
  a.shaped_encode_append (Base58.length_checksum _)

/-- The bytes of an address are written in the same shape with any four bytes after them, so in
particular with their checksum. And a text that is read as an address has this shape, the white
space around it aside. -/
theorem shaped_toBase58_and_of_parse :
    (∀ (a : Address) (w x y z : UInt8), Shaped (Base58.encode (a.bytes ++ [w, x, y, z]))) ∧
      (∀ a : Address, Shaped a.toBase58.toList) ∧
      ∀ (s : String) (a : Address), parse s = .ok a → Shaped (Text.trimmed s).toList := by
  have htext : ∀ a : Address, Shaped a.toBase58.toList := by
    intro a
    rw [toBase58, String.toList_ofList]
    exact a.shaped_text
  refine ⟨fun a w x y z => a.shaped_encode_append rfl, htext, fun s a hparse => ?_⟩
  rw [trimmed_eq_toBase58_iff.2 (parse_eq_ok_iff.1 hparse)]
  exact htext a

end Address

end TronWallet
