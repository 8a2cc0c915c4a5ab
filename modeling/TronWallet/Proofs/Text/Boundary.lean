import TronWallet.Text.Utf8

/-!
# Where a text can be cut

`takeBytes?` cuts a text after a number of bytes. What it gives is the beginning of the text that
has so many bytes (`takeBytes?_eq_some_iff`), and it gives one exactly where the standard library's
positions are valid: at a byte that begins a character, or at the end
(`exists_takeBytes?_iff`).
-/

namespace TronWallet.Text

theorem utf8ByteSize_ofList (cs : List Char) : (String.ofList cs).utf8ByteSize = byteLength cs := by
  induction cs with
  | nil => rfl
  | cons c cs ih =>
      rw [String.ofList_cons, String.utf8ByteSize_append, String.utf8ByteSize_singleton, ih,
        byteLength_cons]

theorem byteLength_toList (s : String) : byteLength s.toList = s.utf8ByteSize := by
  rw [← utf8ByteSize_ofList, String.ofList_toList]

theorem byteLength_eq_zero_iff {cs : List Char} : byteLength cs = 0 ↔ cs = [] := by
  cases cs with
  | nil => simp
  | cons c cs =>
      have := c.utf8Size_pos
      simp only [byteLength_cons, reduceCtorEq, iff_false]
      omega

/-- What is taken is the beginning of the text with so many bytes. -/
theorem takeBytes?_eq_some_iff {n : Nat} {cs ds : List Char} :
    takeBytes? n cs = some ds ↔ ds <+: cs ∧ byteLength ds = n := by
  fun_induction takeBytes? n cs generalizing ds with
  | case1 cs =>
      rw [Option.some_inj, byteLength_eq_zero_iff]
      constructor
      · rintro rfl
        exact ⟨List.nil_prefix, rfl⟩
      · rintro ⟨-, rfl⟩
        rfl
  | case2 n =>
      rw [List.prefix_nil]
      constructor
      · intro h
        cases h
      · rintro ⟨rfl, h⟩
        cases h
  | case3 n c cs hfits ih =>
      have hpos := c.utf8Size_pos
      constructor
      · intro h
        obtain ⟨es, hes, rfl⟩ := Option.map_eq_some_iff.1 h
        obtain ⟨hbegins, hlength⟩ := ih.1 hes
        refine ⟨List.cons_prefix_cons.2 ⟨rfl, hbegins⟩, ?_⟩
        rw [byteLength_cons, hlength]
        omega
      · rintro ⟨hbegins, hlength⟩
        cases ds with
        | nil => cases hlength
        | cons d ds =>
            obtain ⟨rfl, hrest⟩ := List.cons_prefix_cons.1 hbegins
            rw [byteLength_cons] at hlength
            have hlength : byteLength ds = n + 1 - d.utf8Size := by omega
            rw [ih.2 ⟨hrest, hlength⟩]
            rfl
  | case4 n c cs hlong =>
      constructor
      · intro h
        cases h
      · rintro ⟨hbegins, hlength⟩
        cases ds with
        | nil => cases hlength
        | cons d ds =>
            obtain ⟨rfl, -⟩ := List.cons_prefix_cons.1 hbegins
            rw [byteLength_cons] at hlength
            omega

/-- A text can be cut after a number of bytes where this is a valid position. -/
theorem exists_takeBytes?_iff {n : Nat} {s : String} :
    (∃ ds, takeBytes? n s.toList = some ds) ↔ (⟨n⟩ : String.Pos.Raw).IsValid s := by
  simp only [takeBytes?_eq_some_iff, String.Pos.Raw.isValid_iff_exists_append]
  constructor
  · rintro ⟨ds, ⟨rest, hrest⟩, hlength⟩
    refine ⟨String.ofList ds, String.ofList rest, ?_, ?_⟩
    · rw [← String.ofList_append, hrest, String.ofList_toList]
    · rw [String.Pos.Raw.ext_iff, String.byteIdx_rawEndPos, utf8ByteSize_ofList, hlength]
  · rintro ⟨start, rest, rfl, hn⟩
    refine ⟨start.toList, ?_, ?_⟩
    · rw [String.toList_append]
      exact List.prefix_append _ _
    · rw [byteLength_toList]
      exact (String.Pos.Raw.ext_iff.1 hn).symm

end TronWallet.Text
