import Mathlib.Data.List.DropRight
import TronWallet.Text.White

/-!
# Texts without white space around them

What `trim` leaves neither begins nor ends in white space (`noWhiteEnds_trim`), and a text
that does not is left as it is (`NoWhiteEnds.trim_eq_self`).
-/

namespace TronWallet.Text

/-- The text neither begins nor ends in white space. -/
structure NoWhiteEnds (cs : List Char) : Prop where
  head : ∀ c ∈ cs.head?, isWhite c = false
  last : ∀ c ∈ cs.getLast?, isWhite c = false

theorem isWhite_of_mem_head?_trimStart {cs : List Char} {c : Char} (h : c ∈ (trimStart cs).head?) :
    isWhite c = false := by
  have hnot := List.head?_dropWhile_not isWhite cs
  rw [← trimStart, Option.mem_def.1 h] at hnot
  simpa using hnot

theorem trimStart_eq_self_of_head? {cs : List Char} (h : ∀ c ∈ cs.head?, isWhite c = false) :
    trimStart cs = cs := by
  cases cs with
  | nil => rfl
  | cons c cs => exact trimStart_cons_of_not_white cs (h c rfl)

theorem noWhiteEnds_trim (cs : List Char) : NoWhiteEnds (trim cs) where
  head := by
    intro c hc
    have hprefix : trim cs <+: trimStart cs := List.rdropWhile_prefix isWhite (trimStart cs)
    obtain ⟨rest, hrest⟩ := hprefix
    obtain ⟨tail, htail⟩ := List.head?_eq_some_iff.1 hc
    have hstart : (trimStart cs).head? = some c := by
      rw [← hrest, htail]
      rfl
    exact isWhite_of_mem_head?_trimStart hstart
  last := by
    intro c hc
    rw [trim, trimEnd, List.getLast?_reverse] at hc
    exact isWhite_of_mem_head?_trimStart hc

theorem NoWhiteEnds.trim_eq_self {cs : List Char} (h : NoWhiteEnds cs) : trim cs = cs := by
  have hreverse : cs.reverse.dropWhile isWhite = cs.reverse := by
    apply trimStart_eq_self_of_head?
    rw [List.head?_reverse]
    exact h.last
  rw [trim, trimStart_eq_self_of_head? h.head, trimEnd, hreverse, List.reverse_reverse]

/-- A text without white space has none to drop. -/
theorem trim_eq_self {cs : List Char} (h : ∀ c ∈ cs, isWhite c = false) : trim cs = cs :=
  NoWhiteEnds.trim_eq_self
    ⟨fun c hc => h c (List.mem_of_head? hc), fun c hc => h c (List.mem_of_getLast? hc)⟩

end TronWallet.Text
