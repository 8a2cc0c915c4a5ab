import Mathlib.Data.List.Infix
import Mathlib.Data.List.TakeWhile
import TronWallet.Text.Style
import TronWallet.Text.Terminal

/-!
# Text on a terminal

Visible text stays as it is where terminal control is dropped, and so does visible text in a
style, without the codes of the style (`plain_on_append`). A text in red is red throughout:
after every reset in it red is set again (`inRed_red`).
-/

namespace TronWallet.Text

/-! ## Visible text -/

/-- Every character is one that a terminal shows. -/
def Visible (cs : List Char) : Prop := ∀ c ∈ cs, 0x20 ≤ c.toNat ∧ c.toNat ≠ 0x7f

theorem visible_append {cs ds : List Char} : Visible (cs ++ ds) ↔ Visible cs ∧ Visible ds :=
  List.forall_mem_append

theorem plain_append_of_visible {cs : List Char} (h : Visible cs) (rest : List Char) :
    plain (cs ++ rest) = cs ++ plain rest := by
  induction cs with
  | nil => rfl
  | cons c cs ih =>
      obtain ⟨hc, hcs⟩ := List.forall_mem_cons.1 h
      have hshows : ControlState.ground.shows c = true := by simp [ControlState.shows, hc]
      rw [List.cons_append, plain, plainFrom, if_pos hshows, List.cons_append]
      exact congrArg (c :: ·) (ih hcs)

/-- Of a visible word in a style, the word is left. -/
theorem plain_on_append (style : Style) {word : String} (h : Visible word.toList)
    (rest : List Char) :
    plain ((style.on word).toList ++ rest) = word.toList ++ plain rest := by
  have hcodes : ∀ cs, plain (style.codes ++ cs) = plain cs := by
    intro cs
    cases style <;> rfl
  have hreset : plain (resetCode ++ rest) = plain rest := rfl
  rw [Style.on, String.toList_ofList, List.append_assoc, List.append_assoc, hcodes,
    plain_append_of_visible h, hreset]

/-- What is left of the styled text without terminal control is the bare one, if that is
visible. -/
def Leaves (styled bare : String) : Prop :=
  Visible bare.toList → ∀ rest, plain (styled.toList ++ rest) = bare.toList ++ plain rest

theorem leaves_self (text : String) : Leaves text text :=
  fun h rest => plain_append_of_visible h rest

theorem leaves_on (style : Style) (word : String) : Leaves (style.on word) word :=
  fun h rest => plain_on_append style h rest

theorem Leaves.append {styled styled' bare bare' : String} (h : Leaves styled bare)
    (h' : Leaves styled' bare') : Leaves (styled ++ styled') (bare ++ bare') := by
  intro hvisible rest
  rw [String.toList_append, visible_append] at hvisible
  rw [String.toList_append, String.toList_append, List.append_assoc, h hvisible.1,
    h' hvisible.2, List.append_assoc]

theorem firstLine_of_visible {cs : List Char} (h : Visible cs) : firstLine cs = cs := by
  have hline : cs.takeWhile (· ≠ '\n') = cs := by
    rw [List.takeWhile_eq_self_iff]
    intro c hc
    have hne : c ≠ '\n' := by
      rintro rfl
      exact absurd (h _ hc).1 (by decide)
    simpa using hne
  rw [firstLine, hline]
  exact if_neg fun h => Nat.lt_irrefl _ h.1

theorem Leaves.firstLine_plain {styled bare : String} (h : Leaves styled bare)
    (hvisible : Visible bare.toList) :
    String.ofList (firstLine (plain styled.toList)) = bare := by
  have hplain := h hvisible []
  rw [plain_nil, List.append_nil, List.append_nil] at hplain
  rw [hplain, firstLine_of_visible hvisible, String.ofList_toList]

/-! ## Red text -/

/-- The line is the text between the codes for red and for a reset, with red set again after
each reset in the text. -/
def InRed (text line : String) : Prop :=
  ∃ parts : List String, text = "\x1b[0m".intercalate parts ∧
    (∀ part ∈ parts, ¬ "\x1b[0m".toList <:+: part.toList) ∧
    line = "\x1b[31m" ++ "\x1b[0m\x1b[31m".intercalate parts ++ "\x1b[0m"

/-- A text is cut at its resets, and what is set again comes after each. -/
theorem exists_parts_restyle (style : Style) (cs : List Char) :
    ∃ part parts, cs = resetCode.intercalate (part :: parts) ∧
      (∀ p ∈ part :: parts, ¬ resetCode <:+: p) ∧
      restyle style cs = (resetCode ++ style.codes).intercalate (part :: parts) := by
  induction cs using restyle.induct with
  | case1 cs ih =>
      obtain ⟨part, parts, hcs, hparts, hstyled⟩ := ih
      refine ⟨[], part :: parts, ?_, ?_, ?_⟩
      · rw [List.intercalate_cons_cons, ← hcs]
        rfl
      · exact List.forall_mem_cons.2 ⟨by decide, hparts⟩
      · rw [List.intercalate_cons_cons, restyle, hstyled]
        rfl
  | case2 c cs hne ih =>
      obtain ⟨part, parts, hcs, hparts, hstyled⟩ := ih
      obtain ⟨hpart, hparts⟩ := List.forall_mem_cons.1 hparts
      have hcons : ∀ separator : List Char, separator.intercalate ((c :: part) :: parts) =
          c :: separator.intercalate (part :: parts) := by
        intro separator
        cases parts with
        | nil => simp
        | cons next parts => simp [List.intercalate_cons_cons]
      refine ⟨c :: part, parts, by rw [hcons, ← hcs], ?_, ?_⟩
      · refine List.forall_mem_cons.2 ⟨fun hinfix => ?_, hparts⟩
        rcases List.infix_cons_iff.1 hinfix with hprefix | hinfix
        · -- A reset at the head of the part would be one at the head of the text.
          have hstart : part <+: cs := by
            rw [hcs]
            cases parts with
            | nil => simp
            | cons next parts => simp [List.intercalate_cons_cons]
          obtain ⟨rest, hrest⟩ := hprefix.trans ((List.prefix_cons_inj c).2 hstart)
          obtain ⟨rfl, htail⟩ := List.cons.inj hrest
          exact hne rest rfl htail.symm
        · exact hpart hinfix
      · rw [restyle, hstyled, hcons]
        exact hne
  | case3 => exact ⟨[], [], rfl, by decide, rfl⟩

theorem inRed_red (text : String) : InRed text (String.ofList (red text.toList)) := by
  obtain ⟨part, parts, htext, hparts, hstyled⟩ := exists_parts_restyle .warning text.toList
  have hreset : resetCode = "\x1b[0m".toList := by decide
  have hagain : resetCode ++ Style.warning.codes = "\x1b[0m\x1b[31m".toList := by decide
  refine ⟨(part :: parts).map String.ofList, ?_, ?_, ?_⟩
  · rw [← String.toList_inj, String.toList_intercalate, ← hreset, htext]
    simp
  · intro p hp
    obtain ⟨q, hq, rfl⟩ := List.mem_map.1 hp
    rw [← hreset, String.toList_ofList]
    exact hparts q hq
  · rw [← String.toList_inj, red, hstyled, hagain]
    simp [String.toList_intercalate, Style.codes, resetCode]

end TronWallet.Text
