/-!
# The parts of a text

`split` cuts a text at every separator. There is always one part more than there are
separators, so the empty text has one part, which is empty.
-/

namespace TronWallet.Text

/-- The parts of a text between separators. -/
def split (separator : Char) : List Char → List (List Char)
  | [] => [[]]
  | c :: cs =>
    if c = separator then [] :: split separator cs
    else
      match split separator cs with
      | [] => [[c]]
      | part :: parts => (c :: part) :: parts

theorem split_ne_nil (separator : Char) (cs : List Char) : split separator cs ≠ [] := by
  cases cs with
  | nil => simp [split]
  | cons c cs =>
    simp only [split]
    split
    · simp
    · split <;> simp

/-- The parts with the separators between them are the text. -/
theorem intercalate_split (separator : Char) (cs : List Char) :
    List.intercalate [separator] (split separator cs) = cs := by
  induction cs with
  | nil => rfl
  | cons c cs ih =>
    have hne := split_ne_nil separator cs
    simp only [split]
    cases hs : split separator cs with
    | nil => exact absurd hs hne
    | cons part parts =>
      rw [hs] at ih
      split
      · rename_i h
        rw [h, ← ih]
        rfl
      · rw [← ih]
        cases parts <;> rfl

end TronWallet.Text
