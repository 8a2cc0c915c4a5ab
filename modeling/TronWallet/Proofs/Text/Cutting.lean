import Mathlib.Data.List.DropRight

/-!
# Texts cut at a character

A text with a mark in it is cut at the first mark by reading from its beginning, and at the last
one by reading from its end (`afterLast_eq_some_iff`). Marks that were added to a text are what is
dropped from its end (`rdropWhile_eq_iff`).
-/

namespace TronWallet.Text

variable {p : Char → Bool} {mark : Char} {text before after : List Char}

theorem takeWhile_append_cons (h : p mark = false) (xs ys : List Char) :
    (xs ++ mark :: ys).takeWhile p = xs.takeWhile p := by
  induction xs with
  | nil => simp [h]
  | cons x xs ih => simp [List.takeWhile_cons, ih]

theorem dropWhile_append_cons (h : p mark = false) (xs ys : List Char) :
    (xs ++ mark :: ys).dropWhile p = xs.dropWhile p ++ mark :: ys := by
  induction xs with
  | nil => simp [h]
  | cons x xs ih =>
      rw [List.cons_append, List.dropWhile_cons, List.dropWhile_cons, ih]
      split <;> rfl

theorem takeWhile_reverse_append (h : mark ∉ after) :
    ((before ++ mark :: after).reverse.takeWhile (· ≠ mark)).reverse = after := by
  have hall : ∀ c ∈ after.reverse, decide (c ≠ mark) = true := by
    intro c hc
    refine decide_eq_true fun heq => h ?_
    rw [← heq]
    exact List.mem_reverse.1 hc
  have hreverse : (before ++ mark :: after).reverse = after.reverse ++ mark :: before.reverse := by
    simp
  rw [hreverse, List.takeWhile_append_of_pos hall, List.takeWhile_cons_of_neg (by simp),
    List.append_nil, List.reverse_reverse]

/-- What follows the last mark is what follows a mark and holds none. -/
theorem afterLast_eq_some_iff :
    (if mark ∈ text then some (text.reverse.takeWhile (· ≠ mark)).reverse else none) =
      some after ↔ ∃ before, text = before ++ mark :: after ∧ mark ∉ after := by
  constructor
  · intro h
    split at h
    · rename_i hmem
      obtain ⟨back, front, hreverse, hnot⟩ :=
        List.eq_append_cons_of_mem (List.mem_reverse.2 hmem)
      have htext : text = front.reverse ++ mark :: back.reverse := by
        rw [← List.reverse_reverse text, hreverse]
        simp
      have hback : mark ∉ back.reverse := by simpa using hnot
      rw [htext, takeWhile_reverse_append hback, Option.some_inj] at h
      rw [← h]
      exact ⟨front.reverse, htext, hback⟩
    · cases h
  · rintro ⟨before, rfl, hafter⟩
    rw [if_pos (by simp), takeWhile_reverse_append hafter]

/-- Without the marks at its end, a text is what these were added to. -/
theorem rdropWhile_eq_iff :
    text.rdropWhile (· = mark) = before ↔
      (∃ n, text = before ++ List.replicate n mark) ∧ before.getLast? ≠ some mark := by
  constructor
  · rintro rfl
    refine ⟨?_, fun hlast => ?_⟩
    · induction text using List.reverseRecOn with
      | nil => exact ⟨0, rfl⟩
      | append_singleton cs c ih =>
          by_cases hc : c = mark
          · obtain ⟨n, hn⟩ := ih
            refine ⟨n + 1, ?_⟩
            rw [List.rdropWhile_concat_pos _ _ _ (by simpa using hc), List.replicate_succ',
              ← List.append_assoc, ← hn, hc]
          · exact ⟨0, by rw [List.rdropWhile_concat_neg _ _ _ (by simpa using hc)]; simp⟩
    · have hne : text.rdropWhile (· = mark) ≠ [] := fun hnil => by simp [hnil] at hlast
      rw [List.getLast?_eq_some_getLast hne, Option.some.injEq] at hlast
      exact List.rdropWhile_last_not _ _ hne (by simpa using hlast)
  · rintro ⟨⟨n, rfl⟩, hlast⟩
    induction n with
    | zero =>
        rw [List.replicate_zero, List.append_nil, List.rdropWhile_eq_self_iff]
        intro hne hmark
        exact hlast (by rw [List.getLast?_eq_some_getLast hne]; simpa using hmark)
    | succ n ih =>
        rw [List.replicate_succ', ← List.append_assoc,
          List.rdropWhile_concat_pos _ _ _ (by simp), ih]

end TronWallet.Text
