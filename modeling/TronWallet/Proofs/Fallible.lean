/-!
# Results of steps that can fail

When a combination of steps that can fail succeeds, each of its steps has. These equations
take such a combination apart.
-/

namespace Except

variable {ε ε' α β : Type}

theorem bind_eq_ok_iff {x : Except ε α} {f : α → Except ε β} {b : β} :
    (x >>= f) = .ok b ↔ ∃ a, x = .ok a ∧ f a = .ok b := by
  cases x <;> simp [bind, Except.bind]

theorem map_eq_ok_iff {x : Except ε α} {f : α → β} {b : β} :
    x.map f = .ok b ↔ ∃ a, x = .ok a ∧ f a = b := by
  cases x <;> simp [Except.map]

@[simp] theorem mapError_ok (f : ε → ε') (a : α) : (ok a : Except ε α).mapError f = .ok a := rfl

@[simp] theorem mapError_error (f : ε → ε') (e : ε) :
    (error e : Except ε α).mapError f = .error (f e) := rfl

theorem mapError_eq_ok_iff {x : Except ε α} {f : ε → ε'} {a : α} :
    x.mapError f = .ok a ↔ x = .ok a := by
  cases x <;> simp

theorem toOption_eq_some_iff {x : Except ε α} {a : α} : x.toOption = some a ↔ x = .ok a := by
  cases x <;> simp [Except.toOption]

/-- What each step of a fold keeps, the fold keeps. -/
theorem foldlM_induction {P : β → Prop} {f : β → α → Except ε β} {l : List α}
    (hf : ∀ a ∈ l, ∀ b b', P b → f b a = .ok b' → P b') {b b' : β} (hb : P b)
    (h : l.foldlM f b = .ok b') : P b' := by
  induction l generalizing b with
  | nil =>
      obtain rfl := Except.ok.inj h
      exact hb
  | cons a l ih =>
      obtain ⟨ha, hl⟩ := List.forall_mem_cons.1 hf
      rw [List.foldlM_cons, bind_eq_ok_iff] at h
      obtain ⟨b₁, hb₁, h⟩ := h
      exact ih hl (ha b b₁ hb hb₁) h

/-- A fold succeeds if each of its steps does, whatever the steps before it have made. -/
theorem exists_foldlM {f : β → α → Except ε β} {l : List α}
    (hf : ∀ a ∈ l, ∀ b, ∃ b', f b a = .ok b') (b : β) : ∃ b', l.foldlM f b = .ok b' := by
  induction l generalizing b with
  | nil => exact ⟨b, rfl⟩
  | cons a l ih =>
      obtain ⟨ha, hl⟩ := List.forall_mem_cons.1 hf
      obtain ⟨b₁, hb₁⟩ := ha b
      obtain ⟨b', hb'⟩ := ih hl b₁
      exact ⟨b', by rw [List.foldlM_cons, hb₁]; exact hb'⟩

/-- A fold can leave out what changes nothing. -/
theorem foldlM_filter {f : β → α → Except ε β} {p : α → Bool}
    (hf : ∀ b a, p a = false → f b a = .ok b) (l : List α) (b : β) :
    (l.filter p).foldlM f b = l.foldlM f b := by
  have hstep : (fun b a => if p a = true then f b a else pure b) = f := by
    funext b a
    split
    · rfl
    · exact (hf b a (Bool.eq_false_iff.2 ‹_›)).symm
  rw [List.foldlM_filter, hstep]

end Except
