import Mathlib.Data.Nat.Digits.Lemmas
import TronWallet.Text.Positional

/-!
# Numbers and their digits

`digits` and `value` are inverse to each other as long as no digit list begins with a
zero. Both are tied to the library's `Nat.digits` and `Nat.ofDigits`, which list the least
significant digit first. How many digits a number has, and which one is the first, is read
off from the powers of the base around it (`exists_digits_eq_cons`).
-/

namespace TronWallet.Text.Positional

variable {b : Nat}

theorem digitsOnto_eq_reverse_append (hb : 1 < b) (bound n : Nat) (ds : List Nat)
    (hn : n ≤ bound) : digitsOnto b bound n ds = (Nat.digits b n).reverse ++ ds := by
  induction bound generalizing n ds with
  | zero =>
      have hzero : n = 0 := by omega
      simp [digitsOnto, hzero]
  | succ bound ih =>
      rw [digitsOnto]
      by_cases hzero : n = 0
      · simp [hzero]
      · have hlt : n / b < n := Nat.div_lt_self (by omega) hb
        rw [if_neg hzero, ih (n / b) _ (by omega), Nat.digits_def' (n := n) hb (by omega)]
        simp

theorem digits_eq_reverse (hb : 1 < b) (n : Nat) : digits b n = (Nat.digits b n).reverse := by
  rw [digits, digitsOnto_eq_reverse_append hb n n [] le_rfl, List.append_nil]

theorem value_eq_ofDigits (b : Nat) (ds : List Nat) : value b ds = Nat.ofDigits b ds.reverse := by
  induction ds using List.reverseRecOn with
  | nil => rfl
  | append_singleton ds d ih =>
      rw [value_append_singleton, ih, List.reverse_append, List.reverse_singleton,
        List.singleton_append, Nat.ofDigits_cons]
      ring

/-- The digits of a number stand for it. -/
theorem value_digits (hb : 1 < b) (n : Nat) : value b (digits b n) = n := by
  rw [value_eq_ofDigits, digits_eq_reverse hb, List.reverse_reverse, Nat.ofDigits_digits]

theorem lt_of_mem_digits (hb : 1 < b) {n d : Nat} (h : d ∈ digits b n) : d < b := by
  rw [digits_eq_reverse hb, List.mem_reverse] at h
  exact Nat.digits_lt_base hb h

theorem head?_digits_ne_zero (hb : 1 < b) (n : Nat) : (digits b n).head? ≠ some 0 := by
  rw [digits_eq_reverse hb, List.head?_reverse]
  intro h
  by_cases hzero : n = 0
  · simp [hzero] at h
  · have hne : Nat.digits b n ≠ [] := Nat.digits_ne_nil_iff_ne_zero.2 hzero
    rw [List.getLast?_eq_some_getLast hne] at h
    exact Nat.getLast_digit_ne_zero b hzero (Option.some.inj h)

/-- Digits without a leading zero are the digits of the number they stand for. -/
theorem digits_value (hb : 1 < b) {ds : List Nat} (hlt : ∀ d ∈ ds, d < b)
    (hhead : ds.head? ≠ some 0) : digits b (value b ds) = ds := by
  have hlast : ∀ h : ds.reverse ≠ [], ds.reverse.getLast h ≠ 0 := by
    intro h hzero
    apply hhead
    rw [← List.getLast?_reverse, List.getLast?_eq_some_getLast h, hzero]
  rw [digits_eq_reverse hb, value_eq_ofDigits,
    Nat.digits_ofDigits b hb ds.reverse (by simpa using hlt) hlast, List.reverse_reverse]

/-- Leading zeros do not change the number. -/
theorem value_replicate_zero_append (b k : Nat) (ds : List Nat) :
    value b (List.replicate k 0 ++ ds) = value b ds := by
  rw [value_eq_ofDigits, value_eq_ofDigits, List.reverse_append, List.reverse_replicate,
    Nat.ofDigits_append_replicate_zero]

/-- Reading on never makes the number smaller. -/
theorem le_foldl_digits (hb : 0 < b) (n : Nat) (ds : List Nat) :
    n ≤ ds.foldl (fun n d => n * b + d) n := by
  induction ds generalizing n with
  | nil => exact Nat.le_refl n
  | cons d ds ih =>
      calc n ≤ n * b := Nat.le_mul_of_pos_right n hb
        _ ≤ n * b + d := Nat.le_add_right _ d
        _ ≤ ds.foldl (fun n d => n * b + d) (n * b + d) := ih _

/-! ## How large a number of so many digits is -/

theorem value_cons (b d : Nat) (ds : List Nat) :
    value b (d :: ds) = d * b ^ ds.length + value b ds := by
  rw [value_eq_ofDigits, value_eq_ofDigits, List.reverse_cons, Nat.ofDigits_append,
    List.length_reverse, Nat.ofDigits_singleton]
  ring

theorem value_lt_pow (hb : 1 < b) {ds : List Nat} (hlt : ∀ d ∈ ds, d < b) :
    value b ds < b ^ ds.length := by
  have hreverse : ∀ d ∈ ds.reverse, d < b := fun d hd => hlt d (List.mem_reverse.1 hd)
  rw [value_eq_ofDigits, ← List.length_reverse]
  exact Nat.ofDigits_lt_base_pow_length hb hreverse

theorem digits_eq_append (hb : 1 < b) {n : Nat} (hn : n ≠ 0) :
    digits b n = digits b (n / b) ++ [n % b] := by
  rw [digits_eq_reverse hb, digits_eq_reverse hb, Nat.digits_def' hb (Nat.pos_of_ne_zero hn),
    List.reverse_cons]

/-- A number from `d * b ^ k` on and below `(d + 1) * b ^ k` has `k` digits after the digit `d`. -/
theorem exists_digits_eq_cons (hb : 1 < b) {d k n : Nat} (hd : 0 < d) (hdb : d < b)
    (hle : d * b ^ k ≤ n) (hlt : n < (d + 1) * b ^ k) :
    ∃ ds, ds.length = k ∧ digits b n = d :: ds := by
  induction k generalizing n with
  | zero =>
      rw [pow_zero, mul_one] at hle hlt
      obtain rfl : n = d := by omega
      refine ⟨[], rfl, ?_⟩
      rw [digits_eq_append hb (by omega), Nat.div_eq_of_lt hdb, Nat.mod_eq_of_lt hdb, digits_zero,
        List.nil_append]
  | succ k ih =>
      rw [pow_succ, ← mul_assoc] at hle hlt
      have hpos : 0 < b := by omega
      have hprefix : 0 < d * b ^ k * b := by positivity
      -- The quotient by the base has the same first digit and one digit less.
      obtain ⟨ds, hlength, hdigits⟩ :=
        ih ((Nat.le_div_iff_mul_le hpos).2 hle) ((Nat.div_lt_iff_lt_mul hpos).2 hlt)
      refine ⟨ds ++ [n % b], by simp [hlength], ?_⟩
      rw [digits_eq_append hb (by omega), hdigits, List.cons_append]

end TronWallet.Text.Positional
