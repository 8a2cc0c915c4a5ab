import TronWallet.Json.Reading
import TronWallet.Json.Value
import TronWallet.Proofs.Text.Decimal

/-!
# One writer for both layouts

The layouts of a document differ in the blanks between its tokens and in nothing else. A
`Layout` holds these blanks, with the proof that they are blanks, and `Value.write` writes
a document in a layout. Writing on one line and writing with indentation are its two
instances (`write_oneLine`, `write_indented`), so what is proved of `write` holds of both.
On one line there is no line break, whatever stands in the strings
(`le_toNat_of_mem_compact`).
-/

namespace TronWallet.Json

/-- The blanks between the tokens of a document. -/
structure Layout where
  /-- What stands before an element or member of a level, and before the bracket that
  closes the level. -/
  lineStart : Nat → List Char
  /-- What stands after the colon of a member. -/
  gap : List Char
  blank_lineStart : ∀ level, ∀ c ∈ lineStart level, isBlank c = true
  blank_gap : ∀ c ∈ gap, isBlank c = true

namespace Layout

/-- No blanks at all. -/
def oneLine : Layout where
  lineStart _ := []
  gap := []
  blank_lineStart := by simp
  blank_gap := by simp

/-- Each element and member on a line of its own, indented by its level. -/
def indented : Layout where
  lineStart := Value.lineBreak
  gap := [' ']
  blank_lineStart := by
    intro level c hc
    rcases List.mem_cons.1 hc with rfl | hc
    · rfl
    · rw [List.eq_of_mem_replicate hc]
      rfl
  blank_gap := List.forall_mem_singleton.2 rfl

end Layout

namespace Value

variable (l : Layout)

mutual

/-- The document in a layout; `level` is the depth at which it stands. -/
def write (level : Nat) : Value → List Char
  | null => "null".toList
  | boolean b => booleanText b
  | integer n => Text.Decimal.ofInt n
  | string s => stringText s.toList
  | array [] => ['[', ']']
  | array (v :: vs) => '[' :: writeItems (level + 1) (v :: vs) ++ l.lineStart level ++ [']']
  | object [] => ['\x7b', '\x7d']
  | object (m :: ms) =>
    '\x7b' :: writeMembers (level + 1) (m :: ms) ++ l.lineStart level ++ ['\x7d']

/-- Elements with commas between them. -/
def writeItems (level : Nat) : List Value → List Char
  | [] => []
  | [v] => l.lineStart level ++ write level v
  | v :: w :: vs => l.lineStart level ++ write level v ++ ',' :: writeItems level (w :: vs)

/-- Members with commas between them. -/
def writeMembers (level : Nat) : List (String × Value) → List Char
  | [] => []
  | [(k, v)] => l.lineStart level ++ stringText k.toList ++ ':' :: l.gap ++ write level v
  | (k, v) :: m :: ms =>
    l.lineStart level ++ stringText k.toList ++ ':' :: l.gap ++ write level v ++
      ',' :: writeMembers level (m :: ms)

end

/-! ## The two layouts -/

mutual

theorem write_oneLine (level : Nat) : ∀ v, write .oneLine level v = compact v
  | null => rfl
  | boolean _ => rfl
  | integer _ => rfl
  | string _ => rfl
  | array [] => rfl
  | array (v :: vs) => by
      rw [write, compact, writeItems_oneLine, Layout.oneLine, List.append_nil]
  | object [] => rfl
  | object (m :: ms) => by
      rw [write, compact, writeMembers_oneLine, Layout.oneLine, List.append_nil]

theorem writeItems_oneLine (level : Nat) : ∀ vs, writeItems .oneLine level vs = compactItems vs
  | [] => rfl
  | [v] => by
      rw [writeItems, compactItems, write_oneLine, Layout.oneLine, List.nil_append]
  | v :: w :: vs => by
      rw [writeItems, compactItems, write_oneLine, writeItems_oneLine, Layout.oneLine,
        List.nil_append]

theorem writeMembers_oneLine (level : Nat) :
    ∀ ms, writeMembers .oneLine level ms = compactMembers ms
  | [] => rfl
  | [(k, v)] => by
      rw [writeMembers, compactMembers, write_oneLine, Layout.oneLine]
      simp
  | (k, v) :: m :: ms => by
      rw [writeMembers, compactMembers, write_oneLine, writeMembers_oneLine, Layout.oneLine]
      simp

end

mutual

theorem write_indented (level : Nat) : ∀ v, write .indented level v = prettyAt level v
  | null => rfl
  | boolean _ => rfl
  | integer _ => rfl
  | string _ => rfl
  | array [] => rfl
  | array (v :: vs) => by
      rw [write, prettyAt, writeItems_indented, Layout.indented]
  | object [] => rfl
  | object (m :: ms) => by
      rw [write, prettyAt, writeMembers_indented, Layout.indented]

theorem writeItems_indented (level : Nat) :
    ∀ vs, writeItems .indented level vs = prettyItems level vs
  | [] => rfl
  | [v] => by
      rw [writeItems, prettyItems, write_indented, Layout.indented]
  | v :: w :: vs => by
      rw [writeItems, prettyItems, write_indented, writeItems_indented, Layout.indented]

theorem writeMembers_indented (level : Nat) :
    ∀ ms, writeMembers .indented level ms = prettyMembers level ms
  | [] => rfl
  | [(k, v)] => by
      rw [writeMembers, prettyMembers, write_indented, Layout.indented]
      simp
  | (k, v) :: m :: ms => by
      rw [writeMembers, prettyMembers, write_indented, writeMembers_indented, Layout.indented]
      simp

end

/-! ## One line -/

theorem le_toNat_of_all {cs : List Char} (hall : cs.all (0x20 ≤ ·.toNat) = true) {d : Char}
    (h : d ∈ cs) : 0x20 ≤ d.toNat := by
  simpa using List.all_eq_true.1 hall d h

theorem le_toNat_of_mem_ofInt {n : Int} {c : Char} (h : c ∈ Text.Decimal.ofInt n) :
    0x20 ≤ c.toNat := by
  have hdigits : ∀ {n : Nat}, c ∈ Text.Decimal.ofNat n → 0x20 ≤ c.toNat := by
    intro n hc
    have hdigit := Text.Decimal.isDigit_of_mem_ofNat hc
    simp only [Text.Decimal.isDigit, Bool.and_eq_true, decide_eq_true_eq] at hdigit
    exact Nat.le_trans (by decide) hdigit.1
  cases n with
  | ofNat n => exact hdigits h
  | negSucc n =>
      rcases List.mem_cons.1 h with rfl | h
      · decide
      · exact hdigits h

theorem le_toNat_of_mem_escape {c d : Char} (h : d ∈ escape c) : 0x20 ≤ d.toNat := by
  rw [escape] at h
  iterate 7
    split at h
    · exact le_toNat_of_all rfl h
  split at h
  · rename_i hlt
    have hdigits : ∀ n < 0x20, ['\\', 'u', '0', '0', Text.Hex.digit (n / 16),
        Text.Hex.digit (n % 16)].all (0x20 ≤ ·.toNat) = true := by
      decide
    exact le_toNat_of_all (hdigits c.toNat hlt) h
  · rename_i hge
    rw [List.mem_singleton.1 h]
    exact Nat.le_of_not_lt hge

theorem le_toNat_of_mem_stringText {cs : List Char} {d : Char} (h : d ∈ stringText cs) :
    0x20 ≤ d.toNat := by
  simp only [stringText, List.cons_append, List.mem_cons, List.mem_append, List.mem_flatMap,
    List.not_mem_nil, or_false] at h
  rcases h with rfl | ⟨c, -, hc⟩ | rfl
  · decide
  · exact le_toNat_of_mem_escape hc
  · decide

mutual

/-- On one line there are no control characters, and so no line breaks. -/
theorem le_toNat_of_mem_compact {d : Char} : ∀ v : Value, d ∈ v.compact → 0x20 ≤ d.toNat
  | null, h => le_toNat_of_all rfl h
  | boolean true, h => le_toNat_of_all rfl h
  | boolean false, h => le_toNat_of_all rfl h
  | integer n, h => le_toNat_of_mem_ofInt h
  | string s, h => le_toNat_of_mem_stringText h
  | array vs, h => by
      simp only [compact, List.cons_append, List.mem_cons, List.mem_append, List.not_mem_nil,
        or_false] at h
      rcases h with rfl | h | rfl
      · decide
      · exact le_toNat_of_mem_compactItems vs h
      · decide
  | object ms, h => by
      simp only [compact, List.cons_append, List.mem_cons, List.mem_append, List.not_mem_nil,
        or_false] at h
      rcases h with rfl | h | rfl
      · decide
      · exact le_toNat_of_mem_compactMembers ms h
      · decide

theorem le_toNat_of_mem_compactItems {d : Char} :
    ∀ vs : List Value, d ∈ compactItems vs → 0x20 ≤ d.toNat
  | [], h => by cases h
  | [v], h => le_toNat_of_mem_compact v h
  | v :: w :: vs, h => by
      simp only [compactItems, List.mem_append, List.mem_cons] at h
      rcases h with h | rfl | h
      · exact le_toNat_of_mem_compact v h
      · decide
      · exact le_toNat_of_mem_compactItems (w :: vs) h

theorem le_toNat_of_mem_compactMembers {d : Char} :
    ∀ ms : List (String × Value), d ∈ compactMembers ms → 0x20 ≤ d.toNat
  | [], h => by cases h
  | [(k, v)], h => by
      simp only [compactMembers, List.mem_append, List.mem_cons] at h
      rcases h with h | rfl | h
      · exact le_toNat_of_mem_stringText h
      · decide
      · exact le_toNat_of_mem_compact v h
  | (k, v) :: m :: ms, h => by
      simp only [compactMembers, List.cons_append, List.append_assoc, List.mem_append,
        List.mem_cons] at h
      rcases h with h | rfl | h | rfl | h
      · exact le_toNat_of_mem_stringText h
      · decide
      · exact le_toNat_of_mem_compact v h
      · decide
      · exact le_toNat_of_mem_compactMembers (m :: ms) h

end

end Value

end TronWallet.Json
