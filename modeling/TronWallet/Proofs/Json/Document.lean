import TronWallet.Proofs.Json.Layout
import TronWallet.Proofs.Json.Numbers
import TronWallet.Proofs.Json.Reader
import TronWallet.Proofs.Json.Strings

/-!
# Documents read back

`parse?` is the document that a text holds, with the members of an object in the order in
which they stand. Whatever is written in a layout is JSON for the tree of the document
(`isValue_write`), so that every text in either layout holds exactly the document that
it was written for (`parse?_compact`, `parse?_pretty`), and no text on one line was
written for two of them (`compact_injective`).
-/

namespace TronWallet.Json

/-! ## The document of a tree -/

mutual

/-- The document that a tree says, if it has one: all of it is JSON, its strings and keys
have texts and its numbers are integers. -/
def Reading.value? : Reading → Option Value
  | .null => some .null
  | .boolean b => some (.boolean b)
  | .number n => n.integer?.map .integer
  | .string text => text.map .string
  | .array items => (itemValues? items).map .array
  | .object members => (memberValues? members).map .object
  | .broken => none

def itemValues? : List Reading → Option (List Value)
  | [] => some []
  | r :: rs => do
    let v ← r.value?
    let vs ← itemValues? rs
    return v :: vs

def memberValues? : List (Option String × Reading) → Option (List (String × Value))
  | [] => some []
  | (key, r) :: ms => do
    let key ← key
    let v ← r.value?
    let vs ← memberValues? ms
    return (key, v) :: vs

end

/-- The document that a text holds, with blanks around it but nothing else. -/
def parse? (cs : List Char) : Option Value :=
  if (read cs).ends then (read cs).value.value? else none

mutual

/-- The tree as which a document is read. -/
def Value.reading : Value → Reading
  | .null => .null
  | .boolean b => .boolean b
  | .integer n => .number (.ofInt n)
  | .string s => .string (some s)
  | .array items => .array (itemReadings items)
  | .object members => .object (memberReadings members)

def itemReadings : List Value → List Reading
  | [] => []
  | v :: vs => v.reading :: itemReadings vs

def memberReadings : List (String × Value) → List (Option String × Reading)
  | [] => []
  | (k, v) :: ms => (some k, v.reading) :: memberReadings ms

end

mutual

theorem value?_reading : ∀ v : Value, v.reading.value? = some v
  | .null => rfl
  | .boolean _ => rfl
  | .integer n => by rw [Value.reading, Reading.value?, Numeral.integer?_ofInt, Option.map_some]
  | .string _ => rfl
  | .array items => by
      rw [Value.reading, Reading.value?, itemValues?_itemReadings, Option.map_some]
  | .object members => by
      rw [Value.reading, Reading.value?, memberValues?_memberReadings, Option.map_some]

theorem itemValues?_itemReadings : ∀ vs : List Value, itemValues? (itemReadings vs) = some vs
  | [] => rfl
  | v :: vs => by
      rw [itemReadings, itemValues?, value?_reading, itemValues?_itemReadings]
      rfl

theorem memberValues?_memberReadings :
    ∀ ms : List (String × Value), memberValues? (memberReadings ms) = some ms
  | [] => rfl
  | (k, v) :: ms => by
      rw [memberReadings, memberValues?, value?_reading, memberValues?_memberReadings]
      rfl

end

/-! ## Written documents -/

theorem isString_stringText (cs : List Char) :
    IsString (some (String.ofList cs)) (stringText cs) := by
  obtain ⟨string, hstring, heq⟩ := exists_of_readString (readString_flatMap_escape cs [])
  rw [List.append_nil] at heq
  rwa [← heq] at hstring

theorem isWhole_ofNat (n : Nat) :
    IsWhole ((Text.Decimal.ofNat n).map Text.Decimal.digitValue) (Text.Decimal.ofNat n) := by
  refine .mk ⟨Text.Decimal.ofNat_ne_nil n, fun _ => Text.Decimal.isDigit_of_mem_ofNat⟩ ?_
  intro hhead
  by_cases hzero : n = 0
  · rw [hzero]
    rfl
  · exact absurd hhead (Text.Decimal.head?_ofNat_ne_zero hzero)

theorem isNumeral_ofInt (n : Int) : IsNumeral (.ofInt n) (Text.Decimal.ofInt n) := by
  have hwhole := isWhole_ofNat n.natAbs
  cases n with
  | ofNat n =>
      have hsign : IsSign (Numeral.ofInt (.ofNat n)).negative [] := .none
      rw [Text.Decimal.ofInt]
      simpa using IsNumeral.mk hsign hwhole .none .none
  | negSucc n =>
      have hsign : IsSign (Numeral.ofInt (.negSucc n)).negative ['-'] := by
        rw [Numeral.ofInt, decide_eq_true (Int.negSucc_lt_zero n)]
        exact .minus
      rw [Text.Decimal.ofInt]
      simpa using IsNumeral.mk hsign hwhole .none .none

namespace Value

variable (l : Layout)

theorem isKey_lineStart (level : Nat) (key : String) :
    IsKey (some key) (l.lineStart level ++ stringText key.toList) := by
  have hkey :=
    IsKey.mk (l.blank_lineStart level) (isString_stringText key.toList) isBlanks_nil
  rwa [String.ofList_toList, List.append_nil] at hkey

mutual

/-- A written value is JSON for its tree. -/
theorem isValue_write (level : Nat) : ∀ v : Value, IsValue v.reading (write l level v)
  | .null => .null
  | .boolean true => .yes
  | .boolean false => .no
  | .integer n => .number (isNumeral_ofInt n)
  | .string s => by
      have hstring := isString_stringText s.toList
      rw [String.ofList_toList] at hstring
      exact .string hstring
  | .array [] => .noElements isBlanks_nil
  | .array (v :: vs) => by
      have helements := isElements_writeItems (level + 1) (v :: vs) (List.cons_ne_nil v vs)
        (l.blank_lineStart level)
      simpa [write, reading] using IsValue.elements helements
  | .object [] => .noMembers isBlanks_nil
  | .object (m :: ms) => by
      have hmembers := isMembers_writeMembers (level + 1) (m :: ms) (List.cons_ne_nil m ms)
        (l.blank_lineStart level)
      simpa [write, reading] using IsValue.members hmembers

/-- The blanks after the last element stand before the bracket that closes its level. -/
theorem isElements_writeItems (level : Nat) : ∀ (vs : List Value), vs ≠ [] →
    ∀ {blanks : List Char}, IsBlanks blanks →
      IsElements (itemReadings vs) (writeItems l level vs ++ blanks)
  | [], hne, _, _ => absurd rfl hne
  | [v], _, _, hblanks =>
      .last (.mk (l.blank_lineStart level) (isValue_write level v) hblanks)
  | v :: w :: vs, _, _, hblanks => by
      have helement := IsElement.mk (l.blank_lineStart level) (isValue_write level v) isBlanks_nil
      have hmore := isElements_writeItems level (w :: vs) (List.cons_ne_nil w vs) hblanks
      simpa [writeItems, itemReadings] using IsElements.more helement hmore

theorem isMembers_writeMembers (level : Nat) : ∀ (ms : List (String × Value)), ms ≠ [] →
    ∀ {blanks : List Char}, IsBlanks blanks →
      IsMembers (memberReadings ms) (writeMembers l level ms ++ blanks)
  | [], hne, _, _ => absurd rfl hne
  | [(k, v)], _, _, hblanks => by
      have helement := IsElement.mk l.blank_gap (isValue_write level v) hblanks
      simpa [writeMembers, memberReadings] using IsMembers.last (isKey_lineStart l level k) helement
  | (k, v) :: m :: ms, _, _, hblanks => by
      have helement := IsElement.mk l.blank_gap (isValue_write level v) isBlanks_nil
      have hmore := isMembers_writeMembers level (m :: ms) (List.cons_ne_nil m ms) hblanks
      simpa [writeMembers, memberReadings] using
        IsMembers.more (isKey_lineStart l level k) helement hmore

end

/-! ## Whole texts -/

theorem read_write_append (v : Value) {blanks : List Char} (h : IsBlanks blanks) :
    read (write l 0 v ++ blanks) = ⟨v.reading, true⟩ :=
  read_eq_iff.2 (.mk isBlanks_nil (isValue_write l 0 v) h)

/-- A text in a layout, with blanks after it, holds the document that it was written for. -/
theorem parse?_write_append (v : Value) {blanks : List Char}
    (h : ∀ c ∈ blanks, isBlank c = true) : parse? (write l 0 v ++ blanks) = some v := by
  rw [parse?, read_write_append l v h]
  exact value?_reading v

theorem parse?_compact_append (v : Value) {blanks : List Char}
    (h : ∀ c ∈ blanks, isBlank c = true) : parse? (v.compact ++ blanks) = some v := by
  rw [← write_oneLine 0, parse?_write_append .oneLine v h]

theorem parse?_pretty_append (v : Value) {blanks : List Char}
    (h : ∀ c ∈ blanks, isBlank c = true) : parse? (v.pretty ++ blanks) = some v := by
  rw [pretty, ← write_indented 0, parse?_write_append .indented v h]

theorem parse?_compact (v : Value) : parse? v.compact = some v := by
  simpa using parse?_compact_append v (List.forall_mem_nil _)

theorem parse?_pretty (v : Value) : parse? v.pretty = some v := by
  simpa using parse?_pretty_append v (List.forall_mem_nil _)

/-- A decoder finds every written integer that fits 64 bits, with or without a sign. -/
theorem decode_found_compact {n : Int} (hlow : -0x8000000000000000 ≤ n)
    (hhigh : n ≤ 0xFFFFFFFFFFFFFFFF) :
    decode Reading.found (String.ofList (integer n).compact) = .ok (.integer n) := by
  have hread : read (integer n).compact = ⟨.number (.ofInt n), true⟩ := by
    have happend := read_write_append .oneLine (integer n) (List.forall_mem_nil _)
    rwa [write_oneLine, List.append_nil, reading] at happend
  have hnumber := Numeral.number?_of_integer? (Numeral.integer?_ofInt n) hlow hhigh
  rw [decode, String.toList_ofList, hread]
  simp only [Reading.found, hnumber, if_true]

/-- No text on one line is written for two documents. -/
theorem compact_injective {v w : Value} (h : v.compact = w.compact) : v = w := by
  have hv := parse?_compact v
  rw [h, parse?_compact] at hv
  exact (Option.some.inj hv).symm

end Value

end TronWallet.Json
