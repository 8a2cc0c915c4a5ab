import Mathlib.Data.List.Nodup
import TronWallet.Proofs.Toml.Hereditary

/-!
# What stands under a key

No table of a document that is read has a key twice, at whatever depth it stands
(`distinct_of_parse?`), so that an entry of a table is what is found under its key
(`Table.mem_iff_get?`). `Table.at?` looks for a key in a table that stands under a key.
-/

namespace TronWallet.Toml

/-- No table in the value has a key twice. -/
inductive Value.Distinct : Value → Prop where
  | text (s : String) : Distinct (.text s)
  | integer (n : Int) : Distinct (.integer n)
  | floating (x : Number.Binary64) : Distinct (.floating x)
  | boolean (b : Bool) : Distinct (.boolean b)
  | moment (m : Moment) : Distinct (.moment m)
  | array {items : List Value} (h : ∀ v ∈ items, Distinct v) : Distinct (.array items)
  | table {entries : List (String × Value)} (hkeys : (entries.map Prod.fst).Nodup)
      (h : ∀ e ∈ entries, Distinct e.2) : Distinct (.table entries)

theorem hereditary_distinct : Hereditary Value.Distinct List.Nodup where
  text := .text
  integer := fun n _ => .integer n
  floating := .floating
  boolean := .boolean
  moment := .moment
  array := fun _ => .array
  table := fun _ => .table
  nil := List.nodup_nil
  push := fun _ _ hnew hkeys => by
    rw [← List.concat_eq_append, List.nodup_concat]
    exact ⟨hnew, hkeys⟩
  sublist := fun _ _ h => h.nodup

/-- No table of a document that is read has a key twice. -/
theorem distinct_of_parse? {text : String} {t : Table} (h : parse? text = some t) :
    (t.map Prod.fst).Nodup ∧ ∀ e ∈ t, e.2.Distinct :=
  hereditary_distinct.of_parse? h

namespace Table

/-- The value of a key. -/
def get? (t : Table) (key : String) : Option Value :=
  (t.find? fun e => e.1 = key).map Prod.snd

/-- The value of a key in the table of a key. -/
def at? (t : Table) (name key : String) : Option Value :=
  match get? t name with
  | some (.table sub) => get? sub key
  | _ => none

variable {t sub : Table} {name key : String} {v : Value}

theorem mem_of_get? (h : get? t key = some v) : (key, v) ∈ t := by
  rw [get?, Option.map_eq_some_iff] at h
  obtain ⟨e, he, rfl⟩ := h
  have hkey : e.1 = key := by simpa using List.find?_some he
  exact hkey ▸ List.mem_of_find?_eq_some he

theorem get?_eq_none_iff : get? t key = none ↔ ∀ e ∈ t, e.1 ≠ key := by
  simp [get?]

/-- What is found under a key is the entry of the key, if no key occurs twice. -/
theorem mem_iff_get? (hkeys : (t.map Prod.fst).Nodup) : (key, v) ∈ t ↔ get? t key = some v := by
  refine ⟨fun hmem => ?_, mem_of_get?⟩
  cases hget : get? t key with
  | none => exact absurd rfl (get?_eq_none_iff.1 hget _ hmem)
  | some w =>
      have heq : (key, w) = (key, v) :=
        List.inj_on_of_nodup_map hkeys (mem_of_get? hget) hmem rfl
      rw [(Prod.mk.inj heq).2]

/-- The table of a key has no key twice, if this holds of the values of the table around it. -/
theorem nodup_of_get? (ht : ∀ e ∈ t, e.2.Distinct) (h : get? t name = some (.table sub)) :
    (sub.map Prod.fst).Nodup := by
  cases ht _ (mem_of_get? h) with
  | table hkeys _ => exact hkeys

theorem at?_of_get? (h : get? t name = some (.table sub)) : at? t name key = get? sub key := by
  rw [at?, h]

theorem at?_of_get?_eq_none (h : get? t name = none) : at? t name key = none := by
  rw [at?, h]

theorem at?_eq_some_iff :
    at? t name key = some v ↔ ∃ sub, get? t name = some (.table sub) ∧ get? sub key = some v := by
  rw [at?]
  split
  · rename_i sub hsub
    simp [hsub]
  · rename_i hne
    simp only [reduceCtorEq, false_iff, not_exists, not_and]
    exact fun sub hsub => absurd hsub (hne sub)

end Table

end TronWallet.Toml
