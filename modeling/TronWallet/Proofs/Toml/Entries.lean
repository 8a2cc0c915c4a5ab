import TronWallet.Toml.Entries

/-!
# What is found in a table under construction

Each change of one entry, said by what is found under every key after it.
-/

namespace TronWallet.Toml.Entries

variable {es : Entries} {key : String} {node : Node}

@[simp] theorem get?_nil (key : String) : get? [] key = none := rfl

theorem get?_eq_none_iff : es.get? key = none ↔ key ∉ es.map Prod.fst := by
  rw [get?, Option.map_eq_none_iff, List.find?_eq_none, List.mem_map]
  simp only [decide_eq_true_eq, not_exists, not_and]

theorem get?_push (h : es.get? key = none) (node : Node) (k : String) :
    (es.push key node).get? k = if k = key then some node else es.get? k := by
  have hsingle : ([(key, node)] : Entries).find? (fun e => e.1 = k) =
      if k = key then some (key, node) else none := by
    by_cases hk : k = key
    · simp [hk]
    · simp [hk, Ne.symm hk]
  rw [get?, push, List.find?_append, hsingle]
  split
  · rename_i hk
    rw [get?, Option.map_eq_none_iff] at h
    rw [hk, h, Option.none_or, Option.map_some]
  · rw [Option.or_none, get?]

theorem get?_erase (es : Entries) (key k : String) :
    (es.erase key).get? k = if k = key then none else es.get? k := by
  rw [get?, erase, List.find?_filter]
  split
  · simp +contextual [*]
  · rename_i hk
    rw [get?]
    congr 2
    funext e
    by_cases he : e.1 = k
    · simp [he, hk]
    · simp [he]

theorem map_fst_replace (es : Entries) (key : String) (node : Node) :
    (es.replace key node).map Prod.fst = es.map Prod.fst := by
  rw [replace, List.map_map]
  refine List.map_congr_left fun e _ => ?_
  rw [Function.comp_apply]
  split
  · exact Eq.symm ‹_›
  · rfl

theorem get?_replace {old : Node} (h : es.get? key = some old) (node : Node) (k : String) :
    (es.replace key node).get? k = if k = key then some node else es.get? k := by
  have hkeys : (fun e : String × Node => decide (e.1 = k)) ∘
      (fun e => if e.1 = key then (key, node) else e) = fun e => decide (e.1 = k) := by
    funext e
    rw [Function.comp_apply]
    split
    · rename_i he
      rw [he]
    · rfl
  rw [get?, replace, List.find?_map, hkeys, Option.map_map]
  split
  · rename_i hk
    rw [get?, Option.map_eq_some_iff] at h
    obtain ⟨e, he, -⟩ := h
    have hkey : e.1 = key := by simpa using List.find?_some he
    rw [hk, he, Option.map_some, Function.comp_apply, if_pos hkey]
  · rename_i hk
    rw [get?]
    refine Option.map_congr fun e he => ?_
    have hkey : e.1 = k := by simpa using List.find?_some he
    rw [Function.comp_apply, if_neg (hkey ▸ hk)]

end TronWallet.Toml.Entries
