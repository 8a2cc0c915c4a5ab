import TronWallet.Proofs.Toml.Entries
import TronWallet.Toml.Reading

/-!
# What holds of all values of a document

A property of values is `Hereditary`, together with one of the keys of a table, if scalars have
it, and arrays and tables have it whenever all that is in them does. Such a property holds of every
document that is read, at whatever depth of arrays, inline tables and dotted keys
(`Hereditary.of_parse?`). Readers make values of the values that they have read, and what defines
tables from statements moves values about without making new ones: each operation `Keeps` the
tables under construction as they should be.
-/

namespace TronWallet.Toml

/-- Scalars have the property, an array has it if its elements do, and a table if its values do and
its keys have the second property, which keys have that are added one by one. -/
structure Hereditary (P : Value → Prop) (K : List String → Prop) : Prop where
  text : ∀ s, P (.text s)
  integer : ∀ n, -0x8000000000000000 ≤ n ∧ n < 0x8000000000000000 → P (.integer n)
  floating : ∀ x, P (.floating x)
  boolean : ∀ b, P (.boolean b)
  moment : ∀ m, P (.moment m)
  array : ∀ items, (∀ v ∈ items, P v) → P (.array items)
  table : ∀ entries, K (entries.map Prod.fst) → (∀ e ∈ entries, P e.2) → P (.table entries)
  nil : K []
  push : ∀ keys key, key ∉ keys → K keys → K (keys ++ [key])
  sublist : ∀ keys keys', List.Sublist keys keys' → K keys' → K keys

/-- All values in the entry of a table under construction have the property, and the keys of all
tables in it have the second one. -/
inductive Node.Has (P : Value → Prop) (K : List String → Prop) : Node → Prop where
  | value {v : Value} (h : P v) : Has P K (.value v)
  | table (origin : Origin) {es : Entries} (hkeys : K (es.map Prod.fst))
      (h : ∀ e ∈ es, Has P K e.2) : Has P K (.table origin es)
  | tables {elements : List Entries} (hkeys : ∀ es ∈ elements, K (es.map Prod.fst))
      (h : ∀ es ∈ elements, ∀ e ∈ es, Has P K e.2) : Has P K (.tables elements)

/-- All values in the table under construction have the property, and the keys of all tables the
second one. -/
structure Entries.Has (P : Value → Prop) (K : List String → Prop) (es : Entries) : Prop where
  keys : K (es.map Prod.fst)
  nodes : ∀ e ∈ es, e.2.Has P K

variable {P : Value → Prop} {K : List String → Prop}

theorem Node.Has.ofTable {origin : Origin} {es : Entries} (h : es.Has P K) :
    (Node.table origin es).Has P K :=
  .table origin h.keys h.nodes

theorem Node.Has.ofTables {elements : List Entries} (h : ∀ es ∈ elements, es.Has P K) :
    (Node.tables elements).Has P K :=
  .tables (fun es hes => (h es hes).keys) fun es hes => (h es hes).nodes

theorem Node.map_fst_toTable (es : List (String × Node)) :
    (Node.toTable es).map Prod.fst = es.map Prod.fst := by
  induction es with
  | nil => rw [Node.toTable, List.map_nil, List.map_nil]
  | cons e es ih => rw [Node.toTable, List.map_cons, List.map_cons, ih]

mutual

theorem Hereditary.toValue (h : Hereditary P K) {node : Node} (hnode : node.Has P K) :
    P node.toValue := by
  match node, hnode with
  | .value v, .value hv =>
    rw [Node.toValue]
    exact hv
  | .table _ es, .table _ hkeys hes =>
    rw [Node.toValue]
    refine h.table _ ?_ (h.toTable hes)
    rwa [Node.map_fst_toTable]
  | .tables elements, .tables hkeys helements =>
    rw [Node.toValue]
    exact h.array _ (h.toTables hkeys helements)

theorem Hereditary.toTable (h : Hereditary P K) {es : List (String × Node)}
    (hes : ∀ e ∈ es, e.2.Has P K) : ∀ e ∈ Node.toTable es, P e.2 := by
  match es with
  | [] =>
    rw [Node.toTable]
    exact fun _ he => absurd he List.not_mem_nil
  | (key, node) :: es =>
    obtain ⟨hnode, hes⟩ := List.forall_mem_cons.1 hes
    rw [Node.toTable, List.forall_mem_cons]
    exact ⟨h.toValue hnode, h.toTable hes⟩

theorem Hereditary.toTables (h : Hereditary P K) {elements : List (List (String × Node))}
    (hkeys : ∀ es ∈ elements, K (es.map Prod.fst))
    (helements : ∀ es ∈ elements, ∀ e ∈ es, e.2.Has P K) : ∀ v ∈ Node.toTables elements, P v := by
  match elements with
  | [] =>
    rw [Node.toTables]
    exact fun _ he => absurd he List.not_mem_nil
  | es :: elements =>
    obtain ⟨hes, helements⟩ := List.forall_mem_cons.1 helements
    obtain ⟨hkey, hkeys⟩ := List.forall_mem_cons.1 hkeys
    rw [Node.toTables, List.forall_mem_cons]
    refine ⟨h.table _ ?_ (h.toTable hes), h.toTables hkeys helements⟩
    rwa [Node.map_fst_toTable]

end

/-! ## Tables under construction -/

namespace Entries

variable {es es' : Entries} {key : String} {node : Node}

theorem Has.nil (h : Hereditary P K) : Has P K [] :=
  ⟨h.nil, fun _ he => absurd he List.not_mem_nil⟩

/-- An entry is added under a key that is new. -/
theorem Has.push (h : Hereditary P K) (hes : es.Has P K) (hnew : key ∉ es.map Prod.fst)
    (hnode : node.Has P K) : (es.push key node).Has P K where
  keys := by
    rw [Entries.push, List.map_append]
    exact h.push _ _ hnew hes.keys
  nodes := List.forall_mem_append.2 ⟨hes.nodes, List.forall_mem_singleton.2 hnode⟩

theorem Has.erase (h : Hereditary P K) (hes : es.Has P K) (key : String) :
    (es.erase key).Has P K where
  keys := h.sublist _ _ (List.filter_sublist.map _) hes.keys
  nodes := fun e he => hes.nodes e (List.mem_filter.1 he).1

theorem Has.replace (hes : es.Has P K) (hnode : node.Has P K) (key : String) :
    (es.replace key node).Has P K where
  keys := by
    rw [map_fst_replace]
    exact hes.keys
  nodes := by
    intro e he
    obtain ⟨old, hold, rfl⟩ := List.mem_map.1 he
    split
    · exact hnode
    · exact hes.nodes old hold

theorem Has.get? (hes : es.Has P K) (hget : es.get? key = some node) : node.Has P K := by
  rw [Entries.get?, Option.map_eq_some_iff] at hget
  obtain ⟨e, he, rfl⟩ := hget
  exact hes.nodes e (List.mem_of_find?_eq_some he)

theorem Has.get?_table (hes : es.Has P K) {origin : Origin} {sub : Entries}
    (hget : es.get? key = some (.table origin sub)) : sub.Has P K := by
  cases hes.get? hget with
  | table _ hkeys hsub => exact ⟨hkeys, hsub⟩

theorem Has.get?_tables (hes : es.Has P K) {elements : List Entries}
    (hget : es.get? key = some (.tables elements)) : ∀ es ∈ elements, es.Has P K := by
  cases hes.get? hget with
  | tables hkeys helements => exact fun es hes => ⟨hkeys es hes, helements es hes⟩

/-- The operation makes tables as they should be of such tables. -/
def Keeps (P : Value → Prop) (K : List String → Prop) (f : Entries → Option Entries) : Prop :=
  ∀ ⦃es es' : Entries⦄, es.Has P K → f es = some es' → es'.Has P K

variable {f : Entries → Option Entries}

theorem Keeps.updateLast (hf : Keeps P K f) {elements elements' : List Entries}
    (helements : ∀ es ∈ elements, es.Has P K) (heq : updateLast f elements = some elements') :
    ∀ es ∈ elements', es.Has P K := by
  rw [Entries.updateLast] at heq
  cases hlast : elements.getLast? with
  | none =>
      rw [hlast] at heq
      cases heq
  | some last =>
      rw [hlast, Option.map_eq_some_iff] at heq
      obtain ⟨last', hlast', rfl⟩ := heq
      rw [List.forall_mem_append, List.forall_mem_singleton]
      refine ⟨fun es hes => helements es (List.dropLast_subset elements hes), ?_⟩
      exact hf (helements last (List.mem_of_getLast? hlast)) hlast'

/-! A line enters a table that is new, that is there, or that is the last of an array. -/

theorem Keeps.enter_new (h : Hereditary P K) (hf : Keeps P K f) {origin : Origin}
    (hes : es.Has P K) (hget : es.get? key = none)
    (heq : ((f []).map fun sub => es.push key (.table origin sub)) = some es') :
    es'.Has P K := by
  obtain ⟨sub, hsub, rfl⟩ := Option.map_eq_some_iff.1 heq
  exact hes.push h (get?_eq_none_iff.1 hget) (.ofTable (hf (.nil h) hsub))

theorem Keeps.enter_table (hf : Keeps P K f) {origin : Origin} {sub : Entries}
    (hes : es.Has P K) (hget : es.get? key = some (.table origin sub))
    (heq : ((f sub).map fun sub => es.replace key (.table origin sub)) = some es') :
    es'.Has P K := by
  obtain ⟨sub', hsub', rfl⟩ := Option.map_eq_some_iff.1 heq
  exact hes.replace (.ofTable (hf (hes.get?_table hget) hsub')) key

theorem Keeps.enter_tables (hf : Keeps P K f) {elements : List Entries} (hes : es.Has P K)
    (hget : es.get? key = some (.tables elements))
    (heq : ((Entries.updateLast f elements).map fun elements => es.replace key (.tables elements)) =
      some es') : es'.Has P K := by
  obtain ⟨elements', helements', rfl⟩ := Option.map_eq_some_iff.1 heq
  exact hes.replace (.ofTables (hf.updateLast (hes.get?_tables hget) helements')) key

theorem keeps_define (h : Hereditary P K) {v : Value} (hv : P v) (key : String)
    (path : List String) : Keeps P K (define v key path) := by
  induction path with
  | nil =>
      intro es es' hes heq
      rw [define] at heq
      split at heq
      · cases heq
      · rename_i hget
        obtain rfl := Option.some.inj heq
        exact hes.push h (get?_eq_none_iff.1 (by simpa using hget)) (.value hv)
  | cons part path ih =>
      intro es es' hes heq
      rw [define] at heq
      split at heq
      · exact ih.enter_new h hes ‹_› heq
      · split at heq
        · cases heq
        · exact ih.enter_table hes ‹_› heq
      · split at heq
        · cases heq
        · exact ih.enter_tables hes ‹_› heq
      · cases heq

theorem Keeps.descend (h : Hereditary P K) (hf : Keeps P K f) (path : List String) :
    Keeps P K (descend f path) := by
  induction path with
  | nil => exact hf
  | cons part path ih =>
      intro es es' hes heq
      rw [Entries.descend] at heq
      split at heq
      · exact ih.enter_new h hes ‹_› heq
      · exact ih.enter_table hes ‹_› heq
      · exact ih.enter_tables hes ‹_› heq
      · cases heq

theorem Keeps.defineTable (h : Hereditary P K) (hf : Keeps P K f) (key : String) :
    Keeps P K (defineTable f key) := by
  intro es es' hes heq
  rw [Entries.defineTable] at heq
  split at heq
  · exact hf.enter_new h hes ‹_› heq
  · rename_i sub hget
    obtain ⟨sub', hsub', rfl⟩ := Option.map_eq_some_iff.1 heq
    -- The table moves to the end, where its key is new again.
    have hnew : key ∉ (es.erase key).map Prod.fst := by
      simp [Entries.erase]
    exact (hes.erase h key).push h hnew (.ofTable (hf (hes.get?_table hget) hsub'))
  · cases heq

theorem Keeps.defineElement (h : Hereditary P K) (hf : Keeps P K f) (key : String) :
    Keeps P K (defineElement f key) := by
  intro es es' hes heq
  rw [Entries.defineElement] at heq
  split at heq
  · rename_i hget
    obtain ⟨sub, hsub, rfl⟩ := Option.map_eq_some_iff.1 heq
    refine hes.push h (get?_eq_none_iff.1 hget) (.ofTables ?_)
    exact List.forall_mem_singleton.2 (hf (.nil h) hsub)
  · rename_i elements hget
    obtain ⟨sub, hsub, rfl⟩ := Option.map_eq_some_iff.1 heq
    refine hes.replace (.ofTables ?_) key
    exact List.forall_mem_append.2
      ⟨hes.get?_tables hget, List.forall_mem_singleton.2 (hf (.nil h) hsub)⟩
  · cases heq

theorem keeps_fill (h : Hereditary P K) {bindings : List (Binding Value)}
    (hb : ∀ b ∈ bindings, P b.value) : Keeps P K (fill bindings) := by
  induction bindings with
  | nil =>
      intro es es' hes heq
      obtain rfl := Option.some.inj heq
      exact hes
  | cons b bindings ih =>
      obtain ⟨hb, hbindings⟩ := List.forall_mem_cons.1 hb
      intro es es' hes heq
      rw [fill, List.foldlM_cons] at heq
      obtain ⟨es₁, hes₁, heq⟩ := Option.bind_eq_some_iff.1 heq
      exact ih hbindings (keeps_define h hb b.key b.path hes hes₁) heq

end Entries

/-! ## Readers -/

variable {cs rest : List Char} {v : Value}

/-- A result that is made of what has been read. -/
theorem exists_of_map {α : Type} {o : Option (α × List Char)} {f : α → Value}
    (h : (o.map fun r => (f r.1, r.2)) = some (v, rest)) : ∃ a, o = some (a, rest) ∧ v = f a := by
  obtain ⟨r, hr, heq⟩ := Option.map_eq_some_iff.1 h
  obtain ⟨rfl, rfl⟩ := Prod.mk.inj heq
  exact ⟨r.1, hr, rfl⟩

theorem eq_of_map_mk {o : Option Value} (h : o.map (·, cs) = some (v, rest)) : o = some v := by
  obtain ⟨w, hw, heq⟩ := Option.map_eq_some_iff.1 h
  rw [hw, (Prod.mk.inj heq).1]

namespace Hereditary

theorem of_integer? (h : Hereditary P K) {n : Int} (heq : integer? n = some v) : P v := by
  rw [integer?] at heq
  split at heq
  · obtain rfl := Option.some.inj heq
    exact h.integer n ‹_›
  · cases heq

theorem of_readMarked (h : Hereditary P K) {base : Nat}
    (heq : readMarked base cs = some (v, rest)) : P v := by
  rw [readMarked] at heq
  split at heq
  · cases heq
  · exact h.of_integer? (eq_of_map_mk heq)

theorem of_readInteger (h : Hereditary P K) (heq : readInteger cs = some (v, rest)) : P v := by
  rw [readInteger.eq_def] at heq
  split at heq
  · exact h.of_readMarked heq
  · exact h.of_readMarked heq
  · exact h.of_readMarked heq
  · simp only at heq
    split at heq
    · cases heq
    · exact h.of_integer? (eq_of_map_mk heq)

theorem of_floating? (h : Hereditary P K) {negative : Bool} {whole fraction : List Char}
    {exponent : Int} (heq : floating? negative whole fraction exponent = some v) : P v := by
  rw [floating?] at heq
  split at heq
  · cases heq
  · obtain rfl := Option.some.inj heq
    exact h.floating _

theorem of_readFloating (h : Hereditary P K) (heq : readFloating cs = some (v, rest)) : P v := by
  rw [readFloating.eq_def] at heq
  simp only at heq
  split at heq
  · cases heq
    exact h.floating _
  · cases heq
    exact h.floating _
  · split at heq
    · cases heq
    · split at heq
      · split at heq
        · exact h.of_floating? (eq_of_map_mk heq)
        · exact h.of_floating? (eq_of_map_mk heq)
      · split at heq
        · exact h.of_floating? (eq_of_map_mk heq)
        · cases heq

theorem of_readNumber (h : Hereditary P K) (heq : readNumber cs = some (v, rest)) : P v := by
  rw [readNumber] at heq
  split at heq
  · cases heq
    exact h.moment _
  · split at heq
    · obtain rfl := Option.some.inj heq
      exact h.of_readFloating ‹_›
    · exact h.of_readInteger heq

theorem of_inlineTable? (h : Hereditary P K) {bindings : List (Binding Value)}
    (hb : ∀ b ∈ bindings, P b.value) (heq : inlineTable? bindings = some v) : P v := by
  obtain ⟨es, hes, rfl⟩ := Option.map_eq_some_iff.1 heq
  have hkept : Entries.Has P K es := Entries.keeps_fill h hb (.nil h) hes
  exact h.toValue (.ofTable hkept : (Node.table .dotted es).Has P K)

end Hereditary

mutual

theorem Hereditary.of_readValue (h : Hereditary P K) {bound depth : Nat} {cs rest : List Char}
    {v : Value} (heq : readValue bound depth cs = some (v, rest)) : P v := by
  match bound with
  | 0 => cases heq
  | bound + 1 =>
    rw [readValue.eq_def] at heq
    simp only at heq
    split at heq
    · obtain ⟨s, -, rfl⟩ := exists_of_map (f := fun s => .text (String.ofList s)) heq
      exact h.text _
    · obtain ⟨s, -, rfl⟩ := exists_of_map (f := fun s => .text (String.ofList s)) heq
      exact h.text _
    · cases heq
      exact h.boolean _
    · cases heq
      exact h.boolean _
    · split at heq
      · cases heq
      · obtain ⟨items, hitems, rfl⟩ := exists_of_map heq
        exact h.array _ (h.of_readItems hitems)
    · split at heq
      · cases heq
      · split at heq
        · cases heq
          exact h.table [] h.nil (fun _ he => absurd he List.not_mem_nil)
        · obtain ⟨r, hr, heq⟩ := Option.bind_eq_some_iff.1 heq
          obtain ⟨table, htable, heq⟩ := Option.bind_eq_some_iff.1 heq
          cases heq
          exact h.of_inlineTable? (h.of_readBindings hr) htable
    · exact h.of_readNumber heq

theorem Hereditary.of_readItems (h : Hereditary P K) {bound depth : Nat} {cs rest : List Char}
    {items : List Value} (heq : readItems bound depth cs = some (items, rest)) :
    ∀ v ∈ items, P v := by
  match bound with
  | 0 => cases heq
  | bound + 1 =>
    rw [readItems] at heq
    split at heq
    · cases heq
      exact fun _ hv => absurd hv List.not_mem_nil
    · obtain ⟨r, hr, heq⟩ := Option.bind_eq_some_iff.1 heq
      have hv : P r.1 := h.of_readValue hr
      simp only at heq
      split at heq
      · cases heq
        exact List.forall_mem_singleton.2 hv
      · obtain ⟨more, hmore, heq⟩ := Option.bind_eq_some_iff.1 heq
        cases heq
        exact List.forall_mem_cons.2 ⟨hv, h.of_readItems hmore⟩
      · cases heq

theorem Hereditary.of_readBindings (h : Hereditary P K) {bound depth : Nat} {cs rest : List Char}
    {bindings : List (Binding Value)} (heq : readBindings bound depth cs = some (bindings, rest)) :
    ∀ b ∈ bindings, P b.value := by
  match bound with
  | 0 => cases heq
  | bound + 1 =>
    rw [readBindings] at heq
    obtain ⟨⟨path, key, cs⟩, -, heq⟩ := Option.bind_eq_some_iff.1 heq
    obtain ⟨cs, -, heq⟩ := Option.bind_eq_some_iff.1 heq
    obtain ⟨r, hr, heq⟩ := Option.bind_eq_some_iff.1 heq
    have hv : P r.1 := h.of_readValue hr
    simp only at heq
    split at heq
    · cases heq
      exact List.forall_mem_singleton.2 hv
    · obtain ⟨more, hmore, heq⟩ := Option.bind_eq_some_iff.1 heq
      cases heq
      exact List.forall_mem_cons.2 ⟨hv, h.of_readBindings hmore⟩
    · cases heq

end

/-! ## Statements -/

/-- The value of the statement has the property, if it has one. -/
def Statement.Has (P : Value → Prop) : Statement → Prop
  | .binding b => P b.value
  | _ => True

theorem has_takeBindings {statements : List Statement} (hs : ∀ s ∈ statements, s.Has P) :
    (∀ b ∈ (takeBindings statements).1, P b.value) ∧
      ∀ s ∈ (takeBindings statements).2, s.Has P := by
  induction statements with
  | nil => exact ⟨fun _ hb => absurd hb List.not_mem_nil, hs⟩
  | cons s statements ih =>
      obtain ⟨hs', hstatements⟩ := List.forall_mem_cons.1 hs
      cases s with
      | binding b =>
          obtain ⟨hbindings, hrest⟩ := ih hstatements
          exact ⟨List.forall_mem_cons.2 ⟨hs', hbindings⟩, hrest⟩
      | table path key => exact ⟨fun _ hb => absurd hb List.not_mem_nil, hs⟩
      | element path key => exact ⟨fun _ hb => absurd hb List.not_mem_nil, hs⟩

namespace Hereditary

theorem of_readStatement (h : Hereditary P K) {statement : Statement}
    (heq : readStatement cs = some (statement, rest)) : statement.Has P := by
  rw [readStatement.eq_def] at heq
  split at heq
  · obtain ⟨⟨path, key, cs⟩, -, heq⟩ := Option.bind_eq_some_iff.1 heq
    obtain ⟨cs, -, heq⟩ := Option.bind_eq_some_iff.1 heq
    obtain ⟨cs, -, heq⟩ := Option.bind_eq_some_iff.1 heq
    obtain ⟨cs, -, heq⟩ := Option.bind_eq_some_iff.1 heq
    cases heq
    trivial
  · obtain ⟨⟨path, key, cs⟩, -, heq⟩ := Option.bind_eq_some_iff.1 heq
    obtain ⟨cs, -, heq⟩ := Option.bind_eq_some_iff.1 heq
    obtain ⟨cs, -, heq⟩ := Option.bind_eq_some_iff.1 heq
    cases heq
    trivial
  · obtain ⟨⟨path, key, cs⟩, -, heq⟩ := Option.bind_eq_some_iff.1 heq
    obtain ⟨cs, -, heq⟩ := Option.bind_eq_some_iff.1 heq
    obtain ⟨r, hr, heq⟩ := Option.bind_eq_some_iff.1 heq
    obtain ⟨cs, -, heq⟩ := Option.bind_eq_some_iff.1 heq
    cases heq
    exact h.of_readValue hr

theorem of_readLines (h : Hereditary P K) {bound : Nat} {statements : List Statement}
    (heq : readLines bound cs = some statements) : ∀ s ∈ statements, s.Has P := by
  induction bound generalizing cs statements with
  | zero => cases heq
  | succ bound ih =>
      rw [readLines] at heq
      split at heq
      · cases heq
        exact fun _ hs => absurd hs List.not_mem_nil
      · split at heq
        · cases heq
        · exact ih heq
      · split at heq
        · exact ih heq
        · obtain ⟨r, hr, heq⟩ := Option.bind_eq_some_iff.1 heq
          obtain ⟨more, hmore, heq⟩ := Option.bind_eq_some_iff.1 heq
          cases heq
          exact List.forall_mem_cons.2 ⟨h.of_readStatement hr, ih hmore⟩

theorem keeps_carryOut (h : Hereditary P K) {statements : List Statement}
    (hs : ∀ s ∈ statements, s.Has P) : Entries.Keeps P K (carryOut statements) := by
  induction statements with
  | nil =>
      intro es es' hes heq
      obtain rfl := Option.some.inj heq
      exact hes
  | cons s statements ih =>
      obtain ⟨-, hstatements⟩ := List.forall_mem_cons.1 hs
      have hfill : Entries.Keeps P K (fill (takeBindings statements).1) :=
        Entries.keeps_fill h (has_takeBindings hstatements).1
      intro es es' hes heq
      cases s with
      | binding b => exact ih hstatements hes heq
      | table path key =>
          rw [carryOut] at heq
          split at heq
          · cases heq
          · rename_i hdefine
            exact ih hstatements ((hfill.defineTable h key).descend h path hes hdefine) heq
      | element path key =>
          rw [carryOut] at heq
          split at heq
          · cases heq
          · rename_i hdefine
            exact ih hstatements ((hfill.defineElement h key).descend h path hes hdefine) heq

/-- All values of a document that is read have the property, and its keys have the second one. -/
theorem of_parse? (h : Hereditary P K) {text : String} {entries : Table}
    (heq : parse? text = some entries) :
    K (entries.map Prod.fst) ∧ ∀ e ∈ entries, P e.2 := by
  obtain ⟨statements, hread, heq⟩ := Option.bind_eq_some_iff.1 heq
  obtain ⟨hbindings, hrest⟩ := has_takeBindings (h.of_readLines hread)
  obtain ⟨root, hroot, heq⟩ := Option.bind_eq_some_iff.1 heq
  obtain ⟨root', hroot', heq⟩ := Option.bind_eq_some_iff.1 heq
  cases heq
  have hkept : Entries.Has P K root' :=
    h.keeps_carryOut hrest (Entries.keeps_fill h hbindings (.nil h) hroot) hroot'
  rw [Node.map_fst_toTable]
  exact ⟨hkept.keys, h.toTable hkept.nodes⟩

end Hereditary

end TronWallet.Toml
