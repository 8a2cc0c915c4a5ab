import TronWallet.Proofs.Toml.Keys

/-!
# The spellings of an entry

A document may give a value to a key of a table in three ways: in a line below the header of the
table, in an inline table, and in a line with a dotted key (`Spelled`). Which of them it is makes
no difference to the table of the document: a value that is no array and no table stands under the
key if and only if it is spelled in one of these ways (`at?_iff_spelled`).

The table of a document is made line by line. What a line adds is said by two relations: `Grows`
is about the values of a table itself, and `Enters` about a line that adds to a table within it
and so leaves all values of the table itself alone.
-/

namespace TronWallet.Toml

/-- Is the value neither an array nor a table? -/
def Value.isScalar : Value → Bool
  | array _ | table _ => false
  | _ => true

/-- The binding gives the value to the key of the named table. -/
inductive Binding.Gives (name key : String) (v : Value) : Binding Value → Prop where
  /-- By a dotted key. -/
  | dotted : Gives name key v ⟨[name], key, v⟩
  /-- By an inline table. -/
  | inline {entries : Table} (h : entries.get? key = some v) :
      Gives name key v ⟨[], name, .table entries⟩

theorem Binding.gives_singleton {part key' name key : String} {v w : Value} :
    (⟨[part], key', w⟩ : Binding Value).Gives name key v ↔ name = part ∧ key = key' ∧ v = w :=
  ⟨fun | .dotted => ⟨rfl, rfl, rfl⟩, fun ⟨h, h', h''⟩ => h ▸ h' ▸ h'' ▸ .dotted⟩

theorem Binding.gives_nil {key' name key : String} {v w : Value} :
    (⟨[], key', w⟩ : Binding Value).Gives name key v ↔
      name = key' ∧ ∃ entries, w = .table entries ∧ Table.get? entries key = some v :=
  ⟨fun | .inline h => ⟨rfl, _, rfl, h⟩, fun ⟨h, _, h', h''⟩ => h ▸ h' ▸ .inline h''⟩

theorem Binding.not_gives_cons_cons {part next : String} {path : List String}
    {key' name key : String} {v w : Value} :
    ¬(⟨part :: next :: path, key', w⟩ : Binding Value).Gives name key v :=
  nofun

/-- A line below the header of the named table gives the value to the key. -/
inductive BelowHeader (name key : String) (v : Value) : List Statement → Prop where
  | here {after : List Statement} (h : ⟨[], key, v⟩ ∈ (takeBindings after).1) :
      BelowHeader name key v (.table [] name :: after)
  | there {s : Statement} {after : List Statement} (h : BelowHeader name key v after) :
      BelowHeader name key v (s :: after)

theorem belowHeader_cons {name key : String} {v : Value} {s : Statement}
    {statements : List Statement} :
    BelowHeader name key v (s :: statements) ↔
      (s = .table [] name ∧ ⟨[], key, v⟩ ∈ (takeBindings statements).1) ∨
        BelowHeader name key v statements :=
  ⟨fun | .here h => .inl ⟨rfl, h⟩ | .there h => .inr h,
    fun | .inl ⟨hs, h⟩ => hs ▸ .here h | .inr h => .there h⟩

/-- The document gives the value to the key of the named table. -/
def Spelled (statements : List Statement) (name key : String) (v : Value) : Prop :=
  (∃ b ∈ (takeBindings statements).1, b.Gives name key v) ∨ BelowHeader name key v statements

/-! ## What a line adds -/

/-- The entry of a named table gives the value to the key. -/
inductive Node.Holds (key : String) (v : Value) : Node → Prop where
  | table {origin : Origin} {sub : Entries} (h : sub.get? key = some (.value v)) :
      Holds key v (.table origin sub)
  | inline {entries : Table} (h : entries.get? key = some v) :
      Holds key v (.value (.table entries))

@[simp] theorem Node.holds_table {key : String} {v : Value} {origin : Origin} {sub : Entries} :
    (Node.table origin sub).Holds key v ↔ sub.get? key = some (.value v) :=
  ⟨fun | .table h => h, .table⟩

@[simp] theorem Node.holds_value {key : String} {v w : Value} :
    (Node.value w).Holds key v ↔ ∃ entries, w = .table entries ∧ Table.get? entries key = some v :=
  ⟨fun | .inline h => ⟨_, rfl, h⟩, fun ⟨_, hw, h⟩ => hw ▸ .inline h⟩

@[simp] theorem Node.not_holds_tables {key : String} {v : Value} {elements : List Entries} :
    ¬(Node.tables elements).Holds key v :=
  nofun

namespace Entries

/-- The value stands under the key of the named table. -/
def Holds (es : Entries) (name key : String) (v : Value) : Prop :=
  ∃ node ∈ es.get? name, node.Holds key v

/-- The values of the second table are those of the first one and the ones that are added. -/
def Grows (adds : String → Value → Prop) (es es' : Entries) : Prop :=
  ∀ key v, es'.get? key = some (.value v) ↔ es.get? key = some (.value v) ∨ adds key v

end Entries

/-- What becomes of an entry to whose table these values are added. Nothing is added to an array
of tables, whose tables have no names. -/
inductive Node.Enters (adds : String → Value → Prop) : Option Node → Node → Prop where
  | new {origin : Origin} {sub : Entries} (h : Entries.Grows adds [] sub) :
      Enters adds none (.table origin sub)
  | table {origin origin' : Origin} {sub sub' : Entries} (h : sub.Grows adds sub') :
      Enters adds (some (.table origin sub)) (.table origin' sub')
  | newTables {elements : List Entries} (h : ∀ key v, ¬adds key v) :
      Enters adds none (.tables elements)
  | tables {elements elements' : List Entries} (h : ∀ key v, ¬adds key v) :
      Enters adds (some (.tables elements)) (.tables elements')

/-- These values are added to the table of a name. -/
structure Entries.Enters (adds : String → Value → Prop) (name : String) (es es' : Entries) :
    Prop where
  other : ∀ key, key ≠ name → es'.get? key = es.get? key
  node : ∃ node, es'.get? name = some node ∧ Node.Enters adds (es.get? name) node

namespace Entries

variable {adds : String → Value → Prop} {es es' : Entries} {name : String} {old node : Node}

theorem enters_push (hget : es.get? name = none) (h : Node.Enters adds none node) :
    es.Enters adds name (es.push name node) where
  other := fun key hne => by rw [get?_push hget, if_neg hne]
  node := ⟨node, by rw [get?_push hget, if_pos rfl], by rwa [hget]⟩

theorem enters_replace (hget : es.get? name = some old) (h : Node.Enters adds (some old) node) :
    es.Enters adds name (es.replace name node) where
  other := fun key hne => by rw [get?_replace hget, if_neg hne]
  node := ⟨node, by rw [get?_replace hget, if_pos rfl], by rwa [hget]⟩

theorem enters_push_erase (hget : es.get? name = some old) (h : Node.Enters adds (some old) node) :
    es.Enters adds name ((es.erase name).push name node) := by
  have hnew : (es.erase name).get? name = none := by rw [get?_erase, if_pos rfl]
  constructor
  · intro key hne
    rw [get?_push hnew, if_neg hne, get?_erase, if_neg hne]
  · exact ⟨node, by rw [get?_push hnew, if_pos rfl], by rwa [hget]⟩

/-- A line that adds to a table within a table adds nothing to that table itself. -/
theorem Enters.grows (h : es.Enters adds name es') : es.Grows (fun _ _ => False) es' := by
  intro key v
  rw [or_false]
  by_cases hkey : key = name
  · obtain ⟨node, hnode, henters⟩ := h.node
    rw [hkey, hnode]
    generalize es.get? name = old at henters
    cases henters <;> simp
  · rw [h.other key hkey]

/-- What the named tables hold after a line that adds to one of them. -/
theorem Enters.holds_iff (h : es.Enters adds name es') {name' key : String} {v : Value} :
    es'.Holds name' key v ↔ es.Holds name' key v ∨ name' = name ∧ adds key v := by
  by_cases hname : name' = name
  · obtain ⟨node, hnode, henters⟩ := h.node
    have hafter : es'.Holds name key v ↔ node.Holds key v := by simp [Holds, hnode]
    rw [hname, hafter, Holds]
    generalize es.get? name = old at henters
    cases henters with
    | new h => simpa using h key v
    | table h => simpa using h key v
    | newTables h => simp [h key v]
    | tables h => simp [h key v]
  · have hsame : es'.get? name' = es.get? name' := h.other name' hname
    simp [Holds, hsame, hname]

/-! ## What the operations add -/

/-- The operation adds these values. -/
def Growing (adds : String → Value → Prop) (f : Entries → Option Entries) : Prop :=
  ∀ ⦃es es' : Entries⦄, f es = some es' → es.Grows adds es'

variable {f : Entries → Option Entries}

theorem Growing.enters_new (hf : Growing adds f) {origin : Origin} (hget : es.get? name = none)
    (heq : ((f []).map fun sub => es.push name (.table origin sub)) = some es') :
    es.Enters adds name es' := by
  obtain ⟨sub, hsub, rfl⟩ := Option.map_eq_some_iff.1 heq
  exact enters_push hget (.new (hf hsub))

theorem Growing.enters_table (hf : Growing adds f) {origin : Origin} {sub : Entries}
    (hget : es.get? name = some (.table origin sub))
    (heq : ((f sub).map fun sub => es.replace name (.table origin sub)) = some es') :
    es.Enters adds name es' := by
  obtain ⟨sub', hsub', rfl⟩ := Option.map_eq_some_iff.1 heq
  exact enters_replace hget (.table (hf hsub'))

theorem enters_tables (hadds : ∀ key v, ¬adds key v) {elements : List Entries}
    (hget : es.get? name = some (.tables elements))
    (heq : ((updateLast f elements).map fun elements => es.replace name (.tables elements)) =
      some es') : es.Enters adds name es' := by
  obtain ⟨elements', -, rfl⟩ := Option.map_eq_some_iff.1 heq
  exact enters_replace hget (.tables hadds)

/-- A binding adds to the table of the first part of its path what it adds to this table. -/
theorem enters_define_of {v : Value} {key : String} {path : List String}
    (hpath : Growing (fun k w => path = [] ∧ k = key ∧ w = v) (define v key path))
    (h : define v key (name :: path) es = some es') :
    es.Enters (fun k w => path = [] ∧ k = key ∧ w = v) name es' := by
  rw [define] at h
  split at h
  · exact hpath.enters_new ‹_› h
  · split at h
    · cases h
    · exact hpath.enters_table ‹_› h
  · split at h
    · cases h
    · -- A key with one more part only does not lead into an array of tables.
      rename_i hne
      exact enters_tables (fun _ _ hadds => hne hadds.1) ‹_› h
  · cases h

/-- A binding adds its value to a table if it has no path. -/
theorem growing_define (v : Value) (key : String) (path : List String) :
    Growing (fun k w => path = [] ∧ k = key ∧ w = v) (define v key path) := by
  induction path with
  | nil =>
      intro es es' h k w
      rw [define] at h
      split at h
      · cases h
      · rename_i hget
        rw [Option.not_isSome_iff_eq_none] at hget
        obtain rfl := Option.some.inj h
        rw [get?_push hget]
        by_cases hk : k = key
        · simp [hk, hget, eq_comm]
        · simp [hk]
  | cons part path ih =>
      -- The value goes into the table of the first part.
      intro es es' h k w
      rw [(enters_define_of ih h).grows k w]
      simp

theorem enters_define {v : Value} {key : String} {path : List String}
    (h : define v key (name :: path) es = some es') :
    es.Enters (fun k w => path = [] ∧ k = key ∧ w = v) name es' :=
  enters_define_of (growing_define v key path) h

theorem growing_fill (bindings : List (Binding Value)) :
    Growing (fun key v => ⟨[], key, v⟩ ∈ bindings) (fill bindings) := by
  induction bindings with
  | nil =>
      intro es es' h key v
      obtain rfl := Option.some.inj h
      simp
  | cons b bindings ih =>
      intro es es' h key v
      rw [fill, List.foldlM_cons] at h
      obtain ⟨es₁, hes₁, h⟩ := Option.bind_eq_some_iff.1 h
      have hb : ⟨[], key, v⟩ = b ↔ b.path = [] ∧ key = b.key ∧ v = b.value := by
        cases b
        simp [eq_comm]
      rw [ih h key v, growing_define _ _ _ hes₁ key v, or_assoc]
      simp only [List.mem_cons, hb]

variable {key : String} {v : Value} {statements : List Statement}

/-- A binding gives to the named tables what it spells. -/
theorem holds_define {b : Binding Value} (h : define b.value b.key b.path es = some es') :
    es'.Holds name key v ↔ es.Holds name key v ∨ b.Gives name key v := by
  obtain ⟨path, key', w⟩ := b
  match path with
  | [] =>
    rw [define] at h
    split at h
    · cases h
    · rename_i hget
      rw [Option.not_isSome_iff_eq_none] at hget
      obtain rfl := Option.some.inj h
      rw [Binding.gives_nil, Holds, Holds, get?_push hget]
      by_cases hname : name = key'
      · simp [hname, hget]
      · simp [hname]
  | [part] =>
    rw [(enters_define h).holds_iff, Binding.gives_singleton]
    simp
  | part :: next :: path =>
    rw [(enters_define h).holds_iff]
    simp [Binding.not_gives_cons_cons]

theorem holds_fill {bindings : List (Binding Value)} (h : fill bindings es = some es') :
    es'.Holds name key v ↔ es.Holds name key v ∨ ∃ b ∈ bindings, b.Gives name key v := by
  induction bindings generalizing es with
  | nil =>
      obtain rfl := Option.some.inj h
      simp
  | cons b bindings ih =>
      rw [fill, List.foldlM_cons] at h
      obtain ⟨es₁, hes₁, h⟩ := Option.bind_eq_some_iff.1 h
      rw [ih h, holds_define hes₁, or_assoc]
      simp only [List.mem_cons, exists_eq_or_imp]

theorem Growing.enters_defineTable (hf : Growing adds f) (h : defineTable f name es = some es') :
    es.Enters adds name es' := by
  rw [defineTable] at h
  split at h
  · exact hf.enters_new ‹_› h
  · obtain ⟨sub', hsub', rfl⟩ := Option.map_eq_some_iff.1 h
    exact enters_push_erase ‹_› (.table (hf hsub'))
  · cases h

theorem enters_defineElement (hadds : ∀ key v, ¬adds key v)
    (h : defineElement f name es = some es') : es.Enters adds name es' := by
  rw [defineElement] at h
  split at h
  · obtain ⟨sub, -, rfl⟩ := Option.map_eq_some_iff.1 h
    exact enters_push ‹_› (.newTables hadds)
  · obtain ⟨sub, -, rfl⟩ := Option.map_eq_some_iff.1 h
    exact enters_replace ‹_› (.tables hadds)
  · cases h

theorem enters_descend_of {path : List String}
    (hf : Growing (fun _ _ => False) (descend f path))
    (h : descend f (name :: path) es = some es') : es.Enters (fun _ _ => False) name es' := by
  rw [descend] at h
  split at h
  · exact hf.enters_new ‹_› h
  · exact hf.enters_table ‹_› h
  · exact enters_tables (fun _ _ => id) ‹_› h
  · cases h

theorem Growing.descend (hf : Growing (fun _ _ => False) f) (path : List String) :
    Growing (fun _ _ => False) (descend f path) := by
  induction path with
  | nil => exact hf
  | cons part path ih => exact fun es es' h => (enters_descend_of ih h).grows

/-- A header with a path adds nothing to the tables that have names. -/
theorem holds_descend (hf : Growing (fun _ _ => False) f) {part : String} {path : List String}
    (h : Entries.descend f (part :: path) es = some es') :
    es'.Holds name key v ↔ es.Holds name key v := by
  rw [(enters_descend_of (hf.descend path) h).holds_iff]
  simp

theorem holds_tableHeader {bindings : List (Binding Value)} {path : List String} {name' : String}
    (h : Entries.descend (defineTable (fill bindings) name') path es = some es') :
    es'.Holds name key v ↔
      es.Holds name key v ∨ path = [] ∧ name' = name ∧ ⟨[], key, v⟩ ∈ bindings := by
  have hfill := growing_fill bindings
  cases path with
  | nil =>
      rw [(hfill.enters_defineTable h).holds_iff]
      simp [eq_comm]
  | cons part path =>
      rw [holds_descend (fun _ _ hes => (hfill.enters_defineTable hes).grows) h]
      simp

theorem holds_elementHeader {path : List String} {name' : String}
    (h : Entries.descend (defineElement f name') path es = some es') :
    es'.Holds name key v ↔ es.Holds name key v := by
  have hno : ∀ key v, ¬(fun _ _ => False : String → Value → Prop) key v := fun _ _ => id
  cases path with
  | nil =>
      rw [(enters_defineElement hno h).holds_iff]
      simp
  | cons part path => exact holds_descend (fun _ _ hes => (enters_defineElement hno hes).grows) h

theorem holds_carryOut (h : carryOut statements es = some es') :
    es'.Holds name key v ↔ es.Holds name key v ∨ BelowHeader name key v statements := by
  induction statements generalizing es with
  | nil =>
      obtain rfl := Option.some.inj h
      exact (or_iff_left nofun).symm
  | cons s statements ih =>
      rw [belowHeader_cons, ← or_assoc]
      cases s with
      | binding b =>
          rw [ih h]
          simp
      | table path name' =>
          rw [carryOut] at h
          split at h
          · cases h
          · rw [ih h, holds_tableHeader ‹_›]
            simp [and_assoc]
      | element path name' =>
          rw [carryOut] at h
          split at h
          · cases h
          · rw [ih h, holds_elementHeader ‹_›]
            simp

end Entries

/-! ## The table of a document -/

section

variable {es : Entries} {name key : String} {v : Value} {statements : List Statement}

theorem Node.get?_toTable (es : Entries) (key : String) :
    Table.get? (toTable es) key = (es.get? key).map toValue := by
  induction es with
  | nil =>
      rw [toTable]
      rfl
  | cons e es ih =>
      rw [Table.get?, Entries.get?] at ih
      rw [toTable, Table.get?, Entries.get?, List.find?_cons, List.find?_cons]
      by_cases he : e.1 = key
      · simp [he]
      · simpa [he] using ih

theorem Node.eq_of_toValue (hv : v.isScalar) {node : Node} (h : node.toValue = v) :
    node = .value v := by
  cases node with
  | value w => rw [← h, toValue]
  | table origin sub =>
      rw [← h, toValue] at hv
      cases hv
  | tables elements =>
      rw [← h, toValue] at hv
      cases hv

theorem Entries.Holds.at?_toTable (h : es.Holds name key v) :
    Table.at? (Node.toTable es) name key = some v := by
  obtain ⟨node, hnode, hv⟩ := h
  have hget : Table.get? (Node.toTable es) name = some node.toValue := by
    rw [Node.get?_toTable, hnode, Option.map_some]
  cases hv with
  | table hv =>
      rw [Node.toValue] at hget
      rw [Table.at?_of_get? hget, Node.get?_toTable, hv, Option.map_some, Node.toValue]
  | inline hv =>
      rw [Node.toValue] at hget
      rw [Table.at?_of_get? hget, hv]

theorem Entries.holds_of_at?_toTable (hv : v.isScalar)
    (h : Table.at? (Node.toTable es) name key = some v) : es.Holds name key v := by
  obtain ⟨entries, hentries, hget⟩ := Table.at?_eq_some_iff.1 h
  rw [Node.get?_toTable, Option.map_eq_some_iff] at hentries
  obtain ⟨node, hnode, hentries⟩ := hentries
  refine ⟨node, hnode, ?_⟩
  cases node with
  | value w =>
      rw [Node.toValue] at hentries
      exact hentries ▸ .inline hget
  | table origin sub =>
      rw [Node.toValue, Value.table.injEq] at hentries
      rw [← hentries, Node.get?_toTable, Option.map_eq_some_iff] at hget
      obtain ⟨node, hnode, hvalue⟩ := hget
      exact .table (Node.eq_of_toValue hv hvalue ▸ hnode)
  | tables elements =>
      rw [Node.toValue] at hentries
      cases hentries

theorem belowHeader_takeBindings (statements : List Statement) :
    BelowHeader name key v (takeBindings statements).2 ↔ BelowHeader name key v statements := by
  induction statements with
  | nil => rfl
  | cons s statements ih =>
      cases s with
      | binding b =>
          rw [takeBindings, ih, belowHeader_cons]
          simp
      | table path key => rfl
      | element path key => rfl

theorem exists_holds_iff_spelled {t : Table} (h : tableOf? statements = some t) :
    ∃ es : Entries, Node.toTable es = t ∧
      ∀ name key v, es.Holds name key v ↔ Spelled statements name key v := by
  obtain ⟨top, htop, h⟩ := Option.bind_eq_some_iff.1 h
  obtain ⟨root, hroot, h⟩ := Option.bind_eq_some_iff.1 h
  obtain rfl := Option.some.inj h
  refine ⟨root, rfl, fun name key v => ?_⟩
  have hempty : ¬Entries.Holds [] name key v := by simp [Entries.Holds]
  rw [Entries.holds_carryOut hroot, Entries.holds_fill htop, belowHeader_takeBindings, Spelled,
    or_iff_right hempty]

/-- What the lines of a document spell stands in its table. -/
theorem at?_of_spelled {t : Table} (h : tableOf? statements = some t)
    (hspelled : Spelled statements name key v) : t.at? name key = some v := by
  obtain ⟨es, rfl, hholds⟩ := exists_holds_iff_spelled h
  exact ((hholds name key v).2 hspelled).at?_toTable

/-- A value that is neither an array nor a table stands under the key of the named table if and
only if the lines of the document spell it, in whichever way. -/
theorem at?_iff_spelled {t : Table} (h : tableOf? statements = some t) (hv : v.isScalar) :
    t.at? name key = some v ↔ Spelled statements name key v := by
  refine ⟨fun hat => ?_, at?_of_spelled h⟩
  obtain ⟨es, rfl, hholds⟩ := exists_holds_iff_spelled h
  exact (hholds name key v).1 (Entries.holds_of_at?_toTable hv hat)

end

end TronWallet.Toml
