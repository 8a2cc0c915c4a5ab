import TronWallet.Config
import TronWallet.Proofs.Toml.Equality
import TronWallet.Proofs.Toml.Fields
import TronWallet.Proofs.Toml.Spelling

/-!
# A configuration is decoded field by field

A document whose sections are tables is a configuration exactly if each known key that it has is
of its type, and then each field is what the document says under its key, or its default if the
document says nothing there (`parse_fieldwise`). So nothing else in the document is of any
influence: not what it holds besides, not the order of its entries, and not how its tables are
spelled.
-/

namespace TronWallet

open Toml (Table Value Field Given Readable)

/-! ## The fields of a section -/

namespace NodeConfig

variable {c c' : NodeConfig} {e : String × Value}

/-- What an entry can change. -/
theorem add_cases (h : c.add e = .ok c') :
    (e.1 = "endpoint" ∧ ∃ s, c' = { c with endpoint := s }) ∨
      (e.1 = "connect_timeout_secs" ∧ ∃ n, c' = { c with connectTimeoutSecs := n }) ∨ c' = c := by
  rw [add.eq_def] at h
  split at h
  · obtain ⟨s, -, rfl⟩ := Except.map_eq_ok_iff.1 h
    exact .inl ⟨‹_›, s, rfl⟩
  · obtain ⟨n, -, rfl⟩ := Except.map_eq_ok_iff.1 h
    exact .inr (.inl ⟨‹_›, n, rfl⟩)
  · exact .inr (.inr (Except.ok.inj h).symm)

/-- An entry of another key changes nothing. -/
theorem add_of_notMem (h : e.1 ∉ fieldOrder) (c : NodeConfig) : c.add e = .ok c := by
  simp only [fieldOrder, List.mem_cons, not_or] at h
  rw [add.eq_def]
  split
  · exact absurd ‹_› h.1
  · exact absurd ‹_› h.2.1
  · rfl

theorem field_endpoint : Field add "endpoint" Value.IsText endpoint := by
  refine .of_read (fun _ _ => Value.asText_eq_ok_iff.1) (fun _ _ => rfl) (fun _ _ => rfl) ?_
  intro c e c' hne h
  obtain ⟨hkey, -⟩ | ⟨-, n, rfl⟩ | rfl := add_cases h
  exacts [absurd hkey hne, rfl, rfl]

theorem field_connectTimeoutSecs :
    Field add "connect_timeout_secs" Value.IsNatural connectTimeoutSecs := by
  refine .of_read (fun _ _ => Value.asNatural_eq_ok_iff.1) (fun _ _ => rfl) (fun _ _ => rfl) ?_
  intro c e c' hne h
  obtain ⟨-, s, rfl⟩ | ⟨hkey, -⟩ | rfl := add_cases h
  exacts [rfl, absurd hkey hne, rfl]

/-- An entry is taken in if its value is of the type of its key. -/
theorem exists_add (hs : e.1 = "endpoint" → ∃ s, e.2.IsText s)
    (hn : e.1 = "connect_timeout_secs" → ∃ n, e.2.IsNatural n) (c : NodeConfig) :
    ∃ c', c.add e = .ok c' := by
  rw [add.eq_def]
  split
  · obtain ⟨s, hs⟩ := hs ‹_›
    exact ⟨_, Except.map_eq_ok_iff.2 ⟨s, Value.asText_eq_ok_iff.2 hs, rfl⟩⟩
  · obtain ⟨n, hn⟩ := hn ‹_›
    exact ⟨_, Except.map_eq_ok_iff.2 ⟨n, Value.asNatural_eq_ok_iff.2 hn, rfl⟩⟩
  · exact ⟨c, rfl⟩

end NodeConfig

namespace UpdateConfig

variable {c c' : UpdateConfig} {e : String × Value}

/-- What an entry can change. -/
theorem add_cases (h : c.add e = .ok c') :
    (e.1 = "enabled" ∧ ∃ b, c' = { c with enabled := b }) ∨
      (e.1 = "api_base" ∧ ∃ s, c' = { c with apiBase := s }) ∨
      (e.1 = "repository" ∧ ∃ s, c' = { c with repository := s }) ∨
      (e.1 = "timeout_secs" ∧ ∃ n, c' = { c with timeoutSecs := n }) ∨ c' = c := by
  rw [add.eq_def] at h
  split at h
  · obtain ⟨b, -, rfl⟩ := Except.map_eq_ok_iff.1 h
    exact .inl ⟨‹_›, b, rfl⟩
  · obtain ⟨s, -, rfl⟩ := Except.map_eq_ok_iff.1 h
    exact .inr (.inl ⟨‹_›, s, rfl⟩)
  · obtain ⟨s, -, rfl⟩ := Except.map_eq_ok_iff.1 h
    exact .inr (.inr (.inl ⟨‹_›, s, rfl⟩))
  · obtain ⟨n, -, rfl⟩ := Except.map_eq_ok_iff.1 h
    exact .inr (.inr (.inr (.inl ⟨‹_›, n, rfl⟩)))
  · exact .inr (.inr (.inr (.inr (Except.ok.inj h).symm)))

/-- An entry of another key changes nothing. -/
theorem add_of_notMem (h : e.1 ∉ fieldOrder) (c : UpdateConfig) : c.add e = .ok c := by
  simp only [fieldOrder, List.mem_cons, not_or] at h
  rw [add.eq_def]
  split
  · exact absurd ‹_› h.1
  · exact absurd ‹_› h.2.1
  · exact absurd ‹_› h.2.2.1
  · exact absurd ‹_› h.2.2.2.1
  · rfl

theorem field_enabled : Field add "enabled" Value.IsBoolean enabled := by
  refine .of_read (fun _ _ => Value.asBoolean_eq_ok_iff.1) (fun _ _ => rfl) (fun _ _ => rfl) ?_
  intro c e c' hne h
  obtain ⟨hkey, -⟩ | ⟨-, s, rfl⟩ | ⟨-, s, rfl⟩ | ⟨-, n, rfl⟩ | rfl := add_cases h
  exacts [absurd hkey hne, rfl, rfl, rfl, rfl]

theorem field_apiBase : Field add "api_base" Value.IsText apiBase := by
  refine .of_read (fun _ _ => Value.asText_eq_ok_iff.1) (fun _ _ => rfl) (fun _ _ => rfl) ?_
  intro c e c' hne h
  obtain ⟨-, b, rfl⟩ | ⟨hkey, -⟩ | ⟨-, s, rfl⟩ | ⟨-, n, rfl⟩ | rfl := add_cases h
  exacts [rfl, absurd hkey hne, rfl, rfl, rfl]

theorem field_repository : Field add "repository" Value.IsText repository := by
  refine .of_read (fun _ _ => Value.asText_eq_ok_iff.1) (fun _ _ => rfl) (fun _ _ => rfl) ?_
  intro c e c' hne h
  obtain ⟨-, b, rfl⟩ | ⟨-, s, rfl⟩ | ⟨hkey, -⟩ | ⟨-, n, rfl⟩ | rfl := add_cases h
  exacts [rfl, rfl, absurd hkey hne, rfl, rfl]

theorem field_timeoutSecs : Field add "timeout_secs" Value.IsNatural timeoutSecs := by
  refine .of_read (fun _ _ => Value.asNatural_eq_ok_iff.1) (fun _ _ => rfl) (fun _ _ => rfl) ?_
  intro c e c' hne h
  obtain ⟨-, b, rfl⟩ | ⟨-, s, rfl⟩ | ⟨-, s, rfl⟩ | ⟨hkey, -⟩ | rfl := add_cases h
  exacts [rfl, rfl, rfl, absurd hkey hne, rfl]

/-- An entry is taken in if its value is of the type of its key. -/
theorem exists_add (hb : e.1 = "enabled" → ∃ b, e.2.IsBoolean b)
    (hs : e.1 = "api_base" → ∃ s, e.2.IsText s) (hr : e.1 = "repository" → ∃ s, e.2.IsText s)
    (hn : e.1 = "timeout_secs" → ∃ n, e.2.IsNatural n) (c : UpdateConfig) :
    ∃ c', c.add e = .ok c' := by
  rw [add.eq_def]
  split
  · obtain ⟨b, hb⟩ := hb ‹_›
    exact ⟨_, Except.map_eq_ok_iff.2 ⟨b, Value.asBoolean_eq_ok_iff.2 hb, rfl⟩⟩
  · obtain ⟨s, hs⟩ := hs ‹_›
    exact ⟨_, Except.map_eq_ok_iff.2 ⟨s, Value.asText_eq_ok_iff.2 hs, rfl⟩⟩
  · obtain ⟨s, hs⟩ := hr ‹_›
    exact ⟨_, Except.map_eq_ok_iff.2 ⟨s, Value.asText_eq_ok_iff.2 hs, rfl⟩⟩
  · obtain ⟨n, hn⟩ := hn ‹_›
    exact ⟨_, Except.map_eq_ok_iff.2 ⟨n, Value.asNatural_eq_ok_iff.2 hn, rfl⟩⟩
  · exact ⟨c, rfl⟩

end UpdateConfig

namespace Config

theorem add_cases {c c' : Config} {e : String × Value} (h : c.add e = .ok c') :
    (e.1 = "node" ∧ ∃ n, c' = { c with node := n }) ∨
      (e.1 = "update" ∧ ∃ u, c' = { c with update := u }) ∨ c' = c := by
  rw [add.eq_def] at h
  split at h
  · obtain ⟨n, -, rfl⟩ := Except.map_eq_ok_iff.1 h
    exact .inl ⟨‹_›, n, rfl⟩
  · obtain ⟨u, -, rfl⟩ := Except.map_eq_ok_iff.1 h
    exact .inr (.inl ⟨‹_›, u, rfl⟩)
  · exact .inr (.inr (Except.ok.inj h).symm)

theorem add_of_notMem {e : String × Value} (h : e.1 ∉ ["node", "update"]) (c : Config) :
    c.add e = .ok c := by
  simp only [List.mem_cons, not_or] at h
  rw [add.eq_def]
  split
  · exact absurd ‹_› h.1
  · exact absurd ‹_› h.2.1
  · rfl

theorem field_node : Field add "node" (NodeConfig.ofValue · = .ok ·) node := by
  refine .of_read (fun _ _ => id) (fun _ _ => rfl) (fun _ _ => rfl) ?_
  intro c e c' hne h
  obtain ⟨hkey, -⟩ | ⟨-, u, rfl⟩ | rfl := add_cases h
  exacts [absurd hkey hne, rfl, rfl]

theorem field_update : Field add "update" (UpdateConfig.ofValue · = .ok ·) update := by
  refine .of_read (fun _ _ => id) (fun _ _ => rfl) (fun _ _ => rfl) ?_
  intro c e c' hne h
  obtain ⟨-, n, rfl⟩ | ⟨hkey, -⟩ | rfl := add_cases h
  exacts [rfl, absurd hkey hne, rfl]

/-! ## What a document says -/

/-- The sections that the document has are tables. -/
def SectionsAreTables (t : Table) : Prop :=
  ∀ name ∈ ["node", "update"], ∀ v, t.get? name = some v → ∃ sub, v = .table sub

/-- The known keys that the document has are of their types. -/
structure WellTyped (t : Table) : Prop where
  endpoint : Readable (t.at? "node" "endpoint") Value.IsText
  connectTimeoutSecs : Readable (t.at? "node" "connect_timeout_secs") Value.IsNatural
  enabled : Readable (t.at? "update" "enabled") Value.IsBoolean
  apiBase : Readable (t.at? "update" "api_base") Value.IsText
  repository : Readable (t.at? "update" "repository") Value.IsText
  timeoutSecs : Readable (t.at? "update" "timeout_secs") Value.IsNatural

/-- Each field is what the document has under its key, or its default. -/
structure Describes (t : Table) (c : Config) : Prop where
  endpoint : Given (t.at? "node" "endpoint") Value.IsText "grpc.trongrid.io:50051" c.node.endpoint
  connectTimeoutSecs : Given (t.at? "node" "connect_timeout_secs") Value.IsNatural 10
    c.node.connectTimeoutSecs
  enabled : Given (t.at? "update" "enabled") Value.IsBoolean true c.update.enabled
  apiBase : Given (t.at? "update" "api_base") Value.IsText "https://api.github.com"
    c.update.apiBase
  repository : Given (t.at? "update" "repository") Value.IsText "fbsobreira/gotron-sdk"
    c.update.repository
  timeoutSecs : Given (t.at? "update" "timeout_secs") Value.IsNatural 10 c.update.timeoutSecs

variable {t : Table} {c c' : Config}

theorem Describes.wellTyped (h : Describes t c) : WellTyped t where
  endpoint := h.endpoint.readable
  connectTimeoutSecs := h.connectTimeoutSecs.readable
  enabled := h.enabled.readable
  apiBase := h.apiBase.readable
  repository := h.repository.readable
  timeoutSecs := h.timeoutSecs.readable

/-- A document describes one configuration at most. -/
theorem Describes.unique (h : Describes t c) (h' : Describes t c') : c = c' := by
  obtain ⟨⟨endpoint, connect⟩, ⟨enabled, apiBase, repository, timeout⟩⟩ := c
  obtain ⟨⟨endpoint', connect'⟩, ⟨enabled', apiBase', repository', timeout'⟩⟩ := c'
  obtain rfl : endpoint = endpoint' := h.endpoint.unique Value.IsText.unique h'.endpoint
  obtain rfl : connect = connect' :=
    h.connectTimeoutSecs.unique Value.IsNatural.unique h'.connectTimeoutSecs
  obtain rfl : enabled = enabled' := h.enabled.unique Value.IsBoolean.unique h'.enabled
  obtain rfl : apiBase = apiBase' := h.apiBase.unique Value.IsText.unique h'.apiBase
  obtain rfl : repository = repository' :=
    h.repository.unique Value.IsText.unique h'.repository
  obtain rfl : timeout = timeout' := h.timeoutSecs.unique Value.IsNatural.unique h'.timeoutSecs
  rfl

/-! ## What is decoded -/

theorem describes_of_ofTable (hkeys : (t.map Prod.fst).Nodup) (ht : ∀ e ∈ t, e.2.Distinct)
    (htables : SectionsAreTables t) (h : ofTable t = .ok c) : Describes t c := by
  have hnode := field_node.given hkeys h
  have hupdate := field_update.given hkeys h
  have hnodes := htables "node" (by simp)
  have hupdates := htables "update" (by simp)
  constructor
  · exact NodeConfig.field_endpoint.given_at? (fun _ => rfl) ht hnodes hnode
  · exact NodeConfig.field_connectTimeoutSecs.given_at? (fun _ => rfl) ht hnodes hnode
  · exact UpdateConfig.field_enabled.given_at? (fun _ => rfl) ht hupdates hupdate
  · exact UpdateConfig.field_apiBase.given_at? (fun _ => rfl) ht hupdates hupdate
  · exact UpdateConfig.field_repository.given_at? (fun _ => rfl) ht hupdates hupdate
  · exact UpdateConfig.field_timeoutSecs.given_at? (fun _ => rfl) ht hupdates hupdate

theorem exists_of_wellTyped (hkeys : (t.map Prod.fst).Nodup) (ht : ∀ e ∈ t, e.2.Distinct)
    (htables : SectionsAreTables t) (h : WellTyped t) : ∃ c, ofTable t = .ok c := by
  refine Except.exists_foldlM (fun e he c => ?_) _
  have hget : t.get? e.1 = some e.2 := (Table.mem_iff_get? hkeys).1 he
  rw [add.eq_def]
  split
  · rename_i hname
    rw [hname] at hget
    obtain ⟨sub, hsub⟩ := htables "node" (by simp) _ hget
    rw [hsub] at hget ⊢
    obtain ⟨n, hn⟩ : ∃ n, NodeConfig.ofValue (.table sub) = .ok n :=
      Except.exists_foldlM (fun e he => NodeConfig.exists_add (h.endpoint.of_mem ht hget he)
        (h.connectTimeoutSecs.of_mem ht hget he)) _
    exact ⟨_, Except.map_eq_ok_iff.2 ⟨n, hn, rfl⟩⟩
  · rename_i hname
    rw [hname] at hget
    obtain ⟨sub, hsub⟩ := htables "update" (by simp) _ hget
    rw [hsub] at hget ⊢
    obtain ⟨u, hu⟩ : ∃ u, UpdateConfig.ofValue (.table sub) = .ok u :=
      Except.exists_foldlM (fun e he => UpdateConfig.exists_add (h.enabled.of_mem ht hget he)
        (h.apiBase.of_mem ht hget he) (h.repository.of_mem ht hget he)
        (h.timeoutSecs.of_mem ht hget he)) _
    exact ⟨_, Except.map_eq_ok_iff.2 ⟨u, hu, rfl⟩⟩
  · exact ⟨c, rfl⟩

variable {text text' : String} {t' : Table}

theorem parse_eq_ofTable (h : Toml.parse? text = some t) : parse text = ofTable t := by
  rw [parse, Toml.decode, h]

theorem parse_eq_ok_iff_describes (hparse : Toml.parse? text = some t)
    (htables : SectionsAreTables t) : parse text = .ok c ↔ Describes t c := by
  obtain ⟨hkeys, ht⟩ := Toml.distinct_of_parse? hparse
  rw [parse_eq_ofTable hparse]
  refine ⟨describes_of_ofTable hkeys ht htables, fun h => ?_⟩
  obtain ⟨c', hc'⟩ := exists_of_wellTyped hkeys ht htables h.wellTyped
  rw [hc', h.unique (describes_of_ofTable hkeys ht htables hc')]

theorem exists_parse_eq_ok_iff (hparse : Toml.parse? text = some t)
    (htables : SectionsAreTables t) : (∃ c, parse text = .ok c) ↔ WellTyped t := by
  refine ⟨fun ⟨c, hc⟩ => ((parse_eq_ok_iff_describes hparse htables).1 hc).wellTyped, fun h => ?_⟩
  obtain ⟨hkeys, ht⟩ := Toml.distinct_of_parse? hparse
  rw [parse_eq_ofTable hparse]
  exact exists_of_wellTyped hkeys ht htables h

/-! ## What is of no influence -/

/-- The keys of the fields, with the names of their sections. -/
def knownKeys : List (String × String) :=
  NodeConfig.fieldOrder.map ("node", ·) ++ UpdateConfig.fieldOrder.map ("update", ·)

theorem Describes.congr (hknown : ∀ k ∈ knownKeys, t.at? k.1 k.2 = t'.at? k.1 k.2)
    (h : Describes t c) : Describes t' c := by
  have hat : ∀ name key, (name, key) ∈ knownKeys → t.at? name key = t'.at? name key :=
    fun name key => hknown (name, key)
  constructor
  · rw [← hat "node" "endpoint" (by decide)]
    exact h.endpoint
  · rw [← hat "node" "connect_timeout_secs" (by decide)]
    exact h.connectTimeoutSecs
  · rw [← hat "update" "enabled" (by decide)]
    exact h.enabled
  · rw [← hat "update" "api_base" (by decide)]
    exact h.apiBase
  · rw [← hat "update" "repository" (by decide)]
    exact h.repository
  · rw [← hat "update" "timeout_secs" (by decide)]
    exact h.timeoutSecs

/-- Documents that say the same under the known keys are the same configuration, or neither is
one. -/
theorem toOption_parse_congr (hparse : Toml.parse? text = some t)
    (hparse' : Toml.parse? text' = some t') (htables : SectionsAreTables t)
    (htables' : SectionsAreTables t')
    (hknown : ∀ k ∈ knownKeys, t.at? k.1 k.2 = t'.at? k.1 k.2) :
    (parse text).toOption = (parse text').toOption := by
  ext c
  rw [Except.toOption_eq_some_iff, Except.toOption_eq_some_iff,
    parse_eq_ok_iff_describes hparse htables, parse_eq_ok_iff_describes hparse' htables']
  exact ⟨.congr hknown, .congr fun k hk => (hknown k hk).symm⟩

/-- The section without the entries of other keys, if it is a table. -/
def restrict (keys : List String) : Value → Value
  | .table sub => .table (sub.filter fun e => e.1 ∈ keys)
  | v => v

/-- The entries of the known keys in their order. -/
def knownPart (t : Table) : Table :=
  (t.filter fun e => e.1 ∈ ["node", "update"]).map fun e =>
    (e.1, restrict (if e.1 = "node" then NodeConfig.fieldOrder else UpdateConfig.fieldOrder) e.2)

end Config

theorem NodeConfig.ofValue_restrict (v : Value) :
    ofValue (Config.restrict fieldOrder v) = ofValue v := by
  cases v with
  | table sub => exact Except.foldlM_filter (fun c e he => add_of_notMem (by simpa using he) c) _ _
  | _ => rfl

theorem UpdateConfig.ofValue_restrict (v : Value) :
    ofValue (Config.restrict fieldOrder v) = ofValue v := by
  cases v with
  | table sub => exact Except.foldlM_filter (fun c e he => add_of_notMem (by simpa using he) c) _ _
  | _ => rfl

namespace Config

variable {t t' : Table} {text text' : String}

/-- Only the entries of known keys are decoded. -/
theorem ofTable_knownPart (t : Table) : ofTable (knownPart t) = ofTable t := by
  have hstep : (fun c e => add c (e.1, restrict
      (if e.1 = "node" then NodeConfig.fieldOrder else UpdateConfig.fieldOrder) e.2)) = add := by
    funext c ⟨name, v⟩
    by_cases hnode : name = "node"
    · subst hnode
      exact congrArg (Except.map _) (NodeConfig.ofValue_restrict v)
    by_cases hupdate : name = "update"
    · subst hupdate
      exact congrArg (Except.map _) (UpdateConfig.ofValue_restrict v)
    · rw [add_of_notMem (by simp [hnode, hupdate]), add_of_notMem (by simp [hnode, hupdate])]
  rw [ofTable, knownPart, List.foldlM_map, hstep]
  exact Except.foldlM_filter (fun c e he => add_of_notMem (by simpa using he) c) _ _

/-- Documents that differ in unknown entries only are decoded alike, refusals included. -/
theorem parse_congr (hparse : Toml.parse? text = some t) (hparse' : Toml.parse? text' = some t')
    (hknown : knownPart t = knownPart t') : parse text = parse text' := by
  rw [parse_eq_ofTable hparse, parse_eq_ofTable hparse', ← ofTable_knownPart t, hknown,
    ofTable_knownPart]

/-! ## Field by field -/

/-- A text that is read as a document, with sections that are tables if it has them, is decoded if
and only if its known keys are of their types, and then to what the document says under these keys
and to the defaults of those that it does not have. Entries of other keys are of no influence, not
even on a refusal, and neither is the order of the entries on what is decoded. What the document
says under a key is what its lines spell there, be it below a header, in an inline table or by a
dotted key. -/
theorem parse_fieldwise :
    (∀ text t, Toml.parse? text = some t → SectionsAreTables t →
      ((∃ c, parse text = .ok c) ↔ WellTyped t) ∧ ∀ c, parse text = .ok c ↔ Describes t c) ∧
    (∀ text text' t t', Toml.parse? text = some t → Toml.parse? text' = some t' →
      (knownPart t = knownPart t' → parse text = parse text') ∧
      (SectionsAreTables t → SectionsAreTables t' →
        (∀ k ∈ knownKeys, t.at? k.1 k.2 = t'.at? k.1 k.2) →
        (parse text).toOption = (parse text').toOption)) ∧
    ∀ text statements t, Toml.readStatements text.toList = some statements →
      Toml.parse? text = some t → ∀ name key v, v.isScalar →
        (t.at? name key = some v ↔ Toml.Spelled statements name key v) := by
  refine ⟨fun text t hparse htables => ?_, fun text text' t t' hparse hparse' => ?_, ?_⟩
  · exact ⟨exists_parse_eq_ok_iff hparse htables,
      fun c => parse_eq_ok_iff_describes hparse htables⟩
  · exact ⟨parse_congr hparse hparse', toOption_parse_congr hparse hparse'⟩
  · intro text statements t hread hparse name key v hv
    rw [Toml.parse?, hread, Option.bind_some] at hparse
    exact Toml.at?_iff_spelled hparse hv

/-- A document with headers, unknown entries beside and within its sections; the same without
these; and one that says the same in another order, by a dotted key and an inline table. -/
theorem parse_fieldwise_threeSpellings :
    let c : Config := { node := { connectTimeoutSecs := 0 }, update := { enabled := false } }
    let full := "[update]\nenabled = false\nnode.endpoint = 1\n[x]\ny = [[\x7ba.b = 2\x7d]]\n" ++
      "[node]\nconnect_timeout_secs = 0\n[[node.update]]\nenabled = 3\n"
    let bare := "[update]\nenabled = false\n[node]\nconnect_timeout_secs = 0\n"
    let short := "node.connect_timeout_secs = 0\nupdate = \x7benabled = false\x7d\n"
    parse bare = .ok c ∧ parse full = parse bare ∧ (parse short).toOption = some c ∧
      ∃ statements, Toml.readStatements short.toList = some statements ∧
        Toml.Spelled statements "update" "enabled" (.boolean false) := by
  intro c full bare short
  let known : Table := [("update", .table [("enabled", .boolean false)]),
    ("node", .table [("connect_timeout_secs", .integer 0)])]
  let all : Table := [("update", .table [("enabled", .boolean false),
      ("node", .table [("endpoint", .integer 1)])]),
    ("x", .table [("y", .array [.array [.table [("a", .table [("b", .integer 2)])]]])]),
    ("node", .table [("connect_timeout_secs", .integer 0),
      ("update", .array [.table [("enabled", .integer 3)]])])]
  let turned : Table := known.reverse
  have hfull : Toml.parse? full = some all := by decide +kernel
  have hbare : Toml.parse? bare = some known := by decide +kernel
  have hshort : Toml.parse? short = some turned := by decide +kernel
  have hforms : ∀ e ∈ known, ∃ sub, e.2 = .table sub := by simp [known]
  have hknown : SectionsAreTables known := fun _ _ v hv => hforms _ (Table.mem_of_get? hv)
  have hturned : SectionsAreTables turned :=
    fun _ _ v hv => hforms _ (List.mem_reverse.1 (Table.mem_of_get? hv))
  have hdescribes : Describes known c := ⟨rfl, rfl, rfl, rfl, rfl, rfl⟩
  have hok : parse bare = .ok c := ((parse_fieldwise.1 bare known hbare hknown).2 c).2 hdescribes
  obtain ⟨statements, hread, -⟩ := Option.bind_eq_some_iff.1 hshort
  refine ⟨hok, ?_, ?_, statements, hread, ?_⟩
  · exact (parse_fieldwise.2.1 full bare all known hfull hbare).1 (by decide +kernel)
  · rw [← (parse_fieldwise.2.1 bare short known turned hbare hshort).2 hknown hturned
      (by decide +kernel), hok]
    rfl
  · exact (parse_fieldwise.2.2 short statements turned hread hshort _ _ _ rfl).1 rfl

end Config

end TronWallet
