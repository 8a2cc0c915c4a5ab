import TronWallet.Proofs.Text.Cutting
import TronWallet.Session

/-!
# The port of a node

A node is given its port by a single question: is there a colon in the text? So a text without
one gets the default port, a text that ends in a port keeps it, and a second time nothing changes
(`normalize_normalize`). But an address in brackets has colons of its own. It is left as it is, and
what follows its last colon is no port, so that it cannot be connected to (`node_of_settings`).
-/

namespace TronWallet.Endpoint

variable {endpoint node host port inner : String} {cs : List Char} {n : Nat}

/-! ## Normal forms -/

theorem normalize_of_mem (h : ':' ∈ node.toList) : normalize node = node :=
  if_pos h

theorem normalize_of_not_mem (h : ':' ∉ node.toList) :
    normalize node = node ++ ":" ++ defaultPort :=
  if_neg h

theorem mem_append_port (host port : String) : ':' ∈ (host ++ ":" ++ port).toList := by
  simp

theorem mem_normalize (node : String) : ':' ∈ (normalize node).toList := by
  by_cases h : ':' ∈ node.toList
  · rwa [normalize_of_mem h]
  · rw [normalize_of_not_mem h]
    exact mem_append_port node defaultPort

@[simp] theorem normalize_normalize (node : String) :
    normalize (normalize node) = normalize node :=
  normalize_of_mem (mem_normalize node)

/-! ## Ports -/

theorem port?_eq_some_iff :
    port? endpoint = some n ↔
      ∃ host port, endpoint = host ++ ":" ++ port ∧ ':' ∉ port.toList ∧
        number? port.toList = some n := by
  rw [port?, Option.bind_eq_some_iff]
  constructor
  · rintro ⟨port, hport, hnumber⟩
    obtain ⟨host, hendpoint, hnot⟩ := Text.afterLast_eq_some_iff.1 hport
    refine ⟨String.ofList host, String.ofList port, ?_, by simpa using hnot, by simpa using hnumber⟩
    rw [← String.toList_inj]
    simpa using hendpoint
  · rintro ⟨host, port, rfl, hnot, hnumber⟩
    exact ⟨port.toList, Text.afterLast_eq_some_iff.2 ⟨host.toList, by simp, hnot⟩, hnumber⟩

/-- The port is what stands after the last colon. -/
theorem port?_append (host : String) (h : ':' ∉ port.toList) :
    port? (host ++ ":" ++ port) = number? port.toList := by
  have hlast : afterLastColon? (host ++ ":" ++ port).toList = some port.toList :=
    Text.afterLast_eq_some_iff.2 ⟨host.toList, by simp, h⟩
  rw [port?, hlast, Option.bind_some]

/-- A number has no bracket in it. -/
theorem number?_eq_none_of_mem (h : ']' ∈ cs) : number? cs = none := by
  have hdigits : ∀ ds : List Char, ']' ∈ ds → Text.Decimal.toNat? ds = none := by
    intro ds hmem
    refine if_neg fun hnumber => ?_
    exact absurd (List.all_eq_true.1 hnumber.2 _ hmem) (by decide)
  rw [number?.eq_def]
  split
  · rename_i rest
    have hmem : ']' ∈ rest := by simpa using h
    simp only [hdigits rest hmem, Option.filter_none]
  · simp only [hdigits cs h, Option.filter_none]

/-- An address in brackets has colons, but no port after the last of them. -/
theorem port?_bracketed (h : ':' ∈ inner.toList) : port? ("[" ++ inner ++ "]") = none := by
  obtain ⟨back, front, hreverse, hnot⟩ := List.eq_append_cons_of_mem (List.mem_reverse.2 h)
  have hinner : inner = String.ofList front.reverse ++ ":" ++ String.ofList back.reverse := by
    rw [← String.toList_inj, ← List.reverse_reverse inner.toList, hreverse]
    simp
  have hassoc : "[" ++ inner ++ "]" =
      "[" ++ String.ofList front.reverse ++ ":" ++ (String.ofList back.reverse ++ "]") := by
    rw [hinner]
    simp only [String.append_assoc]
  rw [hassoc, port?_append _ (by simpa using hnot)]
  exact number?_eq_none_of_mem (by simp)

/-! ## The node of a run -/

theorem connect_of_port?_eq_none (s : Surroundings) (timeout : Nat) (h : port? endpoint = none) :
    connect s endpoint timeout = .error (.connection endpoint .invalidPort) := by
  rw [connect, h]

/-- The node of the settings is the endpoint of the command line, or else of the configuration,
with the default port if there is no colon in it, and as it stands if it ends in a port. To
normalize it once more changes nothing. An address in brackets without a port is also left
as it stands: it has no port then, and connecting fails. So the node has a port exactly if the
endpoint has no colon or a port after its last one. -/
theorem node_of_settings (options : CommandLine.Options) (config : Config) :
    let given := options.node.getD config.node.endpoint
    let node := (Settings.of options config).node
    (':' ∉ given.toList → node = given ++ ":50051" ∧ port? node = some 50051) ∧
      (∀ host port : String, given = host ++ ":" ++ port →
        node = given ∧ (':' ∉ port.toList → port? node = number? port.toList)) ∧
      normalize node = node ∧
      (∀ inner : String, given = "[" ++ inner ++ "]" → ':' ∈ inner.toList →
        node = given ∧ ∀ s timeout,
          connect s node timeout = .error (.connection node .invalidPort)) ∧
      ((∃ n, port? node = some n) ↔ ':' ∉ given.toList ∨
        ∃ host port n, given = host ++ ":" ++ port ∧ ':' ∉ port.toList ∧
          number? port.toList = some n) := by
  intro given node
  have hnode : node = normalize given := rfl
  have hbare : ':' ∉ given.toList → node = given ++ ":50051" ∧ port? node = some 50051 := by
    intro h
    have heq : node = given ++ ":" ++ defaultPort := hnode.trans (normalize_of_not_mem h)
    rw [heq, port?_append given (by decide)]
    exact ⟨String.append_assoc .., by decide⟩
  have hkept : ':' ∈ given.toList → node = given := fun h => hnode.trans (normalize_of_mem h)
  refine ⟨hbare, ?_, ?_, ?_, ?_⟩
  · intro host port hgiven
    have heq := hkept (hgiven ▸ mem_append_port host port)
    refine ⟨heq, fun hport => ?_⟩
    rw [heq, hgiven, port?_append host hport]
  · rw [hnode, normalize_normalize]
  · intro inner hgiven hinner
    have heq := hkept (by simp [hgiven, hinner])
    refine ⟨heq, fun s timeout => connect_of_port?_eq_none s timeout ?_⟩
    rw [heq, hgiven, port?_bracketed hinner]
  · by_cases h : ':' ∈ given.toList
    · rw [hkept h, or_iff_right (not_not_intro h)]
      simp only [port?_eq_some_iff]
      exact ⟨fun ⟨n, host, port, hn⟩ => ⟨host, port, n, hn⟩,
        fun ⟨host, port, n, hn⟩ => ⟨n, host, port, hn⟩⟩
    · exact iff_of_true ⟨_, (hbare h).2⟩ (.inl h)

/-- The address of the machine itself, in brackets, does not get a port. -/
theorem bracketed_without_port :
    let node := (Settings.of { node := some "[::1]" } {}).node
    node = "[::1]" ∧ node ≠ "[::1]" ++ ":50051" ∧ port? node = none := by
  decide +kernel

end TronWallet.Endpoint
