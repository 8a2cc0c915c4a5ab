import TronWallet.Config.Storage
import TronWallet.Proofs.Fallible
import TronWallet.Proofs.Files.Walk
import TronWallet.Proofs.Toml.Document
import TronWallet.Proofs.Toml.Fields
import TronWallet.Proofs.Toml.Range

/-!
# A configuration is read back from its file

The only values of a configuration that TOML cannot hold are timeouts of 2 ^ 63 seconds or
more. Every other configuration is written and read back as it was, whatever its texts are
(`exists_write?`), and none but those is ever read (`fits_of_parse`). So a configuration that
has been loaded survives being written and loaded again (`write_then_load`).
-/

namespace TronWallet

/-- The timeout has a place in a file. -/
def NodeConfig.Fits (c : NodeConfig) : Prop :=
  c.connectTimeoutSecs < 0x8000000000000000

/-- The timeout has a place in a file. -/
def UpdateConfig.Fits (c : UpdateConfig) : Prop :=
  c.timeoutSecs < 0x8000000000000000

/-- Both timeouts have a place in a file. -/
structure Config.Fits (c : Config) : Prop where
  node : c.node.Fits
  update : c.update.Fits

/-! ## Reading what has been written -/

namespace Config

variable {c : Config}

theorem wellFormed_sections (h : c.Fits) : ∀ s ∈ c.sections, s.WellFormed := by
  simp only [sections, List.forall_mem_cons]
  refine ⟨⟨?_, ?_⟩, ⟨?_, ?_⟩, fun _ hs => absurd hs List.not_mem_nil⟩
  · simp
  · simp [Toml.Scalar.readsBack_text, Toml.Scalar.readsBack_integer h.node]
  · simp
  · simp [Toml.Scalar.readsBack_text, Toml.Scalar.readsBack_boolean,
      Toml.Scalar.readsBack_integer h.update]

theorem ofTable_sections (c : Config) :
    ofTable (c.sections.map fun s => (s.name, .table s.table)) = .ok c :=
  rfl

theorem parse_sections (h : c.Fits) :
    parse (String.ofList (Toml.writeSections c.sections)) = .ok c := by
  have hnames : (c.sections.map Toml.Section.name).Nodup := by simp [sections]
  rw [parse, Toml.decode, Toml.parse?_writeSections hnames (wellFormed_sections h)]
  exact ofTable_sections c

/-- A configuration whose timeouts have a place in a file is written and read back. -/
theorem exists_write? (h : c.Fits) : ∃ text, c.write? = some text ∧ parse text = .ok c :=
  ⟨_, if_pos ⟨h.node, h.update⟩, parse_sections h⟩

end Config

/-! ## What is read can be written -/

namespace Toml.Value

theorem Fits.asNatural {v : Value} (hv : v.Fits) {n : Nat} (h : v.asNatural = .ok n) :
    n < 0x8000000000000000 := by
  rw [asNatural_eq_ok_iff.1 h] at hv
  cases hv with
  | integer hrange => exact Int.ofNat_lt.1 hrange.2

theorem Fits.entries? {v : Value} (hv : v.Fits) {entries : Table} (h : v.entries? = some entries) :
    ∀ e ∈ entries, e.2.Fits := by
  cases hv with
  | table hentries =>
      obtain rfl := Option.some.inj h
      exact hentries
  | moment m =>
      obtain rfl := Option.some.inj h
      exact List.forall_mem_singleton.2 (.text _)
  | text s => cases h
  | integer hrange => cases h
  | floating x => cases h
  | boolean b => cases h
  | array hitems => cases h

/-- What each entry of a section keeps, the section keeps, be it a table or an array of its
fields. -/
theorem Fits.section_induction {α : Type} {P : α → Prop}
    {add : α → String × Value → Except Refusal α}
    (hadd : ∀ e : String × Value, e.2.Fits → ∀ c c', P c → add c e = .ok c' → P c')
    {v : Value} (hv : v.Fits) {start c : α} (hstart : P start) {fields : List String}
    {expected : String}
    (h : (match v.entries?, v with
      | some entries, _ => entries.foldlM add start
      | none, .array items => (fields.zip items).foldlM add start
      | none, _ => v.refuse expected) = .ok c) : P c := by
  split at h
  · rename_i entries hentries
    exact Except.foldlM_induction (fun e he => hadd e (hv.entries? hentries e he)) hstart h
  · cases hv with
    | array hitems =>
        refine Except.foldlM_induction (fun e he => hadd e ?_) hstart h
        exact hitems e.2 (List.of_mem_zip he).2
  · cases h

end Toml.Value

open Toml (Value)

theorem NodeConfig.Fits.add {e : String × Value} (he : e.2.Fits) (c c' : NodeConfig)
    (hc : c.Fits) (h : c.add e = .ok c') : c'.Fits := by
  rw [NodeConfig.add.eq_def] at h
  split at h
  · obtain ⟨s, -, rfl⟩ := Except.map_eq_ok_iff.1 h
    exact hc
  · obtain ⟨n, hn, rfl⟩ := Except.map_eq_ok_iff.1 h
    exact he.asNatural hn
  · obtain rfl := Except.ok.inj h
    exact hc

theorem UpdateConfig.Fits.add {e : String × Value} (he : e.2.Fits) (c c' : UpdateConfig)
    (hc : c.Fits) (h : c.add e = .ok c') : c'.Fits := by
  rw [UpdateConfig.add.eq_def] at h
  split at h
  · obtain ⟨b, -, rfl⟩ := Except.map_eq_ok_iff.1 h
    exact hc
  · obtain ⟨s, -, rfl⟩ := Except.map_eq_ok_iff.1 h
    exact hc
  · obtain ⟨s, -, rfl⟩ := Except.map_eq_ok_iff.1 h
    exact hc
  · obtain ⟨n, hn, rfl⟩ := Except.map_eq_ok_iff.1 h
    exact he.asNatural hn
  · obtain rfl := Except.ok.inj h
    exact hc

namespace Config

variable {c : Config}

theorem fits_default : Config.Fits {} where
  node := show 10 < 0x8000000000000000 by decide
  update := show 10 < 0x8000000000000000 by decide

theorem Fits.add {e : String × Value} (he : e.2.Fits) (c c' : Config) (hc : c.Fits)
    (h : c.add e = .ok c') : c'.Fits := by
  rw [Config.add.eq_def] at h
  split at h
  · obtain ⟨n, hn, rfl⟩ := Except.map_eq_ok_iff.1 h
    exact ⟨he.section_induction (fun _ => NodeConfig.Fits.add) fits_default.node hn, hc.update⟩
  · obtain ⟨u, hu, rfl⟩ := Except.map_eq_ok_iff.1 h
    exact ⟨hc.node, he.section_induction (fun _ => UpdateConfig.Fits.add) fits_default.update hu⟩
  · obtain rfl := Except.ok.inj h
    exact hc

theorem fits_of_parse {text : String} (h : parse text = .ok c) : c.Fits := by
  rw [parse, Toml.decode] at h
  split at h
  · rename_i entries hentries
    have hfits := Toml.fits_of_parse? hentries
    exact Except.foldlM_induction (fun e he => Fits.add (hfits e he)) fits_default h
  · cases h

/-! ## Loading, writing and loading again -/

variable {disk after : Files.Disk} {working : Files.Location} {path text : String}

theorem fits_of_load (h : load disk working path = .ok c) : c.Fits := by
  rw [load] at h
  split at h
  · split at h
    · cases h
    · exact fits_of_parse (Except.mapError_eq_ok_iff.1 h)
  · obtain rfl := Except.ok.inj h
    exact fits_default

/-- A file that has been written is the one that is loaded. -/
theorem load_of_write (hwrite : disk.write working path text = .ok after)
    (hparse : parse text = .ok c) : load after working path = .ok c := by
  obtain ⟨place, hwritable, hentry⟩ := Files.Disk.writable_of_write hwrite
  rw [load, Files.Disk.leadsSomewhere_of_writable hwritable hentry,
    Files.Disk.read_of_writable hwritable hentry]
  simp [hparse]

/-- Every configuration whose timeouts are below 2 ^ 63 is written as a text that reads back
as the configuration, and every configuration that a text gives is of this kind. So one that
has been loaded, from a file or for want of one, is loaded again where it has been written. -/
theorem write_then_load :
    (∀ c : Config, c.Fits → ∃ text, c.write? = some text ∧ parse text = .ok c) ∧
    (∀ text c, parse text = .ok c → c.Fits) ∧
    ∀ disk working path c, load disk working path = .ok c →
      c.Fits ∧ ∃ text, c.write? = some text ∧ parse text = .ok c ∧
        ∀ after, disk.write working path text = .ok after → load after working path = .ok c := by
  refine ⟨fun c => exists_write?, fun text c => fits_of_parse, ?_⟩
  intro disk working path c hload
  have hfits := fits_of_load hload
  obtain ⟨text, hwrite, hparse⟩ := exists_write? hfits
  exact ⟨hfits, text, hwrite, hparse, fun after hafter => load_of_write hafter hparse⟩

/-- A configuration with the longest timeout and with texts that need each form of a string. -/
def awkwardTexts : Config where
  node := { endpoint := "\n'\"\"\"\\\r\x01", connectTimeoutSecs := 0x7fffffffffffffff }
  update := { enabled := false, apiBase := "", repository := "\n\"'''\"\"", timeoutSecs := 0 }

/-- The configuration `awkwardTexts` survives being written; and the configuration of a file
that says less survives being loaded, written and loaded again. -/
theorem write_then_load_awkwardTexts :
    let disk := Files.Disk.empty.set ["c"] (some (.file (.text "update = [false, '\\']")))
    let c : Config := { update := { enabled := false, apiBase := "\\" } }
    (∃ text, awkwardTexts.write? = some text ∧ parse text = .ok awkwardTexts) ∧
      load disk [] "/c" = .ok c ∧
      ∃ text after, c.write? = some text ∧ disk.write [] "/c" text = .ok after ∧
        load after [] "/c" = .ok c := by
  intro disk c
  have hfits : awkwardTexts.Fits := ⟨show _ < _ by decide, show _ < _ by decide⟩
  have hload : load disk [] "/c" = .ok c := by decide +kernel
  have hplace : disk.writable [] "/c" = .ok ["c"] := by decide +kernel
  obtain ⟨-, text, hwrite, -, hagain⟩ := write_then_load.2.2 disk [] "/c" c hload
  obtain ⟨after, hafter⟩ : ∃ after, disk.write [] "/c" text = .ok after :=
    ⟨_, Files.Disk.write_eq_ok_iff.2 ⟨["c"], hplace, rfl⟩⟩
  exact ⟨write_then_load.1 awkwardTexts hfits, hload, text, after, hwrite, hafter,
    hagain after hafter⟩

end Config

end TronWallet
