import TronWallet.Proofs.Files.Joining
import TronWallet.Proofs.Files.Walk

/-!
# Files in one directory

A directory at the place to which its path leads `Receives` files of some names if the names and
their paths are short enough and no directory is in the place of such a file. These are all the
reasons for which a file in a directory can be refused (`writable_join_eq_ok_iff`), and writing
one file is none for another (`receives_set_iff`).
-/

namespace TronWallet.Files.Disk

variable {d : Disk} {working origin place reached : Location} {name directory : String}

theorem walk_append (d : Disk) (origin : Location) (xs ys : List String) :
    d.walk origin (xs ++ ys) = (d.walk origin xs).bind (d.walk · ys) := by
  induction xs generalizing origin with
  | nil => rfl
  | cons step steps ih =>
      rw [List.cons_append, walk, walk]
      split
      · rfl
      split
      · exact ih _
      split
      · rfl
      · exact ih _

/-- The path of a directory leads to the place. The empty path is the working directory. -/
def Leads (d : Disk) (working : Location) (directory : String) (reached : Location) : Prop :=
  d.walk (if directory.toList.head? = some '/' then [] else working)
    (stepsOf (Text.split '/' directory.toList)) = .ok reached

instance : Decidable (d.Leads working directory reached) :=
  inferInstanceAs (Decidable (_ = Except.ok reached))

/-- The name is one for a file in the directory that has the path and is at the place. -/
structure Takes (d : Disk) (directory : String) (reached : Location) (name : String) : Prop where
  noNul : '\x00' ∉ (join directory name).toList
  path : Text.byteLength (join directory name).toList ≤ pathLimit
  length : Text.byteLength name.toList ≤ nameLimit
  free : d.isDirectory (reached ++ [name]) = false

/-- A file can be written in a directory exactly if the directory is there and takes its name. -/
theorem writable_join_eq_ok_iff (h : IsName name) (hup : name ≠ "..") :
    d.writable working (join directory name) = .ok place ↔
      ∃ reached, d.Leads working directory reached ∧ d.isDirectory reached = true ∧
        d.Takes directory reached name ∧ place = reached ++ [name] := by
  rw [writable_eq_ok_iff]
  simp only [parsePath_eq_ok_iff, parse?_join h, Option.some.injEq]
  constructor
  · rintro ⟨p, ⟨hnul, hpath, rfl⟩, -, hwalk, hplace⟩
    rw [walk_append] at hwalk
    obtain ⟨reached, hreached, hlast⟩ := Except.bind_eq_ok_iff.1 hwalk
    rw [walk_cons_eq_ok_iff] at hlast
    obtain ⟨hdirectory, ⟨hname, -⟩ | ⟨-, hlength, hlast⟩⟩ := hlast
    · exact absurd hname hup
    · cases hlast
      refine ⟨reached, ?_, hdirectory, ⟨hnul, hpath, hlength, hplace⟩, rfl⟩
      simpa [Leads, start] using hreached
  · rintro ⟨reached, hleads, hdirectory, htakes, rfl⟩
    refine ⟨_, ⟨htakes.noNul, htakes.path, rfl⟩, rfl, ?_, htakes.free⟩
    rw [walk_append]
    refine Except.bind_eq_ok_iff.2 ⟨reached, by simpa [Leads, start] using hleads, ?_⟩
    exact walk_cons_eq_ok_iff.2 ⟨hdirectory, .inr ⟨hup, htakes.length, rfl⟩⟩

/-- The directory of the path is at the place and takes all the names. -/
structure Receives (d : Disk) (working : Location) (directory : String) (reached : Location)
    (names : List String) : Prop where
  leads : d.Leads working directory reached
  isDirectory : d.isDirectory reached = true
  takes : ∀ name ∈ names, d.Takes directory reached name

variable {names : List String} {content : Content}

/-- A file is written where no directory is, and is none itself. -/
theorem isDirectory_set_file (h : d.isDirectory place = false) (other : Location) :
    (d.set place (some (.file content))).isDirectory other = d.isDirectory other := by
  by_cases heq : other = place
  · rw [heq, h]
    exact isDirectory_eq_false_of_file (ne_nil_of_isDirectory_eq_false h) (entry_set_self ..)
  · exact isDirectory_set_of_ne _ heq

theorem walk_congr {d' : Disk} (h : ∀ place, d'.isDirectory place = d.isDirectory place)
    {steps : List String} : d'.walk origin steps = .ok place ↔ d.walk origin steps = .ok place :=
  ⟨walk_mono fun place hplace => by rwa [← h], walk_mono fun place hplace => by rwa [h]⟩

theorem takes_set_iff (h : d.isDirectory place = false) :
    (d.set place (some (.file content))).Takes directory reached name ↔
      d.Takes directory reached name := by
  constructor
  · rintro ⟨noNul, path, length, free⟩
    exact ⟨noNul, path, length, by rwa [isDirectory_set_file h] at free⟩
  · rintro ⟨noNul, path, length, free⟩
    exact ⟨noNul, path, length, by rwa [isDirectory_set_file h]⟩

/-- What files are written changes nothing in what a directory receives. -/
theorem receives_set_iff (h : d.isDirectory place = false) :
    (d.set place (some (.file content))).Receives working directory reached names ↔
      d.Receives working directory reached names := by
  have hleads : (d.set place (some (.file content))).Leads working directory reached ↔
      d.Leads working directory reached :=
    walk_congr (isDirectory_set_file h)
  constructor
  · rintro ⟨leads, isDirectory, takes⟩
    exact ⟨hleads.1 leads, by rwa [isDirectory_set_file h] at isDirectory,
      fun name hname => (takes_set_iff h).1 (takes name hname)⟩
  · rintro ⟨leads, isDirectory, takes⟩
    exact ⟨hleads.2 leads, by rwa [isDirectory_set_file h],
      fun name hname => (takes_set_iff h).2 (takes name hname)⟩

theorem write_join_eq_ok_iff (text : String) {d' : Disk} (h : IsName name)
    (hup : name ≠ "..") :
    d.write working (join directory name) text = .ok d' ↔
      ∃ reached, d.Receives working directory reached [name] ∧
        d' = d.set (reached ++ [name]) (some (.file (.text text))) := by
  rw [write_eq_ok_iff]
  simp only [writable_join_eq_ok_iff h hup]
  constructor
  · rintro ⟨place, ⟨reached, hleads, hdirectory, htakes, rfl⟩, rfl⟩
    exact ⟨reached, ⟨hleads, hdirectory, List.forall_mem_singleton.2 htakes⟩, rfl⟩
  · rintro ⟨reached, hreceives, rfl⟩
    exact ⟨_, ⟨reached, hreceives.leads, hreceives.isDirectory,
      hreceives.takes name (List.mem_singleton_self name), rfl⟩, rfl⟩

end TronWallet.Files.Disk
