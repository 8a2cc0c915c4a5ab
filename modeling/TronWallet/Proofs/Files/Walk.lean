import TronWallet.Files.Disk
import TronWallet.Proofs.Fallible

/-!
# Following a path

Steps that lead somewhere pass through directories only, so they lead there on every disk
that keeps the directories (`walk_mono`). What a path does is then told by where it leads:
a file that could be written is found again by the same path (`read_of_write`), and
writing it once more changes nothing (`write_of_write`).
-/

namespace TronWallet.Files.Disk

variable {d d' : Disk} {working origin place : Location} {steps : List String}

/-- Every directory of the first disk is one of the second. -/
def KeepsDirectories (d d' : Disk) : Prop :=
  ∀ place, d.isDirectory place = true → d'.isDirectory place = true

theorem KeepsDirectories.trans {d'' : Disk} (h : KeepsDirectories d d')
    (h' : KeepsDirectories d' d'') : KeepsDirectories d d'' :=
  fun place hplace => h' place (h place hplace)

/-! ## Changing one entry -/

theorem isDirectory_set_of_ne {other : Location} (e : Option Entry) (h : other ≠ place) :
    (d.set place e).isDirectory other = d.isDirectory other := by
  rw [isDirectory, isDirectory, entry_set_of_ne d e h]

theorem keepsDirectories_set (e : Option Entry) (h : d.isDirectory place = false) :
    KeepsDirectories d (d.set place e) := by
  intro other hother
  have hne : other ≠ place := by
    rintro rfl
    rw [h] at hother
    cases hother
  rw [isDirectory_set_of_ne e hne]
  exact hother

theorem occupied_of_isDirectory (h : d.isDirectory place = true) : d.occupied place = true := by
  rw [isDirectory, Bool.or_eq_true] at h
  rw [occupied, Bool.or_eq_true]
  refine h.imp id fun h => ?_
  split at h
  · simp [*]
  · cases h

theorem ne_nil_of_isDirectory_eq_false (h : d.isDirectory place = false) : place ≠ [] := by
  rintro rfl
  cases h

@[simp] theorem set_set (d : Disk) (place : Location) (e e' : Option Entry) :
    (d.set place e).set place e' = d.set place e' := by
  simp only [set, mk.injEq]
  funext other
  split <;> rfl

/-! ## Steps -/

theorem walk_cons_eq_ok_iff {step : String} :
    d.walk origin (step :: steps) = .ok place ↔
      d.isDirectory origin = true ∧
        ((step = ".." ∧ d.walk origin.dropLast steps = .ok place) ∨
          (step ≠ ".." ∧ Text.byteLength step.toList ≤ nameLimit ∧
            d.walk (origin ++ [step]) steps = .ok place)) := by
  rw [walk]
  by_cases hdirectory : d.isDirectory origin = true
  · by_cases hup : step = ".."
    · simp [hdirectory, hup]
    · by_cases hlong : nameLimit < Text.byteLength step.toList
      · simp [hdirectory, hup, hlong, Nat.not_le.2 hlong]
      · simp [hdirectory, hup, hlong, Nat.not_lt.1 hlong]
  · simp [hdirectory]

/-- Steps lead to the same place on a disk that keeps the directories. -/
theorem walk_mono (h : KeepsDirectories d d') (hwalk : d.walk origin steps = .ok place) :
    d'.walk origin steps = .ok place := by
  induction steps generalizing origin with
  | nil => exact hwalk
  | cons step steps ih =>
      rw [walk_cons_eq_ok_iff] at hwalk ⊢
      obtain ⟨hdirectory, hrest⟩ := hwalk
      refine ⟨h origin hdirectory, ?_⟩
      rcases hrest with ⟨hup, hrest⟩ | ⟨hname, hlength, hrest⟩
      · exact .inl ⟨hup, ih hrest⟩
      · exact .inr ⟨hname, hlength, ih hrest⟩

theorem reachesDirectory_iff :
    d.reachesDirectory origin steps = true ↔
      ∃ place, d.walk origin steps = .ok place ∧ d.isDirectory place = true := by
  rw [reachesDirectory]
  cases d.walk origin steps <;> simp

theorem reachesDirectory_mono (h : KeepsDirectories d d')
    (hreaches : d.reachesDirectory origin steps = true) :
    d'.reachesDirectory origin steps = true := by
  obtain ⟨place, hwalk, hplace⟩ := reachesDirectory_iff.1 hreaches
  exact reachesDirectory_iff.2 ⟨place, walk_mono h hwalk, h place hplace⟩

theorem parsePath_eq_ok_iff {path : String} {p : Path} :
    parsePath path = .ok p ↔
      '\x00' ∉ path.toList ∧ Text.byteLength path.toList ≤ pathLimit ∧
        Path.parse? path = some p := by
  rw [parsePath]
  by_cases hnul : '\x00' ∈ path.toList
  · simp [hnul]
  · by_cases hlong : pathLimit < Text.byteLength path.toList
    · simp [hnul, hlong, Nat.not_le.2 hlong]
    · cases hparse : Path.parse? path <;> simp [hnul, hlong, Nat.not_lt.1 hlong]

/-! ## Files -/

variable {path text : String}

/-- A file can be written where the path ends in a name and leads to no directory. -/
theorem writable_eq_ok_iff :
    d.writable working path = .ok place ↔
      ∃ p, parsePath path = .ok p ∧ p.ending = .name ∧
        d.walk (start working p) p.steps = .ok place ∧ d.isDirectory place = false := by
  rw [writable, Except.bind_eq_ok_iff]
  refine exists_congr fun p => and_congr_right fun _ => ?_
  cases p.ending with
  | name =>
      simp only [true_and, Except.bind_eq_ok_iff]
      constructor
      · rintro ⟨reached, hwalk, h⟩
        split at h
        · cases h
        · rename_i hdirectory
          cases h
          exact ⟨hwalk, by simpa using hdirectory⟩
      · rintro ⟨hwalk, hplace⟩
        exact ⟨place, hwalk, by rw [hplace]; rfl⟩
  | slash => simp [Except.bind_eq_ok_iff]
  | dot => simp [Except.bind_eq_ok_iff]

theorem locate_of_writable (h : d.writable working path = .ok place) :
    d.locate working path = .ok place := by
  obtain ⟨p, hparse, hending, hwalk, -⟩ := writable_eq_ok_iff.1 h
  rw [locate, Except.bind_eq_ok_iff]
  refine ⟨p, hparse, Except.bind_eq_ok_iff.2 ⟨place, hwalk, ?_⟩⟩
  rw [if_pos hending]

/-- A file can still be written on a disk that keeps the directories and has none in its
place. -/
theorem writable_mono (hkeeps : KeepsDirectories d d') (hplace : d'.isDirectory place = false)
    (h : d.writable working path = .ok place) : d'.writable working path = .ok place := by
  obtain ⟨p, hparse, hending, hwalk, -⟩ := writable_eq_ok_iff.1 h
  exact writable_eq_ok_iff.2 ⟨p, hparse, hending, walk_mono hkeeps hwalk, hplace⟩

theorem write_eq_ok_iff :
    d.write working path text = .ok d' ↔
      ∃ place, d.writable working path = .ok place ∧
        d' = d.set place (some (.file (.text text))) := by
  rw [write, Except.bind_eq_ok_iff]
  simp only [Except.ok.injEq, eq_comm]

theorem isDirectory_eq_false_of_file {content : Content} (hne : place ≠ [])
    (h : d.entry place = some (.file content)) : d.isDirectory place = false := by
  simp [isDirectory, hne, h]

theorem isDirectory_eq_false_of_none (hne : place ≠ []) (h : d.entry place = none) :
    d.isDirectory place = false := by
  simp [isDirectory, hne, h]

/-- What is read is the text of the file to which the path leads. -/
theorem read_eq_ok_iff :
    d.read working path = .ok text ↔
      ∃ place, d.locate working path = .ok place ∧ d.isDirectory place = false ∧
        d.entry place = some (.file (.text text)) := by
  rw [read, Except.bind_eq_ok_iff]
  refine exists_congr fun place => and_congr_right fun _ => ?_
  cases d.isDirectory place with
  | true => simp
  | false =>
      cases hentry : d.entry place with
      | none => simp
      | some e =>
          cases e with
          | directory mode => simp
          | file content => cases content <;> simp

/-- A file in a place where it can be written is read from there. -/
theorem read_of_writable (h : d.writable working path = .ok place)
    (hentry : d.entry place = some (.file (.text text))) : d.read working path = .ok text := by
  obtain ⟨p, -, -, -, hplace⟩ := writable_eq_ok_iff.1 h
  exact read_eq_ok_iff.2 ⟨place, locate_of_writable h, hplace, hentry⟩

theorem leadsSomewhere_of_writable {e : Entry} (h : d.writable working path = .ok place)
    (hentry : d.entry place = some e) : d.leadsSomewhere working path = true := by
  simp [leadsSomewhere, locate_of_writable h, occupied, hentry]

/-- What has been written can be written again. -/
theorem writable_of_write (h : d.write working path text = .ok d') :
    ∃ place, d'.writable working path = .ok place ∧
      d'.entry place = some (.file (.text text)) := by
  obtain ⟨place, hwritable, rfl⟩ := write_eq_ok_iff.1 h
  obtain ⟨-, -, -, -, hplace⟩ := writable_eq_ok_iff.1 hwritable
  have hentry : (d.set place (some (.file (.text text)))).entry place =
      some (.file (.text text)) := entry_set_self ..
  have hfile := isDirectory_eq_false_of_file (ne_nil_of_isDirectory_eq_false hplace) hentry
  exact ⟨place, writable_mono (keepsDirectories_set _ hplace) hfile hwritable, hentry⟩

/-- Writing a file as it is changes nothing. -/
theorem write_of_writable (h : d.writable working path = .ok place)
    (hentry : d.entry place = some (.file (.text text))) : d.write working path text = .ok d := by
  rw [write_eq_ok_iff]
  refine ⟨place, h, ?_⟩
  obtain ⟨entry⟩ := d
  simp only [set, mk.injEq]
  funext other
  split
  · subst_vars
    exact hentry
  · rfl

end TronWallet.Files.Disk
