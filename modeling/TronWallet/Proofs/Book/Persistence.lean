import TronWallet.Book.Storage
import TronWallet.Proofs.Address
import TronWallet.Proofs.Book.Lookup
import TronWallet.Proofs.Files.Directories
import TronWallet.Proofs.Toml.Document

/-!
# A saved book is loaded again

The text of a book reads back as the book, whatever its names (`parse_write`). `Kept` says
that a book is in a file to which a path leads; saving establishes it, loading and saving
again rely on it, and it lasts as long as directories and the file are left alone.
-/

namespace TronWallet.Book

open Files (Disk Location)

/-! ## The text of a book -/

theorem nodup_names (b : Book) : (b.pairs.map Prod.fst).Nodup := by
  rw [List.Nodup, List.pairwise_map]
  refine b.ascending.imp ?_
  intro p q hlt heq
  rw [heq] at hlt
  exact String.lt_irrefl _ hlt

theorem wellFormed_accountsSection (b : Book) : b.accountsSection.WellFormed where
  nodup := by
    rw [accountsSection, List.map_map]
    exact b.nodup_names
  readsBack := by
    intro e he
    obtain ⟨p, -, rfl⟩ := List.mem_map.1 he
    exact Toml.Scalar.readsBack_text _

theorem asAddresses_map_text (ps : List (String × Address)) :
    Toml.asAddresses (ps.map fun p => (p.1, .text p.2.toBase58)) = .ok ps := by
  induction ps with
  | nil => rfl
  | cons p ps ih =>
      rw [Toml.asAddresses] at ih ⊢
      rw [List.map_cons, List.mapM_cons, ih]
      simp [Toml.Value.asAddress, Toml.Value.asText, Except.map, bind,
        Except.bind, pure, Except.pure]

/-- The text of a book reads back as the book. -/
theorem parse_write (b : Book) : parse b.write = .ok b := by
  have hsections : ∀ s ∈ [b.accountsSection], s.WellFormed := by
    simpa using b.wellFormed_accountsSection
  have hnames : ([b.accountsSection].map Toml.Section.name).Nodup := List.nodup_singleton _
  have hparse := Toml.parse?_writeSections hnames hsections
  have htable : b.accountsSection.table = b.pairs.map fun p => (p.1, .text p.2.toBase58) := by
    rw [Toml.Section.table, accountsSection, List.map_map]
    rfl
  rw [List.map_singleton, htable] at hparse
  rw [parse, Toml.decode, write, hparse]
  simp [ofTable, accountsSection, ofValue, Toml.Value.entries?, asAddresses_map_text, Except.map,
    ofPairs_pairs]

/-! ## The file of a book -/

variable {b : Book} {disk disk' : Disk} {working place : Location} {path : String}

/-- Room that has been made is not made again, as long as directories are kept. -/
theorem makeRoom_of_makeRoom {disk₁ disk₂ : Disk}
    (h : makeRoom disk working path = (disk₁, .ok ())) (hkeeps : disk₁.KeepsDirectories disk₂) :
    makeRoom disk₂ working path = (disk₂, .ok ()) := by
  rw [makeRoom] at h ⊢
  split at h
  · rfl
  · rename_i directory _
    cases hmade : disk.makeDirectories Files.usualMode working directory with
    | mk made result =>
        rw [hmade] at h
        cases result with
        | error fault => cases h
        | ok _ =>
            cases h
            simp [Disk.makeDirectories_of_makeDirectories hmade hkeeps]

/-- The book is in the file of a path, and no directory on the way to it has to be made. -/
structure Kept (b : Book) (disk : Disk) (working : Location) (path : String)
    (place : Location) : Prop where
  room : makeRoom disk working path = (disk, .ok ())
  writable : disk.writable working path = .ok place
  entry : disk.entry place = some (.file (.text b.write))

theorem save_eq_ok_iff :
    b.save disk working path = (disk', .ok ()) ↔
      ∃ made, makeRoom disk working path = (made, .ok ()) ∧
        made.write working path b.write = .ok disk' := by
  rw [save]
  cases makeRoom disk working path with
  | mk made result =>
      cases result with
      | error failure => simp
      | ok _ => cases hwrite : made.write working path b.write <;> simp [hwrite]

/-- A book that has been saved is kept. -/
theorem kept_of_save (h : b.save disk working path = (disk', .ok ())) :
    ∃ place, b.Kept disk' working path place := by
  obtain ⟨made, hroom, hwrite⟩ := save_eq_ok_iff.1 h
  obtain ⟨place, hwritable, hentry⟩ := Disk.writable_of_write hwrite
  refine ⟨place, makeRoom_of_makeRoom hroom ?_, hwritable, hentry⟩
  obtain ⟨place', hwritable', rfl⟩ := Disk.write_eq_ok_iff.1 hwrite
  obtain ⟨-, -, -, -, hplace⟩ := Disk.writable_eq_ok_iff.1 hwritable'
  exact Disk.keepsDirectories_set _ hplace

namespace Kept

theorem read (h : b.Kept disk working path place) : disk.read working path = .ok b.write :=
  Disk.read_of_writable h.writable h.entry

theorem load (h : b.Kept disk working path place) : Book.load disk working path = .ok b := by
  rw [Book.load, Disk.leadsSomewhere_of_writable h.writable h.entry, h.read]
  simp [parse_write]

/-- Saving a book as it is kept changes nothing. -/
theorem save_self (h : b.Kept disk working path place) :
    b.save disk working path = (disk, .ok ()) :=
  save_eq_ok_iff.2 ⟨disk, h.room, Disk.write_of_writable h.writable h.entry⟩

end Kept

/-- Where one book can be saved, every book can. -/
theorem exists_save_of_save (h : b.save disk working path = (disk', .ok ())) (c : Book) :
    ∃ after, c.save disk working path = (after, .ok ()) := by
  obtain ⟨made, hroom, hwrite⟩ := save_eq_ok_iff.1 h
  obtain ⟨place, hwritable, -⟩ := Disk.write_eq_ok_iff.1 hwrite
  exact ⟨_, save_eq_ok_iff.2 ⟨made, hroom, Disk.write_eq_ok_iff.2 ⟨place, hwritable, rfl⟩⟩⟩

/-- Where a book has been saved, it can be saved again. -/
theorem exists_save_after_save (h : b.save disk working path = (disk', .ok ())) :
    ∃ after, b.save disk' working path = (after, .ok ()) := by
  obtain ⟨place, hkept⟩ := kept_of_save h
  exact ⟨disk', hkept.save_self⟩

theorem load_of_save (h : b.save disk working path = (disk', .ok ())) :
    load disk' working path = .ok b := by
  obtain ⟨place, hkept⟩ := kept_of_save h
  exact hkept.load

/-- Saving loses and invents nothing. The text of a book reads back as the book; and if a
book has been saved, loading gives a book with the same pairs in the same order, whose
text is that of the file, so that saving it again leaves the disk as it is. -/
theorem load_save (h : (b.save disk working path).2 = .ok ()) :
    parse b.write = .ok b ∧
      ∃ c, load (b.save disk working path).1 working path = .ok c ∧ c.pairs = b.pairs ∧
        (b.save disk working path).1.read working path = .ok c.write ∧
        c.save (b.save disk working path).1 working path = b.save disk working path := by
  obtain ⟨place, hkept⟩ := kept_of_save (Prod.ext rfl h)
  have hself : b.save disk working path = ((b.save disk working path).1, .ok ()) := Prod.ext rfl h
  refine ⟨b.parse_write, b, hkept.load, rfl, hkept.read, ?_⟩
  rw [hkept.save_self, ← hself]

/-- A book whose names have to be quoted and escaped. -/
def quotedNames : Book :=
  let address : Address := ⟨List.replicate 20 7, rfl⟩
  ((empty.set "" address).set "x" address).set "a\"b'\\ = [c]\n#.\x01" address

/-- The names of `quotedNames` survive being saved into a directory that has to be made. -/
theorem load_save_quotedNames :
    let saved := quotedNames.save Disk.empty [] "/state/accounts.toml"
    saved.2 = .ok () ∧ parse quotedNames.write = .ok quotedNames ∧
      ∃ c, load saved.1 [] "/state/accounts.toml" = .ok c ∧ c.pairs = quotedNames.pairs ∧
        saved.1.read [] "/state/accounts.toml" = .ok c.write ∧
        c.save saved.1 [] "/state/accounts.toml" = saved :=
  ⟨by decide +kernel, load_save (by decide +kernel)⟩

end TronWallet.Book
