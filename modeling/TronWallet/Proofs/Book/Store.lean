import TronWallet.Proofs.Book.Persistence
import TronWallet.Proofs.Text.Utf8
import TronWallet.Proofs.Text.White

/-!
# Books in use

A `Store` is a book together with the disk it is saved on. Accounts are registered and
removed, the book is saved, and a book that has been saved is loaded in its place. Every step
keeps a store tidy (`Store.Tidy.step`): the names of the book, and of the books it has been saved
as, are proper names. So no name is the text of an address, and it does not matter whether
a text is looked up as a name first or read as an address first (`invariant_run`).
-/

namespace TronWallet.Book

open Files (Disk Location)

/-- A name as it is registered: without white space around it, within the limit of length,
and no address. -/
structure ProperName (name : String) : Prop where
  noWhiteEnds : Text.NoWhiteEnds name.toList
  length_pos : 0 < Text.byteLength name.toList
  length_le : Text.byteLength name.toList ≤ nameLimit
  not_address : ∀ a, Address.parse name ≠ .ok a

/-- All names of the book are proper. -/
def Tidy (b : Book) : Prop := ∀ p ∈ b.pairs, ProperName p.1

theorem Allowed.properName {name : String} (h : Allowed name) :
    ProperName (Text.trimmed name) where
  noWhiteEnds := by
    rw [Text.trimmed, String.toList_ofList]
    exact Text.noWhiteEnds_trim _
  length_pos := h.length_pos
  length_le := h.length_le
  not_address := h.not_address

/-! ## Operations on a tidy book -/

namespace Tidy

variable {b c : Book} {name : String} {address : Address}

theorem empty : Tidy empty := fun _ hp => absurd hp List.not_mem_nil

theorem register (h : b.Tidy) (hregister : b.register name address = .ok c) : c.Tidy := by
  obtain ⟨hallowed, -, rfl⟩ := register_eq_ok_iff.1 hregister
  intro p hp
  rcases mem_setPair hp with rfl | hp
  · exact hallowed.properName
  · exact h p hp

theorem remove (h : b.Tidy) (hremove : b.remove name = .ok (address, c)) : c.Tidy := by
  obtain ⟨-, rfl⟩ := remove_eq_ok_iff.1 hremove
  exact fun p hp => h p (List.mem_filter.1 hp).1

end Tidy

/-! ## What saving leaves in files -/

variable {b : Book} {disk : Disk} {working place : Location} {path : String}

theorem exists_makes_makeRoom (disk : Disk) (working : Location) (path : String) :
    ∃ places, disk.Makes (makeRoom disk working path).1 places := by
  rw [makeRoom]
  split
  · exact ⟨[], .refl disk _⟩
  · exact ⟨_, Disk.makes_makeDirectories disk Files.usualMode working _⟩

/-- A file is as it was after a book has been saved, or it holds this book. -/
theorem entry_save_of_file {content : Files.Content} (b : Book) (working : Location) (path : String)
    (h : disk.entry place = some (.file content)) :
    (b.save disk working path).1.entry place = some (.file content) ∨
      (b.save disk working path).1.entry place = some (.file (.text b.write)) := by
  have hroom : (makeRoom disk working path).1.entry place = some (.file content) := by
    obtain ⟨places, hmakes⟩ := exists_makes_makeRoom disk working path
    rcases hmakes place with heq | ⟨-, hfree, -⟩
    · exact heq.trans h
    · simp [Disk.occupied, h] at hfree
  rw [save]
  cases hmade : makeRoom disk working path with
  | mk made result =>
      rw [hmade] at hroom
      cases result with
      | error failure => exact .inl hroom
      | ok _ =>
          cases hwrite : made.write working path b.write with
          | error fault =>
              left
              simp only [hwrite]
              exact hroom
          | ok after =>
              simp only [hwrite]
              obtain ⟨target, -, rfl⟩ := Disk.write_eq_ok_iff.1 hwrite
              by_cases heq : place = target
              · right
                rw [heq, Disk.entry_set_self]
              · left
                rw [Disk.entry_set_of_ne _ _ heq, hroom]

/-! ## Steps -/

/-- A step on a book and the disk it is saved on. -/
inductive Step where
  | register (name : String) (address : Address)
  | remove (name : String)
  | save (working : Location) (path : String)
  | load (working : Location) (path : String)

/-- A book, the disk it is saved on, and the locations where it has been saved. -/
structure Store where
  book : Book
  disk : Disk
  saved : List Location

namespace Store

/-- A store with the empty book, which has not been saved anywhere. -/
def start (disk : Disk) : Store := ⟨.empty, disk, []⟩

/-- Takes a step: the store after it, and whether the step has failed. A step that fails does
not change the book. -/
def step (t : Store) : Step → Store × Except Failure Unit
  | .register name address =>
    match t.book.register name address with
    | .ok b => ({ t with book := b }, .ok ())
    | .error refusal => (t, .error (.book refusal))
  | .remove name =>
    match t.book.remove name with
    | .ok (_, b) => ({ t with book := b }, .ok ())
    | .error refusal => (t, .error (.book refusal))
  | .save working path =>
    match t.book.save t.disk working path with
    | (disk, .ok ()) =>
      ({ t with disk := disk, saved := (disk.locate working path).toOption.toList ++ t.saved },
        .ok ())
    | (disk, .error failure) => ({ t with disk := disk }, .error failure)
  | .load working path =>
    match Book.load t.disk working path with
    | .ok b => ({ t with book := b }, .ok ())
    | .error failure => (t, .error failure)

/-- Takes steps one after the other, whether they fail or not. -/
def run (t : Store) (steps : List Step) : Store :=
  steps.foldl (fun t step => (t.step step).1) t

/-- May the step be taken? A file that can be loaded must be one in which the book has been
saved. -/
def Permits (t : Store) : Step → Prop
  | .load working path => (t.disk.read working path).isOk = true →
      ∃ place ∈ t.saved, t.disk.locate working path = .ok place
  | _ => True

/-- May the steps be taken one after the other? -/
def PermitsAll : Store → List Step → Prop
  | _, [] => True
  | t, step :: steps => t.Permits step ∧ (t.step step).1.PermitsAll steps

instance (t : Store) : (step : Step) → Decidable (t.Permits step)
  | .register .. | .remove .. | .save .. => .isTrue trivial
  | .load working path =>
    inferInstanceAs (Decidable ((t.disk.read working path).isOk = true →
      ∃ place ∈ t.saved, t.disk.locate working path = .ok place))

instance decidablePermitsAll : (t : Store) → (steps : List Step) → Decidable (t.PermitsAll steps)
  | _, [] => .isTrue trivial
  | t, step :: steps =>
    have := decidablePermitsAll (t.step step).1 steps
    inferInstanceAs (Decidable (t.Permits step ∧ (t.step step).1.PermitsAll steps))

/-- The book is tidy, and so are the books that files hold in which it has been saved. -/
structure Tidy (t : Store) : Prop where
  book : t.book.Tidy
  saved : ∀ place ∈ t.saved, ∃ c : Book, c.Tidy ∧
    t.disk.entry place = some (.file (.text c.write))

variable {t : Store} {steps : List Step}

theorem tidy_start (disk : Disk) : (start disk).Tidy where
  book := .empty
  saved := fun _ hplace => absurd hplace List.not_mem_nil

/-- Saving leaves a tidy book in every file in which the book has been saved before. -/
theorem Tidy.entry_save (h : t.Tidy) (working : Location) (path : String) {place : Location}
    (hplace : place ∈ t.saved) : ∃ c : Book, c.Tidy ∧
      (t.book.save t.disk working path).1.entry place = some (.file (.text c.write)) := by
  obtain ⟨c, hc, hentry⟩ := h.saved place hplace
  rcases entry_save_of_file t.book working path hentry with hsame | hwritten
  · exact ⟨c, hc, hsame⟩
  · exact ⟨t.book, h.book, hwritten⟩

/-- A book that has been saved is loaded as it was saved. -/
theorem Tidy.load (h : t.Tidy) {working : Location} {path : String} {b : Book}
    (hpermits : t.Permits (.load working path)) (hload : Book.load t.disk working path = .ok b) :
    b.Tidy := by
  rw [Book.load] at hload
  split at hload
  · cases hread : t.disk.read working path with
    | error fault =>
        rw [hread] at hload
        cases hload
    | ok text =>
        obtain ⟨place, hplace, hlocate⟩ := hpermits (by rw [hread]; rfl)
        obtain ⟨c, hc, hentry⟩ := h.saved place hplace
        obtain ⟨place', hlocate', -, hentry'⟩ := Disk.read_eq_ok_iff.1 hread
        rw [hlocate] at hlocate'
        cases hlocate'
        rw [hentry] at hentry'
        cases hentry'
        rw [hread] at hload
        simp only [parse_write, Except.mapError_ok, Except.ok.injEq] at hload
        exact hload ▸ hc
  · cases hload
    exact .empty

theorem Tidy.step (h : t.Tidy) {step : Step} (hpermits : t.Permits step) :
    (t.step step).1.Tidy := by
  cases step with
  | register name address =>
      rw [Store.step]
      split
      · rename_i b hregister
        exact ⟨h.book.register hregister, h.saved⟩
      · exact h
  | remove name =>
      rw [Store.step]
      split
      · rename_i address b hremove
        exact ⟨h.book.remove hremove, h.saved⟩
      · exact h
  | save working path =>
      have hsaved : ∀ place ∈ t.saved, ∃ c : Book, c.Tidy ∧
          (t.book.save t.disk working path).1.entry place = some (.file (.text c.write)) :=
        fun _ hplace => h.entry_save working path hplace
      rw [Store.step]
      split
      · rename_i disk hsave
        refine ⟨h.book, fun place hplace => ?_⟩
        rw [hsave] at hsaved
        rcases List.mem_append.1 hplace with hnew | hold
        · obtain ⟨target, hkept⟩ := kept_of_save hsave
          rw [Disk.locate_of_writable hkept.writable] at hnew
          cases List.mem_singleton.1 hnew
          exact ⟨t.book, h.book, hkept.entry⟩
        · exact hsaved place hold
      · rename_i disk failure hsave
        rw [hsave] at hsaved
        exact ⟨h.book, hsaved⟩
  | load working path =>
      rw [Store.step]
      split
      · rename_i b hload
        exact ⟨h.load hpermits hload, h.saved⟩
      · exact h

theorem Tidy.run (h : t.Tidy) (hpermits : t.PermitsAll steps) : (t.run steps).Tidy := by
  induction steps generalizing t with
  | nil => exact h
  | cons step steps ih => exact ih (h.step hpermits.1) hpermits.2

/-- A step that fails does not change the book. -/
theorem book_step_of_error {step : Step} {failure : Failure}
    (h : (t.step step).2 = .error failure) : (t.step step).1.book = t.book := by
  cases step with
  | register name address =>
      rw [Store.step] at h ⊢
      split at h
      · cases h
      · rfl
  | remove name =>
      rw [Store.step] at h ⊢
      split at h
      · cases h
      · rfl
  | save working path =>
      rw [Store.step] at h ⊢
      split at h
      · cases h
      · rfl
  | load working path =>
      rw [Store.step] at h ⊢
      split at h
      · cases h
      · rfl

end Store

/-! ## Looking up -/

/-- The address that a text stands for if names come first: the one registered under it, or
else the one it is. -/
def resolveNameFirst (b : Book) (text : String) : Option Address :=
  (b.get? text).or (Address.parse text).toOption

theorem Tidy.parse_ne_ok {b : Book} (h : b.Tidy) {name : String} {address : Address}
    (hget : b.get? name = some address) (a : Address) : Address.parse name ≠ .ok a :=
  (h _ (get?_eq_some_iff.1 hget)).not_address a

theorem Tidy.resolve_of_get? {b : Book} (h : b.Tidy) {name : String} {address : Address}
    (hget : b.get? name = some address) : b.resolve name = some address := by
  rw [resolve]
  split
  · rename_i a hparse
    exact absurd hparse (h.parse_ne_ok hget a)
  · exact hget

theorem Tidy.resolveNameFirst_eq {b : Book} (h : b.Tidy) (text : String) :
    b.resolveNameFirst text = b.resolve text := by
  rw [resolveNameFirst]
  cases hget : b.get? text with
  | some address => rw [Option.some_or, h.resolve_of_get? hget]
  | none =>
      rw [Option.none_or, resolve]
      cases Address.parse text with
      | ok a => rfl
      | error refusal => exact hget.symm

theorem isEmpty_iff {b : Book} : b.isEmpty = true ↔ b.size = 0 := by
  rw [isEmpty, size, List.isEmpty_iff_length_eq_zero]

/-- The names of a book are in the order of their bytes. -/
theorem pairwise_utf8 (b : Book) :
    b.pairs.Pairwise fun p q => Text.utf8 p.1.toList < Text.utf8 q.1.toList :=
  b.ascending.imp fun h => Text.utf8_lt_utf8 h

/-- What holds of every book that comes from the empty one by registering and removing
accounts, by saving, and by loading what has been saved. Its names are in strictly ascending
order of their bytes, and each is proper: without white space around it, of 1 to 64 bytes, and
no address. It has as many accounts as it lists. A step that fails leaves it as it is. A
text stands for the same address whether names or addresses come first, and every name
stands for the address that is registered under it. -/
theorem invariant_run (disk : Disk) {steps : List Step}
    (h : (Store.start disk).PermitsAll steps) :
    let t := (Store.start disk).run steps
    (t.book.pairs.Pairwise fun p q => Text.utf8 p.1.toList < Text.utf8 q.1.toList) ∧
      t.book.size = t.book.pairs.length ∧ (t.book.isEmpty = true ↔ t.book.size = 0) ∧
      (∀ p ∈ t.book.pairs, ProperName p.1) ∧
      (∀ step failure, (t.step step).2 = .error failure → (t.step step).1.book = t.book) ∧
      (∀ text, t.book.resolveNameFirst text = t.book.resolve text) ∧
      ∀ p ∈ t.book.pairs, t.book.resolve p.1 = some p.2 := by
  intro t
  have htidy : t.book.Tidy := ((Store.tidy_start disk).run h).book
  refine ⟨t.book.pairwise_utf8, rfl, isEmpty_iff, htidy,
    fun step failure => Store.book_step_of_error, htidy.resolveNameFirst_eq, fun p hp => ?_⟩
  exact htidy.resolve_of_get? (get?_eq_some_iff.2 hp)

/-- A name is registered, and once more in vain; the book is saved, emptied and loaded again,
and then saved in vain where a directory is. -/
def usedSteps : List Step :=
  let address : Address := ⟨List.replicate 20 9, rfl⟩
  [.register "\u00a0alice " address, .register "alice" address,
    .save [] "/state/accounts.toml", .remove "alice", .load ["state"] "accounts.toml",
    .load [] "/state/other.toml/", .load [] "/state/accounts.toml", .save [] "/state"]

theorem invariant_run_usedSteps :
    let t := (Store.start .empty).run usedSteps
    (Store.start .empty).PermitsAll usedSteps ∧ t.book.pairs.map Prod.fst = ["alice"] ∧
      (∀ p ∈ t.book.pairs, ProperName p.1) ∧ ∀ p ∈ t.book.pairs, t.book.resolve p.1 = some p.2 := by
  have hpermits : (Store.start .empty).PermitsAll usedSteps := by decide +kernel
  obtain ⟨-, -, -, hproper, -, -, hresolve⟩ := invariant_run .empty hpermits
  exact ⟨hpermits, by decide +kernel, hproper, hresolve⟩

end TronWallet.Book
