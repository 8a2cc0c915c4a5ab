import TronWallet.Proofs.Book.Persistence
import TronWallet.Proofs.Session.Receipt

/-!
# Accounts of a book that is loaded

A book is loaded as its file has it, whoever has written the file: each account of the book
stands in the file (`lists_of_parse`), and no name is turned away. A name that is itself the text
of an address is read as this address when it is used, so an account can be used under its name
exactly if the name is not the text of another address (`usable_of_load`).
-/

namespace TronWallet.Book

open Files (Disk Location)

variable {b : Book} {text : String} {address : Address} {ps : List (String × Address)}
  {p : String × Address} {disk : Disk} {working : Location} {path : String}

/-! ## What a file lists -/

/-- The document has an entry for the account in its section of accounts: the name, with a text
that is read as the address. -/
def Lists (text name : String) (address : Address) : Prop :=
  ∃ table value entries written, Toml.parse? text = some table ∧ ("accounts", value) ∈ table ∧
    value.entries? = some entries ∧ (name, .text written) ∈ entries ∧
    Address.parse written = .ok address

theorem exists_text_of_asAddress {v : Toml.Value} (h : v.asAddress = .ok address) :
    ∃ written, v = .text written ∧ Address.parse written = .ok address := by
  cases v with
  | text written => exact ⟨written, rfl, Except.mapError_eq_ok_iff.1 h⟩
  | _ => cases h

theorem exists_of_mem_asAddresses {entries : Toml.Table} (h : Toml.asAddresses entries = .ok ps)
    (hp : p ∈ ps) :
    ∃ written, (p.1, .text written) ∈ entries ∧ Address.parse written = .ok p.2 := by
  rw [Toml.asAddresses] at h
  induction entries generalizing ps with
  | nil =>
      cases h
      cases hp
  | cons e entries ih =>
      rw [List.mapM_cons, Except.bind_eq_ok_iff] at h
      obtain ⟨first, hfirst, h⟩ := h
      obtain ⟨rest, hrest, h⟩ := Except.bind_eq_ok_iff.1 h
      cases h
      rcases List.mem_cons.1 hp with rfl | hp
      · obtain ⟨a, ha, rfl⟩ := Except.map_eq_ok_iff.1 hfirst
        obtain ⟨written, htext, hparse⟩ := exists_text_of_asAddress ha
        exact ⟨written, List.mem_cons.2 (.inl (Prod.ext rfl htext.symm)), hparse⟩
      · obtain ⟨written, hmem, hparse⟩ := ih hrest hp
        exact ⟨written, List.mem_cons_of_mem _ hmem, hparse⟩

theorem mem_of_mem_foldl_set
    (h : p ∈ (ps.foldl (fun b q => b.set q.1 q.2) b).pairs) : p ∈ b.pairs ∨ p ∈ ps := by
  induction ps generalizing b with
  | nil => exact .inl h
  | cons q ps ih =>
      rcases ih h with h | h
      · rcases mem_setPair h with rfl | h
        · exact .inr List.mem_cons_self
        · exact .inl h
      · exact .inr (List.mem_cons_of_mem _ h)

theorem mem_of_mem_ofPairs (h : p ∈ (ofPairs ps).pairs) : p ∈ ps :=
  (mem_of_mem_foldl_set h).resolve_left List.not_mem_nil

theorem exists_of_mem_ofTable {table : Toml.Table} (h : ofTable table = .ok b)
    (hp : p ∈ b.pairs) :
    ∃ value, ("accounts", value) ∈ table ∧ ofValue value = .ok b := by
  induction table with
  | nil =>
      cases h
      cases hp
  | cons e table ih =>
      obtain ⟨key, value⟩ := e
      rw [ofTable] at h
      split at h
      · rename_i heq
        exact ⟨value, heq ▸ List.mem_cons_self, h⟩
      · obtain ⟨value, hmem, hvalue⟩ := ih h
        exact ⟨value, List.mem_cons_of_mem _ hmem, hvalue⟩

/-- The file of a book has all its accounts. -/
theorem lists_of_parse (h : parse text = .ok b) (hp : p ∈ b.pairs) : Lists text p.1 p.2 := by
  rw [parse, Toml.decode] at h
  split at h
  · rename_i table htable
    obtain ⟨value, hmem, hvalue⟩ := exists_of_mem_ofTable h hp
    rw [ofValue] at hvalue
    split at hvalue
    · rename_i entries hentries
      obtain ⟨ps, hps, rfl⟩ := Except.map_eq_ok_iff.1 hvalue
      obtain ⟨written, hwritten, hparse⟩ := exists_of_mem_asAddresses hps (mem_of_mem_ofPairs hp)
      exact ⟨table, value, entries, written, htable, hmem, hentries, hwritten, hparse⟩
    · cases hvalue
  · cases h

/-! ## Using what is listed -/

theorem resolve_of_parse_ok (b : Book) (h : Address.parse text = .ok address) :
    b.resolve text = some address := by
  rw [resolve, h]

/-- An account can be used under its name if this is not the text of another address. -/
theorem resolve_iff_of_mem (hp : p ∈ b.pairs) :
    b.resolve p.1 = some p.2 ↔ ∀ a, Address.parse p.1 = .ok a → a = p.2 := by
  constructor
  · intro h a hparse
    rw [resolve_of_parse_ok b hparse] at h
    exact Option.some.inj h
  · intro h
    rw [resolve]
    split
    · rename_i a hparse
      rw [h a hparse]
    · exact get?_eq_some_iff.2 hp

theorem read_of_load (h : load disk working path = .ok b) (hp : p ∈ b.pairs) :
    ∃ text, disk.read working path = .ok text ∧ parse text = .ok b := by
  rw [load] at h
  split at h
  · split at h
    · cases h
    · rename_i text hread
      exact ⟨text, hread, Except.mapError_eq_ok_iff.1 h⟩
  · cases h
    cases hp

/-- A book that is loaded has what its file lists, and each account can be used under its name
exactly if this is not the text of another address. Such a name stands for that address. -/
theorem usable_of_load (h : load disk working path = .ok b) :
    ∀ p ∈ b.pairs,
      (∃ text, disk.read working path = .ok text ∧ Lists text p.1 p.2) ∧
        (b.resolve p.1 = some p.2 ↔ ∀ a, Address.parse p.1 = .ok a → a = p.2) ∧
        ∀ a, Address.parse p.1 = .ok a → b.resolve p.1 = some a := by
  intro p hp
  obtain ⟨text, hread, hparse⟩ := read_of_load h hp
  exact ⟨⟨text, hread, lists_of_parse hparse hp⟩, resolve_iff_of_mem hp,
    fun a => resolve_of_parse_ok b⟩

/-- A file that was written by hand: a name with a blank and an address with blanks around it,
and an address under the text of another one with a line break after it. -/
def handwrittenFile : String :=
  "# by hand\n[accounts]\n'a b' = ' TAF8dttxK5iPKbvYC626aDBytrWANpLRXp '\n" ++
    "\"TA9pkx4DFxrEw8JZzUtyDrh2uAat1LDuJL\\n\" = \"TA4Wt1DUCqz6YegbnsmqsWC5uUfbdBqPxm\"\n"

/-- The book of that file. -/
def handwrittenAccounts : Book :=
  (empty.set "a b" (.uniform 3)).set "TA9pkx4DFxrEw8JZzUtyDrh2uAat1LDuJL\n" (.uniform 1)

theorem usable_of_load_handwritten :
    let disk := Disk.empty.set ["accounts.toml"] (some (.file (.text handwrittenFile)))
    load disk [] "accounts.toml" = .ok handwrittenAccounts ∧
      handwrittenAccounts.resolve "a b" = some (.uniform 3) ∧
      handwrittenAccounts.resolve "TA9pkx4DFxrEw8JZzUtyDrh2uAat1LDuJL\n" = some (.uniform 2) := by
  intro disk
  have hload : load disk [] "accounts.toml" = .ok handwrittenAccounts := by decide +kernel
  have hname : ("a b", Address.uniform 3) ∈ handwrittenAccounts.pairs := by decide +kernel
  have haddress : ("TA9pkx4DFxrEw8JZzUtyDrh2uAat1LDuJL\n", Address.uniform 1) ∈
      handwrittenAccounts.pairs := by decide +kernel
  have hnone : (Address.parse "a b").toOption = none := by decide +kernel
  refine ⟨hload, (usable_of_load hload _ hname).2.1.2 fun a ha => ?_,
    (usable_of_load hload _ haddress).2.2 _ (by decide +kernel)⟩
  rw [ha] at hnone
  cases hnone

/-- An account that is listed under the text of another address cannot be used: the listing shows
one address, and the name stands for the other. -/
theorem listed_under_other_address :
    let name := "TA4Wt1DUCqz6YegbnsmqsWC5uUfbdBqPxm"
    let listed := empty.set name (.uniform 2)
    parse ("[accounts]\n" ++ name ++ " = \"TA9pkx4DFxrEw8JZzUtyDrh2uAat1LDuJL\"\n") =
        .ok listed ∧
      listed.pairs = [(name, .uniform 2)] ∧ listed.resolve name = some (.uniform 1) := by
  decide +kernel

end TronWallet.Book
