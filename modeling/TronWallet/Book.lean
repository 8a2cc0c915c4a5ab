import TronWallet.Address
import TronWallet.Text.Utf8

/-!
# The address book

A `Book` maps account names to addresses. It lists its pairs with the names in strictly
ascending order, by code points, which is also the order of their UTF-8 bytes; the order
is a field of the type, so no operation can lose it. `register` and `remove` are the
operations of a user, which refuse; `set` and `ofPairs` take any name, as a file that was
written by hand may hold it. `resolve` reads a text as an address first and as a name
after that.
-/

namespace TronWallet

/-- Account names with their addresses, the names in strictly ascending order. -/
structure Book where
  pairs : List (String × Address)
  ascending : pairs.Pairwise fun p q => p.1 < q.1

namespace Book

/-! ## Pairs in ascending order -/

/-- The pairs with one name set to an address. -/
def setPair (name : String) (address : Address) :
    List (String × Address) → List (String × Address)
  | [] => [(name, address)]
  | p :: ps =>
    if name < p.1 then (name, address) :: p :: ps
    else if name = p.1 then (name, address) :: ps
    else p :: setPair name address ps

theorem mem_setPair {name : String} {address : Address} {p : String × Address}
    {ps : List (String × Address)} (h : p ∈ setPair name address ps) :
    p = (name, address) ∨ p ∈ ps := by
  induction ps with
  | nil => simpa [setPair] using h
  | cons q qs ih =>
    simp only [setPair] at h
    split at h
    · simpa using h
    · split at h
      · rcases List.mem_cons.1 h with h | h
        · exact .inl h
        · exact .inr (List.mem_cons_of_mem _ h)
      · rcases List.mem_cons.1 h with h | h
        · exact .inr (h ▸ List.mem_cons_self)
        · exact (ih h).imp id (List.mem_cons_of_mem _)

theorem pairwise_setPair (name : String) (address : Address) {ps : List (String × Address)}
    (h : ps.Pairwise fun p q => p.1 < q.1) :
    (setPair name address ps).Pairwise fun p q => p.1 < q.1 := by
  induction ps with
  | nil => simp [setPair]
  | cons q qs ih =>
    obtain ⟨hq, hqs⟩ := List.pairwise_cons.1 h
    simp only [setPair]
    split
    · rename_i hlt
      refine List.pairwise_cons.2 ⟨fun p hp => ?_, h⟩
      rcases List.mem_cons.1 hp with rfl | hp
      · exact hlt
      · exact String.lt_trans hlt (hq p hp)
    · split
      · rename_i heq
        exact List.pairwise_cons.2 ⟨fun p hp => heq ▸ hq p hp, hqs⟩
      · rename_i hlt hne
        refine List.pairwise_cons.2 ⟨fun p hp => ?_, ih hqs⟩
        rcases mem_setPair hp with rfl | hp
        · exact Decidable.byContradiction fun h =>
            hne (String.le_antisymm (String.not_lt.1 h) (String.not_lt.1 hlt))
        · exact hq p hp

/-! ## Operations -/

/-- The book without accounts. -/
def empty : Book := ⟨[], .nil⟩

/-- The address under a name. -/
def get? (b : Book) (name : String) : Option Address :=
  (b.pairs.find? fun p => p.1 = name).map Prod.snd

/-- The number of accounts. -/
def size (b : Book) : Nat := b.pairs.length

/-- Is the book without accounts? -/
def isEmpty (b : Book) : Bool := b.pairs.isEmpty

/-- The book with one name set to an address. -/
def set (b : Book) (name : String) (address : Address) : Book :=
  ⟨setPair name address b.pairs, pairwise_setPair name address b.ascending⟩

/-- The book without a name. -/
def erase (b : Book) (name : String) : Book :=
  ⟨b.pairs.filter fun p => p.1 ≠ name, b.ascending.filter _⟩

/-- The book of pairs in any order; of pairs with the same name the last counts. -/
def ofPairs (ps : List (String × Address)) : Book :=
  ps.foldl (fun b p => b.set p.1 p.2) empty

/-- The greatest number of bytes of a name. -/
def nameLimit : Nat := 64

/-- Why the book refuses an operation. -/
inductive Refusal where
  /-- A name that is empty or too long. -/
  | nameLength
  /-- A name that is itself an address. -/
  | nameIsAddress (name : String)
  | alreadyRegistered (name : String)
  | notRegistered (name : String)
  deriving DecidableEq

/-- Registers a name, without the white space around it, for an address. -/
def register (b : Book) (name : String) (address : Address) : Except Refusal Book :=
  let name := Text.trimmed name
  let length := Text.byteLength name.toList
  if length = 0 ∨ nameLimit < length then .error .nameLength
  else if (Address.parse name).isOk then .error (.nameIsAddress name)
  else if (b.get? name).isSome then .error (.alreadyRegistered name)
  else .ok (b.set name address)

/-- Registers names one after the other; the first refusal decides. -/
def registerAll (b : Book) (ps : List (String × Address)) : Except Refusal Book :=
  ps.foldlM (fun b p => b.register p.1 p.2) b

/-- Removes a name; also returns the address it had. -/
def remove (b : Book) (name : String) : Except Refusal (Address × Book) :=
  match b.get? name with
  | some address => .ok (address, b.erase name)
  | none => .error (.notRegistered name)

/-- The address that a text stands for: the one it is, or else the one registered under it. -/
def resolve (b : Book) (text : String) : Option Address :=
  match Address.parse text with
  | .ok address => some address
  | .error _ => b.get? text

/-- The wording of a refusal. -/
def Refusal.message : Refusal → String
  | .nameLength => "account name must be 1..=" ++ Text.Decimal.natString nameLimit ++ " characters"
  | .nameIsAddress name => "account name " ++ name ++ " is itself an address"
  | .alreadyRegistered name => "account " ++ name ++ " already exists"
  | .notRegistered name => "no account named " ++ name

@[ext] theorem ext {a b : Book} (h : a.pairs = b.pairs) : a = b := by
  cases a
  cases b
  cases h
  rfl

end Book

end TronWallet
