import TronWallet.Toml.Value

/-!
# Comparing TOML values

Whether two values are equal can be computed: leaf by leaf, along the arrays and tables that they
are made of.
-/

namespace TronWallet.Toml.Value

mutual

/-- Are the values equal? -/
def same : Value → Value → Bool
  | text s, text s' => s = s'
  | integer n, integer n' => n = n'
  | floating x, floating x' => x = x'
  | boolean b, boolean b' => b = b'
  | moment m, moment m' => m = m'
  | array items, array items' => sameItems items items'
  | table entries, table entries' => sameEntries entries entries'
  | _, _ => false

/-- Are the elements equal? -/
def sameItems : List Value → List Value → Bool
  | [], [] => true
  | v :: items, v' :: items' => same v v' && sameItems items items'
  | _, _ => false

/-- Are the entries equal? -/
def sameEntries : List (String × Value) → List (String × Value) → Bool
  | [], [] => true
  | (key, v) :: entries, (key', v') :: entries' =>
    key = key' && same v v' && sameEntries entries entries'
  | _, _ => false

end

mutual

theorem same_iff (v w : Value) : v.same w ↔ v = w := by
  match v with
  | text s => cases w <;> simp [same]
  | integer n => cases w <;> simp [same]
  | floating x => cases w <;> simp [same]
  | boolean b => cases w <;> simp [same]
  | moment m => cases w <;> simp [same]
  | array items =>
    cases w with
    | array items' => simp [same, sameItems_iff items items']
    | _ => simp [same]
  | table entries =>
    cases w with
    | table entries' => simp [same, sameEntries_iff entries entries']
    | _ => simp [same]

theorem sameItems_iff (items items' : List Value) : sameItems items items' ↔ items = items' := by
  match items, items' with
  | [], items' => cases items' <;> simp [sameItems]
  | v :: items, [] => simp [sameItems]
  | v :: items, v' :: items' => simp [sameItems, same_iff v v', sameItems_iff items items']

theorem sameEntries_iff (entries entries' : List (String × Value)) :
    sameEntries entries entries' ↔ entries = entries' := by
  match entries, entries' with
  | [], entries' => cases entries' <;> simp [sameEntries]
  | e :: entries, [] => simp [sameEntries]
  | (key, v) :: entries, (key', v') :: entries' =>
    simp [sameEntries, same_iff v v', sameEntries_iff entries entries']

end

instance : DecidableEq Value :=
  fun v w => decidable_of_iff _ (same_iff v w)

end TronWallet.Toml.Value
