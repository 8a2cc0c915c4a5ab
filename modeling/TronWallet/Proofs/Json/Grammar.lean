import TronWallet.Json.Reading

/-!
# The grammar of JSON

`IsElement r cs` says that a text is JSON for a tree, with blanks around it. There is one relation
for each rule of the grammar, and none of them says how a text is read.
-/

namespace TronWallet.Json

open Text (Decimal.isDigit Decimal.digitValue)

/-- Insignificant white space. -/
def IsBlanks (cs : List Char) : Prop :=
  ∀ c ∈ cs, isBlank c = true

/-! ## Numbers -/

/-- Decimal digits, at least one. -/
structure IsDigits (cs : List Char) : Prop where
  ne_nil : cs ≠ []
  digits : ∀ c ∈ cs, Decimal.isDigit c = true

inductive IsSign : Bool → List Char → Prop
  | none : IsSign false []
  | minus : IsSign true ['-']

/-- The digits before the point: a zero stands alone. -/
inductive IsWhole : List Nat → List Char → Prop
  | mk {ds : List Char} (hdigits : IsDigits ds) (hzero : ds.head? = some '0' → ds = ['0']) :
    IsWhole (ds.map Decimal.digitValue) ds

inductive IsFraction : List Nat → List Char → Prop
  | none : IsFraction [] []
  | digits {ds : List Char} (hdigits : IsDigits ds) :
    IsFraction (ds.map Decimal.digitValue) ('.' :: ds)

inductive IsExponent : Option Int → List Char → Prop
  | none : IsExponent none []
  | plain {e : Char} {ds : List Char} (he : e = 'e' ∨ e = 'E') (hdigits : IsDigits ds) :
    IsExponent (some (Text.Decimal.value ds)) (e :: ds)
  | plus {e : Char} {ds : List Char} (he : e = 'e' ∨ e = 'E') (hdigits : IsDigits ds) :
    IsExponent (some (Text.Decimal.value ds)) (e :: '+' :: ds)
  | minus {e : Char} {ds : List Char} (he : e = 'e' ∨ e = 'E') (hdigits : IsDigits ds) :
    IsExponent (some (-(Text.Decimal.value ds : Int))) (e :: '-' :: ds)

/-- A number as it is written. -/
inductive IsNumeral : Numeral → List Char → Prop
  | mk {n : Numeral} {sign whole fraction exponent : List Char} (hsign : IsSign n.negative sign)
      (hwhole : IsWhole n.whole whole) (hfraction : IsFraction n.fraction fraction)
      (hexponent : IsExponent n.exponent exponent) :
    IsNumeral n (sign ++ whole ++ fraction ++ exponent)

/-! ## Strings -/

/-- The pieces of a string between its quotes. -/
inductive IsPieces : List Piece → List Char → Prop
  | nil : IsPieces [] []
  | character {c : Char} {ps : List Piece} {cs : List Char} (hcontrol : 0x20 ≤ c.toNat)
      (hquote : c ≠ '"') (hbackslash : c ≠ '\\') (h : IsPieces ps cs) :
    IsPieces (.character c :: ps) (c :: cs)
  | escape {e c : Char} {ps : List Piece} {cs : List Char} (hescape : escaped? e = some c)
      (h : IsPieces ps cs) : IsPieces (.character c :: ps) ('\\' :: e :: cs)
  | unit {a b c d : Char} {u : Nat} {ps : List Piece} {cs : List Char}
      (hunit : unit? a b c d = some u) (h : IsPieces ps cs) :
    IsPieces (.unit u :: ps) ('\\' :: 'u' :: a :: b :: c :: d :: cs)

/-- A string with its quotes, and its text if it has one. -/
inductive IsString : Option String → List Char → Prop
  | mk {ps : List Piece} {cs : List Char} (h : IsPieces ps cs) :
    IsString ((joinPieces ps).map String.ofList) ('"' :: (cs ++ ['"']))

/-- A key with blanks around it. -/
inductive IsKey : Option String → List Char → Prop
  | mk {key : Option String} {before cs after : List Char} (hbefore : IsBlanks before)
      (h : IsString key cs) (hafter : IsBlanks after) : IsKey key (before ++ cs ++ after)

/-! ## Values -/

mutual

/-- A value without blanks around it. -/
inductive IsValue : Reading → List Char → Prop
  | null : IsValue .null ['n', 'u', 'l', 'l']
  | yes : IsValue (.boolean true) ['t', 'r', 'u', 'e']
  | no : IsValue (.boolean false) ['f', 'a', 'l', 's', 'e']
  | number {n : Numeral} {cs : List Char} (h : IsNumeral n cs) : IsValue (.number n) cs
  | string {text : Option String} {cs : List Char} (h : IsString text cs) :
    IsValue (.string text) cs
  | noElements {blanks : List Char} (h : IsBlanks blanks) :
    IsValue (.array []) ('[' :: (blanks ++ [']']))
  | elements {items : List Reading} {cs : List Char} (h : IsElements items cs) :
    IsValue (.array items) ('[' :: (cs ++ [']']))
  | noMembers {blanks : List Char} (h : IsBlanks blanks) :
    IsValue (.object []) ('\x7b' :: (blanks ++ ['\x7d']))
  | members {members : List (Option String × Reading)} {cs : List Char}
      (h : IsMembers members cs) : IsValue (.object members) ('\x7b' :: (cs ++ ['\x7d']))

/-- A value with blanks around it. -/
inductive IsElement : Reading → List Char → Prop
  | mk {r : Reading} {before cs after : List Char} (hbefore : IsBlanks before) (h : IsValue r cs)
      (hafter : IsBlanks after) : IsElement r (before ++ cs ++ after)

/-- Elements with commas between them, at least one. -/
inductive IsElements : List Reading → List Char → Prop
  | last {r : Reading} {cs : List Char} (h : IsElement r cs) : IsElements [r] cs
  | more {r : Reading} {items : List Reading} {cs rest : List Char} (h : IsElement r cs)
      (hrest : IsElements items rest) : IsElements (r :: items) (cs ++ ',' :: rest)

/-- Members with commas between them, at least one. -/
inductive IsMembers : List (Option String × Reading) → List Char → Prop
  | last {key : Option String} {r : Reading} {ks cs : List Char} (hkey : IsKey key ks)
      (h : IsElement r cs) : IsMembers [(key, r)] (ks ++ ':' :: cs)
  | more {key : Option String} {r : Reading} {members : List (Option String × Reading)}
      {ks cs rest : List Char} (hkey : IsKey key ks) (h : IsElement r cs)
      (hrest : IsMembers members rest) :
    IsMembers ((key, r) :: members) (ks ++ ':' :: cs ++ ',' :: rest)

end

/-! ## What a text says is well formed -/

mutual

theorem wellFormed_of_isValue :
    ∀ {r : Reading} {cs : List Char}, IsValue r cs → r.wellFormed = true
  | _, _, .null => rfl
  | _, _, .yes => rfl
  | _, _, .no => rfl
  | _, _, .number _ => rfl
  | _, _, .string _ => rfl
  | _, _, .noElements _ => rfl
  | _, _, .elements h => wellFormed_of_isElements h
  | _, _, .noMembers _ => rfl
  | _, _, .members h => wellFormed_of_isMembers h

theorem wellFormed_of_isElement :
    ∀ {r : Reading} {cs : List Char}, IsElement r cs → r.wellFormed = true
  | _, _, .mk _ h _ => wellFormed_of_isValue h

theorem wellFormed_of_isElements :
    ∀ {items : List Reading} {cs : List Char}, IsElements items cs →
      Reading.wellFormedItems items = true
  | _, _, .last h => by simp [Reading.wellFormedItems, wellFormed_of_isElement h]
  | _, _, .more h hrest => by
      simp [Reading.wellFormedItems, wellFormed_of_isElement h, wellFormed_of_isElements hrest]

theorem wellFormed_of_isMembers :
    ∀ {members : List (Option String × Reading)} {cs : List Char}, IsMembers members cs →
      Reading.wellFormedMembers members = true
  | _, _, .last _ h => by simp [Reading.wellFormedMembers, wellFormed_of_isElement h]
  | _, _, .more _ h hrest => by
      simp [Reading.wellFormedMembers, wellFormed_of_isElement h, wellFormed_of_isMembers hrest]

end

end TronWallet.Json
