import TronWallet.Json.Reading
import TronWallet.Json.Value

/-!
# JSON strings read back

Every text survives being written as a JSON string and read again, whatever characters it
holds. A control character without an escape of its own is written as a code unit, so the
reader passes through `pieceOf` before it has the character again.
-/

namespace TronWallet.Json

/-- The control characters whose escape is a letter. -/
def lettered : List Char := ['\n', '\r', '\t', '\x08', '\x0c']

/-- The piece as which a written character is read. -/
def pieceOf (c : Char) : Piece :=
  if c.toNat < 0x20 ∧ c ∉ lettered then .unit c.toNat else .character c

theorem unit?_controlDigits {n : Nat} (h : n < 0x20) :
    unit? '0' '0' (Text.Hex.digit (n / 16)) (Text.Hex.digit (n % 16)) = some n := by
  have hall : ∀ n < 0x20,
      unit? '0' '0' (Text.Hex.digit (n / 16)) (Text.Hex.digit (n % 16)) = some n := by
    decide
  exact hall n h

theorem readPieces_escape_append (c : Char) (cs : List Char) :
    readPieces (escape c ++ cs) = (readPieces cs).map fun r => (pieceOf c :: r.1, r.2) := by
  rw [escape]
  split
  · subst_vars
    simp [readPieces, escaped?, pieceOf]
  split
  · subst_vars
    simp [readPieces, escaped?, pieceOf]
  iterate 5
    split
    · subst_vars
      simp [readPieces, escaped?, pieceOf, lettered]
  split
  · rename_i hlt
    have hpiece : pieceOf c = .unit c.toNat := by
      rw [pieceOf, if_pos ⟨hlt, by simp [lettered, *]⟩]
    simp [readPieces, unit?_controlDigits hlt, hpiece]
  · rename_i hbackslash _ _ _ _ _ hlt
    have hpiece : pieceOf c = .character c := by
      rw [pieceOf, if_neg (fun h => hlt h.1)]
    simp [readPieces, hpiece, hbackslash, hlt]

/-- The characters of a written string are read as their pieces. -/
theorem readPieces_flatMap_escape (cs rest : List Char) :
    readPieces (cs.flatMap escape ++ '"' :: rest) = some (cs.map pieceOf, rest) := by
  induction cs with
  | nil => simp [readPieces]
  | cons c cs ih =>
      rw [List.flatMap_cons, List.append_assoc, readPieces_escape_append, ih]
      rfl

theorem joinPieces_unit_cons {u : Nat} (h : u < 0x20) (ps : List Piece) :
    joinPieces (.unit u :: ps) = (joinPieces ps).map (Char.ofNat u :: ·) := by
  have hhigh : isHighSurrogate u = false := by
    simp [isHighSurrogate]
    omega
  have hlow : isLowSurrogate u = false := by
    simp [isLowSurrogate]
    omega
  cases ps with
  | nil => simp [joinPieces, hhigh, hlow]
  | cons p ps => cases p <;> simp [joinPieces, hhigh, hlow]

theorem joinPieces_map_pieceOf (cs : List Char) : joinPieces (cs.map pieceOf) = some cs := by
  induction cs with
  | nil => rfl
  | cons c cs ih =>
      rw [List.map_cons, pieceOf]
      split
      · rename_i h
        rw [joinPieces_unit_cons h.1, ih, Char.ofNat_toNat]
        rfl
      · simp [joinPieces, ih]

/-- A written string is read as the text it was written for. -/
theorem readString_flatMap_escape (cs rest : List Char) :
    readString (cs.flatMap escape ++ '"' :: rest) = some (some (String.ofList cs), rest) := by
  rw [readString, readPieces_flatMap_escape]
  simp [joinPieces_map_pieceOf]

/-- A document that is one written string. -/
theorem read_stringText (cs : List Char) :
    read (stringText cs) = ⟨.string (some (String.ofList cs)), true⟩ := by
  have hstart : skipBlanks ('"' :: (cs.flatMap escape ++ ['"'])) =
      '"' :: (cs.flatMap escape ++ ['"']) := rfl
  rw [read, stringText, List.cons_append]
  simp only [readValue, hstart, readString_flatMap_escape]
  rfl

end TronWallet.Json
