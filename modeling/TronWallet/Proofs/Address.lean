import TronWallet.Json.Decode
import TronWallet.Proofs.Base58
import TronWallet.Proofs.Fallible
import TronWallet.Proofs.Json.Strings
import TronWallet.Proofs.Text.White

/-!
# The text of an address is canonical

Reading bytes, and reading a text, are both described by an equation: the bytes are those
of the address (`ofBytes_eq_ok_iff`), and the text without the white space around it is
the text of the address (`parse_eq_ok_iff`). So an address has one spelling, up to the
white space around it.
-/

namespace TronWallet

namespace Base58

theorem mem_alphabet_of_mem_encode {bs : List UInt8} {c : Char} (h : c ∈ encode bs) :
    c ∈ alphabet := by
  have hdigit : ∀ d < 58, digitChar d ∈ alphabet := by decide
  rw [encode_eq_map_changeBase, List.mem_map] at h
  obtain ⟨d, hd, rfl⟩ := h
  exact hdigit d (lt_of_mem_changeBase (by decide) hd)

end Base58

namespace Address

theorem mem_alphabet_of_mem_text {a : Address} {c : Char} (h : c ∈ a.text) :
    c ∈ Base58.alphabet :=
  Base58.mem_alphabet_of_mem_encode h

theorem isWhite_of_mem_text {a : Address} {c : Char} (h : c ∈ a.text) :
    Text.isWhite c = false := by
  have hall : Base58.alphabet.all (fun c => Text.isWhite c = false) = true := by decide
  exact of_decide_eq_true (List.all_eq_true.1 hall c (mem_alphabet_of_mem_text h))

/-- Bytes are read as an address exactly if they are its bytes. -/
theorem ofBytes_eq_ok_iff {bs : List UInt8} {a : Address} : ofBytes bs = .ok a ↔ bs = a.bytes := by
  rw [ofBytes]
  constructor
  · intro h
    split at h
    · split at h
      · rename_i hhead
        cases h
        obtain ⟨rest, rfl⟩ := List.head?_eq_some_iff.1 hhead
        rfl
      · cases h
    · cases h
  · rintro rfl
    have hhead : a.bytes.head? = some leadingByte := rfl
    rw [dif_pos a.length_bytes, if_pos hhead]
    rfl

/-- A text is read as an address exactly if it is the text of the address with white space
around it. -/
theorem ofText_eq_ok_iff {cs : List Char} {a : Address} :
    ofText cs = .ok a ↔ Text.trim cs = a.text := by
  rw [text, ← Base58.decodeChecked_eq_ok_iff, ofText]
  cases hbs : Base58.decodeChecked (Text.trim cs) with
  | error e => simp [bind, Except.bind]
  | ok bs => simp [bind, Except.bind, ofBytes_eq_ok_iff]

theorem parse_eq_ok_iff {s : String} {a : Address} :
    parse s = .ok a ↔ Text.trim s.toList = a.text := by
  rw [← ofText_eq_ok_iff, parse]
  cases ofText s.toList <;> simp

@[simp] theorem parse_toBase58 (a : Address) : parse a.toBase58 = .ok a := by
  rw [parse_eq_ok_iff, toBase58, String.toList_ofList]
  exact Text.trim_eq_self fun c hc => isWhite_of_mem_text hc

theorem text_injective {a b : Address} (h : a.text = b.text) : a = b := by
  have ha : parse a.toBase58 = .ok a := parse_toBase58 a
  rw [toBase58, h, ← toBase58, parse_toBase58] at ha
  exact (Except.ok.inj ha).symm

theorem toBase58_injective {a b : Address} (h : a.toBase58 = b.toBase58) : a = b :=
  text_injective (String.ofList_inj.1 h)

theorem trimmed_eq_toBase58_iff {s : String} {a : Address} :
    Text.trimmed s = a.toBase58 ↔ Text.trim s.toList = a.text := by
  rw [Text.trimmed, toBase58, String.ofList_inj]

theorem escape_text (a : Address) : a.text.flatMap Json.escape = a.text := by
  have hall : Base58.alphabet.all (fun c => Json.escape c = [c]) = true := by decide
  have hsingle : ∀ c ∈ a.text, Json.escape c = [c] := fun c hc =>
    of_decide_eq_true (List.all_eq_true.1 hall c (mem_alphabet_of_mem_text hc))
  rw [List.flatMap_congr hsingle, List.flatMap_singleton']

/-- The JSON string of an address is its text between quotes. -/
theorem compact_string_toBase58 (a : Address) :
    (Json.Value.string a.toBase58).compact = '"' :: a.text ++ ['"'] := by
  rw [Json.Value.compact, Json.stringText, toBase58, String.toList_ofList, escape_text]

theorem decode_string_toBase58 (a : Address) :
    Json.decode Json.Reading.asAddress
      (String.ofList (Json.Value.string a.toBase58).compact) = .ok a := by
  rw [Json.decode, String.toList_ofList, Json.Value.compact, Json.read_stringText,
    String.ofList_toList]
  simp [Json.Reading.asAddress, Json.Reading.asText]

/-- Address texts are canonical. A text is read as an address exactly if it is, without the
white space around it, what is written for the address; so every address is read back,
from its text and from its JSON string, addresses with the same text are the same, and
two texts that are read as one address differ in white space around them only. -/
theorem parse_eq_ok_iff_trimmed_eq :
    (∀ (s : String) (a : Address), parse s = .ok a ↔ Text.trimmed s = a.toBase58) ∧
      (∀ a : Address, parse a.toBase58 = .ok a) ∧
      (∀ a b : Address, a.toBase58 = b.toBase58 ↔ a = b) ∧
      (∀ (s t : String) (a : Address),
        parse s = .ok a → (parse t = .ok a ↔ Text.trimmed t = Text.trimmed s)) ∧
      (∀ a : Address, (Json.Value.string a.toBase58).compact = '"' :: a.text ++ ['"'] ∧
        Json.decode Json.Reading.asAddress
          (String.ofList (Json.Value.string a.toBase58).compact) = .ok a) := by
  have hiff : ∀ (s : String) (a : Address),
      parse s = .ok a ↔ Text.trimmed s = a.toBase58 := by
    intro s a
    rw [parse_eq_ok_iff, trimmed_eq_toBase58_iff]
  refine ⟨hiff, parse_toBase58, ?_, ?_, ?_⟩
  · intro a b
    refine ⟨fun h => text_injective (String.ofList_inj.1 h), fun h => by rw [h]⟩
  · intro s t a hs
    rw [hiff, (hiff s a).1 hs]
  · intro a
    exact ⟨compact_string_toBase58 a, decode_string_toBase58 a⟩

end Address

end TronWallet
