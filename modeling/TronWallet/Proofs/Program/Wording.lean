import TronWallet.Failure
import TronWallet.Proofs.Text.Decimal
import TronWallet.Proofs.Text.Terminal

/-!
# What failures say

The texts of all failures, written out rule by rule from the outermost sentence to the innermost
cause. `Failure.Says` has a rule for each failure; a cause that is an error of its own is said
twice, at the end of the sentence and after it. A report says what its failure does
(`Failure.says_report`), whatever a release check may have found.
-/

namespace TronWallet

open Text.Decimal (natString_eq_toString intString_eq_toString)

/-! ## Refused command lines -/

namespace CommandLine

/-- Why a text is no number of its kind. -/
inductive NumberFault.Says : NumberFault → String → Prop where
  | noDigits : Says .noDigits "cannot parse integer from empty string"
  | invalidDigit : Says .invalidDigit "invalid digit found in string"
  | tooLarge : Says .tooLarge "number too large to fit in target type"
  | tooSmall : Says .tooSmall "number too small to fit in target type"
  | outOfRange (value : Int) (limit : Nat) :
      Says (.outOfRange value limit) (toString value ++ " is not in 0..=" ++ toString limit)

theorem NumberFault.says_iff {fault : NumberFault} {reason : String} :
    fault.Says reason ↔ reason = fault.message := by
  constructor
  · intro h
    cases h with
    | outOfRange value limit =>
        rw [message, intString_eq_toString, natString_eq_toString]
    | _ => rfl
  · rintro rfl
    cases fault with
    | outOfRange value limit =>
        rw [message, intString_eq_toString, natString_eq_toString]
        exact .outOfRange value limit
    | _ => constructor

/-- The sentence for a refused command line. Words that are refused and words that the program
knows are shown in a way of their own. -/
inductive Refusal.Sentence (refused known : String → String) : Refusal → String → Prop where
  | unexpectedArgument (shown : String) :
      Sentence refused known (.unexpectedArgument shown)
        ("unexpected argument " ++ refused shown ++ " found")
  | unknownCommand (word : String) :
      Sentence refused known (.unknownCommand word) ("unrecognized subcommand " ++ refused word)
  | missingValue (shown : String) :
      Sentence refused known (.missingValue shown)
        ("a value is required for " ++ refused shown ++ " but none was supplied")
  | unneededValue (value shown : String) :
      Sentence refused known (.unneededValue value shown)
        ("unexpected value " ++ refused value ++ " for " ++ known shown ++
          " found; no more were expected")
  | switchVariable (value shown : String) :
      Sentence refused known (.switchVariable value shown)
        ("invalid value " ++ refused value ++ " for " ++ known shown)
  | badNumber {fault : NumberFault} {reason : String} (value shown : String)
      (h : fault.Says reason) :
      Sentence refused known (.badNumber value shown fault)
        ("invalid value " ++ refused value ++ " for " ++ known shown ++ ": " ++ reason)
  | repeated (shown : String) :
      Sentence refused known (.repeated shown)
        ("the argument " ++ refused shown ++ " cannot be used multiple times")
  | missingArguments :
      Sentence refused known .missingArguments
        "the following required arguments were not provided:"
  | missingCommand (words : List String) :
      Sentence refused known (.missingCommand words)
        (refused (" ".intercalate words) ++ " requires a subcommand but one was not provided")
  | nothingGiven (about : String) : Sentence refused known (.nothingGiven about) about

/-- A word between apostrophes. -/
def inQuotes (word : String) : String := "'" ++ word ++ "'"

/-- A word in yellow between apostrophes. -/
def inYellow (word : String) : String := "'\x1b[33m" ++ word ++ "\x1b[0m'"

/-- A word in bold between apostrophes. -/
def inBold (word : String) : String := "'\x1b[1m" ++ word ++ "\x1b[0m'"

/-- What the user is told: the first line of what a terminal without control sequences shows of
the styled sentence. If all of it is visible, this is the sentence without styles. -/
structure Refusal.Says (refusal : Refusal) (text : String) : Prop where
  styled : ∃ sentence, refusal.Sentence inYellow inBold sentence ∧
    text = String.ofList (Text.firstLine (Text.plain sentence.toList))
  visible : ∀ sentence, refusal.Sentence inQuotes inQuotes sentence →
    Text.Visible sentence.toList → text = sentence

theorem refused_eq_inYellow : Refusal.refused = inYellow := by
  funext word
  simp [Refusal.refused, inYellow, Text.Style.on, Text.Style.codes, Text.resetCode,
    ← String.toList_inj]

theorem known_eq_inBold : Refusal.known = inBold := by
  funext word
  simp [Refusal.known, inBold, Text.Style.on, Text.Style.codes, Text.resetCode,
    ← String.toList_inj]

theorem Refusal.sentence_body (refusal : Refusal) :
    refusal.Sentence inYellow inBold refusal.body := by
  rw [← refused_eq_inYellow, ← known_eq_inBold]
  cases refusal with
  | badNumber value shown fault => exact .badNumber value shown (NumberFault.says_iff.2 rfl)
  | _ => constructor

theorem leaves_inYellow (word : String) : Text.Leaves (inYellow word) (inQuotes word) := by
  rw [← refused_eq_inYellow]
  exact ((Text.leaves_self _).append (Text.leaves_on _ word)).append (Text.leaves_self _)

theorem leaves_inBold (word : String) : Text.Leaves (inBold word) (inQuotes word) := by
  rw [← known_eq_inBold]
  exact ((Text.leaves_self _).append (Text.leaves_on _ word)).append (Text.leaves_self _)

/-- The styled sentence leaves the bare one. -/
theorem Refusal.Sentence.leaves {refusal : Refusal} {styled bare : String}
    (h : refusal.Sentence inYellow inBold styled) (h' : refusal.Sentence inQuotes inQuotes bare) :
    Text.Leaves styled bare := by
  have hself := Text.leaves_self
  cases h with
  | unexpectedArgument shown =>
      cases h'
      exact ((hself _).append (leaves_inYellow shown)).append (hself _)
  | unknownCommand word =>
      cases h'
      exact (hself _).append (leaves_inYellow word)
  | missingValue shown =>
      cases h'
      exact ((hself _).append (leaves_inYellow shown)).append (hself _)
  | unneededValue value shown =>
      cases h'
      exact ((((hself _).append (leaves_inYellow value)).append (hself _)).append
        (leaves_inBold shown)).append (hself _)
  | switchVariable value shown =>
      cases h'
      exact (((hself _).append (leaves_inYellow value)).append (hself _)).append
        (leaves_inBold shown)
  | badNumber value shown h =>
      obtain rfl := NumberFault.says_iff.1 h
      cases h' with
      | badNumber _ _ h =>
          obtain rfl := NumberFault.says_iff.1 h
          exact (((((hself _).append (leaves_inYellow value)).append (hself _)).append
            (leaves_inBold shown)).append (hself _)).append (hself _)
  | repeated shown =>
      cases h'
      exact ((hself _).append (leaves_inYellow shown)).append (hself _)
  | missingArguments =>
      cases h'
      exact hself _
  | missingCommand words =>
      cases h'
      exact (leaves_inYellow _).append (hself _)
  | nothingGiven about =>
      cases h'
      exact hself _

theorem Refusal.says_message (refusal : Refusal) : refusal.Says refusal.message where
  styled := ⟨refusal.body, refusal.sentence_body, rfl⟩
  visible _ hbare hvisible := (refusal.sentence_body.leaves hbare).firstLine_plain hvisible

end CommandLine

/-! ## Addresses and names -/

/-- Bytes as a list of decimal numbers. -/
def bytesShown (bytes : List UInt8) : String :=
  "[" ++ ", ".intercalate (bytes.map fun b => toString b.toNat) ++ "]"

/-- Why a text is no checked base 58 text. A character is quoted as in every message. -/
inductive Base58.Refusal.Says : Base58.Refusal → String → Prop where
  | nonAscii (position : Nat) :
      Says (.nonAscii position)
        ("provided string contained non-ascii character starting at byte " ++ toString position)
  | badCharacter (character : Char) (position : Nat) :
      Says (.badCharacter character position)
        ("provided string contained invalid character " ++
          String.ofList (Text.quotedChar character) ++ " at byte " ++ toString position)
  | tooShort : Says .tooShort "provided string is too small to contain a checksum"
  | badChecksum (calculated expected : List UInt8) :
      Says (.badChecksum calculated expected)
        ("invalid checksum, calculated checksum: '" ++ bytesShown calculated ++
          "', expected checksum: " ++ bytesShown expected)

namespace Address

/-- Why a text is no address. -/
inductive Defect.Says : Defect → String → Prop where
  | encoding {cause : Base58.Refusal} {reason : String} (h : cause.Says reason) :
      Says (.encoding cause) reason
  | byteCount (actual : Nat) :
      Says (.byteCount actual) ("expected 21 bytes, got " ++ toString actual)
  | leadingByte (actual : UInt8) :
      Says (.leadingByte actual)
        ("unexpected prefix byte 0x" ++ String.ofList
          [Nat.digitChar (actual.toNat / 16), Nat.digitChar (actual.toNat % 16)])

theorem bytesList_eq_bytesShown (bytes : List UInt8) : bytesList bytes = bytesShown bytes := by
  simp only [bytesList, natString_eq_toString, bytesShown]

theorem says_encodingMessage (cause : Base58.Refusal) : cause.Says (encodingMessage cause) := by
  cases cause with
  | nonAscii position =>
      have hsays := Base58.Refusal.Says.nonAscii position
      rw [← natString_eq_toString] at hsays
      exact hsays
  | badCharacter character position =>
      have hsays := Base58.Refusal.Says.badCharacter character position
      rw [← natString_eq_toString] at hsays
      exact hsays
  | tooShort => exact .tooShort
  | badChecksum calculated expected =>
      have hsays := Base58.Refusal.Says.badChecksum calculated expected
      rw [← bytesList_eq_bytesShown, ← bytesList_eq_bytesShown] at hsays
      exact hsays

theorem Defect.says_message (defect : Defect) : defect.Says defect.message := by
  cases defect with
  | encoding cause => exact .encoding (says_encodingMessage cause)
  | byteCount actual =>
      have hsays := Says.byteCount actual
      rw [← natString_eq_toString] at hsays
      exact hsays
  | leadingByte actual =>
      have hdigit : ∀ n < 16, Nat.digitChar n = Text.Hex.digit n := by decide
      have hbyte := actual.toNat_lt
      have hsays := Says.leadingByte actual
      rw [hdigit _ (by omega), hdigit _ (by omega)] at hsays
      exact hsays

end Address

/-- Why the address book does not do what it is asked for. -/
inductive Book.Refusal.Says : Book.Refusal → String → Prop where
  | nameLength : Says .nameLength "account name must be 1..=64 characters"
  | nameIsAddress (name : String) :
      Says (.nameIsAddress name) ("account name " ++ name ++ " is itself an address")
  | alreadyRegistered (name : String) :
      Says (.alreadyRegistered name) ("account " ++ name ++ " already exists")
  | notRegistered (name : String) : Says (.notRegistered name) ("no account named " ++ name)

theorem Book.Refusal.says_message (refusal : Book.Refusal) : refusal.Says refusal.message := by
  cases refusal with
  | nameLength => exact .nameLength
  | _ => constructor

/-! ## Files, the node and signing -/

/-- What the system says of a file. -/
inductive Files.Fault.Says : Files.Fault → String → Prop where
  | notFound : Says .notFound "No such file or directory (os error 2)"
  | alreadyExists : Says .alreadyExists "File exists (os error 17)"
  | notDirectory : Says .notDirectory "Not a directory (os error 20)"
  | isDirectory : Says .isDirectory "Is a directory (os error 21)"
  | nameTooLong : Says .nameTooLong "File name too long (os error 36)"
  | holdsNul : Says .holdsNul "file name contained an unexpected NUL byte"
  | notText : Says .notText "stream did not contain valid UTF-8"

theorem Files.Fault.says_message (fault : Files.Fault) : fault.Says fault.message := by
  cases fault <;> constructor

/-- Why there is no documentation. -/
inductive Documentation.Fault.Says : Documentation.Fault → String → Prop where
  | directory {cause : Files.Fault} {reason : String} (path : String) (h : cause.Says reason) :
      Says (.directory path cause) ("creating " ++ path ++ ": " ++ reason)
  | page {cause : Files.Fault} {reason : String} (path : String) (h : cause.Says reason) :
      Says (.page path cause) ("writing " ++ path ++ ": " ++ reason)

theorem Documentation.Fault.says_message (fault : Documentation.Fault) :
    fault.Says fault.message := by
  cases fault with
  | directory path cause => exact .directory path cause.says_message
  | page path cause => exact .page path cause.says_message

/-- Why there is no connection to a node. -/
inductive ConnectionFault.Says : ConnectionFault → String → Prop where
  | invalidPort : Says .invalidPort "invalid port value"
  | timedOut (seconds : Nat) :
      Says (.timedOut seconds) ("no response within " ++ toString seconds ++ "s")
  | reported (text : String) : Says (.reported text) text

theorem ConnectionFault.says_message (fault : ConnectionFault) : fault.Says fault.message := by
  cases fault with
  | timedOut seconds =>
      have hsays := Says.timedOut seconds
      rw [← natString_eq_toString] at hsays
      exact hsays
  | _ => constructor

/-- Why a transfer is not sent. -/
inductive NoBackend.Says : NoBackend → String → Prop where
  | software (txid : String) :
      Says ⟨.software, txid⟩
        ("software signing backend is not available in this build; " ++
          "re-run with --dry-run to inspect transaction " ++ txid)
  | ledger (txid : String) :
      Says ⟨.ledger, txid⟩
        ("ledger signing backend is not available in this build; " ++
          "re-run with --dry-run to inspect transaction " ++ txid)

theorem NoBackend.says_message (refusal : NoBackend) : refusal.Says refusal.message := by
  obtain ⟨signing, txid⟩ := refusal
  cases signing with
  | software => exact .software txid
  | ledger => exact .ledger txid

/-! ## All failures -/

/-- What is said of a failure. Only what is wrong with a TOML document is left open. -/
inductive Failure.Says (toml : Toml.Wording) : Failure → String → Prop where
  | commandLine {refusal : CommandLine.Refusal} {text : String} (h : refusal.Says text) :
      Says toml (.commandLine refusal) text
  | connection {fault : ConnectionFault} {cause : String} (endpoint : String)
      (h : fault.Says cause) :
      Says toml (.connection endpoint fault)
        ("could not connect to node " ++ endpoint ++ ": " ++ cause ++ ": " ++ cause)
  | unresolved (text : String) :
      Says toml (.unresolved text) ("invalid address/invalid account name: " ++ text)
  | address {defect : Address.Defect} {reason : String} (value : String)
      (h : defect.Says reason) :
      Says toml (.address ⟨value, defect⟩) ("invalid address " ++ value ++ ": " ++ reason)
  | book {refusal : Book.Refusal} {reason : String} (h : refusal.Says reason) :
      Says toml (.book refusal) ("address book error: " ++ reason)
  | file {fault : Files.Fault} {cause : String} (path : String) (h : fault.Says cause) :
      Says toml (.file path fault) ("IO error on " ++ path ++ ": " ++ cause ++ ": " ++ cause)
  | document (kind : DocumentKind) (text : String) (refusal : Toml.Refusal) :
      Says toml (.document kind text refusal)
        ("TOML parse error: " ++ toml kind text refusal ++ ": " ++ toml kind text refusal)
  | importWithoutFile : Says toml .importWithoutFile "accounts import needs --file <PATH>"
  | importUnreadable {fault : Files.Fault} {cause : String} (path : String)
      (h : fault.Says cause) :
      Says toml (.importUnreadable path fault) ("reading " ++ path ++ ": " ++ cause)
  | importMalformed (path text : String) (refusal : Toml.Refusal) :
      Says toml (.importMalformed path text refusal)
        ("parsing " ++ path ++ ": " ++ toml .accounts text refusal)
  | signerMissing :
      Says toml .signerMissing "transfer needs a signer; pass --signer <address|name>"
  | amountZero : Says toml .amountZero "transfer amount must be greater than zero"
  | noBackend {refusal : NoBackend} {text : String} (h : refusal.Says text) :
      Says toml (.noBackend refusal) text
  | documentation {fault : Documentation.Fault} {text : String} (h : fault.Says text) :
      Says toml (.documentation fault) text

/-- A report says what its failure does. -/
theorem Failure.says_report (toml : Toml.Wording) (failure : Failure) :
    failure.Says toml (failure.report toml) := by
  cases failure with
  | commandLine refusal => exact .commandLine refusal.says_message
  | connection endpoint fault => exact .connection endpoint fault.says_message
  | unresolved text => exact .unresolved text
  | address refusal => exact .address refusal.value refusal.defect.says_message
  | book refusal => exact .book refusal.says_message
  | file path fault => exact .file path fault.says_message
  | document kind text refusal => exact .document kind text refusal
  | importWithoutFile => exact .importWithoutFile
  | importUnreadable path fault => exact .importUnreadable path fault.says_message
  | importMalformed path text refusal => exact .importMalformed path text refusal
  | signerMissing => exact .signerMissing
  | amountZero => exact .amountZero
  | noBackend refusal => exact .noBackend refusal.says_message
  | documentation fault => exact .documentation fault.says_message

end TronWallet
