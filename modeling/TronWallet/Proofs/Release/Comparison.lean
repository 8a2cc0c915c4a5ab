import Mathlib.Data.List.Forall2
import TronWallet.Proofs.Text.Boundary
import TronWallet.Proofs.Text.Cutting
import TronWallet.Release.Stamp

/-!
# What a build is compared by

A stamp is usable if 7 or 8 hexadecimal digits follow its last hyphen (`StampedWith`). The digits
stand against as many bytes of the commit hash of the release, which may be any text. A build is
current if they are the same up to the case of letters, and outdated if they differ; every other
comparison is undetermined (`compare_decides`). The hash is cut only where it can be cut:
`guardedCompare` asks for that first, and then has a result for all texts.
-/

namespace TronWallet.Release

variable {stamp tag hash : String} {commit : List Char}

/-! ## The commit of a stamp -/

/-- The text ends in a hyphen, its last one, and what is given. -/
def EndsAfterHyphen (text commit : List Char) : Prop :=
  ∃ before, text = before ++ '-' :: commit ∧ '-' ∉ commit

theorem afterLastHyphen?_eq_some_iff {text : List Char} :
    afterLastHyphen? text = some commit ↔ EndsAfterHyphen text commit :=
  Text.afterLast_eq_some_iff

/-- The digits that a commit is written with. -/
def commitDigits : List Char := "0123456789abcdefABCDEF".toList

/-- After the last hyphen of the stamp come 7 or 8 hexadecimal digits. -/
structure StampedWith (stamp : String) (commit : List Char) : Prop where
  ends : EndsAfterHyphen stamp.toList commit
  length : commit.length = 7 ∨ commit.length = 8
  digits : ∀ c ∈ commit, c ∈ commitDigits

theorem forall_ascii {P : Char → Prop} (h : ∀ n < 128, P (Char.ofNat n)) {c : Char}
    (hc : c.toNat < 128) : P c := by
  have hchar := h c.toNat hc
  rwa [Char.ofNat_toNat] at hchar

theorem toNat_lt_of_isDigit {c : Char} (h : Text.Hex.isDigit c = true) : c.toNat < 128 := by
  have hle : ∀ d : Char, d.toNat < 128 → c ≤ d → c.toNat < 128 := fun d hd hcd =>
    Nat.lt_of_le_of_lt hcd hd
  rw [Text.Hex.isDigit, Text.Hex.value?] at h
  split at h
  · rename_i hrange
    exact hle '9' (by decide) hrange.2
  · split at h
    · rename_i hrange
      exact hle 'f' (by decide) hrange.2
    · split at h
      · rename_i hrange
        exact hle 'F' (by decide) hrange.2
      · cases h

theorem isDigit_iff {c : Char} : Text.Hex.isDigit c = true ↔ c ∈ commitDigits := by
  by_cases hascii : c.toNat < 128
  · refine forall_ascii (P := fun c => Text.Hex.isDigit c = true ↔ c ∈ commitDigits) ?_ hascii
    decide +kernel
  · have hdigits : commitDigits.all (fun d => d.toNat < 128) = true := by decide
    exact iff_of_false (fun h => hascii (toNat_lt_of_isDigit h)) fun h =>
      hascii (of_decide_eq_true (List.all_eq_true.1 hdigits c h))

theorem stampCommit_eq_ok_iff : stampCommit stamp = .ok commit ↔ StampedWith stamp commit := by
  have husable : isCommitAbbreviation commit = true ↔
      (commit.length = 7 ∨ commit.length = 8) ∧ ∀ c ∈ commit, c ∈ commitDigits := by
    simp only [isCommitAbbreviation, Bool.and_eq_true, Bool.or_eq_true, decide_eq_true_eq,
      List.all_eq_true, isDigit_iff]
  rw [stampCommit]
  constructor
  · intro h
    split at h
    · cases h
    · rename_i found hfound
      split at h
      · rename_i hok
        cases h
        exact ⟨afterLastHyphen?_eq_some_iff.1 hfound, (husable.1 hok).1, (husable.1 hok).2⟩
      · cases h
  · rintro ⟨hends, hlength, hdigits⟩
    rw [afterLastHyphen?_eq_some_iff.2 hends]
    exact if_pos (husable.2 ⟨hlength, hdigits⟩)

/-- Why no commit is taken from a stamp. -/
inductive Unusable (stamp : String) : Indecision → Prop where
  | noHyphen (h : '-' ∉ stamp.toList) : Unusable stamp (.noCommit stamp)
  | noDigits {commit : List Char} (hends : EndsAfterHyphen stamp.toList commit)
      (h : ¬ StampedWith stamp commit) : Unusable stamp (.unusableCommit (String.ofList commit))

theorem afterLastHyphen?_eq_none_iff {text : List Char} :
    afterLastHyphen? text = none ↔ '-' ∉ text := by
  simp [afterLastHyphen?]

theorem stampCommit_eq_error_iff {reason : Indecision} :
    stampCommit stamp = .error reason ↔ Unusable stamp reason := by
  constructor
  · intro h
    have hnone : ∀ commit, ¬ StampedWith stamp commit := by
      intro commit hstamped
      rw [stampCommit_eq_ok_iff.2 hstamped] at h
      cases h
    rw [stampCommit] at h
    split at h
    · rename_i hhyphen
      cases h
      exact .noHyphen (afterLastHyphen?_eq_none_iff.1 hhyphen)
    · rename_i commit hfound
      split at h
      · cases h
      · cases h
        exact .noDigits (afterLastHyphen?_eq_some_iff.1 hfound) (hnone commit)
  · intro h
    rw [stampCommit]
    cases h with
    | noHyphen h => rw [afterLastHyphen?_eq_none_iff.2 h]
    | @noDigits commit hends h =>
        have hunusable : isCommitAbbreviation commit ≠ true := by
          intro husable
          refine h (stampCommit_eq_ok_iff.1 ?_)
          rw [stampCommit, afterLastHyphen?_eq_some_iff.2 hends]
          exact if_pos husable
        rw [afterLastHyphen?_eq_some_iff.2 hends]
        exact if_neg hunusable

/-- A usable stamp has one commit. -/
theorem StampedWith.unique {other : List Char} (h : StampedWith stamp commit)
    (hother : StampedWith stamp other) : commit = other := by
  have hok := stampCommit_eq_ok_iff.2 h
  rw [stampCommit_eq_ok_iff.2 hother] at hok
  exact (Except.ok.inj hok).symm

/-! ## The same up to case -/

/-- The letters in capitals, each with the small one. -/
def letters : List (Char × Char) :=
  "ABCDEFGHIJKLMNOPQRSTUVWXYZ".toList.zip "abcdefghijklmnopqrstuvwxyz".toList

/-- The characters are the same, or the same letter of ASCII. -/
def SameUpToCase (c d : Char) : Prop :=
  c = d ∨ (c, d) ∈ letters ∨ (d, c) ∈ letters

theorem toLower_of_mem_letters {p : Char × Char} (h : p ∈ letters) :
    p.1.toLower = p.2 ∧ p.2.toLower = p.2 := by
  have hall : ∀ p ∈ letters, p.1.toLower = p.2 ∧ p.2.toLower = p.2 := by decide
  exact hall p h

/-- What lower case changes is a capital. -/
theorem toLower_eq_self_or_mem_letters (c : Char) : c.toLower = c ∨ (c, c.toLower) ∈ letters := by
  by_cases hascii : c.toNat < 128
  · refine forall_ascii (P := fun c => c.toLower = c ∨ (c, c.toLower) ∈ letters) ?_ hascii
    decide +kernel
  · left
    refine dif_neg ?_
    rintro ⟨-, hle⟩
    have hle : c.toNat ≤ 'Z'.toNat := hle
    exact hascii (Nat.lt_of_le_of_lt hle (by decide))

theorem toLower_eq_toLower_iff {c d : Char} : c.toLower = d.toLower ↔ SameUpToCase c d := by
  constructor
  · intro h
    rcases toLower_eq_self_or_mem_letters c with hc | hc
    · rcases toLower_eq_self_or_mem_letters d with hd | hd
      · exact .inl (hc.symm.trans (h.trans hd))
      · rw [← h, hc] at hd
        exact .inr (.inr hd)
    · rcases toLower_eq_self_or_mem_letters d with hd | hd
      · rw [h, hd] at hc
        exact .inr (.inl hc)
      · have hinjective : ∀ p ∈ letters, ∀ q ∈ letters, p.2 = q.2 → p.1 = q.1 := by decide
        exact .inl (hinjective _ hc _ hd h)
  · rintro (rfl | h | h)
    · rfl
    · obtain ⟨hc, hd⟩ := toLower_of_mem_letters h
      exact hc.trans hd.symm
    · obtain ⟨hd, hc⟩ := toLower_of_mem_letters h
      exact hc.trans hd.symm

theorem equalUpToCase_iff {cs ds : List Char} :
    equalUpToCase cs ds = true ↔ List.Forall₂ SameUpToCase cs ds := by
  rw [equalUpToCase, decide_eq_true_eq, ← List.forall₂_eq_eq_eq, List.forall₂_map_left_iff,
    List.forall₂_map_right_iff]
  simp only [toLower_eq_toLower_iff]

/-- What is a digit in the other case has one byte, as digits have. -/
theorem SameUpToCase.utf8Size_eq_one {c d : Char} (h : SameUpToCase c d)
    (hd : d ∈ commitDigits) : c.utf8Size = 1 := by
  have hdigits : commitDigits.all (fun d => d.utf8Size = 1) = true := by decide
  have hletters : ∀ p ∈ letters, p.1.utf8Size = 1 ∧ p.2.utf8Size = 1 := by decide
  rcases h with rfl | h | h
  · exact of_decide_eq_true (List.all_eq_true.1 hdigits c hd)
  · exact (hletters _ h).1
  · exact (hletters _ h).2

theorem byteLength_of_same {start : List Char} (h : List.Forall₂ SameUpToCase start commit)
    (hdigits : ∀ d ∈ commit, d ∈ commitDigits) : Text.byteLength start = commit.length := by
  induction h with
  | nil => rfl
  | cons hsame _ ih =>
      obtain ⟨hdigit, hdigits⟩ := List.forall_mem_cons.1 hdigits
      rw [Text.byteLength_cons, hsame.utf8Size_eq_one hdigit, ih hdigits, List.length_cons,
        Nat.add_comm]

/-- It does not matter whether as many bytes or as many characters stand against a commit. -/
theorem same_iff_same_take {start cs : List Char} (hdigits : ∀ d ∈ commit, d ∈ commitDigits)
    (hstart : start <+: cs) (hlength : Text.byteLength start = commit.length) :
    List.Forall₂ SameUpToCase start commit ↔
      List.Forall₂ SameUpToCase (cs.take commit.length) commit := by
  constructor
  · intro hsame
    rw [← hsame.length_eq, ← List.prefix_iff_eq_take.1 hstart]
    exact hsame
  · intro hsame
    have htake := Text.takeBytes?_eq_some_iff.2
      ⟨List.take_prefix commit.length cs, byteLength_of_same hsame hdigits⟩
    rw [Text.takeBytes?_eq_some_iff.2 ⟨hstart, hlength⟩, Option.some_inj] at htake
    rw [htake]
    exact hsame

/-! ## The comparison -/

theorem hashStart?_eq_some_iff {n : Nat} {start : List Char} :
    hashStart? hash n = some start ↔
      8 ≤ hash.utf8ByteSize ∧ start <+: hash.toList ∧ Text.byteLength start = n := by
  rw [hashStart?, Text.byteLength_toList]
  split
  · rename_i hshort
    exact iff_of_false (by simp) fun h => by omega
  · rename_i hlong
    rw [Text.takeBytes?_eq_some_iff]
    exact (and_iff_right (by omega)).symm

theorem hashStart?_eq_none_iff {n : Nat} :
    hashStart? hash n = none ↔
      hash.utf8ByteSize < 8 ∨ ¬ (⟨n⟩ : String.Pos.Raw).IsValid hash := by
  rw [← Text.exists_takeBytes?_iff, hashStart?, Text.byteLength_toList]
  split
  · rename_i hshort
    exact iff_of_true rfl (.inl hshort)
  · rename_i hlong
    rw [or_iff_right hlong, Option.eq_none_iff_forall_ne_some]
    exact not_exists.symm

/-- What the comparison of a stamp with a tag and the tag's commit hash comes to. -/
inductive Compares (stamp tag hash : String) : Verdict → Prop where
  | unusable {reason : Indecision} (h : stampCommit stamp = .error reason) :
      Compares stamp tag hash (.undetermined reason)
  | short {commit : List Char} (h : StampedWith stamp commit)
      (hcut : hash.utf8ByteSize < 8 ∨ ¬ (⟨commit.length⟩ : String.Pos.Raw).IsValid hash) :
      Compares stamp tag hash (.undetermined (.shortHash hash))
  | same {commit start : List Char} (h : StampedWith stamp commit) (hlong : 8 ≤ hash.utf8ByteSize)
      (hstart : start <+: hash.toList) (hlength : Text.byteLength start = commit.length)
      (hsame : List.Forall₂ SameUpToCase start commit) : Compares stamp tag hash (.current tag)
  | different {commit start : List Char} (h : StampedWith stamp commit)
      (hlong : 8 ≤ hash.utf8ByteSize) (hstart : start <+: hash.toList)
      (hlength : Text.byteLength start = commit.length)
      (hdifferent : ¬ List.Forall₂ SameUpToCase start commit) :
      Compares stamp tag hash (.outdated tag)

theorem compares_compare (stamp tag hash : String) :
    Compares stamp tag hash (compare stamp tag hash) := by
  rw [compare]
  split
  · rename_i reason hstamp
    exact .unusable hstamp
  · rename_i commit hstamp
    have hstamped := stampCommit_eq_ok_iff.1 hstamp
    split
    · rename_i hnone
      exact .short hstamped (hashStart?_eq_none_iff.1 hnone)
    · rename_i start hsome
      obtain ⟨hlong, hstart, hlength⟩ := hashStart?_eq_some_iff.1 hsome
      split
      · rename_i hequal
        exact .same hstamped hlong hstart hlength (equalUpToCase_iff.1 hequal)
      · rename_i hequal
        exact .different hstamped hlong hstart hlength fun h => hequal (equalUpToCase_iff.2 h)

theorem compare_of_compares {verdict : Verdict} (h : Compares stamp tag hash verdict) :
    compare stamp tag hash = verdict := by
  cases h with
  | unusable h => simp only [compare, h]
  | short h hcut =>
      simp only [compare, stampCommit_eq_ok_iff.2 h, hashStart?_eq_none_iff.2 hcut]
  | same h hlong hstart hlength hsame =>
      simp only [compare, stampCommit_eq_ok_iff.2 h,
        hashStart?_eq_some_iff.2 ⟨hlong, hstart, hlength⟩]
      exact if_pos (equalUpToCase_iff.2 hsame)
  | different h hlong hstart hlength hdifferent =>
      simp only [compare, stampCommit_eq_ok_iff.2 h,
        hashStart?_eq_some_iff.2 ⟨hlong, hstart, hlength⟩]
      exact if_neg fun hequal => hdifferent (equalUpToCase_iff.1 hequal)

theorem compare_eq_iff {verdict : Verdict} :
    compare stamp tag hash = verdict ↔ Compares stamp tag hash verdict :=
  ⟨fun h => h ▸ compares_compare stamp tag hash, compare_of_compares⟩

/-- The comparison as it is made step by step: a hash that cannot be cut after the digits of
the stamp is turned away, and every other one is cut there, which has no result where the
position is beyond the end or inside a character. -/
def guardedCompare (stamp tag hash : String) : Option Verdict :=
  match stampCommit stamp with
  | .error reason => some (.undetermined reason)
  | .ok commit =>
    if hash.utf8ByteSize < 8 ∨ ¬ (⟨commit.length⟩ : String.Pos.Raw).IsValid hash then
      some (.undetermined (.shortHash hash))
    else
      (Text.takeBytes? commit.length hash.toList).map fun start =>
        if equalUpToCase start commit then .current tag else .outdated tag

theorem guardedCompare_eq (stamp tag hash : String) :
    guardedCompare stamp tag hash = some (compare stamp tag hash) := by
  rw [guardedCompare, compare]
  cases hstamp : stampCommit stamp with
  | error reason => rfl
  | ok commit =>
      by_cases hcut : hash.utf8ByteSize < 8 ∨ ¬ (⟨commit.length⟩ : String.Pos.Raw).IsValid hash
      · simp only [hashStart?_eq_none_iff.2 hcut, if_pos hcut]
      · obtain ⟨hlong, hvalid⟩ := not_or.1 hcut
        obtain ⟨start, hstart⟩ := Text.exists_takeBytes?_iff.2 (not_not.1 hvalid)
        have hsome : hashStart? hash commit.length = some start := by
          rw [hashStart?, Text.byteLength_toList, if_neg hlong, hstart]
        simp only [hsome, hstart, if_neg hcut, Option.map_some]

/-! ## Verdicts -/

theorem compare_eq_current_iff {t : String} :
    compare stamp tag hash = .current t ↔ t = tag ∧ ∃ commit, StampedWith stamp commit ∧
      8 ≤ hash.utf8ByteSize ∧
      List.Forall₂ SameUpToCase (hash.toList.take commit.length) commit := by
  rw [compare_eq_iff]
  constructor
  · intro h
    cases h with
    | same h hlong hstart hlength hsame =>
        exact ⟨rfl, _, h, hlong, (same_iff_same_take h.digits hstart hlength).1 hsame⟩
  · rintro ⟨rfl, commit, h, hlong, hsame⟩
    exact .same h hlong (List.take_prefix _ _) (byteLength_of_same hsame h.digits) hsame

theorem compare_eq_outdated_iff {t : String} :
    compare stamp tag hash = .outdated t ↔ t = tag ∧ ∃ commit, StampedWith stamp commit ∧
      8 ≤ hash.utf8ByteSize ∧ (⟨commit.length⟩ : String.Pos.Raw).IsValid hash ∧
      ¬ List.Forall₂ SameUpToCase (hash.toList.take commit.length) commit := by
  rw [compare_eq_iff]
  constructor
  · intro h
    cases h with
    | different h hlong hstart hlength hdifferent =>
        rw [same_iff_same_take h.digits hstart hlength] at hdifferent
        have htaken := Text.takeBytes?_eq_some_iff.2 ⟨hstart, hlength⟩
        exact ⟨rfl, _, h, hlong, Text.exists_takeBytes?_iff.1 ⟨_, htaken⟩, hdifferent⟩
  · rintro ⟨rfl, commit, h, hlong, hvalid, hdifferent⟩
    obtain ⟨start, htaken⟩ := Text.exists_takeBytes?_iff.2 hvalid
    obtain ⟨hstart, hlength⟩ := Text.takeBytes?_eq_some_iff.1 htaken
    rw [← same_iff_same_take h.digits hstart hlength] at hdifferent
    exact .different h hlong hstart hlength hdifferent

theorem exists_compare_eq_undetermined_iff :
    (∃ reason, compare stamp tag hash = .undetermined reason) ↔
      ∀ commit, StampedWith stamp commit →
        hash.utf8ByteSize < 8 ∨ ¬ (⟨commit.length⟩ : String.Pos.Raw).IsValid hash := by
  simp only [compare_eq_iff]
  constructor
  · rintro ⟨reason, h⟩ commit hstamped
    cases h with
    | unusable hstamp =>
        rw [stampCommit_eq_ok_iff.2 hstamped] at hstamp
        cases hstamp
    | short h hcut => rwa [hstamped.unique h]
  · intro hcut
    cases hstamp : stampCommit stamp with
    | error reason => exact ⟨reason, .unusable hstamp⟩
    | ok commit =>
        have hstamped := stampCommit_eq_ok_iff.1 hstamp
        exact ⟨_, .short hstamped (hcut commit hstamped)⟩

/-- A comparison is decided for all texts. With a usable stamp and a hash of eight bytes or more,
the build is current if as many characters of the hash as the stamp has digits are these digits
up to case, and outdated if they are not and the hash has a character boundary after as many
bytes. In all other cases the comparison is undetermined. It never cuts the hash beyond its end
or inside a character. -/
theorem compare_decides (stamp tag hash : String) :
    (∀ t, compare stamp tag hash = .current t ↔ t = tag ∧ ∃ commit, StampedWith stamp commit ∧
        8 ≤ hash.utf8ByteSize ∧
        List.Forall₂ SameUpToCase (hash.toList.take commit.length) commit) ∧
      (∀ t, compare stamp tag hash = .outdated t ↔ t = tag ∧ ∃ commit, StampedWith stamp commit ∧
        8 ≤ hash.utf8ByteSize ∧ (⟨commit.length⟩ : String.Pos.Raw).IsValid hash ∧
        ¬ List.Forall₂ SameUpToCase (hash.toList.take commit.length) commit) ∧
      ((∃ reason, compare stamp tag hash = .undetermined reason) ↔
        ∀ commit, StampedWith stamp commit →
          hash.utf8ByteSize < 8 ∨ ¬ (⟨commit.length⟩ : String.Pos.Raw).IsValid hash) ∧
      guardedCompare stamp tag hash = some (compare stamp tag hash) :=
  ⟨fun _ => compare_eq_current_iff, fun _ => compare_eq_outdated_iff,
    exists_compare_eq_undetermined_iff, guardedCompare_eq stamp tag hash⟩

/-- The seventh byte is inside a character. -/
example : compare "v1-abcdef1" "v2" "abcdeféabc" = .undetermined (.shortHash "abcdeféabc") := by
  decide +kernel

end TronWallet.Release
