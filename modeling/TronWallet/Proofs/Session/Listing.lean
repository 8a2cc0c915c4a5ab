import Mathlib.Data.List.Infix
import TronWallet.Proofs.Book.Store
import TronWallet.Proofs.Session.Transfer
import TronWallet.Proofs.Text.Decimal

/-!
# What a listing tells about the book

A listing is one line for each account and then the number of accounts. Its lines end in a blank,
the text of an address and a line feed (`lineEnd`), and since names are not quoted, a name can
hold such an end of a line too. Where no name does, every end of a line in the listing ends an
account (`exists_cut`), so the listing falls into the lines of the accounts in one way only. Two
books with the same listing are the same if this is true of one of them
(`eq_of_same_listing`), and need not be otherwise (`same_listing_of_held_lines`).
-/

namespace TronWallet

namespace Text

variable {c : Char} {xs ys zs : List Char}

/-- A text that ends in a mark ends before what does not have the mark. -/
theorem prefix_of_not_mem (hc : c ∉ zs) (h : xs ++ [c] <+: ys ++ zs) : xs ++ [c] <+: ys := by
  rcases List.prefix_or_prefix_of_prefix h (List.prefix_append ys zs) with hys | ⟨ts, hts⟩
  · exact hys
  · rcases List.eq_nil_or_concat ts with rfl | ⟨us, d, rfl⟩
    · rw [← hts, List.append_nil]
    · rw [List.concat_eq_append] at hts
      rw [← hts, List.prefix_append_right_inj] at h
      rw [← List.append_assoc, List.append_singleton_inj] at hts
      obtain ⟨-, rfl⟩ := hts
      exact absurd (h.subset (by simp)) hc

/-- A text falls apart in one way at the last of its marks. -/
theorem append_cons_inj_of_not_mem {xs' ys' : List Char} (hys : c ∉ ys) (hys' : c ∉ ys') :
    xs ++ c :: ys = xs' ++ c :: ys' ↔ xs = xs' ∧ ys = ys' := by
  constructor
  · intro h
    rcases List.append_eq_append_iff.1 h with ⟨ts, rfl, hts⟩ | ⟨ts, rfl, hts⟩
    · cases ts with
      | nil => simpa using hts
      | cons t ts =>
          obtain ⟨-, rfl⟩ := List.cons_eq_cons.1 hts
          simp at hys
    · cases ts with
      | nil => simpa [eq_comm] using hts
      | cons t ts =>
          obtain ⟨-, rfl⟩ := List.cons_eq_cons.1 hts
          simp at hys'
  · rintro ⟨rfl, rfl⟩
    rfl

end Text

open Text (isWhite NoWhiteEnds)

namespace Address

theorem not_mem_text_of_isWhite {c : Char} (hc : isWhite c = true) (a : Address) : c ∉ a.text := by
  intro h
  rw [isWhite_of_mem_text h] at hc
  cases hc

theorem line_feed_not_mem (a : Address) : '\n' ∉ ' ' :: a.text := by
  rw [List.mem_cons, not_or]
  exact ⟨by decide, not_mem_text_of_isWhite rfl a⟩

theorem blank_not_mem (a : Address) : ' ' ∉ a.text ++ ['\n'] := by
  rw [List.mem_append, not_or]
  exact ⟨not_mem_text_of_isWhite rfl a, by decide⟩

end Address

namespace Book

/-! ## Lines -/

variable {p q : String × Address} {ps qs : List (String × Address)}

/-- The end of the line of an account. -/
def lineEnd (a : Address) : List Char := ' ' :: a.text ++ ['\n']

/-- Does the name hold the end of a line? -/
def HoldsLineEnd (name : String) : Prop := ∃ a, lineEnd a <:+: name.toList

/-- The lines of accounts, one after the other. -/
def lines (ps : List (String × Address)) : List Char :=
  ps.flatMap fun p => (listingLine p).toList

/-- The text of a line before its end. -/
def lineStart (name : String) : List Char :=
  name.toList ++ List.replicate (nameColumn - name.length) ' '

theorem toList_listingLine (p : String × Address) :
    (listingLine p).toList = lineStart p.1 ++ lineEnd p.2 := by
  simp [listingLine, Text.padRight, Text.blanks, lineStart, lineEnd, Address.toBase58]

theorem lines_cons (p : String × Address) (ps : List (String × Address)) :
    lines (p :: ps) = lineStart p.1 ++ lineEnd p.2 ++ lines ps := by
  rw [lines, List.flatMap_cons, toList_listingLine, lines]

theorem lines_singleton (p : String × Address) :
    lines [p] = lineStart p.1 ++ lineEnd p.2 := by
  rw [lines_cons, lines, List.flatMap_nil, List.append_nil]

theorem HoldsLineEnd.mem {name : String} (h : HoldsLineEnd name) :
    ' ' ∈ name.toList ∧ '\n' ∈ name.toList := by
  obtain ⟨a, ha⟩ := h
  exact ⟨ha.subset (by simp [lineEnd]), ha.subset (by simp [lineEnd])⟩

theorem trimEnd_lineStart {name : String} (h : NoWhiteEnds name.toList) :
    Text.trimEnd (lineStart name) = name.toList := by
  have hblanks : ∀ c ∈ List.replicate (nameColumn - name.length) ' ', isWhite c = true :=
    fun c hc => List.eq_of_mem_replicate hc ▸ rfl
  have hname : name.toList.reverse.dropWhile isWhite = name.toList.reverse :=
    Text.trimStart_eq_self_of_head? (List.head?_reverse ▸ h.last)
  rw [Text.trimEnd, lineStart, List.reverse_append, List.reverse_replicate,
    List.dropWhile_append_of_pos hblanks, hname, List.reverse_reverse]

/-- The line of a name without white space around it tells the account. -/
theorem listingLine_injective (hp : NoWhiteEnds p.1.toList) (hq : NoWhiteEnds q.1.toList)
    (h : lineStart p.1 ++ lineEnd p.2 = lineStart q.1 ++ lineEnd q.2) : p = q := by
  obtain ⟨hstart, hend⟩ :=
    (Text.append_cons_inj_of_not_mem p.2.blank_not_mem q.2.blank_not_mem).1 h
  have hname : p.1.toList = q.1.toList := by
    rw [← trimEnd_lineStart hp, hstart, trimEnd_lineStart hq]
  exact Prod.ext (String.toList_inj.1 hname)
    (Address.text_injective ((List.append_singleton_inj.1 hend).1))

/-- What ends as lines do and begins the line of an account is this line, unless the name holds
the end of a line. -/
theorem eq_line_of_begins {a : Address} {start : List Char} (hp : ¬ HoldsLineEnd p.1)
    (h : start ++ lineEnd a <+: lineStart p.1 ++ lineEnd p.2) :
    start ++ lineEnd a = lineStart p.1 ++ lineEnd p.2 := by
  have hblanks : '\n' ∉ List.replicate (nameColumn - p.1.length) ' ' := by simp
  simp only [lineEnd, ← List.append_assoc] at h ⊢
  refine (List.prefix_concat_iff.1 h).resolve_right fun hbegins => hp ⟨a, ?_⟩
  have hstart := Text.prefix_of_not_mem p.2.line_feed_not_mem hbegins
  have hname := Text.prefix_of_not_mem hblanks hstart
  rw [List.append_assoc] at hname
  exact (List.suffix_append start (lineEnd a)).isInfix.trans hname.isInfix

/-- What begins with the line of an account and ends as lines do is this line, or it goes on after
the line and ends in the same way. -/
theorem eq_or_exists_of_line_begins {a : Address} {start : List Char}
    (h : lineStart p.1 ++ lineEnd p.2 <+: start ++ lineEnd a) :
    lineStart p.1 ++ lineEnd p.2 = start ++ lineEnd a ∨
      ∃ more, start = lineStart p.1 ++ lineEnd p.2 ++ more := by
  simp only [lineEnd, ← List.append_assoc] at h ⊢
  refine (List.prefix_concat_iff.1 h).imp_right fun hbegins => ?_
  obtain ⟨more, hmore⟩ := Text.prefix_of_not_mem a.line_feed_not_mem hbegins
  exact ⟨more, hmore.symm⟩

/-- Where no name holds the end of a line, each end of a line is the end of an account. -/
theorem exists_cut {a : Address} {start rest : List Char} (hqs : ∀ q ∈ qs, ¬ HoldsLineEnd q.1)
    (h : lines qs = start ++ lineEnd a ++ rest) :
    ∃ before after, qs = before ++ after ∧ before ≠ [] ∧ lines before = start ++ lineEnd a ∧
      lines after = rest := by
  induction qs generalizing start with
  | nil => simp [lines, lineEnd] at h
  | cons q qs ih =>
      obtain ⟨hq, hqs⟩ := List.forall_mem_cons.1 hqs
      rw [lines_cons] at h
      by_cases heq : start ++ lineEnd a = lineStart q.1 ++ lineEnd q.2
      · rw [heq, List.append_right_inj] at h
        exact ⟨[q], qs, rfl, List.cons_ne_nil _ _, lines_singleton q ▸ heq.symm, h⟩
      · have hmore : ∃ more, start = lineStart q.1 ++ lineEnd q.2 ++ more := by
          rcases List.prefix_or_prefix_of_prefix ⟨_, h⟩ (List.prefix_append _ rest)
            with hline | hcut
          · exact (eq_or_exists_of_line_begins hline).resolve_left (Ne.symm heq)
          · exact absurd (eq_line_of_begins hq hcut) heq
        obtain ⟨more, rfl⟩ := hmore
        rw [List.append_assoc _ more, List.append_assoc _ (more ++ _), List.append_right_inj] at h
        obtain ⟨before, after, rfl, -, hbefore, hafter⟩ := ih hqs h
        refine ⟨q :: before, after, rfl, List.cons_ne_nil _ _, ?_, hafter⟩
        rw [lines_cons, hbefore, List.append_assoc _ more]

/-- Accounts whose names hold no end of a line are not fewer than others with the same lines, and
if they are as many, they are the same. -/
theorem eq_of_lines_eq (hps : ∀ p ∈ ps, NoWhiteEnds p.1.toList)
    (hqs : ∀ q ∈ qs, NoWhiteEnds q.1.toList) (hclean : ∀ q ∈ qs, ¬ HoldsLineEnd q.1)
    (h : lines ps = lines qs) :
    ps.length ≤ qs.length ∧ (ps.length = qs.length → ps = qs) := by
  induction ps generalizing qs with
  | nil => exact ⟨Nat.zero_le _, fun hlength => (List.eq_nil_of_length_eq_zero hlength.symm).symm⟩
  | cons p ps ih =>
      rw [lines_cons] at h
      obtain ⟨before, after, rfl, hne, hbefore, hafter⟩ := exists_cut hclean h.symm
      obtain ⟨hp, hps⟩ := List.forall_mem_cons.1 hps
      obtain ⟨hwhite, hqs⟩ := List.forall_mem_append.1 hqs
      obtain ⟨hle, heq⟩ := ih hps hqs (List.forall_mem_append.1 hclean).2 hafter.symm
      have hpos := List.length_pos_iff.2 hne
      simp only [List.length_cons, List.length_append]
      refine ⟨by omega, fun hlength => ?_⟩
      have hsingle : before.length = 1 := by omega
      obtain ⟨q, rfl⟩ := List.length_eq_one_iff.1 hsingle
      obtain rfl := heq (by omega)
      rw [lines_singleton] at hbefore
      rw [listingLine_injective hp (hwhite q List.mem_cons_self) hbefore.symm]
      rfl

/-! ## Listings -/

variable {b c : Book}

theorem toList_listing (h : b.isEmpty = false) :
    b.listing.toList = lines b.pairs ++ '\n' :: Text.Decimal.ofNat b.size ++
      " account(s) total.\n".toList := by
  simp [listing, h, lines, Text.Decimal.natString, List.flatMap_def, Function.comp_def]

theorem paren_mem_listing_iff : '(' ∈ b.listing.toList ↔ b.isEmpty = false := by
  cases h : b.isEmpty with
  | true =>
      rw [listing, if_pos h]
      decide
  | false =>
      rw [toList_listing h]
      simp

theorem line_feed_not_mem_ofNat (n : Nat) : '\n' ∉ Text.Decimal.ofNat n := by
  intro h
  have hdigit := Text.Decimal.isDigit_of_mem_ofNat h
  exact absurd hdigit (by decide)

/-- A listing tells the number of accounts, and it tells their lines, but not where one ends. -/
theorem listing_eq_iff :
    b.listing = c.listing ↔ b.size = c.size ∧ lines b.pairs = lines c.pairs := by
  constructor
  · intro h
    have hempty : b.isEmpty = false ↔ c.isEmpty = false := by
      rw [← paren_mem_listing_iff, h, paren_mem_listing_iff]
    cases hb : b.isEmpty with
    | true =>
        have hc : c.isEmpty = true := by simpa [hb] using hempty
        rw [isEmpty, List.isEmpty_iff] at hb hc
        rw [size, hb, size, hc]
        exact ⟨rfl, rfl⟩
    | false =>
        rw [← String.toList_inj, toList_listing hb, toList_listing (hempty.1 hb),
          List.append_left_inj, Text.append_cons_inj_of_not_mem (line_feed_not_mem_ofNat _)
            (line_feed_not_mem_ofNat _)] at h
        refine ⟨?_, h.1⟩
        rw [← Text.Decimal.value_ofNat b.size, h.2, Text.Decimal.value_ofNat]
  · rintro ⟨hsize, hlines⟩
    have hempty : b.isEmpty = c.isEmpty := by
      rw [Bool.eq_iff_iff, isEmpty_iff, hsize, isEmpty_iff]
    cases hb : b.isEmpty with
    | true => rw [listing, if_pos hb, listing, if_pos (hempty ▸ hb)]
    | false =>
        rw [← String.toList_inj, toList_listing hb, toList_listing (hempty ▸ hb), hsize, hlines]

/-! ## Books that come from the empty one -/

/-- The book comes from the empty one by registering and removing accounts. -/
def Reachable (b : Book) : Prop := ∃ changes, Change.applyAll .empty changes = .ok b

theorem Tidy.apply {change : Change} (h : b.Tidy) (happly : change.apply b = .ok c) : c.Tidy := by
  cases change with
  | register name address =>
      rw [Change.apply] at happly
      exact h.register happly
  | remove name =>
      rw [Change.apply, Except.map_eq_ok_iff] at happly
      obtain ⟨⟨address, after⟩, hremove, rfl⟩ := happly
      exact h.remove hremove
  | registerAll accounts =>
      rw [Change.apply, registerAll] at happly
      exact Except.foldlM_induction (fun _ _ _ _ hd hregister => hd.register hregister) h happly

theorem Reachable.tidy (h : b.Reachable) : b.Tidy := by
  obtain ⟨changes, happly⟩ := h
  exact Except.foldlM_induction (fun _ _ _ _ hd hchange => hd.apply hchange) Tidy.empty happly

/-- Does no name of the book hold the end of a line? -/
def Clean (b : Book) : Prop := ∀ p ∈ b.pairs, ¬ HoldsLineEnd p.1

theorem eq_of_lines_eq_of_clean (hb : b.Tidy) (hc : c.Tidy) (hsize : b.size = c.size)
    (hlines : lines b.pairs = lines c.pairs) (hclean : c.Clean) : b = c :=
  Book.ext ((eq_of_lines_eq (fun p hp => (hb p hp).noWhiteEnds) (fun q hq => (hc q hq).noWhiteEnds)
    hclean hlines).2 hsize)

end Book

namespace Session

variable {first second : Session} {s s' : Surroundings} {disk disk' : Files.Disk}

/-- Two books that come from the empty one, and for which the same listing is printed, have as
many accounts; and if the names of one of them hold no end of a line, the books are the same. -/
theorem eq_of_same_listing (hfirst : first.book.Reachable) (hsecond : second.book.Reachable)
    (h : (first.carryOut s disk .listAccounts).2 = (second.carryOut s' disk' .listAccounts).2) :
    first.book.size = second.book.size ∧
      (first.book.Clean ∨ second.book.Clean → first.book = second.book) := by
  rw [carryOut_list.2 (Eq.refl first.book.listing), eq_comm, carryOut_list] at h
  obtain ⟨hsize, hlines⟩ := Book.listing_eq_iff.1 h
  refine ⟨hsize, ?_⟩
  rintro (hclean | hclean)
  · exact (Book.eq_of_lines_eq_of_clean hsecond.tidy hfirst.tidy hsize.symm hlines.symm hclean).symm
  · exact Book.eq_of_lines_eq_of_clean hfirst.tidy hsecond.tidy hsize hlines hclean

/-- A book with a name that has a line feed, and one that has the text of an address. -/
def innerTexts : Book :=
  (Book.empty.set "a\nb" (.uniform 1)).set "c TA9pkx4DFxrEw8JZzUtyDrh2uAat1LDuJL d" (.uniform 2)

/-- Accounts that are registered in another order, and one that is removed again. -/
theorem eq_of_same_listing_innerTexts :
    let after := (innerTexts.set "gone" (.uniform 3)).erase "gone"
    innerTexts.Clean ∧ innerTexts.Reachable ∧ after.Reachable ∧
      ({ dryRunSession with book := innerTexts }.carryOut freshSurroundings .empty
        .listAccounts).2 =
        ({ dryRunSession with book := after }.carryOut freshSurroundings .empty .listAccounts).2 ∧
      innerTexts = after := by
  intro after
  let second : Change := .register "c TA9pkx4DFxrEw8JZzUtyDrh2uAat1LDuJL d" (.uniform 2)
  have hclean : innerTexts.Clean := by
    have hmarks : ∀ p ∈ innerTexts.pairs, ¬ (' ' ∈ p.1.toList ∧ '\n' ∈ p.1.toList) := by
      decide +kernel
    exact fun p hp h => hmarks p hp h.mem
  have hreachable : innerTexts.Reachable :=
    ⟨[.register "a\nb" (.uniform 1), second], by decide +kernel⟩
  have hafter : after.Reachable :=
    ⟨[second, .register "gone" (.uniform 3), .register "a\nb" (.uniform 1), .remove "gone"],
      by decide +kernel⟩
  have hprinted : ({ dryRunSession with book := innerTexts }.carryOut freshSurroundings .empty
      .listAccounts).2 =
      ({ dryRunSession with book := after }.carryOut freshSurroundings .empty .listAccounts).2 := by
    decide +kernel
  exact ⟨hclean, hreachable, hafter, hprinted,
    (eq_of_same_listing hreachable hafter hprinted).2 (.inl hclean)⟩

/-- Where names hold the end of a line, different books have the same listing: of its three lines,
one of these books takes the last two for one account, and the other the first two. -/
theorem same_listing_of_held_lines :
    let one := (Book.empty.set "a" (.uniform 1)).set
      "b TA9pkx4DFxrEw8JZzUtyDrh2uAat1LDuJL\ncccccccccccccccccccc" (.uniform 3)
    let other := (Book.empty.set "a                    TA4Wt1DUCqz6YegbnsmqsWC5uUfbdBqPxm\nb"
      (.uniform 2)).set "cccccccccccccccccccc" (.uniform 3)
    let printed := "a                    TA4Wt1DUCqz6YegbnsmqsWC5uUfbdBqPxm\n" ++
      "b TA9pkx4DFxrEw8JZzUtyDrh2uAat1LDuJL\n" ++
      "cccccccccccccccccccc TAF8dttxK5iPKbvYC626aDBytrWANpLRXp\n\n2 account(s) total.\n"
    one.Reachable ∧ other.Reachable ∧ one ≠ other ∧
      ({ dryRunSession with book := one }.carryOut freshSurroundings .empty .listAccounts).2 =
        .ok printed ∧
      ({ dryRunSession with book := other }.carryOut freshSurroundings .empty .listAccounts).2 =
        .ok printed := by
  intro one other printed
  have hone : one.Reachable :=
    ⟨[.register "a" (.uniform 1),
      .register "b TA9pkx4DFxrEw8JZzUtyDrh2uAat1LDuJL\ncccccccccccccccccccc" (.uniform 3)],
      by decide +kernel⟩
  have hother : other.Reachable :=
    ⟨[.register "a                    TA4Wt1DUCqz6YegbnsmqsWC5uUfbdBqPxm\nb" (.uniform 2),
      .register "cccccccccccccccccccc" (.uniform 3)], by decide +kernel⟩
  exact ⟨hone, hother, by decide +kernel, by decide +kernel, by decide +kernel⟩

end Session

end TronWallet
