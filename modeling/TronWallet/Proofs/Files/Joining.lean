import Mathlib.Data.List.DropRight
import TronWallet.Files.Disk

/-!
# Names joined to directories

A path that is a directory with a name joined to it takes the steps of the directory and
then one to the name, and its parent takes the steps of the directory
(`exists_parent?_join`): making the parent makes every directory on the way to the name.
Everything is said of the parts between slashes. The parts of a joined text are those of
the directory and the name (`split_append_cons`), and the parts that are left out of a
parent's text are no steps.
-/

namespace TronWallet

/-! ## Parts -/

namespace Text

variable {separator : Char}

theorem split_append_cons (xs ys : List Char) :
    split separator (xs ++ separator :: ys) = split separator xs ++ split separator ys := by
  induction xs with
  | nil => simp [split]
  | cons c cs ih =>
      rw [List.cons_append, split, split]
      by_cases hc : c = separator
      · rw [if_pos hc, if_pos hc, ih, List.cons_append]
      · obtain ⟨part, parts, hparts⟩ := List.exists_cons_of_ne_nil (split_ne_nil separator cs)
        rw [if_neg hc, if_neg hc, ih, hparts]
        rfl

theorem split_of_not_mem {cs : List Char} (h : separator ∉ cs) : split separator cs = [cs] := by
  induction cs with
  | nil => rfl
  | cons c cs ih =>
      rw [List.mem_cons, not_or] at h
      rw [split, if_neg (Ne.symm h.1), ih h.2]

theorem not_mem_of_mem_split {cs part : List Char} (h : part ∈ split separator cs) :
    separator ∉ part := by
  induction cs generalizing part with
  | nil =>
      rw [split, List.mem_singleton] at h
      rw [h]
      exact List.not_mem_nil
  | cons c cs ih =>
      obtain ⟨first, rest, hsplit⟩ := List.exists_cons_of_ne_nil (split_ne_nil separator cs)
      rw [split, hsplit] at h
      by_cases hc : c = separator
      · rw [if_pos hc, List.mem_cons] at h
        rcases h with rfl | h
        · exact List.not_mem_nil
        · exact ih (hsplit ▸ h)
      · rw [if_neg hc, List.mem_cons] at h
        rcases h with rfl | h
        · rw [List.mem_cons, not_or]
          exact ⟨Ne.symm hc, ih (hsplit ▸ List.mem_cons_self)⟩
        · exact ih (hsplit ▸ List.mem_cons_of_mem _ h)

/-- Parts without a separator are the parts of their text. -/
theorem split_intercalate {parts : List (List Char)} (hne : parts ≠ [])
    (h : ∀ part ∈ parts, separator ∉ part) :
    split separator (List.intercalate [separator] parts) = parts := by
  induction parts with
  | nil => exact absurd rfl hne
  | cons part parts ih =>
      obtain ⟨hpart, hparts⟩ := List.forall_mem_cons.1 h
      cases parts with
      | nil => rw [List.intercalate_singleton, split_of_not_mem hpart]
      | cons second rest =>
          rw [List.intercalate_cons_cons, List.append_assoc, List.singleton_append,
            split_append_cons, split_of_not_mem hpart, ih (List.cons_ne_nil _ _) hparts,
            List.singleton_append]

theorem intercalate_isPrefix {α : Type} {between : List α} {ps qs : List (List α)}
    (h : ps <+: qs) : List.intercalate between ps <+: List.intercalate between qs := by
  induction ps generalizing qs with
  | nil => exact List.nil_prefix
  | cons p ps ih =>
      obtain ⟨rs, rfl⟩ := h
      by_cases hps : ps = []
      · rw [hps, List.intercalate_singleton, List.singleton_append]
        cases rs with
        | nil =>
            have hsingle : List.intercalate between [p] = p := List.intercalate_singleton
            exact hsingle.symm ▸ List.prefix_refl p
        | cons r rs =>
            rw [List.intercalate_cons_cons, List.append_assoc]
            exact List.prefix_append _ _
      · have hrest : ps ++ rs ≠ [] := List.append_ne_nil_of_left_ne_nil hps rs
        rw [List.cons_append, List.intercalate_cons_of_ne_nil hps,
          List.intercalate_cons_of_ne_nil hrest]
        exact (List.prefix_append_right_inj _).2 (ih (List.prefix_append ps rs))

end Text

namespace Files

/-- The steps that parts take. -/
def stepsOf (parts : List (List Char)) : List String :=
  (parts.filter fun part => !isIdle part).map String.ofList

@[simp] theorem stepsOf_append (ps qs : List (List Char)) :
    stepsOf (ps ++ qs) = stepsOf ps ++ stepsOf qs := by
  rw [stepsOf, List.filter_append, List.map_append, stepsOf, stepsOf]

theorem parse?_eq {text : String} (h : text.toList ≠ []) :
    Path.parse? text =
      some ⟨text.toList.head? = some '/', stepsOf (Text.split '/' text.toList),
        endingOf (Text.split '/' text.toList)⟩ := by
  obtain ⟨c, cs, hcs⟩ := List.exists_cons_of_ne_nil h
  rw [Path.parse?, hcs, List.head?_cons]
  simp [stepsOf]

theorem endingOf_append_singleton {part : List Char} (h : isIdle part = false)
    (parts : List (List Char)) : endingOf (parts ++ [part]) = .name := by
  rw [isIdle, Bool.or_eq_false_iff, decide_eq_false_iff_not, decide_eq_false_iff_not] at h
  simp [endingOf, h.1, h.2]

/-! ### Parts at the end that are no step -/

theorem dropIdleEnd_append_singleton {part : List Char} (h : isIdle part = false)
    (parts : List (List Char)) : dropIdleEnd (parts ++ [part]) = parts ++ [part] :=
  List.rdropWhile_concat_neg isIdle parts part (by simp [h])

theorem dropIdleEnd_isPrefix (parts : List (List Char)) : dropIdleEnd parts <+: parts :=
  List.rdropWhile_prefix isIdle parts

/-- The parts that are left out take no steps. -/
theorem stepsOf_dropIdleEnd (parts : List (List Char)) :
    stepsOf (dropIdleEnd parts) = stepsOf parts := by
  induction parts using List.reverseRecOn with
  | nil => rfl
  | append_singleton parts part ih =>
      cases hidle : isIdle part with
      | false => rw [dropIdleEnd_append_singleton hidle]
      | true =>
          have hdrop : dropIdleEnd (parts ++ [part]) = dropIdleEnd parts :=
            List.rdropWhile_concat_pos isIdle parts part hidle
          have hpart : stepsOf [part] = [] := by simp [stepsOf, hidle]
          rw [hdrop, ih, stepsOf_append, hpart, List.append_nil]

/-- What is left ends in a step, if anything is left. -/
theorem endingOf_cons_dropIdleEnd {first : List Char} {parts : List (List Char)}
    (h : dropIdleEnd parts ≠ []) : endingOf (first :: dropIdleEnd parts) = .name := by
  have hlast : ¬ isIdle ((dropIdleEnd parts).getLast h) = true :=
    List.rdropWhile_last_not isIdle parts h
  rw [← List.dropLast_append_getLast h, ← List.cons_append]
  exact endingOf_append_singleton (Bool.eq_false_iff.2 hlast) _

/-! ## Joined paths -/

/-- Does the text name something in a directory? It takes a step, and only one. -/
structure IsName (name : String) : Prop where
  step : isIdle name.toList = false
  noSlash : '/' ∉ name.toList

variable {name : String}

theorem IsName.ne_nil (h : IsName name) : name.toList ≠ [] := by
  intro hnil
  have hstep := h.step
  rw [hnil] at hstep
  cases hstep

theorem IsName.stepsOf_eq (h : IsName name) : stepsOf [name.toList] = [name] := by
  simp [stepsOf, h.step]

/-- The text of a joined path: the name alone, or the directory's text with one slash
between them. -/
theorem toList_join (h : IsName name) (directory : String) :
    (directory.toList = [] ∧ (join directory name).toList = name.toList) ∨
      ∃ xs, (join directory name).toList = xs ++ '/' :: name.toList ∧
        stepsOf (Text.split '/' directory.toList) = stepsOf (Text.split '/' xs) ∧
        directory.toList.head? = (xs ++ ['/']).head? := by
  have hhead : name.toList.head? ≠ some '/' := fun hhead =>
    h.noSlash (List.mem_of_head? hhead)
  rw [join, if_neg hhead]
  by_cases hempty : directory = ""
  · left
    simp [hempty]
  · right
    have hne : directory.toList ≠ [] := by simpa using hempty
    by_cases hslash : directory.toList.getLast? = some '/'
    · obtain ⟨xs, hxs⟩ := List.getLast?_eq_some_iff.1 hslash
      refine ⟨xs, ?_, ?_, by rw [hxs]⟩
      · rw [if_pos (.inr hslash), String.toList_append, hxs, List.append_assoc,
          List.singleton_append]
      · simp [hxs, Text.split_append_cons, Text.split, stepsOf, isIdle]
    · refine ⟨directory.toList, ?_, rfl, ?_⟩
      · rw [if_neg (by simp [hempty, hslash])]
        simp
      · rw [List.head?_append_of_ne_nil _ hne]

/-- A joined path takes the steps of the directory and then one to the name. -/
theorem parse?_join (h : IsName name) (directory : String) :
    Path.parse? (join directory name) =
      some ⟨directory.toList.head? = some '/',
        stepsOf (Text.split '/' directory.toList) ++ [name], .name⟩ := by
  have hname := Text.split_of_not_mem h.noSlash
  rcases toList_join h directory with ⟨hempty, htext⟩ | ⟨xs, htext, hsteps, hhead⟩
  · have hhead : name.toList.head? ≠ some '/' := fun hhead =>
      h.noSlash (List.mem_of_head? hhead)
    have hending : endingOf [name.toList] = .name := endingOf_append_singleton h.step []
    rw [parse?_eq (by rw [htext]; exact h.ne_nil), htext, hname, hempty, h.stepsOf_eq]
    simp [hhead, hending, Text.split, stepsOf, isIdle]
  · have hstart : (xs ++ '/' :: name.toList).head? = (xs ++ ['/']).head? := by
      cases xs <;> rfl
    rw [parse?_eq (by simp [htext]), htext, Text.split_append_cons, hname,
      endingOf_append_singleton h.step, stepsOf_append, h.stepsOf_eq, hsteps, hhead, hstart]

theorem stepsOf_map_toList {steps : List String} (h : ∀ step ∈ steps, IsName step) :
    stepsOf (steps.map String.toList) = steps := by
  induction steps with
  | nil => rfl
  | cons step steps ih =>
      obtain ⟨hstep, hsteps⟩ := List.forall_mem_cons.1 h
      rw [List.map_cons, ← List.singleton_append, stepsOf_append, hstep.stepsOf_eq, ih hsteps,
        List.singleton_append]

/-- The path from the root through names takes these names as its steps. -/
theorem stepsOf_split_absolutePath {steps : List String} (h : ∀ step ∈ steps, IsName step) :
    stepsOf (Text.split '/' (absolutePath steps).toList) = steps := by
  have htext : (absolutePath steps).toList =
      [] ++ '/' :: List.intercalate ['/'] (steps.map String.toList) := by
    simp [absolutePath]
  have hroot : stepsOf [[]] = [] := rfl
  rw [htext, Text.split_append_cons, stepsOf_append, Text.split, hroot, List.nil_append]
  by_cases hne : steps = []
  · rw [hne]
    rfl
  · rw [Text.split_intercalate (by simpa using hne), stepsOf_map_toList h]
    intro part hpart
    obtain ⟨step, hstep, rfl⟩ := List.mem_map.1 hpart
    exact (h step hstep).noSlash

/-! ## Parents -/

/-- The text of a parent: all parts but the last, without those at the end that are no step. -/
theorem parent?_eq {path : String} {first : List Char} {parts : List (List Char)}
    (h : IsName name) (hsplit : Text.split '/' path.toList = first :: (parts ++ [name.toList])) :
    parent? path = some (String.ofList
      (if first = [] ∧ dropIdleEnd parts = [] then ['/']
        else List.intercalate ['/'] (first :: dropIdleEnd parts))) := by
  have hdrop := dropIdleEnd_append_singleton h.step parts
  have hlast : (parts ++ [name.toList]).dropLast = parts := List.dropLast_concat
  obtain ⟨second, rest, hrest⟩ := List.exists_cons_of_ne_nil
    (List.append_ne_nil_of_right_ne_nil parts (List.cons_ne_nil name.toList []))
  rw [hrest] at hsplit hdrop hlast
  rw [parent?, hsplit]
  cases first with
  | nil =>
      simp only [hdrop, hlast]
      cases hkept : dropIdleEnd parts with
      | nil => rfl
      | cons p ps => simp [joinParts]
  | cons c cs =>
      simp only [hdrop, hlast]
      rfl

theorem intercalate_ne_nil {first : List Char} {parts : List (List Char)}
    (h : ¬ (first = [] ∧ parts = [])) : List.intercalate ['/'] (first :: parts) ≠ [] := by
  cases parts with
  | nil =>
      rw [List.intercalate_singleton]
      exact fun hnil => h ⟨hnil, rfl⟩
  | cons second rest => simp

theorem head?_intercalate_append (first : List Char) (parts : List (List Char)) :
    (List.intercalate ['/'] (first :: parts) ++ ['/']).head? = (first ++ ['/']).head? := by
  cases parts with
  | nil => rw [List.intercalate_singleton]
  | cons second rest =>
      rw [List.intercalate_cons_cons, List.append_assoc, List.head?_append_of_ne_nil _ (by simp)]

/-- Parsed, the text of a parent takes the steps of its parts. -/
theorem parse?_parent {first : List Char} {parts : List (List Char)}
    (hfirst : '/' ∉ first) (hparts : ∀ part ∈ parts, '/' ∉ part) :
    ∃ ending, Path.parse? (String.ofList
        (if first = [] ∧ dropIdleEnd parts = [] then ['/']
          else List.intercalate ['/'] (first :: dropIdleEnd parts))) =
      some ⟨(first ++ ['/']).head? = some '/', stepsOf (first :: parts), ending⟩ ∧
      (ending = .dot → stepsOf (first :: parts) = []) := by
  have hsteps : stepsOf (first :: parts) = stepsOf (first :: dropIdleEnd parts) := by
    rw [← List.singleton_append, stepsOf_append, ← stepsOf_dropIdleEnd parts, ← stepsOf_append,
      List.singleton_append]
  by_cases hroot : first = [] ∧ dropIdleEnd parts = []
  · refine ⟨.slash, ?_, fun hdot => nomatch hdot⟩
    rw [if_pos hroot, hsteps, hroot.1, hroot.2]
    rfl
  · have hsplit : Text.split '/' (List.intercalate ['/'] (first :: dropIdleEnd parts)) =
        first :: dropIdleEnd parts := by
      refine Text.split_intercalate (List.cons_ne_nil _ _) ?_
      rw [List.forall_mem_cons]
      exact ⟨hfirst, fun part hpart => hparts part ((dropIdleEnd_isPrefix parts).subset hpart)⟩
    have hne := intercalate_ne_nil hroot
    have hhead : (List.intercalate ['/'] (first :: dropIdleEnd parts)).head? =
        (first ++ ['/']).head? := by
      rw [← head?_intercalate_append first (dropIdleEnd parts), List.head?_append_of_ne_nil _ hne]
    refine ⟨endingOf (first :: dropIdleEnd parts), ?_, ?_⟩
    · rw [if_neg hroot, parse?_eq (by rwa [String.toList_ofList]), String.toList_ofList, hsplit,
        hhead, hsteps]
    · intro hdot
      rw [hsteps]
      by_cases hkept : dropIdleEnd parts = []
      · rw [hkept] at hdot ⊢
        cases hidle : isIdle first with
        | true => simp [stepsOf, hidle]
        | false =>
            have hending : endingOf [first] = .name := endingOf_append_singleton hidle []
            rw [hending] at hdot
            cases hdot
      · rw [endingOf_cons_dropIdleEnd hkept] at hdot
        cases hdot

/-- The parent of a joined path takes the steps of the directory, and it is written in a
part of the path's text. It ends in a dot only if it takes no step. -/
theorem exists_parent?_join (h : IsName name) (directory : String) :
    ∃ parent, parent? (join directory name) = some parent ∧
      parent.toList <+: (join directory name).toList ∧
      ((parent = "" ∧ directory.toList = []) ∨ ∃ ending,
        Path.parse? parent = some ⟨directory.toList.head? = some '/',
          stepsOf (Text.split '/' directory.toList), ending⟩ ∧
        (ending = .dot → stepsOf (Text.split '/' directory.toList) = [])) := by
  rcases toList_join h directory with ⟨hempty, htext⟩ | ⟨xs, htext, hsteps, hhead⟩
  · refine ⟨"", ?_, List.nil_prefix, .inl ⟨rfl, hempty⟩⟩
    rw [parent?, htext, Text.split_of_not_mem h.noSlash]
    obtain ⟨c, cs, hcs⟩ := List.exists_cons_of_ne_nil h.ne_nil
    rw [hcs]
    rfl
  · obtain ⟨first, parts, hxs⟩ := List.exists_cons_of_ne_nil (Text.split_ne_nil '/' xs)
    have htextOf : List.intercalate ['/'] (first :: parts) = xs := by
      rw [← hxs, Text.intercalate_split]
    have hsplit : Text.split '/' (join directory name).toList =
        first :: (parts ++ [name.toList]) := by
      rw [htext, Text.split_append_cons, hxs, Text.split_of_not_mem h.noSlash, List.cons_append]
    have hslash : ∀ part ∈ first :: parts, '/' ∉ part := fun part hpart =>
      Text.not_mem_of_mem_split (hxs ▸ hpart)
    have hstart : (xs ++ ['/']).head? = (first ++ ['/']).head? := by
      rw [← htextOf, head?_intercalate_append]
    rw [List.forall_mem_cons] at hslash
    refine ⟨_, parent?_eq h hsplit, ?_, .inr ?_⟩
    · rw [String.toList_ofList, htext]
      split
      · rename_i hroot
        rw [hroot.1] at hstart
        cases xs with
        | nil => exact List.prefix_append ['/'] name.toList
        | cons c cs =>
            cases hstart
            exact List.prefix_append ['/'] (cs ++ '/' :: name.toList)
      · refine List.IsPrefix.trans ?_ (List.prefix_append xs _)
        rw [← htextOf]
        refine Text.intercalate_isPrefix ?_
        exact (List.prefix_cons_inj first).2 (dropIdleEnd_isPrefix parts)
    · rw [hsteps, hhead, hstart, hxs]
      exact parse?_parent hslash.1 hslash.2

end Files

end TronWallet
