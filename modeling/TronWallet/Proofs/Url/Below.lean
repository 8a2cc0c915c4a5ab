import Mathlib.Data.List.DropRight
import TronWallet.Proofs.Files.Joining
import TronWallet.Proofs.Text.Cutting
import TronWallet.Url.Reading

/-!
# Places below a place

A URL of the web that ends in a slash names a place, and a text after it is read as the
segments of a path below that place (`exists_parse?_append`), if nothing in the text means
anything else to a reader of URLs: see `Plain`. All that is read before the text stays as it
is. So the target of the whole is that of the place and the text with its reserved characters
escaped.
-/

namespace TronWallet

namespace Url

variable {scheme : String} {authority : Authority} {path : Path} {front rest xs ys : List Char}

/-- Nothing in the text means anything to a reader of URLs but that a slash begins a segment:
no character ends the path or is left out, and no segment stands for a place above or within. -/
structure Plain (cs : List Char) : Prop where
  characters : ∀ c ∈ cs, c ∉ ['#', '?', '\\', '\t', '\n', '\r']
  segments : ∀ segment ∈ (Text.split '/' cs).map (escape reservedInPath),
    Path.isDot segment = false ∧ Path.isDoubleDot segment = false

/-- The test of a text for being plain. -/
def isPlain (cs : List Char) : Bool :=
  (cs.all fun c => c ∉ ['#', '?', '\\', '\t', '\n', '\r']) &&
    ((Text.split '/' cs).map (escape reservedInPath)).all fun segment =>
      !Path.isDot segment && !Path.isDoubleDot segment

theorem isPlain_iff {cs : List Char} : isPlain cs = true ↔ Plain cs := by
  simp only [isPlain, Bool.and_eq_true, List.all_eq_true, decide_eq_true_eq, Bool.not_eq_true']
  exact ⟨fun h => ⟨h.1, h.2⟩, fun h => ⟨h.characters, h.segments⟩⟩

instance (cs : List Char) : Decidable (Plain cs) :=
  decidable_of_iff _ isPlain_iff

/-- Does the text end in a character that is no blank, if it ends in one? -/
def EndsVisibly (cs : List Char) : Prop :=
  ∀ c ∈ cs.getLast?, ¬ c ≤ ' '

theorem plain_nil : Plain [] := by
  decide

theorem endsVisibly_nil : EndsVisibly [] := by
  simp [EndsVisibly]

theorem Plain.append (hxs : Plain xs) (hys : Plain ys) : Plain (xs ++ '/' :: ys) where
  characters := by
    rw [List.forall_mem_append, List.forall_mem_cons]
    exact ⟨hxs.characters, by decide, hys.characters⟩
  segments := by
    rw [Text.split_append_cons, List.map_append, List.forall_mem_append]
    exact ⟨hxs.segments, hys.segments⟩

theorem EndsVisibly.append (hys : EndsVisibly ys) : EndsVisibly (xs ++ '/' :: ys) := by
  cases ys with
  | nil => simp [EndsVisibly]
  | cons y ys => simpa [EndsVisibly] using hys

/-! ## The text as a whole -/

theorem tidy_append (hxs : Plain xs) (hend : EndsVisibly xs) :
    tidy (front ++ '/' :: xs) =
      (front.dropWhile fun c => decide (c ≤ ' ')).filter (fun c => c ∉ ['\t', '\n', '\r']) ++
        '/' :: xs := by
  have hstart := @Text.dropWhile_append_cons (fun c => decide (c ≤ ' ')) '/' (by decide) front xs
  have hlast : ∀ start : List Char,
      (start ++ '/' :: xs).rdropWhile (fun c => decide (c ≤ ' ')) = start ++ '/' :: xs := by
    intro start
    rw [List.rdropWhile_eq_self_iff]
    intro hne
    simpa using @EndsVisibly.append start _ hend _ (List.getLast?_eq_some_getLast hne)
  have hkept : ('/' :: xs).filter (fun c => c ∉ ['\t', '\n', '\r']) = '/' :: xs := by
    rw [List.filter_eq_self, List.forall_mem_cons]
    refine ⟨by decide, fun c hc => ?_⟩
    have hplain := hxs.characters c hc
    simp only [List.mem_cons, not_or] at hplain
    simp [hplain]
  rw [tidy]
  simp only [hstart]
  change (List.rdropWhile _ _).filter _ = _
  rw [hlast, List.filter_append, hkept]

/-- A scheme ends before the first slash. -/
theorem readScheme?_append (h : readScheme? (front ++ ['/']) = some (scheme, rest)) :
    ∃ before, rest = before ++ ['/'] ∧
      ∀ xs, readScheme? (front ++ '/' :: xs) = some (scheme, before ++ '/' :: xs) := by
  have hslash : inScheme '/' = false := by decide
  have htake := fun xs => Text.takeWhile_append_cons hslash front xs
  have hdrop := fun xs => Text.dropWhile_append_cons hslash front xs
  rw [readScheme?, htake, hdrop] at h
  simp only [readScheme?, htake, hdrop]
  cases hbefore : front.dropWhile inScheme with
  | nil =>
      rw [hbefore] at h
      split at h <;> simp_all
  | cons c before =>
      rw [hbefore] at h
      split at h
      · rename_i first others after hname heq
        cases heq
        split at h
        · rename_i hletter
          cases h
          exact ⟨before, rfl, fun xs => by simp [hname, hletter]⟩
        · cases h
      · cases h

theorem cut_of_not_mem {mark : Char} (h : mark ∉ xs) : cut mark xs = (xs, none) := by
  have hall : ∀ c ∈ xs, decide (c ≠ mark) = true := fun c hc => by
    simpa using fun heq : c = mark => h (heq ▸ hc)
  rw [cut, List.takeWhile_eq_self_iff.2 hall, List.dropWhile_eq_nil_iff.2 hall]

theorem not_mem_of_cut {mark : Char} (h : (cut mark xs).2 = none) : mark ∉ xs := by
  intro hmark
  rw [cut] at h
  split at h
  · rename_i hnil
    simpa using List.dropWhile_eq_nil_iff.1 hnil mark hmark
  · cases h

/-- What is read where neither a query nor a fragment is. -/
theorem parse?_eq_some_iff {source : String} {u : Url} (hquery : u.query = none)
    (hfragment : u.fragment = none) :
    parse? source = some u ↔
      ∃ rest, readScheme? (tidy source.toList) = some (u.scheme, rest) ∧ '#' ∉ rest ∧
        '?' ∉ rest ∧ readHierarchy? u.scheme rest = some (u.authority, u.path) := by
  constructor
  · intro h
    obtain ⟨⟨scheme, rest⟩, hscheme, h⟩ := Option.bind_eq_some_iff.1 h
    obtain ⟨⟨authority, path⟩, hhierarchy, h⟩ := Option.bind_eq_some_iff.1 h
    cases h
    have hmark : '#' ∉ rest := not_mem_of_cut (Option.map_eq_none_iff.1 hfragment)
    have hquestion : '?' ∉ (cut '#' rest).1 := not_mem_of_cut (Option.map_eq_none_iff.1 hquery)
    have hwhole : readHierarchy? scheme (cut '?' (cut '#' rest).1).1 = some (authority, path) :=
      hhierarchy
    rw [cut_of_not_mem hquestion, cut_of_not_mem hmark] at hwhole
    rw [cut_of_not_mem hmark] at hquestion
    exact ⟨rest, hscheme, hmark, hquestion, hwhole⟩
  · rintro ⟨rest, hscheme, hmark, hquestion, hhierarchy⟩
    obtain ⟨scheme, authority, path, query, fragment⟩ := u
    cases hquery
    cases hfragment
    simp [parse?, hscheme, cut_of_not_mem hmark, cut_of_not_mem hquestion, hhierarchy]

/-! ## The path -/

/-- Segments that stand for no dots are taken one after the other. -/
theorem resolveDots_of_plain {segments : List (List Char)}
    (h : ∀ segment ∈ segments, Path.isDot segment = false ∧ Path.isDoubleDot segment = false)
    (taken : List (List Char)) : Path.resolveDots false taken segments = taken ++ segments := by
  induction segments generalizing taken with
  | nil => simp [Path.resolveDots]
  | cons s segments ih =>
      obtain ⟨⟨hdot, hdouble⟩, hrest⟩ := List.forall_mem_cons.1 h
      cases segments with
      | nil => simp [Path.resolveDots, hdot, hdouble, Path.within]
      | cons t rest => simp [Path.resolveDots, hdot, hdouble, Path.within, ih hrest]

/-- What comes of the segments before others is settled by them. -/
theorem exists_resolveDots_append (taken before : List (List Char)) :
    ∃ resolved, ∀ segments, segments ≠ [] →
      (∀ segment ∈ segments, Path.isDot segment = false ∧ Path.isDoubleDot segment = false) →
      Path.resolveDots false taken (before ++ segments) = resolved ++ segments := by
  induction before generalizing taken with
  | nil => exact ⟨taken, fun segments _ h => resolveDots_of_plain h taken⟩
  | cons s before ih =>
      obtain ⟨resolved, hresolved⟩ := ih
        (if Path.isDoubleDot s then Path.above taken
          else if Path.isDot s then taken else taken ++ [s])
      refine ⟨resolved, fun segments hne h => ?_⟩
      rw [← hresolved segments hne h]
      obtain ⟨t, rest, hrest⟩ := List.exists_cons_of_ne_nil
        (List.append_ne_nil_of_right_ne_nil before hne)
      rw [List.cons_append, hrest, Path.resolveDots]
      split
      · rfl
      · split <;> simp [Path.within]

theorem exists_readPath_append (before : List Char) :
    ∃ segments, ∀ xs, Plain xs → readPath true (before ++ '/' :: xs) =
      .segments (segments ++ (Text.split '/' xs).map (escape reservedInPath)) := by
  have hsegments : ∀ parts : List (List Char), ∃ segments, ∀ xs, Plain xs →
      Path.resolveDots false [] ((parts ++ Text.split '/' xs).map (escape reservedInPath)) =
        segments ++ (Text.split '/' xs).map (escape reservedInPath) := by
    intro parts
    obtain ⟨segments, h⟩ := exists_resolveDots_append [] (parts.map (escape reservedInPath))
    refine ⟨segments, fun xs hxs => ?_⟩
    rw [List.map_append]
    exact h _ (by simpa using Text.split_ne_nil '/' xs) hxs.segments
  -- A slash at the start of the path begins its first segment.
  have hparts : ∃ parts : List (List Char), ∀ xs, readPath true (before ++ '/' :: xs) =
      .segments (Path.resolveDots false []
        ((parts ++ Text.split '/' xs).map (escape reservedInPath))) := by
    cases before with
    | nil => exact ⟨[], fun xs => rfl⟩
    | cons c before =>
        by_cases hslash : c = '/'
        · refine ⟨Text.split '/' before, fun xs => ?_⟩
          rw [hslash, ← Text.split_append_cons]
          rfl
        · refine ⟨Text.split '/' (c :: before), fun xs => ?_⟩
          rw [← Text.split_append_cons, List.cons_append, readPath]
          · rfl
          · exact List.cons_ne_nil _ _
          · exact fun rest heq => hslash (List.cons.inj heq).1
  obtain ⟨parts, hparts⟩ := hparts
  obtain ⟨segments, hsegments⟩ := hsegments parts
  exact ⟨segments, fun xs hxs => by rw [hparts, hsegments xs hxs]⟩

/-! ## The authority -/

theorem readAuthority?_nil (hweb : isWebScheme scheme = true) :
    readAuthority? scheme [] = none := by
  simp [readAuthority?, cutUser?, cutPort, hweb]

/-- An authority ends before the first slash. -/
theorem exists_readPlace?_append (hweb : isWebScheme scheme = true) {before : List Char}
    (h : readPlace? scheme (before ++ ['/']) = some (authority, path)) :
    ∃ segments, ∀ xs, Plain xs → readPlace? scheme (before ++ '/' :: xs) = some (authority,
      .segments (segments ++ (Text.split '/' xs).map (escape reservedInPath))) := by
  have htake := @Text.takeWhile_append_cons (fun c => decide (c ≠ '/')) '/' (by decide) before
  have hdrop := @Text.dropWhile_append_cons (fun c => decide (c ≠ '/')) '/' (by decide) before
  obtain ⟨⟨found, left⟩, hauthority, hpath⟩ := Option.bind_eq_some_iff.1 h
  cases hpath
  rw [htake] at hauthority
  obtain ⟨segments, hsegments⟩ := exists_readPath_append (left ++ before.dropWhile (· ≠ '/'))
  refine ⟨segments, fun xs hxs => ?_⟩
  rw [readPlace?, htake, hdrop, hauthority, ← hsegments xs hxs, hweb, List.append_assoc]
  rfl

/-- A text with slashes for its backslashes. -/
def slashed (cs : List Char) : List Char :=
  cs.map fun c => if c = '\\' then '/' else c

theorem slashed_append (before : List Char) (hxs : Plain xs) :
    slashed (before ++ '/' :: xs) = slashed before ++ '/' :: xs := by
  have hsame : slashed xs = xs := by
    refine (List.map_congr_left fun c hc => ?_).trans (List.map_id xs)
    have hplain := hxs.characters c hc
    simp only [List.mem_cons, not_or] at hplain
    simp [hplain]
  calc slashed (before ++ '/' :: xs) = slashed before ++ '/' :: slashed xs := by simp [slashed]
    _ = slashed before ++ '/' :: xs := by rw [hsame]

theorem readHierarchy?_of_web (hweb : isWebScheme scheme = true) (hfile : scheme ≠ "file")
    (cs : List Char) :
    readHierarchy? scheme cs =
      (readPlace? scheme ((slashed cs).dropWhile (· = '/'))).map fun (a, p) => (some a, p) := by
  simp only [readHierarchy?, hfile, hweb, if_true, if_false, slashed]

/-- The slashes before an authority are dropped, and there has to be one. -/
theorem exists_readHierarchy?_append (hscheme : scheme = "http" ∨ scheme = "https")
    {authority : Option Authority} {before : List Char}
    (h : readHierarchy? scheme (before ++ ['/']) = some (authority, path)) :
    ∃ segments, ∀ xs, Plain xs → readHierarchy? scheme (before ++ '/' :: xs) = some (authority,
      .segments (segments ++ (Text.split '/' xs).map (escape reservedInPath))) := by
  have hfile : scheme ≠ "file" := by rcases hscheme with rfl | rfl <;> decide
  have hweb : isWebScheme scheme = true := by rcases hscheme with rfl | rfl <;> decide
  have hread := readHierarchy?_of_web hweb hfile
  have hhost : (slashed before).dropWhile (· = '/') ≠ [] := by
    intro hnil
    have hnothing : readPlace? scheme [] = none := by
      rw [readPlace?, List.takeWhile_nil, readAuthority?_nil hweb]
      rfl
    rw [hread, slashed_append before plain_nil, List.dropWhile_append, hnil] at h
    simp [hnothing] at h
  have hdrop : ∀ xs, Plain xs → (slashed (before ++ '/' :: xs)).dropWhile (· = '/') =
      (slashed before).dropWhile (· = '/') ++ '/' :: xs := by
    intro xs hxs
    rw [slashed_append before hxs, List.dropWhile_append, if_neg (by simpa using hhost)]
  rw [hread, hdrop [] plain_nil, Option.map_eq_some_iff] at h
  obtain ⟨⟨found, read⟩, hplace, heq⟩ := h
  cases heq
  obtain ⟨segments, hsegments⟩ := exists_readPlace?_append hweb hplace
  refine ⟨segments, fun xs hxs => ?_⟩
  rw [hread, hdrop xs hxs, hsegments xs hxs]
  rfl

/-! ## The whole URL -/

/-- A base with a slash after it is the URL of a place on the web. -/
structure IsPlace (base : String) (place : Url) : Prop where
  parsed : parse? (base ++ "/") = some place
  scheme : place.scheme = "http" ∨ place.scheme = "https"
  query : place.query = none
  fragment : place.fragment = none

variable {base text : String} {place : Url}

/-- A plain text after the slash that ends the URL of a place is read as segments of the path. -/
theorem exists_parse?_append (h : IsPlace base place) :
    ∃ segments, ∀ text : String, Plain text.toList → EndsVisibly text.toList →
      parse? (base ++ "/" ++ text) = some { place with
        path := .segments
          (segments ++ (Text.split '/' text.toList).map (escape reservedInPath)) } := by
  have htoList : ∀ text : String,
      (base ++ "/" ++ text).toList = base.toList ++ '/' :: text.toList := by simp
  obtain ⟨rest, hread, hmark, hquestion, hhierarchy⟩ :=
    (parse?_eq_some_iff h.query h.fragment).1 h.parsed
  rw [show (base ++ "/").toList = base.toList ++ ['/'] by simp,
    tidy_append plain_nil endsVisibly_nil] at hread
  obtain ⟨before, rfl, hbefore⟩ := readScheme?_append hread
  obtain ⟨segments, hsegments⟩ := exists_readHierarchy?_append h.scheme hhierarchy
  refine ⟨segments, fun text htext hend => ?_⟩
  have hfree : ∀ mark ∈ ['#', '?'], mark ∉ before ++ ['/'] →
      mark ∉ before ++ '/' :: text.toList := by
    intro mark hspecial hnot hmem
    rw [List.append_cons, List.mem_append] at hmem
    rcases hmem with hfront | hback
    · exact hnot hfront
    · exact htext.characters mark hback ((List.prefix_append ['#', '?'] _).subset hspecial)
  rw [parse?_eq_some_iff]
  · refine ⟨before ++ '/' :: text.toList, ?_, hfree _ (by simp) hmark,
      hfree _ (by simp) hquestion, hsegments text.toList htext⟩
    rw [htoList, tidy_append htext hend]
    exact hbefore text.toList
  · exact h.query
  · exact h.fragment

/-! ## What a request names -/

theorem flatMap_split_escape {reserved : Char → Bool} (h : reserved '/' = false) (cs : List Char) :
    ((Text.split '/' cs).map (escape reserved)).flatMap ('/' :: ·) = '/' :: escape reserved cs := by
  induction cs with
  | nil => rfl
  | cons c cs ih =>
      rw [escape_cons, Text.split]
      by_cases hslash : c = '/'
      · simp [hslash, h, ih]
      · obtain ⟨part, parts, hparts⟩ := List.exists_cons_of_ne_nil (Text.split_ne_nil '/' cs)
        rw [hparts, List.map_cons, List.flatMap_cons, List.cons_append, List.cons.injEq] at ih
        rw [if_neg hslash, hparts]
        simp [escape_cons, ← ih.2]

@[simp] theorem target_carried (u : Url) : u.carried.target = u.target := by
  rw [carried]
  split <;> rfl

/-- The target of a place below a place: that of the place, and the text escaped. -/
theorem exists_target_append (h : IsPlace base place) (htext : Plain text.toList)
    (hend : EndsVisibly text.toList) :
    ∃ below, parse? (base ++ "/" ++ text) = some below ∧
      below.target = place.target ++ escape reservedInPath text.toList := by
  obtain ⟨segments, hsegments⟩ := exists_parse?_append h
  have hself : place = { place with path := .segments (segments ++ [[]]) } := by
    have hempty := hsegments "" plain_nil endsVisibly_nil
    rw [String.append_empty, h.parsed] at hempty
    exact Option.some.inj hempty
  have hpath : ∀ cs, Path.text (.segments
      (segments ++ (Text.split '/' cs).map (escape reservedInPath))) =
        segments.flatMap ('/' :: ·) ++ '/' :: escape reservedInPath cs := by
    intro cs
    rw [Path.text, List.flatMap_append, flatMap_split_escape (by decide)]
  have hplace : place.target = segments.flatMap ('/' :: ·) ++ ['/'] := by
    rw [hself, target, h.query]
    exact (List.append_nil _).trans (hpath [])
  refine ⟨_, hsegments text htext hend, ?_⟩
  rw [hplace, target, hpath, h.query]
  simp [marked]

end Url

end TronWallet
