import TronWallet.Proofs.Json.Members
import TronWallet.Release.Payload

/-!
# Releases and tags by their known members

The decoders of assets, releases, tags and of the object that a tag names all fill slots, one for
each member they know. So an object that keeps the known members of another is decoded to the
same (`Asset.ofReading_of_alike`), and one that leaves some of them out to what is left `without`
them: defaults, or the refusal for a member that has none (`Latest.parse_of_restates`,
`Tag.parse_of_restates`). The assets of a release and the object of a tag are objects again,
which may be restated in the same way.
-/

namespace TronWallet.Release

open Json (Reading Refusal Slot Fills Keeps KeepsObject required required_eq_ok_iff getD_ite_none)

variable {left : List String} {r r' : Reading}

/-! ## Assets -/

namespace Asset

/-- The members of an asset. -/
def known : List String :=
  ["id", "name", "size", "browser_download_url"]

def slots : List (Slot Members) :=
  [⟨"id", Reading.asNatural, Members.id, fun m a => { m with id := a }⟩,
    ⟨"name", Reading.asText, Members.name, fun m a => { m with name := a }⟩,
    ⟨"size", Reading.asNatural, Members.size, fun m a => { m with size := a }⟩,
    ⟨"browser_download_url", Reading.asText, Members.url, fun m a => { m with url := a }⟩]

theorem fills : Fills Members.add slots where
  own := by simp [slots, Members.add]
  unknown := by
    intro key hkey m r
    simp only [slots, List.map_cons, List.map_nil, List.mem_cons, List.not_mem_nil, not_or] at hkey
    simp [Members.add, hkey]
  keyless _ _ := rfl
  get_set := by simp [slots]
  get_set_other := by simp [slots]

/-- Values that stand for the same asset: they are the same, or objects with the same known
members. -/
def Alike (r r' : Reading) : Prop :=
  r = r' ∨ KeepsObject known [] r r'

theorem ofReading_of_alike {asset : Asset} (h : Alike r r') (hwell : r'.wellFormed = true)
    (hr : ofReading r = .ok asset) : ofReading r' = .ok asset := by
  rcases h with rfl | ⟨members, members', rfl, rfl, hkeeps⟩
  · exact hr
  · obtain ⟨m, hfold, hasset⟩ := Except.bind_eq_ok_iff.1 hr
    obtain ⟨m', hfold', hslots⟩ := hkeeps.exists_foldlM fills rfl hwell
      (fun s _ _ => s.respects_eq) (by simp [slots]) hfold
    have heq : m' = m := by
      obtain ⟨id, name, size, url⟩ := m
      obtain ⟨id', name', size', url'⟩ := m'
      simpa [slots] using hslots
    rw [ofReading, hfold', heq]
    exact hasset

end Asset

/-! ## Releases -/

namespace Latest

/-- The members of a release. -/
def known : List String :=
  ["prerelease", "tag_name", "target_commitish", "created_at", "assets"]

def slots : List (Slot Members) :=
  [⟨"prerelease", Reading.asBoolean, Members.prerelease, fun m a => { m with prerelease := a }⟩,
    ⟨"tag_name", Reading.asText, Members.tagName, fun m a => { m with tagName := a }⟩,
    ⟨"target_commitish", Reading.asText, Members.targetCommitish,
      fun m a => { m with targetCommitish := a }⟩,
    ⟨"created_at", Reading.asInstant?, Members.createdAt, fun m a => { m with createdAt := a }⟩,
    ⟨"assets", Reading.asList Asset.ofReading, Members.assets, fun m a => { m with assets := a }⟩]

theorem fills : Fills Members.add slots where
  own := by simp [slots, Members.add]
  unknown := by
    intro key hkey m r
    simp only [slots, List.map_cons, List.map_nil, List.mem_cons, List.not_mem_nil, not_or] at hkey
    simp [Members.add, hkey]
  keyless _ _ := rfl
  get_set := by simp [slots]
  get_set_other := by simp [slots]

/-- Values of a member that stand for the same: assets one by one, all others as they are. -/
def Alike (key : String) (r r' : Reading) : Prop :=
  if key = "assets" then
    ∃ items items', r = .array items ∧ r' = .array items' ∧ List.Forall₂ Asset.Alike items items'
  else r = r'

theorem mapM_ofReading_of_forall₂ {items items' : List Reading} {assets : List Asset}
    (h : List.Forall₂ Asset.Alike items items') (hwell : Reading.wellFormedItems items' = true)
    (hitems : items.mapM Asset.ofReading = .ok assets) :
    items'.mapM Asset.ofReading = .ok assets := by
  induction h generalizing assets with
  | nil => exact hitems
  | cons halike _ ih =>
      rw [Reading.wellFormedItems, Bool.and_eq_true] at hwell
      simp only [List.mapM_cons, Except.bind_eq_ok_iff] at hitems ⊢
      obtain ⟨asset, hasset, assets, hassets, hcons⟩ := hitems
      exact ⟨asset, Asset.ofReading_of_alike halike hwell.1 hasset, assets, ih hwell.2 hassets,
        hcons⟩

theorem respects : ∀ s ∈ slots, s.Respects Alike := by
  have hassets : Slot.Respects ⟨"assets", Reading.asList Asset.ofReading, Members.assets,
      fun m a => { m with assets := a }⟩ Alike := by
    rintro _ _ assets ⟨items, items', rfl, rfl, hitems⟩ hwell h
    exact mapM_ofReading_of_forall₂ hitems hwell h
  simp only [slots, List.forall_mem_cons, List.not_mem_nil, false_imp_iff, implies_true, and_true]
  refine ⟨?_, ?_, ?_, ?_, hassets⟩
  all_goals
    rintro r r' a halike - h
    obtain rfl : r = r' := halike
    exact h

/-- What is left of a release without some of its members. All but the name of its tag have
defaults. -/
def without (left : List String) (release : Latest) : Except Refusal Latest :=
  if "tag_name" ∈ left then .error (.mismatch (.missingField "tag_name"))
  else
    .ok
      { prerelease := if "prerelease" ∈ left then false else release.prerelease
        tagName := release.tagName
        targetCommitish := if "target_commitish" ∈ left then "" else release.targetCommitish
        createdAt := if "created_at" ∈ left then none else release.createdAt
        assets := if "assets" ∈ left then [] else release.assets }

theorem ofReading_of_keeps {members members' : List (Option String × Reading)} {release : Latest}
    (h : Keeps known left Alike members members')
    (hwell : Reading.wellFormedMembers members' = true)
    (hr : ofReading (.object members) = .ok release) :
    ofReading (.object members') = release.without left := by
  obtain ⟨m, hfold, hrelease⟩ := Except.bind_eq_ok_iff.1 hr
  obtain ⟨m', hfold', hslots⟩ := h.exists_foldlM fills rfl hwell
    (fun s hs _ => respects s hs) (by simp [slots]) hfold
  obtain ⟨tagName, htag, rfl⟩ := Except.map_eq_ok_iff.1 hrelease
  simp only [slots, List.forall_mem_cons, List.not_mem_nil, false_imp_iff, implies_true, and_true]
    at hslots
  obtain ⟨hprerelease, hname, hcommitish, hcreated, hassets⟩ := hslots
  have hrelease' : ofReading (.object members') = m'.release := by
    rw [ofReading, hfold']
    rfl
  rw [required_eq_ok_iff] at htag
  rw [hrelease', Members.release, hprerelease, hname, hcommitish, hcreated, hassets, without, htag]
  by_cases hleft : "tag_name" ∈ left
  · simp [hleft, required, Except.map]
  · simp [hleft, required, Except.map, getD_ite_none]

/-- A text has the members of a release that another text has, but for those left out. -/
def Restates (left : List String) : String → String → Prop :=
  Json.Restates known left Alike

theorem parse_of_restates {text text' : String} {release : Latest} (h : Restates left text text')
    (hr : parse text = .ok release) : parse text' = release.without left := by
  obtain ⟨members, members', hkeeps, hwell, htext, htext'⟩ := h.exists_keeps ofReading
  rw [parse, htext] at hr
  rw [parse, htext']
  exact ofReading_of_keeps hkeeps hwell hr

end Latest

/-! ## Tags -/

namespace Tag

/-- The members of the object that a tag names. -/
def knownOfObject : List String :=
  ["sha"]

def slotsOfObject : List (Slot (Option String)) :=
  [⟨"sha", Reading.asText, id, fun _ a => a⟩]

theorem fills_addHash : Fills addHash slotsOfObject where
  own := by simp [slotsOfObject, addHash]
  unknown := by
    intro key hkey m r
    simp only [slotsOfObject, List.map_cons, List.map_nil, List.mem_cons, List.not_mem_nil,
      or_false] at hkey
    simp [addHash]
  keyless _ _ := rfl
  get_set := by simp [slotsOfObject]
  get_set_other := by simp [slotsOfObject]

/-- The members of a tag. -/
def known : List String :=
  ["ref", "node_id", "url", "object"]

def objectSlot : Slot Members :=
  ⟨"object", hashOfReading, Members.sha, fun m a => { m with sha := a }⟩

def slots : List (Slot Members) :=
  [⟨"ref", Reading.asText, Members.reference, fun m a => { m with reference := a }⟩,
    ⟨"node_id", Reading.asText, Members.nodeId, fun m a => { m with nodeId := a }⟩,
    ⟨"url", Reading.asText, Members.url, fun m a => { m with url := a }⟩, objectSlot]

theorem fills : Fills Members.add slots where
  own := by simp [slots, objectSlot, Members.add]
  unknown := by
    intro key hkey m r
    simp only [slots, objectSlot, List.map_cons, List.map_nil, List.mem_cons, List.not_mem_nil,
      not_or] at hkey
    simp [Members.add, hkey]
  keyless _ _ := rfl
  get_set := by simp [slots, objectSlot]
  get_set_other := by simp [slots, objectSlot]

/-- Values of a member that stand for the same, but for members left out of the object that a tag
names. -/
def Alike (leftOfObject : List String) (key : String) (r r' : Reading) : Prop :=
  if key = "object" then
    leftOfObject = [] ∧ r = r' ∨ KeepsObject knownOfObject leftOfObject r r'
  else r = r'

/-- What is left of a tag without some of its members and some members of the object it names. An
object is looked into before it is known which members of the tag have occurred. -/
def without (left leftOfObject : List String) (tag : Tag) : Except Refusal Tag :=
  if "object" ∉ left ∧ "sha" ∈ leftOfObject then .error (.mismatch (.missingField "sha"))
  else if "ref" ∈ left then .error (.mismatch (.missingField "ref"))
  else if "object" ∈ left then .error (.mismatch (.missingField "object"))
  else
    .ok
      { reference := tag.reference
        nodeId := if "node_id" ∈ left then "" else tag.nodeId
        url := if "url" ∈ left then "" else tag.url
        sha := tag.sha }

/-! ### The object that a tag names -/

variable {leftOfObject : List String} {sha : String}

theorem hashOfReading_of_keeps (h : KeepsObject knownOfObject leftOfObject r r')
    (hwell : r'.wellFormed = true) (hr : hashOfReading r = .ok sha) :
    hashOfReading r' =
      if "sha" ∈ leftOfObject then .error (.mismatch (.missingField "sha")) else .ok sha := by
  obtain ⟨members, members', rfl, rfl, hkeeps⟩ := h
  obtain ⟨m, hfold, hsha⟩ := Except.bind_eq_ok_iff.1 hr
  obtain ⟨m', hfold', hslots⟩ := hkeeps.exists_foldlM fills_addHash rfl hwell
    (fun s _ _ => s.respects_eq) (by simp [slotsOfObject]) hfold
  have hm' : m' = if "sha" ∈ leftOfObject then none else m := by
    simpa [slotsOfObject] using hslots
  have hread : hashOfReading (.object members') = required "sha" m' := by
    rw [hashOfReading, hfold']
    rfl
  rw [required_eq_ok_iff] at hsha
  rw [hread, hm', hsha]
  split <;> rfl

theorem respects_objectSlot (h : "sha" ∉ leftOfObject) :
    objectSlot.Respects (Alike leftOfObject) := by
  rintro r r' sha (⟨-, rfl⟩ | hkeeps) hwell hr
  · exact hr
  · exact (hashOfReading_of_keeps hkeeps hwell hr).trans (if_neg h)

theorem respects_of_ne {s : Slot Members} (hs : s ∈ slots) (hne : s ≠ objectSlot) :
    s.Respects (Alike leftOfObject) := by
  simp only [slots, List.mem_cons, List.not_mem_nil, or_false, hne] at hs
  rcases hs with rfl | rfl | rfl
  all_goals
    rintro r r' a halike - h
    obtain rfl : r = r' := halike
    exact h

/-! ### The whole tag -/

variable {members members' : List (Option String × Reading)} {tag : Tag}

theorem Members.tag_eq_ok_iff {m : Members} :
    m.tag = .ok tag ↔ m.reference = some tag.reference ∧ m.nodeId.getD "" = tag.nodeId ∧
      m.url.getD "" = tag.url ∧ m.sha = some tag.sha := by
  obtain ⟨reference, nodeId, url, sha⟩ := tag
  cases hreference : m.reference <;> cases hsha : m.sha <;>
    simp [Members.tag, required, hreference, hsha, bind, Except.bind, pure, Except.pure]

theorem get_empty : ∀ s ∈ slots, s.get {} = none := by
  simp [slots, objectSlot]

theorem objectSlot_mem_slots : objectSlot ∈ slots := by
  simp [slots]

theorem refuses_objectSlot (h : Alike leftOfObject "object" r r') (hwell : r'.wellFormed = true)
    (hhash : "sha" ∈ leftOfObject) (hr : hashOfReading r = .ok sha) :
    hashOfReading r' = .error (.mismatch (.missingField "sha")) := by
  rcases h with ⟨rfl, -⟩ | hkeeps
  · cases hhash
  · rw [hashOfReading_of_keeps hkeeps hwell hr, if_pos hhash]

/-- An object without its hash is refused, whatever else is left out of the tag. -/
theorem ofReading_without_hash (h : Keeps known left (Alike leftOfObject) members members')
    (hwell : Reading.wellFormedMembers members' = true) (hobject : "object" ∉ left)
    (hhash : "sha" ∈ leftOfObject) (hr : ofReading (.object members) = .ok tag) :
    ofReading (.object members') = .error (.mismatch (.missingField "sha")) := by
  obtain ⟨m, hfold, htag⟩ := Except.bind_eq_ok_iff.1 hr
  obtain ⟨-, -, -, hsha⟩ := Members.tag_eq_ok_iff.1 htag
  have hslots : ∀ s ∈ slots, members.foldlM s.step none = .ok (s.get m) := by
    intro s hs
    have hslot := fills.step_foldlM hs hfold
    rwa [get_empty s hs] at hslot
  have hobjects : members'.foldlM objectSlot.step none =
      .error (.mismatch (.missingField "sha")) := by
    rcases objectSlot.foldlM_step_eq_ok_iff.1 (hslots _ objectSlot_mem_slots) with
      ⟨-, hnone⟩ | ⟨r, hash, hr, hfield, -⟩
    · cases hsha.symm.trans hnone
    · obtain ⟨r', hr', halike, hwell'⟩ := h.exists_alike hwell (by simp [known]) hobject hr
      rw [objectSlot.foldlM_step_of_occurrences hr']
      exact congrArg (Except.map some) (refuses_objectSlot halike hwell' hhash hfield)
  have hothers : ∀ s ∈ slots, s ≠ objectSlot →
      ∃ slot, members'.foldlM s.step (s.get {}) = .ok slot := by
    intro s hs hne
    rw [get_empty s hs]
    exact ⟨_, h.foldlM_step hwell (List.mem_map_of_mem hs) (fun _ => respects_of_ne hs hne)
      (hslots s hs)⟩
  have hfold' : members'.foldlM Members.add {} = .error (.mismatch (.missingField "sha")) :=
    fills.foldlM_eq_error (h.legible hwell) objectSlot_mem_slots hobjects hothers
  rw [ofReading, hfold']
  rfl

theorem ofReading_of_keeps (h : Keeps known left (Alike leftOfObject) members members')
    (hwell : Reading.wellFormedMembers members' = true)
    (hr : ofReading (.object members) = .ok tag) :
    ofReading (.object members') = tag.without left leftOfObject := by
  rw [without]
  split
  · rename_i hleft
    exact ofReading_without_hash h hwell hleft.1 hleft.2 hr
  · rename_i hleft
    obtain ⟨m, hfold, htag⟩ := Except.bind_eq_ok_iff.1 hr
    have hrespects : ∀ s ∈ slots, s.key ∉ left → s.Respects (Alike leftOfObject) := by
      intro s hs hkey
      by_cases hobject : s = objectSlot
      · subst hobject
        exact respects_objectSlot fun hhash => hleft ⟨hkey, hhash⟩
      · exact respects_of_ne hs hobject
    obtain ⟨m', hfold', hslots⟩ := h.exists_foldlM fills rfl hwell hrespects
      get_empty hfold
    simp only [slots, objectSlot, List.forall_mem_cons, List.not_mem_nil, false_imp_iff,
      implies_true, and_true] at hslots
    obtain ⟨hreference, hnodeId, hurl, hsha⟩ := hslots
    obtain ⟨hreference', hnodeId', hurl', hsha'⟩ := Members.tag_eq_ok_iff.1 htag
    have hread : ofReading (.object members') = m'.tag := by
      rw [ofReading, hfold']
      rfl
    rw [hread, Members.tag, hreference, hnodeId, hurl, hsha, hreference', hsha']
    rw [← hnodeId', ← hurl']
    by_cases href : "ref" ∈ left
    · simp [href, required, bind, Except.bind]
    · by_cases hobject : "object" ∈ left
      · simp [href, hobject, required, bind, Except.bind]
      · simp [href, hobject, required, bind, Except.bind, getD_ite_none, pure, Except.pure]

/-- A text has the members of a tag that another text has, but for those left out. -/
def Restates (left leftOfObject : List String) : String → String → Prop :=
  Json.Restates known left (Alike leftOfObject)

theorem parse_of_restates {text text' : String} (h : Restates left leftOfObject text text')
    (hr : parse text = .ok tag) : parse text' = tag.without left leftOfObject := by
  obtain ⟨members, members', hkeeps, hwell, htext, htext'⟩ := h.exists_keeps ofReading
  rw [parse, htext] at hr
  rw [parse, htext']
  exact ofReading_of_keeps hkeeps hwell hr

end Tag

end TronWallet.Release
