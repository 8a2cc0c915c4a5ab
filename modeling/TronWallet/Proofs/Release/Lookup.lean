import TronWallet.Proofs.Release.Exchange
import TronWallet.Proofs.Url.Below
import TronWallet.Proofs.Url.Escape

/-!
# The tag that is looked up

A tag's name is written into the address of the tag as it stands. Names that hold nothing a
URL gives a meaning to (`PlainTag`) are looked up below one place of the service
(`exists_target_tagUrl`), and different ones at different targets (`eq_of_escape_toList_eq`);
so a verdict on such a tag compares the commit that was served for it (`exists_gets_of_tag?`).
Other names are looked up as if they were another tag, or something that is no tag.
-/

namespace TronWallet.Release

open Url (Plain EndsVisibly IsPlace escape reservedInPath)

variable {config : UpdateConfig} {place : Url} {tag tag' : String}

/-- The service of a configuration is at a place on the web, and the repository is a part of
a path. -/
structure Serves (config : UpdateConfig) (place : Url) : Prop where
  base : IsPlace config.base place
  repository : Plain config.repository.toList

/-- Nothing in the tag's name means anything to a reader of URLs but that a slash begins a
segment, and no percent sign makes a part of it look escaped. -/
structure PlainTag (tag : String) : Prop where
  plain : Plain tag.toList
  visible : EndsVisibly tag.toList
  unescaped : '%' ∉ tag.toList

/-- The target below which tags are looked up. -/
def tagsTarget (config : UpdateConfig) (place : Url) : List Char :=
  place.target ++ "repos/".toList ++ escape reservedInPath config.repository.toList ++
    "/git/ref/tags/".toList

/-- A plain tag is looked up below the place of tags. -/
theorem exists_target_tagUrl (h : Serves config place) (htag : PlainTag tag) :
    ∃ url, Url.parse? (config.tagUrl tag) = some url ∧
      url.carried.target = tagsTarget config place ++ escape reservedInPath tag.toList := by
  let text := "repos/" ++ config.repository ++ "/git/ref/tags/" ++ tag
  have haddress : config.tagUrl tag = config.base ++ "/" ++ text := by
    simp [UpdateConfig.tagUrl, text, ← String.toList_inj]
  have hsegments : text.toList = "repos".toList ++ '/' :: (config.repository.toList ++
      '/' :: ("git/ref/tags".toList ++ '/' :: tag.toList)) := by
    simp [text]
  have htext : Plain text.toList := by
    rw [hsegments]
    have hrepos : Plain "repos".toList := by decide
    have htags : Plain "git/ref/tags".toList := by decide
    exact hrepos.append (h.repository.append (htags.append htag.plain))
  have hend : EndsVisibly text.toList := by
    rw [hsegments]
    exact htag.visible.append.append.append
  obtain ⟨url, hparse, htarget⟩ := Url.exists_target_append h.base htext hend
  refine ⟨url, by rw [haddress, hparse], ?_⟩
  have hrepos : escape reservedInPath "repos/".toList = "repos/".toList := by decide
  have htags : escape reservedInPath "/git/ref/tags/".toList = "/git/ref/tags/".toList := by decide
  rw [Url.target_carried, htarget, tagsTarget]
  simp only [text, String.toList_append, Url.escape_append, hrepos, htags, List.append_assoc]

theorem eq_of_escape_toList_eq (htag : PlainTag tag) (htag' : PlainTag tag')
    (h : escape reservedInPath tag.toList = escape reservedInPath tag'.toList) : tag = tag' :=
  String.toList_inj.1 (Url.eq_of_escape_eq reservedInPath htag.unescaped htag'.unescaped h)

/-- The tag of a verdict that comes of a comparison. -/
def Verdict.tag? : Verdict → Option String
  | .current tag => some tag
  | .outdated tag => some tag
  | .undetermined _ => none

theorem tag?_compare {stamp hash named : String} (h : (compare stamp tag hash).tag? = some named) :
    named = tag := by
  rw [compare] at h
  split at h
  · cases h
  · split at h
    · cases h
    · split at h <;> exact (Option.some.inj h).symm

/-- A verdict on a tag compares the commit that was got from the tag's address. -/
theorem exists_gets_of_tag? {service : Http.Service} {stamp : String} {verdict : Verdict}
    (h : (check service config stamp).result = .ok verdict) (htag : verdict.tag? = some tag) :
    ∃ before url t, Http.Gets service before (config.tagUrl tag) Tag.parse url t ∧
      verdict = compare stamp tag t.sha := by
  have hexchange := exchange_check service config stamp
  rw [h] at hexchange
  generalize (check service config stamp).attempts = attempts at hexchange
  cases hexchange with
  | unusable hstamp => cases htag
  | @compared commit base url url' release t hstamp hbase hrelease hgets =>
      obtain rfl := isBase_iff.1 hbase
      obtain rfl := tag?_compare htag
      exact ⟨[url], url', t, hgets, rfl⟩

/-- Plain tags are looked up below one place, different ones at different targets, and a
verdict on a plain tag compares the commit that was served for its own target. -/
theorem plain_tags_apart (h : Serves config place) :
    (∀ tag, PlainTag tag → ∃ url, Url.parse? (config.tagUrl tag) = some url ∧
        url.carried.target = tagsTarget config place ++ escape reservedInPath tag.toList) ∧
      (∀ tag tag' url url', PlainTag tag → PlainTag tag' → tag ≠ tag' →
        Url.parse? (config.tagUrl tag) = some url → Url.parse? (config.tagUrl tag') = some url' →
        url.carried.target ≠ url'.carried.target) ∧
      ∀ service stamp verdict tag, (check service config stamp).result = .ok verdict →
        verdict.tag? = some tag → PlainTag tag →
        ∃ before url code body t, service before url = .answered code body ∧
          url.target = tagsTarget config place ++ escape reservedInPath tag.toList ∧
          Tag.parse body = .ok t ∧ verdict = compare stamp tag t.sha := by
  refine ⟨fun tag htag => exists_target_tagUrl h htag,
    fun tag tag' url url' htag htag' hne hurl hurl' heq => ?_,
    fun service stamp verdict tag hresult hverdict htag => ?_⟩
  · obtain ⟨found, hparse, htarget⟩ := exists_target_tagUrl h htag
    obtain ⟨found', hparse', htarget'⟩ := exists_target_tagUrl h htag'
    obtain rfl := Option.some.inj (hurl.symm.trans hparse)
    obtain rfl := Option.some.inj (hurl'.symm.trans hparse')
    rw [htarget, htarget', List.append_cancel_left_eq] at heq
    exact hne (eq_of_escape_toList_eq htag htag' heq)
  · obtain ⟨before, url, t, hgets, hcompare⟩ := exists_gets_of_tag? hresult hverdict
    obtain ⟨source, hsource, rfl, -⟩ := hgets.asked
    obtain ⟨code, body, hreply, -, hdocument⟩ := hgets.answered
    obtain ⟨found, hparse, htarget⟩ := exists_target_tagUrl h htag
    obtain rfl := Option.some.inj (hsource.symm.trans hparse)
    exact ⟨before, _, code, body, t, hreply, htarget, hdocument, hcompare⟩

/-- Where the service is. -/
def localPlace : Url where
  scheme := "http"
  authority := some ⟨none, some (.ipv6 [0, 0, 0, 0, 0, 0, 0, 1]), some 8080⟩
  path := .segments ["api".toList, "v3".toList, []]
  query := none
  fragment := none

theorem plain_tags_apart_local :
    Serves localService localPlace ∧ PlainTag "v1" ∧ PlainTag "v 2/é" ∧
      ∀ url url', Url.parse? (localService.tagUrl "v1") = some url →
        Url.parse? (localService.tagUrl "v 2/é") = some url' →
        url.carried.target ≠ url'.carried.target := by
  have hserves : Serves localService localPlace :=
    ⟨⟨by decide +kernel, .inl rfl, rfl, rfl⟩, by decide +kernel⟩
  have hone : PlainTag "v1" := ⟨by decide +kernel, by simp [EndsVisibly], by decide⟩
  have htwo : PlainTag "v 2/é" := ⟨by decide +kernel, by simp [EndsVisibly], by decide⟩
  refine ⟨hserves, hone, htwo, fun url url' => ?_⟩
  exact (plain_tags_apart hserves).2.1 _ _ url url' hone htwo (by decide)

/-- The reply of a service whose latest release has the tag `v1#x`, which knows no tag but
`v1`. -/
def markedService : Http.Service
  | [], _ => .answered 200 "\x7b\"tag_name\":\"v1#x\"\x7d"
  | _ :: _, url =>
    if url.target = "/api/v3/repos/owner/wallet/git/ref/tags/v1".toList then
      .answered 200
        "\x7b\"ref\":\"refs/tags/v1\",\"object\":\x7b\"sha\":\"abcdef1234567890\"\x7d\x7d"
    else .answered 404 ""

/-- What follows a number sign in the name of a tag is not looked up, and dot segments lead out
of the place of tags. So the commit of one tag can be reported as that of another. -/
theorem marked_tags_together :
    (Url.parse? (localService.tagUrl "v1#x")).map (·.carried.target) =
        some "/api/v3/repos/owner/wallet/git/ref/tags/v1".toList ∧
      (Url.parse? (localService.tagUrl "v1")).map (·.carried.target) =
        some "/api/v3/repos/owner/wallet/git/ref/tags/v1".toList ∧
      (Url.parse? (localService.tagUrl "../../commits/main")).map (·.carried.target) =
        some "/api/v3/repos/owner/wallet/git/commits/main".toList ∧
      (check markedService localService "v0.1.0-abcdef12").result = .ok (.current "v1#x") := by
  decide +kernel

end TronWallet.Release
