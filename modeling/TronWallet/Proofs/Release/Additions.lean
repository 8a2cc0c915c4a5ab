import Mathlib.Data.List.Permutation
import TronWallet.Proofs.Release.Lookup
import TronWallet.Proofs.Release.Payload

/-!
# A release service that says more

What is decoded depends on the known members of a text only, and so does the verdict of a check: a
service may restate its two answers as it likes, with its members in another order and with any
others among them (`known_members_decide`).
-/

namespace TronWallet.Release

open Json (IsElement Reading)
open Http (Gets Reply Service)

/-- The same reply, or one with the same code and a body that restates that of the other. -/
inductive SameReply (restates : String → String → Prop) : Reply → Reply → Prop
  | same {reply : Reply} : SameReply restates reply reply
  | restated {code : Nat} {body body' : String} (h : restates body body') :
    SameReply restates (.answered code body) (.answered code body')

theorem gets_of_sameReply {ε α : Type} {restates : String → String → Prop}
    {service service' : Service} {before : List Url} {address : String}
    {parse : String → Except ε α} {url : Url} {document : α}
    (hreply : SameReply restates (service before url) (service' before url))
    (hparse : ∀ body body', restates body body' → parse body = .ok document →
      parse body' = .ok document)
    (h : Gets service before address parse url document) :
    Gets service' before address parse url document := by
  obtain ⟨code, body, hbody, hcode, hdocument⟩ := h.answered
  refine ⟨h.asked, ?_⟩
  generalize service' before url = reply' at hreply
  rw [hbody] at hreply
  cases hreply with
  | same => exact ⟨code, body, rfl, hcode, hdocument⟩
  | restated hrestates => exact ⟨code, _, rfl, hcode, hparse _ _ hrestates hdocument⟩

/-- A service whose answers about the latest release and about a tag restate those of another. -/
structure Restates (service service' : Service) : Prop where
  latest : ∀ url, SameReply (Latest.Restates []) (service [] url) (service' [] url)
  tag : ∀ first url, SameReply (Tag.Restates [] []) (service [first] url) (service' [first] url)

theorem check_of_restates {service service' : Service} {config : UpdateConfig} {stamp : String}
    {verdict : Verdict} (h : Restates service service')
    (hcheck : (check service config stamp).result = .ok verdict) :
    (check service' config stamp).result = .ok verdict := by
  have hexchange := exchange_check service config stamp
  rw [hcheck] at hexchange
  generalize (check service config stamp).attempts = attempts at hexchange
  cases hexchange with
  | unusable hstamp => rw [check_of_exchange (.unusable hstamp)]
  | @compared commit base url url' release tag hstamp hbase hrelease htag =>
      have hrelease' := gets_of_sameReply (h.latest url)
        (fun _ _ => Latest.parse_of_restates) hrelease
      have htag' := gets_of_sameReply (h.tag url url') (fun _ _ => Tag.parse_of_restates) htag
      rw [check_of_exchange (.compared hstamp hbase hrelease' htag')]

/-- Of a release and of a tag only the known members count. A text that restates one decodes to
the same, and one that leaves members out to what is left without them. A check that comes to a
verdict comes to the same one if both answers are restated. -/
theorem known_members_decide :
    (∀ text release, Latest.parse text = .ok release → ∀ text',
      (Latest.Restates [] text text' → Latest.parse text' = .ok release) ∧
        ∀ left, Latest.Restates left text text' → Latest.parse text' = release.without left) ∧
      (∀ text tag, Tag.parse text = .ok tag → ∀ text',
        (Tag.Restates [] [] text text' → Tag.parse text' = .ok tag) ∧
          ∀ left leftOfObject, Tag.Restates left leftOfObject text text' →
            Tag.parse text' = tag.without left leftOfObject) ∧
      ∀ service service' config stamp verdict, Restates service service' →
        (check service config stamp).result = .ok verdict →
          (check service' config stamp).result = .ok verdict :=
  ⟨fun _ _ hr _ => ⟨fun h => Latest.parse_of_restates h hr,
      fun _ h => Latest.parse_of_restates h hr⟩,
    fun _ _ hr _ => ⟨fun h => Tag.parse_of_restates h hr,
      fun _ _ h => Tag.parse_of_restates h hr⟩,
    fun _ _ _ _ _ => check_of_restates⟩

/-! ### A release and its tag in other words -/

def plainRelease : String :=
  "\x7b\"prerelease\":true,\"tag_name\":\"v2\",\"assets\":[\x7b\"id\":1,\"name\":\"n\",\"size\":4," ++
    "\"browser_download_url\":\"u\"\x7d]\x7d"

/-- In another order, with blanks, and with members that are known neither of a release nor of an
asset, though one of them holds a known key. -/
def fullRelease : String :=
  "\x7b \"assets\" : [ \x7b \"size\" : 4, \"label\" : null, \"browser_download_url\" : \"u\"," ++
    "\"name\" : \"n\", \"id\" : 1 \x7d ], \"author\" : \x7b \"tag_name\" : [ [], 1e999 ] \x7d," ++
    "\"tag_name\" : \"v2\", \"prerelease\" : true \x7d"

/-- Without two members that have defaults. -/
def bareRelease : String :=
  "\x7b\"tag_name\":\"v2\"\x7d"

def plainTag : String :=
  "\x7b\"ref\":\"r\",\"object\":\x7b\"sha\":\"abcdef1234\"\x7d\x7d"

def fullTag : String :=
  "\x7b \"object\" : \x7b \"type\" : \"commit\", \"sha\" : \"abcdef1234\" \x7d, \"ref\" : \"r\" \x7d"

/-- Without the hash of the commit, which has no default. -/
def hashlessTag : String :=
  "\x7b\"ref\":\"r\",\"object\":\x7b\"type\":\"commit\"\x7d\x7d"

def plainAsset : Reading :=
  .object [(some "id", .number ⟨false, [1], [], none⟩), (some "name", .string (some "n")),
    (some "size", .number ⟨false, [4], [], none⟩),
    (some "browser_download_url", .string (some "u"))]

def fullAsset : Reading :=
  .object [(some "size", .number ⟨false, [4], [], none⟩), (some "label", .null),
    (some "browser_download_url", .string (some "u")), (some "name", .string (some "n")),
    (some "id", .number ⟨false, [1], [], none⟩)]

theorem isElement_plainRelease :
    IsElement (.object [(some "prerelease", .boolean true), (some "tag_name", .string (some "v2")),
      (some "assets", .array [plainAsset])]) plainRelease.toList :=
  Json.read_eq_iff.1 (by cbv)

theorem restates_fullRelease : Latest.Restates [] plainRelease fullRelease := by
  have hfull : IsElement (.object [(some "assets", .array [fullAsset]),
      (some "author", .object [(some "tag_name",
        .array [.array [], .number ⟨false, [1], [], some 999⟩])]),
      (some "tag_name", .string (some "v2")), (some "prerelease", .boolean true)])
      fullRelease.toList :=
    Json.read_eq_iff.1 (by cbv)
  have hasset : Asset.Alike plainAsset fullAsset :=
    .inr ⟨_, _, rfl, rfl, by simp, by simp [Asset.known, Json.occurrences], by simp⟩
  refine ⟨_, _, isElement_plainRelease, hfull, by simp, ?_, by simp⟩
  simpa [Latest.known, Json.occurrences, Latest.Alike] using hasset

theorem restates_bareRelease :
    Latest.Restates ["prerelease", "assets"] plainRelease bareRelease := by
  have hbare : IsElement (.object [(some "tag_name", .string (some "v2"))]) bareRelease.toList :=
    Json.read_eq_iff.1 (by cbv)
  refine ⟨_, _, isElement_plainRelease, hbare, by simp, ?_, ?_⟩ <;>
    simp [Latest.known, Json.occurrences, Latest.Alike]

def plainHash : Reading :=
  .string (some "abcdef1234")

theorem isElement_plainTag :
    IsElement (.object [(some "ref", .string (some "r")),
      (some "object", .object [(some "sha", plainHash)])]) plainTag.toList :=
  Json.read_eq_iff.1 (by cbv)

theorem restates_fullTag : Tag.Restates [] [] plainTag fullTag := by
  have hfull : IsElement (.object [(some "object", .object [(some "type", .string (some "commit")),
      (some "sha", plainHash)]), (some "ref", .string (some "r"))])
      fullTag.toList :=
    Json.read_eq_iff.1 (by cbv)
  have hobject : Json.KeepsObject Tag.knownOfObject [] (.object [(some "sha", plainHash)])
      (.object [(some "type", .string (some "commit")), (some "sha", plainHash)]) :=
    ⟨_, _, rfl, rfl, by simp, by simp [Tag.knownOfObject, Json.occurrences], by simp⟩
  refine ⟨_, _, isElement_plainTag, hfull, by simp, ?_, by simp⟩
  simpa [Tag.known, Json.occurrences, Tag.Alike] using hobject

theorem restates_hashlessTag : Tag.Restates [] ["sha"] plainTag hashlessTag := by
  have hhashless : IsElement (.object [(some "ref", .string (some "r")),
      (some "object", .object [(some "type", .string (some "commit"))])]) hashlessTag.toList :=
    Json.read_eq_iff.1 (by cbv)
  have hobject : Json.KeepsObject Tag.knownOfObject ["sha"] (.object [(some "sha", plainHash)])
      (.object [(some "type", .string (some "commit"))]) :=
    ⟨_, _, rfl, rfl, by simp, by simp [Tag.knownOfObject],
      by simp [Json.occurrences]⟩
  refine ⟨_, _, isElement_plainTag, hhashless, by simp, ?_, by simp⟩
  simpa [Tag.known, Json.occurrences, Tag.Alike] using hobject

theorem known_members_decide_full :
    (Latest.Restates [] plainRelease fullRelease ∧
        Latest.parse fullRelease = .ok ⟨true, "v2", "", none, [⟨1, "n", 4, "u"⟩]⟩) ∧
      (Latest.Restates ["prerelease", "assets"] plainRelease bareRelease ∧
        Latest.parse bareRelease = .ok ⟨false, "v2", "", none, []⟩) ∧
      (Tag.Restates [] [] plainTag fullTag ∧
        Tag.parse fullTag = .ok ⟨"r", "", "", "abcdef1234"⟩) ∧
      (Tag.Restates [] ["sha"] plainTag hashlessTag ∧
        Tag.parse hashlessTag = .error (.mismatch (.missingField "sha"))) ∧
      Restates (serving plainRelease plainTag) (serving fullRelease fullTag) ∧
        (check (serving fullRelease fullTag) localService "v1-abcdef1").result =
          .ok (.current "v2") := by
  obtain ⟨hlatest, htag, hcheck⟩ := known_members_decide
  have hrelease : Latest.parse plainRelease = .ok ⟨true, "v2", "", none, [⟨1, "n", 4, "u"⟩]⟩ := by
    rw [Latest.parse, Json.decode_of_isElement isElement_plainRelease]
    rfl
  have hplain : Tag.parse plainTag = .ok ⟨"r", "", "", "abcdef1234"⟩ := by
    rw [Tag.parse, Json.decode_of_isElement isElement_plainTag]
    rfl
  have hrestates : Restates (serving plainRelease plainTag) (serving fullRelease fullTag) :=
    ⟨fun _ => .restated restates_fullRelease, fun _ _ => .restated restates_fullTag⟩
  have hcurrent :
      (check (serving plainRelease plainTag) localService "v1-abcdef1").result =
        .ok (.current "v2") := by
    decide +kernel
  exact ⟨⟨restates_fullRelease, (hlatest _ _ hrelease _).1 restates_fullRelease⟩,
    ⟨restates_bareRelease, (hlatest _ _ hrelease _).2 _ restates_bareRelease⟩,
    ⟨restates_fullTag, (htag _ _ hplain _).1 restates_fullTag⟩,
    ⟨restates_hashlessTag, (htag _ _ hplain _).2 _ _ restates_hashlessTag⟩,
    hrestates, hcheck _ _ _ _ _ hrestates hcurrent⟩

end TronWallet.Release
