import TronWallet.Json.Decode

/-!
# What the release service answers

`Latest` is the latest release and `Tag` the commit that a tag names. Both are decoded
from JSON objects, where unknown members are skipped and a repeated one is refused, or
from arrays that hold the same fields in their order. Of a release only the name of its
tag is required.
-/

namespace TronWallet.Release

open Json (Reading Refusal fill required nextOr next finish)

/-- A file that belongs to a release. -/
structure Asset where
  id : Nat
  name : String
  size : Nat
  url : String
  deriving DecidableEq

/-- A release. -/
structure Latest where
  prerelease : Bool
  tagName : String
  targetCommitish : String
  createdAt : Option Time.Instant
  assets : List Asset
  deriving DecidableEq

/-- A tag and the commit it names. -/
structure Tag where
  reference : String
  nodeId : String
  url : String
  sha : String
  deriving DecidableEq

/-! ## Assets -/

namespace Asset

/-- The members of an asset that have occurred. -/
structure Members where
  id : Option Nat := none
  name : Option String := none
  size : Option Nat := none
  url : Option String := none

/-- Takes in one member. -/
def Members.add (m : Members) : Option String × Reading → Except Refusal Members
  | (none, _) => .error .malformed
  | (some key, r) =>
    match key with
    | "id" => do return { m with id := ← fill key m.id r.asNatural }
    | "name" => do return { m with name := ← fill key m.name r.asText }
    | "size" => do return { m with size := ← fill key m.size r.asNatural }
    | "browser_download_url" => do return { m with url := ← fill key m.url r.asText }
    | _ => r.skip.map fun _ => m

/-- The asset of all members. -/
def Members.asset (m : Members) : Except Refusal Asset := do
  let id ← required "id" m.id
  let name ← required "name" m.name
  let size ← required "size" m.size
  let url ← required "browser_download_url" m.url
  return ⟨id, name, size, url⟩

/-- Decodes an asset from its fields in their order. -/
def ofItems (items : List Reading) : Except Refusal Asset := do
  let expected := "struct ReleaseAsset with 4 elements"
  let (id, items) ← next 0 expected Reading.asNatural items
  let (name, items) ← next 1 expected Reading.asText items
  let (size, items) ← next 2 expected Reading.asNatural items
  let (url, items) ← next 3 expected Reading.asText items
  finish items
  return ⟨id, name, size, url⟩

/-- Decodes an asset. -/
def ofReading (r : Reading) : Except Refusal Asset :=
  match r with
  | .object members => do (← members.foldlM Members.add {}).asset
  | .array items => ofItems items
  | _ => r.refuse "struct ReleaseAsset"

end Asset

/-! ## Releases -/

namespace Latest

/-- The members of a release that have occurred. -/
structure Members where
  prerelease : Option Bool := none
  tagName : Option String := none
  targetCommitish : Option String := none
  createdAt : Option (Option Time.Instant) := none
  assets : Option (List Asset) := none

/-- Takes in one member. -/
def Members.add (m : Members) : Option String × Reading → Except Refusal Members
  | (none, _) => .error .malformed
  | (some key, r) =>
    match key with
    | "prerelease" => do return { m with prerelease := ← fill key m.prerelease r.asBoolean }
    | "tag_name" => do return { m with tagName := ← fill key m.tagName r.asText }
    | "target_commitish" => do
      return { m with targetCommitish := ← fill key m.targetCommitish r.asText }
    | "created_at" => do return { m with createdAt := ← fill key m.createdAt r.asInstant? }
    | "assets" => do return { m with assets := ← fill key m.assets (r.asList Asset.ofReading) }
    | _ => r.skip.map fun _ => m

/-- The release of all members. -/
def Members.release (m : Members) : Except Refusal Latest :=
  (required "tag_name" m.tagName).map fun tagName =>
    { prerelease := m.prerelease.getD false
      tagName
      targetCommitish := m.targetCommitish.getD ""
      createdAt := m.createdAt.getD none
      assets := m.assets.getD [] }

/-- Decodes a release from its fields in their order. -/
def ofItems (items : List Reading) : Except Refusal Latest := do
  let (prerelease, items) ← nextOr false Reading.asBoolean items
  let (tagName, items) ← next 1 "struct Release with 5 elements" Reading.asText items
  let (targetCommitish, items) ← nextOr "" Reading.asText items
  let (createdAt, items) ← nextOr none Reading.asInstant? items
  let (assets, items) ← nextOr [] (Reading.asList Asset.ofReading) items
  finish items
  return ⟨prerelease, tagName, targetCommitish, createdAt, assets⟩

/-- Decodes a release. -/
def ofReading (r : Reading) : Except Refusal Latest :=
  match r with
  | .object members => do (← members.foldlM Members.add {}).release
  | .array items => ofItems items
  | _ => r.refuse "struct Release"

/-- Decodes the text of a release. -/
def parse (text : String) : Except Refusal Latest :=
  Json.decode ofReading text

end Latest

/-! ## Tags -/

namespace Tag

/-- The commit hash of the object that a tag names, from its member if that has occurred. -/
def addHash (sha : Option String) : Option String × Reading → Except Refusal (Option String)
  | (none, _) => .error .malformed
  | (some key, r) =>
    match key with
    | "sha" => fill key sha r.asText
    | _ => r.skip.map fun _ => sha

/-- Decodes the object that a tag names from its fields in their order. -/
def hashOfItems (items : List Reading) : Except Refusal String := do
  let (sha, items) ← next 0 "struct TagObject with 1 element" Reading.asText items
  finish items
  return sha

/-- Decodes the object that a tag names. -/
def hashOfReading (r : Reading) : Except Refusal String :=
  match r with
  | .object members => do required "sha" (← members.foldlM addHash none)
  | .array items => hashOfItems items
  | _ => r.refuse "struct TagObject"

/-- The members of a tag that have occurred. -/
structure Members where
  reference : Option String := none
  nodeId : Option String := none
  url : Option String := none
  sha : Option String := none

/-- Takes in one member. -/
def Members.add (m : Members) : Option String × Reading → Except Refusal Members
  | (none, _) => .error .malformed
  | (some key, r) =>
    match key with
    | "ref" => do return { m with reference := ← fill key m.reference r.asText }
    | "node_id" => do return { m with nodeId := ← fill key m.nodeId r.asText }
    | "url" => do return { m with url := ← fill key m.url r.asText }
    | "object" => do return { m with sha := ← fill key m.sha (hashOfReading r) }
    | _ => r.skip.map fun _ => m

/-- The tag of all members. -/
def Members.tag (m : Members) : Except Refusal Tag := do
  let reference ← required "ref" m.reference
  let sha ← required "object" m.sha
  return ⟨reference, m.nodeId.getD "", m.url.getD "", sha⟩

/-- Decodes a tag from its fields in their order. -/
def ofItems (items : List Reading) : Except Refusal Tag := do
  let expected := "struct Tag with 4 elements"
  let (reference, items) ← next 0 expected Reading.asText items
  let (nodeId, items) ← nextOr "" Reading.asText items
  let (url, items) ← nextOr "" Reading.asText items
  let (sha, items) ← next 3 expected hashOfReading items
  finish items
  return ⟨reference, nodeId, url, sha⟩

/-- Decodes a tag. -/
def ofReading (r : Reading) : Except Refusal Tag :=
  match r with
  | .object members => do (← members.foldlM Members.add {}).tag
  | .array items => ofItems items
  | _ => r.refuse "struct Tag"

/-- Decodes the text of a tag. -/
def parse (text : String) : Except Refusal Tag :=
  Json.decode ofReading text

end Tag

end TronWallet.Release
