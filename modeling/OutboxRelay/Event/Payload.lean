import OutboxRelay.Event
import OutboxRelay.Failure
import OutboxRelay.Json.Record

/-!
# Payloads

The payload of an entry is the JSON text of its event.  Its shape depends on the action
and on a version, of which one is known.

**Rules.**

* Decoding checks the action first, then the version, and the text last.
* Encoding prints the fields of an event in their order and leaves out absent notes.
-/

namespace OutboxRelay

open Json (Field Record Value)

/-- The version of the payloads that are written. -/
def currentVersion : Int := 1

namespace Team

/-- The fields of a team. -/
def record : Record Team where
  title := "TeamRef"
  fields := [.text "id", .text "tag"]
  build := fun (id, tag, _) => ⟨id, tag⟩

/-- The value that describes a team. -/
def toJson (team : Team) : Value :=
  .object [("id", .text team.id), ("tag", .text team.tag)]

end Team

namespace Asset

/-- The fields of an asset. -/
def record : Record Asset where
  title := "AssetRef"
  fields :=
    [.text "id", .text "identifier", .required "team" Team.record.read]
  build := fun (id, identifier, team, _) => ⟨id, identifier, team⟩

/-- The value that describes an asset. -/
def toJson (asset : Asset) : Value :=
  .object [("id", .text asset.id), ("identifier", .text asset.identifier),
    ("team", asset.team.toJson)]

end Asset

namespace Event

/-- The fields of an event of each action. -/
def record : Action → Record Event
  | .deleteTeam =>
      { title := "DeleteTeamDto"
        fields := [.required "team" Team.record.read]
        build := fun (team, _) => .deleteTeam team }
  | .createAsset =>
      { title := "CreateAssetDto"
        fields := [.required "asset" Asset.record.read]
        build := fun (asset, _) => .createAsset asset }
  | .deleteAsset =>
      { title := "DeleteAssetDto"
        fields := [.required "asset" Asset.record.read, .integer "dup_assets" 64]
        build := fun (asset, duplicates, _) =>
          .deleteAsset asset (Int64.ofInt duplicates) }
  | .updateAsset =>
      { title := "UpdateAssetDto"
        fields :=
          [.required "old_asset" Asset.record.read,
            .required "new_asset" Asset.record.read, .integer "dup_assets" 64]
        build := fun (old, new, duplicates, _) =>
          .updateAsset old new (Int64.ofInt duplicates) }
  | .deleteAllAssets =>
      { title := "DeleteAllAssetsDto"
        fields := [.required "team" Team.record.read]
        build := fun (team, _) => .deleteAllAssets team }
  | .findingOverwrite =>
      { title := "FindingOverwriteDto"
        fields :=
          [.text "finding_id", .text "tag", .text "status",
            .optional "notes" (fun _ => Json.Reader.optionalText) none]
        build := fun (findingId, tag, status, notes, _) =>
          .overwriteFinding ⟨findingId, tag, status, notes⟩ }

/-- The member for notes, which is left out when there are none. -/
def notesMember : Option String → List (String × Value)
  | none => []
  | some notes => [("notes", .text notes)]

/-- The value that describes an event. -/
def toJson : Event → Value
  | deleteTeam team => .object [("team", team.toJson)]
  | createAsset asset => .object [("asset", asset.toJson)]
  | deleteAsset asset duplicates =>
      .object [("asset", asset.toJson), ("dup_assets", .integer duplicates.toInt)]
  | updateAsset old new duplicates =>
      .object [("old_asset", old.toJson), ("new_asset", new.toJson),
        ("dup_assets", .integer duplicates.toInt)]
  | deleteAllAssets team => .object [("team", team.toJson)]
  | overwriteFinding finding =>
      .object ([("finding_id", .text finding.findingId), ("tag", .text finding.tag),
        ("status", .text finding.status)] ++ notesMember finding.notes)

/-- The payload of an event. -/
def encode (event : Event) : Bytes :=
  event.toJson.encode

/-- The event of a stored action, version and payload. -/
def decode (tag : String) (version : Int) (payload : Bytes) : Except EventError Event :=
  match Action.ofTag? tag with
  | none => .error (.unsupportedAction tag)
  | some action =>
      if version ≠ currentVersion then
        .error (.unsupportedVersion action.tag version)
      else
        ((record action).decode payload).mapError .decode

end Event
end OutboxRelay
