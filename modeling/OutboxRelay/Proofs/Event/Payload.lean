import OutboxRelay.Event.Payload
import OutboxRelay.Proofs.Json.Object

/-!
# Encoding and decoding events

The payload of an event is the printed form of an object, and decoding reads a record.
Which event is read under which action is therefore a question about the members of the
object and the fields of the record.

**Method.** The tree that describes an event is what the printed form is a text of.  A
field finds the one member of its name there; a member that no field has asked for is
skipped, and a required field without a member refuses the whole.
-/

namespace OutboxRelay

open Json (Field Meaning Meanings Quotation Tree Value)
open Json (rowNamed?_cons valueOf?_text valueOf?_integer valueOf?_record)

/-! ## What the fields denote -/

/-- What the fields of a team denote. -/
def Team.meanings : Meanings Team.record.fields :=
  (.text "id", .text "tag", ())

/-- What the fields of an asset denote. -/
def Asset.meanings : Meanings Asset.record.fields :=
  (.text "id", .text "identifier", .record "team" Team.record Team.meanings, ())

namespace Event

/-- Notes denote the text that a tree is, or nothing for the word null. -/
def notesMeaning : Meaning (.optional "notes" (fun _ => Json.Reader.optionalText) none) :=
  ⟨fun _ => Json.optionalTextOf?, fun _ => Json.denotes_optionalText⟩

/-- What the fields of an event denote. -/
def meanings : (action : Action) → Meanings (record action).fields
  | .deleteTeam => (.record "team" Team.record Team.meanings, ())
  | .createAsset => (.record "asset" Asset.record Asset.meanings, ())
  | .deleteAsset =>
      (.record "asset" Asset.record Asset.meanings, .integer "dup_assets" 64, ())
  | .updateAsset =>
      (.record "old_asset" Asset.record Asset.meanings,
        .record "new_asset" Asset.record Asset.meanings, .integer "dup_assets" 64, ())
  | .deleteAllAssets => (.record "team" Team.record Team.meanings, ())
  | .findingOverwrite =>
      (.text "finding_id", .text "tag", .text "status", notesMeaning, ())

end Event

/-- A team is read of its own tree. -/
theorem Team.denote_tree (team : Team) (depth : Nat) :
    Team.record.denote Team.meanings (depth + 1) team.toJson.tree = some team := by
  have hrow : Json.rowNamed? depth Team.record.fields Team.meanings
      (Value.memberTrees [("id", .text team.id), ("tag", .text team.tag)]) =
        some (team.id, team.tag, ()) :=
    rowNamed?_cons (valueOf?_text rfl) (rowNamed?_cons (valueOf?_text rfl) rfl)
  rw [Team.toJson, Json.Record.denote_object Team.record Team.meanings (by decide), hrow]
  rfl

/-- An asset is read of its own tree. -/
theorem Asset.denote_tree (asset : Asset) (depth : Nat) :
    Asset.record.denote Asset.meanings (depth + 2) asset.toJson.tree = some asset := by
  have hrow : Json.rowNamed? (depth + 1) Asset.record.fields Asset.meanings
      (Value.memberTrees [("id", .text asset.id), ("identifier", .text asset.identifier),
        ("team", asset.team.toJson)]) = some (asset.id, asset.identifier, asset.team, ()) :=
    rowNamed?_cons (valueOf?_text rfl) (rowNamed?_cons (valueOf?_text rfl)
      (rowNamed?_cons (valueOf?_record rfl (asset.team.denote_tree depth)) rfl))
  rw [Asset.toJson, Json.Record.denote_object Asset.record Asset.meanings (by decide), hrow]
  rfl

namespace Event

/-- What a payload denotes under an action. -/
def denote (action : Action) : Tree → Option Event :=
  (record action).denote (meanings action) Json.depthLimit

/-- The members of the object that describes an event. -/
def members : Event → List (String × Value)
  | deleteTeam team => [("team", team.toJson)]
  | createAsset asset => [("asset", asset.toJson)]
  | deleteAsset asset duplicates =>
      [("asset", asset.toJson), ("dup_assets", .integer duplicates.toInt)]
  | updateAsset old new duplicates =>
      [("old_asset", old.toJson), ("new_asset", new.toJson),
        ("dup_assets", .integer duplicates.toInt)]
  | deleteAllAssets team => [("team", team.toJson)]
  | overwriteFinding finding =>
      [("finding_id", .text finding.findingId), ("tag", .text finding.tag),
        ("status", .text finding.status)] ++ notesMember finding.notes

theorem toJson_eq (event : Event) : event.toJson = .object event.members := by
  cases event <;> rfl

theorem nodup_names (action : Action) : ((record action).fields.map Field.name).Nodup := by
  cases action <;> decide

theorem denote_toJson (event : Event) (action : Action) :
    denote action event.toJson.tree =
      (Json.rowNamed? 126 (record action).fields (meanings action)
        (Value.memberTrees event.members)).map (record action).build := by
  rw [toJson_eq]
  exact Json.Record.denote_object (record action) (meanings action) (nodup_names action) 126 _

/-- The names of the members that a payload must have under an action. -/
def required (action : Action) : List String :=
  ((record action).fields.filter fun field => field.absent.isNone).map Field.name

theorem not_mem_notesMember {name : String} (h : name ≠ "notes") (notes : Option String) :
    name ∉ (notesMember notes).map Prod.fst := by
  cases notes <;> simp [notesMember, h]

/-- Without a member that is required a payload means nothing. -/
theorem denote_eq_none {event : Event} {action : Action} (name : String)
    (hrequired : name ∈ required action) (h : name ∉ event.members.map Prod.fst) :
    denote action event.toJson.tree = none := by
  obtain ⟨field, hfield, rfl⟩ := List.mem_map.mp hrequired
  obtain ⟨hfield, habsent⟩ := List.mem_filter.mp hfield
  have hvalues : Json.valuesNamed field.name (Value.memberTrees event.members) = [] := by
    rw [Json.valuesNamed_memberTrees, List.map_eq_nil_iff, List.filter_eq_nil_iff]
    intro member hmember hname
    exact h (List.mem_map.mpr ⟨member, hmember, by simpa using hname⟩)
  rw [denote_toJson, Json.rowNamed?_eq_none hfield (Option.isNone_iff_eq_none.mp habsent) hvalues]
  rfl

/-- The event that the payload of an event means under an action, if it means one. -/
def under? : Event → Action → Option Event
  | deleteTeam team, .deleteAllAssets => some (deleteAllAssets team)
  | deleteAllAssets team, .deleteTeam => some (deleteTeam team)
  | deleteAsset asset _, .createAsset => some (createAsset asset)
  | event, action => if action = event.action then some event else none

/-- Notes are read of their member, or of its absence. -/
theorem valueOf?_notes {depth : Nat} {values : List (String × Value)} {notes : Option String}
    (h : (values.filter fun member => member.1 = "notes") = notesMember notes) :
    Json.valueOf? notesMeaning depth (Json.valuesNamed "notes" (Value.memberTrees values)) =
      some notes := by
  rw [Json.valuesNamed_memberTrees, h]
  cases notes with
  | none => rfl
  | some notes =>
      exact congrArg (Option.map some) (Quotation.text?_ofString notes)

/-- The payload of an event denotes that event under its own action. -/
theorem denote_action (event : Event) :
    denote event.action event.toJson.tree = some event := by
  rw [denote_toJson]
  cases event with
  | deleteTeam team =>
      have hrow : Json.rowNamed? 126 (record .deleteTeam).fields (meanings .deleteTeam)
          (Value.memberTrees (deleteTeam team).members) = some (team, ()) :=
        rowNamed?_cons (valueOf?_record rfl (team.denote_tree 125)) rfl
      exact congrArg (Option.map _) hrow
  | createAsset asset =>
      have hrow : Json.rowNamed? 126 (record .createAsset).fields (meanings .createAsset)
          (Value.memberTrees (createAsset asset).members) = some (asset, ()) :=
        rowNamed?_cons (valueOf?_record rfl (asset.denote_tree 124)) rfl
      exact congrArg (Option.map _) hrow
  | deleteAsset asset duplicates =>
      have hrow : Json.rowNamed? 126 (record .deleteAsset).fields (meanings .deleteAsset)
          (Value.memberTrees (deleteAsset asset duplicates).members) =
            some (asset, duplicates.toInt, ()) :=
        rowNamed?_cons (valueOf?_record rfl (asset.denote_tree 124))
          (rowNamed?_cons (valueOf?_integer rfl) rfl)
      exact (congrArg (Option.map _) hrow).trans
        (congrArg (fun count => some (deleteAsset asset count)) (Int64.ofInt_toInt duplicates))
  | updateAsset old new duplicates =>
      have hrow : Json.rowNamed? 126 (record .updateAsset).fields (meanings .updateAsset)
          (Value.memberTrees (updateAsset old new duplicates).members) =
            some (old, new, duplicates.toInt, ()) :=
        rowNamed?_cons (valueOf?_record rfl (old.denote_tree 124))
          (rowNamed?_cons (valueOf?_record rfl (new.denote_tree 124))
            (rowNamed?_cons (valueOf?_integer rfl) rfl))
      exact (congrArg (Option.map _) hrow).trans
        (congrArg (fun count => some (updateAsset old new count)) (Int64.ofInt_toInt duplicates))
  | deleteAllAssets team =>
      have hrow : Json.rowNamed? 126 (record .deleteAllAssets).fields (meanings .deleteAllAssets)
          (Value.memberTrees (deleteAllAssets team).members) = some (team, ()) :=
        rowNamed?_cons (valueOf?_record rfl (team.denote_tree 125)) rfl
      exact congrArg (Option.map _) hrow
  | overwriteFinding finding =>
      obtain ⟨id, tag, status, notes⟩ := finding
      have hrow : Json.rowNamed? 126 (record .findingOverwrite).fields
          (meanings .findingOverwrite)
          (Value.memberTrees (overwriteFinding ⟨id, tag, status, notes⟩).members) =
            some (id, tag, status, notes, ()) := by
        cases notes with
        | none =>
            exact rowNamed?_cons (valueOf?_text rfl) (rowNamed?_cons (valueOf?_text rfl)
              (rowNamed?_cons (valueOf?_text rfl) (rowNamed?_cons (valueOf?_notes rfl) rfl)))
        | some notes =>
            exact rowNamed?_cons (valueOf?_text rfl) (rowNamed?_cons (valueOf?_text rfl)
              (rowNamed?_cons (valueOf?_text rfl) (rowNamed?_cons (valueOf?_notes rfl) rfl)))
      exact congrArg (Option.map _) hrow

/-- What the payload of an event denotes under any action. -/
theorem denote_tree (event : Event) (action : Action) :
    denote action event.toJson.tree = event.under? action := by
  cases action with
  | deleteTeam =>
      cases event with
      | deleteTeam team => exact denote_action (deleteTeam team)
      | deleteAllAssets team => exact denote_action (deleteTeam team)
      | _ => exact denote_eq_none "team" (by decide) (by simp [members, not_mem_notesMember])
  | createAsset =>
      cases event with
      | createAsset asset => exact denote_action (createAsset asset)
      | deleteAsset asset duplicates =>
          have hrow : Json.rowNamed? 126 (record .createAsset).fields (meanings .createAsset)
              (Value.memberTrees (deleteAsset asset duplicates).members) = some (asset, ()) :=
            rowNamed?_cons (valueOf?_record rfl (asset.denote_tree 124)) rfl
          exact (denote_toJson _ _).trans (congrArg (Option.map _) hrow)
      | _ => exact denote_eq_none "asset" (by decide) (by simp [members, not_mem_notesMember])
  | deleteAsset =>
      cases event with
      | createAsset asset => exact denote_eq_none "dup_assets" (by decide) (by simp [members])
      | deleteAsset asset duplicates => exact denote_action (deleteAsset asset duplicates)
      | _ => exact denote_eq_none "asset" (by decide) (by simp [members, not_mem_notesMember])
  | updateAsset =>
      cases event with
      | updateAsset old new duplicates => exact denote_action (updateAsset old new duplicates)
      | _ => exact denote_eq_none "old_asset" (by decide) (by simp [members, not_mem_notesMember])
  | deleteAllAssets =>
      cases event with
      | deleteTeam team => exact denote_action (deleteAllAssets team)
      | deleteAllAssets team => exact denote_action (deleteAllAssets team)
      | _ => exact denote_eq_none "team" (by decide) (by simp [members, not_mem_notesMember])
  | findingOverwrite =>
      cases event with
      | overwriteFinding finding => exact denote_action (overwriteFinding finding)
      | _ => exact denote_eq_none "finding_id" (by decide) (by simp [members])

/-! ## Payloads -/

/-- Whatever text of a tree a payload is, it is decoded as what the tree denotes. -/
theorem toOption_decode {tree : Tree} {payload : Bytes} (h : tree.language payload)
    (action : Action) : ((record action).decode payload).toOption = denote action tree := by
  have hread := (record action).toOption_decode (meanings action) Json.Blank.nil Json.Blank.nil h
  rw [List.nil_append, List.append_nil] at hread
  exact hread

theorem floats_toJson (event : Event) : event.toJson.floats = [] := by
  cases event with
  | overwriteFinding finding =>
      obtain ⟨id, tag, status, notes⟩ := finding
      cases notes <;> rfl
  | _ => rfl

/-- The payload of an event is a text of the tree that describes it. -/
theorem language_encode (event : Event) : event.toJson.tree.language event.encode :=
  event.toJson.language_tree (by simp [floats_toJson])

/-- A payload in the current version is decoded as its text says. -/
theorem decode_current (action : Action) (payload : Bytes) :
    decode action.tag currentVersion payload =
      ((record action).decode payload).mapError .decode := by
  simp [decode]

/--
The payload of an event is decoded under its own action as that event.  Under an action
whose required members it has, too, it is decoded as that action's event, and under any
other action it is refused.  No payload is decoded in another version than the current one.
-/
theorem decode_encode (event : Event) (action : Action) :
    (match event.under? action with
      | some meant => decode action.tag currentVersion event.encode = .ok meant
      | none => ∃ error, decode action.tag currentVersion event.encode = .error (.decode error)) ∧
    ∀ version payload, version ≠ currentVersion →
      decode action.tag version payload = .error (.unsupportedVersion action.tag version) := by
  have hread := (toOption_decode event.language_encode action).trans (denote_tree event action)
  constructor
  · rw [decode_current]
    cases hdecode : (record action).decode event.encode with
    | ok meant =>
        have hmeant : event.under? action = some meant := by rw [← hread, hdecode]; rfl
        rw [hmeant]
        rfl
    | error error =>
        have hmeant : event.under? action = none := by rw [← hread, hdecode]; rfl
        rw [hmeant]
        exact ⟨error, rfl⟩
  · intro version payload hversion
    rw [decode, Action.ofTag?_tag]
    exact if_pos hversion

/-- The payload of a deletion, read as one of a creation and in the next version. -/
theorem decode_encode_of_deletion :
    let asset : Asset := ⟨"a", "example.com", ⟨"t", "blue"⟩⟩
    decode "CreateAsset" 1 (deleteAsset asset 2).encode = .ok (createAsset asset) ∧
      decode "CreateAsset" 2 (deleteAsset asset 2).encode =
        .error (.unsupportedVersion "CreateAsset" 2) :=
  let asset : Asset := ⟨"a", "example.com", ⟨"t", "blue"⟩⟩
  have h := decode_encode (deleteAsset asset 2) .createAsset
  ⟨h.1, h.2 2 (deleteAsset asset 2).encode (by decide)⟩

end Event

end OutboxRelay
