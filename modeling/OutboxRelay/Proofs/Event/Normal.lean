import OutboxRelay.Proofs.Event.Payload
import OutboxRelay.Proofs.Json.Normal
import OutboxRelay.Proofs.Json.Place

/-!
# Payloads that went through a value

A payload may be read as a value of any kind and printed again before it is decoded.  The
event is the one that is decoded of the text as it was, if one is.

**Results.**
* `Event.decode_eq_ok_iff`: what it takes to decode an event.
* `Event.decode_normal`: the event of a text is the one of the value that the text denotes.
-/

namespace OutboxRelay

open Json (Lasting Meanings Tree Value)

theorem Team.last : Meanings.Last Team.record.fields Team.meanings :=
  ⟨fun _ => Json.lasting_text, fun _ => Json.lasting_text, trivial⟩

/-- What a team denotes lasts. -/
theorem Team.lasting (depth : Nat) : Lasting (Team.record.denote Team.meanings depth) :=
  Json.Record.lasting Team.record (by decide) Team.last depth

theorem Asset.last : Meanings.Last Asset.record.fields Asset.meanings :=
  ⟨fun _ => Json.lasting_text, fun _ => Json.lasting_text, Team.lasting, trivial⟩

/-- What an asset denotes lasts. -/
theorem Asset.lasting (depth : Nat) : Lasting (Asset.record.denote Asset.meanings depth) :=
  Json.Record.lasting Asset.record (by decide) Asset.last depth

namespace Event

theorem last (action : Action) : Meanings.Last (record action).fields (meanings action) := by
  have integer : Lasting (Json.integerOf? 64) := Json.lasting_integer (Nat.le_refl 64)
  cases action with
  | deleteTeam => exact ⟨Team.lasting, trivial⟩
  | createAsset => exact ⟨Asset.lasting, trivial⟩
  | deleteAsset => exact ⟨Asset.lasting, fun _ => integer, trivial⟩
  | updateAsset => exact ⟨Asset.lasting, Asset.lasting, fun _ => integer, trivial⟩
  | deleteAllAssets => exact ⟨Team.lasting, trivial⟩
  | findingOverwrite =>
      exact ⟨fun _ => Json.lasting_text, fun _ => Json.lasting_text, fun _ => Json.lasting_text,
        fun _ => Json.lasting_optionalText, trivial⟩

/-- What a payload denotes under an action lasts. -/
theorem lasting_denote (action : Action) : Lasting (denote action) :=
  (record action).lasting (nodup_names action) (last action) Json.depthLimit

/-- An event is decoded in the current version, of the record of its action. -/
theorem decode_eq_ok_iff {tag : String} {version : Int} {payload : Bytes} {event : Event} :
    decode tag version payload = .ok event ↔
      ∃ action : Action, tag = action.tag ∧ version = currentVersion ∧
        (record action).decode payload = .ok event := by
  constructor
  · intro h
    rw [decode] at h
    split at h
    · cases h
    rename_i action htag
    split at h
    · cases h
    rename_i hversion
    refine ⟨action, ?_, by simpa using hversion, Json.eq_ok_of_mapError h⟩
    exact Eq.symm (by simpa using List.find?_some htag)
  · rintro ⟨action, rfl, rfl, hrecord⟩
    rw [decode_current, hrecord]
    rfl

/-- What an event is built of decides its action. -/
theorem action_build (action : Action) (row : Json.Row (record action).fields) :
    ((record action).build row).action = action := by
  cases action <;> rfl

theorem action_of_denote {action : Action} {tree : Tree} {event : Event}
    (h : denote action tree = some event) : event.action = action := by
  cases tree with
  | list items =>
      obtain ⟨-, hbuilt⟩ := Option.ite_none_right_eq_some.mp h
      obtain ⟨row, -, rfl⟩ := Option.map_eq_some_iff.mp hbuilt
      exact action_build action row
  | object members =>
      obtain ⟨row, -, rfl⟩ := Option.map_eq_some_iff.mp h
      exact action_build action row
  | _ => cases h

section Values

variable {tree : Tree} {depth : Nat} {value : Value} {tag : String} {version : Int}
  {event : Event}

/-- The payload of a value that was read is decoded as what the value's tree denotes. -/
theorem toOption_decode_encode (hvalue : tree.value? depth = some value) (action : Action) :
    ((record action).decode value.encode).toOption = denote action value.tree :=
  toOption_decode (Tree.language_of_value? hvalue) action

/-- The event that is decoded of a text is decoded as well of the value of that text. -/
theorem decode_normal {text : Bytes} (htree : tree.language text)
    (hvalue : tree.value? depth = some value) (h : decode tag version text = .ok event) :
    decode tag version value.encode = .ok event := by
  obtain ⟨action, rfl, rfl, hrecord⟩ := decode_eq_ok_iff.mp h
  have hdenote : denote action tree = some event := by
    rw [← toOption_decode htree, hrecord]
    rfl
  have hnormal := lasting_denote action depth tree value hvalue event hdenote
  refine decode_eq_ok_iff.mpr ⟨action, rfl, rfl, Json.eq_ok_of_toOption ?_⟩
  rw [toOption_decode_encode hvalue, hnormal]

/-- The action of an event that is decoded of a value is the one that was asked for. -/
theorem tag_of_decode_normal (hvalue : tree.value? depth = some value)
    (h : decode tag version value.encode = .ok event) :
    tag = event.action.tag ∧ version = currentVersion := by
  obtain ⟨action, rfl, rfl, hrecord⟩ := decode_eq_ok_iff.mp h
  have hdenote : denote action value.tree = some event := by
    rw [← toOption_decode_encode hvalue, hrecord]
    rfl
  exact ⟨congrArg Action.tag (action_of_denote hdenote).symm, rfl⟩

end Values

end Event

end OutboxRelay
