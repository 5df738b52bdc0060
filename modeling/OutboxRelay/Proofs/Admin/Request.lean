import OutboxRelay.Admin.Request
import OutboxRelay.Proofs.Json.Normal
import OutboxRelay.Proofs.Json.Place
import OutboxRelay.Proofs.Event.Payload

/-!
# Payloads in requests

A request to append an event holds a payload as a value of any kind.  The text of the
payload stands in the body of the request, and the value is what that text denotes.

**Results.**
* `AppendRequest.exists_payloadText`: a body that is read has a text of its payload.
* `AppendRequest.exists_value?`: the payload that was read is what that text denotes.
-/

namespace OutboxRelay
namespace Admin

open Json (Field FieldText Meaning Meanings Quotation SoundFields Tree)

namespace AppendRequest

/-- The version denotes the integer that a tree is. -/
def versionMeaning :
    Meaning (.optional "version" (fun _ => Json.Reader.integer 32) currentVersion) :=
  ⟨fun _ => Json.integerOf? 32, fun _ => Json.denotes_integer 32⟩

/-- The payload denotes a value of any kind. -/
def payloadMeaning : Meaning (.required "payload" Json.Reader.value) :=
  ⟨Tree.value?, Json.denotes_value⟩

/-- What the fields of a request denote. -/
def meanings : Meanings record.fields :=
  (.text "action", versionMeaning, payloadMeaning, ())

theorem soundFields : SoundFields record.fields := by
  intro field hfield depth
  simp only [record, List.mem_cons, List.not_mem_nil, or_false] at hfield
  rcases hfield with rfl | rfl | rfl
  · exact Json.sound_text
  · exact Json.sound_integer 32
  · exact Json.sound_value depth

/-- Whether a text is that of the payload in the body of a request. -/
def PayloadText (body text : Bytes) : Prop :=
  FieldText "payload" 2 body text

variable {body text : Bytes} {request : AppendRequest}

/-- What a request denotes has the payload as a part. -/
theorem exists_isField {tree : Tree}
    (h : record.denote meanings Json.depthLimit tree = some request) :
    ∃ part, Tree.IsField "payload" 2 part tree := by
  cases tree with
  | list items =>
      obtain ⟨-, hbuilt⟩ := Option.ite_none_right_eq_some.mp h
      obtain ⟨row, hrow, -⟩ := Option.map_eq_some_iff.mp hbuilt
      match items with
      | [] => cases hrow
      | [action] => cases (Json.of_rowOfTrees?_cons hrow).2
      | [action, version] =>
          cases (Json.of_rowOfTrees?_cons (Json.of_rowOfTrees?_cons hrow).2).2
      | action :: version :: part :: after =>
          exact ⟨part, .inr ⟨[action, version], after, rfl, rfl⟩⟩
  | object members =>
      obtain ⟨row, hrow, -⟩ := Json.Record.exists_of_denote_object (by decide) h
      have hpayload := (Json.of_rowNamed?_cons (Json.of_rowNamed?_cons
        (Json.of_rowNamed?_cons hrow).2).2).1
      obtain ⟨before, q, part, after, hname, rfl⟩ := Json.exists_of_valueOf? rfl hpayload
      exact ⟨part, .inl ⟨before, q, after, hname, rfl⟩⟩
  | _ => cases h

/-- The payload of a request is what its part denotes. -/
theorem value?_of_isField {part tree : Tree}
    (h : record.denote meanings Json.depthLimit tree = some request)
    (hpart : Tree.IsField "payload" 2 part tree) : part.value? 126 = some request.payload := by
  rcases hpart with ⟨before, q, after, hname, rfl⟩ | ⟨before, after, hposition, rfl⟩
  · obtain ⟨row, hrow, rfl⟩ := Json.Record.exists_of_denote_object (by decide) h
    have hpayload := (Json.of_rowNamed?_cons (Json.of_rowNamed?_cons
      (Json.of_rowNamed?_cons hrow).2).2).1
    exact Json.denote_of_valueOf? hname hpayload
  · obtain ⟨action, version, rfl⟩ := List.length_eq_two.mp hposition
    obtain ⟨-, hbuilt⟩ := Option.ite_none_right_eq_some.mp h
    obtain ⟨row, hrow, rfl⟩ := Option.map_eq_some_iff.mp hbuilt
    exact (Json.of_rowOfTrees?_cons (Json.of_rowOfTrees?_cons
      (Json.of_rowOfTrees?_cons hrow).2).2).1

/-- A body that is read has a text of its payload. -/
theorem exists_payloadText (h : record.decode body = .ok request) :
    ∃ text, PayloadText body text := by
  obtain ⟨before, octets, after, tree, rfl, hbefore, hafter, htree⟩ :=
    (Json.Record.sound soundFields Json.depthLimit).exists_of_decode h
  have hdenote := record.toOption_decode meanings hbefore hafter htree
  rw [h] at hdenote
  obtain ⟨part, hpart⟩ := exists_isField hdenote.symm
  obtain ⟨text, htext, hplace⟩ := hpart.exists_text htree
  exact ⟨text, ⟨part, htext⟩, before, octets, after, rfl, hbefore, hafter, hplace⟩

/-- The payload that was read is what the text of the payload denotes. -/
theorem exists_value? (h : record.decode body = .ok request) (htext : PayloadText body text) :
    ∃ tree, Tree.language tree text ∧ tree.value? 126 = some request.payload := by
  obtain ⟨⟨part, hpart⟩, before, octets, after, rfl, hbefore, hafter, hplace⟩ := htext
  obtain ⟨tree, htree, hfield⟩ := Tree.exists_isField hpart hplace
  have hdenote := record.toOption_decode meanings hbefore hafter htree
  rw [h] at hdenote
  exact ⟨part, hpart, value?_of_isField hdenote.symm hfield⟩

end AppendRequest

end Admin
end OutboxRelay
