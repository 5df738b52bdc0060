import OutboxRelay.Event.Payload
import OutboxRelay.Program

/-!
# The vulnerability database downstream

The database knows targets, which carry tags, and findings.  Every call is safe to
repeat, or fails in a way that tells that its work was already done.
-/

namespace OutboxRelay

open Json (Field Record Value)

/-- A scan target as the vulnerability database knows it. -/
structure Target where
  id : String
  identifier : String
  tags : List String
  deriving DecidableEq, Repr

namespace Target

/-- The fields of a target, which may have no tags. -/
def record : Record Target where
  title := "Target"
  fields :=
    [.text "id", .text "identifier",
      .optional "tags" (Json.Reader.list fun _ => Json.Reader.text) []]
  build := fun (id, identifier, tags, _) => ⟨id, identifier, tags⟩

/-- The value that describes a target. -/
def toJson (target : Target) : Value :=
  .object [("id", .text target.id), ("identifier", .text target.identifier),
    ("tags", .list (target.tags.map .text))]

end Target

/-- A new status of a finding, with notes or without. -/
structure FindingUpdate where
  status : String
  notes : Option String
  deriving DecidableEq, Repr

namespace FindingUpdate

/-- The fields of an update. -/
def record : Record FindingUpdate where
  title := "FindingUpdate"
  fields :=
    [.text "status", .optional "notes" (fun _ => Json.Reader.optionalText) none]
  build := fun (status, notes, _) => ⟨status, notes⟩

/-- The value that describes an update. -/
def toJson (update : FindingUpdate) : Value :=
  .object (("status", .text update.status) :: Event.notesMember update.notes)

end FindingUpdate

namespace Downstream

/-- The calls on the vulnerability database. -/
inductive Call
  /-- Create a target, or tag the one that exists. -/
  | createTarget (identifier : String) (tags : List String)
  /-- Remove a tag from every target in a scope. -/
  | deleteTag (scope tag : String)
  /-- Remove a tag from one target. -/
  | deleteTargetTag (scope targetId tag : String)
  /-- Look up the targets with an identifier. -/
  | targets (identifier : String)
  /-- Override the status of a finding. -/
  | updateFinding (findingId : String) (update : FindingUpdate) (tag : String)
  deriving DecidableEq, Repr

/-- What a call answers when it succeeds. -/
def Call.Answer : Call → Type
  | createTarget .. => Target
  | deleteTag .. => Unit
  | deleteTargetTag .. => Unit
  | targets _ => List Target
  | updateFinding .. => Unit

/-- The vulnerability database as a party that programs call. -/
def interface : Interface where
  Call := Call
  Reply := fun call => Except DownstreamError call.Answer

end Downstream
end OutboxRelay
