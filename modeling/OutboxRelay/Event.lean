import OutboxRelay.Action

/-!
# Events

An event is a mutation with all that its replay needs.  There is one kind of event for
each action.
-/

namespace OutboxRelay

/-- A team: its tag names it downstream and is its authorization scope there. -/
structure Team where
  id : String
  tag : String
  deriving DecidableEq, Repr

/-- An asset of a team. -/
structure Asset where
  id : String
  identifier : String
  team : Team
  deriving DecidableEq, Repr

/-- A status that overrides the one of a finding, with notes or without. -/
structure FindingOverwrite where
  findingId : String
  tag : String
  status : String
  notes : Option String
  deriving DecidableEq, Repr

/--
A mutation to be replayed.  The duplicates of a deleted asset are the other assets of
its team with the same identifier, counted when the event was written.
-/
inductive Event
  | deleteTeam (team : Team)
  | createAsset (asset : Asset)
  | deleteAsset (asset : Asset) (duplicates : Int64)
  | updateAsset (old new : Asset) (duplicates : Int64)
  | deleteAllAssets (team : Team)
  | overwriteFinding (finding : FindingOverwrite)
  deriving DecidableEq, Repr

/-- The action of an event. -/
def Event.action : Event → Action
  | deleteTeam _ => .deleteTeam
  | createAsset _ => .createAsset
  | deleteAsset .. => .deleteAsset
  | updateAsset .. => .updateAsset
  | deleteAllAssets _ => .deleteAllAssets
  | overwriteFinding _ => .findingOverwrite

end OutboxRelay
