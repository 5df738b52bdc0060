import OutboxRelay.Action
import OutboxRelay.Outbox

/-!
# The intake of an outbox

Beside the dispatchers there are writers, which add entries to an outbox, and there is
who looks after it and wants to know how it stands.
-/

namespace OutboxRelay
namespace Outbox

/-- How an outbox stands. -/
structure Stats where
  pending : Nat
  oldest : Option Timestamp
  highestAttempts : Option Int
  deriving DecidableEq, Repr

namespace Stats

/-- A value, or null when there is nothing. -/
def orNull {α : Type} (write : α → Json.Value) : Option α → Json.Value
  | none => .null
  | some value => write value

/-- The value that describes how an outbox stands. -/
def toJson (stats : Stats) : Json.Value :=
  .object [("pending", .integer stats.pending),
    ("oldest", orNull Timestamp.toJson stats.oldest),
    ("highest_attempts", orNull .integer stats.highestAttempts)]

end Stats

namespace Intake

/-- The calls of writers and onlookers. -/
inductive Call
  | publish (action : Action) (version : Int) (payload : Bytes)
  /-- Tell how the outbox stands. -/
  | stats

/-- What a call answers when it succeeds. -/
def Call.Answer : Call → Type
  | publish .. => EntryId
  | stats => Stats

/-- The intake as a party that programs call. -/
def interface : Interface where
  Call := Call
  Reply := fun call => Except StoreError call.Answer

end Intake
end Outbox
end OutboxRelay
