import OutboxRelay.Action
import OutboxRelay.Json.Variant

/-!
# Actions in JSON texts

An action is a variant that is named by its tag.
-/

namespace OutboxRelay
namespace Action

/-- Reads an action. -/
def read (depth : Nat) : Json.Reader Action :=
  Json.Reader.variant all tag depth

/-- The value that describes an action. -/
def toJson (action : Action) : Json.Value :=
  .text action.tag

end Action
end OutboxRelay
