import OutboxRelay.Event.Payload

/-!
# Requests of an administrator

An administrator can append an event to the outbox and compact the outbox.
-/

namespace OutboxRelay
namespace Admin

open Json (Record Value)

/-- A request to append an event. -/
structure AppendRequest where
  action : String
  version : Int
  payload : Value

/-- The fields of such a request; without a version the current one is meant. -/
def AppendRequest.record : Record AppendRequest where
  title := "AppendRequest"
  fields :=
    [.text "action",
      .optional "version" (fun _ => Json.Reader.integer 32) currentVersion,
      .required "payload" Json.Reader.value]
  build := fun (action, version, payload, _) => ⟨action, version, payload⟩

/-- A request to drop so many of the oldest entries. -/
structure CompactRequest where
  count : Int
  deriving DecidableEq, Repr

/-- The fields of such a request. -/
def CompactRequest.record : Record CompactRequest where
  title := "CompactRequest"
  fields := [.integer "count" 64]
  build := fun (count, _) => ⟨count⟩

end Admin
end OutboxRelay
