import OutboxRelay.Admin.Request
import OutboxRelay.Admin.Response
import OutboxRelay.Broker
import OutboxRelay.Outbox.Intake

/-!
# What is done for an administrator

Every request is carried out by calls on the store, through the broker, so that the
dispatcher learns of a change.

**Rules.**

* An event is appended only if it can be decoded the way in which it will be stored;
  an entry that cannot be replayed would block everything behind it.
* Nothing else than appending and compacting gives a signal.
-/

namespace OutboxRelay
namespace Admin

open Http (Response)

section Handlers

variable (τ : Type)

/-- The calls on the store of an administrator. -/
def storeInterface : Interface :=
  (Outbox.interface τ).both Outbox.Intake.interface

variable {τ}

/-- A program on the store. -/
abbrev OnStore (τ : Type) := Program (storeInterface τ)

/-- A program on the store and the wake signal behind a broker. -/
abbrev AtDesk (τ : Type) := Program (Broker.interface (storeInterface τ))

/-- A call on the intake. -/
def intakeCall (call : Outbox.Intake.Call) :
    OnStore τ (Except StoreError call.Answer) :=
  Program.ask (I := storeInterface τ) (Sum.inr call)

/-- A call on the outbox. -/
def outboxCall (call : Outbox.Call τ) : OnStore τ (Except StoreError call.Answer) :=
  Program.ask (I := storeInterface τ) (Sum.inl call)

/-- Tells of a failure. -/
def fail (error : StoreError) : AtDesk τ Response := do
  match failureRecord? error with
  | some record => Program.log record
  | none => return ofFailure error
  return ofFailure error

/-- The record of an entry that was appended. -/
def appendedRecord (id : EntryId) (action : Action) : Journal.Record :=
  ⟨.info, "outbox entry appended",
    [("entry_id", .text id.text), ("action", .text action.tag)]⟩

/-- The record of a compaction. -/
def compactedRecord (requested : Int) (deleted : Nat) : Journal.Record :=
  ⟨.warn, "outbox compacted",
    [("requested", .number requested), ("deleted", .number deleted)]⟩

/-- Appends an event. -/
def append (request : AppendRequest) : AtDesk τ Response := do
  let payload := request.payload.encode
  match Event.decode request.action request.version payload with
  | .error error => fail (refusal error)
  | .ok event =>
      let action := event.action
      match ← Broker.mutate (intakeCall (.publish action request.version payload)) with
      | .error error => fail error
      | .ok id =>
          let id : EntryId := id
          Program.log (appendedRecord id action)
          return json 201 (appendedBody id)

/-- Tells how the outbox stands. -/
def stats : AtDesk τ Response := do
  match ← Broker.read (intakeCall .stats) with
  | .error error => fail error
  | .ok stats =>
      let stats : Outbox.Stats := stats
      return json 200 stats.toJson

/-- Drops so many of the oldest entries. -/
def compact (request : CompactRequest) : AtDesk τ Response := do
  if request.count < 1 then
    fail (.validation "count must be at least 1")
  else
    match ← Broker.mutate (outboxCall (.removeOldest request.count)) with
    | .error error => fail error
    | .ok deleted =>
        let deleted : Nat := deleted
        Program.log (compactedRecord request.count deleted)
        return json 200 (deletedBody deleted)

end Handlers

end Admin
end OutboxRelay
