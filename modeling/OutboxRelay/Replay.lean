import OutboxRelay.Downstream
import OutboxRelay.Outbox

/-!
# Replay of entries

An entry is decoded and its event is brought about downstream.  A call that fails
because its work is already done counts as success, so that a replay of a replayed
entry is harmless.

**Results.** `apply` resolves one entry or tells why it could not.  `count` has entries
resolved in order up to the first that cannot be resolved and counts them, and `parse`
does so by `apply`.
-/

namespace OutboxRelay
namespace Replay

open Journal (Datum)

/-- A program on the vulnerability database. -/
abbrev OnDownstream := Program Downstream.interface

/-- A program on the vulnerability database that may fail to resolve an entry. -/
abbrev Resolving := ExceptT EventError OnDownstream

/-- A record of the replay. -/
def record (level : Journal.Level) (message : String) (fields : List (String × Datum)) :
    Journal.Record :=
  .of "cdc.parser" level message fields

/-- A call that has to succeed. -/
def demand (call : Downstream.Call) : Resolving call.Answer :=
  ExceptT.mk do
    match ← Program.ask (I := Downstream.interface) call with
    | .ok answer => return .ok answer
    | .error error => return .error (.downstream error)

/-- A reply without content that counts as success if its failure shows the work as done. -/
def absorb (settled : DownstreamError → Bool) (reply : Except DownstreamError Unit) :
    Resolving Unit :=
  ExceptT.mk <|
    match reply with
    | .ok () => return .ok ()
    | .error error =>
        if settled error then do
          Program.log (record .debug "downstream already in desired state"
            [("error", .text error.message)])
          return .ok ()
        else
          return .error (.downstream error)

/-- The reply of a call. -/
def reply (call : Downstream.Call) : Resolving (Except DownstreamError call.Answer) :=
  ExceptT.lift (Program.ask (I := Downstream.interface) call)

/-- Removes the tag of a team from every target. -/
def deleteTeamTag (team : Team) : Resolving Unit := do
  absorb DownstreamError.isNotFound (← reply (.deleteTag team.tag team.tag))

/-- Creates the target of an asset with the tag of its team. -/
def createAsset (asset : Asset) : Resolving Unit := do
  let _ ← demand (.createTarget asset.identifier [asset.team.tag])

/--
Removes the tag of an asset's team from the asset's target, which must be the only one
with its identifier.  The tag stays while the team has duplicates of the asset.
-/
def deleteAsset (asset : Asset) (duplicates : Int64) : Resolving Unit := do
  if 0 < duplicates then
    ExceptT.lift (Program.log
      (record .debug "asset still has duplicates, keeping downstream tag"
        [("asset_id", .text asset.id), ("dup_assets", .number duplicates.toInt)]))
  else
    let targets : List Target ← demand (.targets asset.identifier)
    match targets with
    | [] => return ()
    | [target] =>
        let tag := asset.team.tag
        absorb (fun error => error.isNotFound || error.isForbidden)
          (← reply (.deleteTargetTag tag target.id tag))
    | _ => throw (.targetNotUnique asset.identifier targets.length)

/-- Overrides the status of a finding. -/
def overwriteFinding (finding : FindingOverwrite) : Resolving Unit := do
  absorb DownstreamError.isNotFound
    (← reply (.updateFinding finding.findingId ⟨finding.status, finding.notes⟩
      finding.tag))

/--
Brings an event about.  Both halves of an update are safe to repeat: if the creation
fails, the next replay starts with the deletion again.
-/
def applyEvent : Event → Resolving Unit
  | .deleteTeam team => deleteTeamTag team
  | .deleteAllAssets team => deleteTeamTag team
  | .createAsset asset => createAsset asset
  | .deleteAsset asset duplicates => deleteAsset asset duplicates
  | .updateAsset old new duplicates => do
      deleteAsset old duplicates
      createAsset new
  | .overwriteFinding finding => overwriteFinding finding

/-- Resolves an entry. -/
def apply (entry : Entry) : OnDownstream (Except EventError Unit) :=
  match Event.decode entry.action entry.version entry.payload with
  | .ok event => (applyEvent event).run
  | .error error => return .error error

/-- The resolution of entries as something that programs ask for, one entry at a time. -/
def interface : Interface where
  Call := Entry
  Reply := fun _ => Except EventError Unit

/-- The record of an entry that could not be resolved. -/
def failureRecord (entry : Entry) (error : EventError) : Journal.Record :=
  record .error "could not apply outbox entry"
    [("entry_id", .text entry.id.text), ("action", .text entry.action),
      ("attempts", .number entry.attempts), ("error", .text error.message)]

/--
Has entries resolved in order and counts them.  The first entry that cannot be resolved
is recorded, and nothing after it is attempted.
-/
def count : List Entry → Program interface Nat
  | [] => return 0
  | entry :: entries => do
      match ← Program.ask (I := interface) entry with
      | .ok () => return (← count entries) + 1
      | .error error =>
          Program.log (failureRecord entry error)
          return 0

/-- Resolves entries in order and counts them. -/
def parse (entries : List Entry) : OnDownstream Nat :=
  (count entries).through apply

end Replay
end OutboxRelay
