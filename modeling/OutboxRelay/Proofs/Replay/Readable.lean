import OutboxRelay.Proofs.Program
import OutboxRelay.Replay

/-!
# Entries that can be read

An entry that can be decoded may still fail to be resolved, but then the vulnerability
database is to blame, whatever it replies.

**Method.** Only decoding has faults of the entry's own.  Every step behind it fails with
what was replied or with what was found, and sequences pass these faults on.
-/

namespace OutboxRelay

/-- Whether a fault is one of the entry itself, which no other attempt can get past. -/
def EventError.IsUnreadable : EventError → Prop
  | decode _ | unsupportedAction _ | unsupportedVersion .. => True
  | downstream _ | targetNotUnique .. => False

namespace Replay

variable {α β : Type}

/-- Whether work fails with no fault of the entry itself, whatever replies it gets. -/
def Blameless (work : Resolving α) : Prop :=
  Program.Ensures (fun (_ : Unit) _ _ _ => True) (fun _ => True)
    (fun result _ => ∀ error, result = .error error → ¬error.IsUnreadable) work.run ()

theorem Blameless.bind {work : Resolving α} {next : α → Resolving β} (h : Blameless work)
    (h' : ∀ a, Blameless (next a)) : Blameless (work >>= next) := by
  rw [Blameless, ExceptT.run_bind]
  refine Program.Ensures.bind h fun result _ _ hresult => ?_
  cases result with
  | ok a => exact h' a
  | error error =>
      exact ⟨trivial, fun other hother => by
        obtain rfl : error = other := Except.error.inj hother
        exact hresult error rfl⟩

theorem blameless_pure (a : α) : Blameless (pure a) :=
  ⟨trivial, fun _ h => nomatch h⟩

theorem blameless_demand (call : Downstream.Call) : Blameless (demand call) := by
  refine ⟨trivial, fun reply _ _ => ?_⟩
  cases reply with
  | ok answer => exact ⟨trivial, fun _ h => nomatch h⟩
  | error error =>
      refine ⟨trivial, fun other hother => ?_⟩
      obtain rfl := Except.error.inj hother
      exact id

theorem blameless_reply (call : Downstream.Call) : Blameless (reply call) :=
  ⟨trivial, fun _ _ _ => ⟨trivial, fun _ h => nomatch h⟩⟩

theorem blameless_absorb (settled : DownstreamError → Bool)
    (replied : Except DownstreamError Unit) : Blameless (absorb settled replied) := by
  cases replied with
  | ok answer => exact ⟨trivial, fun _ h => nomatch h⟩
  | error error =>
      rw [Blameless, absorb, ExceptT.run_mk]
      split
      · exact ⟨trivial, fun _ h => nomatch h⟩
      · refine ⟨trivial, fun other hother => ?_⟩
        obtain rfl := Except.error.inj hother
        exact id

theorem blameless_createAsset (asset : Asset) : Blameless (createAsset asset) :=
  (blameless_demand _).bind fun _ => blameless_pure ()

theorem blameless_deleteTeamTag (team : Team) : Blameless (deleteTeamTag team) :=
  (blameless_reply _).bind fun _ => blameless_absorb _ _

theorem blameless_deleteAsset (asset : Asset) (duplicates : Int64) :
    Blameless (deleteAsset asset duplicates) := by
  unfold deleteAsset
  split
  · exact ⟨trivial, fun _ h => nomatch h⟩
  · refine (blameless_demand _).bind fun targets => ?_
    match targets with
    | [] => exact blameless_pure ()
    | [target] => exact (blameless_reply _).bind fun _ => blameless_absorb _ _
    | first :: second :: others =>
        refine ⟨trivial, fun other hother => ?_⟩
        obtain rfl := Except.error.inj hother
        exact id

/-- Bringing an event about is never the entry's fault. -/
theorem blameless_applyEvent (event : Event) : Blameless (applyEvent event) := by
  cases event with
  | deleteTeam team => exact blameless_deleteTeamTag team
  | deleteAllAssets team => exact blameless_deleteTeamTag team
  | createAsset asset => exact blameless_createAsset asset
  | deleteAsset asset duplicates => exact blameless_deleteAsset asset duplicates
  | updateAsset old new duplicates =>
      exact (blameless_deleteAsset old duplicates).bind fun _ => blameless_createAsset new
  | overwriteFinding finding =>
      exact (blameless_reply _).bind fun _ => blameless_absorb _ _

/-- An entry that can be decoded is not to blame if it cannot be resolved. -/
theorem not_isUnreadable_of_runs {entry : Entry} {event : Event}
    (decoded : Event.decode entry.action entry.version entry.payload = .ok event)
    {error : EventError}
    (run : Program.Runs (fun (_ : Unit) _ _ _ => True) (apply entry) () (.error error) ()) :
    ¬error.IsUnreadable := by
  rw [apply, decoded] at run
  exact Program.Ensures.of_runs (blameless_applyEvent event) run error rfl

end Replay
end OutboxRelay
