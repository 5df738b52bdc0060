import OutboxRelay.Program

/-!
# Wake signals

A wake signal tells a dispatcher that there may be work.  Signals coalesce: any number
of them leave at most one that is stored.

**Rules.**

* A signal goes to the dispatcher if it waits for one, and is stored otherwise.
* A dispatcher takes a signal that reached it while it waited before a stored one.
* At most one retry probe is armed at a time.
-/

namespace OutboxRelay
namespace Dispatch

/-- Where the dispatcher that listens to a signal stands. -/
inductive Listener
  | away
  | waiting
  | woken
  deriving DecidableEq, Repr

/-- The state of a wake signal. -/
structure WakeSignal where
  stored : Bool
  listener : Listener
  probeArmed : Bool
  deriving DecidableEq, Repr

namespace WakeSignal

/-- A signal that nobody gave or waits for. -/
def quiet : WakeSignal :=
  ⟨false, .away, false⟩

/-- Gives a signal. -/
def notify (wake : WakeSignal) : WakeSignal :=
  match wake.listener with
  | .waiting => { wake with listener := .woken }
  | .away | .woken => { wake with stored := true }

/-- Takes a signal, if there is one. -/
def take? (wake : WakeSignal) : Option WakeSignal :=
  match wake.listener with
  | .woken => some { wake with listener := .away }
  | .away | .waiting =>
      if wake.stored then
        some { wake with stored := false, listener := .away }
      else
        none

/-- Waits for a signal. -/
def wait (wake : WakeSignal) : WakeSignal :=
  { wake with listener := .waiting }

/-- Goes away; a signal that reached the listener is given back. -/
def leave (wake : WakeSignal) : WakeSignal :=
  match wake.listener with
  | .woken => { wake with listener := .away, stored := true }
  | .away | .waiting => { wake with listener := .away }

/-- Takes a stored signal for someone else than the listener. -/
def poll (wake : WakeSignal) : Bool × WakeSignal :=
  (wake.stored, { wake with stored := false })

/-- Arms the retry probe, unless it is armed. -/
def arm (wake : WakeSignal) : Bool × WakeSignal :=
  (!wake.probeArmed, { wake with probeArmed := true })

/-- Lets the retry probe be armed again. -/
def disarm (wake : WakeSignal) : WakeSignal :=
  { wake with probeArmed := false }

/-- Fires the retry probe: it may be armed again before its signal is given. -/
def fireProbe (wake : WakeSignal) : WakeSignal :=
  wake.disarm.notify

end WakeSignal

namespace Wake

/-- The calls on a wake signal; delays are in milliseconds. -/
inductive Call
  | notify
  | notifyAfter (delay : Nat)
  /-- Arm the retry probe, which gives a signal after a delay. -/
  | armProbe (delay : Nat)
  deriving DecidableEq, Repr

/-- The reply to a call: whether the probe was armed now. -/
def Call.Reply : Call → Type
  | notify => Unit
  | notifyAfter _ => Unit
  | armProbe _ => Bool

/-- A wake signal as a party that programs call. -/
def interface : Interface where
  Call := Call
  Reply := Call.Reply

end Wake
end Dispatch
end OutboxRelay
