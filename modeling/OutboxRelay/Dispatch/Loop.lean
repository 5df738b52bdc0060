import OutboxRelay.Dispatch.Pass
import OutboxRelay.Dispatch.Wake

/-!
# The dispatch loop

A dispatcher parks on its wake signal and runs one turn per signal until it is told to
shut down.  A turn is a pass and, if the pass failed in a way that may pass, the arming
of a retry probe.

**Rules.**

* Shutdown takes effect only while the dispatcher is parked.
* A pass that asks for a retry leaves a probe armed.
-/

namespace OutboxRelay
namespace Dispatch

section Loop

variable {τ : Type} {R : Interface}

/-- The parties of a dispatch loop: those of a pass, and its wake signal. -/
def loopInterface (τ : Type) (R : Interface) : Interface :=
  (interface τ R).both Wake.interface

/-- A program of a dispatch loop. -/
abbrev InLoop (τ : Type) (R : Interface) := Program (loopInterface τ R)

/-- A call on the wake signal of the loop. -/
def onWake (call : Wake.Call) : InLoop τ R call.Reply :=
  Program.ask (I := loopInterface τ R) (Sum.inr call)

/-- What a loop does first: a probe will drain what a previous run left behind. -/
def startUp (settings : Settings) : InLoop τ R Unit := do
  Program.log (record .info "outbox dispatcher started" [])
  onWake (.notifyAfter settings.startupDelay)

/-- What a loop does when it was woken; the record of a probe leaves out the outcome. -/
def turn (parse : List Entry → Program R Nat) (settings : Settings) : InLoop τ R Unit := do
  let outcome ← Program.onFirst (runPass parse settings)
  if outcome.needsRetry then
    let armed : Bool ← onWake (.armProbe settings.retryDelay)
    if armed then
      Program.log (record .debug "scheduling retry probe"
        [("delay_ms", .number settings.retryDelay)])

/-- What a loop does when it was told to shut down. -/
def shutDown : InLoop τ R Unit :=
  Program.log (record .info "outbox dispatcher shutting down" [])

/-- Where a loop stands. -/
inductive Phase (τ : Type) (R : Interface)
  | fresh
  | parked
  /-- In a turn, or in its start, of which a program is left. -/
  | busy (rest : InLoop τ R Unit)
  | ended

/-- What makes a parked loop go on. -/
inductive Stimulus
  | signal
  | shutdown
  deriving DecidableEq, Repr

/-- The program that a parked loop goes on with, and whether it parks again behind it. -/
def Stimulus.response (parse : List Entry → Program R Nat) (settings : Settings) :
    Stimulus → InLoop τ R Unit × Bool
  | signal => (turn parse settings, true)
  | shutdown => (shutDown, false)

end Loop

end Dispatch
end OutboxRelay
