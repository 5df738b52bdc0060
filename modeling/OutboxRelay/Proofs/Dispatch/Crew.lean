import OutboxRelay.Broker
import OutboxRelay.Dispatch.Loop
import OutboxRelay.Outbox.Intake
import OutboxRelay.Proofs.Outbox.Shared
import OutboxRelay.Proofs.Program
import Mathlib.Logic.Relation

/-!
# A crew of dispatch loops

Any number of dispatch loops work on one outbox, each with a wake signal of its own.
Callers change the outbox through a broker, which gives a signal to one of the loops
behind each call.  All of them run the programs of the service, call by call, in any
order.

**Rules.**
* A loop that was told to shut down is not a member of a crew.
* A caller whose call is under way is not cancelled.
* Timers and retry probes ring at some time.  A retry probe that rings may first be armed
  again and gives its signal then.
-/

namespace OutboxRelay
namespace Dispatch

open Store (TransactionId)
open Outbox (Shared)

/-! ## Loops -/

/-- A task that sleeps and then gives a signal. -/
inductive Alarm
  | timer
  | probe
  /-- A retry probe that no longer sleeps, and has yet to give the signal. -/
  | rung
  deriving DecidableEq, Repr

/-- A dispatch loop with its wake signal, and the tasks that will give this signal. -/
structure Worker where
  phase : Phase TransactionId Downstream.interface
  wake : WakeSignal
  alarms : List Alarm

namespace Worker

/-- A loop that was not started. -/
def fresh : Worker :=
  ⟨.fresh, .quiet, []⟩

/-- Answers a call on the wake signal. -/
def serve (worker : Worker) : (call : Wake.Call) → call.Reply × Worker
  | .notify => ((), { worker with wake := worker.wake.notify })
  | .notifyAfter _ => ((), { worker with alarms := .timer :: worker.alarms })
  | .armProbe _ =>
      if worker.wake.probeArmed then
        (false, worker)
      else
        (true, { worker with wake := worker.wake.arm.2, alarms := .probe :: worker.alarms })

theorem serve_armProbe_of_armed {worker : Worker} (armed : worker.wake.probeArmed = true)
    (delay : Nat) :
    worker.serve (.armProbe delay) = (false, worker) := by
  exact if_pos armed

theorem serve_armProbe {worker : Worker} (off : ¬ worker.wake.probeArmed = true)
    (delay : Nat) :
    worker.serve (.armProbe delay) =
      (true, { worker with
        wake := worker.wake.arm.2
        alarms := .probe :: worker.alarms }) := by
  exact if_neg off

/-- Whether a loop has nothing to do and will not be woken by itself. -/
def Rests (worker : Worker) : Prop :=
  worker.phase = .parked ∧ worker.wake.take? = none ∧ worker.alarms = []

/-- What a loop can do with an outbox, or what can happen to it. -/
inductive Move (settings : Settings) (faults : Outbox.Faults) (s : Shared) (worker : Worker) :
    Shared → Worker → Prop
  | starts (fresh : worker.phase = .fresh) :
      Move settings faults s worker s { worker with phase := .busy (startUp settings) }
  | stores {program : InLoop TransactionId Downstream.interface Unit}
      {call : Outbox.Call TransactionId} {reply : Except StoreError call.Answer}
      {rest : Except StoreError call.Answer → InLoop TransactionId Downstream.interface Unit}
      {s' : Shared} (busy : worker.phase = .busy program)
      (shape : program.quiet = .call (.inl (.inl call)) rest)
      (served : s.Serves faults call reply s') :
      Move settings faults s worker s' { worker with phase := .busy (rest reply) }
  /-- It makes a call on the vulnerability database, which may answer as it likes. -/
  | consults {program : InLoop TransactionId Downstream.interface Unit}
      {call : Downstream.Call}
      {rest : Except DownstreamError call.Answer →
        InLoop TransactionId Downstream.interface Unit}
      (busy : worker.phase = .busy program)
      (shape : program.quiet = .call (.inl (.inr call)) rest)
      (reply : Except DownstreamError call.Answer) :
      Move settings faults s worker s { worker with phase := .busy (rest reply) }
  | signals {program : InLoop TransactionId Downstream.interface Unit} {call : Wake.Call}
      {rest : call.Reply → InLoop TransactionId Downstream.interface Unit}
      (busy : worker.phase = .busy program) (shape : program.quiet = .call (.inr call) rest) :
      Move settings faults s worker s
        { (worker.serve call).2 with phase := .busy (rest (worker.serve call).1) }
  | parks {program : InLoop TransactionId Downstream.interface Unit}
      (busy : worker.phase = .busy program) (shape : program.quiet = .done ()) :
      Move settings faults s worker s { worker with phase := .parked }
  | wakes {wake : WakeSignal} (parked : worker.phase = .parked)
      (taken : worker.wake.take? = some wake) :
      Move settings faults s worker s
        { worker with phase := .busy (turn Replay.parse settings), wake := wake }
  | waits (parked : worker.phase = .parked) (nothing : worker.wake.take? = none) :
      Move settings faults s worker s { worker with wake := worker.wake.wait }
  | rings (before behind : List Alarm) (due : worker.alarms = before ++ .timer :: behind) :
      Move settings faults s worker s
        { worker with wake := worker.wake.notify, alarms := before ++ behind }
  /-- The retry probe rings, and may be armed again. -/
  | disarms (before behind : List Alarm) (due : worker.alarms = before ++ .probe :: behind) :
      Move settings faults s worker s
        { worker with wake := worker.wake.disarm, alarms := before ++ .rung :: behind }
  /-- The retry probe that rang gives its signal. -/
  | probes (before behind : List Alarm) (due : worker.alarms = before ++ .rung :: behind) :
      Move settings faults s worker s
        { worker with wake := worker.wake.notify, alarms := before ++ behind }

end Worker

/-! ## Callers -/

/-- The calls on the store that a broker forwards. -/
abbrev storeInterface : Interface :=
  (Outbox.interface TransactionId).both Outbox.Intake.interface

/-- What is left of a call through a broker. -/
abbrev Forwarding := Program (Broker.interface storeInterface) Unit

/-- A call that may change the outbox, behind a broker, for whomever it may concern. -/
def forward {α : Type} (call : Program storeInterface α) : Forwarding :=
  (Broker.mutate call).bind fun _ => .done ()

/-- An outbox may serve a call of the intake by a reply and be another one then. -/
def Admits (faults : Outbox.Faults) (s : Shared) :
    (call : Outbox.Intake.Call) → Except StoreError call.Answer → Shared → Prop
  | .publish action version payload, .ok id, s' =>
      ∃ entry : Entry, entry.id = id ∧ entry.action = action.tag ∧
        entry.version = version ∧ entry.payload = payload ∧ s' = s.push entry
  | .publish action version payload, .error _, s' =>
      (faults.early .append ∧ s' = s) ∨
        (faults.late .append ∧ ∃ entry : Entry, entry.action = action.tag ∧
          entry.version = version ∧ entry.payload = payload ∧ s' = s.push entry)
  | .stats, _, s' => s' = s

/-- An outbox may serve a call that a broker forwards. -/
def ServesStore (faults : Outbox.Faults) (s : Shared) :
    (call : storeInterface.Call) → storeInterface.Reply call → Shared → Prop
  | .inl call, reply, s' => s.Serves faults call reply s'
  | .inr call, reply, s' => Admits faults s call reply s'

/-! ## Crews -/

/-- An outbox, the loops that work on it, and the callers that change it. -/
structure Crew (ι κ : Type) where
  outbox : Shared
  worker : ι → Worker
  /-- The call that a caller has under way, and the loop that it gives a signal to. -/
  caller : κ → Option (ι × Forwarding)

namespace Crew

variable {ι κ : Type}

/-- An outbox with some entries on which no loop was started to work. -/
def start (log : List Entry) : Crew ι κ :=
  ⟨.ofEntries log, fun _ => .fresh, fun _ => none⟩

variable [DecidableEq ι] [DecidableEq κ]

/-- What can happen next to a crew. -/
inductive Step (settings : ι → Settings) (faults : Outbox.Faults) : Crew ι κ → Crew ι κ → Prop
  | works {crew : Crew ι κ} {i : ι} {s : Shared} {worker : Worker}
      (moves : (crew.worker i).Move (settings i) faults crew.outbox s worker) :
      Step settings faults crew
        { crew with outbox := s, worker := Function.update crew.worker i worker }
  /-- A caller makes a call through a broker. -/
  | calls {crew : Crew ι κ} {k : κ} {α : Type} (free : crew.caller k = none) (i : ι)
      (call : Program storeInterface α) :
      Step settings faults crew
        { crew with caller := Function.update crew.caller k (some (i, forward call)) }
  | stores {crew : Crew ι κ} {k : κ} {i : ι} {program : Forwarding}
      {call : storeInterface.Call} {rest : storeInterface.Reply call → Forwarding}
      {reply : storeInterface.Reply call} {s : Shared}
      (busy : crew.caller k = some (i, program))
      (shape : program.quiet = .call (.inl call) rest)
      (served : ServesStore faults crew.outbox call reply s) :
      Step settings faults crew
        { crew with
          outbox := s
          caller := Function.update crew.caller k (some (i, rest reply)) }
  | signals {crew : Crew ι κ} {k : κ} {i : ι} {program : Forwarding} {call : Wake.Call}
      {rest : call.Reply → Forwarding} (busy : crew.caller k = some (i, program))
      (shape : program.quiet = .call (.inr call) rest) :
      Step settings faults crew
        { crew with
          worker := Function.update crew.worker i ((crew.worker i).serve call).2
          caller := Function.update crew.caller k
            (some (i, rest ((crew.worker i).serve call).1)) }
  | returns {crew : Crew ι κ} {k : κ} {i : ι} {program : Forwarding}
      (busy : crew.caller k = some (i, program)) (shape : program.quiet = .done ()) :
      Step settings faults crew
        { crew with caller := Function.update crew.caller k none }
  /-- What an orphan holds is freed. -/
  | frees {crew : Crew ι κ} {transaction : TransactionId}
      (orphan : transaction ∈ crew.outbox.orphans) :
      Step settings faults crew { crew with outbox := crew.outbox.close transaction }

/-- A crew can come about from an outbox with some entries. -/
def Reachable (settings : ι → Settings) (faults : Outbox.Faults) (log : List Entry)
    (crew : Crew ι κ) : Prop :=
  Relation.ReflTransGen (Step settings faults) (.start log) crew

/-- Whether a crew rests: every loop does, and no call is under way. -/
def Rests (crew : Crew ι κ) : Prop :=
  (∀ i, (crew.worker i).Rests) ∧ ∀ k, crew.caller k = none

section Runs

variable {settings : ι → Settings} {faults : Outbox.Faults} {log : List Entry}
variable {crew : Crew ι κ} {s : Shared}

/-- A crew that can come about can go on by a move of one of its loops. -/
theorem Reachable.works {worker : Worker} (reachable : Reachable settings faults log crew)
    (i : ι)
    (moves : (crew.worker i).Move (settings i) faults crew.outbox s worker) :
    Reachable settings faults log
      { crew with outbox := s, worker := Function.update crew.worker i worker } := by
  exact reachable.tail (.works moves)

theorem Reachable.stores {program : InLoop TransactionId Downstream.interface Unit}
    (reachable : Reachable settings faults log crew) (i : ι)
    (busy : (crew.worker i).phase = .busy program) (call : Outbox.Call TransactionId)
    (reply : Except StoreError call.Answer)
    {rest : Except StoreError call.Answer → InLoop TransactionId Downstream.interface Unit}
    (shape : program.quiet = .call (.inl (.inl call)) rest)
    (served : crew.outbox.Serves faults call reply s) :
    Reachable settings faults log
      { crew with
        outbox := s
        worker := Function.update crew.worker i
          { crew.worker i with phase := .busy (rest reply) } } := by
  exact reachable.works i (.stores busy shape served)

theorem Reachable.consults {program : InLoop TransactionId Downstream.interface Unit}
    (reachable : Reachable settings faults log crew) (i : ι)
    (busy : (crew.worker i).phase = .busy program) (call : Downstream.Call)
    (reply : Except DownstreamError call.Answer)
    {rest : Except DownstreamError call.Answer → InLoop TransactionId Downstream.interface Unit}
    (shape : program.quiet = .call (.inl (.inr call)) rest) :
    Reachable settings faults log
      { crew with
        worker := Function.update crew.worker i
          { crew.worker i with phase := .busy (rest reply) } } := by
  exact reachable.works i (.consults busy shape reply)

end Runs

end Crew

end Dispatch
end OutboxRelay
