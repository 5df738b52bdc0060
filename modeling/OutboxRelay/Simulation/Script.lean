import OutboxRelay.Simulation.World

/-!
# Acting on a simulated world

These are the things that a script does to a world: it starts and stops dispatch loops,
gives signals, lets time pass, makes calls through the broker of an instance, and runs
passes of its own.  Behind each of them everything runs that is due.
-/

namespace OutboxRelay
namespace Simulation
namespace World

open Dispatch (Outcome)

/-! ## Instances -/

/-- The instance with a name. -/
def instance? (w : World) (name : String) : Option Instance :=
  w.instances.lookup name

/-- Puts an instance in place of the one with its name. -/
def setInstance (w : World) (name : String) (it : Instance) : World :=
  { w with
    instances := (name, it) :: w.instances.filter fun other => other.1 ≠ name }

/-- The signal of the instance with a name, which exists from its first use on. -/
def signalOf (w : World) (name : String) : SignalId × World :=
  match w.instance? name with
  | some it => (it.signal, w)
  | none =>
      let (signal, w) := w.addSignal
      (signal, w.setInstance name ⟨signal, none, false⟩)

/-- Tells a loop to shut down. -/
def stop (w : World) (id : JobId) : World :=
  match w.jobs[id]? with
  | some (.loop loop) =>
      let w := w.setJob id (.loop { loop with stopping := true })
      match loop.phase with
      | .parked => w.resume id
      | _ => w
  | _ => w

/-- Whether a loop has shut down. -/
def hasEnded (w : World) (id : JobId) : Bool :=
  match w.jobs[id]? with
  | some (.loop loop) =>
      match loop.phase with
      | .ended => true
      | _ => false
  | _ => true

/-- Starts a loop under a name; the loop that had the name is told to shut down. -/
def startLoop (w : World) (name : String) : World :=
  let before := w.instance? name
  let (signal, w) := w.addSignal
  let (id, w) := w.spawn (.loop ⟨name, signal, false, .fresh⟩)
  let w := w.setInstance name ⟨signal, some id, true⟩
  match before with
  | some ⟨_, some old, true⟩ => w.stop old
  | _ => w

/--
Tells the loop of an instance to shut down, and tells whether the loop was still there.
Nothing, if the instance has no loop that can be told.
-/
def shutdown (w : World) (name : String) : Option Bool × World :=
  match w.instance? name with
  | some ⟨_, some id, true⟩ =>
      if w.hasEnded id then (some false, w) else (some true, w.stop id)
  | _ => (none, w)

/-- Drops the means to tell a loop to shut down, which also ends it. -/
def dropShutdown (w : World) (name : String) : Bool × World :=
  match w.instance? name with
  | some ⟨signal, some id, true⟩ =>
      (true, (w.setInstance name ⟨signal, some id, false⟩).stop id)
  | _ => (false, w)

/-- The names of the instances whose loop has not ended. -/
def running (w : World) : List String :=
  let live := w.instances.filter fun (_, it) =>
    match it.loop with
    | some id => !w.hasEnded id
    | none => false
  (live.map Prod.fst).mergeSort fun a b => decide (a ≤ b)

/-! ## Signals -/

/-- Gives a signal to an instance. -/
def notifyInstance (w : World) (name : String) : World :=
  let (signal, w) := w.signalOf name
  w.notify signal

/-- Gives a signal to an instance after a delay. -/
def notifyInstanceAfter (w : World) (name : String) (delay : Nat) : World :=
  let (signal, w) := w.signalOf name
  w.notifyAfter signal delay

/-- Arms the retry probe of an instance. -/
def armInstance (w : World) (name : String) (delay : Nat) : Bool × World :=
  let (signal, w) := w.signalOf name
  w.armProbe signal delay

/-- Takes the stored signal of an instance, and tells whether there was one. -/
def pollInstance (w : World) (name : String) : Bool × World :=
  let (signal, w) := w.signalOf name
  let (stored, wake) := (w.signal signal).poll
  (stored, w.setSignal signal wake)

/-! ## Direct calls -/

section Direct

variable {α : Type}

/-- A program of a direct call: it works on the outbox and downstream. -/
abbrev Direct (α : Type) := Dispatch.OnOutbox Unit Downstream.interface α

/-- Runs a program to its end; meanwhile the jobs of the world go on. -/
def direct : Direct α → World → α × World
  | .done result, w => (result, w)
  | .note entry rest, w => direct rest (w.record entry)
  | .call (.inl call) rest, w =>
      let (reply, w) := w.serveOutbox call
      direct (rest reply) w
  | .call (.inr call) rest, w =>
      let (reply, w) := w.serveDownstream call
      direct (rest reply) w.pause

/--
Runs a program up to its first call on the vulnerability database, and tells whether
there was one.
-/
def untilDownstream : Direct α → World → Direct α × Bool × World
  | .done result, w => (.done result, false, w)
  | .note entry rest, w => untilDownstream rest (w.record entry)
  | .call (.inl call) rest, w =>
      let (reply, w) := w.serveOutbox call
      untilDownstream (rest reply) w
  | .call (.inr call) rest, w =>
      let (reply, w) := w.serveDownstream call
      (rest reply, true, w)

/-- Runs a pass. -/
def pass (w : World) : Outcome × World :=
  direct (Dispatch.runPass Replay.parse w.settings) w

/-- Runs two passes, the second one from where the first one waits or has ended. -/
def race (w : World) : (Outcome × Outcome) × World :=
  let (rest, waits, w) := untilDownstream (Dispatch.runPass Replay.parse w.settings) w
  let (second, w) := direct (Dispatch.runPass Replay.parse w.settings) w
  let (first, w) := direct rest (if waits then w.pause else w)
  ((first, second), w)

/-- Resolves an entry. -/
def applyEntry (w : World) (entry : Entry) : Except EventError Unit × World :=
  direct (Replay.apply entry).onSecond w

/-- Resolves entries in order and counts them. -/
def parseEntries (w : World) (entries : List Entry) : Nat × World :=
  direct (Replay.parse entries).onSecond w

/-- Tries to take the lock, and keeps it if the call succeeds. -/
def holdLock (w : World) : Except StoreError Bool × World :=
  let (reply, w) := w.serveOutbox (.tryLock w.settings.lockId)
  match reply with
  | .ok lock =>
      let lock : Lock Unit := lock
      (.ok lock.acquired, { w with locks := lock :: w.locks })
  | .error error => (.error error, w)

/-- Releases the lock that was kept last, or none. -/
def releaseLock (w : World) : Except StoreError Unit × World :=
  match w.locks with
  | lock :: locks => { w with locks := locks }.serveOutbox (.release (some lock))
  | [] => w.serveOutbox (.release none)

end Direct

/-! ## Calls through a broker -/

/-- The calls that a broker forwards: those of a dispatcher, and those of a writer. -/
def storeInterface : Interface :=
  (Outbox.interface Unit).both Outbox.Append.interface

/-- A call of a dispatcher. -/
def storeCall (call : Outbox.Call Unit) :
    Program storeInterface (Except StoreError call.Answer) :=
  Program.ask (I := storeInterface) (Sum.inl call)

/-- The call of a writer. -/
def appendCall (entry : Entry) : Program storeInterface (Except StoreError EntryId) :=
  Program.ask (I := storeInterface) (Sum.inr entry)

/-- Answers a call that a broker forwards, or its signal. -/
def serveBroker (signal : SignalId) :
    (call : (Broker.interface storeInterface).Call) →
      StateM World ((Broker.interface storeInterface).Reply call)
  | .inl (.inl call) => fun w => w.serveOutbox call
  | .inl (.inr entry) => fun w =>
      let (reply, outbox) := w.outbox.append entry
      (reply, { w with outbox := outbox })
  | .inr call => fun w => w.serveWake signal call

/-- Runs a program of the broker of an instance. -/
def broker {α : Type} (w : World) (name : String)
    (program : Program (Broker.interface storeInterface) α) : α × World :=
  let (signal, w) := w.signalOf name
  program.run (m := StateM World) (serveBroker signal)
    (fun entry w => ((), w.record entry)) w

end World
end Simulation
end OutboxRelay
