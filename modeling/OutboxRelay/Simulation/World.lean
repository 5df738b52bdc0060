import OutboxRelay.Broker
import OutboxRelay.Dispatch.Loop
import OutboxRelay.Downstream.Scripted
import OutboxRelay.Outbox.Memory

/-!
# A simulated world

The world holds one outbox in memory, one scripted vulnerability database, and jobs
that take turns: dispatch loops, and alarms that give a signal after a delay.

**Algorithm.**

1. Jobs that can go on stand in a queue.  The first one runs until it has to wait.
2. A job that only gives way comes back when the queue has run empty.
3. When no job can go on, the clock moves to the next deadline, and the jobs that
   waited for it go on in the order in which they began to wait.
-/

namespace OutboxRelay
namespace Simulation

open Dispatch (InLoop Phase Settings WakeSignal)

/-- The number of a wake signal. -/
abbrev SignalId := Nat

/-- The number of a job. -/
abbrev JobId := Nat

/-- A dispatch loop: its name, its signal, and whether it was told to shut down. -/
structure LoopJob where
  name : String
  signal : SignalId
  stopping : Bool
  phase : Phase Unit Downstream.interface

/-- An alarm that gives a signal; a retry probe may be armed again when it goes off. -/
structure AlarmJob where
  signal : SignalId
  delay : Nat
  isProbe : Bool
  set : Bool
  rung : Bool

/-- A job. -/
inductive Job
  | loop (job : LoopJob)
  | alarm (job : AlarmJob)

/-- A job that waits for a deadline. -/
structure Waiting where
  deadline : Nat
  job : JobId

/-- An instance: its signal, its loop if one was started, and whether it can be told to stop. -/
structure Instance where
  signal : SignalId
  loop : Option JobId
  sender : Bool

/-- The state of the world. -/
structure World where
  now : Nat
  settings : Settings
  outbox : Outbox.Memory
  downstream : Downstream.Scripted
  signals : Array WakeSignal
  jobs : Array Job
  ready : List JobId
  givingWay : List JobId
  waiting : List Waiting
  instances : List (String × Instance)
  locks : List (Lock Unit)
  journal : List Journal.Record

namespace World

/-- A world at time zero with some entries, in which nothing runs. -/
def start (settings : Settings) (entries : List Entry) : World where
  now := 0
  settings := settings
  outbox := .ofEntries entries
  downstream := .blank
  signals := #[]
  jobs := #[]
  ready := []
  givingWay := []
  waiting := []
  instances := []
  locks := []
  journal := []

/-! ## Records, signals and jobs -/

/-- Adds a record to the journal. -/
def record (w : World) (entry : Journal.Record) : World :=
  { w with journal := entry :: w.journal }

/-- The records since they were last asked for, in order. -/
def takeJournal (w : World) : List Journal.Record × World :=
  (w.journal.reverse, { w with journal := [] })

/-- A signal of the world. -/
def signal (w : World) (id : SignalId) : WakeSignal :=
  w.signals.getD id .quiet

/-- Changes a signal of the world. -/
def setSignal (w : World) (id : SignalId) (wake : WakeSignal) : World :=
  { w with signals := w.signals.setIfInBounds id wake }

/-- Adds a signal to the world. -/
def addSignal (w : World) : SignalId × World :=
  (w.signals.size, { w with signals := w.signals.push .quiet })

/-- Lets a job go on behind the others that can. -/
def resume (w : World) (id : JobId) : World :=
  { w with ready := w.ready ++ [id] }

/-- Lets a job go on before the others. -/
def resumeFirst (w : World) (id : JobId) : World :=
  { w with ready := id :: w.ready }

/-- Adds a job that can go on. -/
def spawn (w : World) (job : Job) : JobId × World :=
  let id := w.jobs.size
  (id, { w with jobs := w.jobs.push job }.resume id)

/-- Changes a job. -/
def setJob (w : World) (id : JobId) (job : Job) : World :=
  { w with jobs := w.jobs.setIfInBounds id job }

/-- The loop that listens to a signal. -/
def listener? (w : World) (id : SignalId) : Option JobId :=
  w.jobs.findIdx? fun job =>
    match job with
    | .loop loop => loop.signal == id
    | .alarm _ => false

/-- Puts a signal in place of another; a loop that it woke goes on. -/
def give (w : World) (id : SignalId) (after : WakeSignal) : World :=
  let before := w.signal id
  let w := w.setSignal id after
  if before.listener = .waiting ∧ after.listener = .woken then
    match w.listener? id with
    | some job => w.resume job
    | none => w
  else
    w

/-- Gives a signal. -/
def notify (w : World) (id : SignalId) : World :=
  w.give id (w.signal id).notify

/-- Gives a signal after a delay. -/
def notifyAfter (w : World) (id : SignalId) (delay : Nat) : World :=
  (w.spawn (.alarm ⟨id, delay, false, false, false⟩)).2

/-- Arms the retry probe of a signal, and tells whether it was not armed before. -/
def armProbe (w : World) (id : SignalId) (delay : Nat) : Bool × World :=
  let (armed, wake) := (w.signal id).arm
  if armed then
    let w := w.setSignal id wake
    (true, (w.spawn (.alarm ⟨id, delay, true, false, false⟩)).2)
  else
    (false, w)

/-- Answers a call on a signal. -/
def serveWake (w : World) (id : SignalId) : (call : Dispatch.Wake.Call) → call.Reply × World
  | .notify => ((), w.notify id)
  | .notifyAfter delay => ((), w.notifyAfter id delay)
  | .armProbe delay => w.armProbe id delay

/-- Answers a call on the outbox. -/
def serveOutbox (w : World) (call : Outbox.Call Unit) :
    Except StoreError call.Answer × World :=
  let (reply, outbox) := w.outbox.serve call
  (reply, { w with outbox := outbox })

/-- Decides the answer to a call on the vulnerability database. -/
def serveDownstream (w : World) (call : Downstream.Call) :
    Except DownstreamError call.Answer × World :=
  let (reply, downstream) := w.downstream.serve call
  (reply, { w with downstream := downstream })

/-! ## Turns -/

/-- Lets a job wait for an answer of the vulnerability database. -/
def awaitAnswer (w : World) (id : JobId) : World :=
  if w.downstream.delay = 0 then
    { w with givingWay := w.givingWay ++ [id] }
  else
    { w with waiting := w.waiting ++ [⟨w.now + w.downstream.delay, id⟩] }

/-- Runs a program of a loop until it waits or ends. -/
def runLoop (id : JobId) (loop : LoopJob) :
    InLoop Unit Downstream.interface Unit → World → World
  | .done (), w =>
      (w.setJob id (.loop { loop with phase := .parked })).resumeFirst id
  | .note entry rest, w => runLoop id loop rest (w.record entry)
  | .call (.inl (.inl call)) rest, w =>
      let (reply, w) := w.serveOutbox call
      runLoop id loop (rest reply) w
  | .call (.inl (.inr call)) rest, w =>
      let (reply, w) := w.serveDownstream call
      (w.setJob id (.loop { loop with phase := .busy (rest reply) })).awaitAnswer id
  | .call (.inr call) rest, w =>
      let (reply, w) := w.serveWake loop.signal call
      runLoop id loop (rest reply) w

/-- Runs a program that makes no calls. -/
def runNotes : InLoop Unit Downstream.interface Unit → World → World
  | .note entry rest, w => runNotes rest (w.record entry)
  | _, w => w

/-- Lets a parked loop shut down, take a signal, or wait. -/
def turnParked (w : World) (id : JobId) (loop : LoopJob) : World :=
  let wake := w.signal loop.signal
  if loop.stopping then
    runNotes Dispatch.shutDown
      ((w.setSignal loop.signal wake.leave).setJob id
        (.loop { loop with phase := .ended }))
  else
    match wake.take? with
    | some wake =>
        runLoop id loop (Dispatch.turn Replay.parse w.settings)
          (w.setSignal loop.signal wake)
    | none =>
        (w.setSignal loop.signal wake.wait).setJob id
          (.loop { loop with phase := .parked })

/-- Lets a loop go on. -/
def turnLoop (w : World) (id : JobId) (loop : LoopJob) : World :=
  match loop.phase with
  | .fresh => runLoop id loop (Dispatch.startUp w.settings) w
  | .parked => w.turnParked id loop
  | .busy rest => runLoop id loop rest w
  | .ended => w

/-- Lets an alarm wait, or go off. -/
def turnAlarm (w : World) (id : JobId) (alarm : AlarmJob) : World :=
  if alarm.rung then
    w
  else if alarm.set || alarm.delay = 0 then
    let w := w.setJob id (.alarm { alarm with rung := true })
    if alarm.isProbe then
      w.give alarm.signal (w.signal alarm.signal).fireProbe
    else
      w.notify alarm.signal
  else
    let w := w.setJob id (.alarm { alarm with set := true })
    { w with waiting := w.waiting ++ [⟨w.now + alarm.delay, id⟩] }

/-- Lets a job go on. -/
def turn (w : World) (id : JobId) : World :=
  match w.jobs[id]? with
  | some (.loop loop) => w.turnLoop id loop
  | some (.alarm alarm) => w.turnAlarm id alarm
  | none => w

/-- Runs jobs until none can go on or the rounds are used up. -/
def runReady : Nat → World → World
  | 0, w => w
  | rounds + 1, w =>
      match w.ready with
      | [] => w
      | id :: rest => runReady rounds ({ w with ready := rest }.turn id)

/-- The turns that jobs may take at one instant, after which the world counts as quiet. -/
def turnLimit : Nat := 1000000

/-- Runs the jobs of the queue; those that gave way come back behind it. -/
def round (w : World) : World :=
  let w := runReady turnLimit w
  { w with ready := w.ready ++ w.givingWay, givingWay := [] }

/-- Runs rounds until no job can go on. -/
def settleFrom : Nat → World → World
  | 0, w => w
  | rounds + 1, w =>
      let w := w.round
      if w.ready.isEmpty then w else settleFrom rounds w

/-- Runs everything that is due at the current instant. -/
def settle (w : World) : World :=
  settleFrom turnLimit w

/-! ## Time -/

/-- The next deadline of a waiting job. -/
def nextDeadline? (w : World) : Option Nat :=
  (w.waiting.map Waiting.deadline).min?

/-- Moves the clock and lets go on what waited for that time. -/
def moveTo (w : World) (time : Nat) : World :=
  let due := w.waiting.filter fun waiting => waiting.deadline ≤ time
  { w with
    now := time
    waiting := w.waiting.filter fun waiting => time < waiting.deadline
    ready := w.ready ++ due.map Waiting.job }

/-- Lets time pass up to a point, with all that is due on the way but not at its end. -/
def passUntil : Nat → Nat → World → World
  | 0, _, w => w
  | rounds + 1, time, w =>
      match w.nextDeadline? with
      | some deadline =>
          if deadline < time then
            passUntil rounds time (w.moveTo deadline).settle
          else
            w
      | none => w

/-- Lets so many milliseconds pass. -/
def advance (w : World) (milliseconds : Nat) : World :=
  let time := w.now + milliseconds
  ((passUntil milliseconds time w.settle).moveTo time).settle

/-- Lets others run while a direct call waits for an answer of the vulnerability database. -/
def pause (w : World) : World :=
  if w.downstream.delay = 0 then
    w.round
  else
    let time := w.now + w.downstream.delay
    (passUntil w.downstream.delay time w.settle).moveTo time

end World
end Simulation
end OutboxRelay
