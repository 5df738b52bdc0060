import OutboxRelay.Admin.Router
import OutboxRelay.Dispatch.Loop
import OutboxRelay.Downstream.Scripted
import OutboxRelay.Store.Database
import OutboxRelay.Store.Repository

/-!
# A simulated service

A service keeps its outbox in a database, answers an administrator, and runs passes
against a scripted vulnerability database.  Somebody at the database may write to it by
hand, in a transaction that stays open from one thing to the next, and may hold locks
under names.

**Rules.**

* Nothing here takes time: the clock of the database moves only when it is told to.
* A signal that the administrator causes is stored until somebody asks for it.
-/

namespace OutboxRelay
namespace Simulation

open Dispatch (Outcome Settings WakeSignal)
open Store (Database TransactionId)

/-- The state of a service. -/
structure Service where
  database : Database
  wake : WakeSignal
  downstream : Downstream.Scripted
  /-- The records of the journal, the last one first. -/
  journal : List Journal.Record
  /-- The locks that are kept under names. -/
  locks : List (String × Lock TransactionId)
  /-- The transaction of who writes by hand, if one is open. -/
  writing : Option TransactionId

namespace Service

variable {α : Type}

/-- A service on a database, which was never asked for anything. -/
def start (database : Database) : Service where
  database := database
  wake := .quiet
  downstream := .blank
  journal := []
  locks := []
  writing := none

/-! ## Records, time and rows -/

/-- Adds a record to the journal. -/
def record (s : Service) (entry : Journal.Record) : Service :=
  { s with journal := entry :: s.journal }

/-- The records since they were last asked for, in order. -/
def takeJournal (s : Service) : List Journal.Record × Service :=
  (s.journal.reverse, { s with journal := [] })

/-- The calls on the vulnerability database since they were last asked for, in order. -/
def takeCalls (s : Service) : List Downstream.Call × Service :=
  let (calls, downstream) := s.downstream.takeCalls
  (calls, { s with downstream := downstream })

/-- Sets the clock of the database. -/
def setClock (s : Service) (clock : Timestamp) : Service :=
  { s with database := { s.database with clock := clock } }

/-- Lets so many microseconds pass at the database. -/
def elapse (s : Service) (microseconds : Nat) : Service :=
  s.setClock (s.database.clock + microseconds)

/-- Puts an entry into the database, past everything that could prevent it. -/
def seed (s : Service) (entry : Entry) : Service :=
  { s with database := { s.database with rows := s.database.rows ++ [entry] } }

/-- Switches a kind of statement off or on, and tells whether that changed anything. -/
def disable (s : Service) (kind : Store.Kind) (off : Bool) : Bool × Service :=
  let (changed, database) := s.database.disable kind off
  (changed, { s with database := database })

/-- Closes all ways to the database but those that are in use. -/
def close (s : Service) : Service :=
  { s with database := { s.database with closed := true } }

/-! ## Calls -/

/-- Runs a program of statements. -/
def query (s : Service) (program : Store.OnDatabase α) : α × Service :=
  let (result, database) := s.database.run program
  (result, { s with database := database })

/-- Answers a call on the outbox. -/
def serveOutbox (s : Service) (call : Outbox.Call TransactionId) :
    Except StoreError call.Answer × Service :=
  s.query (Store.serve call)

/-- Answers a call on the intake. -/
def serveIntake (s : Service) (call : Outbox.Intake.Call) :
    Except StoreError call.Answer × Service :=
  s.query (Store.serveIntake call)

/-- Answers a call on the vulnerability database. -/
def serveDownstream (s : Service) (call : Downstream.Call) :
    Except DownstreamError call.Answer × Service :=
  let (reply, downstream) := s.downstream.serve call
  (reply, { s with downstream := downstream })

/-- Answers a call on the wake signal; nobody is there whom a delayed signal could reach. -/
def serveWake (s : Service) : (call : Dispatch.Wake.Call) → call.Reply × Service
  | .notify => ((), { s with wake := s.wake.notify })
  | .notifyAfter _ => ((), s)
  | .armProbe _ =>
      let (armed, wake) := s.wake.arm
      (armed, { s with wake := wake })

/-- Takes the stored signal, and tells whether there was one. -/
def pollWake (s : Service) : Bool × Service :=
  let (stored, wake) := s.wake.poll
  (stored, { s with wake := wake })

/-! ## Passes and requests -/

/-- Answers a call of a pass. -/
def servePass : (call : (Dispatch.interface TransactionId Downstream.interface).Call) →
    StateM Service ((Dispatch.interface TransactionId Downstream.interface).Reply call)
  | .inl call => fun s => s.serveOutbox call
  | .inr call => fun s => s.serveDownstream call

/-- Runs a pass. -/
def pass (s : Service) (settings : Settings) : Outcome × Service :=
  (Dispatch.runPass Replay.parse settings).run (m := StateM Service) servePass
    (fun entry s => ((), s.record entry)) s

/-- Answers a call of what is done for an administrator. -/
def serveDesk :
    (call : (Broker.interface (Admin.storeInterface TransactionId)).Call) →
      StateM Service ((Broker.interface (Admin.storeInterface TransactionId)).Reply call)
  | .inl (.inl call) => fun s => s.serveOutbox call
  | .inl (.inr call) => fun s => s.serveIntake call
  | .inr call => fun s => s.serveWake call

/-- Answers a request of an administrator. -/
def answer (s : Service) (incoming : Admin.Incoming) : Http.Response × Service :=
  (Admin.handle (τ := TransactionId) incoming).run (m := StateM Service) serveDesk
    (fun entry s => ((), s.record entry)) s

/-! ## Writing by hand -/

/-- Opens the transaction of who writes by hand. -/
def openWriting (s : Service) : Except StoreError Unit × Service :=
  let (reply, s) := s.query (Store.stored (ExceptT.mk (Store.ask .openTransaction)))
  match reply with
  | .error error => (.error error, s)
  | .ok transaction => (.ok (), { s with writing := some transaction })

/-- Inserts an entry within a transaction. -/
def append (s : Service) (transaction : TransactionId) (action : Action) (version : Int)
    (payload : Bytes) : Except StoreError EntryId × Service :=
  s.query (Store.stored (Store.append transaction action version payload))

/-- Ends the transaction of who writes by hand and keeps what it did. -/
def commit (s : Service) (transaction : TransactionId) : Except StoreError Unit × Service :=
  { s with writing := none }.query
    (Store.stored (ExceptT.mk (Store.ask (.commit transaction))))

/-- Ends the transaction of who writes by hand and undoes what it did. -/
def abandon (s : Service) (transaction : TransactionId) : Service :=
  ({ s with writing := none }.query (Store.ask (.abandon transaction))).2

/-! ## Locks under names -/

/-- Whether a lock is kept under a name. -/
def holds (s : Service) (name : String) : Bool :=
  (s.locks.lookup name).isSome

/-- Tries to take a lock; what comes of it is kept under a name, even if it was taken. -/
def tryLock (s : Service) (name : String) (key : LockId) :
    Except StoreError Bool × Service :=
  let (reply, s) := s.serveOutbox (.tryLock key)
  match reply with
  | .error error => (.error error, s)
  | .ok lock =>
      let lock : Lock TransactionId := lock
      (.ok lock.acquired, { s with locks := (name, lock) :: s.locks })

/-- Releases the lock that is kept under a name, or none. -/
def release (s : Service) (name : String) : Except StoreError Unit × Service :=
  let lock := s.locks.lookup name
  let others := s.locks.filter fun other => other.1 ≠ name
  { s with locks := others }.serveOutbox (.release lock)

end Service
end Simulation
end OutboxRelay
