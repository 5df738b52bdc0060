import OutboxRelay.Failure
import OutboxRelay.Program
import OutboxRelay.Text.Utf8
import OutboxRelay.Timestamp
import OutboxRelay.Uuid

/-!
# The outbox

The outbox is a log of entries, oldest first, each a mutation that waits for its
replay.  One of several dispatchers at a time may work on it: it holds the lock that
they share, which lasts as long as the transaction that took it.
-/

namespace OutboxRelay

/-- The key of a dispatch lock. -/
abbrev LockId := Int

/-- The key that dispatchers share unless told otherwise. -/
def defaultLockId : LockId := 1000

/--
A pending entry.  Its action is the stored tag, which may be unknown to this release;
that is a failure of the entry and not of reading it.
-/
structure Entry where
  id : EntryId
  action : String
  version : Int
  payload : Bytes
  attempts : Int
  createdAt : Timestamp
  updatedAt : Timestamp
  deriving DecidableEq, Repr

/-- The outcome of an attempt at the lock, with the transaction that it opened. -/
structure Lock (τ : Type) where
  acquired : Bool
  transaction : τ
  deriving DecidableEq, Repr

namespace Outbox

/-- The calls on a store that holds an outbox. -/
inductive Call (τ : Type)
  /-- All entries, oldest first. -/
  | entries
  /-- Count one more attempt at an entry. -/
  | recordFailure (id : EntryId)
  /-- Remove an entry, if it is still there. -/
  | remove (id : EntryId)
  | removeOldest (count : Int)
  /-- Open a transaction and try, without waiting, to take the lock of a key. -/
  | tryLock (id : LockId)
  /-- Close the transaction of a lock, and so drop the lock if it was held. -/
  | release (lock : Option (Lock τ))

/-- What a call answers when it succeeds. -/
def Call.Answer {τ : Type} : Call τ → Type
  | entries => List Entry
  | recordFailure _ => Unit
  | remove _ => Unit
  | removeOldest _ => Nat
  | tryLock _ => Lock τ
  | release _ => Unit

/-- The outbox as a party that programs call. -/
def interface (τ : Type) : Interface where
  Call := Call τ
  Reply := fun call => Except StoreError call.Answer

end Outbox
end OutboxRelay
