import OutboxRelay.Store.Statement

/-!
# The store of an outbox

This module serves the calls on an outbox by statements on a database.

**Rules.**

* A transaction that cannot be finished is abandoned.
* A lock comes with its transaction, whether it was acquired or not, and is dropped
  when the transaction is committed.
-/

namespace OutboxRelay
namespace Store

variable {α : Type}

/-- Finishes work within a transaction, or abandons the transaction. -/
def orAbandon (transaction : TransactionId) (work : Querying α) : Querying α :=
  ExceptT.mk do
    match ← work.run with
    | .ok value => return .ok value
    | .error error => do
        ask (.abandon transaction)
        return .error error

/-- Inserts an entry with a new identifier within a transaction. -/
def append (transaction : TransactionId) (action : Action) (version : Int)
    (payload : Bytes) : Querying EntryId := do
  let id : EntryId ← ExceptT.lift (ask .freshId)
  ExceptT.mk (ask (.insert transaction id action version payload))
  return id

/-- Inserts an entry within a transaction of its own. -/
def publish (action : Action) (version : Int) (payload : Bytes) : Querying EntryId := do
  let transaction ← ExceptT.mk (ask .openTransaction)
  let id ← orAbandon transaction (append transaction action version payload)
  ExceptT.mk (ask (.commit transaction))
  return id

/-- Opens a transaction and tries to take a lock within it. -/
def tryLock (key : LockId) : Querying (Lock TransactionId) := do
  let transaction ← ExceptT.mk (ask .openTransaction)
  let acquired ← orAbandon transaction (ExceptT.mk (ask (.tryLock transaction key)))
  return ⟨acquired, transaction⟩

/-- Drops a lock, if there is one. -/
def release : Option (Lock TransactionId) → Querying Unit
  | some lock => ExceptT.mk (ask (.commit lock.transaction))
  | none => return ()

/-- The failure when fewer than no entries are to be removed. -/
def negativeCount (count : Int) : StoreError :=
  .validation ("cannot remove a negative number of entries: " ++ toString count)

/-- A program of statements whose failure is one of the store. -/
def stored (work : Querying α) : OnDatabase (Except StoreError α) := do
  return (← work.run).mapError .database

/-- Serves a call of a dispatcher. -/
def serve : (call : Outbox.Call TransactionId) →
    OnDatabase (Except StoreError call.Answer)
  | .entries => stored (ExceptT.mk (ask .selectAll))
  | .recordFailure id => stored (ExceptT.mk (ask (.countAttempt id)))
  | .remove id => stored (ExceptT.mk (ask (.delete id)))
  | .removeOldest count =>
      if count < 0 then return .error (negativeCount count)
      else stored (ExceptT.mk (ask (.deleteOldest count.toNat)))
  | .tryLock key => stored (tryLock key)
  | .release lock => stored (release lock)

/-- Serves a call of a writer or an onlooker. -/
def serveIntake : (call : Outbox.Intake.Call) →
    OnDatabase (Except StoreError call.Answer)
  | .publish action version payload => stored (publish action version payload)
  | .stats => stored (ExceptT.mk (ask .summarize))

end Store
end OutboxRelay
