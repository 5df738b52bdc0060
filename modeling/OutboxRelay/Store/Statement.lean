import OutboxRelay.Outbox.Intake

/-!
# Statements

A store keeps its entries in a database.  It works on the database by statements, some
of which belong to a transaction that was opened before.

**Rules.**

* What a transaction inserts is seen by others once the transaction is committed.
* A lock that a transaction takes lasts until the transaction ends.
* A transaction ends when it is committed, even if that fails, or abandoned.
-/

namespace OutboxRelay
namespace Store

/-- The number of a transaction. -/
abbrev TransactionId := Nat

/-- The statements. -/
inductive Statement
  | freshId
  | openTransaction
  | insert (transaction : TransactionId) (id : EntryId) (action : Action)
      (version : Int) (payload : Bytes)
  /-- Try, without waiting, to take a lock. -/
  | tryLock (transaction : TransactionId) (key : LockId)
  /-- End a transaction and keep what it did. -/
  | commit (transaction : TransactionId)
  /-- End a transaction and undo what it did. -/
  | abandon (transaction : TransactionId)
  /-- Read all entries by the time and the identifier of their making. -/
  | selectAll
  | countAttempt (id : EntryId)
  | delete (id : EntryId)
  | deleteOldest (count : Nat)
  /-- Tell how the entries stand. -/
  | summarize

/-- The reply to a statement. -/
def Statement.Reply : Statement → Type
  | freshId => EntryId
  | openTransaction => Except DatabaseError TransactionId
  | insert .. => Except DatabaseError Unit
  | tryLock .. => Except DatabaseError Bool
  | commit _ => Except DatabaseError Unit
  | abandon _ => Unit
  | selectAll => Except DatabaseError (List Entry)
  | countAttempt _ => Except DatabaseError Unit
  | delete _ => Except DatabaseError Unit
  | deleteOldest _ => Except DatabaseError Nat
  | summarize => Except DatabaseError Outbox.Stats

/-- A database as a party that programs call. -/
def interface : Interface where
  Call := Statement
  Reply := Statement.Reply

/-- A program of statements. -/
abbrev OnDatabase := Program interface

/-- A program of statements that may fail. -/
abbrev Querying := ExceptT DatabaseError OnDatabase

/-- The reply to a statement. -/
def ask (statement : Statement) : OnDatabase statement.Reply :=
  Program.ask (I := interface) statement

end Store
end OutboxRelay
