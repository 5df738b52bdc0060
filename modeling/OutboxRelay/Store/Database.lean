import OutboxRelay.Store.Statement

/-!
# A database in memory

The database holds the committed entries and the open transactions.  It may be out of
reach or closed, it lets only so many connections be open, and each kind of statement
can be switched off.

**Rules.**

* An open transaction keeps a connection; any other statement needs a free one.
* Entries are ordered by the time of their making and, at the same time, by their
  identifiers.
-/

namespace OutboxRelay
namespace Store

/-- The kinds of statements that can be switched off. -/
inductive Kind
  | openTransaction
  | commit
  | insert
  | tryLock
  | selectAll
  | countAttempt
  | delete
  | deleteOldest
  | summarize
  deriving DecidableEq, Repr

/-- An open transaction: what it inserted, the first one first, and its locks. -/
structure Transaction where
  id : TransactionId
  inserted : List Entry
  keys : List LockId
  deriving DecidableEq, Repr

/-- A database. -/
structure Database where
  /-- The committed entries, in the order in which they were committed. -/
  rows : List Entry
  transactions : List Transaction
  /-- The number of the next transaction. -/
  nextTransaction : TransactionId
  clock : Timestamp
  ids : Uuid.Source
  /-- How many connections may be open. -/
  capacity : Nat
  closed : Bool
  /-- Why the database is out of reach, if it is. -/
  outage : Option String
  disabled : List Kind
  deriving DecidableEq, Repr

/-- Whether an entry comes before another one, or is the same. -/
def comesBefore (a b : Entry) : Bool :=
  a.createdAt < b.createdAt ||
    (a.createdAt == b.createdAt && a.id.toNat ≤ b.id.toNat)

/-- The greatest number of attempts that is counted. -/
def attemptsMax : Int := 0x7FFFFFFF

namespace Database

variable {α : Type}

/-- An empty database. -/
def empty (clock : Timestamp) (capacity : Nat) : Database where
  rows := []
  transactions := []
  nextTransaction := 0
  clock := clock
  ids := ⟨0, 0⟩
  capacity := capacity
  closed := false
  outage := none
  disabled := []

/-- The committed entries in order. -/
def entries (db : Database) : List Entry :=
  db.rows.mergeSort comesBefore

/-- How the committed entries stand. -/
def stats (db : Database) : Outbox.Stats where
  pending := db.rows.length
  oldest := (db.rows.map Entry.createdAt).min?
  highestAttempts := (db.rows.map Entry.attempts).max?

/-- The transaction with a number, if it is open. -/
def transaction? (db : Database) (id : TransactionId) : Option Transaction :=
  db.transactions.find? fun transaction => transaction.id = id

/-- Puts a transaction in place of the one with its number. -/
def setTransaction (db : Database) (changed : Transaction) : Database :=
  { db with
    transactions := db.transactions.map fun transaction =>
      if transaction.id = changed.id then changed else transaction }

/-- Ends a transaction. -/
def dropTransaction (db : Database) (id : TransactionId) : Database :=
  { db with
    transactions := db.transactions.filter fun transaction => transaction.id ≠ id }

/-- Whether a lock is held by a transaction other than one. -/
def isHeldByOther (db : Database) (id : TransactionId) (key : LockId) : Bool :=
  db.transactions.any fun transaction =>
    transaction.id ≠ id && transaction.keys.contains key

/-- Switches a kind of statement off or on, and tells whether that changed anything. -/
def disable (db : Database) (kind : Kind) (off : Bool) : Bool × Database :=
  if off then
    (!db.disabled.contains kind,
      { db with disabled := kind :: db.disabled.filter (· ≠ kind) })
  else
    (db.disabled.contains kind,
      { db with disabled := db.disabled.filter (· ≠ kind) })

/-- The failure of a statement that is switched off. -/
def injected : DatabaseError :=
  .rejected "injected failure"

/-- The failure of a statement on a transaction that is not open. -/
def noTransaction : DatabaseError :=
  .rejected "no such transaction"

/-- Whether a connection can be had. -/
def connect (db : Database) : Except DatabaseError Unit :=
  if db.closed then .error .poolClosed
  else if db.capacity ≤ db.transactions.length then .error .poolTimedOut
  else
    match db.outage with
    | some reason => .error (.unreachable reason)
    | none => .ok ()

/-- Whether a statement of a kind works. -/
def permit (db : Database) (kind : Kind) : Except DatabaseError Unit :=
  if db.disabled.contains kind then .error injected else .ok ()

/-- Carries a statement out that needs a connection. -/
def connected (db : Database) (kind : Kind)
    (work : Database → Except DatabaseError α × Database) :
    Except DatabaseError α × Database :=
  match db.connect, db.permit kind with
  | .error error, _ => (.error error, db)
  | .ok (), .error error => (.error error, db)
  | .ok (), .ok () => work db

/-- Carries a statement out within a transaction. -/
def within (db : Database) (id : TransactionId) (kind : Kind)
    (work : Transaction → Except DatabaseError α × Database) :
    Except DatabaseError α × Database :=
  match db.transaction? id, db.permit kind with
  | none, _ => (.error noTransaction, db)
  | some _, .error error => (.error error, db)
  | some transaction, .ok () => work transaction

/-- An entry that is made now. -/
def newEntry (db : Database) (id : EntryId) (action : Action) (version : Int)
    (payload : Bytes) : Entry where
  id := id
  action := action.tag
  version := version
  payload := payload
  attempts := 0
  createdAt := db.clock
  updatedAt := db.clock

/-- Opens a transaction. -/
def openTransaction (db : Database) : Except DatabaseError TransactionId × Database :=
  db.connected .openTransaction fun db =>
    (.ok db.nextTransaction, { db with
      transactions := db.transactions ++ [⟨db.nextTransaction, [], []⟩]
      nextTransaction := db.nextTransaction + 1 })

/-- Inserts an entry within a transaction. -/
def insert (db : Database) (id : TransactionId) (entry : Entry) :
    Except DatabaseError Unit × Database :=
  db.within id .insert fun transaction =>
    (.ok (), db.setTransaction
      { transaction with inserted := transaction.inserted ++ [entry] })

/-- Tries to take a lock within a transaction. -/
def tryLock (db : Database) (id : TransactionId) (key : LockId) :
    Except DatabaseError Bool × Database :=
  db.within id .tryLock fun transaction =>
    if db.isHeldByOther id key then
      (.ok false, db)
    else
      (.ok true, db.setTransaction { transaction with keys := key :: transaction.keys })

/-- Ends a transaction and keeps what it did, unless that fails. -/
def commit (db : Database) (id : TransactionId) : Except DatabaseError Unit × Database :=
  match db.transaction? id, db.permit .commit with
  | none, _ => (.error noTransaction, db)
  | some _, .error error => (.error error, db.dropTransaction id)
  | some transaction, .ok () =>
      let db := db.dropTransaction id
      (.ok (), { db with rows := db.rows ++ transaction.inserted })

/-- Whether an attempt at some entry with an identifier can no longer be counted. -/
def isExhausted (db : Database) (id : EntryId) : Bool :=
  db.rows.any fun entry => entry.id = id && attemptsMax ≤ entry.attempts

/-- Counts one more attempt at an entry. -/
def countAttempt (db : Database) (id : EntryId) : Except DatabaseError Unit × Database :=
  db.connected .countAttempt fun db =>
    if db.isExhausted id then
      (.error (.rejected "integer out of range"), db)
    else
      (.ok (), { db with
        rows := db.rows.map fun entry =>
          if entry.id = id then
            { entry with attempts := entry.attempts + 1, updatedAt := db.clock }
          else
            entry })

/-- Deletes the entries with some identifiers, and tells how many there were. -/
def deleteAll (db : Database) (ids : List EntryId) : Nat × Database :=
  let (gone, kept) := db.rows.partition fun entry => ids.contains entry.id
  (gone.length, { db with rows := kept })

/-- Deletes an entry. -/
def delete (db : Database) (id : EntryId) : Except DatabaseError Unit × Database :=
  db.connected .delete fun db => (.ok (), (db.deleteAll [id]).2)

/-- Deletes so many of the oldest entries. -/
def deleteOldest (db : Database) (count : Nat) : Except DatabaseError Nat × Database :=
  db.connected .deleteOldest fun db =>
    let (deleted, db) := db.deleteAll ((db.entries.take count).map Entry.id)
    (.ok deleted, db)

/-- Carries a statement out. -/
def execute (db : Database) : (statement : Statement) → statement.Reply × Database
  | .freshId =>
      let (id, ids) := db.ids.fresh
      (id, { db with ids := ids })
  | .openTransaction => db.openTransaction
  | .insert transaction id action version payload =>
      db.insert transaction (db.newEntry id action version payload)
  | .tryLock transaction key => db.tryLock transaction key
  | .commit transaction => db.commit transaction
  | .abandon transaction => ((), db.dropTransaction transaction)
  | .selectAll => db.connected .selectAll fun db => (.ok db.entries, db)
  | .countAttempt id => db.countAttempt id
  | .delete id => db.delete id
  | .deleteOldest count => db.deleteOldest count
  | .summarize => db.connected .summarize fun db => (.ok db.stats, db)

/-- Serves a statement. -/
def serve (statement : Statement) : StateM Database statement.Reply :=
  fun db => db.execute statement

/-- Runs a program of statements, which records nothing. -/
def run (program : OnDatabase α) (db : Database) : α × Database :=
  (Program.run (I := interface) (m := StateM Database) serve (fun _ => pure ())
    program).run db

end Database
end Store
end OutboxRelay
