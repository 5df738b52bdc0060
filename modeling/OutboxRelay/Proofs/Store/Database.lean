import OutboxRelay.Proofs.Outbox.Shared
import OutboxRelay.Proofs.Program
import OutboxRelay.Store.Database
import OutboxRelay.Store.Repository
import Mathlib.Data.Prod.Lex

/-!
# Statements that work

A statement may fail for many reasons.  When it works, it has done one thing, and so has the
program of statements that serves a call on the outbox.

**Results.**
* `Performs`: what a call on the outbox does to the database when it works.
* `performs_of_run`: the programs that serve the calls do this.
* `entries_sorted`: the entries are read in the order of their making.
-/

namespace OutboxRelay
namespace Store

/-- The place of an entry among all entries: the time of its making, and its identifier. -/
def rank (entry : Entry) : Lex (Int × Nat) :=
  toLex (entry.createdAt, entry.id.toNat)

theorem comesBefore_iff {a b : Entry} : comesBefore a b = true ↔ rank a ≤ rank b := by
  simp [comesBefore, rank, Prod.Lex.le_iff]

namespace Database

open Outbox (markFailed without)

/-- The database with one more open transaction, which has some locks. -/
def opened (db : Database) (keys : List LockId) : Database :=
  { db with
    transactions := db.transactions ++ [⟨db.nextTransaction, [], keys⟩]
    nextTransaction := db.nextTransaction + 1 }

/-- Whether the numbers of the open transactions were given out before. -/
def Numbered (db : Database) : Prop :=
  ∀ transaction ∈ db.transactions, transaction.id < db.nextTransaction

/-- Whether some transaction has a lock. -/
def isHeld (db : Database) (key : LockId) : Bool :=
  db.transactions.any fun transaction => transaction.keys.contains key

section Last

variable {db : Database} {transaction changed : Transaction}

theorem mem_of_setTransaction (h : transaction ∈ (db.setTransaction changed).transactions) :
    transaction ∈ db.transactions ∨ transaction = changed := by
  obtain ⟨before, among, rfl⟩ := List.mem_map.mp h
  split
  · exact .inr rfl
  · exact .inl among

/-- The database with one more open transaction. -/
def withLast (db : Database) (transaction : Transaction) : Database :=
  { db with
    transactions := db.transactions ++ [transaction]
    nextTransaction := db.nextTransaction + 1 }

theorem ne_of_numbered (h : db.Numbered) :
    ∀ other ∈ db.transactions, other.id ≠ db.nextTransaction :=
  fun other among => Nat.ne_of_lt (h other among)

theorem transaction?_withLast (h : db.Numbered) (hid : transaction.id = db.nextTransaction) :
    (db.withLast transaction).transaction? db.nextTransaction = some transaction := by
  have hnone : (db.transactions.find? fun other => other.id = db.nextTransaction) = none := by
    simpa [List.find?_eq_none] using ne_of_numbered h
  simp [transaction?, withLast, List.find?_append, hnone, hid]

theorem setTransaction_withLast (h : db.Numbered) (hid : transaction.id = db.nextTransaction)
    (hid' : changed.id = db.nextTransaction) :
    (db.withLast transaction).setTransaction changed = db.withLast changed := by
  have kept : (db.transactions.map fun other =>
      if other.id = db.nextTransaction then changed else other) = db.transactions :=
    (List.map_congr_left fun other among => if_neg (ne_of_numbered h other among)).trans
      (List.map_id _)
  simp [setTransaction, withLast, kept, hid, hid']

theorem dropTransaction_withLast (h : db.Numbered) (hid : transaction.id = db.nextTransaction) :
    (db.withLast transaction).dropTransaction db.nextTransaction =
      { db with nextTransaction := db.nextTransaction + 1 } := by
  simpa [dropTransaction, withLast, hid] using ne_of_numbered h

end Last

section Statements

variable {α : Type} {db db' : Database} {kind : Kind} {result : α} {id : TransactionId}

theorem eq_of_connected {work : Database → Except DatabaseError α × Database}
    (served : db.connected kind work = (.ok result, db')) :
    work db = (.ok result, db') := by
  unfold connected at served
  split at served
  · cases served
  · cases served
  · exact served

theorem exists_of_within {work : Transaction → Except DatabaseError α × Database}
    (served : db.within id kind work = (.ok result, db')) :
    ∃ transaction, db.transaction? id = some transaction ∧
      work transaction = (.ok result, db') := by
  unfold within at served
  split at served
  · cases served
  · cases served
  · exact ⟨_, ‹_›, served⟩

theorem of_openTransaction (served : db.openTransaction = (.ok id, db')) :
    id = db.nextTransaction ∧ db' = db.opened [] := by
  have opened := eq_of_connected served
  cases opened
  exact ⟨rfl, rfl⟩

theorem exists_of_insert {entry : Entry} (served : db.insert id entry = (.ok (), db')) :
    ∃ transaction, db.transaction? id = some transaction ∧
      db' = db.setTransaction { transaction with inserted := transaction.inserted ++ [entry] } := by
  obtain ⟨transaction, found, inserted⟩ := exists_of_within served
  exact ⟨transaction, found, (congrArg Prod.snd inserted).symm⟩

theorem exists_of_commit (served : db.commit id = (.ok (), db')) :
    ∃ transaction, db.transaction? id = some transaction ∧
      db' = { db.dropTransaction id with rows := db.rows ++ transaction.inserted } := by
  unfold commit at served
  split at served
  · cases served
  · cases served
  · exact ⟨_, ‹_›, (congrArg Prod.snd served).symm⟩

theorem id_eq_of_transaction? {transaction : Transaction}
    (found : db.transaction? id = some transaction) :
    transaction ∈ db.transactions ∧ transaction.id = id := by
  exact ⟨List.mem_of_find?_eq_some found, by simpa using List.find?_some found⟩

theorem of_delete {id : EntryId} (served : db.delete id = (.ok (), db')) :
    db' = { db with rows := without id db.rows } := by
  have deleted : (db.deleteAll [id]).2 = db' := congrArg Prod.snd (eq_of_connected served)
  rw [← deleted]
  simp [deleteAll, without, List.partition_eq_filter_filter, Function.comp_def]

theorem of_countAttempt {id : EntryId} (served : db.countAttempt id = (.ok (), db')) :
    db' = { db with rows := markFailed db.clock id db.rows } := by
  have counted := eq_of_connected served
  split at counted
  · cases counted
  · exact (congrArg Prod.snd counted).symm

/-- A transaction that was just opened gets a lock unless another one has it. -/
theorem of_tryLock_opened {key : LockId} {acquired : Bool} (numbered : db.Numbered)
    (served : (db.opened []).tryLock db.nextTransaction key = (.ok acquired, db')) :
    acquired = !db.isHeld key ∧ db' = db.opened (if db.isHeld key then [] else [key]) := by
  obtain ⟨transaction, found, tried⟩ := exists_of_within served
  obtain rfl := Option.some.inj ((transaction?_withLast numbered rfl).symm.trans found)
  have held_eq : (db.opened []).isHeldByOther db.nextTransaction key = db.isHeld key := by
    rw [Bool.eq_iff_iff]
    simp only [isHeldByOther, isHeld, opened, List.any_append, List.any_cons, List.any_nil,
      List.contains_nil, Bool.and_false, Bool.or_false, List.any_eq_true, Bool.and_eq_true,
      decide_eq_true_eq]
    exact exists_congr fun other =>
      and_congr_right fun among => and_iff_right (ne_of_numbered numbered other among)
  rw [held_eq] at tried
  cases held : db.isHeld key with
  | true =>
      rw [held, if_pos rfl] at tried
      cases tried
      exact ⟨rfl, rfl⟩
  | false =>
      rw [held, if_neg Bool.false_ne_true] at tried
      cases tried
      exact ⟨rfl, setTransaction_withLast numbered rfl rfl⟩

end Statements

/-- What a call on the outbox does when it works, by the answer and the database behind it. -/
def Performs (db : Database) : (call : Outbox.Call TransactionId) → call.Answer → Database → Prop
  | .entries, answer, db' => answer = db.entries ∧ db' = db
  | .recordFailure id, _, db' => db' = { db with rows := markFailed db.clock id db.rows }
  | .remove id, _, db' => db' = { db with rows := without id db.rows }
  | .removeOldest count, _, db' =>
      db' = (db.deleteAll ((db.entries.take count.toNat).map Entry.id)).2
  | .tryLock key, lock, db' =>
      lock = ⟨!db.isHeld key, db.nextTransaction⟩ ∧
        db' = db.opened (if db.isHeld key then [] else [key])
  | .release none, _, db' => db' = db
  | .release (some lock), _, db' =>
      ∃ transaction, db.transaction? lock.transaction = some transaction ∧
        db' = { db.dropTransaction lock.transaction with
          rows := db.rows ++ transaction.inserted }

section Calls

variable {α β : Type} {db db' : Database}

theorem run_bind (program : OnDatabase α) (next : α → OnDatabase β) (db : Database) :
    db.run (program >>= next) = (db.run program).2.run (next (db.run program).1) :=
  congrFun (Program.run_bind (I := interface) (m := StateM Database) Database.serve
    (fun _ => pure ()) program next) db

/-- A program of statements works just when each of its parts does. -/
theorem exists_of_run_bind {program : Querying α} {next : α → Querying β} {result : β}
    (served : db.run (program >>= next).run = (.ok result, db')) :
    ∃ value middle, db.run program.run = (.ok value, middle) ∧
      middle.run (next value).run = (.ok result, db') := by
  rw [ExceptT.run_bind, run_bind] at served
  generalize db.run program.run = told at served ⊢
  obtain ⟨reply, middle⟩ := told
  cases reply with
  | ok value => exact ⟨value, middle, rfl, served⟩
  | error error => cases served

/-- A store works just when its program of statements does. -/
theorem run_of_stored {program : Querying α} {result : α}
    (served : db.run (stored program) = (.ok result, db')) :
    db.run program.run = (.ok result, db') := by
  unfold stored at served
  rw [run_bind] at served
  generalize db.run program.run = told at served ⊢
  obtain ⟨reply, middle⟩ := told
  cases reply with
  | ok value => cases served; rfl
  | error error => cases served

/-- Work that is abandoned when it fails was not abandoned when it worked. -/
theorem run_of_orAbandon {transaction : TransactionId} {work : Querying α} {result : α}
    (served : db.run (orAbandon transaction work).run = (.ok result, db')) :
    db.run work.run = (.ok result, db') := by
  unfold orAbandon at served
  rw [ExceptT.run_mk, run_bind] at served
  generalize db.run work.run = told at served ⊢
  obtain ⟨reply, middle⟩ := told
  cases reply with
  | ok value => cases served; rfl
  | error error => cases served

/-- A lock is asked for by a transaction that is opened for it. -/
theorem of_tryLock {key : LockId} {lock : Lock TransactionId} (numbered : db.Numbered)
    (served : db.run (Store.tryLock key).run = (.ok lock, db')) :
    Performs db (.tryLock key) lock db' := by
  obtain ⟨id, opened, open_eq, served⟩ := exists_of_run_bind served
  obtain ⟨acquired, locked, lock_eq, served⟩ := exists_of_run_bind served
  obtain ⟨rfl, rfl⟩ : lock = ⟨acquired, id⟩ ∧ db' = locked := by
    cases served
    exact ⟨rfl, rfl⟩
  obtain ⟨rfl, rfl⟩ := of_openTransaction (show db.openTransaction = (.ok id, opened) from open_eq)
  obtain ⟨rfl, opened_eq⟩ := of_tryLock_opened numbered
    (show (db.opened []).tryLock _ key = (.ok acquired, db') from run_of_orAbandon lock_eq)
  exact ⟨rfl, opened_eq⟩

/-- All entries are read, and nothing is changed. -/
theorem of_entries {rows : List Entry} (served : db.run (Store.serve .entries) = (.ok rows, db')) :
    rows = db.entries ∧ db' = db := by
  have read := eq_of_connected (run_of_stored served)
  cases read
  exact ⟨rfl, rfl⟩

/-- When a call on the outbox works, the database has done just what it asks for. -/
theorem performs_of_run {call : Outbox.Call TransactionId} {answer : call.Answer}
    (numbered : db.Numbered)
    (served : db.run (Store.serve call) = (.ok answer, db')) :
    Performs db call answer db' := by
  cases call with
  | entries => exact of_entries served
  | recordFailure id => exact of_countAttempt (run_of_stored served)
  | remove id => exact of_delete (run_of_stored served)
  | removeOldest count =>
      by_cases negative : count < 0
      · simp only [Store.serve, negative, if_true] at served
        cases served
      · simp only [Store.serve, negative, if_false] at served
        have deleted : db.deleteOldest count.toNat = (.ok answer, db') := run_of_stored served
        exact (congrArg Prod.snd (eq_of_connected deleted)).symm
  | tryLock key => exact of_tryLock numbered (run_of_stored served)
  | release lock =>
      cases lock with
      | none =>
          cases run_of_stored served
          rfl
      | some lock => exact exists_of_commit (run_of_stored served)

end Calls

theorem mem_entries {db : Database} {entry : Entry} : entry ∈ db.entries ↔ entry ∈ db.rows := by
  exact List.mem_mergeSort

/-- Entries are read in their order. -/
theorem entries_sorted (db : Database) :
    db.entries.Pairwise fun earlier later => rank earlier ≤ rank later := by
  have trans (a b c : Entry) (first : comesBefore a b = true) (second : comesBefore b c = true) :
      comesBefore a c = true := by
    rw [comesBefore_iff] at *
    exact le_trans first second
  have total (a b : Entry) : (comesBefore a b || comesBefore b a) = true := by
    rw [Bool.or_eq_true, comesBefore_iff, comesBefore_iff]
    exact le_total _ _
  exact (List.pairwise_mergeSort trans total db.rows).imp comesBefore_iff.mp

end Database
end Store
end OutboxRelay
