import OutboxRelay.Proofs.Store.Publish
import Mathlib.Data.List.Perm.Basic

/-!
# A database without faults

A database that is open, within reach, and carries out statements of every kind answers each
call as long as it can spare a connection.  What it does then is told exactly.

**Results.**
* `surroundings_run`: no program of statements brings a fault about.
* `run_publish`, `run_append`, `run_commit` and their like: each program of statements works,
  and leaves this database behind.
* `exists_split`: an open transaction stands at one place among the open transactions.
-/

namespace OutboxRelay
namespace Store
namespace Database

open Outbox (markFailed without)

variable {α β : Type}

/-- Whether a database answers every statement that gets a connection. -/
structure Works (db : Database) : Prop where
  unlocked : db.closed = false
  reached : db.outage = none
  enabled : db.disabled = []

/-- Whether a database can spare one more connection. -/
def HasRoom (db : Database) : Prop :=
  db.transactions.length < db.capacity

/-- All that decides whether there are faults. -/
def surroundings (db : Database) : Nat × Bool × Option String × List Kind :=
  (db.capacity, db.closed, db.outage, db.disabled)

section Surroundings

variable {db db' : Database}

theorem surroundings_execute (db : Database) (statement : Statement) :
    (db.execute statement).2.surroundings = db.surroundings := by
  have change := change_execute db statement
  generalize (db.execute statement).2 = db' at change
  cases change <;> rfl

/-- No program of statements brings a fault about. -/
theorem surroundings_run (db : Database) (program : OnDatabase α) :
    (db.run program).2.surroundings = db.surroundings := by
  induction program generalizing db with
  | done result => rfl
  | note record rest ih => exact ih db
  | call made rest ih => exact (ih _ _).trans (surroundings_execute db made)

theorem Works.of_surroundings (works : db.Works) (same : db'.surroundings = db.surroundings) :
    db'.Works := by
  simp only [surroundings, Prod.mk.injEq] at same
  obtain ⟨-, closed_eq, outage_eq, disabled_eq⟩ := same
  exact ⟨closed_eq.trans works.unlocked, outage_eq.trans works.reached,
    disabled_eq.trans works.enabled⟩

end Surroundings

/-! ## Statements -/

section Statements

variable {db : Database} {number : TransactionId} {transaction : Transaction}

theorem Works.permit_eq (works : db.Works) (kind : Kind) : db.permit kind = .ok () := by
  simp [permit, works.enabled]

theorem Works.connected_eq (works : db.Works) (room : db.HasRoom) (kind : Kind)
    (work : Database → Except DatabaseError α × Database) :
    db.connected kind work = work db := by
  have connects : db.connect = .ok () := by
    simp [connect, works.unlocked, works.reached, Nat.not_le.mpr room]
  simp only [connected, connects, works.permit_eq]

theorem Works.within_eq (works : db.Works) (found : db.transaction? number = some transaction)
    (kind : Kind) (work : Transaction → Except DatabaseError α × Database) :
    db.within number kind work = work transaction := by
  simp only [within, found, works.permit_eq]

theorem Works.openTransaction_eq (works : db.Works) (room : db.HasRoom) :
    db.openTransaction = (.ok db.nextTransaction, db.opened []) :=
  works.connected_eq room .openTransaction _

theorem Works.insert_eq (works : db.Works) (found : db.transaction? number = some transaction)
    (entry : Entry) :
    db.insert number entry = (.ok (), db.setTransaction
      { transaction with inserted := transaction.inserted ++ [entry] }) :=
  works.within_eq found .insert _

theorem Works.commit_eq (works : db.Works) (found : db.transaction? number = some transaction) :
    db.commit number = (.ok (), { db.dropTransaction number with
      rows := db.rows ++ transaction.inserted }) := by
  simp only [commit, found, works.permit_eq]
  rfl

/-- Whether another attempt at the entries with an identifier can be counted. -/
def Countable (id : EntryId) (entries : List Entry) : Prop :=
  ∀ entry ∈ entries, entry.id = id → entry.attempts < attemptsMax

theorem Works.countAttempt_eq (works : db.Works) (room : db.HasRoom) {id : EntryId}
    (countable : Countable id db.rows) :
    db.countAttempt id = (.ok (), { db with rows := markFailed db.clock id db.rows }) := by
  have fit : db.isExhausted id = false := by
    simpa [isExhausted, Countable] using countable
  unfold countAttempt
  rw [works.connected_eq room, fit, if_neg Bool.false_ne_true]
  rfl

theorem deleteAll_eq (db : Database) (ids : List EntryId) :
    db.deleteAll ids = ((db.rows.filter fun entry => ids.contains entry.id).length,
      { db with rows := db.rows.filter fun entry => !ids.contains entry.id }) := by
  simp [deleteAll, List.partition_eq_filter_filter, Function.comp_def]

theorem Works.delete_eq (works : db.Works) (room : db.HasRoom) (id : EntryId) :
    db.delete id = (.ok (), { db with rows := without id db.rows }) := by
  unfold delete
  rw [works.connected_eq room, deleteAll_eq]
  simp [without]

/-- The oldest entries are deleted by their identifiers. -/
theorem Works.deleteOldest_eq (works : db.Works) (room : db.HasRoom) (count : Nat) :
    let oldest := (db.entries.take count).map Entry.id
    db.deleteOldest count = (.ok (db.deleteAll oldest).1, (db.deleteAll oldest).2) :=
  works.connected_eq room .deleteOldest _

end Statements

/-! ## Programs of statements -/

section Programs

variable {db middle db' : Database}

/-- A store works when its program of statements does. -/
theorem run_stored {program : Querying α} {value : α}
    (worked : db.run program.run = (.ok value, db')) :
    db.run (stored program) = (.ok value, db') := by
  unfold stored
  rw [run_bind, worked]
  rfl

theorem run_stored_of_error {program : Querying α} {error : DatabaseError}
    (failed : db.run program.run = (.error error, db')) :
    db.run (stored program) = (.error (.database error), db') := by
  unfold stored
  rw [run_bind, failed]
  rfl

/-- A sequence goes on with what its first part told. -/
theorem run_of_ok {program : Querying α} {next : α → Querying β} {value : α}
    (first : db.run program.run = (.ok value, middle)) :
    db.run (program >>= next).run = middle.run (next value).run := by
  rw [ExceptT.run_bind, run_bind, first]

theorem run_of_error {program : Querying α} {next : α → Querying β} {error : DatabaseError}
    (failed : db.run program.run = (.error error, db')) :
    db.run (program >>= next).run = (.error error, db') := by
  rw [ExceptT.run_bind, run_bind, failed]
  rfl

theorem run_orAbandon {transaction : TransactionId} {work : Querying α} {value : α}
    (worked : db.run work.run = (.ok value, db')) :
    db.run (orAbandon transaction work).run = (.ok value, db') := by
  unfold orAbandon
  rw [ExceptT.run_mk, run_bind, worked]
  rfl

/-- Work that failed is undone with its transaction. -/
theorem run_orAbandon_of_error {transaction : TransactionId} {work : Querying α}
    {error : DatabaseError} (failed : db.run work.run = (.error error, db')) :
    db.run (orAbandon transaction work).run = (.error error, db'.dropTransaction transaction) := by
  unfold orAbandon
  rw [ExceptT.run_mk, run_bind, failed]
  rfl

end Programs

/-! ## Transactions -/

section Transactions

variable {db : Database} {id : TransactionId} {transaction : Transaction}

/-- Whether no two open transactions have the same number. -/
def Apart (db : Database) : Prop :=
  (db.transactions.map Transaction.id).Nodup

theorem Apart.setTransaction (apart : db.Apart) (changed : Transaction) :
    (db.setTransaction changed).Apart := by
  have same : (db.setTransaction changed).transactions.map Transaction.id =
      db.transactions.map Transaction.id := by
    simp only [Database.setTransaction, List.map_map]
    refine List.map_congr_left fun other _ => ?_
    rw [Function.comp_apply]
    split
    · exact Eq.symm ‹_›
    · rfl
  exact (congrArg List.Nodup same).mpr apart

/-- Every statement keeps the numbers of open transactions apart. -/
theorem Apart.execute (apart : db.Apart) (numbered : db.Numbered) (statement : Statement) :
    (db.execute statement).2.Apart := by
  have change := change_execute db statement
  generalize (db.execute statement).2 = db' at change
  cases change with
  | nothing => exact apart
  | identifies => exact apart
  | opens =>
      have new := ne_of_numbered numbered
      simpa [Apart, opened, List.nodup_append] using ⟨apart, new⟩
  | inserts found => exact apart.setTransaction _
  | locks found => exact apart.setTransaction _
  | ends => exact apart.sublist (List.filter_sublist.map Transaction.id)
  | commits found => exact apart.sublist (List.filter_sublist.map Transaction.id)
  | rewrites same => exact apart

/-- Every program of statements does so, too. -/
theorem Apart.run (apart : db.Apart) (numbered : db.Numbered) (program : OnDatabase α) :
    (db.run program).2.Apart := by
  induction program generalizing db with
  | done result => exact apart
  | note record rest ih => exact ih apart numbered
  | call made rest ih => exact ih _ (apart.execute numbered made) (numbered.execute made)

theorem Apart.eq_of_id (apart : db.Apart) {other : Transaction}
    (among : transaction ∈ db.transactions) (other_among : other ∈ db.transactions)
    (same : other.id = transaction.id) : other = transaction :=
  List.inj_on_of_nodup_map apart other_among among same

/-- A transaction stands at one place among those that are open. -/
structure Split (db : Database) (transaction : Transaction) (before behind : List Transaction) :
    Prop where
  eq : db.transactions = before ++ transaction :: behind
  others : ∀ other ∈ before ++ behind, other.id ≠ transaction.id

theorem exists_split (apart : db.Apart) (found : db.transaction? id = some transaction) :
    transaction.id = id ∧ ∃ before behind, db.Split transaction before behind := by
  obtain ⟨among, same⟩ := id_eq_of_transaction? found
  obtain ⟨before, behind, eq⟩ := List.append_of_mem among
  have moved : (transaction :: (before ++ behind)).map Transaction.id |>.Nodup := by
    unfold Apart at apart
    rw [eq] at apart
    exact (List.perm_middle.map Transaction.id).nodup_iff.mp apart
  refine ⟨same, before, behind, eq, fun other within same_id => ?_⟩
  exact (List.nodup_cons.mp moved).1 (same_id ▸ List.mem_map_of_mem within)

namespace Split

variable {before behind : List Transaction}

theorem setTransaction_eq (split : db.Split transaction before behind) {changed : Transaction}
    (same : changed.id = transaction.id) :
    db.setTransaction changed = { db with transactions := before ++ changed :: behind } := by
  have kept (others : List Transaction) (inside : ∀ other ∈ others, other ∈ before ++ behind) :
      (others.map fun other => if other.id = changed.id then changed else other) = others :=
    (List.map_congr_left fun other among =>
      if_neg (same ▸ split.others other (inside other among))).trans (List.map_id _)
  simp only [setTransaction, split.eq, List.map_append, List.map_cons, if_pos same.symm,
    kept before fun other => List.mem_append_left _, kept behind fun other =>
      List.mem_append_right _]

theorem dropTransaction_eq (split : db.Split transaction before behind) :
    db.dropTransaction transaction.id = { db with transactions := before ++ behind } := by
  have kept (others : List Transaction) (inside : ∀ other ∈ others, other ∈ before ++ behind) :
      (others.filter fun other => other.id ≠ transaction.id) = others :=
    List.filter_eq_self.mpr fun other among => by
      simpa using split.others other (inside other among)
  simp only [dropTransaction, split.eq, List.filter_append]
  rw [List.filter_cons_of_neg (by simp), kept before fun other => List.mem_append_left _,
    kept behind fun other => List.mem_append_right _]

end Split

end Transactions

/-! ## Calls -/

section Calls

variable {db : Database} {number : TransactionId} {transaction : Transaction}
variable (action : Action) (version : Int) (payload : Bytes)

theorem run_entries (works : db.Works) (room : db.HasRoom) :
    db.run (Store.serve .entries) = (.ok db.entries, db) :=
  run_stored (works.connected_eq room .selectAll fun db => (.ok db.entries, db))

theorem run_stats (works : db.Works) (room : db.HasRoom) :
    db.run (Store.serveIntake .stats) = (.ok db.stats, db) :=
  run_stored (works.connected_eq room .summarize fun db => (.ok db.stats, db))

theorem run_recordFailure (works : db.Works) (room : db.HasRoom) {id : EntryId}
    (countable : Countable id db.rows) :
    db.run (Store.serve (.recordFailure id)) =
      (.ok (), { db with rows := markFailed db.clock id db.rows }) :=
  run_stored (works.countAttempt_eq room countable)

theorem run_remove (works : db.Works) (room : db.HasRoom) (id : EntryId) :
    db.run (Store.serve (.remove id)) = (.ok (), { db with rows := without id db.rows }) :=
  run_stored (works.delete_eq room id)

/-- Fewer than no entries are never removed, fault or not. -/
theorem run_removeOldest_of_neg (db : Database) {count : Int} (negative : count < 0) :
    db.run (Store.serve (.removeOldest count)) = (.error (negativeCount count), db) := by
  simp only [Store.serve, negative, if_true]
  rfl

theorem run_removeOldest (works : db.Works) (room : db.HasRoom) {count : Int} (sign : 0 ≤ count) :
    let oldest := (db.entries.take count.toNat).map Entry.id
    db.run (Store.serve (.removeOldest count)) =
      (.ok (db.deleteAll oldest).1, (db.deleteAll oldest).2) := by
  simp only [Store.serve, not_lt.mpr sign, if_false]
  exact run_stored (works.deleteOldest_eq room count.toNat)

theorem run_begin (works : db.Works) (room : db.HasRoom) :
    db.run (stored (ExceptT.mk (ask .openTransaction))) =
      (.ok db.nextTransaction, db.opened []) :=
  run_stored (works.openTransaction_eq room)

theorem run_commit (works : db.Works) (found : db.transaction? number = some transaction) :
    db.run (stored (ExceptT.mk (ask (.commit number)))) =
      (.ok (), { db.dropTransaction number with rows := db.rows ++ transaction.inserted }) :=
  run_stored (works.commit_eq found)

theorem run_append (works : db.Works) (found : db.transaction? number = some transaction) :
    db.run (Store.append number action version payload).run =
      (.ok db.ids.fresh.1, { db with ids := db.ids.fresh.2 }.setTransaction
        { transaction with inserted :=
          transaction.inserted ++ [db.newEntry db.ids.fresh.1 action version payload] }) := by
  let identified : Database := { db with ids := db.ids.fresh.2 }
  let entry := db.newEntry db.ids.fresh.1 action version payload
  have still : identified.Works := works.of_surroundings rfl
  have drawn : db.run (ExceptT.lift (ask .freshId) : Querying EntryId).run =
      (.ok db.ids.fresh.1, identified) := rfl
  have inserted : identified.run (ExceptT.mk (ask (.insert number db.ids.fresh.1 action version
      payload)) : Querying Unit).run = (.ok (), identified.setTransaction
        { transaction with inserted := transaction.inserted ++ [entry] }) :=
    still.insert_eq found entry
  refine (run_of_ok drawn).trans ?_
  refine (run_of_ok inserted).trans ?_
  rfl

/-- An entry is added by a transaction of its own. -/
theorem run_publish (works : db.Works) (room : db.HasRoom) (numbered : db.Numbered) :
    db.run (Store.serveIntake (.publish action version payload)) =
      (.ok db.ids.fresh.1, { db with
        rows := db.rows ++ [db.newEntry db.ids.fresh.1 action version payload]
        ids := db.ids.fresh.2
        nextTransaction := db.nextTransaction + 1 }) := by
  let marked : Database := { db with ids := db.ids.fresh.2 }
  let entry := db.newEntry db.ids.fresh.1 action version payload
  let draft : Transaction := ⟨db.nextTransaction, [entry], []⟩
  have marked_numbered : marked.Numbered := numbered
  have still : (marked.withLast draft).Works := works.of_surroundings rfl
  have begun : db.run (ExceptT.mk (ask .openTransaction) : Querying TransactionId).run =
      (.ok db.nextTransaction, db.opened []) := works.openTransaction_eq room
  have appended : (db.opened []).run (orAbandon db.nextTransaction
      (Store.append db.nextTransaction action version payload)).run =
        (.ok db.ids.fresh.1, marked.withLast draft) := by
    have opened_works : (db.opened []).Works := works.of_surroundings rfl
    refine run_orAbandon
      ((run_append _ _ _ opened_works (transaction?_withLast numbered rfl)).trans ?_)
    exact congrArg (Prod.mk _) (setTransaction_withLast marked_numbered rfl rfl)
  have committed : (marked.withLast draft).run
      (ExceptT.mk (ask (.commit db.nextTransaction)) : Querying Unit).run =
        (.ok (), { marked with
          rows := db.rows ++ [entry]
          nextTransaction := db.nextTransaction + 1 }) := by
    refine (still.commit_eq (transaction?_withLast marked_numbered rfl)).trans ?_
    rw [dropTransaction_withLast marked_numbered rfl]
    rfl
  refine run_stored ?_
  refine (run_of_ok begun).trans ?_
  refine (run_of_ok appended).trans ?_
  exact run_of_ok committed

end Calls

end Database
end Store
end OutboxRelay
