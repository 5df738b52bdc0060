import OutboxRelay.Proofs.Store.Steady
import Mathlib.Data.List.Pairwise

/-!
# Locks that are handed out

Those who try to take a lock get one in any case, acquired or not, and each has to be given
back.  Any number of parties may do so, in any order and for any keys.

**Rules.**
* Each lock is given back at most once, and this may fail.
* Between two calls anything may happen to the database that leaves the open transactions
  alone: entries come and go, statements are switched off and on, connections are used up.
  Parties with connections of their own differ in nothing else.

**Method.**  The open transactions are at all times those of the locks that are out, in the
order in which these were handed out, and each holds the key of its lock or nothing.

**Results.**
* `transactions_of_tryLock_error`: an attempt that fails leaves no transaction open.
* `transactions_commit`: a transaction ends when it is committed, even if that fails.
* `Custody.Reachable.custodial`: locks are exclusive, and none of them leaks.
-/

namespace OutboxRelay
namespace Store

namespace Database

variable {α : Type} {db db' : Database} {error : DatabaseError} {number : TransactionId}

/-! ## Failures -/

/-- A statement that finds no connection does nothing. -/
theorem eq_of_connected_error {kind : Kind} {work : Database → Except DatabaseError α × Database}
    (works : ∃ value, (work db).1 = .ok value)
    (failed : db.connected kind work = (.error error, db')) : db' = db := by
  unfold connected at failed
  split at failed
  · exact (congrArg Prod.snd failed).symm
  · exact (congrArg Prod.snd failed).symm
  · obtain ⟨value, told⟩ := works
    rw [failed] at told
    cases told

/-- A statement within a transaction that fails does nothing. -/
theorem eq_of_tryLock_error {key : LockId} (failed : db.tryLock number key = (.error error, db')) :
    db' = db := by
  unfold tryLock within at failed
  split at failed
  · exact (congrArg Prod.snd failed).symm
  · exact (congrArg Prod.snd failed).symm
  · split at failed <;> cases failed

/-- A transaction ends when it is committed, even if that fails. -/
theorem transactions_commit (db : Database) (number : TransactionId) :
    (db.commit number).2.transactions = (db.dropTransaction number).transactions := by
  unfold commit
  cases found : db.transaction? number with
  | none =>
      refine (List.filter_eq_self.mpr fun transaction among => ?_).symm
      simpa using List.find?_eq_none.mp found transaction among
  | some transaction => cases db.permit .commit <;> rfl

/-- An attempt at a lock that fails leaves no transaction open. -/
theorem transactions_of_tryLock_error {key : LockId} {failure : StoreError} (numbered : db.Numbered)
    (failed : db.run (Store.serve (.tryLock key)) = (.error failure, db')) :
    db'.transactions = db.transactions := by
  cases begun : (db.run (ExceptT.mk (ask .openTransaction) : Querying TransactionId).run) with
  | mk reply opened =>
      cases reply with
      | error error =>
          have ran : db.run (Store.serve (.tryLock key)) = (.error (.database error), opened) :=
            run_stored_of_error (run_of_error begun)
          obtain rfl : opened = db' := congrArg Prod.snd (ran.symm.trans failed)
          have refused : db.openTransaction = (.error error, opened) := begun
          rw [eq_of_connected_error ⟨_, rfl⟩ refused]
      | ok number =>
          obtain ⟨rfl, rfl⟩ := of_openTransaction begun
          cases tried : ((db.opened []).run (ExceptT.mk (ask (.tryLock db.nextTransaction key)) :
              Querying Bool).run) with
          | mk reply locked =>
              cases reply with
              | error error =>
                  have ran : db.run (Store.serve (.tryLock key)) = (.error (.database error),
                      locked.dropTransaction db.nextTransaction) :=
                    run_stored_of_error ((run_of_ok begun).trans
                      (run_of_error (run_orAbandon_of_error tried)))
                  obtain rfl : locked.dropTransaction db.nextTransaction = db' :=
                    congrArg Prod.snd (ran.symm.trans failed)
                  have ended : (db.opened []).dropTransaction db.nextTransaction =
                      { db with nextTransaction := db.nextTransaction + 1 } :=
                    dropTransaction_withLast numbered rfl
                  rw [eq_of_tryLock_error tried, ended]
              | ok acquired =>
                  have ran : db.run (Store.serve (.tryLock key)) =
                      (.ok ⟨acquired, db.nextTransaction⟩, locked) :=
                    run_stored ((run_of_ok begun).trans (run_of_ok (run_orAbandon tried)))
                  cases ran.symm.trans failed

/-- An attempt at a lock fails and leaves nothing open, or is answered by who holds the lock. -/
theorem run_tryLock_cases (numbered : db.Numbered) (key : LockId) :
    (∃ failure db', db.run (Store.serve (.tryLock key)) = (.error failure, db') ∧
        db'.transactions = db.transactions) ∨
      db.run (Store.serve (.tryLock key)) =
        (.ok ⟨!db.isHeld key, db.nextTransaction⟩,
          db.opened (if db.isHeld key then [] else [key])) := by
  cases ran : db.run (Store.serve (.tryLock key)) with
  | mk reply db' =>
      cases reply with
      | error failure =>
          exact .inl ⟨failure, db', rfl, transactions_of_tryLock_error numbered ran⟩
      | ok lock =>
          obtain ⟨rfl, rfl⟩ := performs_of_run numbered ran
          exact .inr rfl

/-- Without faults an attempt at a lock is answered. -/
theorem exists_run_tryLock (works : db.Works) (room : db.HasRoom) (numbered : db.Numbered)
    (key : LockId) : ∃ lock db', db.run (Store.serve (.tryLock key)) = (.ok lock, db') := by
  have opened_works : (db.opened []).Works := works.of_surroundings rfl
  have begun : db.run (ExceptT.mk (ask .openTransaction) : Querying TransactionId).run =
      (.ok db.nextTransaction, db.opened []) := works.openTransaction_eq room
  have tried : ∃ acquired db', (db.opened []).run (ExceptT.mk (ask (.tryLock db.nextTransaction
      key)) : Querying Bool).run = (.ok acquired, db') := by
    change ∃ acquired db', (db.opened []).tryLock db.nextTransaction key = (.ok acquired, db')
    unfold tryLock
    rw [opened_works.within_eq (transaction?_withLast numbered rfl)]
    split
    · exact ⟨_, _, rfl⟩
    · exact ⟨_, _, rfl⟩
  obtain ⟨acquired, db', tried⟩ := tried
  exact ⟨_, _, run_stored ((run_of_ok begun).trans (run_of_ok (run_orAbandon tried)))⟩

end Database

/-! ## Custody -/

/-- A lock that is out, and its key. -/
structure Handle where
  key : LockId
  lock : Lock TransactionId
  deriving DecidableEq, Repr

namespace Handle

/-- Whether a lock on a key was acquired. -/
def Holds (handle : Handle) (key : LockId) : Prop :=
  handle.lock.acquired = true ∧ handle.key = key

instance (handle : Handle) (key : LockId) : Decidable (handle.Holds key) :=
  inferInstanceAs (Decidable (handle.lock.acquired = true ∧ handle.key = key))

/-- The transaction that belongs to a lock. -/
def transaction (handle : Handle) : Transaction :=
  ⟨handle.lock.transaction, [], if handle.lock.acquired then [handle.key] else []⟩

end Handle

/-- A database, and the locks on it that are out, the first one first. -/
structure Custody where
  database : Database
  out : List Handle
  deriving DecidableEq, Repr

namespace Custody

open Database

/-- Tries to take a lock, which is handed out, acquired or not. -/
def attempt (s : Custody) (key : LockId) : Except StoreError (Lock TransactionId) × Custody :=
  match s.database.run (Store.serve (.tryLock key)) with
  | (.ok lock, db) => (.ok lock, ⟨db, s.out ++ [⟨key, lock⟩]⟩)
  | (.error failure, db) => (.error failure, ⟨db, s.out⟩)

/-- Gives a lock back, which may fail. -/
def giveBack (s : Custody) (handle : Handle) : Except StoreError Unit × Custody :=
  let (reply, db) := s.database.run (Store.serve (.release (some handle.lock)))
  (reply, ⟨db, s.out.erase handle⟩)

/-- Gives nothing back. -/
def giveNothing (s : Custody) : Except StoreError Unit × Custody :=
  let (reply, db) := s.database.run (Store.serve (.release none))
  (reply, { s with database := db })

/-- One step of anyone. -/
inductive Step : Custody → Custody → Prop
  /-- Anything that leaves the open transactions alone: faults, connections of another party,
  entries that come and go. -/
  | drifts {s : Custody} {db : Database}
      (same : db.transactions = s.database.transactions)
      (later : s.database.nextTransaction ≤ db.nextTransaction) :
      Step s { s with database := db }
  | attempts {s : Custody} (key : LockId) : Step s (s.attempt key).2
  | givesBack {s : Custody} {handle : Handle} (among : handle ∈ s.out) :
      Step s (s.giveBack handle).2
  | givesNothing {s : Custody} : Step s s.giveNothing.2

/-- What can come about, when at first no transaction is open. -/
inductive Reachable : Custody → Prop
  | start {db : Database} (idle : db.transactions = []) : Reachable ⟨db, []⟩
  | next {s s' : Custody} (reached : Reachable s) (step : Step s s') : Reachable s'

/-- Whether the open transactions are those of the locks that are out, and these exclude each
other. -/
structure Balanced (s : Custody) : Prop where
  numbered : s.database.Numbered
  apart : s.database.Apart
  covered : s.database.transactions = s.out.map Handle.transaction
  alone : s.out.Pairwise fun earlier later => ∀ key, ¬ (earlier.Holds key ∧ later.Holds key)

/-! ## Steps -/

section Steps

variable {s s' : Custody} {key : LockId} {handle : Handle}

theorem Balanced.isHeld_iff (balanced : s.Balanced) (key : LockId) :
    s.database.isHeld key = true ↔ ∃ handle ∈ s.out, handle.Holds key := by
  simp only [isHeld, balanced.covered, List.any_map, List.any_eq_true, Function.comp_apply,
    Handle.transaction, List.contains_iff_mem]
  refine exists_congr fun handle => and_congr_right fun _ => ?_
  cases acquired : handle.lock.acquired with
  | true => simp [Handle.Holds, acquired, eq_comm]
  | false => simp [Handle.Holds, acquired]

/-- An attempt hands a lock out, or fails and changes neither transactions nor locks. -/
theorem Balanced.attempt_cases (balanced : s.Balanced) (key : LockId) :
    (∃ failure db, s.attempt key = (.error failure, ⟨db, s.out⟩) ∧
        db.transactions = s.database.transactions) ∨
      s.attempt key =
        (.ok ⟨!s.database.isHeld key, s.database.nextTransaction⟩,
          ⟨s.database.opened (if s.database.isHeld key then [] else [key]),
            s.out ++ [⟨key, !s.database.isHeld key, s.database.nextTransaction⟩]⟩) := by
  unfold attempt
  rcases run_tryLock_cases balanced.numbered key with ⟨failure, db, ran, same⟩ | ran
  · exact .inl ⟨failure, db, by rw [ran], same⟩
  · exact .inr (by rw [ran])

theorem database_attempt (s : Custody) (key : LockId) :
    (s.attempt key).2.database = (s.database.run (Store.serve (.tryLock key))).2 := by
  unfold attempt
  split <;> rename_i ran <;> rw [ran]

theorem Balanced.attempt (balanced : s.Balanced) (key : LockId) : (s.attempt key).2.Balanced where
  numbered := by
    rw [database_attempt]
    exact balanced.numbered.run _
  apart := by
    rw [database_attempt]
    exact balanced.apart.run balanced.numbered _
  covered := by
    rcases balanced.attempt_cases key with ⟨failure, db, failed, same⟩ | handed
    · rw [failed]
      exact same.trans balanced.covered
    · rw [handed]
      cases held : s.database.isHeld key <;>
        simp [opened, balanced.covered, Handle.transaction]
  alone := by
    rcases balanced.attempt_cases key with ⟨failure, db, failed, same⟩ | handed
    · rw [failed]
      exact balanced.alone
    · rw [handed]
      refine List.pairwise_append.mpr ⟨balanced.alone, List.pairwise_singleton _ _, ?_⟩
      intro earlier among later new other both
      obtain rfl := List.mem_singleton.mp new
      -- Only a key that no one holds is acquired.
      obtain ⟨holds, acquired, rfl⟩ := both
      have held := (balanced.isHeld_iff key).mpr ⟨earlier, among, holds⟩
      simp [held] at acquired

/-- Each lock that is out has a transaction of its own. -/
theorem Balanced.distinct (balanced : s.Balanced) :
    (s.out.map fun handle => handle.lock.transaction).Nodup := by
  simpa [Apart, balanced.covered, Function.comp_def, Handle.transaction] using balanced.apart

/-- A lock that is given back ends its own transaction and no other, even if this fails. -/
theorem Balanced.transactions_giveBack (balanced : s.Balanced) (among : handle ∈ s.out) :
    (s.giveBack handle).2.database.transactions = (s.out.erase handle).map Handle.transaction := by
  have ended : (s.giveBack handle).2.database.transactions =
      (s.database.dropTransaction handle.lock.transaction).transactions :=
    transactions_commit s.database handle.lock.transaction
  rw [ended, balanced.distinct.of_map.erase_eq_filter]
  simp only [dropTransaction, balanced.covered, List.filter_map]
  refine congrArg (List.map Handle.transaction) (List.filter_congr fun other within => ?_)
  have same : other.lock.transaction = handle.lock.transaction ↔ other = handle :=
    ⟨fun same => List.inj_on_of_nodup_map balanced.distinct within among same,
      fun same => same ▸ rfl⟩
  rw [Bool.eq_iff_iff]
  simp [Handle.transaction, same]

theorem Balanced.giveBack (balanced : s.Balanced) (among : handle ∈ s.out) :
    (s.giveBack handle).2.Balanced where
  numbered := balanced.numbered.run (Store.serve (.release (some handle.lock)))
  apart := balanced.apart.run balanced.numbered (Store.serve (.release (some handle.lock)))
  covered := balanced.transactions_giveBack among
  alone := balanced.alone.sublist List.erase_sublist

/-- Every step keeps the balance. -/
theorem Balanced.step (balanced : s.Balanced) (step : Step s s') : s'.Balanced := by
  cases step with
  | drifts same later =>
      refine ⟨fun transaction among => ?_, ?_, same.trans balanced.covered, balanced.alone⟩
      · exact Nat.lt_of_lt_of_le (balanced.numbered transaction (same ▸ among)) later
      · exact (congrArg (fun open_ => (open_.map Transaction.id).Nodup) same).mpr balanced.apart
  | attempts key => exact balanced.attempt key
  | givesBack among => exact balanced.giveBack among
  | givesNothing => exact balanced

/-- So does every row of steps. -/
theorem Reachable.balanced (reached : Reachable s) : s.Balanced := by
  induction reached with
  | start idle =>
      refine ⟨?_, ?_, idle, List.Pairwise.nil⟩
      · simp [Numbered, idle]
      · simp [Apart, idle]
  | next reached step ih => exact ih.step step

end Steps

/-! ## Exclusion -/

/-- What locks that are handed out guarantee. -/
structure Exclusive (s : Custody) : Prop where
  /-- Of the locks on a key that are out, one at most was acquired. -/
  alone (key : LockId) : (s.out.filter fun handle => handle.Holds key).length ≤ 1
  /-- As many transactions are open as locks are out, acquired or not. -/
  open_eq : s.database.transactions.length = s.out.length
  /-- A key is held just when a lock on it that was acquired is out. -/
  held_iff (key : LockId) : s.database.isHeld key = true ↔ ∃ handle ∈ s.out, handle.Holds key
  /-- A lock is acquired just when none on its key that was acquired is out. -/
  acquired_iff {key : LockId} {lock : Lock TransactionId} {s' : Custody}
    (handed : s.attempt key = (.ok lock, s')) :
    lock.acquired = true ↔ ¬ ∃ handle ∈ s.out, handle.Holds key
  /-- An attempt that fails leaves open transactions and held keys as they were. -/
  failed {key : LockId} {failure : StoreError} {s' : Custody}
    (refused : s.attempt key = (.error failure, s')) :
    s'.database.transactions = s.database.transactions ∧ s'.out = s.out
  /-- An attempt fails only if there are faults or no connection can be spared. -/
  answered (key : LockId) (works : s.database.Works) (room : s.database.HasRoom) :
    ∃ lock, (s.attempt key).1 = .ok lock
  /-- A lock that is given back frees the key that it held and no other, even if this fails. -/
  freed {handle : Handle} (among : handle ∈ s.out) (key : LockId) :
    (s.giveBack handle).2.database.isHeld key = true ↔
      s.database.isHeld key = true ∧ ¬ handle.Holds key

section Exclusion

variable {s s' : Custody} {key : LockId} {handle : Handle}

theorem Balanced.acquired_iff (balanced : s.Balanced) {lock : Lock TransactionId}
    (handed : s.attempt key = (.ok lock, s')) :
    lock.acquired = true ↔ ¬ ∃ handle ∈ s.out, handle.Holds key := by
  rw [← balanced.isHeld_iff key, Bool.not_eq_true]
  rcases balanced.attempt_cases key with ⟨failure, db, failed, -⟩ | told
  · cases failed.symm.trans handed
  · obtain rfl : _ = lock := Except.ok.inj (congrArg Prod.fst (told.symm.trans handed))
    simp

/-- Of the locks that are out, one alone holds a key. -/
theorem Balanced.eq_of_holds (balanced : s.Balanced) {other : Handle} (among : handle ∈ s.out)
    (other_among : other ∈ s.out) (holds : handle.Holds key) (other_holds : other.Holds key) :
    other = handle := by
  by_contra differ
  have symmetric : Std.Symm fun earlier later : Handle =>
      ∀ key, ¬ (earlier.Holds key ∧ later.Holds key) :=
    ⟨fun earlier later none key both => none key both.symm⟩
  exact balanced.alone.forall other_among among differ key ⟨other_holds, holds⟩

theorem Balanced.length_le_one (balanced : s.Balanced) (key : LockId) :
    (s.out.filter fun handle => handle.Holds key).length ≤ 1 := by
  have same : ∀ handle ∈ s.out.filter fun handle => handle.Holds key,
      ∀ other ∈ s.out.filter fun handle => handle.Holds key, other = handle := by
    intro handle among other other_among
    simp only [List.mem_filter, decide_eq_true_eq] at among other_among
    exact balanced.eq_of_holds among.1 other_among.1 among.2 other_among.2
  have apart := balanced.distinct.of_map.filter fun handle => handle.Holds key
  generalize (s.out.filter fun handle => handle.Holds key) = holders at same apart ⊢
  match holders with
  | [] | [_] => simp
  | first :: second :: rest =>
      have twice : second = first := same first (by simp) second (by simp)
      simp [twice] at apart

/-- A lock that is given back frees the key that it held and no other, even if this fails. -/
theorem Balanced.freed (balanced : s.Balanced) (among : handle ∈ s.out) (key : LockId) :
    (s.giveBack handle).2.database.isHeld key = true ↔
      s.database.isHeld key = true ∧ ¬ handle.Holds key := by
  have kept (other : Handle) : other ∈ (s.giveBack handle).2.out ↔ other ≠ handle ∧ other ∈ s.out :=
    balanced.distinct.of_map.mem_erase_iff
  rw [(balanced.giveBack among).isHeld_iff, balanced.isHeld_iff]
  constructor
  · rintro ⟨other, still, holds⟩
    obtain ⟨differ, other_among⟩ := (kept other).mp still
    exact ⟨⟨other, other_among, holds⟩, fun held =>
      differ (balanced.eq_of_holds among other_among held holds)⟩
  · rintro ⟨⟨other, other_among, holds⟩, free⟩
    exact ⟨other, (kept other).mpr ⟨fun same => free (same ▸ holds), other_among⟩, holds⟩

/-- Locks are exclusive, and none of them leaks. -/
theorem Reachable.custodial (reached : Reachable s) : Exclusive s where
  alone := reached.balanced.length_le_one
  open_eq := by
    rw [reached.balanced.covered, List.length_map]
  held_iff := reached.balanced.isHeld_iff
  acquired_iff := reached.balanced.acquired_iff
  failed {key failure s'} refused := by
    rcases reached.balanced.attempt_cases key with ⟨_, db, failed, same⟩ | handed
    · cases failed.symm.trans refused
      exact ⟨same, rfl⟩
    · cases handed.symm.trans refused
  answered key works room := by
    obtain ⟨lock, db, ran⟩ := exists_run_tryLock works room reached.balanced.numbered key
    exact ⟨lock, by simp only [attempt, ran]⟩
  freed := reached.balanced.freed

/-- Two parties have asked for one key. -/
def contended : Custody :=
  ((attempt ⟨Database.empty 0 4, []⟩ 1).2.attempt 1).2

/-- Neither attempts nor commits work any more. -/
def impeded : Custody :=
  { contended with database := { contended.database with disabled := [.tryLock, .commit] } }

/-- The one that was too late gives its lock back. -/
def settled : Custody :=
  ((impeded.attempt 2).2.giveBack ⟨1, false, 1⟩).2

theorem reachable_settled : Reachable settled := by
  have asked : Reachable contended := .next (.next (.start rfl) (.attempts 1)) (.attempts 1)
  have broken : Reachable impeded := .next asked (.drifts rfl (le_refl _))
  exact .next (.next broken (.attempts 2)) (.givesBack (by decide))

theorem custodial_of_settled : Reachable settled ∧ Exclusive settled ∧
    settled.out = [⟨1, true, 0⟩] ∧ settled.database.isHeld 1 = true :=
  ⟨reachable_settled, reachable_settled.custodial, by decide, by decide⟩

end Exclusion

end Custody
end Store
end OutboxRelay
