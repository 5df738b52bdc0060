import OutboxRelay.Outbox.Memory
import OutboxRelay.Store.Statement
import Mathlib.Data.List.Nodup
import Mathlib.Logic.Function.Basic

/-!
# An outbox that dispatchers share

The outbox is seen as those who share it see it: a log of entries, and for each key the
transaction that holds its lock.  Unlike the outboxes that run, this one may serve a call
in several ways.

**Rules.**
* A call that works has its whole effect at one instant.
* A call may fail without its effect, or behind it; which kinds of calls may do so is
  given.
* A transaction whose opening or closing failed is an orphan.  The lock that it may hold
  is freed at some time, or never.
-/

namespace OutboxRelay
namespace Outbox

open Store (TransactionId)

/-- What an entry asks for: all of it but the account of its failed attempts. -/
def task (entry : Entry) : EntryId × String × Int × Bytes × Timestamp :=
  (entry.id, entry.action, entry.version, entry.payload, entry.createdAt)

/-- Which kinds of calls may fail without their effect, and which may fail behind it. -/
structure Faults where
  early : Kind → Prop
  late : Kind → Prop

/-- Every call may fail, without its effect or behind it. -/
def Faults.any : Faults :=
  ⟨fun _ => True, fun _ => True⟩

/-- An outbox that dispatchers share. -/
structure Shared where
  /-- The entries, oldest first. -/
  log : List Entry
  /-- The transaction that holds the lock of a key. -/
  holder : LockId → Option TransactionId
  next : TransactionId
  /-- The transactions that nobody can close any more. -/
  orphans : List TransactionId

/-- Counts one more attempt at an entry, and notes when. -/
def markFailed (now : Timestamp) (id : EntryId) (entries : List Entry) : List Entry :=
  entries.map fun entry =>
    if entry.id = id then
      { entry with attempts := entry.attempts + 1, updatedAt := now }
    else
      entry

/-- The entries without the one with an identifier. -/
def without (id : EntryId) (entries : List Entry) : List Entry :=
  entries.filter fun entry => entry.id ≠ id

/-- What a counted failure does not touch is the same behind it. -/
theorem map_markFailed {α : Type} {read : Entry → α}
    (blind : ∀ (entry : Entry) (attempts : Int) (now : Timestamp),
      read { entry with attempts := attempts, updatedAt := now } = read entry)
    (now : Timestamp) (id : EntryId) (entries : List Entry) :
    (markFailed now id entries).map read = entries.map read := by
  unfold markFailed
  rw [List.map_map]
  apply List.map_congr_left
  intro entry _
  rw [Function.comp_apply]
  split
  · exact blind entry _ now
  · rfl

theorem mem_without {id : EntryId} {entry : Entry} {entries : List Entry} :
    entry ∈ without id entries ↔ entry ∈ entries ∧ entry.id ≠ id := by
  simp [without]

/-- The first entry of a log can be taken away by its identifier. -/
theorem without_head {entry : Entry} {entries : List Entry}
    (distinct : ((entry :: entries).map Entry.id).Nodup) :
    without entry.id (entry :: entries) = entries := by
  rw [List.map_cons, List.nodup_cons] at distinct
  unfold without
  rw [List.filter_cons_of_neg (by simp), List.filter_eq_self]
  intro other member
  have apart : other.id ≠ entry.id := fun same =>
    distinct.1 (same ▸ List.mem_map_of_mem member)
  simpa using apart

/-- A failed attempt at the first entry of a log changes no other entry. -/
theorem markFailed_head {now : Timestamp} {entry : Entry} {entries : List Entry}
    (distinct : ((entry :: entries).map Entry.id).Nodup) :
    markFailed now entry.id (entry :: entries) =
      { entry with attempts := entry.attempts + 1, updatedAt := now } :: entries := by
  rw [List.map_cons, List.nodup_cons] at distinct
  unfold markFailed
  rw [List.map_cons, if_pos rfl, List.map_congr_left (g := id), List.map_id]
  intro other member
  have apart : other.id ≠ entry.id := fun same =>
    distinct.1 (same ▸ List.mem_map_of_mem member)
  exact if_neg apart

namespace Shared

/-- An outbox with some entries, whose locks are free. -/
def ofEntries (log : List Entry) : Shared :=
  ⟨log, fun _ => none, 0, []⟩

/-- Closes a transaction, and so frees what it holds. -/
def close (s : Shared) (transaction : TransactionId) : Shared :=
  { s with
    holder := fun key => if s.holder key = some transaction then none else s.holder key }

/-- Opens a transaction and lets it take the lock of a key if that is free. -/
def attempt (s : Shared) (key : LockId) : Shared :=
  { s with
    holder :=
      if s.holder key = none then Function.update s.holder key (some s.next) else s.holder
    next := s.next + 1 }

/-- What a call answers when it works. -/
def answer (s : Shared) : (call : Call TransactionId) → call.Answer
  | .entries => s.log
  | .recordFailure _ => ()
  | .remove _ => ()
  | .removeOldest count => (min count.toNat s.log.length : Nat)
  | .tryLock key => (⟨(s.holder key).isNone, s.next⟩ : Lock TransactionId)
  | .release _ => ()

/-- What a call leaves behind when it works. -/
def effect (now : Timestamp) (s : Shared) : Call TransactionId → Shared
  | .entries => s
  | .recordFailure id => { s with log := markFailed now id s.log }
  | .remove id => { s with log := without id s.log }
  | .removeOldest count => { s with log := s.log.drop count.toNat }
  | .tryLock key => s.attempt key
  | .release none => s
  | .release (some lock) => s.close lock.transaction

/-- What a call leaves behind that failed without its effect. -/
def spoil (s : Shared) : Call TransactionId → Shared
  | .release (some lock) => { s with orphans := lock.transaction :: s.orphans }
  | _ => s

/-- What a call leaves behind whose answer was lost. -/
def lose (now : Timestamp) (s : Shared) : Call TransactionId → Shared
  | .tryLock key => { s.attempt key with orphans := s.next :: s.orphans }
  | call => s.effect now call

/-- Adds an entry at the end. -/
def push (s : Shared) (entry : Entry) : Shared :=
  { s with log := s.log ++ [entry] }

/-- An outbox may serve a call by a reply and be another one then. -/
def Serves (faults : Faults) (s : Shared) (call : Call TransactionId)
    (reply : Except StoreError call.Answer) (s' : Shared) : Prop :=
  match reply with
  | .ok answer => answer = s.answer call ∧ ∃ now, s' = s.effect now call
  | .error _ =>
      (faults.early call.kind ∧ s' = s.spoil call) ∨
        (faults.late call.kind ∧ ∃ now, s' = s.lose now call)

section Serves

variable {faults : Faults} {s s' : Shared}

/-- A call that does not concern the lock leaves the lock alone. -/
theorem Serves.lock_eq {call : Call TransactionId}
    {reply : Except StoreError call.Answer} (served : s.Serves faults call reply s')
    (neither : call.kind ≠ .tryLock ∧ call.kind ≠ .release) :
    s'.holder = s.holder ∧ s'.next = s.next ∧ s'.orphans = s.orphans := by
  cases call with
  | tryLock key => exact absurd rfl neither.1
  | release lock => exact absurd rfl neither.2
  | entries | recordFailure | remove | removeOldest =>
      cases reply with
      | ok answer =>
          obtain ⟨-, now, rfl⟩ := served
          exact ⟨rfl, rfl, rfl⟩
      | error error =>
          obtain ⟨-, rfl⟩ | ⟨-, now, rfl⟩ := served
          · exact ⟨rfl, rfl, rfl⟩
          · exact ⟨rfl, rfl, rfl⟩

/-- A call that concerns the lock, or reads the entries, leaves the entries alone. -/
theorem Serves.log_eq {call : Call TransactionId}
    {reply : Except StoreError call.Answer} (served : s.Serves faults call reply s')
    (reads : call.kind = .tryLock ∨ call.kind = .release ∨ call.kind = .entries) :
    s'.log = s.log := by
  cases call with
  | recordFailure | remove | removeOldest => simp [Call.kind] at reads
  | entries | tryLock =>
      cases reply with
      | ok answer =>
          obtain ⟨-, now, rfl⟩ := served
          rfl
      | error error =>
          obtain ⟨-, rfl⟩ | ⟨-, now, rfl⟩ := served
          · rfl
          · rfl
  | release lock =>
      cases reply with
      | ok answer =>
          obtain ⟨-, now, rfl⟩ := served
          cases lock <;> rfl
      | error error =>
          obtain ⟨-, rfl⟩ | ⟨-, now, rfl⟩ := served
          · cases lock <;> rfl
          · cases lock <;> rfl

/-- A removal has taken the entry away, or nothing. -/
theorem Serves.remove_log {id : EntryId} {reply : Except StoreError Unit}
    (served : s.Serves faults (.remove id) reply s') :
    s'.log = without id s.log ∨ (s'.log = s.log ∧ ∃ error, reply = .error error) := by
  cases reply with
  | ok answer =>
      obtain ⟨-, now, rfl⟩ := served
      exact Or.inl rfl
  | error error =>
      obtain ⟨-, rfl⟩ | ⟨-, now, rfl⟩ := served
      · exact Or.inr ⟨rfl, error, rfl⟩
      · exact Or.inl rfl

/-- A counted failure changes nothing that an entry asks for. -/
theorem Serves.recordFailure_log {id : EntryId} {reply : Except StoreError Unit}
    (served : s.Serves faults (.recordFailure id) reply s') :
    s'.log.map task = s.log.map task := by
  have blind (now : Timestamp) : (markFailed now id s.log).map task = s.log.map task :=
    map_markFailed (fun _ _ _ => rfl) now id s.log
  cases reply with
  | ok answer =>
      obtain ⟨-, now, rfl⟩ := served
      exact blind now
  | error error =>
      obtain ⟨-, rfl⟩ | ⟨-, now, rfl⟩ := served
      · rfl
      · exact blind now

/-- A call on the outbox may take entries away and never adds one. -/
theorem Serves.ids_subset {call : Call TransactionId}
    {reply : Except StoreError call.Answer} (served : s.Serves faults call reply s') :
    s'.log.map Entry.id ⊆ s.log.map Entry.id := by
  cases call with
  | entries => rw [served.log_eq (Or.inr (Or.inr rfl))]; exact List.Subset.refl _
  | tryLock key => rw [served.log_eq (Or.inl rfl)]; exact List.Subset.refl _
  | release lock => rw [served.log_eq (Or.inr (Or.inl rfl))]; exact List.Subset.refl _
  | recordFailure id =>
      have same : s'.log.map Entry.id = s.log.map Entry.id := by
        have tasks := congrArg (List.map Prod.fst) served.recordFailure_log
        rwa [List.map_map, List.map_map] at tasks
      rw [same]
      exact List.Subset.refl _
  | remove id =>
      rcases served.remove_log with taken | ⟨kept, -⟩
      · rw [taken]
        exact List.map_subset _ (List.filter_subset_self _)
      · rw [kept]
        exact List.Subset.refl _
  | removeOldest count =>
      have dropped : (s.log.drop count.toNat).map Entry.id ⊆ s.log.map Entry.id :=
        List.map_subset _ (List.drop_subset _ _)
      cases reply with
      | ok answer =>
          obtain ⟨-, now, rfl⟩ := served
          exact dropped
      | error error =>
          obtain ⟨-, rfl⟩ | ⟨-, now, rfl⟩ := served
          · exact List.Subset.refl _
          · exact dropped

end Serves

end Shared
end Outbox
end OutboxRelay
