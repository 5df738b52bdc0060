import OutboxRelay.Outbox

/-!
# An outbox in memory

The entries are a list, oldest first.  The lock is a flag, and a transaction is only
counted.  Each kind of call can be switched off; it then fails and changes nothing.
-/

namespace OutboxRelay
namespace Outbox

/-- The kinds of calls. -/
inductive Kind
  | entries
  | recordFailure
  | remove
  | removeOldest
  | tryLock
  | release
  | append
  deriving DecidableEq, Repr

/-- The kind of a call. -/
def Call.kind {τ : Type} : Call τ → Kind
  | entries => .entries
  | recordFailure _ => .recordFailure
  | remove _ => .remove
  | removeOldest _ => .removeOldest
  | tryLock _ => .tryLock
  | release _ => .release

/-- Counts one more attempt at the first entry with an identifier. -/
def countAttempt (id : EntryId) : List Entry → List Entry
  | [] => []
  | entry :: entries =>
      if entry.id = id then
        { entry with attempts := entry.attempts + 1 } :: entries
      else
        entry :: countAttempt id entries

/-- An outbox in memory. -/
structure Memory where
  log : List Entry
  held : Bool
  transactions : Nat
  disabled : List Kind
  deriving DecidableEq, Repr

namespace Memory

/-- An outbox that works, with some entries. -/
def ofEntries (log : List Entry) : Memory :=
  ⟨log, false, 0, []⟩

/-- Switches a kind of call off or on, and tells whether that changed anything. -/
def disable (memory : Memory) (kind : Kind) (off : Bool) : Bool × Memory :=
  if off then
    (!memory.disabled.contains kind,
      { memory with disabled := kind :: memory.disabled.filter (· ≠ kind) })
  else
    (memory.disabled.contains kind,
      { memory with disabled := memory.disabled.filter (· ≠ kind) })

/-- The failure of a call that is switched off. -/
def failure : StoreError :=
  .database .poolTimedOut

/-- Answers a call that is not switched off. -/
def perform (memory : Memory) : (call : Call Unit) → call.Answer × Memory
  | .entries => (memory.log, memory)
  | .recordFailure id => ((), { memory with log := countAttempt id memory.log })
  | .remove id =>
      ((), { memory with log := memory.log.filter fun entry => entry.id ≠ id })
  | .removeOldest count =>
      ((min count.toNat memory.log.length : Nat),
        { memory with log := memory.log.drop count.toNat })
  | .tryLock _ =>
      ((⟨!memory.held, ()⟩ : Lock Unit),
        { memory with transactions := memory.transactions + 1, held := true })
  | .release none => ((), memory)
  | .release (some lock) =>
      ((), { memory with
        transactions := memory.transactions - 1
        held := memory.held && !lock.acquired })

/-- Answers a call. -/
def serve (memory : Memory) (call : Call Unit) :
    Except StoreError call.Answer × Memory :=
  if memory.disabled.contains call.kind then
    (.error failure, memory)
  else
    let (answer, memory) := memory.perform call
    (.ok answer, memory)

/-- Adds an entry at the end. -/
def push (memory : Memory) (entry : Entry) : Memory :=
  { memory with log := memory.log ++ [entry] }

/-- Adds an entry at the end, unless that is switched off. -/
def append (memory : Memory) (entry : Entry) : Except StoreError EntryId × Memory :=
  if memory.disabled.contains .append then
    (.error failure, memory)
  else
    (.ok entry.id, memory.push entry)

end Memory

namespace Append

/-- The one call that a writer makes: to add an entry. -/
def interface : Interface where
  Call := Entry
  Reply := fun _ => Except StoreError EntryId

end Append
end Outbox
end OutboxRelay
