import OutboxRelay.Replay

/-!
# A pass over the outbox

A pass drains the outbox under the lock that all dispatchers share.  It works on the
entries that it read when it held the lock, oldest first, and stops at the first one
that it cannot settle.

**Input.** A parser, which resolves entries in order and counts them.

**Algorithm.**

1. Try to take the lock.  Whatever comes of it, the lock is released exactly once.
2. With the lock, read all entries.
3. An entry past the attempt limit is removed.  Any other entry is replayed and then
   removed, or its failed attempt is counted and the pass ends.
-/

namespace OutboxRelay
namespace Dispatch

open Journal (Datum)

/-- What a dispatcher is told: times are in milliseconds. -/
structure Settings where
  lockId : LockId
  /-- Delay of the first probe, which drains what a previous run left behind. -/
  startupDelay : Nat
  /-- Delay of a probe after a failed pass or a lost race for the lock. -/
  retryDelay : Nat
  /-- Entries that failed so many times are dropped, if there is such a limit. -/
  maxAttempts : Option Int
  deriving DecidableEq, Repr

/-- The settings of a dispatcher that is told nothing. -/
def Settings.default : Settings :=
  ⟨defaultLockId, 5000, 10000, none⟩

/-- How a pass ended. -/
inductive Outcome
  /-- Every entry was applied, or discarded past the attempt limit, and removed. -/
  | drained (applied discarded : Nat)
  /-- Another dispatcher held the lock. -/
  | contended
  /-- The lock could not even be attempted. -/
  | lockUnavailable
  /-- An entry could not be applied. -/
  | halted (applied : Nat) (entry : EntryId)
  /-- The entries could not be read, or one could not be removed. -/
  | storeFailed (applied : Nat)
  deriving DecidableEq, Repr

/-- Whether a dispatcher should probe again on its own. -/
def Outcome.needsRetry : Outcome → Bool
  | contended | halted .. | storeFailed _ => true
  | drained .. | lockUnavailable => false

section Pass

variable (τ : Type) (R : Interface)

/-- The parties of a pass: the outbox, and what the parser works on. -/
def interface : Interface :=
  (Outbox.interface τ).both R

variable {τ R}

/-- A program that works on the outbox, and on what the parser works on. -/
abbrev OnOutbox (τ : Type) (R : Interface) := Program (interface τ R)

/-- A call on the outbox. -/
def onStore (call : Outbox.Call τ) : OnOutbox τ R (Except StoreError call.Answer) :=
  Program.ask (I := interface τ R) (Sum.inl call)

/-- A record of the dispatcher. -/
def record (level : Journal.Level) (message : String) (fields : List (String × Datum)) :
    Journal.Record :=
  .of "cdc.dispatcher" level message fields

/-- The field that names an entry. -/
def entryField (entry : Entry) : String × Datum :=
  ("entry_id", .text entry.id.text)

/-- The field that names an action. -/
def actionField (entry : Entry) : String × Datum :=
  ("action", .text entry.action)

/-- The field that tells a failure of the store. -/
def errorField (error : StoreError) : String × Datum :=
  ("error", .text error.message)

/-- Whether an entry is past the attempt limit. -/
def exceedsLimit (limit : Option Int) (entry : Entry) : Bool :=
  match limit with
  | none => false
  | some limit => limit ≤ entry.attempts

variable (parse : List Entry → Program R Nat)

/--
Settles entries in order, after so many that were applied and discarded.  When an
entry was applied but cannot be removed, it is replayed by a later pass.
-/
def drainFrom (limit : Option Int) (applied discarded : Nat) :
    List Entry → OnOutbox τ R Outcome
  | [] => return .drained applied discarded
  | entry :: entries => do
      if exceedsLimit limit entry then
        match ← onStore (.remove entry.id) with
        | .error error =>
            Program.log (record .error "could not discard outbox entry"
              [entryField entry, errorField error])
            return .storeFailed applied
        | .ok () =>
            Program.log (record .warn "discarded outbox entry past attempt limit"
              [entryField entry, actionField entry,
                ("attempts", .number entry.attempts)])
            drainFrom limit applied (discarded + 1) entries
      else if (← Program.onSecond (parse [entry])) = 0 then
        match ← onStore (.recordFailure entry.id) with
        | .error error =>
            Program.log (record .error "could not record failed attempt"
              [entryField entry, errorField error])
            return .halted applied entry.id
        | .ok () => return .halted applied entry.id
      else
        match ← onStore (.remove entry.id) with
        | .error error =>
            Program.log (record .error "could not delete applied outbox entry"
              [entryField entry, actionField entry, errorField error])
            return .storeFailed applied
        | .ok () => drainFrom limit (applied + 1) discarded entries

/-- Reads all entries and settles them. -/
def drain (limit : Option Int) : OnOutbox τ R Outcome := do
  match ← onStore .entries with
  | .ok entries => drainFrom parse limit 0 0 entries
  | .error error =>
      Program.log (record .error "could not read outbox" [errorField error])
      return .storeFailed 0

/-- Releases a lock; a failure is recorded and changes nothing else. -/
def release (lock : Lock τ) : OnOutbox τ R Unit := do
  match ← onStore (.release (some lock)) with
  | .ok () => return ()
  | .error error =>
      Program.log
        (record .error "could not release dispatch lock" [errorField error])

/-- Records that something was drained. -/
def reportDrained : Outcome → OnOutbox τ R Unit
  | .drained applied discarded =>
      if 0 < applied + discarded then
        Program.log (record .info "outbox drained"
          [("applied", .number applied), ("discarded", .number discarded)])
      else
        return ()
  | _ => return ()

/-- One pass, bounded by one acquisition of the lock. -/
def runPass (settings : Settings) : OnOutbox τ R Outcome := do
  match ← onStore (.tryLock settings.lockId) with
  | .error error =>
      Program.log
        (record .error "could not attempt dispatch lock" [errorField error])
      return .lockUnavailable
  | .ok lock =>
      let lock : Lock τ := lock
      if lock.acquired then
        let outcome ← drain parse settings.maxAttempts
        release lock
        reportDrained outcome
        return outcome
      else
        release lock
        Program.log (record .debug "dispatch lock held by another instance"
          [("lock_id", .text (toString settings.lockId))])
        return .contended

end Pass

end Dispatch
end OutboxRelay
