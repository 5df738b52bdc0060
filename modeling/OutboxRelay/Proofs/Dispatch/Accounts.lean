import OutboxRelay.Proofs.Dispatch.Fleet

/-!
# The accounts of the lock

Each open transaction of a fleet is accounted for: a pass has it, with the lock or
without, or it is an orphan.

**Results.**
* `Stage.Move.lock_cases`: what an act of a pass has to do with the lock.
* `Staged.accounts`: the accounts are in order in every fleet.
* `Staged.alone`: at most one pass has the lock.
-/

namespace OutboxRelay
namespace Dispatch

open Store (TransactionId)
open Outbox (Shared)

namespace Stage

/-- The transaction that a pass has open, and whether it has the lock with it. -/
def claim : Stage → Option (Bool × TransactionId)
  | .refused lock => some (false, lock.transaction)
  | .reading lock | .discarding lock .. | .facing lock .. | .replaying lock ..
  | .removing lock .. | .failing lock .. | .leaving lock _ => some (true, lock.transaction)
  | .idle | .asking | .returning _ | .ended _ => none

@[simp] theorem claim_next (limit : Option Int) (lock : Lock TransactionId)
    (applied discarded : Nat) (entries : List Entry) :
    (next limit lock applied discarded entries).claim = some (true, lock.transaction) := by
  exact next_cases (fun _ stage => stage.claim = some (true, lock.transaction)) rfl
    (fun _ _ _ => rfl) (fun _ _ => rfl) entries

end Stage

/-- Whether an act is a call that concerns the lock. -/
def Act.OnLock : Act → Prop
  | .store call _ => call.kind = .tryLock ∨ call.kind = .release
  | _ => False

/-- What an act of a pass has to do with the lock. -/
theorem Stage.Move.lock_cases {settings : Settings} {stage stage' : Stage} {act : Act}
    (move : Stage.Move settings stage act stage') :
    (¬ act.OnLock ∧ stage'.claim = stage.claim) ∨
    (∃ error, act = .store (.tryLock settings.lockId) (.error error) ∧
      stage.claim = none ∧ stage'.claim = none) ∨
    (∃ lock : Lock TransactionId, act = .store (.tryLock settings.lockId) (.ok lock) ∧
      stage.claim = none ∧ stage'.claim = some (lock.acquired, lock.transaction)) ∨
    (∃ (lock : Lock TransactionId) (acquired : Bool) (reply : Except StoreError Unit),
      act = .store (.release (some lock)) reply ∧
      stage.claim = some (acquired, lock.transaction) ∧ stage'.claim = none) := by
  cases move with
  | lockFailed error => exact .inr (.inl ⟨error, rfl, rfl, rfl⟩)
  | lockTaken acquired => exact .inr (.inr (.inl ⟨_, rfl, rfl, by rw [acquired]; rfl⟩))
  | lockRefused acquired => exact .inr (.inr (.inl ⟨_, rfl, rfl, by rw [acquired]; rfl⟩))
  | conceded lock reply => exact .inr (.inr (.inr ⟨lock, false, reply, rfl, rfl, rfl⟩))
  | released lock outcome reply =>
      exact .inr (.inr (.inr ⟨lock, true, reply, rfl, rfl, rfl⟩))
  | start | handed | consulted | resolved | unresolved | finish =>
      exact .inl ⟨id, rfl⟩
  | misread | notDiscarded | notRemoved | counted =>
      exact .inl ⟨by simp [Act.OnLock, Outbox.Call.kind], rfl⟩
  | read | discarded | removed =>
      exact .inl ⟨by simp [Act.OnLock, Outbox.Call.kind], claim_next ..⟩

/-- An act that does not concern the lock leaves the lock alone. -/
theorem Act.Effect.lock_eq {ι D : Type} {terms : Terms ι D} {act : Act}
    {outbox outbox' : Shared} {downstream downstream' : D}
    (effect : act.Effect terms outbox downstream outbox' downstream')
    (off : ¬ act.OnLock) :
    outbox'.holder = outbox.holder ∧ outbox'.next = outbox.next ∧
      outbox'.orphans = outbox.orphans := by
  cases act with
  | store call reply => exact effect.1.lock_eq (not_or.mp off)
  | start | hand | consult | settle | finish =>
      rw [effect.1]
      exact ⟨rfl, rfl, rfl⟩

section Claims

variable {ι : Type} [DecidableEq ι] {claims : ι → Option (Bool × TransactionId)}
variable {pass other : ι} {acquired acquired' : Bool} {transaction transaction' : TransactionId}

/-- When a pass has given up its claim, the claims of the others are left. -/
theorem claim_of_update_none
    (claimed : Function.update claims pass none other = some (acquired, transaction)) :
    other ≠ pass ∧ claims other = some (acquired, transaction) := by
  by_cases same : other = pass
  · subst same
    rw [Function.update_self] at claimed
    cases claimed
  · rw [Function.update_of_ne same] at claimed
    exact ⟨same, claimed⟩

/-- When a pass has made a claim, the claims of the others are left. -/
theorem claim_cases_of_update
    (claimed : Function.update claims pass (some (acquired', transaction')) other =
      some (acquired, transaction)) :
    (other = pass ∧ acquired = acquired' ∧ transaction = transaction') ∨
      (other ≠ pass ∧ claims other = some (acquired, transaction)) := by
  by_cases same : other = pass
  · subst same
    rw [Function.update_self] at claimed
    cases claimed
    exact .inl ⟨rfl, rfl, rfl⟩
  · rw [Function.update_of_ne same] at claimed
    exact .inr ⟨same, claimed⟩

end Claims

/-- The open transactions of an outbox are accounted for by those who claim them. -/
structure Accounts {ι : Type} (key : LockId) (outbox : Shared)
    (claims : ι → Option (Bool × TransactionId)) : Prop where
  holder_lt : ∀ other transaction,
    outbox.holder other = some transaction → transaction < outbox.next
  orphan_lt : ∀ transaction, transaction ∈ outbox.orphans → transaction < outbox.next
  claim_lt : ∀ pass acquired transaction,
    claims pass = some (acquired, transaction) → transaction < outbox.next
  not_orphan : ∀ pass acquired transaction,
    claims pass = some (acquired, transaction) → transaction ∉ outbox.orphans
  /-- A transaction is claimed at most once. -/
  claim_once : ∀ pass other acquired acquired' transaction,
    claims pass = some (acquired, transaction) →
    claims other = some (acquired', transaction) → pass = other
  /-- Who claims to have the lock has it. -/
  holds : ∀ pass transaction,
    claims pass = some (true, transaction) → outbox.holder key = some transaction
  /-- Who was refused the lock holds nothing. -/
  lacks : ∀ pass transaction,
    claims pass = some (false, transaction) →
      ∀ other, outbox.holder other ≠ some transaction

namespace Accounts

variable {ι : Type} {key : LockId} {outbox outbox' : Shared}
variable {claims : ι → Option (Bool × TransactionId)}

theorem initial (log : List Entry) :
    Accounts key (.ofEntries log) fun _ : ι => none := by
  constructor <;> simp [Shared.ofEntries]

/-- What leaves the lock alone leaves its accounts alone. -/
theorem congr (accounts : Accounts key outbox claims)
    (same : outbox'.holder = outbox.holder ∧ outbox'.next = outbox.next ∧
      outbox'.orphans = outbox.orphans) :
    Accounts key outbox' claims := by
  obtain ⟨holder, next, orphans⟩ := same
  constructor
  · simpa only [holder, next] using accounts.holder_lt
  · simpa only [orphans, next] using accounts.orphan_lt
  · simpa only [next] using accounts.claim_lt
  · simpa only [orphans] using accounts.not_orphan
  · exact accounts.claim_once
  · simpa only [holder] using accounts.holds
  · simpa only [holder] using accounts.lacks

/-- At most one pass claims to have the lock. -/
theorem alone (accounts : Accounts key outbox claims) {pass other : ι}
    {transaction transaction' : TransactionId}
    (mine : claims pass = some (true, transaction))
    (yours : claims other = some (true, transaction')) :
    pass = other := by
  have held := accounts.holds pass transaction mine
  have held' := accounts.holds other transaction' yours
  rw [held] at held'
  cases held'
  exact accounts.claim_once _ _ _ _ _ mine yours

/-- A transaction that nobody claims can be closed. -/
theorem close (accounts : Accounts key outbox claims) {transaction : TransactionId}
    (unclaimed : ∀ pass acquired, claims pass ≠ some (acquired, transaction)) :
    Accounts key (outbox.close transaction) claims := by
  have kept : ∀ other transaction',
      (outbox.close transaction).holder other = some transaction' →
        outbox.holder other = some transaction' := by
    intro other transaction' held
    simp only [Shared.close] at held
    split at held
    · cases held
    · exact held
  constructor
  · intro other transaction' held
    exact accounts.holder_lt other transaction' (kept other transaction' held)
  · exact accounts.orphan_lt
  · exact accounts.claim_lt
  · exact accounts.not_orphan
  · exact accounts.claim_once
  · intro pass transaction' claimed
    have held := accounts.holds pass transaction' claimed
    have apart : transaction' ≠ transaction := by
      rintro rfl
      exact unclaimed pass true claimed
    simp [Shared.close, held, apart]
  · intro pass transaction' claimed other held
    exact accounts.lacks pass transaction' claimed other (kept other transaction' held)

/-- A transaction that nobody claims can be made an orphan. -/
theorem orphan (accounts : Accounts key outbox claims) {transaction : TransactionId}
    (old : transaction < outbox.next)
    (unclaimed : ∀ pass acquired, claims pass ≠ some (acquired, transaction)) :
    Accounts key { outbox with orphans := transaction :: outbox.orphans } claims := by
  constructor
  · exact accounts.holder_lt
  · intro other member
    rcases List.mem_cons.mp member with rfl | member
    · exact old
    · exact accounts.orphan_lt other member
  · exact accounts.claim_lt
  · intro pass acquired other claimed member
    rcases List.mem_cons.mp member with rfl | member
    · exact unclaimed pass acquired claimed
    · exact accounts.not_orphan pass acquired other claimed member
  · exact accounts.claim_once
  · exact accounts.holds
  · exact accounts.lacks

/-- The lock can be asked for by somebody who claims nothing then. -/
theorem attempt (accounts : Accounts key outbox claims) :
    Accounts key (outbox.attempt key) claims := by
  have changed : ∀ other transaction,
      (outbox.attempt key).holder other = some transaction →
        outbox.holder other = some transaction ∨ transaction = outbox.next := by
    intro other transaction held
    simp only [Shared.attempt] at held
    split at held
    · by_cases same : other = key
      · subst same
        rw [Function.update_self] at held
        exact Or.inr (Option.some.inj held).symm
      · rw [Function.update_of_ne same] at held
        exact Or.inl held
    · exact Or.inl held
  constructor
  · intro other transaction held
    show transaction < outbox.next + 1
    rcases changed other transaction held with held | rfl
    · exact Nat.lt_succ_of_lt (accounts.holder_lt other transaction held)
    · exact Nat.lt_succ_self _
  · intro transaction member
    exact Nat.lt_succ_of_lt (accounts.orphan_lt transaction member)
  · intro pass acquired transaction claimed
    exact Nat.lt_succ_of_lt (accounts.claim_lt pass acquired transaction claimed)
  · exact accounts.not_orphan
  · exact accounts.claim_once
  · intro pass transaction claimed
    have held := accounts.holds pass transaction claimed
    simp [Shared.attempt, held]
  · intro pass transaction claimed other held
    rcases changed other transaction held with held | rfl
    · exact accounts.lacks pass transaction claimed other held
    · exact Nat.lt_irrefl _ (accounts.claim_lt pass false _ claimed)

variable [DecidableEq ι]

/-- A claim can be given up. -/
theorem drop (accounts : Accounts key outbox claims) (pass : ι) :
    Accounts key outbox (Function.update claims pass none) := by
  constructor
  · exact accounts.holder_lt
  · exact accounts.orphan_lt
  · intro other acquired transaction claimed
    exact accounts.claim_lt other acquired transaction (claim_of_update_none claimed).2
  · intro other acquired transaction claimed
    exact accounts.not_orphan other acquired transaction (claim_of_update_none claimed).2
  · intro other another acquired acquired' transaction claimed claimed'
    exact accounts.claim_once _ _ _ _ _ (claim_of_update_none claimed).2
      (claim_of_update_none claimed').2
  · intro other transaction claimed
    exact accounts.holds other transaction (claim_of_update_none claimed).2
  · intro other transaction claimed
    exact accounts.lacks other transaction (claim_of_update_none claimed).2

/-- Whoever asks for the lock claims what the answer says. -/
theorem take (accounts : Accounts key outbox claims) (pass : ι) :
    Accounts key (outbox.attempt key)
      (Function.update claims pass (some ((outbox.holder key).isNone, outbox.next))) := by
  have after := accounts.attempt
  constructor
  · exact after.holder_lt
  · exact after.orphan_lt
  · intro other acquired transaction claimed
    rcases claim_cases_of_update claimed with ⟨-, -, rfl⟩ | ⟨-, claimed⟩
    · exact Nat.lt_succ_self _
    · exact after.claim_lt _ _ _ claimed
  · intro other acquired transaction claimed
    rcases claim_cases_of_update claimed with ⟨-, -, rfl⟩ | ⟨-, claimed⟩
    · exact fun member => Nat.lt_irrefl _ (accounts.orphan_lt _ member)
    · exact after.not_orphan _ _ _ claimed
  · intro other another acquired acquired' transaction claimed claimed'
    rcases claim_cases_of_update claimed with ⟨rfl, -, rfl⟩ | ⟨-, claimed⟩
    · rcases claim_cases_of_update claimed' with ⟨rfl, -, -⟩ | ⟨-, claimed'⟩
      · rfl
      · exact absurd (accounts.claim_lt _ _ _ claimed') (Nat.lt_irrefl _)
    · rcases claim_cases_of_update claimed' with ⟨-, -, rfl⟩ | ⟨-, claimed'⟩
      · exact absurd (accounts.claim_lt _ _ _ claimed) (Nat.lt_irrefl _)
      · exact accounts.claim_once _ _ _ _ _ claimed claimed'
  · intro other transaction claimed
    rcases claim_cases_of_update claimed with ⟨-, free, rfl⟩ | ⟨-, claimed⟩
    · have free : outbox.holder key = none := by simpa using free.symm
      simp [Shared.attempt, free]
    · exact after.holds _ _ claimed
  · intro other transaction claimed another
    rcases claim_cases_of_update claimed with ⟨-, taken, rfl⟩ | ⟨-, claimed⟩
    · have taken : outbox.holder key ≠ none := by
        intro free
        simp [free] at taken
      simp only [Shared.attempt, if_neg taken]
      exact fun held => Nat.lt_irrefl _ (accounts.holder_lt _ _ held)
    · exact after.lacks _ _ claimed another

end Accounts

section Staged

variable {ι D : Type} [DecidableEq ι] {terms : Terms ι D}
variable {log : List Entry} {downstream : D}

/-- What the passes of a fleet claim. -/
def Fleet.claims (fleet : Fleet Stage ι D) (pass : ι) : Option (Bool × TransactionId) :=
  (fleet.place pass).claim

theorem claim_update (place : ι → Stage) (pass : ι) (stage : Stage) :
    (fun other => (Function.update place pass stage other).claim) =
      Function.update (fun other => (place other).claim) pass stage.claim :=
  Function.comp_update Stage.claim place pass stage

theorem Accounts.release {outbox outbox' : Shared}
    {claims : ι → Option (Bool × TransactionId)} {pass : ι} {lock : Lock TransactionId}
    {acquired : Bool} {reply : Except StoreError Unit}
    (accounts : Accounts terms.key outbox claims)
    (claimed : claims pass = some (acquired, lock.transaction))
    (served : outbox.Serves terms.faults (.release (some lock)) reply outbox') :
    Accounts terms.key outbox' (Function.update claims pass none) := by
  have unclaimed : ∀ other acquired',
      Function.update claims pass none other ≠ some (acquired', lock.transaction) := by
    intro other acquired' claimed'
    obtain ⟨apart, claimed'⟩ := claim_of_update_none claimed'
    exact apart (accounts.claim_once _ _ _ _ _ claimed' claimed)
  have closed := (accounts.drop pass).close unclaimed
  cases reply with
  | ok answer =>
      obtain ⟨-, now, rfl⟩ := served
      exact closed
  | error error =>
      obtain ⟨-, rfl⟩ | ⟨-, now, rfl⟩ := served
      · exact (accounts.drop pass).orphan (accounts.claim_lt _ _ _ claimed) unclaimed
      · exact closed

theorem Accounts.step {fleet fleet' : Fleet Stage ι D}
    (accounts : Accounts terms.key fleet.outbox fleet.claims)
    (step : Step terms Stage.Move fleet fleet') :
    Accounts terms.key fleet'.outbox fleet'.claims := by
  cases step with
  | enters fresh => exact accounts.congr ⟨rfl, rfl, rfl⟩
  | frees orphan =>
      exact accounts.close fun pass acquired claimed =>
        accounts.not_orphan pass acquired _ claimed orphan
  | @acts pass act stage outbox downstream moves effect =>
      show Accounts terms.key outbox fun other =>
        (Function.update fleet.place pass stage other).claim
      rw [claim_update]
      rcases moves.lock_cases with
        ⟨off, same⟩ | ⟨error, rfl, -, claim⟩ | ⟨lock, rfl, -, claim⟩ |
          ⟨lock, acquired, reply, rfl, before, claim⟩
      · rw [same, Function.update_eq_self_iff.mpr rfl]
        exact accounts.congr (effect.lock_eq off)
      · rw [claim]
        obtain ⟨served, -⟩ := effect
        rw [terms.lockId_eq] at served
        obtain ⟨-, rfl⟩ | ⟨-, now, rfl⟩ := served
        · exact accounts.drop pass
        · refine (accounts.attempt.drop pass).orphan (Nat.lt_succ_self _) ?_
          intro other acquired claimed
          exact Nat.lt_irrefl _ (accounts.claim_lt _ _ _ (claim_of_update_none claimed).2)
      · rw [claim]
        obtain ⟨⟨answered, now, rfl⟩, -⟩ := effect
        rw [terms.lockId_eq] at answered ⊢
        subst answered
        exact accounts.take pass
      · rw [claim]
        exact accounts.release before effect.1

/-- The accounts of the lock are in order in every fleet. -/
theorem Staged.accounts {fleet : Fleet Stage ι D}
    (staged : Staged terms log downstream fleet) :
    Accounts terms.key fleet.outbox fleet.claims := by
  induction staged with
  | refl => exact Accounts.initial log
  | tail _ step ih => exact ih.step step

/-- At most one pass has the lock. -/
theorem Staged.alone {fleet : Fleet Stage ι D}
    (staged : Staged terms log downstream fleet) {pass other : ι}
    {transaction transaction' : TransactionId}
    (mine : (fleet.place pass).claim = some (true, transaction))
    (yours : (fleet.place other).claim = some (true, transaction')) :
    pass = other := by
  exact staged.accounts.alone mine yours

end Staged

end Dispatch
end OutboxRelay
