import OutboxRelay.Proofs.Dispatch.Accounts

/-!
# Mutual exclusion of passes

What the lock is for is told by what the passes did: a pass is inside from its successful
attempt at the lock to its release.

**Results.**
* `Staged.claim_of_inside`, `Staged.exists_inside`: a pass is inside just when its stage
  says that it has the lock.
* `Staged.guarded`: what needs the lock is done inside.
* `Staged.modest`: a pass that was refused the lock did nothing that needs it.
-/

namespace OutboxRelay
namespace Dispatch

open Store (TransactionId)
open Outbox (Shared)

/-! ## Acts and the lock -/

/-- Whether an act is one that only a pass with the lock may do. -/
def Act.Guarded : Act → Prop
  | .store call _ => call.kind ≠ .tryLock ∧ call.kind ≠ .release
  | .hand _ | .consult .. | .settle .. => True
  | .start | .finish _ => False

/-- Only with the lock does a pass do what needs it. -/
theorem Stage.Move.exists_claim {settings : Settings} {stage stage' : Stage} {act : Act}
    (move : Stage.Move settings stage act stage') (guarded : act.Guarded) :
    ∃ transaction, stage.claim = some (true, transaction) := by
  cases move with
  | start | finish => exact absurd guarded id
  | lockFailed | lockTaken | lockRefused => exact absurd rfl guarded.1
  | conceded | released => exact absurd rfl guarded.2
  | read lock | misread lock | discarded lock | notDiscarded lock | handed lock
  | consulted lock | resolved lock | unresolved lock | removed lock | notRemoved lock
  | counted lock => exact ⟨_, rfl⟩

section Inside

variable {ι : Type}

/-- A pass is between its successful attempt at the lock and its release. -/
def Inside (pass : ι) (lock : Lock TransactionId) (history : List (ι × Act)) : Prop :=
  lock.acquired = true ∧ ∃ key later past,
    history = later ++ (pass, .store (.tryLock key) (.ok lock)) :: past ∧
      ∀ given reply, (pass, Act.store (.release given) reply) ∉ later

theorem not_inside_nil {pass : ι} {lock : Lock TransactionId} : ¬ Inside pass lock [] := by
  rintro ⟨-, key, later, past, split, -⟩
  cases later <;> cases split

theorem inside_cons {pass other : ι} {act : Act} {lock : Lock TransactionId}
    {past : List (ι × Act)} :
    Inside pass lock ((other, act) :: past) ↔
      (lock.acquired = true ∧ other = pass ∧
        ∃ key, act = .store (.tryLock key) (.ok lock)) ∨
      (Inside pass lock past ∧
        ∀ given reply, (other, act) ≠ (pass, .store (.release given) reply)) := by
  constructor
  · rintro ⟨acquired, key, later, before, split, unreleased⟩
    cases later with
    | nil =>
        cases split
        exact .inl ⟨acquired, rfl, key, rfl⟩
    | cons last later =>
        cases split
        refine .inr ⟨⟨acquired, key, later, before, rfl, ?_⟩, ?_⟩
        · exact fun given reply member =>
            unreleased given reply (List.mem_cons_of_mem _ member)
        · intro given reply same
          exact unreleased given reply (same ▸ List.mem_cons_self)
  · rintro (⟨acquired, rfl, key, rfl⟩ | ⟨⟨acquired, key, later, before, rfl, unreleased⟩, apart⟩)
    · exact ⟨acquired, key, [], past, rfl, fun _ _ => List.not_mem_nil⟩
    · refine ⟨acquired, key, (other, act) :: later, before, rfl, ?_⟩
      intro given reply member
      rcases List.mem_cons.mp member with same | member
      · exact apart given reply same.symm
      · exact unreleased given reply member

end Inside

/-! ## Passes inside -/

section Staged

variable {ι D : Type} [DecidableEq ι] {terms : Terms ι D}
variable {log : List Entry} {downstream : D} {fleet : Fleet Stage ι D}

/-- Who is inside has the lock with the transaction of its attempt. -/
theorem Staged.claim_of_inside (staged : Staged terms log downstream fleet) {pass : ι}
    {lock : Lock TransactionId} :
    Inside pass lock fleet.history →
      (fleet.place pass).claim = some (true, lock.transaction) := by
  refine staged.of_acts (fun stage past =>
    Inside pass lock past → stage.claim = some (true, lock.transaction)) ?_ ?_ ?_
  · exact fun inside => absurd inside not_inside_nil
  · intro stage act stage' past ih move inside
    rcases inside_cons.mp inside with ⟨acquired, -, key, rfl⟩ | ⟨inside, apart⟩
    · rcases move.lock_cases with ⟨off, -⟩ | ⟨error, same, -⟩ | ⟨lock, same, -, claim⟩ |
        ⟨lock, _, reply, same, -⟩
      · exact absurd (.inl rfl) off
      · cases same
      · cases same
        rw [claim, acquired]
      · cases same
    · have claimed := ih inside
      rcases move.lock_cases with ⟨-, kept⟩ | ⟨error, -, claim, -⟩ | ⟨lock, -, claim, -⟩ |
        ⟨lock, _, reply, rfl, -⟩
      · rw [kept, claimed]
      · rw [claimed] at claim
        cases claim
      · rw [claimed] at claim
        cases claim
      · exact absurd rfl (apart _ _)
  · intro stage other act past apart ih inside
    rcases inside_cons.mp inside with ⟨-, same, -⟩ | ⟨inside, -⟩
    · exact absurd same.symm apart
    · exact ih inside

/-- Who has the lock is inside. -/
theorem Staged.exists_inside (staged : Staged terms log downstream fleet) {pass : ι}
    {transaction : TransactionId} :
    (fleet.place pass).claim = some (true, transaction) →
      ∃ lock, Inside pass lock fleet.history := by
  refine staged.of_acts (fun stage past =>
    stage.claim = some (true, transaction) → ∃ lock, Inside pass lock past) ?_ ?_ ?_
  · intro claimed
    cases claimed
  · intro stage act stage' past ih move claimed
    rcases move.lock_cases with ⟨off, kept⟩ | ⟨error, -, -, claim⟩ | ⟨lock, rfl, -, claim⟩ |
      ⟨lock, _, reply, -, -, claim⟩
    · rw [kept] at claimed
      obtain ⟨lock, inside⟩ := ih claimed
      refine ⟨lock, inside_cons.mpr (.inr ⟨inside, fun given reply release => ?_⟩)⟩
      cases release
      exact off (.inr rfl)
    · rw [claim] at claimed
      cases claimed
    · rw [claim] at claimed
      have acquired : lock.acquired = true := congrArg Prod.fst (Option.some.inj claimed)
      exact ⟨lock, inside_cons.mpr (.inl ⟨acquired, rfl, _, rfl⟩)⟩
    · rw [claim] at claimed
      cases claimed
  · intro stage other act past apart ih claimed
    obtain ⟨lock, inside⟩ := ih claimed
    refine ⟨lock, inside_cons.mpr (.inr ⟨inside, fun given reply release => ?_⟩)⟩
    exact apart (congrArg Prod.fst release).symm

/-- What needs the lock is done inside. -/
theorem Staged.guarded (staged : Staged terms log downstream fleet) :
    Always (fun pass act past => act.Guarded → ∃ lock, Inside pass lock past)
      fleet.history := by
  induction staged with
  | refl => trivial
  | tail run step ih =>
      cases step with
      | enters fresh => exact ih
      | frees orphan => exact ih
      | acts moves effect =>
          refine ⟨fun guarded => ?_, ih⟩
          obtain ⟨transaction, claimed⟩ := moves.exists_claim guarded
          exact Staged.exists_inside run claimed

end Staged

/-! ## Passes that were refused the lock -/

/-- Nothing that was done needs the lock, and only what was refused was released. -/
def Modest (did : Act → Prop) : Prop :=
  ∀ act, did act → ¬ act.Guarded ∧
    ∀ given reply, act = .store (.release given) reply →
      ∃ lock, given = some lock ∧ lock.acquired = false

/-- Whether a pass ended without the lock. -/
def Outcome.Lost : Outcome → Prop
  | .contended | .lockUnavailable => True
  | .drained .. | .halted .. | .storeFailed _ => False

/-- What a pass did at a stage is modest, if it did not have the lock. -/
def Stage.Owns (did : Act → Prop) : Stage → Prop
  | .idle => ∀ act, ¬ did act
  | .asking => Modest did
  | .refused lock => Modest did ∧ lock.acquired = false
  | .leaving _ outcome => ¬ outcome.Lost
  | .returning outcome | .ended outcome => outcome.Lost → Modest did
  | _ => True

section Owns

variable {settings : Settings} {did did' : Act → Prop} {stage stage' : Stage} {act : Act}

theorem Modest.extend (modest : Modest did) (only : ∀ done, did' done → did done ∨ done = act)
    (free : ¬ act.Guarded)
    (refused : ∀ given reply, act = .store (.release given) reply →
      ∃ lock, given = some lock ∧ lock.acquired = false) :
    Modest did' := by
  intro done member
  rcases only done member with member | rfl
  · exact modest done member
  · exact ⟨free, refused⟩

theorem Stage.owns_next {limit : Option Int} {lock : Lock TransactionId}
    {applied discarded : Nat} {entries : List Entry} :
    (next limit lock applied discarded entries).Owns did := by
  exact next_cases (fun _ stage => stage.Owns did) id
    (fun _ _ _ => trivial) (fun _ _ => trivial) entries

theorem Stage.Owns.move (owns : stage.Owns did)
    (move : Stage.Move settings stage act stage')
    (only : ∀ done, did' done → did done ∨ done = act) :
    stage'.Owns did' := by
  cases move with
  | start =>
      have nothing : Modest did := fun done member => absurd member (owns done)
      exact nothing.extend only id fun given reply release => by cases release
  | lockFailed error =>
      exact fun _ => owns.extend only (fun guarded => guarded.1 rfl)
        fun given reply release => by cases release
  | lockRefused refused =>
      exact ⟨owns.extend only (fun guarded => guarded.1 rfl)
        fun given reply release => (by cases release), refused⟩
  | conceded lock reply =>
      refine fun _ => owns.1.extend only (fun guarded => guarded.2 rfl) ?_
      intro given reply release
      cases release
      exact ⟨lock, rfl, owns.2⟩
  | released lock outcome reply => exact fun lost => absurd lost owns
  | finish outcome =>
      exact fun lost => (owns lost).extend only id fun given reply release => by cases release
  | read | discarded | removed => exact owns_next
  | misread | notDiscarded | notRemoved | counted => exact id
  | lockTaken | handed | consulted | resolved | unresolved => trivial

theorem Stage.Owns.congr (owns : stage.Owns did) (same : ∀ done, did' done ↔ did done) :
    stage.Owns did' := by
  have did_eq : did' = did := funext fun done => propext (same done)
  rw [did_eq]
  exact owns

end Owns

section Lost

variable {ι D : Type} [DecidableEq ι] {terms : Terms ι D}
variable {log : List Entry} {downstream : D} {fleet : Fleet Stage ι D}

theorem Staged.owns (staged : Staged terms log downstream fleet) (pass : ι) :
    (fleet.place pass).Owns fun act => (pass, act) ∈ fleet.history := by
  refine staged.of_acts (fun stage past =>
    stage.Owns fun act => (pass, act) ∈ past) ?_ ?_ ?_
  · exact fun act => List.not_mem_nil
  · intro stage act stage' past owns move
    exact owns.move move fun done => mem_own_cons
  · intro stage other act past apart owns
    exact owns.congr fun done => mem_other_cons apart

/-- A pass that has returned stays where it is. -/
theorem Staged.ended_of_finish (staged : Staged terms log downstream fleet) {pass : ι}
    {outcome : Outcome} :
    (pass, .finish outcome) ∈ fleet.history → fleet.place pass = .ended outcome := by
  refine staged.of_acts (fun stage past =>
    (pass, .finish outcome) ∈ past → stage = .ended outcome) ?_ ?_ ?_
  · exact fun finished => absurd finished List.not_mem_nil
  · intro stage act stage' past ih move finished
    rcases mem_own_cons finished with finished | rfl
    · rw [ih finished] at move
      cases move
    · cases move
      rfl
  · intro stage other act past apart ih finished
    exact ih ((mem_other_cons apart).mp finished)

/-- A pass that ended without the lock did nothing that needs it. -/
theorem Staged.modest (staged : Staged terms log downstream fleet) {pass : ι}
    {outcome : Outcome} (finished : (pass, .finish outcome) ∈ fleet.history)
    (lost : outcome.Lost) :
    Modest fun act => (pass, act) ∈ fleet.history := by
  have owns := staged.owns pass
  rw [staged.ended_of_finish finished] at owns
  exact owns lost

end Lost

end Dispatch
end OutboxRelay
