import OutboxRelay.Proofs.Dispatch.Smooth
import Mathlib.Algebra.Ring.Nat

/-!
# Passes that share an outbox

The lock makes the passes of a fleet take turns.  So nobody works on the outbox without
having it, and if nothing fails, what the passes report adds up to what is gone.

**Results.**
* `Reachable.exclusive`: at most one pass is inside, all work is done inside, and nobody
  ends the turn of another one.
* `Reachable.sharing`: if nothing fails, no entry is applied twice, and what the passes
  report adds up.
-/

namespace OutboxRelay
namespace Dispatch

open Store (TransactionId)

/-! ## Reports -/

section Reports

variable {ι : Type}

/-- How many entries a pass reports that drained the outbox. -/
def Act.drainedCount : Act → Nat
  | .finish outcome => outcome.drainedCount
  | _ => 0

/-- How many entries were applied by all passes together that drained the outbox. -/
def appliedTotal (history : List (ι × Act)) : Nat :=
  (history.map fun done => done.2.drainedCount).sum

/-- Whether a pass returns by an act. -/
def Act.finishes : Act → Bool
  | .finish _ => true
  | _ => false

/-- The passes that have returned. -/
def finishers (history : List (ι × Act)) : List ι :=
  (history.filter fun done => done.2.finishes).map Prod.fst

theorem mem_finishers {pass : ι} {history : List (ι × Act)} :
    pass ∈ finishers history ↔ ∃ outcome, (pass, .finish outcome) ∈ history := by
  unfold finishers
  rw [List.mem_map]
  constructor
  · rintro ⟨⟨_, act⟩, member, rfl⟩
    obtain ⟨member, finishes⟩ := List.mem_filter.mp member
    cases act with
    | finish outcome => exact ⟨outcome, member⟩
    | _ => cases finishes
  · rintro ⟨outcome, member⟩
    exact ⟨_, List.mem_filter.mpr ⟨member, rfl⟩, rfl⟩

/-- If each pass reports what it did, the reports add up over those that have returned. -/
theorem appliedTotal_eq_sum {did : ι → Nat} {history : List (ι × Act)}
    (reports : ∀ pass outcome, (pass, .finish outcome) ∈ history →
      outcome.drainedCount = did pass) :
    appliedTotal history = ((finishers history).map did).sum := by
  induction history with
  | nil => rfl
  | cons last past ih =>
      obtain ⟨pass, act⟩ := last
      have rest := ih fun other outcome member =>
        reports other outcome (List.mem_cons_of_mem _ member)
      cases act with
      | finish outcome =>
          have reported := reports pass outcome List.mem_cons_self
          show outcome.drainedCount + appliedTotal past =
            did pass + ((finishers past).map did).sum
          rw [rest, reported]
      | _ => exact (Nat.zero_add _).trans rest

/-- Counting the members of a list by what they are gives its length. -/
theorem sum_count_eq_length [DecidableEq ι] {members kinds : List ι}
    (distinct : kinds.Nodup) (all : ∀ member ∈ members, member ∈ kinds) :
    (kinds.map fun kind => members.count kind).sum = members.length := by
  rw [← List.sum_toFinset _ distinct]
  have all' : ∀ member ∈ (members : Multiset ι), member ∈ kinds.toFinset :=
    fun member mem => List.mem_toFinset.mpr (all member mem)
  simpa using Multiset.sum_count_eq_card all'

end Reports

/-! ## Whole runs -/

section Whole

variable {ι D : Type} [DecidableEq ι] {terms : Terms ι D}
variable {log : List Entry} {downstream : D}

/-- Only by returning does a pass come to its end. -/
theorem Stage.Move.eq_finish {settings : Settings} {stage stage' : Stage} {act : Act}
    {outcome : Outcome} (move : Stage.Move settings stage act stage')
    (ended : stage' = .ended outcome) :
    act = .finish outcome := by
  cases move with
  | finish =>
      cases ended
      rfl
  | read | discarded | removed =>
      have claims := congrArg Stage.claim ended
      rw [Stage.claim_next] at claims
      cases claims
  | _ => cases ended

theorem Staged.finish_of_ended {fleet : Fleet Stage ι D}
    (staged : Staged terms log downstream fleet) {pass : ι} {outcome : Outcome} :
    fleet.place pass = .ended outcome → (pass, .finish outcome) ∈ fleet.history := by
  refine staged.of_acts (fun stage past =>
    stage = .ended outcome → (pass, .finish outcome) ∈ past) ?_ ?_ ?_
  · intro ended
    cases ended
  · intro stage act stage' past _ move ended
    rw [move.eq_finish ended]
    exact List.mem_cons_self
  · intro stage other act past _ ih ended
    exact List.mem_cons_of_mem _ (ih ended)

/-- A pass returns once. -/
theorem Staged.nodup_finishers {fleet : Fleet Stage ι D}
    (staged : Staged terms log downstream fleet) :
    (finishers fleet.history).Nodup := by
  induction staged with
  | refl => exact List.nodup_nil
  | @tail before _ run step ih =>
      cases step with
      | enters fresh => exact ih
      | frees orphan => exact ih
      | @acts pass act stage outbox after moves effect =>
          cases act with
          | finish outcome =>
              refine List.nodup_cons.mpr ⟨fun member => ?_, ih⟩
              obtain ⟨earlier, finished⟩ := mem_finishers.mp member
              rw [Staged.ended_of_finish run finished] at moves
              cases moves
          | _ => exact ih

/-- The lock of a fleet is exclusive. -/
structure Exclusion (terms : Terms ι D) (fleet : Fleet Standing ι D) : Prop where
  /-- At most one pass is inside. -/
  alone : ∀ pass other lock lock', Inside pass lock fleet.history →
    Inside other lock' fleet.history → pass = other
  /-- Who is inside has the lock. -/
  held : ∀ pass lock, Inside pass lock fleet.history →
    fleet.outbox.holder terms.key = some lock.transaction
  /-- Who is inside stays there until it releases the lock itself. -/
  kept : ∀ fleet', Step terms Standing.Move fleet fleet' →
    ∀ pass lock, Inside pass lock fleet.history → Inside pass lock fleet'.history ∨
      ∃ given reply, fleet'.history = (pass, .store (.release given) reply) :: fleet.history
  /-- What needs the lock is done inside. -/
  guarded : Always (fun pass act past => act.Guarded → ∃ lock, Inside pass lock past)
    fleet.history
  /-- A pass that did not have the lock did nothing that needs it. -/
  modest : ∀ pass outcome, (pass, .finish outcome) ∈ fleet.history → outcome.Lost →
    Modest fun act => (pass, act) ∈ fleet.history

/-- The passes of a fleet share the entries out among them. -/
structure Sharing (log : List Entry) (fleet : Fleet Standing ι D) : Prop where
  /-- No entry is applied twice. -/
  at_most_once : ∀ id, (resolved fleet.history).count id ≤ 1
  /-- Once a pass has drained the outbox, each of the first entries was applied. -/
  exactly_once : ∀ pass applied discarded,
    (pass, .finish (.drained applied discarded)) ∈ fleet.history →
      ∀ entry ∈ log, (resolved fleet.history).count entry.id = 1
  /-- While no pass is under way, what passes have reported is what was removed. -/
  total : (∀ pass, fleet.place pass = .idle ∨ ∃ outcome, fleet.place pass = .ended outcome) →
    appliedTotal fleet.history = (removers fleet.history).length ∧
      appliedTotal fleet.history + fleet.outbox.log.length = fleet.entered.length

/-- At most one pass has the lock, and nobody else does anything that needs it. -/
theorem Reachable.exclusive {fleet : Fleet Standing ι D}
    (reachable : Reachable terms log downstream fleet) :
    Exclusion terms fleet := by
  obtain ⟨stages, staged, -⟩ := reachable.exists_stages
  refine ⟨?_, ?_, ?_, staged.guarded, fun pass outcome => staged.modest⟩
  · intro pass other lock lock' inside inside'
    exact staged.alone (staged.claim_of_inside inside) (staged.claim_of_inside inside')
  · intro pass lock inside
    exact staged.accounts.holds pass _ (staged.claim_of_inside inside)
  · intro fleet' step pass lock inside
    cases step with
    | enters fresh => exact .inl inside
    | frees orphan => exact .inl inside
    | @acts other act standing outbox after moves effect =>
        by_cases leaves : ∃ given reply, (other, act) = (pass, .store (.release given) reply)
        · obtain ⟨given, reply, same⟩ := leaves
          exact .inr ⟨given, reply, by rw [same]⟩
        · refine .inl (inside_cons.mpr (.inr ⟨inside, ?_⟩))
          exact fun given reply same => leaves ⟨given, reply, same⟩

theorem Staged.sum_reports {fleet : Fleet Stage ι D} (staged : Staged terms log downstream fleet)
    (tally : Tally log fleet)
    (rests : ∀ pass, fleet.place pass = .idle ∨ ∃ outcome, fleet.place pass = .ended outcome) :
    appliedTotal fleet.history = (removers fleet.history).length := by
  have reports : ∀ pass outcome, (pass, .finish outcome) ∈ fleet.history →
      outcome.drainedCount = (removers fleet.history).count pass := by
    intro pass outcome finished
    rw [tally.progress pass, staged.ended_of_finish finished]
    rfl
  have returned : ∀ pass ∈ removers fleet.history, pass ∈ finishers fleet.history := by
    intro pass member
    have counted : (fleet.place pass).progress ≠ 0 := by
      rw [← tally.progress pass]
      exact (List.count_pos_iff.mpr member).ne'
    rcases rests pass with idle | ⟨outcome, ended⟩
    · rw [idle] at counted
      exact absurd rfl counted
    · exact mem_finishers.mpr ⟨outcome, staged.finish_of_ended ended⟩
  rw [appliedTotal_eq_sum reports]
  exact sum_count_eq_length staged.nodup_finishers returned

theorem Follows.rests {settings : Settings} {standing : Standing} {stage : Stage}
    (follows : Follows settings standing stage)
    (rests : standing = .idle ∨ ∃ outcome, standing = .ended outcome) :
    stage = .idle ∨ ∃ outcome, stage = .ended outcome := by
  rcases rests with rfl | ⟨outcome, rfl⟩
  · cases follows
    exact .inl rfl
  · cases follows
    exact .inr ⟨outcome, rfl⟩

/-- If nothing fails, no entry is applied twice, and what passes report adds up. -/
theorem Reachable.sharing {fleet : Fleet Standing ι D} (distinct : (log.map Entry.id).Nodup)
    (reachable : Reachable terms log downstream fleet)
    (unlimited : ∀ pass, (terms.settings pass).maxAttempts = none)
    (flawless : Flawless fleet.history) :
    Sharing log fleet := by
  obtain ⟨stages, staged, follow⟩ := reachable.exists_stages
  have tally := staged.tally distinct unlimited flawless
  constructor
  · exact List.nodup_iff_count_le_one.mp tally.once
  · intro pass applied discarded finished entry member
    have ended : (fleet.placed stages).place pass = .ended (.drained applied discarded) :=
      staged.ended_of_finish finished
    have surveyed := tally.surveyed pass
    have gone := tally.gone entry.id (staged.initial_mem entry member)
    apply List.count_eq_one_of_mem tally.once (gone fun left => ?_)
    have pending := surveyed (by rw [ended]; exact ⟨_, _, rfl⟩) entry member left
    rw [ended] at pending
    cases pending
  · intro rests
    have sum_eq : appliedTotal fleet.history = (removers fleet.history).length :=
      staged.sum_reports tally fun pass => (follow pass).rests (rests pass)
    refine ⟨sum_eq, ?_⟩
    rw [sum_eq]
    exact tally.removed

/-- The lock is exclusive, and so passes share the entries out if nothing fails. -/
theorem Reachable.exclusion {fleet : Fleet Standing ι D}
    (reachable : Reachable terms log downstream fleet) :
    Exclusion terms fleet ∧
      ((log.map Entry.id).Nodup → (∀ pass, (terms.settings pass).maxAttempts = none) →
        Flawless fleet.history → Sharing log fleet) := by
  exact ⟨reachable.exclusive, fun distinct => reachable.sharing distinct⟩

end Whole

section Contention

/-- One pass finds the lock taken by another one, which drains the outbox. -/
theorem exclusion_of_contention :
    ∃ fleet : Fleet Standing Bool Unit,
      Reachable (.alike .default .any fun before _ _ after => after = before) [farewell] () fleet ∧
        fleet.place true = .ended .contended ∧ fleet.place false = .ended (.drained 1 0) ∧
        Exclusion (.alike .default .any fun before _ _ after => after = before) fleet ∧
        Sharing [farewell] fleet := by
  let terms : Terms Bool Unit :=
    .alike .default .any fun before _ _ after => after = before
  have started : Reachable terms [farewell] () _ := .start
  have begun := started.act false .start .start ⟨rfl, rfl⟩
  have locked := begun.act false (.store (.tryLock 1000) (.ok ⟨true, 0⟩)) (.store rfl _)
    ⟨⟨rfl, 0, rfl⟩, rfl⟩
  have joined := locked.act true .start .start ⟨rfl, rfl⟩
  have refused := joined.act true (.store (.tryLock 1000) (.ok ⟨false, 1⟩)) (.store rfl _)
    ⟨⟨rfl, 0, rfl⟩, rfl⟩
  have read := refused.act false (.store .entries (.ok [farewell])) (.store rfl _)
    ⟨⟨rfl, 0, rfl⟩, rfl⟩
  have conceded := read.act true (.store (.release (some ⟨false, 1⟩)) (.ok ()))
    (.store rfl _) ⟨⟨rfl, 0, rfl⟩, rfl⟩
  have handed := conceded.act false (.hand farewell) (.hand rfl) ⟨rfl, rfl⟩
  have consulted := handed.act false (.consult (.deleteTag "a" "a") (.ok ()))
    (.consult (by rw [apply_farewell]; rfl) _) ⟨rfl, rfl⟩
  have settled := consulted.act false (.settle farewell (.ok ())) (.settle rfl) ⟨rfl, rfl⟩
  have removed := settled.act false (.store (.remove farewell.id) (.ok ())) (.store rfl _)
    ⟨⟨rfl, 0, rfl⟩, rfl⟩
  have lost := removed.act true (.finish .contended) (.finish rfl) ⟨rfl, rfl⟩
  have released := lost.act false (.store (.release (some ⟨true, 0⟩)) (.ok ()))
    (.store rfl _) ⟨⟨rfl, 0, rfl⟩, rfl⟩
  have drained := released.act false (.finish (.drained 1 0)) (.finish rfl) ⟨rfl, rfl⟩
  obtain ⟨exclusion, sharing⟩ := drained.exclusion
  refine ⟨_, drained, rfl, rfl, exclusion, sharing (by decide) (fun _ => rfl) ?_⟩
  exact ⟨trivial, ⟨_, rfl⟩, trivial, ⟨_, rfl⟩, rfl, trivial, trivial, ⟨_, rfl⟩, ⟨_, rfl⟩,
    ⟨_, rfl⟩, trivial, ⟨_, rfl⟩, trivial, trivial⟩

end Contention

end Dispatch
end OutboxRelay
