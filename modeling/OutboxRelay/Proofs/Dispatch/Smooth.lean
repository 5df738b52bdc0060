import OutboxRelay.Proofs.Dispatch.Delivery
import OutboxRelay.Proofs.Dispatch.Exclusion
import Mathlib.Algebra.BigOperators.Group.Finset.Basic

/-!
# Runs in which nothing fails

If every call on the outbox works, every entry is resolved and there is no limit to
attempts, then passes share the entries out among them: each entry is applied by one
pass, and removed by the same one.

**Results.**
* `Stage.Move.smooth_cases`: all that a pass does then that matters to the tallies.
* `Tally.resolves`: a pass applies an entry that nobody has applied before.
* `Tally.removes`: a pass removes the entry that it has applied.
* `Staged.tally`: each removal is counted by one pass, what is gone was applied, and a pass
  that has drained the outbox has left none of the entries that were there at first.
-/

namespace OutboxRelay
namespace Dispatch

open Store (TransactionId)
open Outbox (Shared task)

/-! ## Acts and what they add to the tallies -/

/-- Whether an act works: the outbox does what it is told, and an entry is resolved. -/
def Act.Works : Act → Prop
  | .store _ reply => ∃ answer, reply = .ok answer
  | .settle _ result => result = .ok ()
  | .start | .hand _ | .consult .. | .finish _ => True

/-- Whether an act changes no tally. -/
def Act.Neutral : Act → Prop
  | .store call _ => call.kind = .tryLock ∨ call.kind = .release
  | .settle .. => False
  | .start | .hand _ | .consult .. | .finish _ => True

theorem Act.Neutral.offLog {act : Act} (neutral : act.Neutral) : act.OffLog := by
  cases act with
  | store call reply => exact neutral.imp_right .inl
  | _ => trivial

section Tallies

variable {ι : Type}

/-- The entry that an act applies. -/
def Act.resolved? : Act → Option EntryId
  | .settle entry (.ok _) => some entry.id
  | _ => none

/-- The identifiers of the entries that were applied, the last one first. -/
def resolved (history : List (ι × Act)) : List EntryId :=
  history.filterMap fun done => done.2.resolved?

/-- Whether an act removes an entry. -/
def Act.removes : Act → Bool
  | .store (.remove _) _ => true
  | _ => false

/-- The passes that removed an entry, once for each removal. -/
def removers (history : List (ι × Act)) : List ι :=
  (history.filter fun done => done.2.removes).map Prod.fst

theorem Act.Neutral.resolved?_eq {act : Act} (neutral : act.Neutral) :
    act.resolved? = none := by
  cases act with
  | settle entry result => exact absurd neutral id
  | _ => rfl

theorem Act.Neutral.removes_eq {act : Act} (neutral : act.Neutral) :
    act.removes = false := by
  cases act with
  | store call reply =>
      cases call with
      | remove id => rcases neutral with kind | kind <;> cases kind
      | _ => rfl
  | _ => rfl

theorem resolved_cons_of_none {pass : ι} {act : Act} {past : List (ι × Act)}
    (none : act.resolved? = none) :
    resolved ((pass, act) :: past) = resolved past := by
  exact List.filterMap_cons_none none

theorem removers_cons_of_false {pass : ι} {act : Act} {past : List (ι × Act)}
    (never : act.removes = false) :
    removers ((pass, act) :: past) = removers past := by
  unfold removers
  rw [List.filter_cons_of_neg (by simp [never])]

theorem mem_resolved {pass : ι} {entry : Entry} {history : List (ι × Act)}
    (settled : (pass, .settle entry (.ok ())) ∈ history) :
    entry.id ∈ resolved history := by
  exact List.mem_filterMap.mpr ⟨_, settled, rfl⟩

end Tallies

/-! ## Stages and what they tell of the tallies -/

/-- How many entries a pass has applied that drained the outbox. -/
def Outcome.drainedCount : Outcome → Nat
  | .drained applied _ => applied
  | _ => 0

namespace Stage

/-- How many entries a pass has applied and removed. -/
def progress : Stage → Nat
  | .facing _ applied _ _ _ | .replaying _ applied _ _ _ _ | .removing _ applied _ _ _ =>
      applied
  | .leaving _ outcome | .returning outcome | .ended outcome => outcome.drainedCount
  | _ => 0

/-- The entry that a pass has applied and not yet removed. -/
def atHand : Stage → Option Entry
  | .removing _ _ _ entry _ => some entry
  | _ => none

/-- Whether a pass has read all that it will not leave behind. -/
def Surveyed : Stage → Prop
  | .facing .. | .replaying .. | .removing .. => True
  | .leaving _ outcome | .returning outcome | .ended outcome =>
      ∃ applied discarded, outcome = .drained applied discarded
  | _ => False

/-- Whether a pass has neither given an entry up nor failed at one. -/
def Smooth : Stage → Prop
  | .discarding .. | .failing .. => False
  | _ => True

theorem exists_claim_of_atHand {stage : Stage} {entry : Entry}
    (hand : stage.atHand = some entry) :
    ∃ transaction, stage.claim = some (true, transaction) := by
  cases stage with
  | removing lock => exact ⟨_, rfl⟩
  | _ => cases hand

section Next

variable {lock : Lock TransactionId} {applied discarded : Nat} {entries : List Entry}

@[simp] theorem progress_next :
    (next none lock applied discarded entries).progress = applied := by
  cases entries <;> rfl

@[simp] theorem atHand_next :
    (next none lock applied discarded entries).atHand = none := by
  cases entries <;> rfl

theorem smooth_next : (next none lock applied discarded entries).Smooth := by
  cases entries <;> trivial

end Next

/-- All that a pass does, if nothing fails, that matters to the tallies. -/
theorem Move.smooth_cases {settings : Settings} {stage stage' : Stage} {act : Act}
    (unlimited : settings.maxAttempts = none) (smooth : stage.Smooth)
    (move : Stage.Move settings stage act stage') (works : act.Works) :
    stage'.Smooth ∧
    ((act.Neutral ∧ stage'.progress = stage.progress ∧ stage'.atHand = stage.atHand ∧
        stage'.pending = stage.pending ∧ (stage'.Surveyed → stage.Surveyed)) ∨
      (∃ lock entries, stage = .reading lock ∧ act = .store .entries (.ok entries) ∧
        stage' = next none lock 0 0 entries) ∨
      (∃ lock applied discarded entry rest work,
        stage = .replaying lock applied discarded entry rest work ∧
        act = .settle entry (.ok ()) ∧
        stage' = .removing lock applied discarded entry rest) ∨
      ∃ lock applied discarded entry rest,
        stage = .removing lock applied discarded entry rest ∧
        act = .store (.remove entry.id) (.ok ()) ∧
        stage' = next none lock (applied + 1) discarded rest) := by
  cases move with
  | start | handed | consulted => exact ⟨trivial, .inl ⟨trivial, rfl, rfl, rfl, id⟩⟩
  | finish => exact ⟨trivial, .inl ⟨trivial, rfl, rfl, rfl, id⟩⟩
  | lockTaken | lockRefused => exact ⟨trivial, .inl ⟨.inl rfl, rfl, rfl, rfl, id⟩⟩
  | released => exact ⟨trivial, .inl ⟨.inr rfl, rfl, rfl, rfl, id⟩⟩
  | conceded =>
      refine ⟨trivial, .inl ⟨.inr rfl, rfl, rfl, rfl, ?_⟩⟩
      rintro ⟨applied, discarded, other⟩
      cases other
  | read lock entries =>
      rw [unlimited]
      exact ⟨smooth_next, .inr (.inl ⟨lock, entries, rfl, rfl, rfl⟩)⟩
  | resolved lock applied discarded entry rest shape =>
      exact ⟨trivial, .inr (.inr (.inl ⟨lock, applied, discarded, entry, rest, _, rfl, rfl, rfl⟩))⟩
  | removed lock applied discarded entry rest =>
      rw [unlimited]
      exact ⟨smooth_next, .inr (.inr (.inr
        ⟨lock, applied, discarded, entry, rest, rfl, rfl, rfl⟩))⟩
  | discarded | notDiscarded | counted => exact absurd smooth id
  | lockFailed | misread | notRemoved =>
      obtain ⟨answer, failed⟩ := works
      cases failed
  | unresolved => cases works

end Stage

/-- Only the pass that has the lock has an entry at hand. -/
theorem Accounts.eq_of_atHand {ι D : Type} {key : LockId} {fleet : Fleet Stage ι D}
    (accounts : Accounts key fleet.outbox fleet.claims) {pass other : ι} {entry : Entry}
    {transaction : TransactionId}
    (claimed : (fleet.place pass).claim = some (true, transaction))
    (hand : (fleet.place other).atHand = some entry) :
    other = pass := by
  obtain ⟨transaction', yours⟩ := Stage.exists_claim_of_atHand hand
  exact accounts.alone yours claimed

/-! ## Tallies -/

section Tally

variable {ι D : Type} [DecidableEq ι]

/-- The tallies of a fleet in which nothing has failed so far. -/
structure Tally (log : List Entry) (fleet : Fleet Stage ι D) : Prop where
  smooth : ∀ pass, (fleet.place pass).Smooth
  /-- A pass knows how many entries it has removed. -/
  progress : ∀ pass, (removers fleet.history).count pass = (fleet.place pass).progress
  /-- Each entry is still there, or was removed once. -/
  removed :
    (removers fleet.history).length + fleet.outbox.log.length = fleet.entered.length
  /-- No entry was applied twice. -/
  once : (resolved fleet.history).Nodup
  known : ∀ id ∈ resolved fleet.history, id ∈ fleet.order
  /-- What was applied and is still there is about to be removed. -/
  at_hand : ∀ id ∈ resolved fleet.history, id ∈ fleet.outbox.log.map Entry.id →
    ∃ pass entry, (fleet.place pass).atHand = some entry ∧ entry.id = id
  /-- What is gone was applied. -/
  gone : ∀ id ∈ fleet.order, id ∉ fleet.outbox.log.map Entry.id →
    id ∈ resolved fleet.history
  /-- A pass has read all entries that are left of the first ones. -/
  surveyed : ∀ pass, (fleet.place pass).Surveyed → ∀ entry ∈ log,
    entry.id ∈ fleet.outbox.log.map Entry.id →
      entry.id ∈ (fleet.place pass).pending.map Entry.id

namespace Tally

variable {log : List Entry} {fleet : Fleet Stage ι D}

theorem initial (log : List Entry) (downstream : D) :
    Tally log (Fleet.start .idle log downstream : Fleet Stage ι D) := by
  constructor
  · exact fun _ => trivial
  · exact fun _ => rfl
  · exact Nat.zero_add _
  · exact List.nodup_nil
  · exact fun id member => absurd member List.not_mem_nil
  · exact fun id member => absurd member List.not_mem_nil
  · exact fun id member apart => absurd member apart
  · exact fun _ surveyed => absurd surveyed id

theorem enters {entry : Entry} (tally : Tally log fleet) (fresh : entry.id ∉ fleet.order)
    (initial : ∀ first ∈ log, first.id ∈ fleet.order) :
    Tally log { fleet with
      outbox := fleet.outbox.push entry
      entered := fleet.entered ++ [entry] } := by
  have left_cases : ∀ id, id ∈ (fleet.outbox.log ++ [entry]).map Entry.id ↔
      id ∈ fleet.outbox.log.map Entry.id ∨ id = entry.id := by
    intro id
    rw [List.map_append, List.mem_append, List.map_singleton, List.mem_singleton]
  have order_cases : ∀ id, id ∈ (fleet.entered ++ [entry]).map Entry.id ↔
      id ∈ fleet.order ∨ id = entry.id := by
    intro id
    rw [List.map_append, List.mem_append, List.map_singleton, List.mem_singleton]
    rfl
  constructor
  · exact tally.smooth
  · exact tally.progress
  · show (removers fleet.history).length + (fleet.outbox.log ++ [entry]).length =
      (fleet.entered ++ [entry]).length
    rw [List.length_append, List.length_append, ← Nat.add_assoc, tally.removed]
  · exact tally.once
  · exact fun id member => (order_cases id).mpr (.inl (tally.known id member))
  · intro id applied left
    rcases (left_cases id).mp left with left | rfl
    · exact tally.at_hand id applied left
    · exact absurd (tally.known _ applied) fresh
  · intro id member apart
    rcases (order_cases id).mp member with old | rfl
    · exact tally.gone id old fun left => apart ((left_cases id).mpr (.inl left))
    · exact absurd ((left_cases _).mpr (.inr rfl)) apart
  · intro pass surveyed first member left
    rcases (left_cases first.id).mp left with left | same
    · exact tally.surveyed pass surveyed first member left
    · exact absurd (same ▸ initial first member) fresh

variable {pass : ι} {act : Act} {stage : Stage} {outbox : Shared} {after : D}

theorem smooth_update (tally : Tally log fleet) (smooth : stage.Smooth) :
    ∀ other, (Function.update fleet.place pass stage other).Smooth :=
  (Function.forall_update_iff fleet.place fun _ stage => stage.Smooth).mpr
    ⟨smooth, fun other _ => tally.smooth other⟩

theorem progress_update (tally : Tally log fleet)
    (same : stage.progress = (fleet.place pass).progress) :
    ∀ other, (removers fleet.history).count other =
      (Function.update fleet.place pass stage other).progress :=
  (Function.forall_update_iff fleet.place fun other stage =>
    (removers fleet.history).count other = stage.progress).mpr
      ⟨same ▸ tally.progress pass, fun other _ => tally.progress other⟩

/-- If no entry comes back, the other passes have still read all that are left. -/
theorem surveyed_update (tally : Tally log fleet) {left : List EntryId}
    (fewer : left ⊆ fleet.outbox.log.map Entry.id)
    (surveyed : stage.Surveyed → ∀ first ∈ log,
      first.id ∈ left → first.id ∈ stage.pending.map Entry.id) :
    ∀ other, (Function.update fleet.place pass stage other).Surveyed → ∀ first ∈ log,
      first.id ∈ left →
        first.id ∈ (Function.update fleet.place pass stage other).pending.map Entry.id :=
  (Function.forall_update_iff fleet.place fun _ stage => stage.Surveyed → ∀ first ∈ log,
    first.id ∈ left → first.id ∈ stage.pending.map Entry.id).mpr
      ⟨surveyed, fun other _ read first member among =>
        tally.surveyed other read first member (fewer among)⟩

/-- An act that neither applies nor removes an entry changes no tally. -/
theorem keeps (tally : Tally log fleet) (smooth : stage.Smooth)
    (applies_none : act.resolved? = none) (removes_none : act.removes = false)
    (same_log : outbox.log = fleet.outbox.log)
    (same_progress : stage.progress = (fleet.place pass).progress)
    (same_hand : stage.atHand = (fleet.place pass).atHand)
    (surveyed : stage.Surveyed → ∀ first ∈ log,
      first.id ∈ fleet.outbox.log.map Entry.id → first.id ∈ stage.pending.map Entry.id) :
    Tally log ⟨outbox, after, Function.update fleet.place pass stage, fleet.entered,
      (pass, act) :: fleet.history⟩ := by
  have hand_eq : ∀ other, (Function.update fleet.place pass stage other).atHand =
      (fleet.place other).atHand :=
    (Function.forall_update_iff fleet.place fun other stage =>
      stage.atHand = (fleet.place other).atHand).mpr ⟨same_hand, fun _ _ => rfl⟩
  have resolved_eq : resolved ((pass, act) :: fleet.history) = resolved fleet.history :=
    resolved_cons_of_none applies_none
  have removers_eq : removers ((pass, act) :: fleet.history) = removers fleet.history :=
    removers_cons_of_false removes_none
  constructor
  · exact tally.smooth_update smooth
  · rw [removers_eq]
    exact tally.progress_update same_progress
  · rw [removers_eq, same_log]
    exact tally.removed
  · rw [resolved_eq]
    exact tally.once
  · rw [resolved_eq]
    exact tally.known
  · rw [resolved_eq, same_log]
    intro id applied left
    obtain ⟨other, entry, hand, same⟩ := tally.at_hand id applied left
    exact ⟨other, entry, (hand_eq other).trans hand, same⟩
  · rw [resolved_eq, same_log]
    exact tally.gone
  · rw [same_log]
    exact tally.surveyed_update (List.Subset.refl _) surveyed

section Draining

variable {lock : Lock TransactionId} {applied discarded : Nat} {entry : Entry}
variable {rest : List Entry} {key : LockId}

/-- A pass applies the oldest entry that is left. -/
theorem resolves {work : Replay.OnDownstream (Except EventError Unit)}
    (tally : Tally log fleet) (orderly : Orderly fleet)
    (accounts : Accounts key fleet.outbox fleet.claims)
    (place_eq : fleet.place pass = .replaying lock applied discarded entry rest work) :
    Tally log ⟨fleet.outbox, fleet.downstream,
      Function.update fleet.place pass (.removing lock applied discarded entry rest),
      fleet.entered, (pass, .settle entry (.ok ())) :: fleet.history⟩ := by
  have known := orderly.known pass
  rw [place_eq] at known
  have in_log : entry.id ∈ fleet.outbox.log.map Entry.id :=
    List.mem_map_of_mem (known.subset List.mem_cons_self)
  -- Whoever had applied the entry before would be inside as well.
  have unapplied : entry.id ∉ resolved fleet.history := by
    intro applied_before
    obtain ⟨other, _, hand, -⟩ := tally.at_hand entry.id applied_before in_log
    have same := accounts.eq_of_atHand (congrArg Stage.claim place_eq) hand
    rw [same, place_eq] at hand
    cases hand
  constructor
  · exact tally.smooth_update trivial
  · refine tally.progress_update ?_
    rw [place_eq]
    rfl
  · exact tally.removed
  · exact List.nodup_cons.mpr ⟨unapplied, tally.once⟩
  · intro id member
    rcases List.mem_cons.mp member with rfl | member
    · exact orderly.left_ids.subset in_log
    · exact tally.known id member
  · intro id member left
    rcases List.mem_cons.mp member with rfl | member
    · refine ⟨pass, entry, ?_, rfl⟩
      show (Function.update fleet.place pass _ pass).atHand = some entry
      rw [Function.update_self]
      rfl
    · obtain ⟨other, at_hand, hand, same⟩ := tally.at_hand id member left
      refine ⟨other, at_hand, ?_, same⟩
      have apart : other ≠ pass := by
        rintro rfl
        rw [place_eq] at hand
        cases hand
      show (Function.update fleet.place pass _ other).atHand = some at_hand
      rw [Function.update_of_ne apart]
      exact hand
  · exact fun id member apart => List.mem_cons_of_mem _ (tally.gone id member apart)
  · have surveyed := tally.surveyed pass
    rw [place_eq] at surveyed
    exact tally.surveyed_update (List.Subset.refl _) surveyed

/-- A pass removes the entry that it has applied. -/
theorem removes (tally : Tally log fleet) (orderly : Orderly fleet)
    (accounts : Accounts key fleet.outbox fleet.claims)
    (place_eq : fleet.place pass = .removing lock applied discarded entry rest)
    (was_applied : entry.id ∈ resolved fleet.history)
    (taken : fleet.outbox.log = entry :: outbox.log) :
    Tally log ⟨outbox, after,
      Function.update fleet.place pass
        (Stage.next none lock (applied + 1) discarded rest),
      fleet.entered, (pass, .store (.remove entry.id) (.ok ())) :: fleet.history⟩ := by
  have removers_eq : removers ((pass, .store (.remove entry.id) (.ok ())) :: fleet.history) =
      pass :: removers fleet.history := by
    rfl
  have left_cases : ∀ id, id ∈ fleet.outbox.log.map Entry.id ↔
      id = entry.id ∨ id ∈ outbox.log.map Entry.id := by
    intro id
    rw [taken, List.map_cons, List.mem_cons]
  have gone : entry.id ∉ outbox.log.map Entry.id := by
    have distinct := orderly.distinct_log
    rw [taken, List.map_cons, List.nodup_cons] at distinct
    exact distinct.1
  constructor
  · exact tally.smooth_update Stage.smooth_next
  · rw [removers_eq]
    refine (Function.forall_update_iff fleet.place fun other stage =>
      (pass :: removers fleet.history).count other = stage.progress).mpr ⟨?_, ?_⟩
    · have progress := tally.progress pass
      rw [place_eq] at progress
      rw [List.count_cons_self, progress, Stage.progress_next]
      rfl
    · intro other apart
      rw [List.count_cons_of_ne apart.symm]
      exact tally.progress other
  · have removed := tally.removed
    rw [taken, List.length_cons] at removed
    rw [removers_eq, List.length_cons]
    show _ + 1 + outbox.log.length = fleet.entered.length
    omega
  · exact tally.once
  · exact tally.known
  · intro id member left
    obtain ⟨other, at_hand, hand, same⟩ :=
      tally.at_hand id member ((left_cases id).mpr (.inr left))
    have same_pass := accounts.eq_of_atHand (congrArg Stage.claim place_eq) hand
    rw [same_pass, place_eq] at hand
    cases hand
    exact absurd (same ▸ left) gone
  · intro id member apart
    by_cases same : id = entry.id
    · rw [same]
      exact was_applied
    · refine tally.gone id member fun left => ?_
      rcases (left_cases id).mp left with this_one | left
      · exact same this_one
      · exact apart left
  · refine tally.surveyed_update (fun id left => (left_cases id).mpr (.inr left)) ?_
    intro _ first member left
    have surveyed := tally.surveyed pass
    rw [place_eq] at surveyed
    have known := surveyed trivial first member ((left_cases _).mpr (.inr left))
    rw [Stage.pending_next]
    rcases List.mem_cons.mp known with same | known
    · exact absurd (same ▸ left) gone
    · exact known

end Draining

end Tally

variable {terms : Terms ι D} {log : List Entry} {downstream : D}

/-- Whether nothing has failed so far. -/
def Flawless (history : List (ι × Act)) : Prop :=
  Always (fun _ act _ => act.Works) history

theorem Staged.initial_mem {fleet : Fleet Stage ι D}
    (staged : Staged terms log downstream fleet) :
    ∀ first ∈ log, first.id ∈ fleet.order := by
  induction staged with
  | refl => exact fun first member => List.mem_map_of_mem member
  | tail _ step ih =>
      cases step with
      | enters fresh =>
          intro first member
          have old := ih first member
          simp only [Fleet.order, List.map_append, List.mem_append]
          exact .inl old
      | frees orphan => exact ih
      | acts moves effect => exact ih

/-- The tallies of a fleet are in order for as long as nothing fails. -/
theorem Staged.tally {fleet : Fleet Stage ι D} (distinct : (log.map Entry.id).Nodup)
    (unlimited : ∀ pass, (terms.settings pass).maxAttempts = none)
    (staged : Staged terms log downstream fleet) (flawless : Flawless fleet.history) :
    Tally log fleet := by
  induction staged with
  | refl => exact Tally.initial log downstream
  | @tail before _ run step ih =>
      cases step with
      | enters fresh => exact (ih flawless).enters fresh (Staged.initial_mem run)
      | frees orphan =>
          have tally := ih flawless
          exact ⟨tally.smooth, tally.progress, tally.removed, tally.once, tally.known,
            tally.at_hand, tally.gone, tally.surveyed⟩
      | @acts pass act stage outbox after moves effect =>
          obtain ⟨works, flawless⟩ := flawless
          have tally := ih flawless
          have orderly := Staged.orderly distinct run
          have accounts := Staged.accounts run
          obtain ⟨smooth, ⟨neutral, progress, hand, pending, surveyed⟩ |
            ⟨lock, entries, place_eq, rfl, rfl⟩ |
            ⟨lock, applied, discarded, entry, rest, work, place_eq, rfl, rfl⟩ |
            ⟨lock, applied, discarded, entry, rest, place_eq, rfl, rfl⟩⟩ :=
              moves.smooth_cases (unlimited pass) (tally.smooth pass) works
          · refine tally.keeps smooth neutral.resolved?_eq neutral.removes_eq
              (effect.log_eq neutral.offLog) progress hand fun read => ?_
            rw [pending]
            exact tally.surveyed pass (surveyed read)
          · obtain ⟨⟨answered, now, rfl⟩, rfl⟩ := effect
            obtain rfl : entries = before.outbox.log := answered
            refine tally.keeps smooth rfl rfl rfl ?_ ?_ ?_
            · rw [place_eq]
              exact Stage.progress_next
            · rw [place_eq]
              exact Stage.atHand_next
            · intro _ first _ left
              rw [Stage.pending_next]
              exact left
          · obtain ⟨rfl, rfl⟩ := effect
            exact tally.resolves orderly accounts place_eq
          · have recalls := Staged.recalls run pass
            rw [place_eq] at recalls
            have taken : before.outbox.log = entry :: outbox.log := by
              rcases orderly.taken (congrArg Stage.pending place_eq) effect.1 with
                taken | ⟨-, error, failed⟩
              · exact taken
              · cases failed
            exact tally.removes orderly accounts place_eq (mem_resolved recalls.1) taken

end Tally

end Dispatch
end OutboxRelay
