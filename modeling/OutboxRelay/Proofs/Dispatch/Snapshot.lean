import OutboxRelay.Proofs.Dispatch.Accounts

/-!
# What a pass has read

A pass works on the entries that it read, and not on the outbox.  While it has the lock,
what is left of them is the beginning of the log all the same: nobody else takes entries
away, and what enters comes last.

**Results.**
* `Stage.Move.log_cases`: what an act of a pass has to do with the entries.
* `Staged.orderly`: the entries that are gone are the oldest ones, and what a pass has
  yet to settle comes first in the log.
-/

namespace OutboxRelay
namespace Dispatch

open Store (TransactionId)
open Outbox (Shared task without without_head)

namespace Stage

/-- The entries that a pass has read and not settled, the one at hand first. -/
def pending : Stage → List Entry
  | .discarding _ _ _ entry rest | .facing _ _ _ entry rest
  | .replaying _ _ _ entry rest _ | .removing _ _ _ entry rest => entry :: rest
  | .idle | .asking | .refused _ | .reading _ | .failing .. | .leaving .. | .returning _
  | .ended _ => []

@[simp] theorem pending_next (limit : Option Int) (lock : Lock TransactionId)
    (applied discarded : Nat) (entries : List Entry) :
    (next limit lock applied discarded entries).pending = entries := by
  exact next_cases (fun entries stage => stage.pending = entries) rfl
    (fun _ _ _ => rfl) (fun _ _ => rfl) entries

/-- Only with the lock does a pass have entries to settle. -/
theorem exists_claim_of_pending {stage : Stage} (some_left : stage.pending ≠ []) :
    ∃ transaction, stage.claim = some (true, transaction) := by
  cases stage with
  | discarding lock | facing lock | replaying lock | removing lock => exact ⟨_, rfl⟩
  | _ => exact absurd rfl some_left

end Stage

/-- Whether an act leaves the entries of the outbox alone. -/
def Act.OffLog : Act → Prop
  | .store call _ =>
      call.kind = .tryLock ∨ call.kind = .release ∨ call.kind = .entries
  | _ => True

/-- What an act of a pass has to do with the entries. -/
theorem Stage.Move.log_cases {settings : Settings} {stage stage' : Stage} {act : Act}
    (move : Stage.Move settings stage act stage') :
    (act.OffLog ∧ (stage'.pending = stage.pending ∨ stage'.pending = [])) ∨
    (∃ entries, act = .store .entries (.ok entries) ∧ stage'.pending = entries) ∨
    (∃ (entry : Entry) (reply : Except StoreError Unit) (transaction : TransactionId),
      act = .store (.recordFailure entry.id) reply ∧
      stage.claim = some (true, transaction) ∧ stage'.pending = []) ∨
    (∃ (entry : Entry) (rest : List Entry) (reply : Except StoreError Unit),
      act = .store (.remove entry.id) reply ∧ stage.pending = entry :: rest ∧
      (stage'.pending = [] ∨ (reply = .ok () ∧ stage'.pending = rest))) := by
  cases move with
  | start | handed | consulted | resolved => exact .inl ⟨trivial, .inl rfl⟩
  | unresolved | finish => exact .inl ⟨trivial, .inr rfl⟩
  | lockFailed | lockTaken | lockRefused => exact .inl ⟨.inl rfl, .inr rfl⟩
  | conceded | released => exact .inl ⟨.inr (.inl rfl), .inr rfl⟩
  | misread => exact .inl ⟨.inr (.inr rfl), .inr rfl⟩
  | read lock entries => exact .inr (.inl ⟨entries, rfl, pending_next ..⟩)
  | counted lock applied entry reply =>
      exact .inr (.inr (.inl ⟨entry, reply, _, rfl, rfl, rfl⟩))
  | discarded lock applied discarded entry rest =>
      exact .inr (.inr (.inr
        ⟨entry, rest, .ok (), rfl, rfl, .inr ⟨rfl, pending_next ..⟩⟩))
  | removed lock applied discarded entry rest =>
      exact .inr (.inr (.inr
        ⟨entry, rest, .ok (), rfl, rfl, .inr ⟨rfl, pending_next ..⟩⟩))
  | notDiscarded lock applied discarded entry rest error =>
      exact .inr (.inr (.inr ⟨entry, rest, .error error, rfl, rfl, .inl rfl⟩))
  | notRemoved lock applied discarded entry rest error =>
      exact .inr (.inr (.inr ⟨entry, rest, .error error, rfl, rfl, .inl rfl⟩))

/-- An act off the log leaves the log alone. -/
theorem Act.Effect.log_eq {ι D : Type} {terms : Terms ι D} {act : Act}
    {outbox outbox' : Shared} {downstream downstream' : D}
    (effect : act.Effect terms outbox downstream outbox' downstream')
    (off : act.OffLog) :
    outbox'.log = outbox.log := by
  cases act with
  | store call reply => exact effect.1.log_eq off
  | start | hand | consult | settle | finish => rw [effect.1]

section Orderly

variable {ι D : Type}

/-- A fleet whose entries are gone in order, and whose passes know what is left. -/
structure Orderly (fleet : Fleet Stage ι D) : Prop where
  /-- No two entries ever had the same identifier. -/
  distinct : fleet.order.Nodup
  /-- The entries that are left are the last ones. -/
  left : fleet.outbox.log.map task <:+ fleet.entered.map task
  /-- What a pass has yet to settle comes first. -/
  known : ∀ pass, (fleet.place pass).pending <+: fleet.outbox.log

theorem map_fst_task (entries : List Entry) :
    (entries.map task).map Prod.fst = entries.map Entry.id := by
  rw [List.map_map]
  rfl

/-- The identifiers that are left are the last ones. -/
theorem Orderly.left_ids {fleet : Fleet Stage ι D} (orderly : Orderly fleet) :
    fleet.outbox.log.map Entry.id <:+ fleet.order := by
  have left := orderly.left.map Prod.fst
  rwa [map_fst_task, map_fst_task] at left

theorem Orderly.distinct_log {fleet : Fleet Stage ι D} (orderly : Orderly fleet) :
    (fleet.outbox.log.map Entry.id).Nodup := by
  exact orderly.distinct.sublist orderly.left_ids.sublist

/-- What a pass will settle next is the oldest entry, and can be taken away. -/
theorem Orderly.exists_more {fleet : Fleet Stage ι D} (orderly : Orderly fleet) {pass : ι}
    {entry : Entry} {rest : List Entry}
    (pending_eq : (fleet.place pass).pending = entry :: rest) :
    ∃ more, fleet.outbox.log = entry :: (rest ++ more) ∧
      without entry.id fleet.outbox.log = rest ++ more := by
  have known := orderly.known pass
  rw [pending_eq] at known
  obtain ⟨more, split⟩ := known
  have distinct := orderly.distinct_log
  rw [← split] at distinct ⊢
  exact ⟨more, rfl, without_head distinct⟩

/-- A removal of what a pass will settle next takes the oldest entry away, or fails. -/
theorem Orderly.taken {fleet : Fleet Stage ι D} (orderly : Orderly fleet) {pass : ι}
    {entry : Entry} {rest : List Entry} {faults : Outbox.Faults}
    {reply : Except StoreError Unit} {outbox : Shared}
    (pending_eq : (fleet.place pass).pending = entry :: rest)
    (served : fleet.outbox.Serves faults (.remove entry.id) reply outbox) :
    fleet.outbox.log = entry :: outbox.log ∨
      (outbox.log = fleet.outbox.log ∧ ∃ error, reply = .error error) := by
  obtain ⟨more, split, taken⟩ := orderly.exists_more pending_eq
  rcases served.remove_log with gone | kept
  · rw [gone, taken]
    exact .inl split
  · exact .inr kept

/-- All entries fall into those that are gone and, behind them, those that are left. -/
theorem Orderly.exists_gone {fleet : Fleet Stage ι D} (orderly : Orderly fleet) :
    ∃ gone left, fleet.entered = gone ++ left ∧
      left.map task = fleet.outbox.log.map task ∧
      ∀ entry ∈ gone, entry.id ∉ fleet.outbox.log.map Entry.id := by
  obtain ⟨gone, parts⟩ := orderly.left
  have left_eq :
      (fleet.entered.drop gone.length).map task = fleet.outbox.log.map task := by
    rw [List.map_drop, ← parts, List.drop_left]
  refine ⟨_, _, (List.take_append_drop gone.length fleet.entered).symm, left_eq, ?_⟩
  intro entry member
  have distinct := orderly.distinct
  unfold Fleet.order at distinct
  rw [← List.take_append_drop gone.length fleet.entered, List.map_append,
    List.nodup_append, ← map_fst_task (fleet.entered.drop _), left_eq, map_fst_task]
    at distinct
  exact fun still =>
    distinct.2.2 entry.id (List.mem_map_of_mem member) entry.id still rfl

variable {terms : Terms ι D} {log : List Entry} {downstream : D}

/-- What an act of a pass does to the entries of an orderly fleet. -/
theorem Orderly.act_cases {fleet : Fleet Stage ι D} (orderly : Orderly fleet)
    {pass : ι} {act : Act} {stage : Stage} {outbox : Shared} {after : D}
    (moves : Stage.Move (terms.settings pass) (fleet.place pass) act stage)
    (effect : act.Effect terms fleet.outbox fleet.downstream outbox after) :
    (outbox.log = fleet.outbox.log ∧ stage.pending <+: outbox.log) ∨
    ((∃ transaction, (fleet.place pass).claim = some (true, transaction)) ∧
      stage.pending <+: outbox.log ∧
      (outbox.log.map task = fleet.outbox.log.map task ∨
        ∃ entry reply, act = .store (.remove entry.id) reply ∧
          fleet.outbox.log = entry :: outbox.log)) := by
  rcases moves.log_cases with ⟨off, same⟩ | ⟨entries, rfl, same⟩ |
    ⟨entry, reply, transaction, rfl, claimed, same⟩ |
      ⟨entry, rest, reply, rfl, before, same⟩
  · have kept := effect.log_eq off
    refine .inl ⟨kept, ?_⟩
    rw [kept]
    rcases same with same | same
    · rw [same]
      exact orderly.known pass
    · rw [same]
      exact List.nil_prefix
  · obtain ⟨⟨answered, now, rfl⟩, -⟩ := effect
    refine .inl ⟨rfl, ?_⟩
    rw [same, answered]
    exact List.prefix_refl _
  · refine .inr ⟨⟨transaction, claimed⟩, ?_, .inl effect.1.recordFailure_log⟩
    rw [same]
    exact List.nil_prefix
  · have known := orderly.known pass
    rw [before] at known
    refine .inr ⟨Stage.exists_claim_of_pending (by rw [before]; simp), ?_⟩
    rcases orderly.taken before effect.1 with taken | ⟨kept, error, failed⟩
    · refine ⟨?_, .inr ⟨entry, reply, rfl, taken⟩⟩
      rcases same with same | ⟨-, same⟩
      · rw [same]
        exact List.nil_prefix
      · rw [same]
        rw [taken] at known
        exact (List.cons_prefix_cons.mp known).2
    · refine ⟨?_, .inl (by rw [kept])⟩
      rcases same with same | ⟨worked, -⟩
      · rw [same]
        exact List.nil_prefix
      · rw [worked] at failed
        cases failed

/-- An act removes the oldest entry, or none. -/
theorem Orderly.tasks_cases {fleet : Fleet Stage ι D} (orderly : Orderly fleet)
    {pass : ι} {act : Act} {stage : Stage} {outbox : Shared} {after : D}
    (moves : Stage.Move (terms.settings pass) (fleet.place pass) act stage)
    (effect : act.Effect terms fleet.outbox fleet.downstream outbox after) :
    outbox.log.map task = fleet.outbox.log.map task ∨
      ∃ entry reply, act = .store (.remove entry.id) reply ∧
        fleet.outbox.log = entry :: outbox.log := by
  rcases orderly.act_cases moves effect with ⟨kept, -⟩ | ⟨-, -, same⟩
  · exact .inl (congrArg _ kept)
  · exact same

variable [DecidableEq ι]

theorem Orderly.step {fleet fleet' : Fleet Stage ι D} (orderly : Orderly fleet)
    (accounts : Accounts terms.key fleet.outbox fleet.claims)
    (step : Step terms Stage.Move fleet fleet') :
    Orderly fleet' := by
  cases step with
  | @enters entry fresh =>
      constructor
      · show ((fleet.entered ++ [entry]).map Entry.id).Nodup
        rw [List.map_append]
        exact orderly.distinct.append (List.nodup_singleton _) (by simpa using fresh)
      · show (fleet.outbox.log ++ [entry]).map task <:+ (fleet.entered ++ [entry]).map task
        rw [List.map_append, List.map_append]
        obtain ⟨gone, split⟩ := orderly.left
        exact ⟨gone, by rw [← split, List.append_assoc]⟩
      · intro pass
        exact (orderly.known pass).trans (List.prefix_append _ _)
  | frees orphan => exact ⟨orderly.distinct, orderly.left, orderly.known⟩
  | @acts pass act stage outbox after moves effect =>
      have cases_of_act := orderly.act_cases moves effect
      constructor
      · exact orderly.distinct
      · show outbox.log.map task <:+ fleet.entered.map task
        rcases orderly.tasks_cases moves effect with same | ⟨entry, reply, -, taken⟩
        · rw [same]
          exact orderly.left
        · have left := orderly.left
          rw [taken] at left
          exact (List.suffix_cons _ _).trans left
      · intro other
        show (Function.update fleet.place pass stage other).pending <+: outbox.log
        by_cases same : other = pass
        · subst same
          rw [Function.update_self]
          rcases cases_of_act with ⟨-, known⟩ | ⟨-, known, -⟩
          · exact known
          · exact known
        · rw [Function.update_of_ne same]
          rcases cases_of_act with ⟨kept, -⟩ | ⟨⟨transaction, mine⟩, -⟩
          · rw [kept]
            exact orderly.known other
          · by_cases nothing : (fleet.place other).pending = []
            · rw [nothing]
              exact List.nil_prefix
            · obtain ⟨transaction', yours⟩ := Stage.exists_claim_of_pending nothing
              exact absurd (accounts.alone yours mine) same

/-- Every fleet is orderly whose outbox had distinct identifiers at first. -/
theorem Staged.orderly {fleet : Fleet Stage ι D} (distinct : (log.map Entry.id).Nodup)
    (staged : Staged terms log downstream fleet) :
    Orderly fleet := by
  induction staged with
  | refl => exact ⟨distinct, List.suffix_refl _, fun _ => List.nil_prefix⟩
  | tail run step ih => exact ih.step (Staged.accounts run) step

end Orderly

end Dispatch
end OutboxRelay
