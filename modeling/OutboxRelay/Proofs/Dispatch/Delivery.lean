import OutboxRelay.Proofs.Dispatch.Snapshot
import Mathlib.Data.List.Basic

/-!
# Delivery in order

Whatever fails and however the passes of a fleet interleave, entries leave the outbox in
the order in which they entered it, and none leaves before it was resolved or given up.

**Rules.**
* A pass that could not remove an entry ends, so that no later entry overtakes it.
* What a pass removes it has read itself.

**Results.**
* `Stage.Recalls.move`: what a pass has found out stays true.
* `Delivery`: entries are handed over in order, removed with good reason, and
  gone oldest first.
-/

namespace OutboxRelay
namespace Dispatch

open Store (TransactionId)
open Outbox (Shared task)

/-! ## What a pass recalls -/

/-- What a pass has found out at a stage is founded on what it did. -/
def Stage.Recalls (limit : Option Int) (did : Act → Prop) : Stage → Prop
  | .discarding _ _ _ entry rest =>
      exceedsLimit limit entry = true ∧
        ∃ entries, did (.store .entries (.ok entries)) ∧ entry :: rest ⊆ entries
  | .facing _ _ _ entry rest | .replaying _ _ _ entry rest _ =>
      ∃ entries, did (.store .entries (.ok entries)) ∧ entry :: rest ⊆ entries
  | .removing _ _ _ entry rest =>
      did (.settle entry (.ok ())) ∧
        ∃ entries, did (.store .entries (.ok entries)) ∧ entry :: rest ⊆ entries
  | _ => True

namespace Stage

variable {settings : Settings} {limit : Option Int} {did did' : Act → Prop}
variable {stage stage' : Stage} {act : Act}

theorem recalls_next {lock : Lock TransactionId} {applied discarded : Nat}
    {entries left : List Entry} (read : did (.store .entries (.ok entries)))
    (among : left ⊆ entries) :
    (next limit lock applied discarded left).Recalls limit did := by
  refine next_cases (fun left stage => left ⊆ entries → stage.Recalls limit did)
    ?_ ?_ ?_ left among
  · exact fun _ => trivial
  · exact fun entry rest exceeds among => ⟨exceeds, entries, read, among⟩
  · exact fun entry rest among => ⟨entries, read, among⟩

theorem Recalls.mono (more : ∀ act, did act → did' act)
    (recalls : stage.Recalls limit did) :
    stage.Recalls limit did' := by
  cases stage with
  | discarding lock applied discarded entry rest =>
      obtain ⟨exceeds, entries, read, among⟩ := recalls
      exact ⟨exceeds, entries, more _ read, among⟩
  | facing lock applied discarded entry rest =>
      obtain ⟨entries, read, among⟩ := recalls
      exact ⟨entries, more _ read, among⟩
  | replaying lock applied discarded entry rest work =>
      obtain ⟨entries, read, among⟩ := recalls
      exact ⟨entries, more _ read, among⟩
  | removing lock applied discarded entry rest =>
      obtain ⟨resolved, entries, read, among⟩ := recalls
      exact ⟨more _ resolved, entries, more _ read, among⟩
  | _ => trivial

/-- A pass that acts recalls what it recalled, and what it did. -/
theorem Recalls.move (recalls : stage.Recalls settings.maxAttempts did)
    (move : Stage.Move settings stage act stage') (more : ∀ act, did act → did' act)
    (done : did' act) :
    stage'.Recalls settings.maxAttempts did' := by
  have kept := recalls.mono more
  cases move with
  | read lock entries => exact recalls_next done (List.Subset.refl entries)
  | discarded lock applied discarded entry rest =>
      obtain ⟨-, entries, read, among⟩ := kept
      exact recalls_next read fun other member => among (List.mem_cons_of_mem _ member)
  | removed lock applied discarded entry rest =>
      obtain ⟨-, entries, read, among⟩ := kept
      exact recalls_next read fun other member => among (List.mem_cons_of_mem _ member)
  | handed => exact kept
  | consulted => exact kept
  | resolved => exact ⟨done, kept⟩
  | _ => trivial

end Stage

/-! ## Removals and their reasons -/

section Delivery

variable {X ι D : Type}

/-- A pass removes entries one by one, each for a good reason that it has itself. -/
def Warranted (terms : Terms ι D) (entered : List Entry) (pass : ι) :
    Act → List (ι × Act) → Prop
  | .store (.remove id) _, past =>
      ∃ entry, entry.id = id ∧ task entry ∈ entered.map task ∧
        ((pass, .settle entry (.ok ())) ∈ past ∨
          ∃ (limit : Int) (entries : List Entry),
            (terms.settings pass).maxAttempts = some limit ∧
            (pass, .store .entries (.ok entries)) ∈ past ∧ entry ∈ entries ∧
            limit ≤ entry.attempts)
  | .store (.removeOldest _) _, _ => False
  | _, _ => True

theorem exists_limit_of_exceeds {limit : Option Int} {entry : Entry}
    (exceeds : exceedsLimit limit entry = true) :
    ∃ bound, limit = some bound ∧ bound ≤ entry.attempts := by
  cases limit with
  | none => cases exceeds
  | some bound => exact ⟨bound, rfl, of_decide_eq_true exceeds⟩

/-- What a pass does at a stage at which it recalls what it did is warranted. -/
theorem warranted_of_recalls {terms : Terms ι D} {entered : List Entry} {pass : ι}
    {stage stage' : Stage} {act : Act} {past : List (ι × Act)}
    (recalls : stage.Recalls (terms.settings pass).maxAttempts
      fun act => (pass, act) ∈ past)
    (old : ∀ entry ∈ stage.pending, task entry ∈ entered.map task)
    (move : Stage.Move (terms.settings pass) stage act stage') :
    Warranted terms entered pass act past := by
  cases move with
  | discarded lock applied discarded entry rest
  | notDiscarded lock applied discarded entry rest error =>
      obtain ⟨exceeds, entries, read, among⟩ := recalls
      obtain ⟨bound, limit_eq, reached⟩ := exists_limit_of_exceeds exceeds
      exact ⟨entry, rfl, old entry List.mem_cons_self,
        .inr ⟨bound, entries, limit_eq, read, among List.mem_cons_self, reached⟩⟩
  | removed lock applied discarded entry rest
  | notRemoved lock applied discarded entry rest error =>
      exact ⟨entry, rfl, old entry List.mem_cons_self, .inl recalls.1⟩
  | _ => trivial

theorem Warranted.mono {terms : Terms ι D} {entered more : List Entry} {pass : ι}
    {act : Act} {past : List (ι × Act)} (warranted : Warranted terms entered pass act past) :
    Warranted terms (entered ++ more) pass act past := by
  unfold Warranted at warranted ⊢
  split at warranted
  · obtain ⟨entry, same, old, reason⟩ := warranted
    refine ⟨entry, same, ?_, reason⟩
    rw [List.map_append]
    exact List.mem_append_left _ old
  · exact warranted
  · trivial

/-! ## Entries in order -/

/-- The entries that were handed to a parser, the last one first. -/
def handed : List (ι × Act) → List Entry
  | [] => []
  | (_, .hand entry) :: past => entry :: handed past
  | _ :: past => handed past

/-- Where an entry stands among all that were ever in the outbox. -/
def Fleet.position (fleet : Fleet X ι D) (entry : Entry) : Nat :=
  fleet.order.idxOf entry.id

/-- How entries leave the outbox of a fleet. -/
structure Delivery (terms : Terms ι D) (fleet : Fleet Standing ι D) : Prop where
  /-- Once an entry was handed over, none before it is. -/
  in_order : (handed fleet.history).Pairwise fun later earlier =>
    fleet.position earlier ≤ fleet.position later
  /-- What was handed over had entered. -/
  known : ∀ entry ∈ handed fleet.history, task entry ∈ fleet.entered.map task
  /-- What is handed over is the oldest entry that is left. -/
  head : ∀ pass entry standing,
    Standing.Move (terms.settings pass) (fleet.place pass) (.hand entry) standing →
      fleet.outbox.log.head? = some entry
  /-- What is removed was resolved in the same pass, or had failed too often. -/
  warranted : Always (Warranted terms fleet.entered) fleet.history
  /-- What is gone are the oldest entries, and passes have removed them. -/
  gone_first : ∃ gone left, fleet.entered = gone ++ left ∧
    left.map task = fleet.outbox.log.map task ∧
    ∀ entry ∈ gone, ∃ pass reply, (pass, .store (.remove entry.id) reply) ∈ fleet.history

theorem handed_cons_of_ne {pass : ι} {act : Act} {past : List (ι × Act)}
    (other : ∀ entry, act ≠ .hand entry) :
    handed ((pass, act) :: past) = handed past := by
  cases act with
  | hand entry => exact absurd rfl (other entry)
  | _ => rfl

theorem Fleet.id_mem_order {fleet : Fleet X ι D} {entry : Entry}
    (known : task entry ∈ fleet.entered.map task) :
    entry.id ∈ fleet.order := by
  have member := List.mem_map_of_mem (f := Prod.fst) known
  rwa [map_fst_task] at member

/-- The oldest entry that is left stands behind all that are gone. -/
theorem Orderly.position_head {fleet : Fleet Stage ι D} (orderly : Orderly fleet)
    {entry : Entry} {rest : List Entry} (split : fleet.outbox.log = entry :: rest) :
    fleet.position entry + fleet.outbox.log.length = fleet.entered.length := by
  obtain ⟨gone, parts⟩ := orderly.left_ids
  have distinct := orderly.distinct
  rw [split, List.map_cons] at parts
  rw [← parts, List.nodup_append] at distinct
  have apart : entry.id ∉ gone := fun member =>
    distinct.2.2 entry.id member entry.id List.mem_cons_self rfl
  have position_eq : fleet.position entry = gone.length := by
    unfold Fleet.position
    rw [← parts, List.idxOf_append_of_notMem apart, List.idxOf_cons_self, Nat.add_zero]
  have lengths : fleet.entered.length = gone.length + (rest.length + 1) := by
    have lengths := congrArg List.length parts
    simpa [Fleet.order] using lengths.symm
  rw [position_eq, split, List.length_cons, lengths]

/-- What is handed over at a stage is the oldest entry that is left. -/
theorem Orderly.head {fleet : Fleet Stage ι D} (orderly : Orderly fleet) {pass : ι}
    {settings : Settings} {entry : Entry} {stage : Stage}
    (move : Stage.Move settings (fleet.place pass) (.hand entry) stage) :
    ∃ rest, fleet.outbox.log = entry :: rest := by
  have known := orderly.known pass
  generalize fleet.place pass = before at move known
  cases move with
  | handed lock applied discarded entry rest =>
      obtain ⟨more, split⟩ := known
      exact ⟨rest ++ more, split.symm⟩

/-- The entries that a fleet handed over, and those that are gone from it, are the oldest. -/
structure Ranked (fleet : Fleet Stage ι D) : Prop where
  known : ∀ entry ∈ handed fleet.history, task entry ∈ fleet.entered.map task
  /-- At most the oldest entry that is left was handed over. -/
  reached : ∀ entry ∈ handed fleet.history,
    fleet.position entry + fleet.outbox.log.length ≤ fleet.entered.length
  in_order : (handed fleet.history).Pairwise fun later earlier =>
    fleet.position earlier ≤ fleet.position later
  /-- What is no longer in the outbox was removed. -/
  removed : ∀ entry ∈ fleet.entered, entry.id ∈ fleet.outbox.log.map Entry.id ∨
    ∃ pass reply, (pass, .store (.remove entry.id) reply) ∈ fleet.history

theorem Ranked.enters {fleet : Fleet Stage ι D} {entry : Entry} (ranked : Ranked fleet) :
    Ranked { fleet with
      outbox := fleet.outbox.push entry
      entered := fleet.entered ++ [entry] } := by
  have unmoved : ∀ other ∈ handed fleet.history,
      ((fleet.entered ++ [entry]).map Entry.id).idxOf other.id = fleet.position other := by
    intro other member
    rw [List.map_append]
    exact List.idxOf_append_of_mem (Fleet.id_mem_order (ranked.known other member))
  constructor
  · intro other member
    show task other ∈ (fleet.entered ++ [entry]).map task
    rw [List.map_append]
    exact List.mem_append_left _ (ranked.known other member)
  · intro other member
    show ((fleet.entered ++ [entry]).map Entry.id).idxOf other.id +
      (fleet.outbox.log ++ [entry]).length ≤ (fleet.entered ++ [entry]).length
    rw [unmoved other member, List.length_append, List.length_append, ← Nat.add_assoc]
    exact Nat.add_le_add_right (ranked.reached other member) _
  · refine ranked.in_order.imp_of_mem ?_
    intro later earlier later_mem earlier_mem ordered
    show ((fleet.entered ++ [entry]).map Entry.id).idxOf earlier.id ≤
      ((fleet.entered ++ [entry]).map Entry.id).idxOf later.id
    rw [unmoved later later_mem, unmoved earlier earlier_mem]
    exact ordered
  · intro other member
    rcases List.mem_append.mp member with old | new
    · rcases ranked.removed other old with left | removal
      · refine .inl ?_
        show other.id ∈ (fleet.outbox.log ++ [entry]).map Entry.id
        rw [List.map_append]
        exact List.mem_append_left _ left
      · exact .inr removal
    · refine .inl (List.mem_map_of_mem ?_)
      exact List.mem_append_right _ new

/-- A pass hands over the oldest entry that is left. -/
theorem Ranked.hands {fleet : Fleet Stage ι D} (ranked : Ranked fleet) (orderly : Orderly fleet)
    {pass : ι} {entry : Entry} {rest : List Entry} (place : ι → Stage)
    (split : fleet.outbox.log = entry :: rest) :
    Ranked ⟨fleet.outbox, fleet.downstream, place, fleet.entered,
      (pass, .hand entry) :: fleet.history⟩ := by
  have at_head := orderly.position_head split
  constructor
  · intro other member
    rcases List.mem_cons.mp member with rfl | member
    · apply orderly.left.subset
      rw [split]
      exact List.mem_cons_self
    · exact ranked.known other member
  · intro other member
    rcases List.mem_cons.mp member with rfl | member
    · exact Nat.le_of_eq at_head
    · exact ranked.reached other member
  · refine List.pairwise_cons.mpr ⟨?_, ranked.in_order⟩
    intro earlier member
    have reached := ranked.reached earlier member
    rw [← at_head] at reached
    exact Nat.le_of_add_le_add_right reached
  · intro other member
    refine (ranked.removed other member).imp_right ?_
    rintro ⟨pass', reply, removal⟩
    exact ⟨pass', reply, List.mem_cons_of_mem _ removal⟩

theorem Ranked.acts {terms : Terms ι D} {fleet : Fleet Stage ι D} (ranked : Ranked fleet)
    (orderly : Orderly fleet) {pass : ι} {act : Act} {stage : Stage} {outbox : Shared}
    {after : D} (place : ι → Stage)
    (moves : Stage.Move (terms.settings pass) (fleet.place pass) act stage)
    (effect : act.Effect terms fleet.outbox fleet.downstream outbox after) :
    Ranked ⟨outbox, after, place, fleet.entered, (pass, act) :: fleet.history⟩ := by
  by_cases hands : ∃ entry, act = .hand entry
  · obtain ⟨entry, rfl⟩ := hands
    obtain ⟨rfl, rfl⟩ := effect
    obtain ⟨rest, split⟩ := orderly.head moves
    exact ranked.hands orderly place split
  · have same : handed ((pass, act) :: fleet.history) = handed fleet.history :=
      handed_cons_of_ne fun entry hand => hands ⟨entry, hand⟩
    constructor
    · intro other member
      rw [same] at member
      exact ranked.known other member
    · intro other member
      rw [same] at member
      have shorter : outbox.log.length ≤ fleet.outbox.log.length := by
        rcases orderly.tasks_cases moves effect with same | ⟨entry, reply, -, taken⟩
        · have lengths := congrArg List.length same
          rw [List.length_map, List.length_map] at lengths
          exact Nat.le_of_eq lengths
        · rw [taken]
          exact Nat.le_succ _
      exact Nat.le_trans (Nat.add_le_add_left shorter _) (ranked.reached other member)
    · rw [same]
      exact ranked.in_order
    · intro entry member
      rcases ranked.removed entry member with left | ⟨pass', reply, removal⟩
      · rcases orderly.tasks_cases moves effect with same | ⟨other, reply, rfl, taken⟩
        · rw [← map_fst_task, ← same, map_fst_task] at left
          exact .inl left
        · rw [taken, List.map_cons] at left
          rcases List.mem_cons.mp left with this_one | left
          · rw [this_one]
            exact .inr ⟨pass, reply, List.mem_cons_self⟩
          · exact .inl left
      · exact .inr ⟨pass', reply, List.mem_cons_of_mem _ removal⟩

/-! ## Whole runs -/

variable [DecidableEq ι] {terms : Terms ι D} {log : List Entry} {downstream : D}

theorem Staged.ranked {fleet : Fleet Stage ι D} (distinct : (log.map Entry.id).Nodup)
    (staged : Staged terms log downstream fleet) :
    Ranked fleet := by
  induction staged with
  | refl =>
      refine ⟨?_, ?_, List.Pairwise.nil, fun entry member => ?_⟩
      · intro entry member
        cases member
      · intro entry member
        cases member
      · exact .inl (List.mem_map_of_mem member)
  | tail run step ih =>
      cases step with
      | enters fresh => exact ih.enters
      | frees orphan => exact ⟨ih.known, ih.reached, ih.in_order, ih.removed⟩
      | acts moves effect => exact ih.acts (Staged.orderly distinct run) _ moves effect

/-- Every pass recalls what it did. -/
theorem Staged.recalls {fleet : Fleet Stage ι D} (staged : Staged terms log downstream fleet)
    (pass : ι) :
    (fleet.place pass).Recalls (terms.settings pass).maxAttempts
      fun act => (pass, act) ∈ fleet.history := by
  refine staged.of_acts (fun stage past =>
    stage.Recalls (terms.settings pass).maxAttempts fun act => (pass, act) ∈ past)
      trivial ?_ ?_
  · intro stage act stage' past recalls move
    exact recalls.move move (fun done member => List.mem_cons_of_mem _ member)
      List.mem_cons_self
  · intro stage other act past _ recalls
    exact recalls.mono fun done member => List.mem_cons_of_mem _ member

/-- Every removal has its reason. -/
theorem Staged.warranted {fleet : Fleet Stage ι D} (distinct : (log.map Entry.id).Nodup)
    (staged : Staged terms log downstream fleet) :
    Always (Warranted terms fleet.entered) fleet.history := by
  induction staged with
  | refl => trivial
  | tail run step ih =>
      cases step with
      | enters fresh => exact ih.mono fun _ _ _ warranted => warranted.mono
      | frees orphan => exact ih
      | @acts pass act stage outbox after moves effect =>
          have orderly := Staged.orderly distinct run
          refine ⟨warranted_of_recalls (Staged.recalls run pass) ?_ moves, ih⟩
          intro entry member
          exact orderly.left.subset
            (List.mem_map_of_mem ((orderly.known pass).subset member))

/-- However passes interleave and whatever fails, entries leave the outbox in order. -/
theorem Reachable.delivery {fleet : Fleet Standing ι D} (distinct : (log.map Entry.id).Nodup)
    (reachable : Reachable terms log downstream fleet) :
    Delivery terms fleet := by
  obtain ⟨stages, staged, follow⟩ := reachable.exists_stages
  have orderly := staged.orderly distinct
  have ranked := staged.ranked distinct
  refine ⟨ranked.in_order, ranked.known, ?_, staged.warranted distinct, ?_⟩
  · intro pass entry standing move
    obtain ⟨stage, moves, -⟩ := (follow pass).move move
    obtain ⟨rest, split⟩ := orderly.head moves
    show fleet.outbox.log.head? = some entry
    have split : fleet.outbox.log = entry :: rest := split
    rw [split]
    rfl
  · obtain ⟨gone, left, parts, left_eq, apart⟩ := orderly.exists_gone
    refine ⟨gone, left, parts, left_eq, fun entry member => ?_⟩
    have entered : entry ∈ (fleet.placed stages).entered := by
      rw [parts]
      exact List.mem_append_left _ member
    rcases ranked.removed entry entered with still | removal
    · exact absurd still (apart entry member)
    · exact removal

/-- An entry whose action no release knows. -/
def nonsense : Entry :=
  ⟨⟨1⟩, "nonsense", 1, [], 0, 0, 0⟩

/--
An entry that one pass has applied but could not remove is handed over once more by another pass,
which removes it and goes on to the next one.
-/
theorem delivery_of_second_attempt :
    ∃ fleet : Fleet Standing Bool Unit,
      Reachable (.alike .default .any fun _ _ _ _ => True) [farewell, nonsense] () fleet ∧
        handed fleet.history = [nonsense, farewell, farewell] ∧
        fleet.outbox.log = [nonsense] ∧
        Delivery (.alike .default .any fun _ _ _ _ => True) fleet := by
  let terms : Terms Bool Unit := .alike .default .any fun _ _ _ _ => True
  have answered : terms.answers () (.deleteTag "a" "a") (.ok ()) () := trivial
  have started : Reachable terms [farewell, nonsense] () _ := .start
  have begun := started.act false .start .start ⟨rfl, rfl⟩
  have locked := begun.act false (.store (.tryLock 1000) (.ok ⟨true, 0⟩)) (.store rfl _)
    ⟨⟨rfl, 0, rfl⟩, rfl⟩
  have read := locked.act false (.store .entries (.ok [farewell, nonsense])) (.store rfl _)
    ⟨⟨rfl, 0, rfl⟩, rfl⟩
  have handed := read.act false (.hand farewell) (.hand rfl) ⟨rfl, rfl⟩
  have consulted := handed.act false (.consult (.deleteTag "a" "a") (.ok ()))
    (.consult (by rw [apply_farewell]; rfl) _) ⟨rfl, answered⟩
  have settled := consulted.act false (.settle farewell (.ok ())) (.settle rfl) ⟨rfl, rfl⟩
  have failed := settled.act false
    (.store (.remove farewell.id) (.error Outbox.Memory.failure)) (.store rfl _)
    ⟨.inl ⟨trivial, rfl⟩, rfl⟩
  have released := failed.act false (.store (.release (some ⟨true, 0⟩)) (.ok ()))
    (.store rfl _) ⟨⟨rfl, 0, rfl⟩, rfl⟩
  have begun := released.act true .start .start ⟨rfl, rfl⟩
  have locked := begun.act true (.store (.tryLock 1000) (.ok ⟨true, 1⟩)) (.store rfl _)
    ⟨⟨rfl, 0, rfl⟩, rfl⟩
  have read := locked.act true (.store .entries (.ok [farewell, nonsense])) (.store rfl _)
    ⟨⟨rfl, 0, rfl⟩, rfl⟩
  have handed := read.act true (.hand farewell) (.hand rfl) ⟨rfl, rfl⟩
  have consulted := handed.act true (.consult (.deleteTag "a" "a") (.ok ()))
    (.consult (by rw [apply_farewell]; rfl) _) ⟨rfl, answered⟩
  have settled := consulted.act true (.settle farewell (.ok ())) (.settle rfl) ⟨rfl, rfl⟩
  have removed := settled.act true (.store (.remove farewell.id) (.ok ())) (.store rfl _)
    ⟨⟨rfl, 0, rfl⟩, rfl⟩
  have handed := removed.act true (.hand nonsense) (.hand rfl) ⟨rfl, rfl⟩
  exact ⟨_, handed, rfl, rfl, handed.delivery (by decide)⟩

end Delivery

end Dispatch
end OutboxRelay
