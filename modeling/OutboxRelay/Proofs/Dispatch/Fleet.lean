import OutboxRelay.Proofs.Dispatch.Course
import OutboxRelay.Proofs.Outbox.Shared
import Mathlib.Logic.Relation

/-!
# A fleet of passes

Any number of passes work on one outbox and one vulnerability database, each at its own
pace.  Passes are told apart by the elements of a type, so that any number of dispatchers
can make any number of passes each, one after the other or at once.  In between, entries
enter the outbox at its end.

**Rules.**
* All passes ask for the same lock.
* Which faults the outbox may have, and how the vulnerability database may answer, is
  given.
* An entry that enters has an identifier that none has had before.

**Results.**
* `Staged.of_acts`: what the acts of passes keep is true of each pass.
* `Reachable.exists_stages`: each pass of a fleet keeps to the stages, so that what holds
  of all fleets that are followed by stages holds of all fleets.
-/

namespace OutboxRelay
namespace Dispatch

open Store (TransactionId)

/-- Each act of a history has a property, given what was done before it. -/
def Always {ι : Type} (property : ι → Act → List (ι × Act) → Prop) :
    List (ι × Act) → Prop
  | [] => True
  | (pass, act) :: past => property pass act past ∧ Always property past

theorem Always.mono {ι : Type} {property property' : ι → Act → List (ι × Act) → Prop}
    (weaker : ∀ pass act past, property pass act past → property' pass act past)
    {history : List (ι × Act)} (always : Always property history) :
    Always property' history := by
  induction history with
  | nil => trivial
  | cons last past ih => exact ⟨weaker _ _ _ always.1, ih always.2⟩

theorem mem_own_cons {ι : Type} {pass : ι} {act done : Act} {past : List (ι × Act)}
    (member : (pass, done) ∈ (pass, act) :: past) :
    (pass, done) ∈ past ∨ done = act := by
  rcases List.mem_cons.mp member with same | member
  · cases same
    exact .inr rfl
  · exact .inl member

theorem mem_other_cons {ι : Type} {pass other : ι} {act done : Act} {past : List (ι × Act)}
    (apart : pass ≠ other) :
    (pass, done) ∈ (other, act) :: past ↔ (pass, done) ∈ past := by
  rw [List.mem_cons]
  refine or_iff_right fun same => ?_
  cases same
  exact apart rfl

/-- The terms on which passes work on an outbox and a vulnerability database. -/
structure Terms (ι D : Type) where
  /-- The key of the lock. -/
  key : LockId
  settings : ι → Settings
  lockId_eq : ∀ pass, (settings pass).lockId = key
  /-- The faults that the outbox may have. -/
  faults : Outbox.Faults
  /-- How the vulnerability database may answer a call. -/
  answers : D → (call : Downstream.Call) → Except DownstreamError call.Answer → D → Prop

/-- The terms of passes that all have the same settings. -/
def Terms.alike {ι D : Type} (settings : Settings) (faults : Outbox.Faults)
    (answers : D → (call : Downstream.Call) → Except DownstreamError call.Answer → D → Prop) :
    Terms ι D :=
  ⟨settings.lockId, fun _ => settings, fun _ => rfl, faults, answers⟩

/-- An outbox, a vulnerability database, and the passes that work on them. -/
structure Fleet (X ι D : Type) where
  outbox : Outbox.Shared
  downstream : D
  /-- Where each pass stands. -/
  place : ι → X
  /-- All entries that were ever in the outbox, oldest first. -/
  entered : List Entry
  /-- What the passes did, the last act first. -/
  history : List (ι × Act)

namespace Fleet

variable {X Y ι D : Type}

/-- An outbox with some entries on which no pass has begun to work. -/
def start (place : X) (log : List Entry) (downstream : D) : Fleet X ι D :=
  ⟨.ofEntries log, downstream, fun _ => place, log, []⟩

/-- The same fleet, whose passes stand somewhere else. -/
def placed (fleet : Fleet X ι D) (place : ι → Y) : Fleet Y ι D :=
  ⟨fleet.outbox, fleet.downstream, place, fleet.entered, fleet.history⟩

/-- The identifiers of all entries that were ever in the outbox, oldest first. -/
def order (fleet : Fleet X ι D) : List EntryId :=
  fleet.entered.map Entry.id

end Fleet

/-- What an act of a pass does to the outbox and the vulnerability database. -/
def Act.Effect {ι D : Type} (terms : Terms ι D) :
    Act → Outbox.Shared → D → Outbox.Shared → D → Prop
  | .store call reply, outbox, downstream, outbox', downstream' =>
      outbox.Serves terms.faults call reply outbox' ∧ downstream' = downstream
  | .consult call reply, outbox, downstream, outbox', downstream' =>
      outbox' = outbox ∧ terms.answers downstream call reply downstream'
  | _, outbox, downstream, outbox', downstream' =>
      outbox' = outbox ∧ downstream' = downstream

section Steps

variable {X ι D : Type} [DecidableEq ι]
variable (terms : Terms ι D) (move : Settings → X → Act → X → Prop)

/-- What can happen next to a fleet whose passes move in a given way. -/
inductive Step : Fleet X ι D → Fleet X ι D → Prop
  /-- A pass acts. -/
  | acts {fleet : Fleet X ι D} {pass : ι} {act : Act} {x : X} {outbox : Outbox.Shared}
      {downstream : D} (moves : move (terms.settings pass) (fleet.place pass) act x)
      (effect : act.Effect terms fleet.outbox fleet.downstream outbox downstream) :
      Step fleet ⟨outbox, downstream, Function.update fleet.place pass x, fleet.entered,
        (pass, act) :: fleet.history⟩
  /-- An entry enters the outbox. -/
  | enters {fleet : Fleet X ι D} {entry : Entry} (fresh : entry.id ∉ fleet.order) :
      Step fleet { fleet with
        outbox := fleet.outbox.push entry
        entered := fleet.entered ++ [entry] }
  /-- What an orphan holds is freed. -/
  | frees {fleet : Fleet X ι D} {transaction : TransactionId}
      (orphan : transaction ∈ fleet.outbox.orphans) :
      Step fleet { fleet with outbox := fleet.outbox.close transaction }

/-- A fleet can become another one. -/
abbrev Run : Fleet X ι D → Fleet X ι D → Prop :=
  Relation.ReflTransGen (Step terms move)

/-- A fleet can come about from an outbox with some entries. -/
def Reachable (log : List Entry) (downstream : D) (fleet : Fleet Standing ι D) : Prop :=
  Run terms Standing.Move (.start .idle log downstream) fleet

/-- The same, where passes are followed by their stages. -/
def Staged (log : List Entry) (downstream : D) (fleet : Fleet Stage ι D) : Prop :=
  Run terms Stage.Move (.start .idle log downstream) fleet

end Steps

section Results

variable {ι D : Type} [DecidableEq ι] {terms : Terms ι D}
variable {log : List Entry} {downstream : D}

theorem Reachable.start : Reachable terms log downstream (.start .idle log downstream) := by
  exact Relation.ReflTransGen.refl

/-- A fleet that can come about can go on by an act of one of its passes. -/
theorem Reachable.act {fleet : Fleet Standing ι D} {standing : Standing}
    {outbox : Outbox.Shared} {after : D} (reachable : Reachable terms log downstream fleet)
    (pass : ι) (act : Act)
    (moves : Standing.Move (terms.settings pass) (fleet.place pass) act standing)
    (effect : act.Effect terms fleet.outbox fleet.downstream outbox after) :
    Reachable terms log downstream
      ⟨outbox, after, Function.update fleet.place pass standing, fleet.entered,
        (pass, act) :: fleet.history⟩ := by
  exact reachable.tail (.acts moves effect)

/--
What is true of a pass at first, and is kept by its own acts and by those of others, is
true of it in every fleet.
-/
theorem Staged.of_acts (property : Stage → List (ι × Act) → Prop) {pass : ι}
    (initial : property .idle [])
    (own : ∀ stage act stage' past, property stage past →
      Stage.Move (terms.settings pass) stage act stage' →
        property stage' ((pass, act) :: past))
    (others : ∀ stage other act past, pass ≠ other → property stage past →
      property stage ((other, act) :: past))
    {fleet : Fleet Stage ι D} (staged : Staged terms log downstream fleet) :
    property (fleet.place pass) fleet.history := by
  induction staged with
  | refl => exact initial
  | @tail before _ _ step ih =>
      cases step with
      | enters fresh => exact ih
      | frees orphan => exact ih
      | @acts other act stage outbox after moves effect =>
          show property (Function.update before.place other stage pass) _
          by_cases same : pass = other
          · subst same
            rw [Function.update_self]
            exact own _ _ _ _ ih moves
          · rw [Function.update_of_ne same]
            exact others _ _ _ _ same ih

/-- When a pass goes on to a stage, all passes keep to their stages. -/
theorem Follows.update {settings : ι → Settings} {place : ι → Standing} {stages : ι → Stage}
    (follow : ∀ pass, Follows (settings pass) (place pass) (stages pass)) {pass : ι}
    {standing : Standing} {stage : Stage} (follows : Follows (settings pass) standing stage)
    (other : ι) :
    Follows (settings other) (Function.update place pass standing other)
      (Function.update stages pass stage other) := by
  by_cases same : other = pass
  · subst same
    simpa using follows
  · simpa [same] using follow other

theorem exists_stages_of_step {fleet fleet' : Fleet Standing ι D} {stages : ι → Stage}
    (follow : ∀ pass, Follows (terms.settings pass) (fleet.place pass) (stages pass))
    (step : Step terms Standing.Move fleet fleet') :
    ∃ stages', Step terms Stage.Move (fleet.placed stages) (fleet'.placed stages') ∧
      ∀ pass, Follows (terms.settings pass) (fleet'.place pass) (stages' pass) := by
  cases step with
  | @acts pass act x outbox downstream moves effect =>
      obtain ⟨stage, allowed, follows⟩ := (follow pass).move moves
      exact ⟨Function.update stages pass stage, .acts allowed effect, Follows.update follow follows⟩
  | enters fresh => exact ⟨stages, .enters fresh, follow⟩
  | frees orphan => exact ⟨stages, .frees orphan, follow⟩

/-- Each pass of a fleet keeps to the stages. -/
theorem Reachable.exists_stages {fleet : Fleet Standing ι D}
    (reachable : Reachable terms log downstream fleet) :
    ∃ stages, Staged terms log downstream (fleet.placed stages) ∧
      ∀ pass, Follows (terms.settings pass) (fleet.place pass) (stages pass) := by
  induction reachable with
  | refl => exact ⟨fun _ => .idle, .refl, fun _ => .idle⟩
  | tail _ step ih =>
      obtain ⟨stages, staged, follow⟩ := ih
      obtain ⟨stages', step', follow'⟩ := exists_stages_of_step follow step
      exact ⟨stages', staged.tail step', follow'⟩

end Results

/-! ## An entry for runs that are looked at closely -/

/-- An entry that deletes a team. -/
def farewell : Entry :=
  ⟨⟨0⟩, "DeleteTeam", 1, (Event.deleteTeam ⟨"1", "a"⟩).encode, 0, 0, 0⟩

theorem apply_farewell :
    Replay.apply farewell = (Replay.applyEvent (.deleteTeam ⟨"1", "a"⟩)).run := by
  have decoded : Event.decode farewell.action farewell.version farewell.payload =
      .ok (.deleteTeam ⟨"1", "a"⟩) := by
    decide +kernel
  unfold Replay.apply
  rw [decoded]

end Dispatch
end OutboxRelay
