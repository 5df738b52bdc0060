import OutboxRelay.Proofs.Dispatch.Delivery
import OutboxRelay.Proofs.Replay.Clean

/-!
# Convergence of the vulnerability database

Entries may be replayed any number of times, and any replay may break off anywhere.
Still the vulnerability database ends as if each entry had been resolved once, in order
and without a failure.

**Rules.**
* The vulnerability database is a registry, any of whose calls may fail.
* There is no limit to attempts.

**Results.**
* `Converges`: the registry is between the state before the oldest entry that is left and
  the state behind it.
* `Staged.exists_converges`: it is so in every fleet, so that once the outbox is empty, the
  registry is where clean replays of all entries lead.
-/

namespace OutboxRelay
namespace Dispatch

open Store (TransactionId)
open Outbox (Shared task)
open Downstream (Registry View)
open Replay (effect Attains Decodable Applies AppliesEach)

/-! ## Entries and their tasks -/

theorem apply_congr {entry other : Entry} (same : task entry = task other) :
    Replay.apply entry = Replay.apply other := by
  simp only [task, Prod.mk.injEq] at same
  obtain ⟨-, action, version, payload, -⟩ := same
  unfold Replay.apply
  rw [action, version, payload]

theorem effect_congr {entry other : Entry} (same : task entry = task other) :
    effect entry = effect other := by
  simp only [task, Prod.mk.injEq] at same
  obtain ⟨-, action, version, payload, -⟩ := same
  unfold effect
  rw [action, version, payload]

/-- The effect of the oldest entry of a log. -/
def headEffect : List Entry → View → View
  | [] => id
  | entry :: _ => effect entry

theorem headEffect_congr {log log' : List Entry} (same : log.map task = log'.map task) :
    headEffect log = headEffect log' := by
  cases log with
  | nil =>
      cases log' with
      | nil => rfl
      | cons entry' rest' => cases same
  | cons entry rest =>
      cases log' with
      | nil => cases same
      | cons entry' rest' => exact effect_congr (List.cons.inj same).1

theorem decodable_or_error (entry : Entry) :
    Decodable entry ∨ ∃ error, Replay.apply entry = .done (.error error) := by
  unfold Replay.apply Decodable
  cases Event.decode entry.action entry.version entry.payload with
  | ok event => exact .inl ⟨event, rfl⟩
  | error error => exact .inr ⟨error, rfl⟩

/-! ## What a pass knows of the registry -/

/-- What a stage tells of a registry, given what it was before the entry at hand. -/
def Stage.Foresees (base d : Registry) : Stage → Prop
  | .replaying _ _ _ entry _ work =>
      Attains (fun view => effect entry view = effect entry base.view)
        (effect entry base.view) work d ∧
      (Decodable entry ∨ ∃ error, work = .done (.error error))
  | .removing _ _ _ entry _ => d.view = effect entry base.view ∧ Decodable entry
  | _ => True

/-- Whether a pass has handed over the entry at hand. -/
def Stage.Underway : Stage → Prop
  | .replaying .. | .removing .. => True
  | _ => False

namespace Stage

variable {base d : Registry} {stage : Stage}

theorem foresees_of_not_underway (resting : ¬ stage.Underway) : stage.Foresees base d := by
  cases stage with
  | replaying | removing => exact absurd trivial resting
  | _ => trivial

theorem exists_claim_of_underway (underway : stage.Underway) :
    ∃ transaction, stage.claim = some (true, transaction) := by
  cases stage with
  | replaying lock | removing lock => exact ⟨_, rfl⟩
  | _ => exact absurd underway id

theorem not_underway_next {limit : Option Int} {lock : Lock TransactionId}
    {applied discarded : Nat} {entries : List Entry} :
    ¬ (next limit lock applied discarded entries).Underway := by
  exact next_cases (fun _ stage => ¬ stage.Underway) id
    (fun _ _ _ => id) (fun _ _ => id) entries

end Stage

/-! ## Fleets -/

section Fleets

variable {ι : Type}

/--
The registry of a fleet is on its way from one state to the next, which clean replays of
the entries that are gone, and then of the oldest one that is left, lead to.
-/
structure Converges (first base : Registry) (fleet : Fleet Stage ι Registry) : Prop where
  clean : ∃ gone left, fleet.entered = gone ++ left ∧
    left.map task = fleet.outbox.log.map task ∧ AppliesEach first gone base
  grows : base.Grows fleet.downstream
  ahead : headEffect fleet.outbox.log fleet.downstream.view =
    headEffect fleet.outbox.log base.view
  foresees : ∀ pass, (fleet.place pass).Foresees base fleet.downstream

namespace Converges

variable {first base : Registry} {fleet : Fleet Stage ι Registry} {key : LockId}
variable {pass : ι} {act : Act} {stage : Stage} {outbox : Shared} {d : Registry}

theorem enters {entry : Entry} (converges : Converges first base fleet) :
    Converges first base { fleet with
      outbox := fleet.outbox.push entry
      entered := fleet.entered ++ [entry] } := by
  obtain ⟨gone, left, parts, same, clean⟩ := converges.clean
  refine ⟨⟨gone, left ++ [entry], ?_, ?_, clean⟩, converges.grows, ?_, converges.foresees⟩
  · show fleet.entered ++ [entry] = gone ++ (left ++ [entry])
    rw [parts, List.append_assoc]
  · show (left ++ [entry]).map task = (fleet.outbox.log ++ [entry]).map task
    rw [List.map_append, List.map_append, same]
  · have ahead := converges.ahead
    show headEffect (fleet.outbox.log ++ [entry]) _ = headEffect (fleet.outbox.log ++ [entry]) _
    cases split : fleet.outbox.log with
    | nil =>
        rw [split] at ahead
        exact congrArg (effect entry) ahead
    | cons oldest rest =>
        rw [split] at ahead
        exact ahead

/-- A pass that is under way is the only one that is. -/
theorem others_rest (accounts : Accounts key fleet.outbox fleet.claims)
    {transaction : TransactionId}
    (claimed : (fleet.place pass).claim = some (true, transaction)) :
    ∀ other, other ≠ pass → ¬ (fleet.place other).Underway := by
  intro other apart underway
  obtain ⟨transaction', yours⟩ := Stage.exists_claim_of_underway underway
  exact apart (accounts.alone yours claimed)

variable [DecidableEq ι]

/-- An act that concerns neither the registry nor the oldest entry changes nothing. -/
theorem keeps (converges : Converges first base fleet)
    (same : outbox.log.map task = fleet.outbox.log.map task)
    (foresees : stage.Foresees base fleet.downstream) :
    Converges first base ⟨outbox, fleet.downstream, Function.update fleet.place pass stage,
      fleet.entered, (pass, act) :: fleet.history⟩ := by
  obtain ⟨gone, left, parts, same', clean⟩ := converges.clean
  refine ⟨⟨gone, left, parts, same'.trans same.symm, clean⟩, converges.grows, ?_, ?_⟩
  · show headEffect outbox.log _ = headEffect outbox.log _
    rw [headEffect_congr same]
    exact converges.ahead
  · exact (Function.forall_update_iff fleet.place fun _ stage =>
      stage.Foresees base fleet.downstream).mpr
        ⟨foresees, fun other _ => converges.foresees other⟩

section AtWork

variable {lock : Lock TransactionId} {applied discarded : Nat} {entry : Entry}
variable {rest : List Entry}

/-- A call of the replay leads the registry on. -/
theorem consults {work : Replay.OnDownstream (Except EventError Unit)}
    {call : Downstream.Call} {reply : Except DownstreamError call.Answer}
    {more : Except DownstreamError call.Answer →
      Replay.OnDownstream (Except EventError Unit)}
    (converges : Converges first base fleet) (orderly : Orderly fleet)
    (accounts : Accounts key fleet.outbox fleet.claims)
    (place_eq : fleet.place pass = .replaying lock applied discarded entry rest work)
    (shape : work.quiet = .call call more) (served : fleet.downstream.Serves call reply d) :
    Converges first base ⟨fleet.outbox, d,
      Function.update fleet.place pass
        (.replaying lock applied discarded entry rest (more reply)),
      fleet.entered, (pass, .consult call reply) :: fleet.history⟩ := by
  obtain ⟨others, split, -⟩ := orderly.exists_more (congrArg Stage.pending place_eq)
  have foresees := converges.foresees pass
  rw [place_eq] at foresees
  obtain ⟨attains, decodable⟩ := foresees
  have attains := attains.consult shape served
  refine ⟨converges.clean, converges.grows.trans served.grows, ?_, ?_⟩
  · show headEffect fleet.outbox.log d.view = headEffect fleet.outbox.log base.view
    rw [split]
    exact attains.now
  · refine (Function.forall_update_iff fleet.place fun _ stage =>
      stage.Foresees base d).mpr ⟨⟨attains, .inl ?_⟩, ?_⟩
    · rcases decodable with decodable | ⟨error, rfl⟩
      · exact decodable
      · cases shape
    · intro other apart
      have resting := others_rest accounts (congrArg Stage.claim place_eq) other apart
      exact Stage.foresees_of_not_underway resting

/-- What was resolved and taken away is among the entries that clean replays go through. -/
theorem takes (converges : Converges first base fleet)
    (accounts : Accounts key fleet.outbox fleet.claims)
    (place_eq : fleet.place pass = .removing lock applied discarded entry rest)
    (taken : fleet.outbox.log = entry :: outbox.log) (resting : ¬ stage.Underway) :
    Converges first fleet.downstream ⟨outbox, fleet.downstream,
      Function.update fleet.place pass stage, fleet.entered,
      (pass, act) :: fleet.history⟩ := by
  have foresees := converges.foresees pass
  rw [place_eq] at foresees
  obtain ⟨there, decodable⟩ := foresees
  obtain ⟨gone, left, parts, same, clean⟩ := converges.clean
  rw [taken, List.map_cons] at same
  obtain ⟨oldest, left, rfl, oldest_eq, same⟩ := List.map_eq_cons_iff.mp same
  have applies : Applies base oldest fleet.downstream := by
    unfold Applies
    rw [apply_congr oldest_eq]
    exact Replay.runs_apply decodable converges.grows there
  refine ⟨⟨gone ++ [oldest], left, ?_, same, ?_⟩, .refl _, rfl, ?_⟩
  · rw [List.append_assoc]
    exact parts
  · exact Replay.appliesEach_append.mpr ⟨base, clean, _, applies, rfl⟩
  · refine (Function.forall_update_iff fleet.place fun _ stage =>
      stage.Foresees fleet.downstream fleet.downstream).mpr
        ⟨Stage.foresees_of_not_underway resting, fun other apart => ?_⟩
    have resting := others_rest accounts (congrArg Stage.claim place_eq) other apart
    exact Stage.foresees_of_not_underway resting

end AtWork

end Converges

variable [DecidableEq ι] {terms : Terms ι Registry} {log : List Entry} {first : Registry}

theorem Converges.acts {base : Registry} {fleet : Fleet Stage ι Registry} {pass : ι} {act : Act}
    {stage : Stage} {outbox : Shared} {d : Registry} (converges : Converges first base fleet)
    (answers : terms.answers = Registry.Serves)
    (unlimited : ∀ pass, (terms.settings pass).maxAttempts = none)
    (staged : Staged terms log first fleet) (orderly : Orderly fleet)
    (moves : Stage.Move (terms.settings pass) (fleet.place pass) act stage)
    (effect : act.Effect terms fleet.outbox fleet.downstream outbox d) :
    ∃ base', Converges first base' ⟨outbox, d, Function.update fleet.place pass stage,
      fleet.entered, (pass, act) :: fleet.history⟩ := by
  have accounts := staged.accounts
  have recalls := staged.recalls pass
  have foresees := converges.foresees pass
  generalize place_eq : fleet.place pass = place at moves recalls foresees
  cases moves with
  | consulted lock applied discarded entry rest shape reply =>
      obtain ⟨rfl, served⟩ := effect
      rw [answers] at served
      exact ⟨base, converges.consults orderly accounts place_eq shape served⟩
  | handed lock applied discarded entry rest =>
      obtain ⟨rfl, rfl⟩ := effect
      obtain ⟨others, split, -⟩ := orderly.exists_more (congrArg Stage.pending place_eq)
      have ahead := converges.ahead
      rw [split] at ahead
      exact ⟨base, converges.keeps rfl
        ⟨Replay.attains_apply entry ahead, decodable_or_error entry⟩⟩
  | resolved lock applied discarded entry rest shape =>
      obtain ⟨rfl, rfl⟩ := effect
      obtain ⟨attains, decodable⟩ := foresees
      refine ⟨base, converges.keeps rfl ⟨attains.settle shape, ?_⟩⟩
      rcases decodable with decodable | ⟨error, rfl⟩
      · exact decodable
      · cases shape
  | discarded | notDiscarded =>
      obtain ⟨exceeds, -⟩ := recalls
      rw [unlimited pass] at exceeds
      cases exceeds
  | removed lock applied discarded entry rest =>
      obtain ⟨served, rfl⟩ := effect
      rcases orderly.taken (congrArg Stage.pending place_eq) served with
        taken | ⟨-, error, failed⟩
      · exact ⟨_, converges.takes accounts place_eq taken Stage.not_underway_next⟩
      · cases failed
  | notRemoved lock applied discarded entry rest error =>
      obtain ⟨served, rfl⟩ := effect
      rcases orderly.taken (congrArg Stage.pending place_eq) served with taken | ⟨kept, -⟩
      · exact ⟨_, converges.takes accounts place_eq taken id⟩
      · exact ⟨base, converges.keeps (congrArg _ kept) trivial⟩
  | counted lock applied entry reply =>
      obtain ⟨served, rfl⟩ := effect
      exact ⟨base, converges.keeps served.recordFailure_log trivial⟩
  | read =>
      obtain ⟨served, rfl⟩ := effect
      exact ⟨base, converges.keeps (congrArg _ (served.log_eq (.inr (.inr rfl))))
        (Stage.foresees_of_not_underway Stage.not_underway_next)⟩
  | misread =>
      obtain ⟨served, rfl⟩ := effect
      exact ⟨base, converges.keeps (congrArg _ (served.log_eq (.inr (.inr rfl)))) trivial⟩
  | lockFailed | lockTaken | lockRefused =>
      obtain ⟨served, rfl⟩ := effect
      exact ⟨base, converges.keeps (congrArg _ (served.log_eq (.inl rfl))) trivial⟩
  | conceded | released =>
      obtain ⟨served, rfl⟩ := effect
      exact ⟨base, converges.keeps (congrArg _ (served.log_eq (.inr (.inl rfl)))) trivial⟩
  | start | unresolved | finish =>
      obtain ⟨rfl, rfl⟩ := effect
      exact ⟨base, converges.keeps rfl trivial⟩

theorem Staged.exists_converges {fleet : Fleet Stage ι Registry}
    (distinct : (log.map Entry.id).Nodup) (answers : terms.answers = Registry.Serves)
    (unlimited : ∀ pass, (terms.settings pass).maxAttempts = none)
    (staged : Staged terms log first fleet) :
    ∃ base, Converges first base fleet := by
  induction staged with
  | refl =>
      exact ⟨first, ⟨[], log, rfl, rfl, rfl⟩, .refl first, rfl, fun _ => trivial⟩
  | tail run step ih =>
      obtain ⟨base, converges⟩ := ih
      cases step with
      | enters fresh => exact ⟨base, converges.enters⟩
      | frees orphan =>
          exact ⟨base, converges.clean, converges.grows, converges.ahead, converges.foresees⟩
      | acts moves effect =>
          exact converges.acts answers unlimited run (Staged.orderly distinct run) moves effect

/--
Whatever failed and however often entries were replayed, once the outbox is empty the
registry is one that clean replays of all entries lead to, and all of these look alike.
-/
theorem Reachable.convergence {fleet : Fleet Standing ι Registry}
    (distinct : (log.map Entry.id).Nodup) (answers : terms.answers = Registry.Serves)
    (unlimited : ∀ pass, (terms.settings pass).maxAttempts = none)
    (reachable : Reachable terms log first fleet) (empty : fleet.outbox.log = []) :
    AppliesEach first fleet.entered fleet.downstream ∧
      ∀ d, AppliesEach first fleet.entered d → d.view = fleet.downstream.view := by
  obtain ⟨stages, staged, -⟩ := reachable.exists_stages
  obtain ⟨base, converges⟩ := staged.exists_converges distinct answers unlimited
  obtain ⟨gone, left, parts, same, clean⟩ := converges.clean
  have ahead := converges.ahead
  have grows : base.Grows fleet.downstream := converges.grows
  have emptied : (fleet.placed stages).outbox.log = [] := empty
  rw [emptied] at same ahead
  obtain rfl : left = [] := List.map_eq_nil_iff.mp same
  obtain rfl : base = fleet.downstream := grows.eq_of_view_eq ahead.symm
  have all : fleet.entered = gone := parts.trans (List.append_nil gone)
  rw [← all] at clean
  exact ⟨clean, fun d applies => applies.view_eq clean rfl⟩

end Fleets

/-- A registry with one target that has the tag of a team. -/
def tagged : Registry where
  target identifier := if identifier = "asset" then some ⟨"0", {"a"}⟩ else none
  finding _ := none
  apart := by
    intro identifier other profile profile' known known' _
    by_cases same : identifier = "asset"
    · by_cases same' : other = "asset"
      · rw [same, same']
      · rw [if_neg same'] at known'
        cases known'
    · rw [if_neg same] at known
      cases known

/-- A deletion of a tag whose answer was lost is repeated, and then so is its removal. -/
theorem convergence_of_lost_answers :
    ∃ fleet : Fleet Standing Bool Registry,
      Reachable (.alike .default .any Registry.Serves) [farewell] tagged fleet ∧
        handed fleet.history = [farewell, farewell] ∧
        AppliesEach tagged fleet.entered fleet.downstream ∧
        ∀ d, AppliesEach tagged fleet.entered d → d.view = fleet.downstream.view := by
  let terms : Terms Bool Registry := .alike .default .any Registry.Serves
  have started : Reachable terms [farewell] tagged _ := .start
  have begun := started.act false .start .start ⟨rfl, rfl⟩
  have locked := begun.act false (.store (.tryLock 1000) (.ok ⟨true, 0⟩)) (.store rfl _)
    ⟨⟨rfl, 0, rfl⟩, rfl⟩
  have read := locked.act false (.store .entries (.ok [farewell])) (.store rfl _)
    ⟨⟨rfl, 0, rfl⟩, rfl⟩
  have handed := read.act false (.hand farewell) (.hand rfl) ⟨rfl, rfl⟩
  let untagged : Registry := tagged.retag fun _ old => old.erase "a"
  have works : tagged.Works (.deleteTag "a" "a") (.ok ()) untagged :=
    .untaggedAll ⟨"asset", ⟨"0", {"a"}⟩, rfl, Finset.mem_singleton_self "a"⟩
  have fault : Downstream.IsFault (.transport "closed") := trivial
  have consulted := handed.act false
    (.consult (.deleteTag "a" "a") (.error (.transport "closed")))
    (.consult (by rw [apply_farewell]; rfl) _) ⟨rfl, .inr ⟨_, fault, rfl, .inr ⟨_, works⟩⟩⟩
  have settled := consulted.act false
    (.settle farewell (.error (.downstream (.transport "closed")))) (.settle rfl) ⟨rfl, rfl⟩
  have uncounted := settled.act false
    (.store (.recordFailure farewell.id) (.error Outbox.Memory.failure)) (.store rfl _)
    ⟨.inl ⟨trivial, rfl⟩, rfl⟩
  have released := uncounted.act false (.store (.release (some ⟨true, 0⟩)) (.ok ()))
    (.store rfl _) ⟨⟨rfl, 0, rfl⟩, rfl⟩
  have begun := released.act true .start .start ⟨rfl, rfl⟩
  have locked := begun.act true (.store (.tryLock 1000) (.ok ⟨true, 1⟩)) (.store rfl _)
    ⟨⟨rfl, 0, rfl⟩, rfl⟩
  have read := locked.act true (.store .entries (.ok [farewell])) (.store rfl _)
    ⟨⟨rfl, 0, rfl⟩, rfl⟩
  have handed := read.act true (.hand farewell) (.hand rfl) ⟨rfl, rfl⟩
  have nowhere : untagged.Works (.deleteTag "a" "a") (.error .notFound) untagged := by
    refine .nowhere fun identifier profile known => ?_
    obtain ⟨old, -, rfl⟩ := Option.map_eq_some_iff.mp known
    exact Finset.notMem_erase "a" old.tags
  have consulted := handed.act true (.consult (.deleteTag "a" "a") (.error .notFound))
    (.consult (by rw [apply_farewell]; rfl) _) ⟨rfl, .inl nowhere⟩
  have settled := consulted.act true (.settle farewell (.ok ())) (.settle rfl) ⟨rfl, rfl⟩
  have removed := settled.act true
    (.store (.remove farewell.id) (.error Outbox.Memory.failure)) (.store rfl _)
    ⟨.inr ⟨trivial, 0, rfl⟩, rfl⟩
  exact ⟨_, removed, rfl, removed.convergence (by decide) rfl (fun _ => rfl) rfl⟩

end Dispatch
end OutboxRelay
