import OutboxRelay.Dispatch.Pass
import OutboxRelay.Proofs.Program
import OutboxRelay.Store.Statement

/-!
# The course of a pass

A pass is followed from one of its calls to the next.  Where it stands is told in two
ways: by the program that is left of it, which is what runs, and by a stage, which says
what the pass has found out and what it may do next.

**Results.**
* `Stage.Move`: all that a pass can do at each stage.
* `obeys_runPass`: the program of a pass keeps to the stages.
* `Follows.move`: whatever a pass does by its program, its stage allows.
-/

namespace OutboxRelay
namespace Dispatch

open Store (TransactionId)

/-- What a pass does at one instant. -/
inductive Act
  | start
  /-- It makes a call on the outbox and has the reply. -/
  | store (call : Outbox.Call TransactionId) (reply : Except StoreError call.Answer)
  | hand (entry : Entry)
  /-- Its parser makes a call on the vulnerability database and has the reply. -/
  | consult (call : Downstream.Call) (reply : Except DownstreamError call.Answer)
  /-- Its parser is done with an entry. -/
  | settle (entry : Entry) (result : Except EventError Unit)
  | finish (outcome : Outcome)

/-- A program of a pass that has each entry resolved by someone else. -/
abbrev Passing := OnOutbox TransactionId Replay.interface

/-! ## Programs -/

section Layers

open Program (through_bind_congr)

variable {R S : Interface}

/-- Serves what a parser works on by programs, and leaves the outbox to others. -/
def below (serve : (made : R.Call) → Program S (R.Reply made)) :
    (made : (interface TransactionId R).Call) →
      OnOutbox TransactionId S ((interface TransactionId R).Reply made)
  | .inl call => onStore call
  | .inr made => Program.onSecond (serve made)

variable (serve : (made : R.Call) → Program S (R.Reply made))
variable (parse : List Entry → Program R Nat)

theorem through_below_onStore (call : Outbox.Call TransactionId) :
    (onStore call : OnOutbox TransactionId R _).through (below serve) = onStore call := by
  exact Program.through_ask (below serve) (Sum.inl call)

theorem through_below_onSecond {α : Type} (program : Program R α) :
    (Program.onSecond program : OnOutbox TransactionId R α).through (below serve) =
      Program.onSecond (program.through serve) := by
  refine (Program.through_through _ (below serve) program).trans
    (Eq.trans ?_ (Program.through_through serve _ program).symm)
  congr 1
  funext made
  exact Program.through_ask (below serve) (Sum.inr made)

theorem through_below_drainFrom (limit : Option Int) (applied discarded : Nat)
    (entries : List Entry) :
    (drainFrom parse limit applied discarded entries).through (below serve) =
      drainFrom (fun entries => (parse entries).through serve) limit applied discarded
        entries := by
  induction entries generalizing applied discarded with
  | nil => rfl
  | cons entry rest ih =>
      unfold drainFrom
      by_cases exceeds : exceedsLimit limit entry = true
      · rw [if_pos exceeds, if_pos exceeds]
        refine through_bind_congr (through_below_onStore serve _) fun reply => ?_
        cases reply with
        | ok answer => exact congrArg _ (ih _ _)
        | error error => rfl
      · rw [if_neg exceeds, if_neg exceeds]
        refine through_bind_congr (through_below_onSecond serve _) fun resolved => ?_
        by_cases none : resolved = 0
        · rw [if_pos none, if_pos none]
          refine through_bind_congr (through_below_onStore serve _) fun reply => ?_
          cases reply <;> rfl
        · rw [if_neg none, if_neg none]
          refine through_bind_congr (through_below_onStore serve _) fun reply => ?_
          cases reply with
          | ok answer => exact ih _ _
          | error error => rfl

theorem through_below_drain (limit : Option Int) :
    (drain parse limit).through (below serve) =
      drain (fun entries => (parse entries).through serve) limit := by
  refine through_bind_congr (through_below_onStore serve _) fun reply => ?_
  cases reply with
  | ok entries => exact through_below_drainFrom serve parse limit 0 0 entries
  | error error => rfl

theorem through_below_release (lock : Lock TransactionId) :
    (release lock : OnOutbox TransactionId R Unit).through (below serve) = release lock := by
  refine through_bind_congr (through_below_onStore serve _) fun reply => ?_
  cases reply <;> rfl

theorem through_below_reportDrained (outcome : Outcome) :
    (reportDrained outcome : OnOutbox TransactionId R Unit).through (below serve) =
      reportDrained outcome := by
  cases outcome with
  | drained applied discarded =>
      simp only [reportDrained]
      split <;> rfl
  | _ => rfl

/-- What serves a pass whose parser asks serves the pass whose parser does the work. -/
theorem through_below_runPass (settings : Settings) :
    (runPass parse settings).through (below serve) =
      runPass (fun entries => (parse entries).through serve) settings := by
  refine through_bind_congr (through_below_onStore serve _) fun reply => ?_
  cases reply with
  | error error => rfl
  | ok lock =>
      by_cases acquired : Lock.acquired lock = true
      · simp only [acquired, if_true]
        refine through_bind_congr (through_below_drain serve parse _) fun outcome => ?_
        refine through_bind_congr (through_below_release serve lock) fun _ => ?_
        exact through_bind_congr (through_below_reportDrained serve outcome) fun _ => rfl
      · simp only [acquired]
        exact through_bind_congr (through_below_release serve lock) fun _ => rfl

/-- The pass that runs is the layered one, with the work of its parser put in. -/
theorem runPass_parse (settings : Settings) :
    runPass Replay.parse settings =
      (runPass Replay.count settings).through (below (R := Replay.interface) Replay.apply) := by
  exact (through_below_runPass Replay.apply Replay.count settings).symm

end Layers

/-- Where a pass stands, told by what is left of its program. -/
inductive Standing
  | idle
  | running (program : Passing Outcome)
  /-- Its parser works on an entry. -/
  | replaying (entry : Entry) (work : Replay.OnDownstream (Except EventError Unit))
      (rest : Except EventError Unit → Passing Outcome)
  | ended (outcome : Outcome)

/-- What a pass can do where it stands, and where it stands then. -/
inductive Standing.Move (settings : Settings) : Standing → Act → Standing → Prop
  | start : Move settings .idle .start (.running (runPass Replay.count settings))
  | store {program : Passing Outcome} {call : Outbox.Call TransactionId}
      {rest : Except StoreError call.Answer → Passing Outcome}
      (shape : program.quiet = .call (.inl call) rest)
      (reply : Except StoreError call.Answer) :
      Move settings (.running program) (.store call reply) (.running (rest reply))
  | hand {program : Passing Outcome} {entry : Entry}
      {rest : Except EventError Unit → Passing Outcome}
      (shape : program.quiet = .call (.inr entry) rest) :
      Move settings (.running program) (.hand entry)
        (.replaying entry (Replay.apply entry) rest)
  | consult {entry : Entry} {work : Replay.OnDownstream (Except EventError Unit)}
      {call : Downstream.Call}
      {more : Except DownstreamError call.Answer →
        Replay.OnDownstream (Except EventError Unit)}
      {rest : Except EventError Unit → Passing Outcome}
      (shape : work.quiet = .call call more)
      (reply : Except DownstreamError call.Answer) :
      Move settings (.replaying entry work rest) (.consult call reply)
        (.replaying entry (more reply) rest)
  | settle {entry : Entry} {work : Replay.OnDownstream (Except EventError Unit)}
      {result : Except EventError Unit}
      {rest : Except EventError Unit → Passing Outcome}
      (shape : work.quiet = .done result) :
      Move settings (.replaying entry work rest) (.settle entry result)
        (.running (rest result))
  | finish {program : Passing Outcome} {outcome : Outcome}
      (shape : program.quiet = .done outcome) :
      Move settings (.running program) (.finish outcome) (.ended outcome)

/-! ## Stages -/

/-- Where a pass stands, told by what it has found out. -/
inductive Stage
  | idle
  /-- It will ask for the lock. -/
  | asking
  /-- It was refused the lock. -/
  | refused (lock : Lock TransactionId)
  /-- It has the lock and will read the entries. -/
  | reading (lock : Lock TransactionId)
  /-- It will discard an entry; others are left behind it. -/
  | discarding (lock : Lock TransactionId) (applied discarded : Nat) (entry : Entry)
      (rest : List Entry)
  /-- It will hand an entry to its parser. -/
  | facing (lock : Lock TransactionId) (applied discarded : Nat) (entry : Entry)
      (rest : List Entry)
  /-- Its parser works on an entry. -/
  | replaying (lock : Lock TransactionId) (applied discarded : Nat) (entry : Entry)
      (rest : List Entry) (work : Replay.OnDownstream (Except EventError Unit))
  /-- It will remove an entry that was resolved. -/
  | removing (lock : Lock TransactionId) (applied discarded : Nat) (entry : Entry)
      (rest : List Entry)
  /-- It will count a failed attempt at an entry. -/
  | failing (lock : Lock TransactionId) (applied : Nat) (entry : Entry)
  /-- It will release the lock. -/
  | leaving (lock : Lock TransactionId) (outcome : Outcome)
  | returning (outcome : Outcome)
  | ended (outcome : Outcome)

namespace Stage

/-- Where a pass goes on that has so many entries applied and discarded, and others left. -/
def next (limit : Option Int) (lock : Lock TransactionId) (applied discarded : Nat) :
    List Entry → Stage
  | [] => .leaving lock (.drained applied discarded)
  | entry :: rest =>
      if exceedsLimit limit entry then .discarding lock applied discarded entry rest
      else .facing lock applied discarded entry rest

section Next

variable {limit : Option Int} {lock : Lock TransactionId} {applied discarded : Nat}
variable {entry : Entry} {rest : List Entry}

theorem next_of_exceeds (exceeds : exceedsLimit limit entry = true) :
    next limit lock applied discarded (entry :: rest) =
      .discarding lock applied discarded entry rest := by
  exact if_pos exceeds

theorem next_of_not_exceeds (exceeds : ¬ exceedsLimit limit entry = true) :
    next limit lock applied discarded (entry :: rest) =
      .facing lock applied discarded entry rest := by
  exact if_neg exceeds

/-- What is true of the three stages that a pass may go on with is true of the next one. -/
theorem next_cases (property : List Entry → Stage → Prop)
    (drained : property [] (.leaving lock (.drained applied discarded)))
    (discards : ∀ entry rest, exceedsLimit limit entry = true →
      property (entry :: rest) (.discarding lock applied discarded entry rest))
    (faces : ∀ entry rest, property (entry :: rest) (.facing lock applied discarded entry rest))
    (entries : List Entry) :
    property entries (next limit lock applied discarded entries) := by
  cases entries with
  | nil => exact drained
  | cons entry rest =>
      by_cases exceeds : exceedsLimit limit entry = true
      · rw [next_of_exceeds exceeds]
        exact discards entry rest exceeds
      · rw [next_of_not_exceeds exceeds]
        exact faces entry rest

end Next

/-- What a pass may do at a stage, and at what stage it is then. -/
inductive Move (settings : Settings) : Stage → Act → Stage → Prop
  | start : Move settings .idle .start .asking
  | lockFailed (error : StoreError) :
      Move settings .asking (.store (.tryLock settings.lockId) (.error error))
        (.returning .lockUnavailable)
  | lockTaken {lock : Lock TransactionId} (acquired : lock.acquired = true) :
      Move settings .asking (.store (.tryLock settings.lockId) (.ok lock))
        (.reading lock)
  | lockRefused {lock : Lock TransactionId} (acquired : lock.acquired = false) :
      Move settings .asking (.store (.tryLock settings.lockId) (.ok lock))
        (.refused lock)
  | conceded (lock : Lock TransactionId) (reply : Except StoreError Unit) :
      Move settings (.refused lock) (.store (.release (some lock)) reply)
        (.returning .contended)
  | read (lock : Lock TransactionId) (entries : List Entry) :
      Move settings (.reading lock) (.store .entries (.ok entries))
        (next settings.maxAttempts lock 0 0 entries)
  | misread (lock : Lock TransactionId) (error : StoreError) :
      Move settings (.reading lock) (.store .entries (.error error))
        (.leaving lock (.storeFailed 0))
  | discarded (lock : Lock TransactionId) (applied discarded : Nat) (entry : Entry)
      (rest : List Entry) :
      Move settings (.discarding lock applied discarded entry rest)
        (.store (.remove entry.id) (.ok ()))
        (next settings.maxAttempts lock applied (discarded + 1) rest)
  | notDiscarded (lock : Lock TransactionId) (applied discarded : Nat) (entry : Entry)
      (rest : List Entry) (error : StoreError) :
      Move settings (.discarding lock applied discarded entry rest)
        (.store (.remove entry.id) (.error error))
        (.leaving lock (.storeFailed applied))
  | handed (lock : Lock TransactionId) (applied discarded : Nat) (entry : Entry)
      (rest : List Entry) :
      Move settings (.facing lock applied discarded entry rest) (.hand entry)
        (.replaying lock applied discarded entry rest (Replay.apply entry))
  | consulted {work : Replay.OnDownstream (Except EventError Unit)}
      {call : Downstream.Call}
      {more : Except DownstreamError call.Answer →
        Replay.OnDownstream (Except EventError Unit)}
      (lock : Lock TransactionId) (applied discarded : Nat) (entry : Entry)
      (rest : List Entry) (shape : work.quiet = .call call more)
      (reply : Except DownstreamError call.Answer) :
      Move settings (.replaying lock applied discarded entry rest work)
        (.consult call reply) (.replaying lock applied discarded entry rest (more reply))
  | resolved {work : Replay.OnDownstream (Except EventError Unit)}
      (lock : Lock TransactionId) (applied discarded : Nat) (entry : Entry)
      (rest : List Entry) (shape : work.quiet = .done (.ok ())) :
      Move settings (.replaying lock applied discarded entry rest work)
        (.settle entry (.ok ())) (.removing lock applied discarded entry rest)
  | unresolved {work : Replay.OnDownstream (Except EventError Unit)} {error : EventError}
      (lock : Lock TransactionId) (applied discarded : Nat) (entry : Entry)
      (rest : List Entry) (shape : work.quiet = .done (.error error)) :
      Move settings (.replaying lock applied discarded entry rest work)
        (.settle entry (.error error)) (.failing lock applied entry)
  | removed (lock : Lock TransactionId) (applied discarded : Nat) (entry : Entry)
      (rest : List Entry) :
      Move settings (.removing lock applied discarded entry rest)
        (.store (.remove entry.id) (.ok ()))
        (next settings.maxAttempts lock (applied + 1) discarded rest)
  | notRemoved (lock : Lock TransactionId) (applied discarded : Nat) (entry : Entry)
      (rest : List Entry) (error : StoreError) :
      Move settings (.removing lock applied discarded entry rest)
        (.store (.remove entry.id) (.error error))
        (.leaving lock (.storeFailed applied))
  | counted (lock : Lock TransactionId) (applied : Nat) (entry : Entry)
      (reply : Except StoreError Unit) :
      Move settings (.failing lock applied entry)
        (.store (.recordFailure entry.id) reply)
        (.leaving lock (.halted applied entry.id))
  | released (lock : Lock TransactionId) (outcome : Outcome)
      (reply : Except StoreError Unit) :
      Move settings (.leaving lock outcome) (.store (.release (some lock)) reply)
        (.returning outcome)
  | finish (outcome : Outcome) :
      Move settings (.returning outcome) (.finish outcome) (.ended outcome)

end Stage

/-! ## Programs keep to the stages -/

/-- A program does what the stages allow, from a stage on. -/
def Obeys (settings : Settings) : Passing Outcome → Stage → Prop
  | .done outcome, stage => stage = .returning outcome
  | .note _ rest, stage => Obeys settings rest stage
  | .call (.inl call) rest, stage =>
      ∀ reply, ∃ stage', Stage.Move settings stage (.store call reply) stage' ∧
        Obeys settings (rest reply) stage'
  | .call (.inr entry) rest, stage =>
      ∃ lock applied discarded others,
        stage = .facing lock applied discarded entry others ∧
        Obeys settings (rest (.ok ())) (.removing lock applied discarded entry others) ∧
        ∀ error, Obeys settings (rest (.error error)) (.failing lock applied entry)

section Obeys

open Stage (next_of_exceeds next_of_not_exceeds)

variable {settings : Settings}

theorem obeys_quiet (program : Passing Outcome) (stage : Stage) :
    Obeys settings program.quiet stage ↔ Obeys settings program stage := by
  induction program with
  | done outcome => rfl
  | note record rest ih => exact ih
  | call made rest ih => rfl

theorem obeys_drainFrom {lock : Lock TransactionId} {last : Outcome → Passing Outcome}
    (leaves : ∀ outcome, Obeys settings (last outcome) (.leaving lock outcome))
    (applied discarded : Nat) (entries : List Entry) :
    Obeys settings
      ((drainFrom Replay.count settings.maxAttempts applied discarded entries).bind last)
      (Stage.next settings.maxAttempts lock applied discarded entries) := by
  induction entries generalizing applied discarded with
  | nil => exact leaves _
  | cons entry rest ih =>
      unfold drainFrom
      by_cases exceeds : exceedsLimit settings.maxAttempts entry = true
      · rw [next_of_exceeds exceeds, if_pos exceeds]
        intro reply
        cases reply with
        | ok answer => exact ⟨_, .discarded .., ih _ _⟩
        | error error => exact ⟨_, .notDiscarded .., leaves _⟩
      · rw [next_of_not_exceeds exceeds, if_neg exceeds]
        refine ⟨lock, applied, discarded, rest, rfl, ?_, ?_⟩
        · intro reply
          cases reply with
          | ok answer => exact ⟨_, .removed .., ih _ _⟩
          | error error => exact ⟨_, .notRemoved .., leaves _⟩
        · intro error reply
          refine ⟨_, .counted .., ?_⟩
          cases reply with
          | ok answer => exact leaves _
          | error error => exact leaves _

theorem obeys_release {lock : Lock TransactionId} {outcome : Outcome} {stage : Stage}
    {last : Passing Outcome}
    (moves : ∀ reply,
      Stage.Move settings stage (.store (.release (some lock)) reply) (.returning outcome))
    (returns : Obeys settings last (.returning outcome)) :
    Obeys settings ((release lock).bind fun _ => last) stage := by
  intro reply
  refine ⟨_, moves reply, ?_⟩
  cases reply with
  | ok answer => exact returns
  | error error => exact returns

/-- A pass keeps to the stages from its begin to its end. -/
theorem obeys_runPass : Obeys settings (runPass Replay.count settings) .asking := by
  intro reply
  cases reply with
  | error error => exact ⟨_, .lockFailed error, rfl⟩
  | ok lock =>
      cases acquired : Lock.acquired lock with
      | false =>
          refine ⟨_, .lockRefused acquired, ?_⟩
          change Obeys settings (ite (Lock.acquired lock = true) _ _) _
          rw [if_neg (by simp [acquired])]
          exact obeys_release (.conceded lock) rfl
      | true =>
          refine ⟨_, .lockTaken acquired, ?_⟩
          change Obeys settings (ite (Lock.acquired lock = true) _ _) _
          rw [if_pos acquired]
          have leaves : ∀ outcome, Obeys settings
              ((release lock).bind fun _ => (reportDrained outcome).bind fun _ =>
                .done outcome) (.leaving lock outcome) := by
            intro outcome
            apply obeys_release (.released lock outcome)
            cases outcome with
            | drained applied discarded =>
                simp only [reportDrained]
                split <;> rfl
            | _ => rfl
          intro reply
          cases reply with
          | ok entries => exact ⟨_, .read lock entries, obeys_drainFrom leaves 0 0 entries⟩
          | error error => exact ⟨_, .misread lock error, leaves _⟩

end Obeys

/-! ## Both views of a pass -/

/-- The program of a pass and its stage go together. -/
inductive Follows (settings : Settings) : Standing → Stage → Prop
  | idle : Follows settings .idle .idle
  | running {program : Passing Outcome} {stage : Stage}
      (obeys : Obeys settings program stage) :
      Follows settings (.running program) stage
  | replaying {lock : Lock TransactionId} {applied discarded : Nat} {entry : Entry}
      {others : List Entry} {work : Replay.OnDownstream (Except EventError Unit)}
      {rest : Except EventError Unit → Passing Outcome}
      (resolved : Obeys settings (rest (.ok ()))
        (.removing lock applied discarded entry others))
      (unresolved : ∀ error, Obeys settings (rest (.error error))
        (.failing lock applied entry)) :
      Follows settings (.replaying entry work rest)
        (.replaying lock applied discarded entry others work)
  | ended (outcome : Outcome) : Follows settings (.ended outcome) (.ended outcome)

section Follows

variable {settings : Settings} {standing standing' : Standing} {stage : Stage} {act : Act}

/-- Whatever a pass does by its program, its stage allows. -/
theorem Follows.move (follows : Follows settings standing stage)
    (move : Standing.Move settings standing act standing') :
    ∃ stage', Stage.Move settings stage act stage' ∧ Follows settings standing' stage' := by
  cases move with
  | start =>
      cases follows
      exact ⟨_, .start, .running obeys_runPass⟩
  | store shape reply =>
      cases follows with
      | running obeys =>
          rw [← obeys_quiet, shape] at obeys
          obtain ⟨stage', allowed, obeys⟩ := obeys reply
          exact ⟨stage', allowed, .running obeys⟩
  | hand shape =>
      cases follows with
      | running obeys =>
          rw [← obeys_quiet, shape] at obeys
          obtain ⟨lock, applied, discarded, others, rfl, resolved, unresolved⟩ := obeys
          exact ⟨_, .handed .., .replaying resolved unresolved⟩
  | consult shape reply =>
      cases follows with
      | replaying resolved unresolved =>
          exact ⟨_, .consulted _ _ _ _ _ shape reply, .replaying resolved unresolved⟩
  | @settle _ _ result _ shape =>
      cases follows with
      | replaying resolved unresolved =>
          cases result with
          | ok answer => exact ⟨_, .resolved _ _ _ _ _ shape, .running resolved⟩
          | error error =>
              exact ⟨_, .unresolved _ _ _ _ _ shape, .running (unresolved error)⟩
  | finish shape =>
      cases follows with
      | running obeys =>
          rw [← obeys_quiet, shape] at obeys
          obtain rfl := obeys
          exact ⟨_, .finish _, .ended _⟩

end Follows

end Dispatch
end OutboxRelay
