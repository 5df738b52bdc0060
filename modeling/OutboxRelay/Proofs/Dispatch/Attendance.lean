import OutboxRelay.Proofs.Dispatch.Crew
import OutboxRelay.Proofs.Dispatch.Fleet
import OutboxRelay.Proofs.Dispatch.Wake
import OutboxRelay.Proofs.Program
import OutboxRelay.Proofs.Replay.Batch

/-!
# No entry is left behind

As long as an entry is in the outbox, someone attends to it: a loop that was not started,
a loop that has a signal or will be given one, a loop whose turn ends with a retry probe
if the entry outlasts it, or a caller that has yet to give the signal behind its call.  No
step of a crew takes the last of them away.  So a crew that rests has drained the outbox.

**Results.**
* `settles_turn`: a turn that an entry outlasts arms a retry probe.
* `Worker.Move.attends`: a loop that attends to an entry goes on to do so.
* `Attended.step`: a step leaves no entry without attendance.
* `Crew.Reachable.attended`: each entry is attended to in every crew.
-/

namespace OutboxRelay
namespace Dispatch

open Store (TransactionId)
open Outbox (Shared)
open Program (Ensures)

/-! ## Programs that owe a signal

While a program runs, a flag tells whether it still owes a signal.  A call on the wake
signal pays the debt.
-/

/-- An entry may be in the outbox behind a call that is replied to so. -/
def Outlasts (x : EntryId) :
    (call : Outbox.Call TransactionId) → Except StoreError call.Answer → Prop
  | .entries, .ok entries => x ∈ List.map Entry.id entries
  | .remove id, .ok _ => id ≠ x
  | .tryLock _, .error _ => False
  | _, _ => True

theorem outlasts_of_served {faults : Outbox.Faults} {s s' : Shared} {x : EntryId}
    {call : Outbox.Call TransactionId} {reply : Except StoreError call.Answer}
    (served : s.Serves faults call reply s') (early : ¬ faults.early .tryLock)
    (late : ¬ faults.late .tryLock) (stays : x ∈ s'.log.map Entry.id) :
    Outlasts x call reply := by
  cases reply with
  | error error =>
      cases call with
      | tryLock key =>
          rcases served with ⟨fault, -⟩ | ⟨fault, -⟩
          · exact early fault
          · exact late fault
      | _ => trivial
  | ok answer =>
      obtain ⟨rfl, now, rfl⟩ := served
      cases call with
      | entries => exact stays
      | remove id =>
          intro same
          obtain ⟨entry, member, rfl⟩ := List.mem_map.mp stays
          exact (Outbox.mem_without.mp member).2 same.symm
      | _ => trivial

section Passes

variable {R : Interface}

/-- How the calls of a pass may be served while an entry stays in the outbox. -/
def PassServes (x : EntryId) (owed : Bool) : (made : (interface TransactionId R).Call) →
    (interface TransactionId R).Reply made → Bool → Prop
  | .inl call, reply, owed' => Outlasts x call reply ∧ owed' = owed
  | .inr _, _, owed' => owed' = owed

/-- How the calls of a loop may be served while an entry stays in the outbox. -/
def LoopServes (x : EntryId) (owed : Bool) :
    (made : (loopInterface TransactionId R).Call) →
    (loopInterface TransactionId R).Reply made → Bool → Prop
  | .inl made, reply, owed' => PassServes x owed made reply owed'
  | .inr _, _, owed' => owed' = false

/-- Whether a loop pays its debt, if it has one, unless some entry goes away. -/
def Settles (x : EntryId) (owed : Bool) (program : InLoop TransactionId R Unit) : Prop :=
  Ensures (LoopServes x) (fun _ => True) (fun _ owed => owed = false) program owed

/-- What a pass says that found an entry and could not remove it. -/
def Retries (x : EntryId) (owed : Bool) (program : OnOutbox TransactionId R Outcome) :
    Prop :=
  Ensures (PassServes x) (fun _ => True) (fun outcome _ => outcome.needsRetry = true)
    program owed

variable (parse : List Entry → Program R Nat)
variable {x : EntryId}

theorem retries_drainFrom (limit : Option Int) (applied discarded : Nat)
    {entries : List Entry} (member : x ∈ entries.map Entry.id) (owed : Bool) :
    Retries x owed (drainFrom parse limit applied discarded entries) := by
  induction entries generalizing applied discarded owed with
  | nil => cases member
  | cons entry rest ih =>
      have later (stays : entry.id ≠ x) : x ∈ rest.map Entry.id := by
        rcases List.mem_cons.mp member with same | found
        · exact absurd same.symm stays
        · exact found
      unfold drainFrom
      by_cases exceeds : exceedsLimit limit entry = true
      · rw [if_pos exceeds]
        refine Ensures.ask trivial fun reply owed' served => ?_
        cases reply with
        | ok answer => exact ih _ _ (later served.1) owed'
        | error error => exact ⟨trivial, rfl⟩
      · rw [if_neg exceeds]
        refine Ensures.bind (Program.ensures_true _ owed) fun resolved owed' _ _ => ?_
        by_cases none : resolved = 0
        · rw [if_pos none]
          refine Ensures.ask trivial fun reply owed' served => ?_
          cases reply <;> exact ⟨trivial, rfl⟩
        · rw [if_neg none]
          refine Ensures.ask trivial fun reply owed' served => ?_
          cases reply with
          | ok answer => exact ih _ _ (later served.1) owed'
          | error error => exact ⟨trivial, rfl⟩

theorem retries_drain (limit : Option Int) (owed : Bool) :
    Retries x owed (drain parse limit) := by
  refine Ensures.ask trivial fun reply owed' served => ?_
  cases reply with
  | ok entries => exact retries_drainFrom parse limit 0 0 served.1 owed'
  | error error => exact ⟨trivial, rfl⟩

theorem retries_runPass (settings : Settings) (owed : Bool) :
    Retries x owed (runPass parse settings) := by
  refine Ensures.ask trivial fun reply owed' served => ?_
  cases reply with
  | error error => exact absurd served.1 id
  | ok lock =>
      by_cases acquired : Lock.acquired lock = true
      · simp only [acquired, if_true]
        refine Ensures.bind (retries_drain parse _ owed') fun outcome owed' _ retry => ?_
        refine Ensures.bind (Program.ensures_true _ owed') fun _ owed' _ _ => ?_
        exact Ensures.bind (Program.ensures_true _ owed') fun _ _ _ _ => ⟨trivial, retry⟩
      · simp only [acquired]
        exact Ensures.bind (Program.ensures_true _ owed') fun _ _ _ _ => ⟨trivial, rfl⟩

/-- A turn that an entry outlasts arms a retry probe. -/
theorem settles_turn (settings : Settings) (owed : Bool) :
    Settles x owed (turn parse settings) := by
  have passes : Ensures (LoopServes x) (fun _ => True)
      (fun outcome _ => Outcome.needsRetry outcome = true)
      (Program.onFirst (runPass parse settings)) owed :=
    Ensures.onFirst (fun _ _ _ _ served => served) (retries_runPass parse settings owed)
  refine Ensures.bind passes fun outcome owed' _ retry => ?_
  rw [if_pos retry]
  refine Ensures.ask trivial fun armed owed' paid => ?_
  cases armed with
  | true => exact ⟨trivial, paid⟩
  | false => exact ⟨trivial, paid⟩

/-- The start of a loop sets a timer. -/
theorem settles_startUp (settings : Settings) (owed : Bool) :
    Settles x owed (startUp settings : InLoop TransactionId R Unit) := by
  exact ⟨trivial, fun _ owed' paid => ⟨trivial, paid⟩⟩

end Passes

/-- How the calls of a caller may be served: one on the store makes a debt. -/
def CallServes (_owed : Bool) : (made : (Broker.interface storeInterface).Call) →
    (Broker.interface storeInterface).Reply made → Bool → Prop
  | .inl _, _, owed' => owed' = true
  | .inr _, _, owed' => owed' = false

/-- Whether a caller pays its debt, and any that it will make. -/
def Pays (owed : Bool) (program : Forwarding) : Prop :=
  Ensures CallServes (fun _ => True) (fun _ owed => owed = false) program owed

/-- A call through a broker ends with a signal. -/
theorem pays_forward {α : Type} (call : Program storeInterface α) (owed : Bool) :
    Pays owed (forward call) := by
  have signalled : Ensures CallServes (fun _ => True) (fun _ owed => owed = false)
      (Broker.mutate call) owed := by
    refine Ensures.bind (Program.ensures_true _ owed) fun result owed' _ _ => ?_
    exact Ensures.ask trivial fun _ owed' paid => ⟨trivial, paid⟩
  exact Ensures.bind signalled fun _ _ _ paid => ⟨trivial, paid⟩

/-! ## Loops -/

namespace Worker

/-- Whether a loop has a signal, or will be given one. -/
def Due (worker : Worker) : Prop :=
  worker.wake.take? ≠ none ∨ worker.alarms ≠ []

/-- Whether the retry probe is there that is said to be armed. -/
def Armed (worker : Worker) : Prop :=
  worker.wake.probeArmed = true → .probe ∈ worker.alarms

/-- Whether a loop will look into the outbox again as long as some entry stays there. -/
def Attends (x : EntryId) (worker : Worker) : Prop :=
  worker.phase = .fresh ∨ (∃ program, worker.phase = .busy program ∧
    Settles x true program) ∨ worker.Due

variable {worker : Worker}

/-- Whatever a loop is told of its wake signal, a signal is due behind it. -/
theorem Armed.due_serve (armed : worker.Armed) (call : Wake.Call) :
    (worker.serve call).2.Due := by
  cases call with
  | notify => exact Or.inl worker.wake.take?_notify
  | notifyAfter delay => exact Or.inr (List.cons_ne_nil _ _)
  | armProbe delay =>
      by_cases already : worker.wake.probeArmed = true
      · rw [serve_armProbe_of_armed already]
        exact Or.inr (List.ne_nil_of_mem (armed already))
      · rw [serve_armProbe already]
        exact Or.inr (List.cons_ne_nil _ _)

theorem Armed.serve (armed : worker.Armed) (call : Wake.Call) :
    (worker.serve call).2.Armed := by
  cases call with
  | notify => exact fun on => armed (worker.wake.probeArmed_notify.symm.trans on)
  | notifyAfter delay => exact fun on => List.mem_cons_of_mem _ (armed on)
  | armProbe delay =>
      by_cases already : worker.wake.probeArmed = true
      · rw [serve_armProbe_of_armed already]
        exact armed
      · rw [serve_armProbe already]
        exact fun _ => List.mem_cons_self

theorem Attends.of_busy {x : EntryId} {program : InLoop TransactionId Downstream.interface Unit}
    (attends : worker.Attends x) (busy : worker.phase = .busy program) :
    Settles x true program ∨ worker.Due := by
  rcases attends with fresh | ⟨program', same, settles⟩ | due
  · cases fresh.symm.trans busy
  · cases busy.symm.trans same
    exact Or.inl settles
  · exact Or.inr due

theorem Attends.due {x : EntryId} (attends : worker.Attends x)
    (parked : worker.phase = .parked) :
    worker.Due := by
  rcases attends with fresh | ⟨program, busy, -⟩ | due
  · cases fresh.symm.trans parked
  · cases busy.symm.trans parked
  · exact due

section Move

variable {worker' : Worker} {settings : Settings} {faults : Outbox.Faults} {s s' : Shared}

theorem Move.armed (move : worker.Move settings faults s s' worker') (armed : worker.Armed) :
    worker'.Armed := by
  cases move with
  | starts | stores | consults | parks | waits => exact armed
  | signals => exact armed.serve _
  | wakes parked taken =>
      exact fun on => armed ((WakeSignal.probeArmed_of_take? taken).symm.trans on)
  | rings before behind due =>
      intro on
      have there := armed (worker.wake.probeArmed_notify.symm.trans on)
      rw [due] at there
      simpa using there
  | disarms before behind due => exact fun on => absurd on Bool.false_ne_true
  | probes before behind due =>
      intro on
      have there := armed (worker.wake.probeArmed_notify.symm.trans on)
      rw [due] at there
      simpa using there

theorem Move.ids_subset (move : worker.Move settings faults s s' worker') :
    s'.log.map Entry.id ⊆ s.log.map Entry.id := by
  cases move with
  | stores busy shape served => exact served.ids_subset
  | _ => exact List.Subset.refl _

/-- As long as an entry stays in the outbox, a loop that attends to it goes on to do so. -/
theorem Move.attends {x : EntryId} (move : worker.Move settings faults s s' worker')
    (early : ¬ faults.early .tryLock) (late : ¬ faults.late .tryLock)
    (armed : worker.Armed) (stays : x ∈ s'.log.map Entry.id) (attends : worker.Attends x) :
    worker'.Attends x := by
  cases move with
  | starts fresh => exact Or.inr (Or.inl ⟨_, rfl, settles_startUp settings true⟩)
  | stores busy shape served =>
      rcases attends.of_busy busy with settles | due
      · have outlasts := outlasts_of_served served early late stays
        exact Or.inr (Or.inl ⟨_, rfl, settles.of_call shape ⟨outlasts, rfl⟩⟩)
      · exact Or.inr (Or.inr due)
  | consults busy shape reply =>
      rcases attends.of_busy busy with settles | due
      · exact Or.inr (Or.inl ⟨_, rfl, settles.of_call shape rfl⟩)
      · exact Or.inr (Or.inr due)
  | signals busy shape => exact Or.inr (Or.inr (armed.due_serve _))
  | parks busy shape =>
      rcases attends.of_busy busy with settles | due
      · exact absurd (settles.of_done shape) Bool.false_ne_true.symm
      · exact Or.inr (Or.inr due)
  | wakes parked taken =>
      exact Or.inr (Or.inl ⟨_, rfl, settles_turn Replay.parse settings true⟩)
  | waits parked nothing =>
      rcases attends.due parked with signal | alarm
      · exact absurd nothing signal
      · exact Or.inr (Or.inr (Or.inr alarm))
  | rings before behind due => exact Or.inr (Or.inr (Or.inl worker.wake.take?_notify))
  | disarms before behind due =>
      exact Or.inr (Or.inr (Or.inr (List.append_ne_nil_of_right_ne_nil _
        (List.cons_ne_nil _ _))))
  | probes before behind due => exact Or.inr (Or.inr (Or.inl worker.wake.take?_notify))

end Move

/-- A loop that rests attends to nothing. -/
theorem Rests.not_attends {x : EntryId} (rests : worker.Rests) :
    ¬ worker.Attends x := by
  intro attends
  obtain ⟨parked, nothing, none⟩ := rests
  rcases attends.due parked with signal | alarm
  · exact signal nothing
  · exact alarm none

end Worker

/-! ## Crews -/

section Crews

variable {ι κ : Type}

/-- Whether a caller has yet to give a signal. -/
def Owes (caller : Option (ι × Forwarding)) : Prop :=
  ∃ i program, caller = some (i, program) ∧ Pays true program

/-- Whether a caller pays the debts that it makes. -/
def Solvent (caller : Option (ι × Forwarding)) : Prop :=
  ∀ i program, caller = some (i, program) → ∃ owed, Pays owed program

/-- Whether someone attends to an entry. -/
def Crew.Minds (crew : Crew ι κ) (x : EntryId) : Prop :=
  (∃ i, (crew.worker i).Attends x) ∨ ∃ k, Owes (crew.caller k)

/-- A crew whose entries are all attended to, and that can go on so. -/
structure Attended (crew : Crew ι κ) : Prop where
  armed : ∀ i, (crew.worker i).Armed
  solvent : ∀ k, Solvent (crew.caller k)
  minds : ∀ x ∈ crew.outbox.log.map Entry.id, crew.Minds x

theorem solvent_some {i : ι} {program : Forwarding} {owed : Bool}
    (pays : Pays owed program) :
    Solvent (some (i, program)) := by
  rintro j other same
  cases same
  exact ⟨owed, pays⟩

theorem solvent_none :
    Solvent (none : Option (ι × Forwarding)) := by
  rintro i program same
  cases same

theorem Attended.start [Nonempty ι] (log : List Entry) :
    Attended (.start log : Crew ι κ) := by
  refine ⟨fun i armed => absurd armed Bool.false_ne_true, fun k => solvent_none, ?_⟩
  intro x _
  exact Or.inl ⟨Classical.arbitrary ι, Or.inl rfl⟩

variable [DecidableEq ι] [DecidableEq κ]
variable {settings : ι → Settings} {faults : Outbox.Faults} {crew crew' : Crew ι κ}

theorem Crew.Step.armed (step : Crew.Step settings faults crew crew')
    (armed : ∀ i, (crew.worker i).Armed) (i : ι) :
    (crew'.worker i).Armed := by
  revert i
  cases step with
  | works moves =>
      exact (Function.forall_update_iff crew.worker fun _ worker => worker.Armed).mpr
        ⟨moves.armed (armed _), fun i _ => armed i⟩
  | signals busy shape =>
      exact (Function.forall_update_iff crew.worker fun _ worker => worker.Armed).mpr
        ⟨(armed _).serve _, fun i _ => armed i⟩
  | calls | stores | returns | frees => exact armed

theorem Crew.Step.solvent (step : Crew.Step settings faults crew crew')
    (solvent : ∀ k, Solvent (crew.caller k)) (k : κ) :
    Solvent (crew'.caller k) := by
  have update {k : κ} {caller : Option (ι × Forwarding)} (new : Solvent caller) :
      ∀ other, Solvent (Function.update crew.caller k caller other) :=
    (Function.forall_update_iff crew.caller fun _ caller => Solvent caller).mpr
      ⟨new, fun other _ => solvent other⟩
  cases step with
  | works | frees => exact solvent k
  | calls free i call => exact update (solvent_some (pays_forward call true)) k
  | stores busy shape served =>
      obtain ⟨owed, pays⟩ := solvent _ _ _ busy
      exact update (solvent_some (pays.of_call shape rfl)) k
  | signals busy shape =>
      obtain ⟨owed, pays⟩ := solvent _ _ _ busy
      exact update (solvent_some (pays.of_call shape rfl)) k
  | returns busy shape => exact update solvent_none k

/-- Behind a step, someone attends to each entry that is there. -/
theorem Crew.Step.minds (step : Crew.Step settings faults crew crew')
    (early : ¬ faults.early .tryLock) (late : ¬ faults.late .tryLock)
    (attended : Attended crew) {x : EntryId} (stays : x ∈ crew'.outbox.log.map Entry.id) :
    crew'.Minds x := by
  cases step with
  | @works i s worker moves =>
      rcases attended.minds x (moves.ids_subset stays) with ⟨j, attends⟩ | owes
      · refine Or.inl ⟨j, ?_⟩
        show (Function.update crew.worker i worker j).Attends x
        by_cases same : j = i
        · subst same
          rw [Function.update_self]
          exact moves.attends early late (attended.armed j) stays attends
        · rw [Function.update_of_ne same]
          exact attends
      · exact Or.inr owes
  | @calls k α free i call =>
      refine Or.inr ⟨k, i, forward call, ?_, pays_forward call true⟩
      exact Function.update_self ..
  | @stores k i program call rest reply s busy shape served =>
      obtain ⟨owed, pays⟩ := attended.solvent _ _ _ busy
      refine Or.inr ⟨k, i, rest reply, ?_, pays.of_call shape rfl⟩
      exact Function.update_self ..
  | @signals k i program call rest busy shape =>
      refine Or.inl ⟨i, Or.inr (Or.inr ?_)⟩
      show (Function.update crew.worker i ((crew.worker i).serve call).2 i).Due
      rw [Function.update_self]
      exact (attended.armed i).due_serve call
  | @returns k i program busy shape =>
      rcases attended.minds x stays with attends | ⟨l, owes⟩
      · exact Or.inl attends
      · refine Or.inr ⟨l, ?_⟩
        show Owes (Function.update crew.caller k none l)
        by_cases same : l = k
        · subst same
          obtain ⟨j, other, found, pays⟩ := owes
          cases busy.symm.trans found
          exact absurd (pays.of_done shape) Bool.false_ne_true.symm
        · rw [Function.update_of_ne same]
          exact owes
  | frees orphan => exact attended.minds x stays

theorem Attended.step (attended : Attended crew) (step : Crew.Step settings faults crew crew')
    (early : ¬ faults.early .tryLock) (late : ¬ faults.late .tryLock) :
    Attended crew' := by
  exact ⟨step.armed attended.armed, step.solvent attended.solvent,
    fun _ stays => step.minds early late attended stays⟩

theorem Crew.Reachable.attended [Nonempty ι] {log : List Entry}
    (reachable : Crew.Reachable settings faults log crew) (early : ¬ faults.early .tryLock)
    (late : ¬ faults.late .tryLock) :
    Attended crew := by
  induction reachable with
  | refl => exact .start log
  | tail _ step attended => exact attended.step step early late

/--
If no attempt at the lock fails, then a crew that rests has drained its outbox: no entry is
left behind that no loop will look at again.
-/
theorem Crew.Reachable.log_eq_nil [Nonempty ι] {log : List Entry}
    (reachable : Crew.Reachable settings faults log crew) (early : ¬ faults.early .tryLock)
    (late : ¬ faults.late .tryLock) (rests : crew.Rests) :
    crew.outbox.log = [] := by
  have attended := reachable.attended early late
  rw [List.eq_nil_iff_forall_not_mem]
  intro entry member
  rcases attended.minds entry.id (List.mem_map_of_mem member) with ⟨i, attends⟩ | ⟨k, owes⟩
  · exact (rests.1 i).not_attends attends
  · obtain ⟨i, program, busy, -⟩ := owes
    cases (rests.2 k).symm.trans busy

end Crews

/-- Every call on the outbox may fail but the attempts at the lock. -/
def lockable : Outbox.Faults :=
  ⟨fun kind => kind ≠ .tryLock, fun kind => kind ≠ .tryLock⟩

/--
A caller adds an entry through a broker.  The first pass cannot apply it, and cannot count that
either, so that a retry probe is armed, which makes the loop begin a second one.
-/
theorem log_eq_nil_of_second_turn :
    ∃ crew : Crew Unit Unit,
      Crew.Reachable (fun _ => .default) lockable [] crew ∧ crew.Rests ∧
        crew.outbox.next = 2 ∧ crew.outbox.log = [] := by
  have initial : Crew.Reachable (κ := Unit) (fun _ : Unit => .default) lockable [] (.start []) :=
    .refl
  have timed := (initial.works () (.starts rfl)).works () (.signals rfl rfl)
  have parked := timed.works () (.parks rfl rfl)
  have called := parked.tail (.calls (k := ()) rfl () (Program.ask (I := storeInterface)
    (Sum.inr (.publish .deleteTeam 1 farewell.payload))))
  have admitted : ServesStore lockable (.ofEntries [])
      (.inr (.publish .deleteTeam 1 farewell.payload)) (Except.ok farewell.id)
      (.ofEntries [farewell]) :=
    ⟨farewell, rfl, rfl, rfl, rfl, rfl⟩
  have stored := called.tail (.stores (k := ()) rfl rfl admitted)
  have signalled := stored.tail (.signals (k := ()) rfl rfl)
  have returned : Crew.Reachable _ _ _ _ := signalled.tail (.returns (k := ()) rfl rfl)
  -- The timer of the start rings before the loop goes on, and its signal is not one more.
  have rung := returned.works () (.rings [] [] rfl)
  have woken := rung.works () (.wakes rfl rfl)
  have locked := woken.stores () rfl (.tryLock 1000) (.ok ⟨true, 0⟩) rfl ⟨rfl, 0, rfl⟩
  have read := locked.stores () rfl .entries (.ok [farewell]) rfl ⟨rfl, 0, rfl⟩
  have consulted := read.consults () rfl (.deleteTag "a" "a") (.error (.transport "closed")) (by
    show ((Program.onFirst ((drainFrom Replay.parse none 0 0 [farewell]).bind _)).bind _).quiet = _
    rw [drainFrom, Replay.parse_cons, apply_farewell]
    rfl)
  have failing : lockable.early .recordFailure := Outbox.Kind.noConfusion
  have uncounted := consulted.stores () rfl (.recordFailure farewell.id)
    (.error Outbox.Memory.failure) rfl (.inl ⟨failing, rfl⟩)
  have released := uncounted.stores () rfl (.release (some ⟨true, 0⟩)) (.ok ()) rfl
    ⟨rfl, 0, rfl⟩
  have armed := released.works () (.signals rfl rfl)
  have parked := armed.works () (.parks rfl rfl)
  have fired := parked.works () (.disarms [] [] rfl)
  have probed := fired.works () (.probes [] [] rfl)
  have woken := probed.works () (.wakes rfl rfl)
  have locked := woken.stores () rfl (.tryLock 1000) (.ok ⟨true, 1⟩) rfl ⟨rfl, 0, rfl⟩
  have read := locked.stores () rfl .entries (.ok [farewell]) rfl ⟨rfl, 0, rfl⟩
  have consulted := read.consults () rfl (.deleteTag "a" "a") (.ok ()) (by
    show ((Program.onFirst ((drainFrom Replay.parse none 0 0 [farewell]).bind _)).bind _).quiet = _
    rw [drainFrom, Replay.parse_cons, apply_farewell]
    rfl)
  have removed := consulted.stores () rfl (.remove farewell.id) (.ok ()) rfl ⟨rfl, 0, rfl⟩
  have released := removed.stores () rfl (.release (some ⟨true, 1⟩)) (.ok ()) rfl
    ⟨rfl, 0, rfl⟩
  have rested := released.works () (.parks rfl rfl)
  have drained := rested.log_eq_nil (fun never => never rfl) (fun never => never rfl)
  refine ⟨_, rested, ?_, rfl, drained ?_⟩
  · exact ⟨fun _ => ⟨rfl, rfl, rfl⟩, fun _ => rfl⟩
  · exact ⟨fun _ => ⟨rfl, rfl, rfl⟩, fun _ => rfl⟩

end Dispatch
end OutboxRelay
