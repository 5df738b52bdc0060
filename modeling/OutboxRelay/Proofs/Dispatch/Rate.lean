import OutboxRelay.Proofs.Dispatch.Probe
import Mathlib.Algebra.Order.Field.Basic
import Mathlib.Algebra.Order.Floor.Semiring
import Mathlib.Data.Rat.Floor
import Mathlib.Tactic.Ring

/-!
# How often a loop begins a pass

Each pass uses up a signal: one of a caller, that of the timer of the start, or that of a probe.
Probes that fire are apart from each other.  So callers bound the passes in a stretch of a run, up
to the timer, what could begin a pass when the stretch began, and as many probes as there is time
for.

At the start of a stretch a signal may be stored.  Another one may have woken the loop, which has
yet to go on, since a second signal that reaches a parked loop is stored beside the first one.
And a probe that has woken up may have yet to give its signal.  All of these count.

**Results.**
* `Watch.Move.pending_cases`: a step that begins a pass uses up a signal.
* `Watch.Move.timers_le`: the timer of the start gives one signal.
* `Watch.Move.stretch`: the passes in a stretch of a run are paid for by the signals in it, and
  by what was pending at its start.
* `length_le_of_spaced`: how many probes there is time for.
* `Watch.Reachable.stretch_begins_le`: how many passes begin in a stretch of a run.
-/

namespace OutboxRelay
namespace Dispatch

/-- Whether a signal of some source is given. -/
def Occurrence.gives (source : Source) : Occurrence → Bool
  | .signalled giver _ => giver == source
  | _ => false

theorem countP_cons_occurrence {K : Type} (kind : Occurrence → Bool) (time : K)
    (done : Occurrence) (history : List (K × Occurrence)) :
    ((time, done) :: history).countP (fun done => kind done.2) =
      (history.countP fun done => kind done.2) + (kind done).toNat := by
  rw [List.countP_cons]
  cases kind done <;> rfl

section Room

variable {K : Type} [Field K] [LinearOrder K] [IsStrictOrderedRing K]
variable {delay first last : K}

/-- So many times that are apart from each other take their time. -/
theorem span_of_spaced {time : K} {times : List K} (spaced : Spaced delay (time :: times))
    (within : ∀ earlier ∈ time :: times, first ≤ earlier) :
    first + times.length * delay ≤ time := by
  induction times generalizing time with
  | nil => simpa using within
  | cons earlier times ih =>
      obtain ⟨apart, spaced⟩ := List.pairwise_cons.mp spaced
      have span := ih spaced fun _ member => within _ (List.mem_cons_of_mem _ member)
      calc
        first + (earlier :: times).length * delay = first + times.length * delay + delay := by
          rw [List.length_cons]
          push_cast
          ring
        _ ≤ earlier + delay := add_le_add_left span delay
        _ ≤ time := apart earlier List.mem_cons_self

/-- How many times that are apart from each other a window of time has room for. -/
theorem length_le_of_spaced [FloorSemiring K] (positive : 0 < delay) {times : List K}
    (spaced : Spaced delay times) (within : ∀ time ∈ times, first ≤ time ∧ time ≤ last) :
    times.length ≤ ⌊(last - first) / delay⌋₊ + 1 := by
  cases times with
  | nil => exact Nat.zero_le _
  | cons time times =>
      have span := span_of_spaced spaced fun earlier member => (within earlier member).1
      refine Nat.succ_le_succ (Nat.le_floor ((le_div_iff₀ positive).mpr ?_))
      exact le_sub_iff_add_le'.mpr (span.trans (within time List.mem_cons_self).2)

end Room

/-! ## Signals that are on their way -/

/-- How many tasks of some kind there are. -/
def tasks {K : Type} (kind : Alarm) (alarms : List (Alarm × K)) : Nat :=
  alarms.countP fun task => task.1 == kind

theorem tasks_cons {K : Type} (kind alarm : Alarm) (due : K) (alarms : List (Alarm × K)) :
    tasks kind ((alarm, due) :: alarms) = tasks kind alarms + (alarm == kind).toNat := by
  unfold tasks
  rw [List.countP_cons]
  cases alarm == kind <;> rfl

theorem tasks_split {K : Type} (kind alarm : Alarm) (due : K) (before behind : List (Alarm × K)) :
    tasks kind (before ++ (alarm, due) :: behind) =
      tasks kind (before ++ behind) + (alarm == kind).toNat := by
  have cons := tasks_cons kind alarm due behind
  unfold tasks at cons ⊢
  rw [List.countP_append, cons, List.countP_append, Nat.add_assoc]

/-- A task that is set is one more of its kind. -/
theorem tasks_eq_of_split {K : Type} {alarm : Alarm} {due : K}
    {alarms before behind : List (Alarm × K)} (set : alarms = before ++ (alarm, due) :: behind)
    (kind : Alarm) :
    tasks kind alarms = tasks kind (before ++ behind) + (alarm == kind).toNat := by
  rw [set, tasks_split]

/-- How many timers a program sets with its next call. -/
def timersNext {τ : Type} {R : Interface} : InLoop τ R Unit → Nat
  | .call (.inr (.notifyAfter _)) _ => 1
  | _ => 0

/-- How many timers a loop has yet to set. -/
def Post.unset {τ : Type} {R : Interface} : Post τ R → Nat
  | .fresh => 1
  | .busy program => timersNext program.quiet
  | .parked | .passing _ | .gone => 0

namespace Watch

section Pending

variable {K τ : Type} {R : Interface}

/--
How many passes can begin without a new signal: by one that is stored, by one that has woken the
loop, which has yet to go on, and by those that probes which woke up have yet to give.
-/
def pending (watch : Watch K τ R) : Nat :=
  watch.wake.permits + tasks .rung watch.alarms

variable [Add K] [NatCast K] [LE K] {parse : List Entry → Program R Nat} {settings : Settings}
variable {idle : Watch K τ R → Prop} {watch watch' : Watch K τ R}

/-- Either time passes, or a step begins a pass only by using up what could begin one. -/
theorem Move.pending_cases (move : Move parse settings idle watch watch')
    (poised : watch.IsPoised settings) :
    (∃ now, watch.now ≤ now ∧ idle watch ∧ watch' = { watch with now := now }) ∨
    (watch'.now = watch.now ∧
      ((watch'.history = watch.history ∧ watch'.pending ≤ watch.pending) ∨
      ∃ done : Occurrence, watch'.history = (watch.now, done) :: watch.history ∧
        watch'.pending + done.begins.toNat ≤ watch.pending + (done.gives .caller).toNat +
          (done.gives .timer).toNat + done.fires.toNat)) := by
  have notified := watch.wake.permits_notify_le
  cases move with
  | passes later idles => exact .inl ⟨_, later, idles, rfl⟩
  | starts | calls | parks => exact .inr ⟨rfl, .inl ⟨rfl, le_rfl⟩⟩
  | waits parked nothing =>
      refine .inr ⟨rfl, .inl ⟨rfl, ?_⟩⟩
      exact Nat.add_le_add_right (WakeSignal.permits_wait nothing).le _
  | stops parked =>
      refine .inr ⟨rfl, .inl ⟨rfl, ?_⟩⟩
      exact Nat.add_le_add_right watch.wake.permits_leave_le _
  | ends => exact .inr ⟨rfl, .inr ⟨_, rfl, le_rfl⟩⟩
  | @takes wake parked taken =>
      refine .inr ⟨rfl, .inr ⟨_, rfl, ?_⟩⟩
      have permits := WakeSignal.permits_of_take? taken
      show wake.permits + tasks .rung watch.alarms + 1 ≤ watch.pending
      unfold pending
      omega
  | notifies =>
      refine .inr ⟨rfl, .inr ⟨_, rfl, ?_⟩⟩
      show watch.wake.notify.permits + tasks .rung watch.alarms ≤ watch.pending + 1
      unfold pending
      omega
  | @rings due before behind set =>
      refine .inr ⟨rfl, .inr ⟨_, rfl, ?_⟩⟩
      show watch.wake.notify.permits + tasks .rung (before ++ behind) ≤ watch.pending + 1
      have split : tasks .rung watch.alarms = tasks .rung (before ++ behind) :=
        tasks_eq_of_split set .rung
      unfold pending
      omega
  | @fires due before behind set =>
      refine .inr ⟨rfl, .inr ⟨_, rfl, ?_⟩⟩
      show watch.wake.permits + tasks .rung (before ++ (.rung, due) :: behind) ≤
        watch.pending + 1
      have split : tasks .rung watch.alarms = tasks .rung (before ++ behind) :=
        tasks_eq_of_split set .rung
      rw [pending, split, tasks_split]
      exact le_rfl
  | @probes due before behind set =>
      refine .inr ⟨rfl, .inr ⟨_, rfl, ?_⟩⟩
      show watch.wake.notify.permits + tasks .rung (before ++ behind) ≤ watch.pending
      have split : tasks .rung watch.alarms = tasks .rung (before ++ behind) + 1 :=
        tasks_eq_of_split set .rung
      unfold pending
      omega
  | asks busy shape =>
      obtain ⟨-, ⟨-, -, served⟩ | ⟨outcome, -, -, ⟨armed, served⟩ | ⟨off, served⟩⟩⟩ :=
        poised.serve_cases busy shape
      · rw [served]
        refine .inr ⟨rfl, .inl ⟨rfl, ?_⟩⟩
        exact Nat.add_le_add_left (tasks_cons ..).le _
      · rw [served]
        exact .inr ⟨rfl, .inr ⟨_, rfl, le_rfl⟩⟩
      · rw [served]
        refine .inr ⟨rfl, .inr ⟨_, rfl, ?_⟩⟩
        exact Nat.add_le_add_left (tasks_cons ..).le _

/-- Time passes only while the watch is idle. -/
theorem Move.idle_of_now_ne (move : Move parse settings idle watch watch')
    (poised : watch.IsPoised settings) (passed : watch'.now ≠ watch.now) :
    idle watch := by
  rcases move.pending_cases poised with ⟨-, -, idles, -⟩ | ⟨same, -⟩
  · exact idles
  · exact absurd same passed

/-- How many signals the timer of the start has given, or will give. -/
def timers (watch : Watch K τ R) : Nat :=
  tasks .timer watch.alarms + (watch.history.countP fun done => done.2.gives .timer) +
    watch.post.unset

/-- The timer of the start is set once, and gives one signal. -/
theorem Move.timers_le (move : Move parse settings idle watch watch')
    (poised : watch.IsPoised settings) :
    watch'.timers ≤ watch.timers := by
  cases move with
  | starts fresh =>
      unfold timers
      rw [fresh]
      exact le_rfl
  | waits | passes => exact le_rfl
  | calls passing shape reply =>
      unfold timers
      rw [passing]
      exact le_rfl
  | @ends pass outcome passing shape =>
      have set : (Post.busy (conclusion settings outcome) : Post τ R).unset = 0 := by
        cases outcome <;> rfl
      unfold timers
      rw [passing, set]
      exact le_rfl
  | parks => exact Nat.add_le_add_left (Nat.zero_le _) _
  | takes => exact Nat.add_le_add_left (Nat.zero_le _) _
  | stops => exact Nat.add_le_add_left (Nat.zero_le _) _
  | notifies => exact le_rfl
  | @rings due before behind set =>
      show tasks .timer (before ++ behind) + List.countP _ (_ :: watch.history) +
        watch.post.unset ≤ _
      rw [List.countP_cons_of_pos rfl, timers, tasks_eq_of_split set]
      show _ ≤ tasks .timer (before ++ behind) + 1 + _ + watch.post.unset
      omega
  | @fires due before behind set =>
      show tasks .timer (before ++ (.rung, due) :: behind) + _ + watch.post.unset ≤ _
      rw [timers, tasks_eq_of_split set, tasks_split]
      exact le_rfl
  | @probes due before behind set =>
      show tasks .timer (before ++ behind) + _ + watch.post.unset ≤ _
      rw [timers, tasks_eq_of_split set]
      exact le_rfl
  | @asks program call rest busy shape =>
      obtain ⟨done, ⟨rfl, -, served⟩ | ⟨outcome, -, -, ⟨armed, served⟩ | ⟨off, served⟩⟩⟩ :=
        poised.serve_cases busy shape
      · have unset : watch.post.unset = 1 := by
          rw [busy, Post.unset, shape]
          rfl
        rw [served]
        show tasks .timer ((.timer, _) :: watch.alarms) + _ + timersNext (rest _).quiet ≤ _
        rw [tasks_cons, done, timers, unset]
        show tasks .timer watch.alarms + 1 + watch.history.countP _ + 0 ≤ _
        omega
      · rw [served]
        show tasks .timer watch.alarms + _ + timersNext (rest _).quiet ≤ _
        rw [done]
        exact Nat.add_le_add_left (Nat.zero_le _) _
      · rw [served]
        show tasks .timer ((.probe, _) :: watch.alarms) + _ + timersNext (rest _).quiet ≤ _
        rw [tasks_cons, done]
        exact Nat.add_le_add_left (Nat.zero_le _) _

theorem Reachable.timers_le (reachable : Reachable parse settings idle watch) :
    watch.timers ≤ 1 := by
  refine reachable.of_moves (fun watch => watch.timers ≤ 1) (fun _ => le_rfl) ?_
  exact fun _ _ move poised once => (move.timers_le poised).trans once

theorem Reachable.timer_le (reachable : Reachable parse settings idle watch) :
    (watch.history.countP fun done => done.2.gives .timer) ≤ 1 := by
  have once := reachable.timers_le
  unfold timers at once
  omega

end Pending

section Stretches

variable {K τ : Type} {R : Interface} [Add K] [NatCast K] [Preorder K]
variable {parse : List Entry → Program R Nat} {settings : Settings}
variable {idle : Watch K τ R → Prop} {start watch watch' : Watch K τ R}

/-- What has happened in a stretch of a run: its passes have used up signals. -/
structure Stretch (start watch : Watch K τ R) (later : List (K × Occurrence)) : Prop where
  history : watch.history = later ++ start.history
  now : start.now ≤ watch.now
  within : ∀ done ∈ later, start.now ≤ done.1 ∧ done.1 ≤ watch.now
  paid : watch.pending + (later.countP fun done => done.2.begins) ≤
    start.pending + (later.countP fun done => done.2.gives .caller) +
      (later.countP fun done => done.2.gives .timer) + later.countP fun done => done.2.fires

theorem Move.stretch (move : Move parse settings idle watch watch')
    (poised : watch.IsPoised settings) {later : List (K × Occurrence)}
    (stretch : Stretch start watch later) :
    ∃ later', Stretch start watch' later' := by
  obtain ⟨history, now, within, paid⟩ := stretch
  rcases move.pending_cases poised with
    ⟨now', later', -, rfl⟩ | ⟨same, ⟨history', pending⟩ | ⟨done, history', pending⟩⟩
  · refine ⟨later, history, now.trans later', fun done member => ?_, paid⟩
    exact ⟨(within done member).1, (within done member).2.trans later'⟩
  · refine ⟨later, history'.trans history, ?_, ?_, ?_⟩
    · rw [same]
      exact now
    · rw [same]
      exact within
    · omega
  · refine ⟨(watch.now, done) :: later, ?_, ?_, ?_, ?_⟩
    · rw [history', history]
      rfl
    · rw [same]
      exact now
    · rw [same]
      intro done' member
      rcases List.mem_cons.mp member with rfl | member
      · exact ⟨now, le_rfl⟩
      · exact within done' member
    · simp only [countP_cons_occurrence]
      omega

theorem Reachable.exists_stretch (reachable : Reachable parse settings idle start)
    (run : Relation.ReflTransGen (Move parse settings idle) start watch) :
    ∃ later, Stretch start watch later := by
  induction run with
  | refl => exact ⟨[], rfl, le_rfl, nofun, le_rfl⟩
  | tail run move ih =>
      obtain ⟨later, stretch⟩ := ih
      exact move.stretch (reachable.trans run).isPoised stretch

/-- Whatever has happened, it was not later than now. -/
theorem Reachable.past (reachable : Reachable parse settings idle watch) :
    ∀ done ∈ watch.history, done.1 ≤ watch.now := by
  obtain ⟨now, run⟩ := reachable
  obtain ⟨later, stretch⟩ := Reachable.exists_stretch ⟨now, .refl⟩ run
  intro done member
  rw [stretch.history, show (fresh now : Watch K τ R).history = [] from rfl,
    List.append_nil] at member
  exact (stretch.within done member).2

end Stretches

section Rate

variable {K τ : Type} {R : Interface} [Field K] [LinearOrder K] [IsStrictOrderedRing K]
variable [FloorSemiring K] {parse : List Entry → Program R Nat} {settings : Settings}
variable {idle : Watch K τ R → Prop} {start watch : Watch K τ R} {later : List (K × Occurrence)}

theorem Reachable.stretch_firings_le (reachable : Reachable parse settings idle watch)
    (positive : 0 < settings.retryDelay) (stretch : Stretch start watch later) :
    (later.countP fun done => done.2.fires) ≤
      ⌊(watch.now - start.now) / settings.retryDelay⌋₊ + 1 := by
  have spaced := reachable.asleep.spaced
  rw [stretch.history, firings_append] at spaced
  have within : ∀ time ∈ firings later, start.now ≤ time ∧ time ≤ watch.now := by
    intro time member
    obtain ⟨done, fired, rfl⟩ := List.mem_map.mp member
    exact stretch.within done (List.mem_filter.mp fired).1
  have room := length_le_of_spaced (Nat.cast_pos.mpr positive)
    (List.pairwise_append.mp spaced).1 within
  rwa [length_firings] at room

/-- The passes in a stretch of a run have used up the signals in it, and those given before. -/
theorem Reachable.stretch_begins_le (reachable : Reachable parse settings idle watch)
    (positive : 0 < settings.retryDelay) (stretch : Stretch start watch later) :
    (later.countP fun done => done.2.begins) ≤
      (later.countP fun done => done.2.gives .caller) + 1 + start.pending +
        (⌊(watch.now - start.now) / settings.retryDelay⌋₊ + 1) := by
  have timer := reachable.timer_le
  rw [stretch.history, List.countP_append] at timer
  have fired := reachable.stretch_firings_le positive stretch
  have paid := stretch.paid
  omega

end Rate

end Watch

end Dispatch
end OutboxRelay
