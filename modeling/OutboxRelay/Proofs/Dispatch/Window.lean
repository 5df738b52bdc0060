import OutboxRelay.Proofs.Dispatch.Rate

/-!
# The passes in a window of time

A window of time begins where the run stands when all that lies before it has happened, and ends
where the run stands when all that does not lie behind it has.  What begins passes in it are the
signals in it, and what is pending at its start.

**Rules.**
* Anybody who was woken may be held up for any time, and a pass may take any time.
* A window may begin and end between any two steps of a run.

**Results.**
* `Watch.Reachable.exists_cut`: where a run stands when a window begins, or ends.
* `Watch.IsCut.begins_le`, `Watch.Reachable.begins_le_of_prompt`: the passes in a window of time;
  if time passes only when nobody who was woken has yet to go on, one of them is not paid for.
* `Watch.Reachable.probed`: what is true of a loop and its probes, and of its passes in a window
  of time.
* `exists_overrun`: one signal that was stored before a window does not account for the passes in
  it.
-/

namespace OutboxRelay
namespace Dispatch

/-! ## Windows of time -/

section Window

variable {K : Type} [LinearOrder K]

/-- How often a thing of some kind happened in a window of time. -/
def occurred (first last : K) (kind : Occurrence → Bool) (history : List (K × Occurrence)) :
    Nat :=
  history.countP fun done => decide (first ≤ done.1 ∧ done.1 ≤ last) && kind done.2

variable {first last : K} {kind : Occurrence → Bool} {history : List (K × Occurrence)}

theorem occurred_append (later past : List (K × Occurrence)) :
    occurred first last kind (later ++ past) =
      occurred first last kind later + occurred first last kind past := by
  exact List.countP_append

theorem occurred_eq_zero (outside : ∀ done ∈ history, ¬ (first ≤ done.1 ∧ done.1 ≤ last)) :
    occurred first last kind history = 0 := by
  refine List.countP_eq_zero.mpr fun done member => ?_
  simp [outside done member]

theorem occurred_eq_countP (inside : ∀ done ∈ history, first ≤ done.1 ∧ done.1 ≤ last) :
    occurred first last kind history = history.countP fun done => kind done.2 := by
  refine List.countP_congr fun done member => ?_
  simp [inside done member]

theorem occurred_le :
    occurred first last kind history ≤ history.countP fun done => kind done.2 := by
  refine List.countP_mono_left fun done _ inside => ?_
  exact (Bool.and_eq_true_iff.mp inside).2

theorem occurred_fires :
    occurred first last Occurrence.fires history =
      ((firings history).filter fun time => decide (first ≤ time ∧ time ≤ last)).length := by
  unfold occurred firings
  rw [List.countP_eq_length_filter, List.filter_map, List.length_map, List.filter_filter]
  rfl

end Window

namespace Watch

section Prompt

variable {K τ : Type} {R : Interface}

/-- Whether nobody who was woken has yet to go on. -/
def Prompt (watch : Watch K τ R) : Prop :=
  watch.wake.listener ≠ .woken ∧ tasks .rung watch.alarms = 0

theorem Prompt.pending_le {watch : Watch K τ R} (prompt : watch.Prompt) :
    watch.pending ≤ 1 := by
  obtain ⟨asleep, none⟩ := prompt
  have permits : watch.wake.permits = watch.wake.stored.toNat := by
    simp [WakeSignal.permits, asleep]
  rw [pending, permits, none]
  exact Bool.toNat_le _

end Prompt

section Cuts

variable {K τ : Type} {R : Interface} [Add K] [NatCast K] [Preorder K]
variable {early : K → Prop} {start watch : Watch K τ R}

section Definition

variable (parse : List Entry → Program R Nat) (settings : Settings) (idle : Watch K τ R → Prop)

/-- Where a run stands when all that is early has happened, and nothing else. -/
structure IsCut (early : K → Prop) (start watch : Watch K τ R) : Prop where
  reachable : Reachable parse settings idle start
  run : Relation.ReflTransGen (Move parse settings idle) start watch
  before : ∀ done ∈ start.history, early done.1
  behind : ∃ later, watch.history = later ++ start.history ∧ ∀ done ∈ later, ¬ early done.1

end Definition

variable {parse : List Entry → Program R Nat} {settings : Settings} {idle : Watch K τ R → Prop}

/-- As long as it is early, all that has happened is early. -/
theorem IsCut.self (reachable : Reachable parse settings idle watch)
    (closed : ∀ {time later : K}, time ≤ later → early later → early time)
    (now : early watch.now) :
    IsCut parse settings idle early watch watch := by
  have before : ∀ done ∈ watch.history, early done.1 :=
    fun done member => closed (reachable.past done member) now
  exact ⟨reachable, .refl, before, [], rfl, nofun⟩

/-- What happens when it is not early any more lies behind the cut. -/
theorem IsCut.tail {watch' : Watch K τ R} (cut : IsCut parse settings idle early start watch)
    (move : Move parse settings idle watch watch') (late : ¬ early watch'.now) :
    IsCut parse settings idle early start watch' := by
  obtain ⟨reachable, run, before, later, split, behind⟩ := cut
  refine ⟨reachable, run.tail move, before, ?_⟩
  rcases move.pending_cases (reachable.trans run).isPoised with
    ⟨now, -, -, rfl⟩ | ⟨same, ⟨history, -⟩ | ⟨done, history, -⟩⟩
  · exact ⟨later, split, behind⟩
  · exact ⟨later, history.trans split, behind⟩
  · refine ⟨(watch.now, done) :: later, ?_, ?_⟩
    · rw [history, split]
      rfl
    · rw [same] at late
      exact List.forall_mem_cons.mpr ⟨late, behind⟩

/--
A run can be cut where time goes on from what is early to what is not, unless it has not come to
that, or was there from the beginning.
-/
theorem Reachable.exists_cut (reachable : Reachable parse settings idle start)
    (run : Relation.ReflTransGen (Move parse settings idle) start watch) (early : K → Prop)
    (closed : ∀ {time later : K}, time ≤ later → early later → early time)
    (before : ∀ done ∈ start.history, early done.1) :
    ∃ stop, Relation.ReflTransGen (Move parse settings idle) start stop ∧
      IsCut parse settings idle early stop watch ∧
      (early watch.now ∨ stop = start ∨ idle stop) := by
  induction run with
  | refl => exact ⟨start, .refl, ⟨reachable, .refl, before, [], rfl, nofun⟩, .inr (.inl rfl)⟩
  | @tail watch watch' run move ih =>
      have here := reachable.trans run
      by_cases still : early watch'.now
      · exact ⟨watch', run.tail move, .self (here.move move) closed still, .inl still⟩
      by_cases was : early watch.now
      · have idles : idle watch := move.idle_of_now_ne here.isPoised fun same => still (same ▸ was)
        exact ⟨watch, run, (IsCut.self here closed was).tail move still, .inr (.inr idles)⟩
      · obtain ⟨stop, begins, cut, why⟩ := ih
        exact ⟨stop, begins, cut.tail move still, .inr (why.resolve_left was)⟩

end Cuts

section Windows

variable {K τ : Type} {R : Interface} [Add K] [NatCast K] [LinearOrder K]
variable {parse : List Entry → Program R Nat} {settings : Settings}
variable {idle : Watch K τ R → Prop} {start stop watch : Watch K τ R} {first last : K}
variable {later : List (K × Occurrence)}

/-- What happens in a window of time happens behind the first cut, and before the second one. -/
theorem IsCut.occurred_eq (begins : IsCut parse settings idle (· < first) start watch)
    (ends : IsCut parse settings idle (fun time => time ≤ last ∨ time < first) stop watch)
    (split : stop.history = later ++ start.history) (kind : Occurrence → Bool) :
    occurred first last kind watch.history = later.countP fun done => kind done.2 := by
  obtain ⟨later', whole, behind⟩ := begins.behind
  obtain ⟨after, split', late⟩ := ends.behind
  have same : later' = after ++ later := by
    refine List.append_cancel_right (whole.symm.trans ?_)
    rw [split', split, List.append_assoc]
  have outside : occurred first last kind after = 0 := by
    refine occurred_eq_zero fun done member inside => late done member (.inl inside.2)
  have outside' : occurred first last kind start.history = 0 := by
    refine occurred_eq_zero fun done member inside => ?_
    exact (begins.before done member).not_ge inside.1
  have inside : ∀ done ∈ later, first ≤ done.1 ∧ done.1 ≤ last := by
    intro done member
    have reached : ¬ done.1 < first :=
      behind done (same ▸ List.mem_append_right after member)
    have early := ends.before done (split ▸ List.mem_append_left start.history member)
    exact ⟨not_lt.mp reached, early.resolve_right reached⟩
  rw [split', split, occurred_append, occurred_append, outside, outside', Nat.zero_add,
    Nat.add_zero, occurred_eq_countP inside]

end Windows

section Probed

variable {K τ : Type} {R : Interface} [Field K] [LinearOrder K] [IsStrictOrderedRing K]
variable {parse : List Entry → Program R Nat} {settings : Settings}
variable {idle : Watch K τ R → Prop} {watch : Watch K τ R}
theorem Reachable.firings_le [FloorSemiring K] (reachable : Reachable parse settings idle watch)
    (positive : 0 < settings.retryDelay) (first length : K) :
    occurred first (first + length) Occurrence.fires watch.history ≤
      ⌊length / settings.retryDelay⌋₊ + 1 := by
  have within : ∀ time ∈ (firings watch.history).filter fun time =>
      decide (first ≤ time ∧ time ≤ first + length), first ≤ time ∧ time ≤ first + length :=
    fun time member => of_decide_eq_true (List.mem_filter.mp member).2
  have room := length_le_of_spaced (Nat.cast_pos.mpr positive)
    (reachable.asleep.spaced.filter _) within
  rw [add_sub_cancel_left] at room
  rw [occurred_fires]
  exact room

/-- The passes in a window of time have used up the signals in it, and those given before. -/
theorem IsCut.begins_le [FloorSemiring K] {start : Watch K τ R} {first : K}
    (cut : IsCut parse settings idle (· < first) start watch)
    (positive : 0 < settings.retryDelay) (length : K) :
    occurred first (first + length) Occurrence.begins watch.history ≤
      occurred first (first + length) (Occurrence.gives .caller) watch.history + 1 +
        start.pending + (⌊length / settings.retryDelay⌋₊ + 1) := by
  have reachable := cut.reachable.trans cut.run
  obtain ⟨stop, run, ends, -⟩ := cut.reachable.exists_cut cut.run
    (fun time => time ≤ first + length ∨ time < first)
    (fun before early => early.imp before.trans before.trans_lt)
    fun done member => .inr (cut.before done member)
  obtain ⟨later, stretch⟩ := cut.reachable.exists_stretch run
  have paid := stretch.paid
  simp only [← cut.occurred_eq ends stretch.history] at paid
  have fired := reachable.firings_le positive first length
  have timer : occurred first (first + length) (Occurrence.gives .timer) watch.history ≤ 1 :=
    occurred_le.trans reachable.timer_le
  omega

/-- A window of time in which nobody who was woken is held up begins with one signal at most. -/
theorem Reachable.begins_le_of_prompt [FloorSemiring K]
    (reachable : Reachable parse settings idle watch)
    (prompt : ∀ watch, idle watch → watch.Prompt) (positive : 0 < settings.retryDelay)
    (first length : K) :
    occurred first (first + length) Occurrence.begins watch.history ≤
      occurred first (first + length) (Occurrence.gives .caller) watch.history + 1 + 1 +
        (⌊length / settings.retryDelay⌋₊ + 1) := by
  obtain ⟨now, run⟩ := reachable
  obtain ⟨start, -, cut, why⟩ := Reachable.exists_cut ⟨now, .refl⟩ run (· < first)
    lt_of_le_of_lt nofun
  have bound := cut.begins_le positive length
  rcases why with early | rfl | idles
  · have nothing : occurred first (first + length) Occurrence.begins watch.history = 0 := by
      refine occurred_eq_zero fun done member inside => ?_
      exact ((Reachable.past ⟨now, run⟩ done member).trans_lt early).not_ge inside.1
    rw [nothing]
    exact Nat.zero_le _
  · have none : (fresh now : Watch K τ R).pending = 0 := rfl
    omega
  · have once := (prompt start idles).pending_le
    omega

/-- What is true of a loop and its retry probes. -/
structure Probed (settings : Settings) (watch : Watch K τ R) : Prop where
  /-- The flag is set exactly while a probe sleeps, and no other one sleeps beside it. -/
  sleeping : watch.probes.length = if watch.wake.probeArmed then 1 else 0
  /--
  Behind a pass that should be tried again, the loop asks for a probe before anything else, and a
  probe sleeps from then on until it wakes up.
  -/
  outstanding : ∀ later time outcome past, watch.history = later ++ (time, .ended outcome) :: past →
    outcome.needsRetry = true →
    (watch.post = .busy (conclusion settings outcome) ∧ latest later = none) ∨
      ∃ after time' anew between, later = after ++ (time', .armed anew) :: between ∧
        latest between = none ∧
        ((∃ done ∈ after, done.2 = .fired) ∨ watch.wake.probeArmed = true)
  /-- Any two probes wake up at least so far apart as a probe sleeps. -/
  spaced : Spaced (settings.retryDelay : K) (firings watch.history)
  /-- A pass that has drained the outbox, or could not try to, makes the loop ask for none. -/
  warranted : ∀ later time anew past, watch.history = later ++ (time, .armed anew) :: past →
    ∃ outcome, latest past = some (.ended outcome) ∧ outcome ≠ .lockUnavailable ∧
      ∀ applied discarded, outcome ≠ .drained applied discarded

/--
Retry probes do not multiply, and in any window of time the passes are bounded by the signals of
callers, the timer of the start, all that could begin a pass when the window began, and the
probes.  The same is true of the stretch of a run from one of its steps to another.
-/
theorem Reachable.probed [FloorSemiring K] (reachable : Reachable parse settings idle watch) :
    Probed settings watch ∧
      (0 < settings.retryDelay → ∀ first length : K,
        (∃ start, IsCut parse settings idle (· < first) start watch) ∧
        ∀ start, IsCut parse settings idle (· < first) start watch →
          occurred first (first + length) Occurrence.begins watch.history ≤
            occurred first (first + length) (Occurrence.gives .caller) watch.history + 1 +
              start.pending + (⌊length / settings.retryDelay⌋₊ + 1)) ∧
      (0 < settings.retryDelay → ∀ start, Reachable parse settings idle start →
        Relation.ReflTransGen (Move parse settings idle) start watch →
        ∃ later, watch.history = later ++ start.history ∧
          (later.countP fun done => done.2.begins) ≤
            (later.countP fun done => done.2.gives .caller) + 1 + start.pending +
              (⌊(watch.now - start.now) / settings.retryDelay⌋₊ + 1)) := by
  have asleep := reachable.asleep
  refine ⟨⟨?_, ?_, asleep.spaced, ?_⟩, ?_, ?_⟩
  · rcases asleep.probe with ⟨off, none⟩ | ⟨on, due, only, -⟩
    · rw [off, none]
      rfl
    · rw [on, only]
      rfl
  · exact fun _ _ _ _ split retry => reachable.exists_armed split retry
  · exact fun _ _ _ _ split => reachable.armed_behind split
  · intro positive first length
    obtain ⟨now, run⟩ := reachable
    obtain ⟨start, -, cut, -⟩ := Reachable.exists_cut ⟨now, .refl⟩ run (· < first)
      lt_of_le_of_lt nofun
    exact ⟨⟨start, cut⟩, fun start cut => cut.begins_le positive length⟩
  · intro positive start before run
    obtain ⟨later, stretch⟩ := before.exists_stretch run
    exact ⟨later, stretch.history, reachable.stretch_begins_le positive stretch⟩

end Probed

end Watch

/-! ## A loop that is held up -/

section Overrun

/-- Settings with which the timer of the start sleeps longer than a probe. -/
def sleepy : Settings :=
  { Settings.default with startupDelay := 15000 }

/-- What can become of a loop with these settings. -/
abbrev Goes (idle : Watch ℚ Unit Downstream.interface → Prop) :
    Watch ℚ Unit Downstream.interface → Watch ℚ Unit Downstream.interface → Prop :=
  Relation.ReflTransGen (Watch.Move Replay.parse sleepy idle)

variable {idle : Watch ℚ Unit Downstream.interface → Prop}
variable {start : Watch ℚ Unit Downstream.interface} {wake : WakeSignal} {stored : Bool}
variable {alarms : List (Alarm × ℚ)} {now : ℚ} {history : List (ℚ × Occurrence)}

/-- A pass may find the lock taken. -/
theorem Goes.contend
    (goes : Goes idle start ⟨.passing (runPass Replay.parse sleepy), wake, alarms, now, history⟩) :
    Goes idle start ⟨.busy (conclusion sleepy .contended), wake, alarms, now,
      (now, .ended .contended) :: history⟩ := by
  have asks : (runPass Replay.parse sleepy : OnOutbox Unit Downstream.interface Outcome).quiet =
      .call (Sum.inl (.tryLock 1000)) _ := rfl
  have taken := goes.tail (.calls rfl asks (Except.ok (Lock.mk false ())))
  have released := taken.tail (.calls rfl rfl (by exact Except.ok ()))
  exact released.tail (.ends rfl rfl)

/-- Behind such a pass the loop arms a probe, and parks. -/
theorem Goes.arm (goes : Goes idle start ⟨.passing (runPass Replay.parse sleepy),
      ⟨stored, .away, false⟩, alarms, now, history⟩) :
    Goes idle start ⟨.parked, ⟨stored, .away, true⟩, (.probe, now + (10000 : Nat)) :: alarms, now,
      (now, .armed true) :: (now, .ended .contended) :: history⟩ := by
  have armed := (Goes.contend goes).tail (.asks rfl rfl)
  exact armed.tail (.parks rfl rfl)

/-- If a probe sleeps already, it arms none. -/
theorem Goes.park (goes : Goes idle start ⟨.passing (runPass Replay.parse sleepy),
      ⟨stored, .away, true⟩, alarms, now, history⟩) :
    Goes idle start ⟨.parked, ⟨stored, .away, true⟩, alarms, now,
      (now, .armed false) :: (now, .ended .contended) :: history⟩ := by
  have armed := (Goes.contend goes).tail (.asks rfl rfl)
  exact armed.tail (.parks rfl rfl)

/-- A signal that has reached a parked loop makes it begin a pass, and park again. -/
theorem Goes.respond
    (goes : Goes idle start ⟨.parked, ⟨stored, .woken, true⟩, alarms, now, history⟩) :
    Goes idle start ⟨.parked, ⟨stored, .away, true⟩, alarms, now,
      (now, .armed false) :: (now, .ended .contended) :: (now, .began true) :: history⟩ := by
  exact Goes.park (goes.tail (.takes rfl rfl))

/--
A loop that two signals have reached while it was parked.  A probe that has woken up has yet to
give its signal, and the next one sleeps already.
-/
def overdue : Watch ℚ Unit Downstream.interface where
  post := .parked
  wake := ⟨true, .woken, true⟩
  alarms := [(.probe, 10000 + (10000 : Nat)), (.rung, 0 + (10000 : Nat)),
    (.timer, 0 + (15000 : Nat))]
  now := 10000
  history := [(10000, .signalled .caller false), (10000, .signalled .caller true),
    (10000, .armed true), (10000, .ended .contended), (10000, .began true),
    (10000, .signalled .caller true), (10000, .fired), (0, .armed true), (0, .ended .contended),
    (0, .began true), (0, .signalled .caller true)]

/-- That loop when all that was pending has begun a pass: it waits for its timer and its probe. -/
def caughtUp (now : ℚ) : Watch ℚ Unit Downstream.interface where
  post := .parked
  wake := ⟨false, .waiting, true⟩
  alarms := [(.probe, 10000 + (10000 : Nat)), (.timer, 0 + (15000 : Nat))]
  now := now
  history := [(now, .armed false), (now, .ended .contended), (now, .began true),
    (now, .signalled .probe true), (now, .armed false), (now, .ended .contended),
    (now, .began false), (now, .armed false), (now, .ended .contended), (now, .began true)] ++
      overdue.history

/-- A loop that has done so much, and begins a pass since its timer has rung. -/
def onTimer (history : List (ℚ × Occurrence)) : Watch ℚ Unit Downstream.interface where
  post := .passing (runPass Replay.parse sleepy)
  wake := ⟨false, .away, true⟩
  alarms := [(.probe, 10000 + (10000 : Nat))]
  now := 15000
  history := [(15000, .began true), (15000, .signalled .timer true)] ++ history

/-- That loop five seconds later, when it begins a pass since its probe has woken up. -/
def overrun : Watch ℚ Unit Downstream.interface where
  post := .passing (runPass Replay.parse sleepy)
  wake := ⟨false, .away, false⟩
  alarms := []
  now := 20000
  history := [(20000, .began true), (20000, .signalled .probe true), (20000, .fired),
    (15000, .armed false), (15000, .ended .contended)] ++ (onTimer (caughtUp 15000).history).history

/-- So far nobody who was woken need be held up. -/
theorem goes_overdue (calm : ∀ watch, watch.Prompt → idle watch) :
    Goes idle (.fresh 0) overdue := by
  have asks : (startUp sleepy : InLoop Unit Downstream.interface Unit).quiet =
      .call (Sum.inr (.notifyAfter 15000)) .done := rfl
  have fresh : Goes idle (.fresh 0) (.fresh 0) := .refl
  have set := (fresh.tail (.starts rfl)).tail (.asks rfl asks)
  have waiting : Goes idle (.fresh 0) ⟨.parked, ⟨false, .waiting, false⟩,
      [(.timer, 0 + (15000 : Nat))], 0, []⟩ :=
    (set.tail (.parks rfl rfl)).tail (.waits rfl rfl)
  have begun := (waiting.tail (.notifies _)).tail (.takes rfl rfl)
  have waiting := (Goes.arm begun).tail (.waits rfl rfl)
  have later := waiting.tail (.passes (show (0 : ℚ) ≤ 10000 by norm_num) (calm _ ⟨nofun, rfl⟩))
  have late : 0 + ((10000 : Nat) : ℚ) ≤ 10000 := by norm_num
  have fired := later.tail (.fires [] [_] rfl late)
  have begun := (fired.tail (.notifies _)).tail (.takes rfl rfl)
  have waiting := (Goes.arm begun).tail (.waits rfl rfl)
  exact (waiting.tail (.notifies _)).tail (.notifies _)

theorem goes_caughtUp (goes : Goes idle overdue { overdue with now := now }) :
    Goes idle overdue (caughtUp now) := by
  have parked := Goes.respond goes
  have waiting := (Goes.park (parked.tail (.takes rfl rfl))).tail (.waits rfl rfl)
  have probed := waiting.tail (.probes [_] [_] rfl)
  exact (Goes.respond probed).tail (.waits rfl rfl)

theorem goes_onTimer (goes : Goes idle overdue { caughtUp now with now := 15000 }) :
    Goes idle overdue (onTimer (caughtUp now).history) := by
  have late : 0 + ((15000 : Nat) : ℚ) ≤ 15000 := by norm_num
  exact (goes.tail (.rings [_] [] rfl late)).tail (.takes rfl rfl)

/-- The loop is held up for five seconds. -/
theorem goes_overrun : Goes (fun _ => True) overdue overrun := by
  have here : Goes (fun _ => True) overdue overdue := .refl
  have later := here.tail (.passes (show (10000 : ℚ) ≤ 15000 by norm_num) trivial)
  have waiting := (Goes.park (goes_onTimer (goes_caughtUp later))).tail (.waits rfl rfl)
  have later := waiting.tail (.passes (show (15000 : ℚ) ≤ 20000 by norm_num) trivial)
  have late : 10000 + ((10000 : Nat) : ℚ) ≤ 20000 := by norm_num
  have fired := later.tail (.fires [] [] rfl late)
  exact (fired.tail (.probes [] [] rfl)).tail (.takes rfl rfl)

/-- The loop is not held up, and begins four passes within five seconds. -/
theorem goes_promptly : Goes Watch.Prompt overdue (onTimer (caughtUp 10000).history) := by
  have waiting : Goes Watch.Prompt overdue (caughtUp 10000) := goes_caughtUp .refl
  exact goes_onTimer (waiting.tail
    (.passes (show (10000 : ℚ) ≤ 15000 by norm_num) ⟨nofun, rfl⟩))

/-- In nine seconds there are five passes, and no signal of a caller. -/
theorem occurred_overrun :
    occurred 15000 (15000 + 9000) (Occurrence.gives .caller) overrun.history = 0 ∧
      occurred 15000 (15000 + 9000) Occurrence.begins overrun.history = 5 := by
  decide +kernel

/--
A window of time may begin with a signal that is stored, one that has woken the loop, and one that
a probe has yet to give.  So may the stretch between two steps of a run, even if time passes only
when nobody who was woken has yet to go on.
-/
theorem exists_overrun :
    0 < sleepy.retryDelay ∧
      (∃ watch : Watch ℚ Unit Downstream.interface,
        watch.Reachable Replay.parse sleepy (fun _ => True) ∧
        occurred 15000 (15000 + 9000) (Occurrence.gives .caller) watch.history + 1 + 1 +
            (⌊9000 / (sleepy.retryDelay : ℚ)⌋₊ + 1) <
          occurred 15000 (15000 + 9000) Occurrence.begins watch.history) ∧
      ∃ (start watch : Watch ℚ Unit Downstream.interface) (later : List (ℚ × Occurrence)),
        start.Reachable Replay.parse sleepy Watch.Prompt ∧ Goes Watch.Prompt start watch ∧
        watch.history = later ++ start.history ∧
        (later.countP fun done => done.2.gives .caller) + 1 + 1 +
            (⌊(watch.now - start.now) / (sleepy.retryDelay : ℚ)⌋₊ + 1) <
          later.countP fun done => done.2.begins := by
  refine ⟨by decide, ⟨overrun, ⟨0, ?_⟩, ?_⟩, overdue, onTimer (caughtUp 10000).history,
    (onTimer (caughtUp 10000).history).history.take 12, ⟨0, goes_overdue fun _ => id⟩,
    goes_promptly, rfl, ?_⟩
  · exact (goes_overdue fun _ _ => trivial).trans goes_overrun
  · have room : ⌊9000 / (sleepy.retryDelay : ℚ)⌋₊ = 0 := by
      norm_num [sleepy, Settings.default]
    rw [room, occurred_overrun.1, occurred_overrun.2]
    decide
  · have room : ⌊((onTimer (caughtUp 10000).history).now - overdue.now) /
        (sleepy.retryDelay : ℚ)⌋₊ = 0 := by
      norm_num [sleepy, Settings.default, onTimer, overdue]
    rw [room]
    decide

/-- All that was pending when this window began is needed. -/
theorem probed_of_overrun :
    overrun.Reachable Replay.parse sleepy (fun _ => True) ∧
      Watch.IsCut Replay.parse sleepy (fun _ => True) (· < 15000) overdue overrun ∧
      overdue.pending = 3 ∧ Watch.Probed sleepy overrun ∧
      occurred 15000 (15000 + 9000) Occurrence.begins overrun.history = 5 ∧
      occurred 15000 (15000 + 9000) Occurrence.begins overrun.history ≤
        occurred 15000 (15000 + 9000) (Occurrence.gives .caller) overrun.history + 1 +
          overdue.pending + (⌊9000 / (sleepy.retryDelay : ℚ)⌋₊ + 1) := by
  have begun : overdue.Reachable Replay.parse sleepy (fun _ => True) :=
    ⟨0, goes_overdue fun _ _ => trivial⟩
  have cut : Watch.IsCut Replay.parse sleepy (fun _ => True) (· < 15000) overdue overrun := by
    refine ⟨begun, goes_overrun, ?_, overrun.history.take 17, rfl, ?_⟩
    · norm_num [overdue]
    · norm_num [overrun, onTimer, caughtUp]
  have reachable := begun.trans goes_overrun
  obtain ⟨probed, bound, -⟩ := Watch.Reachable.probed reachable
  exact ⟨reachable, cut, rfl, probed, occurred_overrun.2,
    (bound (by decide) 15000 9000).2 overdue cut⟩

end Overrun

end Dispatch
end OutboxRelay