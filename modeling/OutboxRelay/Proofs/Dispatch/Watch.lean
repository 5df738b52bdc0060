import OutboxRelay.Proofs.Dispatch.Crew
import OutboxRelay.Proofs.Dispatch.Wake
import OutboxRelay.Proofs.History

/-!
# A dispatch loop over time

One dispatch loop runs beside those who give it signals: callers, the timer of its start, and
its retry probe.  The outbox and the parser may answer its passes as they like, and as late as
they like.

**Rules.**
* A parked loop may be told to shut down at any time, also when there is a signal.
* A timer and a probe sleep at least as long as they were told.
* When time may pass is a parameter: always, or only while nobody who was woken has yet to go on.

**Results.**
* `turn_eq`, `quiet_passing_call`, `quiet_passing_done`, `Watch.Move.phase_cases`: the steps of a
  loop that passes are the steps of its program.
* `Watch.Reachable.isPoised`: where a loop stands fits what it did last.
* `Watch.Reachable.follows`: whatever a loop does follows what it did last.
-/

namespace OutboxRelay
namespace Dispatch

/-! ## Programs -/

section Programs

variable {τ : Type} {R : Interface}

/-- What is left of a turn whose pass has ended, with the records of that turn. -/
def conclusion (settings : Settings) (outcome : Outcome) : InLoop τ R Unit := do
  if outcome.needsRetry then
    let armed : Bool ← onWake (.armProbe settings.retryDelay)
    if armed then
      Program.log (record .debug "scheduling retry probe"
        [("delay_ms", .number settings.retryDelay)])

/-- A turn is a pass and its conclusion. -/
theorem turn_eq (parse : List Entry → Program R Nat) (settings : Settings) :
    (turn parse settings : InLoop τ R Unit) =
      (Program.onFirst (runPass parse settings)).bind (conclusion settings) := by
  rfl

theorem quiet_onFirst_bind {I J : Interface} {α β : Type} (program : Program I α)
    (next : α → Program (I.both J) β) :
    (program.onFirst.bind next).quiet = (program.quiet.onFirst.bind next).quiet := by
  induction program with
  | done result => rfl
  | note record rest ih => exact ih
  | call made rest ih => rfl

/-- While its pass makes calls, a loop makes the same calls. -/
theorem quiet_passing_call {pass : OnOutbox τ R Outcome} {call : (interface τ R).Call}
    {rest : (interface τ R).Reply call → OnOutbox τ R Outcome}
    (shape : pass.quiet = .call call rest) (next : Outcome → InLoop τ R Unit) :
    ((Program.onFirst pass).bind next).quiet =
      .call (Sum.inl call) fun reply => (Program.onFirst (rest reply)).bind next := by
  refine (quiet_onFirst_bind (I := interface τ R) (J := Wake.interface) pass next).trans ?_
  rw [shape]
  rfl

/-- When its pass has ended, a loop goes on with the outcome. -/
theorem quiet_passing_done {pass : OnOutbox τ R Outcome} {outcome : Outcome}
    (shape : pass.quiet = .done outcome) (next : Outcome → InLoop τ R Unit) :
    ((Program.onFirst pass).bind next).quiet = (next outcome).quiet := by
  refine (quiet_onFirst_bind (I := interface τ R) (J := Wake.interface) pass next).trans ?_
  rw [shape]
  rfl

end Programs

/-! ## Loops and their signals -/

/-- Who gives a signal. -/
inductive Source
  | caller
  | timer
  | probe
  deriving DecidableEq, Repr

/-- What happens to a loop. -/
inductive Occurrence
  /-- It is given a signal; this may wake it at once. -/
  | signalled (source : Source) (woke : Bool)
  /-- Its retry probe wakes up, and may be armed again. -/
  | fired
  /-- It begins a pass, by the signal that woke it or by a stored one. -/
  | began (woken : Bool)
  | ended (outcome : Outcome)
  /-- It asks for the retry probe, which may be armed already. -/
  | armed (anew : Bool)
  deriving DecidableEq, Repr

/-- Whether a pass begins. -/
def Occurrence.begins : Occurrence → Bool
  | .began _ => true
  | _ => false

/-- Where a loop stands, its pass being told apart from what comes before and behind. -/
inductive Post (τ : Type) (R : Interface)
  | fresh
  | parked
  /-- In its start, or behind a pass. -/
  | busy (rest : InLoop τ R Unit)
  /-- In a pass, of which a program is left. -/
  | passing (pass : OnOutbox τ R Outcome)
  | gone

/-- The phase of a loop that stands there. -/
def Post.phase {τ : Type} {R : Interface} (settings : Settings) : Post τ R → Phase τ R
  | .fresh => .fresh
  | .parked => .parked
  | .busy rest => .busy rest
  | .passing pass => .busy ((Program.onFirst pass).bind (conclusion settings))
  | .gone => .ended

/-- A loop with its wake signal, and the tasks that will give this signal. -/
structure Watch (K τ : Type) (R : Interface) where
  post : Post τ R
  wake : WakeSignal
  /-- The tasks, each with the time at which it wakes up. -/
  alarms : List (Alarm × K)
  now : K
  /-- What happened, and when, the last thing first. -/
  history : List (K × Occurrence)

namespace Watch

variable {K τ : Type} {R : Interface}

/-- A loop that was not started. -/
def fresh (now : K) : Watch K τ R :=
  ⟨.fresh, .quiet, [], now, []⟩

/-- Whether a signal that is given now wakes the loop. -/
def wakes (watch : Watch K τ R) : Bool :=
  watch.wake.listener == .waiting

/-- The same watch when the loop was given a signal. -/
def signal (watch : Watch K τ R) (source : Source) : Watch K τ R :=
  { watch with
    wake := watch.wake.notify
    history := (watch.now, .signalled source watch.wakes) :: watch.history }

/-- Whether the loop was woken by a signal that it has not taken yet. -/
def isWoken (watch : Watch K τ R) : Bool :=
  watch.wake.listener == .woken

section Time

variable [Add K] [NatCast K]

/-- Answers a call on the wake signal. -/
def serve (watch : Watch K τ R) : (call : Wake.Call) → call.Reply × Watch K τ R
  | .notify => ((), watch.signal .caller)
  | .notifyAfter delay =>
      ((), { watch with alarms := (.timer, watch.now + delay) :: watch.alarms })
  | .armProbe delay =>
      if watch.wake.probeArmed then
        (false, { watch with history := (watch.now, .armed false) :: watch.history })
      else
        (true, { watch with
          wake := watch.wake.arm.2
          alarms := (.probe, watch.now + delay) :: watch.alarms
          history := (watch.now, .armed true) :: watch.history })

theorem serve_armProbe_of_armed {watch : Watch K τ R} (armed : watch.wake.probeArmed = true)
    (delay : Nat) :
    watch.serve (.armProbe delay) =
      (false, { watch with history := (watch.now, .armed false) :: watch.history }) := by
  exact if_pos armed

theorem serve_armProbe {watch : Watch K τ R} (off : watch.wake.probeArmed = false)
    (delay : Nat) :
    watch.serve (.armProbe delay) =
      (true, { watch with
        wake := watch.wake.arm.2
        alarms := (.probe, watch.now + delay) :: watch.alarms
        history := (watch.now, .armed true) :: watch.history }) := by
  exact if_neg (by simp [off])

variable [LE K]

/-- What can happen next; time may pass only while the watch is idle in a given sense. -/
inductive Move (parse : List Entry → Program R Nat) (settings : Settings)
    (idle : Watch K τ R → Prop) : Watch K τ R → Watch K τ R → Prop
  | starts {watch : Watch K τ R} (fresh : watch.post = .fresh) :
      Move parse settings idle watch { watch with post := .busy (startUp settings) }
  /-- The pass makes a call, which may be answered in any way. -/
  | calls {watch : Watch K τ R} {pass : OnOutbox τ R Outcome} {call : (interface τ R).Call}
      {rest : (interface τ R).Reply call → OnOutbox τ R Outcome}
      (passing : watch.post = .passing pass) (shape : pass.quiet = .call call rest)
      (reply : (interface τ R).Reply call) :
      Move parse settings idle watch { watch with post := .passing (rest reply) }
  | ends {watch : Watch K τ R} {pass : OnOutbox τ R Outcome} {outcome : Outcome}
      (passing : watch.post = .passing pass) (shape : pass.quiet = .done outcome) :
      Move parse settings idle watch { watch with
        post := .busy (conclusion settings outcome)
        history := (watch.now, .ended outcome) :: watch.history }
  | asks {watch : Watch K τ R} {program : InLoop τ R Unit} {call : Wake.Call}
      {rest : call.Reply → InLoop τ R Unit} (busy : watch.post = .busy program)
      (shape : program.quiet = .call (.inr call) rest) :
      Move parse settings idle watch
        { (watch.serve call).2 with post := .busy (rest (watch.serve call).1) }
  | parks {watch : Watch K τ R} {program : InLoop τ R Unit} (busy : watch.post = .busy program)
      (shape : program.quiet = .done ()) :
      Move parse settings idle watch { watch with post := .parked }
  | takes {watch : Watch K τ R} {wake : WakeSignal} (parked : watch.post = .parked)
      (taken : watch.wake.take? = some wake) :
      Move parse settings idle watch { watch with
        post := .passing (runPass parse settings)
        wake := wake
        history := (watch.now, .began watch.isWoken) :: watch.history }
  | waits {watch : Watch K τ R} (parked : watch.post = .parked)
      (nothing : watch.wake.take? = none) :
      Move parse settings idle watch { watch with wake := watch.wake.wait }
  /-- The loop was told to shut down, and gives back a signal that has woken it. -/
  | stops {watch : Watch K τ R} (parked : watch.post = .parked) :
      Move parse settings idle watch { watch with post := .gone, wake := watch.wake.leave }
  /-- A caller gives a signal. -/
  | notifies (watch : Watch K τ R) : Move parse settings idle watch (watch.signal .caller)
  /-- The timer of the start gives its signal. -/
  | rings {watch : Watch K τ R} {due : K} (before behind : List (Alarm × K))
      (set : watch.alarms = before ++ (.timer, due) :: behind) (late : due ≤ watch.now) :
      Move parse settings idle watch { watch.signal .timer with alarms := before ++ behind }
  /-- The retry probe wakes up, and may be armed again. -/
  | fires {watch : Watch K τ R} {due : K} (before behind : List (Alarm × K))
      (set : watch.alarms = before ++ (.probe, due) :: behind) (late : due ≤ watch.now) :
      Move parse settings idle watch { watch with
        wake := watch.wake.disarm
        alarms := before ++ (.rung, due) :: behind
        history := (watch.now, .fired) :: watch.history }
  /-- The retry probe that woke up gives its signal. -/
  | probes {watch : Watch K τ R} {due : K} (before behind : List (Alarm × K))
      (set : watch.alarms = before ++ (.rung, due) :: behind) :
      Move parse settings idle watch { watch.signal .probe with alarms := before ++ behind }
  | passes {watch : Watch K τ R} {now : K} (later : watch.now ≤ now) (idles : idle watch) :
      Move parse settings idle watch { watch with now := now }

/-- A watch that can come about from a loop that was not started. -/
def Reachable (parse : List Entry → Program R Nat) (settings : Settings)
    (idle : Watch K τ R → Prop) (watch : Watch K τ R) : Prop :=
  ∃ now, Relation.ReflTransGen (Move parse settings idle) (fresh now) watch

end Time

section Phases

variable [Add K] [NatCast K] [LE K] {parse : List Entry → Program R Nat} {settings : Settings}
variable {idle : Watch K τ R → Prop} {watch watch' : Watch K τ R}

/-- A loop that is followed by its posts does what its phases allow. -/
theorem Move.phase_cases (move : Move parse settings idle watch watch') :
    (watch.post.phase settings = .fresh ∧
      watch'.post.phase settings = .busy (startUp settings)) ∨
    (∃ program made rest reply, watch.post.phase settings = .busy program ∧
      program.quiet = .call made rest ∧ watch'.post.phase settings = .busy (rest reply)) ∨
    (∃ program program', watch.post.phase settings = .busy program ∧
      watch'.post.phase settings = .busy program' ∧ program.quiet = program'.quiet) ∨
    (∃ program, watch.post.phase settings = .busy program ∧ program.quiet = .done () ∧
      watch'.post.phase settings = .parked) ∨
    (watch.post.phase settings = .parked ∧
      watch'.post.phase settings = .busy (turn parse settings)) ∨
    (watch.post.phase settings = .parked ∧ watch'.post.phase settings = .ended) ∨
    watch'.post = watch.post := by
  cases move with
  | starts fresh => exact .inl ⟨congrArg (Post.phase settings) fresh, rfl⟩
  | @calls pass call _ passing shape reply =>
      exact .inr (.inl ⟨_, Sum.inl call, _, reply, congrArg (Post.phase settings) passing,
        quiet_passing_call shape _, rfl⟩)
  | @asks program call _ busy shape =>
      exact .inr (.inl ⟨program, Sum.inr call, _, _, congrArg (Post.phase settings) busy,
        shape, rfl⟩)
  | ends passing shape =>
      exact .inr (.inr (.inl ⟨_, _, congrArg (Post.phase settings) passing, rfl,
        quiet_passing_done shape _⟩))
  | parks busy shape =>
      exact .inr (.inr (.inr (.inl ⟨_, congrArg (Post.phase settings) busy, shape, rfl⟩)))
  | takes parked taken =>
      exact .inr (.inr (.inr (.inr (.inl ⟨congrArg (Post.phase settings) parked, rfl⟩))))
  | stops parked =>
      exact .inr (.inr (.inr (.inr (.inr (.inl ⟨congrArg (Post.phase settings) parked, rfl⟩)))))
  | waits | notifies | rings | fires | probes | passes =>
      exact .inr (.inr (.inr (.inr (.inr (.inr rfl)))))

end Phases

end Watch

/-! ## What a loop does next -/

/-- Whether an occurrence is something that the loop does itself. -/
def Occurrence.isOwn : Occurrence → Bool
  | .began _ | .ended _ | .armed _ => true
  | .signalled .. | .fired => false

/-- What a loop did last. -/
def latest {K : Type} (history : List (K × Occurrence)) : Option Occurrence :=
  (history.map Prod.snd).find? Occurrence.isOwn

/-- Whether a loop may begin a pass, by what it did last. -/
def Calm : Option Occurrence → Prop
  | none | some (.armed _) => True
  | some (.ended outcome) => outcome.needsRetry = false
  | _ => False

/-- What a loop may do, by what it did last. -/
def Occurrence.Follows : Occurrence → Option Occurrence → Prop
  | .began _, last => Calm last
  | .ended _, last => ∃ woken, last = some (.began woken)
  | .armed _, last => ∃ outcome, last = some (.ended outcome) ∧ outcome.needsRetry = true
  | .signalled .., _ | .fired, _ => True

/-- Where a loop stands, and whether it listens, by what it did last. -/
inductive Poised {τ : Type} {R : Interface} (settings : Settings) :
    Post τ R → Listener → Option Occurrence → Prop
  | fresh : Poised settings .fresh .away none
  | starting : Poised settings (.busy (startUp settings)) .away none
  | settled {program : InLoop τ R Unit} {last : Option Occurrence}
      (shape : program.quiet = .done ()) (calm : Calm last) :
      Poised settings (.busy program) .away last
  | parked (listener : Listener) {last : Option Occurrence} (calm : Calm last) :
      Poised settings .parked listener last
  | passing (pass : OnOutbox τ R Outcome) (woken : Bool) :
      Poised settings (.passing pass) .away (some (.began woken))
  | concluding (outcome : Outcome) :
      Poised settings (.busy (conclusion settings outcome)) .away (some (.ended outcome))
  | gone {last : Option Occurrence} (calm : Calm last) : Poised settings .gone .away last

namespace Poised

variable {τ : Type} {R : Interface} {settings : Settings} {post : Post τ R}
variable {listener : Listener} {last : Option Occurrence} {program : InLoop τ R Unit}

/-- All that a loop asks of its wake signal. -/
theorem of_asks {call : Wake.Call} {rest : call.Reply → InLoop τ R Unit}
    (poised : Poised settings (.busy program) listener last)
    (shape : program.quiet = .call (.inr call) rest) :
    listener = .away ∧ (∀ reply, (rest reply).quiet = .done ()) ∧
      ((call = .notifyAfter settings.startupDelay ∧ last = none) ∨
        (∃ outcome, call = .armProbe settings.retryDelay ∧ last = some (.ended outcome) ∧
          outcome.needsRetry = true)) := by
  cases poised with
  | starting =>
      cases shape
      exact ⟨rfl, fun _ => rfl, .inl ⟨rfl, rfl⟩⟩
  | settled done =>
      rw [done] at shape
      cases shape
  | concluding outcome =>
      unfold conclusion at shape
      cases retry : outcome.needsRetry with
      | false =>
          rw [retry] at shape
          cases shape
      | true =>
          rw [retry] at shape
          cases shape
          refine ⟨rfl, fun reply => ?_, .inr ⟨outcome, rfl, rfl, retry⟩⟩
          cases reply <;> rfl

/-- A loop that has nothing left to do may begin a pass. -/
theorem of_done (poised : Poised settings (.busy program) listener last)
    (shape : program.quiet = .done ()) : Calm last := by
  cases poised with
  | starting => cases shape
  | settled _ calm => exact calm
  | concluding outcome =>
      unfold conclusion at shape
      cases retry : outcome.needsRetry with
      | false => exact retry
      | true =>
          rw [retry] at shape
          cases shape

theorem of_parked (poised : Poised settings post listener last) (parked : post = .parked) :
    Calm last := by
  subst parked
  cases poised with
  | parked _ calm => exact calm

theorem of_passing {pass : OnOutbox τ R Outcome} (poised : Poised settings post listener last)
    (passing : post = .passing pass) :
    listener = .away ∧ ∃ woken, last = some (.began woken) := by
  subst passing
  cases poised with
  | passing _ woken => exact ⟨rfl, woken, rfl⟩

/-- Only a parked loop listens. -/
theorem listener_eq (poised : Poised settings post listener last) (apart : post ≠ .parked) :
    listener = .away := by
  cases poised with
  | parked => exact absurd rfl apart
  | _ => rfl

/-- A signal does not stir a loop that is not parked. -/
theorem notify {wake : WakeSignal} (poised : Poised settings post wake.listener last) :
    Poised settings post wake.notify.listener last := by
  by_cases parked : post = .parked
  · subst parked
    exact .parked _ (poised.of_parked rfl)
  · have away := poised.listener_eq parked
    rw [WakeSignal.notify_of_away away]
    exact poised

end Poised

namespace Watch

section Moves

variable {K τ : Type} {R : Interface} [Add K] [NatCast K] {settings : Settings}
variable {watch watch' : Watch K τ R}

/-- Where the loop stands fits what it did last. -/
def IsPoised (settings : Settings) (watch : Watch K τ R) : Prop :=
  Poised settings watch.post watch.wake.listener (latest watch.history)

/-- What a loop asks of its wake signal, and how it is answered. -/
theorem IsPoised.serve_cases {program : InLoop τ R Unit} {call : Wake.Call}
    {rest : call.Reply → InLoop τ R Unit} (poised : watch.IsPoised settings)
    (busy : watch.post = .busy program) (shape : program.quiet = .call (.inr call) rest) :
    (∀ reply, (rest reply).quiet = .done ()) ∧
      ((call = .notifyAfter settings.startupDelay ∧ latest watch.history = none ∧
        (watch.serve call).2 = { watch with
          alarms := (.timer, watch.now + settings.startupDelay) :: watch.alarms }) ∨
      (∃ outcome, latest watch.history = some (.ended outcome) ∧ outcome.needsRetry = true ∧
        ((watch.wake.probeArmed = true ∧
          (watch.serve call).2 = { watch with
            history := (watch.now, .armed false) :: watch.history }) ∨
        (watch.wake.probeArmed = false ∧
          (watch.serve call).2 = { watch with
            wake := watch.wake.arm.2
            alarms := (.probe, watch.now + settings.retryDelay) :: watch.alarms
            history := (watch.now, .armed true) :: watch.history })))) := by
  unfold IsPoised at poised
  rw [busy] at poised
  obtain ⟨-, rest_done, ⟨rfl, last⟩ | ⟨outcome, rfl, last, retry⟩⟩ := poised.of_asks shape
  · exact ⟨rest_done, .inl ⟨rfl, last, rfl⟩⟩
  · refine ⟨rest_done, .inr ⟨outcome, last, retry, ?_⟩⟩
    cases armed : watch.wake.probeArmed with
    | true => exact .inl ⟨rfl, congrArg Prod.snd (serve_armProbe_of_armed armed _)⟩
    | false => exact .inr ⟨rfl, congrArg Prod.snd (serve_armProbe armed _)⟩

variable [LE K] {parse : List Entry → Program R Nat} {idle : Watch K τ R → Prop}

theorem Move.isPoised (move : Move parse settings idle watch watch')
    (poised : watch.IsPoised settings) :
    watch'.IsPoised settings := by
  unfold IsPoised
  cases move with
  | starts fresh =>
      unfold IsPoised at poised
      show Poised settings _ watch.wake.listener (latest watch.history)
      rw [fresh] at poised
      generalize watch.wake.listener = listener, latest watch.history = last at poised ⊢
      cases poised
      exact .starting
  | calls passing shape reply =>
      obtain ⟨away, woken, last⟩ := Poised.of_passing poised passing
      rw [away, last]
      exact .passing _ woken
  | ends passing shape =>
      rw [(Poised.of_passing poised passing).1]
      exact .concluding _
  | asks busy shape =>
      have away : watch.wake.listener = .away := Poised.listener_eq poised (by simp [busy])
      obtain ⟨rest_done, ⟨-, last, served⟩ | ⟨outcome, -, -, ⟨-, served⟩ | ⟨-, served⟩⟩⟩ :=
        poised.serve_cases busy shape
      · rw [served]
        show Poised settings _ watch.wake.listener (latest watch.history)
        rw [away]
        exact .settled (rest_done _) (by rw [last]; trivial)
      · rw [served]
        show Poised settings _ watch.wake.listener (some (.armed false))
        rw [away]
        exact .settled (rest_done _) trivial
      · rw [served]
        show Poised settings _ watch.wake.listener (some (.armed true))
        rw [away]
        exact .settled (rest_done _) trivial
  | parks busy shape =>
      unfold IsPoised at poised
      rw [busy] at poised
      exact .parked _ (poised.of_done shape)
  | takes parked taken =>
      rw [WakeSignal.listener_of_take? taken]
      exact .passing _ _
  | waits parked nothing =>
      show Poised settings watch.post .waiting (latest watch.history)
      rw [parked]
      exact .parked _ (Poised.of_parked poised parked)
  | stops parked =>
      rw [WakeSignal.listener_leave]
      exact .gone (Poised.of_parked poised parked)
  | notifies => exact Poised.notify poised
  | rings => exact Poised.notify poised
  | fires => exact poised
  | probes => exact Poised.notify poised
  | passes => exact poised

/-- Whatever a loop does follows what it did last. -/
theorem Move.follows (move : Move parse settings idle watch watch')
    (poised : watch.IsPoised settings)
    (follows : Throughout (fun done past => done.2.Follows (latest past)) watch.history) :
    Throughout (fun done past => done.2.Follows (latest past)) watch'.history := by
  cases move with
  | starts | calls | parks | waits | stops | passes => exact follows
  | notifies | rings | fires | probes => exact ⟨trivial, follows⟩
  | ends passing shape => exact ⟨(Poised.of_passing poised passing).2, follows⟩
  | takes parked taken => exact ⟨Poised.of_parked poised parked, follows⟩
  | asks busy shape =>
      obtain ⟨-, ⟨-, -, served⟩ | ⟨outcome, last, retry, ⟨-, served⟩ | ⟨-, served⟩⟩⟩ :=
        poised.serve_cases busy shape
      · rw [served]
        exact follows
      · rw [served]
        exact ⟨⟨outcome, last, retry⟩, follows⟩
      · rw [served]
        exact ⟨⟨outcome, last, retry⟩, follows⟩

theorem Reachable.move (reachable : Reachable parse settings idle watch)
    (move : Move parse settings idle watch watch') :
    Reachable parse settings idle watch' := by
  obtain ⟨now, run⟩ := reachable
  exact ⟨now, run.tail move⟩

theorem Reachable.trans (reachable : Reachable parse settings idle watch)
    (run : Relation.ReflTransGen (Move parse settings idle) watch watch') :
    Reachable parse settings idle watch' := by
  obtain ⟨now, begun⟩ := reachable
  exact ⟨now, begun.trans run⟩

theorem Reachable.isPoised (reachable : Reachable parse settings idle watch) :
    watch.IsPoised settings := by
  obtain ⟨now, run⟩ := reachable
  induction run with
  | refl => exact .fresh
  | tail _ move ih => exact move.isPoised ih

/-- What holds at first, and is kept by each step of a loop that is poised, always holds. -/
theorem Reachable.of_moves (reachable : Reachable parse settings idle watch)
    (property : Watch K τ R → Prop) (initial : ∀ now, property (fresh now))
    (kept : ∀ watch watch', Move parse settings idle watch watch' → watch.IsPoised settings →
      property watch → property watch') :
    property watch := by
  obtain ⟨now, run⟩ := reachable
  induction run with
  | refl => exact initial now
  | tail run move ih => exact kept _ _ move (Reachable.isPoised ⟨now, run⟩) ih

theorem Reachable.follows (reachable : Reachable parse settings idle watch) :
    Throughout (fun done past => done.2.Follows (latest past)) watch.history := by
  refine reachable.of_moves (fun watch =>
    Throughout (fun done past => done.2.Follows (latest past)) watch.history)
      (fun _ => trivial) ?_
  exact fun _ _ move poised follows => move.follows poised follows

end Moves

end Watch

end Dispatch
end OutboxRelay
