import OutboxRelay.Proofs.Dispatch.Performance
import OutboxRelay.Proofs.Dispatch.Rate

/-!
# Shutdown of a dispatch loop

A loop may be told to shut down at any time: before it starts, while it waits, in a pass, or when
it was woken.  It heeds this where it parks.  If there is a signal as well, it may take the signal
first and begin one more pass.

**Rules.**
* A parked loop returns only if it was told to shut down.
* Who was told to shut down does not begin to wait for a signal.
* The outbox and the vulnerability database may answer the calls of a pass in any way, and as late
  as they like.

**Results.**
* `Reachable.isComposed`: the calls of a loop are those of whole passes and of the one under way.
* `Reachable.heedsShutdown`: a loop returns between passes, and does nothing behind that.
* `exists_pass_behind_shutdown`: a pass may begin behind the shutdown, and a lock may stay held.
-/

namespace OutboxRelay
namespace Dispatch

open Store (TransactionId)

/-! ## Steps in and out of passes -/

/-- Whether a loop stands in a pass. -/
def Post.IsPassing {τ : Type} {R : Interface} : Post τ R → Prop
  | .passing _ => True
  | _ => False

/-- How many passes a loop has begun. -/
def begun {K : Type} (history : List (K × Occurrence)) : Nat :=
  history.countP fun done => done.2.begins

/-- What happens that begins no pass does not count. -/
theorem begun_cons {K : Type} {occurrence : Occurrence} (other : occurrence.begins = false)
    (time : K) (history : List (K × Occurrence)) :
    begun ((time, occurrence) :: history) = begun history := by
  exact List.countP_cons_of_neg (by simp [other])

section Steps

variable {K τ : Type} {R : Interface} [Add K] [NatCast K] [LE K]
variable {parse : List Entry → Program R Nat} {settings : Settings}
variable {idle : Watch K τ R → Prop} {watch watch' : Watch K τ R}

/-- What a step of a loop does to its passes. -/
theorem Watch.Move.pass_cases (move : Move parse settings idle watch watch')
    (poised : watch.IsPoised settings) :
    (watch'.post = watch.post ∧ begun watch'.history = begun watch.history) ∨
    (¬ watch.post.IsPassing ∧ ¬ watch'.post.IsPassing ∧
      begun watch'.history = begun watch.history) ∨
    (∃ pass made rest reply, watch.post = .passing pass ∧ pass.quiet = .call made rest ∧
      watch' = { watch with post := .passing (rest reply) }) ∨
    (∃ pass outcome, watch.post = .passing pass ∧ pass.quiet = .done outcome ∧
      ¬ watch'.post.IsPassing ∧ begun watch'.history = begun watch.history) ∨
    (watch.post = .parked ∧ watch'.post = .passing (runPass parse settings) ∧
      begun watch'.history = begun watch.history + 1) := by
  cases move with
  | waits | passes => exact .inl ⟨rfl, rfl⟩
  | notifies | rings | fires | probes => exact .inl ⟨rfl, begun_cons rfl _ _⟩
  | starts fresh =>
      rw [fresh]
      exact .inr (.inl ⟨id, id, rfl⟩)
  | parks busy shape =>
      rw [busy]
      exact .inr (.inl ⟨id, id, rfl⟩)
  | stops parked =>
      rw [parked]
      exact .inr (.inl ⟨id, id, rfl⟩)
  | @asks _ call _ busy shape =>
      have begun_eq : begun (watch.serve call).2.history = begun watch.history := by
        obtain ⟨-, ⟨-, -, served⟩ | ⟨outcome, -, -, ⟨-, served⟩ | ⟨-, served⟩⟩⟩ :=
          poised.serve_cases busy shape
        · rw [served]
        · rw [served]
          exact begun_cons rfl _ _
        · rw [served]
          exact begun_cons rfl _ _
      rw [busy]
      exact .inr (.inl ⟨id, id, begun_eq⟩)
  | calls passing shape reply =>
      exact .inr (.inr (.inl ⟨_, _, _, reply, passing, shape, rfl⟩))
  | ends passing shape =>
      exact .inr (.inr (.inr (.inl ⟨_, _, passing, shape, id, begun_cons rfl _ _⟩)))
  | takes parked taken =>
      exact .inr (.inr (.inr (.inr ⟨parked, rfl, List.countP_cons_of_pos rfl⟩)))

/-- A parked loop stays so, takes a signal that is there, or returns. -/
theorem Watch.Move.of_parked (move : Move parse settings idle watch watch')
    (parked : watch.post = .parked) :
    watch'.post = .parked ∨
    (watch'.post = .passing (runPass parse settings) ∧ watch.wake.take? = some watch'.wake) ∨
    watch'.post = .gone := by
  cases move with
  | waits | notifies | rings | fires | probes | passes => exact .inl parked
  | takes _ taken => exact .inr (.inl ⟨rfl, taken⟩)
  | stops => exact .inr (.inr rfl)
  | starts other | calls other | ends other | asks other | parks other =>
      rw [parked] at other
      cases other

/-- A loop returns where it parks. -/
theorem Watch.Move.parked_of_gone (move : Move parse settings idle watch watch')
    (here : watch.post ≠ .gone) (gone : watch'.post = .gone) :
    watch.post = .parked := by
  cases move with
  | stops parked => exact parked
  | waits | notifies | rings | fires | probes | passes => exact absurd gone here
  | starts | calls | ends | asks | parks | takes => cases gone

/-- A loop that has returned stays so, and begins no pass. -/
theorem Watch.Move.gone (move : Move parse settings idle watch watch')
    (gone : watch.post = .gone) :
    watch'.post = .gone ∧ begun watch'.history = begun watch.history := by
  cases move with
  | passes => exact ⟨gone, rfl⟩
  | notifies | rings | fires | probes => exact ⟨gone, begun_cons rfl _ _⟩
  | starts other | parks other | stops other | asks other | calls other | ends other
  | takes other | waits other =>
      rw [gone] at other
      cases other

end Steps

/-! ## Loops that may be told to shut down -/

/-- A dispatch loop from its start to its return. -/
structure Tenure (K : Type) where
  watch : Watch K TransactionId Downstream.interface
  /-- Whether the loop was told to shut down. -/
  isTold : Bool
  /-- The calls that its passes made, each with its reply, the first one first. -/
  calls : List Act

namespace Tenure

/-- A loop that was neither started nor told anything. -/
def fresh {K : Type} (now : K) : Tenure K :=
  ⟨.fresh now, false, []⟩

section Moves

variable {K : Type} [Add K] [NatCast K] [LE K]
variable (settings : Settings) (idle : Watch K TransactionId Downstream.interface → Prop)

/-- What can happen next to a loop that may be told to shut down. -/
inductive Move : Tenure K → Tenure K → Prop
  | tells (tenure : Tenure K) : Move tenure { tenure with isTold := true }
  /-- Its pass makes a call, which may be answered in any way. -/
  | calls {tenure : Tenure K} {pass : OnOutbox TransactionId Downstream.interface Outcome}
      {made : (interface TransactionId Downstream.interface).Call}
      {rest : (interface TransactionId Downstream.interface).Reply made →
        OnOutbox TransactionId Downstream.interface Outcome}
      (passing : tenure.watch.post = .passing pass) (shape : pass.quiet = .call made rest)
      (reply : (interface TransactionId Downstream.interface).Reply made) :
      Move tenure { tenure with
        watch := { tenure.watch with post := .passing (rest reply) }
        calls := tenure.calls ++ [.ofCall made reply] }
  /-- Anything else happens that may happen to a loop, unless the shutdown is against it. -/
  | goes {tenure : Tenure K} {watch : Watch K TransactionId Downstream.interface}
      (move : Watch.Move Replay.parse settings idle tenure.watch watch)
      (silent : ∀ pass pass', tenure.watch.post = .passing pass → watch.post = .passing pass' →
        pass' = pass)
      (returns : watch.post = .gone → tenure.watch.post = .gone ∨ tenure.isTold = true)
      (waits : tenure.isTold = true → watch.wake.listener = .waiting →
        tenure.watch.wake.listener = .waiting) :
      Move tenure { tenure with watch := watch }

/-- A loop can become another one. -/
abbrev Run : Tenure K → Tenure K → Prop :=
  Relation.ReflTransGen (Move settings idle)

/-- A loop that can come about from one that was not started. -/
def Reachable (tenure : Tenure K) : Prop :=
  ∃ now, Run settings idle (fresh now) tenure

variable {settings idle} {tenure after : Tenure K}

/-- A loop that may be told to shut down does what a loop may do, or stays as it is. -/
theorem Move.watch_cases (move : Move settings idle tenure after) :
    after.watch = tenure.watch ∨
      Watch.Move Replay.parse settings idle tenure.watch after.watch := by
  cases move with
  | tells => exact .inl rfl
  | calls passing shape reply => exact .inr (.calls passing shape reply)
  | goes move => exact .inr move

theorem Run.watch (run : Run settings idle tenure after) :
    Relation.ReflTransGen (Watch.Move Replay.parse settings idle) tenure.watch after.watch := by
  induction run with
  | refl => exact .refl
  | tail _ move ih =>
      rcases move.watch_cases with same | moved
      · rwa [same]
      · exact ih.tail moved

theorem Reachable.watch (reachable : Reachable settings idle tenure) :
    tenure.watch.Reachable Replay.parse settings idle := by
  obtain ⟨now, run⟩ := reachable
  exact ⟨now, run.watch⟩

end Moves

end Tenure

/-! ## What the passes of a loop have done -/

section Composed

variable {settings : Settings} {post post' : Post TransactionId Downstream.interface}
variable {pass : OnOutbox TransactionId Downstream.interface Outcome}
variable {passes : List Performance} {calls : List Act} {count : Nat}

/--
The calls of a loop that stands somewhere, and has begun so many passes, are those of whole
passes, and of the pass that it is in, which goes on like that.
-/
inductive Composed (settings : Settings) :
    Post TransactionId Downstream.interface → Nat → List Act → Prop
  | between {post : Post TransactionId Downstream.interface} {passes : List Performance}
      (apart : ¬ post.IsPassing)
      (recounted : ∀ pass ∈ passes, Recounted settings pass.outcome pass.acts) :
      Composed settings post passes.length (passes.flatMap Performance.calls)
  | within {pass : OnOutbox TransactionId Downstream.interface Outcome}
      {passes : List Performance} {done : List Act}
      (recounted : ∀ pass ∈ passes, Recounted settings pass.outcome pass.acts)
      (ends : pass.Ensures performs (fun _ => True)
        (fun outcome done => ∃ acts, done = callsOf acts ∧ Recounted settings outcome acts) done) :
      Composed settings (.passing pass) (passes.length + 1)
        (passes.flatMap Performance.calls ++ done)

namespace Composed

theorem fresh (settings : Settings) : Composed settings .fresh 0 [] := by
  have none : ∀ pass ∈ ([] : List Performance), Recounted settings pass.outcome pass.acts := nofun
  exact .between id none

theorem move (composed : Composed settings post count calls) (apart : ¬ post.IsPassing)
    (apart' : ¬ post'.IsPassing) :
    Composed settings post' count calls := by
  cases composed with
  | between _ recounted => exact .between apart' recounted
  | within => exact absurd trivial apart

theorem begin (composed : Composed settings post count calls) (apart : ¬ post.IsPassing) :
    Composed settings (.passing (runPass Replay.parse settings)) (count + 1) calls := by
  cases composed with
  | @between _ passes _ recounted =>
      rw [← List.append_nil (passes.flatMap Performance.calls)]
      exact .within recounted (performs_runPass [])
  | within => exact absurd trivial apart

theorem call {made : (interface TransactionId Downstream.interface).Call}
    {rest : (interface TransactionId Downstream.interface).Reply made →
      OnOutbox TransactionId Downstream.interface Outcome}
    (composed : Composed settings (.passing pass) count calls)
    (shape : pass.quiet = .call made rest)
    (reply : (interface TransactionId Downstream.interface).Reply made) :
    Composed settings (.passing (rest reply)) count (calls ++ [.ofCall made reply]) := by
  cases composed with
  | between apart => exact absurd trivial apart
  | within recounted ends =>
      rw [List.append_assoc]
      exact .within recounted (ends.of_call shape rfl)

/-- A pass that has ended is one more whole pass. -/
theorem finish {outcome : Outcome} (composed : Composed settings (.passing pass) count calls)
    (shape : pass.quiet = .done outcome) (apart : ¬ post.IsPassing) :
    Composed settings post count calls := by
  cases composed with
  | between apart => exact absurd trivial apart
  | @within _ passes _ recounted ends =>
      obtain ⟨acts, rfl, last⟩ := ends.of_done shape
      have recounted : ∀ pass ∈ passes ++ [⟨acts, outcome⟩],
          Recounted settings pass.outcome pass.acts :=
        List.forall_mem_append.mpr ⟨recounted, List.forall_mem_singleton.mpr last⟩
      simpa [Performance.calls] using Composed.between apart recounted

end Composed

end Composed

namespace Tenure

section Runs

variable {K : Type} [Add K] [NatCast K] [LE K] {settings : Settings}
variable {idle : Watch K TransactionId Downstream.interface → Prop} {tenure after : Tenure K}

/-- The calls of a loop are those of its passes. -/
def IsComposed (settings : Settings) (tenure : Tenure K) : Prop :=
  Composed settings tenure.watch.post (begun tenure.watch.history) tenure.calls

theorem Move.isComposed (move : Move settings idle tenure after)
    (poised : tenure.watch.IsPoised settings) (composed : tenure.IsComposed settings) :
    after.IsComposed settings := by
  unfold IsComposed at composed ⊢
  cases move with
  | tells => exact composed
  | calls passing shape reply =>
      rw [passing] at composed
      exact composed.call shape reply
  | @goes watch move silent returns waits =>
      show Composed settings watch.post (begun watch.history) tenure.calls
      rcases move.pass_cases poised with ⟨post_eq, begun_eq⟩ | ⟨apart, apart', begun_eq⟩ |
        ⟨pass, made, rest, reply, passing, -, rfl⟩ |
        ⟨pass, outcome, passing, shape, apart, begun_eq⟩ | ⟨parked, post_eq, begun_eq⟩
      · rw [post_eq, begun_eq]
        exact composed
      · rw [begun_eq]
        exact composed.move apart apart'
      · -- The pass has not gone on, since its calls are told apart.
        rw [passing] at composed
        rw [silent _ _ passing rfl]
        exact composed
      · rw [passing] at composed
        rw [begun_eq]
        exact composed.finish shape apart
      · rw [post_eq, begun_eq]
        exact composed.begin (by rw [parked]; exact id)

/-- Who was told to shut down remains so. -/
theorem Move.isTold (move : Move settings idle tenure after) (told : tenure.isTold = true) :
    after.isTold = true := by
  cases move with
  | tells => rfl
  | calls | goes => exact told

theorem Move.returns (move : Move settings idle tenure after) (here : tenure.watch.post ≠ .gone)
    (gone : after.watch.post = .gone) :
    tenure.isTold = true ∧ tenure.watch.post = .parked := by
  cases move with
  | tells => exact absurd gone here
  | calls => cases gone
  | goes move silent returns waits =>
      exact ⟨(returns gone).resolve_left here, move.parked_of_gone here gone⟩

/-- A loop that was told to shut down does what a loop does where it parks. -/
theorem Move.of_parked (move : Move settings idle tenure after)
    (parked : tenure.watch.post = .parked) :
    after.watch.post = .parked ∨
    (after.watch.post = .passing (runPass Replay.parse settings) ∧
      tenure.watch.wake.take? = some after.watch.wake) ∨
    (after.watch.post = .gone ∧ tenure.isTold = true) := by
  cases move with
  | tells => exact .inl parked
  | calls other =>
      rw [parked] at other
      cases other
  | goes move silent returns waits =>
      rcases move.of_parked parked with stays | begins | gone
      · exact .inl stays
      · exact .inr (.inl begins)
      · refine .inr (.inr ⟨gone, (returns gone).resolve_left ?_⟩)
        rw [parked]
        exact nofun

/-- Who was told to shut down does not begin to wait. -/
theorem Move.waiting (move : Move settings idle tenure after) (told : tenure.isTold = true)
    (waiting : after.watch.wake.listener = .waiting) :
    tenure.watch.wake.listener = .waiting := by
  cases move with
  | tells | calls => exact waiting
  | goes move silent returns waits => exact waits told waiting

/-- Where a loop parks it goes on with its response to a signal, or to the shutdown. -/
theorem Move.responds (move : Move settings idle tenure after)
    (parked : tenure.watch.post = .parked) :
    after.watch.post = .parked ∨
    (after.watch.post.phase settings =
        .busy (Stimulus.signal.response Replay.parse settings).1 ∧
      tenure.watch.wake.take? = some after.watch.wake) ∨
    (after.watch.post = .gone ∧ tenure.isTold = true ∧
      (Stimulus.shutdown.response Replay.parse settings :
        InLoop TransactionId Downstream.interface Unit × Bool).1.quiet = .done ()) := by
  rcases move.of_parked parked with stays | ⟨begins, taken⟩ | ⟨gone, told⟩
  · exact .inl stays
  · refine .inr (.inl ⟨?_, taken⟩)
    rw [begins]
    exact congrArg Phase.busy (turn_eq Replay.parse settings).symm
  · exact .inr (.inr ⟨gone, told, rfl⟩)

/-- A loop that has returned makes no call and begins no pass, whatever signals there are. -/
theorem Move.gone (move : Move settings idle tenure after) (gone : tenure.watch.post = .gone) :
    after.watch.post = .gone ∧ after.calls = tenure.calls ∧
      begun after.watch.history = begun tenure.watch.history := by
  cases move with
  | tells => exact ⟨gone, rfl, rfl⟩
  | calls other =>
      rw [gone] at other
      cases other
  | goes move =>
      obtain ⟨gone, begun_eq⟩ := move.gone gone
      exact ⟨gone, rfl, begun_eq⟩

theorem Run.isTold (run : Run settings idle tenure after) (told : tenure.isTold = true) :
    after.isTold = true := by
  induction run with
  | refl => exact told
  | tail _ move ih => exact move.isTold ih

theorem Run.gone (run : Run settings idle tenure after) (gone : tenure.watch.post = .gone) :
    after.watch.post = .gone ∧ after.calls = tenure.calls ∧
      begun after.watch.history = begun tenure.watch.history := by
  induction run with
  | refl => exact ⟨gone, rfl, rfl⟩
  | tail _ move ih =>
      obtain ⟨gone, calls_eq, begun_eq⟩ := ih
      obtain ⟨gone, calls_eq', begun_eq'⟩ := move.gone gone
      exact ⟨gone, calls_eq'.trans calls_eq, begun_eq'.trans begun_eq⟩

/-- The calls of a loop are those of whole passes, and of the one that is under way. -/
theorem Reachable.isComposed (reachable : Reachable settings idle tenure) :
    tenure.IsComposed settings := by
  obtain ⟨now, run⟩ := reachable
  induction run with
  | refl => exact .fresh settings
  | tail run move ih => exact move.isComposed (Reachable.watch ⟨now, run⟩).isPoised ih

/-- Outside of passes, all that a loop has done are whole passes. -/
theorem Reachable.exists_performances (reachable : Reachable settings idle tenure)
    (apart : ¬ tenure.watch.post.IsPassing) :
    ∃ passes : List Performance, passes.length = begun tenure.watch.history ∧
      tenure.calls = passes.flatMap Performance.calls ∧
      ∀ pass ∈ passes, pass.IsWhole settings := by
  have composed := reachable.isComposed
  unfold IsComposed at composed
  generalize tenure.watch.post = post, begun tenure.watch.history = count,
    tenure.calls = calls at composed apart ⊢
  cases composed with
  | between _ recounted =>
      exact ⟨_, rfl, rfl, fun pass member => pass.isWhole (recounted pass member)⟩
  | within => exact absurd trivial apart

end Runs

/-! ## Loops that are told to shut down -/

/-- What is true of a loop that may be told to shut down. -/
structure HeedsShutdown {K : Type} [Add K] [NatCast K] [Preorder K] (settings : Settings)
    (idle : Watch K TransactionId Downstream.interface → Prop) (tenure : Tenure K) : Prop where
  /-- It returns only when it was told to, where it parks and so in no pass. -/
  returns : tenure.watch.post ≠ .gone → ∀ after, Move settings idle tenure after →
    after.watch.post = .gone → tenure.isTold = true ∧ tenure.watch.post = .parked
  /-- Outside of passes it has run each pass that it began to its end, and has done nothing else. -/
  whole : ¬ tenure.watch.post.IsPassing →
    ∃ passes : List Performance, passes.length = begun tenure.watch.history ∧
      tenure.calls = passes.flatMap Performance.calls ∧
      ∀ pass ∈ passes, pass.IsWhole settings
  /-- Where it parks it goes on with its response to a signal that is there, or to the shutdown. -/
  responds : tenure.watch.post = .parked → ∀ after, Move settings idle tenure after →
    after.watch.post = .parked ∨
    (after.watch.post.phase settings =
        .busy (Stimulus.signal.response Replay.parse settings).1 ∧
      tenure.watch.wake.take? = some after.watch.wake) ∨
    (after.watch.post = .gone ∧ tenure.isTold = true ∧
      (Stimulus.shutdown.response Replay.parse settings :
        InLoop TransactionId Downstream.interface Unit × Bool).1.quiet = .done ())
  /-- Once it was told it may return whenever it parks. -/
  free : tenure.isTold = true → tenure.watch.post = .parked →
    ∃ after, Move settings idle tenure after ∧ after.watch.post = .gone
  /-- Once it was told it does not begin to wait for a signal. -/
  awake : tenure.isTold = true → ∀ after, Move settings idle tenure after →
    after.watch.wake.listener = .waiting → tenure.watch.wake.listener = .waiting
  /--
  From this moment on, be it that at which it was told, the passes that it begins are paid for by
  what could begin a pass then, and by the signals since.
  -/
  paid : ∀ after, Run settings idle tenure after →
    (tenure.isTold = true → after.isTold = true) ∧
      ∃ later, Watch.Stretch tenure.watch after.watch later
  /-- Once it has returned, it makes no call and begins no pass, whatever signals there are. -/
  final : tenure.watch.post = .gone → ∀ after, Run settings idle tenure after →
    after.watch.post = .gone ∧ after.calls = tenure.calls ∧
      begun after.watch.history = begun tenure.watch.history

/-- A loop that is told to shut down returns between passes, and does nothing behind that. -/
theorem Reachable.heedsShutdown {K : Type} [Add K] [NatCast K] [Preorder K]
    {settings : Settings} {idle : Watch K TransactionId Downstream.interface → Prop}
    {tenure : Tenure K} (reachable : Reachable settings idle tenure) :
    HeedsShutdown settings idle tenure where
  returns here _ move := move.returns here
  whole := reachable.exists_performances
  responds parked _ move := move.responds parked
  free told parked :=
    ⟨_, .goes (.stops parked) (by rw [parked]; exact nofun) (fun _ => .inr told)
      (by rw [WakeSignal.listener_leave]; exact fun _ => nofun), rfl⟩
  awake told _ move := move.waiting told
  paid _ run := ⟨run.isTold, reachable.watch.exists_stretch run.watch⟩
  final gone _ run := run.gone gone

/-! ## A pass behind the shutdown -/

section Late

/-- What a loop can become when time may pass at any moment. -/
abbrev Course (tenure after : Tenure Nat) : Prop :=
  Run .default (fun _ => True) tenure after

theorem Course.goes {tenure after : Tenure Nat}
    {watch : Watch Nat TransactionId Downstream.interface} (course : Course tenure after)
    (move : Watch.Move Replay.parse .default (fun _ => True) after.watch watch)
    (silent : ∀ pass pass', after.watch.post = .passing pass → watch.post = .passing pass' →
      pass' = pass)
    (returns : watch.post = .gone → after.watch.post = .gone ∨ after.isTold = true)
    (waits : after.isTold = true → watch.wake.listener = .waiting →
      after.watch.wake.listener = .waiting) :
    Course tenure { after with watch := watch } := by
  exact course.tail (.goes move silent returns waits)

theorem Course.stores {tenure after : Tenure Nat}
    {pass : OnOutbox TransactionId Downstream.interface Outcome} (course : Course tenure after)
    (call : Outbox.Call TransactionId) (reply : Except StoreError call.Answer)
    {rest : Except StoreError call.Answer → OnOutbox TransactionId Downstream.interface Outcome}
    (passing : after.watch.post = .passing pass) (shape : pass.quiet = .call (Sum.inl call) rest) :
    Course tenure { after with
      watch := { after.watch with post := .passing (rest reply) }
      calls := after.calls ++ [.store call reply] } := by
  exact course.tail (.calls passing shape reply)

/-- A loop that was told to shut down in its first pass, when one more signal was stored. -/
def hurried : Tenure Nat :=
  ⟨⟨.passing (runPass Replay.parse .default), ⟨true, .away, false⟩, [(.timer, 5000)], 0,
    [(0, .signalled .caller false), (0, .began false), (0, .signalled .caller false)]⟩, true, []⟩

/-- The same loop, returned behind one more pass, which had no entries and could not release. -/
def late : Tenure Nat :=
  ⟨⟨.gone, ⟨false, .away, false⟩, [(.timer, 5000)], 0,
    [(0, .ended (.drained 0 0)), (0, .began false), (0, .ended .lockUnavailable),
      (0, .signalled .caller false), (0, .began false), (0, .signalled .caller false)]⟩, true,
    [.store (.tryLock 1000) (.error Outbox.Memory.failure),
      .store (.tryLock 1000) (.ok ⟨true, 0⟩), .store .entries (.ok []),
      .store (.release (some ⟨true, 0⟩)) (.error Outbox.Memory.failure)]⟩

theorem reachable_hurried : Reachable .default (fun _ => True) hurried := by
  have fresh : Course (.fresh 0) (.fresh 0) := .refl
  have started := fresh.goes (.starts rfl) nofun nofun nofun
  have asks : (startUp .default : InLoop TransactionId Downstream.interface Unit).quiet =
      .call (Sum.inr (.notifyAfter 5000)) .done := rfl
  have set := started.goes (.asks rfl asks) nofun nofun nofun
  have parked := set.goes (.parks rfl rfl) nofun nofun nofun
  have notified := parked.goes (.notifies _) nofun nofun nofun
  have begun := notified.goes (.takes rfl rfl) nofun nofun nofun
  have again := begun.goes (.notifies _) (fun _ _ here there => by cases here; cases there; rfl)
    nofun nofun
  exact ⟨0, again.tail (.tells _)⟩

theorem course_late : Course hurried late := by
  have start : Course hurried hurried := .refl
  have refused := start.stores (.tryLock 1000) (.error Outbox.Memory.failure) rfl rfl
  have ended := refused.goes (.ends rfl rfl) nofun nofun fun _ => nofun
  have parked := ended.goes (.parks rfl rfl) nofun nofun fun _ => nofun
  -- Shutdown and a signal are both there, and the signal is taken.
  have begun := parked.goes (.takes rfl rfl) nofun nofun fun _ => nofun
  have locked := begun.stores (.tryLock 1000) (.ok ⟨true, 0⟩) rfl rfl
  have read := locked.stores .entries (.ok []) rfl rfl
  have stuck := read.stores (.release (some ⟨true, 0⟩)) (.error Outbox.Memory.failure) rfl rfl
  have ended := stuck.goes (.ends rfl rfl) nofun nofun fun _ => nofun
  have parked := ended.goes (.parks rfl rfl) nofun nofun fun _ => nofun
  exact parked.goes (.stops rfl) nofun (fun _ => .inr rfl) fun _ => nofun

/--
A loop may begin a pass when it was told to shut down, and return though it holds a lock: it has
asked once for the release of that lock, which failed.
-/
theorem exists_pass_behind_shutdown :
    ∃ told after : Tenure Nat, Reachable .default (fun _ => True) told ∧ told.isTold = true ∧
      Course told after ∧ after.watch.post = .gone ∧
      begun told.watch.history < begun after.watch.history ∧
      .store (.tryLock 1000) (.ok ⟨true, 0⟩) ∈ after.calls ∧
      ∀ lock reply, .store (.release lock) reply ∈ after.calls →
        lock = some ⟨true, 0⟩ ∧ ∃ failure, reply = .error failure := by
  refine ⟨hurried, late, reachable_hurried, rfl, course_late, rfl, by decide, ?_, ?_⟩
  · exact List.mem_cons_of_mem _ List.mem_cons_self
  · rintro lock reply (_ | ⟨_, _ | ⟨_, _ | ⟨_, _ | ⟨_, ⟨⟩⟩⟩⟩⟩)
    exact ⟨rfl, _, rfl⟩

/-- A loop heeds a shutdown both when it is told in a pass and when it has returned. -/
theorem heedsShutdown_of_late_pass :
    Reachable .default (fun _ => True) hurried ∧ Reachable .default (fun _ => True) late ∧
      HeedsShutdown .default (fun _ => True) hurried ∧
      HeedsShutdown .default (fun _ => True) late := by
  have reachable_late : Reachable .default (fun _ => True) late := by
    obtain ⟨now, run⟩ := reachable_hurried
    exact ⟨now, run.trans course_late⟩
  exact ⟨reachable_hurried, reachable_late, reachable_hurried.heedsShutdown,
    reachable_late.heedsShutdown⟩

end Late

end Tenure

end Dispatch
end OutboxRelay
