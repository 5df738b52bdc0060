import OutboxRelay.Proofs.Broker
import OutboxRelay.Proofs.Dispatch.Watch

/-!
# Signals are not lost

Signals coalesce: while a loop works, any number of them leave one that is stored.  A signal
that finds the loop parked wakes it at once and is not stored, so that a second one that comes
before the loop goes on is stored and makes it begin one more pass.

**Results.**
* `Permits`: what is stored, or has woken the loop, was given since the last permit was used up.
* `Watch.Reachable.coalesced`: a loop begins a pass only by a new signal, and no signal is lost;
  a broker gives one signal behind each call that may change the outbox, and no other.
* `exists_burst`: a burst of two signals may make a parked loop begin two passes.
-/

namespace OutboxRelay
namespace Dispatch

/-! ## Histories of signals -/

section History

variable {K : Type}

/-- Whether a signal is given. -/
def Occurrence.isSignal : Occurrence → Bool
  | .signalled .. => true
  | _ => false

/-- Whether a signal is given in some part of a history. -/
def Signalled (history : List (K × Occurrence)) : Prop :=
  ∃ done ∈ history, done.2.isSignal = true

/-- What happened since a signal woke the loop at last. -/
def sinceWoken : List (K × Occurrence) → List (K × Occurrence)
  | [] => []
  | (_, .signalled _ true) :: _ => []
  | last :: past => last :: sinceWoken past

/--
What happened since the permit of the last pass was used up: the pass has taken a stored signal,
or was woken by one when it was given.
-/
def sincePermit : List (K × Occurrence) → List (K × Occurrence)
  | [] => []
  | (_, .began false) :: _ => []
  | (_, .began true) :: past => sinceWoken past
  | last :: past => last :: sincePermit past

theorem Signalled.cons {history : List (K × Occurrence)} (signalled : Signalled history)
    (last : K × Occurrence) : Signalled (last :: history) := by
  obtain ⟨done, member, signals⟩ := signalled
  exact ⟨done, List.mem_cons_of_mem _ member, signals⟩

theorem signalled_cons (time : K) (source : Source) (woke : Bool)
    (history : List (K × Occurrence)) :
    Signalled ((time, .signalled source woke) :: history) := by
  exact ⟨_, List.mem_cons_self, rfl⟩

theorem signalled_cons_iff {occurrence : Occurrence} (silent : occurrence.isSignal = false)
    {time : K} {history : List (K × Occurrence)} :
    Signalled ((time, occurrence) :: history) ↔ Signalled history := by
  refine ⟨?_, fun signalled => signalled.cons _⟩
  rintro ⟨done, member, signals⟩
  rcases List.mem_cons.mp member with rfl | member
  · rw [silent] at signals
    cases signals
  · exact ⟨done, member, signals⟩

theorem not_signalled_nil : ¬ Signalled ([] : List (K × Occurrence)) := by
  rintro ⟨done, member, -⟩
  exact List.not_mem_nil member

end History

/-! ## Signals that are stored or wake the loop -/

/-- What a wake signal holds was given lately, and what was given lately it holds. -/
structure Permits {K : Type} (wake : WakeSignal) (history : List (K × Occurrence)) : Prop where
  held : Signalled (sincePermit history) ↔ wake.stored = true ∨ wake.listener = .woken
  /-- What is stored while a loop is woken was given behind what woke the loop. -/
  held_behind : wake.listener = .woken →
    (Signalled (sinceWoken history) ↔ wake.stored = true)
  /-- While a loop waits, no signal is stored. -/
  waiting : wake.listener = .waiting → wake.stored = false

namespace Permits

variable {K : Type} {wake wake' : WakeSignal} {history : List (K × Occurrence)} {time : K}

theorem initial : Permits .quiet ([] : List (K × Occurrence)) := by
  refine ⟨⟨fun signalled => absurd signalled not_signalled_nil, ?_⟩, nofun, nofun⟩
  rintro (stored | woken)
  · cases stored
  · cases woken

/-- What concerns neither signals nor passes changes nothing. -/
theorem note (permits : Permits wake history) {occurrence : Occurrence}
    (silent : occurrence.isSignal = false) (within : occurrence.begins = false)
    (same : wake'.stored = wake.stored) (same_listener : wake'.listener = wake.listener) :
    Permits wake' ((time, occurrence) :: history) := by
  have permit_eq : sincePermit ((time, occurrence) :: history) =
      (time, occurrence) :: sincePermit history := by
    cases occurrence with
    | began => cases within
    | _ => rfl
  have woken_eq : sinceWoken ((time, occurrence) :: history) =
      (time, occurrence) :: sinceWoken history := by
    cases occurrence with
    | signalled => cases silent
    | _ => rfl
  constructor
  · rw [same, same_listener, permit_eq, signalled_cons_iff silent]
    exact permits.held
  · rw [same, same_listener, woken_eq, signalled_cons_iff silent]
    exact permits.held_behind
  · rw [same, same_listener]
    exact permits.waiting

/-- A signal wakes a loop that waits, and is stored otherwise. -/
theorem notify (permits : Permits wake history) (source : Source) :
    Permits wake.notify
      ((time, .signalled source (wake.listener == .waiting)) :: history) := by
  obtain ⟨stored, listener, probeArmed⟩ := wake
  cases listener with
  | waiting =>
      obtain rfl : stored = false := permits.waiting rfl
      constructor
      · exact ⟨fun _ => .inr rfl, fun _ => signalled_cons ..⟩
      · exact fun _ => ⟨fun signalled => absurd signalled not_signalled_nil, nofun⟩
      · exact nofun
  | away =>
      constructor
      · exact ⟨fun _ => .inl rfl, fun _ => signalled_cons ..⟩
      · exact nofun
      · exact nofun
  | woken =>
      constructor
      · exact ⟨fun _ => .inl rfl, fun _ => signalled_cons ..⟩
      · exact fun _ => ⟨fun _ => rfl, fun _ => signalled_cons ..⟩
      · exact nofun

/-- A pass begins by a signal that was given lately. -/
theorem warranted (permits : Permits wake history) (taken : wake.take? = some wake') :
    Signalled (sincePermit history) := by
  refine permits.held.mpr ?_
  obtain ⟨stored, listener, probeArmed⟩ := wake
  cases listener with
  | woken => exact .inr rfl
  | away | waiting =>
      cases stored with
      | true => exact .inl rfl
      | false => cases taken

/-- A loop takes the signal that woke it, and otherwise a stored one. -/
theorem take (permits : Permits wake history) (taken : wake.take? = some wake') :
    Permits wake' ((time, .began (wake.listener == .woken)) :: history) := by
  obtain ⟨stored, listener, probeArmed⟩ := wake
  cases listener with
  | woken =>
      cases taken
      refine ⟨(permits.held_behind rfl).trans ?_, nofun, nofun⟩
      exact ⟨.inl, fun held => held.resolve_right nofun⟩
  | away | waiting =>
      cases stored with
      | false => cases taken
      | true =>
          cases taken
          refine ⟨⟨fun signalled => absurd signalled not_signalled_nil, ?_⟩, nofun, nofun⟩
          exact fun held => held.elim nofun nofun

/-- A loop waits when there is no signal. -/
theorem wait (permits : Permits wake history) (nothing : wake.take? = none) :
    Permits wake.wait history := by
  obtain ⟨stored, listener, probeArmed⟩ := wake
  cases listener with
  | woken => cases nothing
  | away | waiting =>
      cases stored with
      | true => cases nothing
      | false =>
          refine ⟨permits.held.trans ?_, nofun, fun _ => rfl⟩
          exact ⟨fun held => held.elim nofun nofun, fun held => held.elim nofun nofun⟩

/-- Who goes away gives back the signal that has woken it. -/
theorem leave (permits : Permits wake history) :
    Permits wake.leave history := by
  obtain ⟨stored, listener, probeArmed⟩ := wake
  cases listener with
  | woken =>
      refine ⟨permits.held.trans ?_, nofun, nofun⟩
      exact ⟨fun _ => .inl rfl, fun _ => .inr rfl⟩
  | away | waiting =>
      refine ⟨permits.held.trans ?_, nofun, nofun⟩
      exact ⟨fun held => .inl (held.resolve_right nofun),
        fun held => .inl (held.resolve_right nofun)⟩

end Permits

/-! ## Whole runs -/

/-- What is true of a loop and its signals. -/
structure Coalesced {K τ : Type} {R : Interface} (watch : Watch K τ R) : Prop where
  /-- A pass begins only by a signal that was given since the last permit was used up. -/
  warranted : ∀ later time woken past, watch.history = later ++ (time, .began woken) :: past →
    Signalled (sincePermit past)
  /-- Any signals that are given while the loop is not parked leave one that is stored. -/
  stored_once : watch.post ≠ .parked → Signalled (sincePermit watch.history) →
    watch.wake.stored = true ∧ watch.wake.listener = .away
  /-- No signal is lost: it is stored, or the parked loop was woken by it. -/
  held : Signalled (sincePermit watch.history) →
    watch.wake.stored = true ∨ (watch.post = .parked ∧ watch.wake.listener = .woken)

namespace Watch

variable {K τ : Type} {R : Interface} [Add K] [NatCast K] [LE K]
variable {parse : List Entry → Program R Nat} {settings : Settings}
variable {idle : Watch K τ R → Prop} {watch watch' : Watch K τ R}

/-- What a wake signal holds goes along with the signals that are given and taken. -/
theorem Move.permits (move : Move parse settings idle watch watch')
    (poised : watch.IsPoised settings) (permits : Permits watch.wake watch.history) :
    Permits watch'.wake watch'.history := by
  cases move with
  | starts | calls | parks | passes => exact permits
  | notifies | rings | probes => exact permits.notify _
  | ends => exact permits.note rfl rfl rfl rfl
  | fires => exact permits.note rfl rfl rfl rfl
  | takes parked taken => exact permits.take taken
  | waits parked nothing => exact permits.wait nothing
  | stops parked => exact permits.leave
  | asks busy shape =>
      obtain ⟨-, ⟨-, -, served⟩ | ⟨outcome, -, -, ⟨-, served⟩ | ⟨-, served⟩⟩⟩ :=
        poised.serve_cases busy shape
      · rw [served]
        exact permits
      · rw [served]
        exact permits.note rfl rfl rfl rfl
      · rw [served]
        exact permits.note rfl rfl rfl rfl

/-- Each pass begins by a signal that was given lately. -/
theorem Move.warranted (move : Move parse settings idle watch watch')
    (poised : watch.IsPoised settings) (permits : Permits watch.wake watch.history)
    (warranted : Throughout (fun done past =>
      done.2.begins = true → Signalled (sincePermit past)) watch.history) :
    Throughout (fun done past => done.2.begins = true → Signalled (sincePermit past))
      watch'.history := by
  cases move with
  | starts | calls | parks | waits | stops | passes => exact warranted
  | notifies | rings | fires | probes | ends => exact ⟨nofun, warranted⟩
  | takes parked taken => exact ⟨fun _ => permits.warranted taken, warranted⟩
  | asks busy shape =>
      obtain ⟨-, ⟨-, -, served⟩ | ⟨outcome, -, -, ⟨-, served⟩ | ⟨-, served⟩⟩⟩ :=
        poised.serve_cases busy shape
      · rw [served]
        exact warranted
      · rw [served]
        exact ⟨nofun, warranted⟩
      · rw [served]
        exact ⟨nofun, warranted⟩

theorem Reachable.permits (reachable : Reachable parse settings idle watch) :
    Permits watch.wake watch.history ∧
      Throughout (fun done past => done.2.begins = true → Signalled (sincePermit past))
        watch.history := by
  refine reachable.of_moves (fun watch => Permits watch.wake watch.history ∧
    Throughout (fun done past => done.2.begins = true → Signalled (sincePermit past))
      watch.history) (fun _ => ⟨Permits.initial, trivial⟩) ?_
  rintro _ _ move poised ⟨permits, warranted⟩
  exact ⟨move.permits poised permits, move.warranted poised permits warranted⟩

/-- A loop begins its passes by signals, and loses none. -/
theorem Reachable.coalesced (reachable : Reachable parse settings idle watch) :
    Coalesced watch ∧ ∀ (I : Interface) (α : Type) (call : Program I α), Broker.Forwards call := by
  obtain ⟨permits, warranted⟩ := reachable.permits
  have poised := reachable.isPoised
  refine ⟨⟨?_, ?_, ?_⟩, fun I α call => Broker.forwards call⟩
  · exact fun later time woken past split => warranted.of_split split rfl
  · intro busy signalled
    have away := poised.listener_eq busy
    refine ⟨(permits.held.mp signalled).resolve_right ?_, away⟩
    rw [away]
    exact nofun
  · intro signalled
    refine (permits.held.mp signalled).imp_right fun woken => ⟨?_, woken⟩
    by_contra busy
    rw [poised.listener_eq busy] at woken
    cases woken

end Watch

/-! ## A burst of signals -/

section Burst

/-- What can come about when time may pass at any moment. -/
abbrev Untimed (watch : Watch Nat Unit Downstream.interface) : Prop :=
  watch.Reachable Replay.parse .default fun _ => True

/-- A pass may fail to ask for the lock. -/
theorem Untimed.refuse {wake : WakeSignal} {alarms : List (Alarm × Nat)}
    {history : List (Nat × Occurrence)}
    (untimed : Untimed ⟨.passing (runPass Replay.parse .default), wake, alarms, 0, history⟩) :
    Untimed ⟨.busy (conclusion .default .lockUnavailable), wake, alarms, 0,
      (0, .ended .lockUnavailable) :: history⟩ := by
  have asks : (runPass Replay.parse .default : OnOutbox Unit Downstream.interface Outcome).quiet =
      .call (Sum.inl (.tryLock 1000)) _ := rfl
  have refused := untimed.move (.calls rfl asks (.error (.validation "")))
  exact refused.move (.ends rfl rfl)

/-- Two signals reach a parked loop before it goes on, and it begins two passes. -/
theorem exists_two_passes :
    ∃ alarms, Untimed ⟨.parked, ⟨false, .woken, false⟩, alarms, 0,
      [(0, .signalled .caller true), (0, .ended .lockUnavailable), (0, .began false),
        (0, .ended .lockUnavailable), (0, .began true), (0, .signalled .caller false),
        (0, .signalled .caller true)]⟩ := by
  have fresh : Untimed ⟨.fresh, .quiet, [], 0, []⟩ := ⟨0, .refl⟩
  have started := fresh.move (.starts rfl)
  have asks : (startUp .default : InLoop Unit Downstream.interface Unit).quiet =
      .call (Sum.inr (.notifyAfter 5000)) .done := rfl
  have set := started.move (.asks rfl asks)
  have waiting := (set.move (.parks rfl rfl)).move (.waits rfl rfl)
  have burst := (waiting.move (.notifies _)).move (.notifies _)
  have begun := burst.move (.takes rfl rfl)
  have again := (Untimed.refuse begun).move (.parks rfl rfl)
  have begun := again.move (.takes rfl rfl)
  have waiting := ((Untimed.refuse begun).move (.parks rfl rfl)).move (.waits rfl rfl)
  exact ⟨_, waiting.move (.notifies _)⟩

/--
A pass may begin without a signal since the pass before began, and a signal that was given since
the last pass began may not be stored.
-/
theorem exists_burst :
    ∃ watch : Watch Nat Unit Downstream.interface, Untimed watch ∧
      (∃ later time since time' woken past,
        watch.history = later ++ (time, .began false) ::
          (since ++ (time', .began woken) :: past) ∧ ¬ Signalled since) ∧
      ∃ later time woken past, watch.history = later ++ (time, .began woken) :: past ∧
        Signalled later ∧ watch.wake.stored = false := by
  obtain ⟨alarms, untimed⟩ := exists_two_passes
  refine ⟨_, untimed,
    ⟨[(0, .signalled .caller true), (0, .ended .lockUnavailable)], 0,
      [(0, .ended .lockUnavailable)], 0, true, _, rfl, ?_⟩,
    ⟨[(0, .signalled .caller true), (0, .ended .lockUnavailable)], 0, false, _, rfl,
      signalled_cons .., rfl⟩⟩
  rintro ⟨done, member, signals⟩
  rw [List.mem_singleton.mp member] at signals
  cases signals

/-- The pass that the burst made begin one more was begun by a signal that woke the loop. -/
theorem coalesced_of_burst :
    ∃ watch : Watch Nat Unit Downstream.interface,
      watch.Reachable Replay.parse .default (fun _ => True) ∧
        (watch.history.countP fun done => done.2.begins) = 2 ∧ Coalesced watch := by
  obtain ⟨alarms, untimed⟩ := exists_two_passes
  exact ⟨_, untimed, rfl, (Watch.Reachable.coalesced untimed).1⟩

end Burst

end Dispatch
end OutboxRelay
