import OutboxRelay.Proofs.Dispatch.Watch
import Mathlib.Algebra.Order.Monoid.Defs
import Mathlib.Algebra.Ring.Defs

/-!
# Retry probes do not multiply

A loop asks for a retry probe behind each pass that should be tried again.  A flag tells whether
one sleeps already.  The probe takes the flag back when it wakes up, before it gives its signal,
so that a pass which another signal has begun may arm the next probe in between.

**Results.**
* `Asleep`: a probe sleeps exactly while the flag is set, it is the only one, and it sleeps its
  whole time behind the last probe that woke up.
* `Watch.Reachable.exists_armed`: behind a pass that should be tried again, a probe sleeps.
* `Watch.Reachable.armed_behind`: no other pass arms a probe.
-/

namespace OutboxRelay
namespace Dispatch

/-! ## Histories of probes -/

/-- Whether a retry probe wakes up. -/
def Occurrence.fires : Occurrence → Bool
  | .fired => true
  | _ => false

section History

variable {K : Type}

/-- The times at which a retry probe woke up, the last one first. -/
def firings (history : List (K × Occurrence)) : List K :=
  (history.filter fun done => done.2.fires).map Prod.fst

theorem firings_cons {done : Occurrence} (silent : done.fires = false) (time : K)
    (history : List (K × Occurrence)) :
    firings ((time, done) :: history) = firings history := by
  unfold firings
  rw [List.filter_cons_of_neg]
  simp [silent]

theorem firings_append (later past : List (K × Occurrence)) :
    firings (later ++ past) = firings later ++ firings past := by
  unfold firings
  rw [List.filter_append, List.map_append]

theorem length_firings (history : List (K × Occurrence)) :
    (firings history).length = history.countP fun done => done.2.fires := by
  rw [firings, List.length_map, List.countP_eq_length_filter]

/-- Times, the last one first, of which any two are at least so far apart. -/
def Spaced [Add K] [LE K] (delay : K) (times : List K) : Prop :=
  times.Pairwise fun later earlier => earlier + delay ≤ later

/-- Whether a loop asked for a retry probe since the last one woke up. -/
def outstanding : List (K × Occurrence) → Bool
  | [] => false
  | (_, .armed _) :: _ => true
  | (_, .fired) :: _ => false
  | _ :: past => outstanding past

theorem outstanding_of_armed {later past : List (K × Occurrence)} {time : K} {anew : Bool}
    (asleep : ∀ done ∈ later, done.2.fires = false) :
    outstanding (later ++ (time, .armed anew) :: past) = true := by
  induction later with
  | nil => rfl
  | cons last later ih =>
      obtain ⟨last_time, last⟩ := last
      have rest := ih fun done member => asleep done (List.mem_cons_of_mem _ member)
      cases last with
      | fired => cases asleep _ List.mem_cons_self
      | armed => rfl
      | _ => exact rest

theorem latest_append_of_none {later past : List (K × Occurrence)} (none : latest later = none) :
    latest (later ++ past) = latest past := by
  unfold latest at none ⊢
  rw [List.map_append, List.find?_append, none, Option.none_or]

/-- The first thing that a loop did itself in some part of a history. -/
theorem exists_first_own {later : List (K × Occurrence)} (some : latest later ≠ none) :
    ∃ after done between, later = after ++ done :: between ∧ done.2.isOwn = true ∧
      latest between = none := by
  induction later with
  | nil => exact absurd rfl some
  | cons last later ih =>
      by_cases rest : latest later = none
      · refine ⟨[], last, later, rfl, ?_, rest⟩
        by_contra foreign
        refine some ?_
        unfold latest at rest ⊢
        rw [List.map_cons, List.find?_cons_of_neg foreign, rest]
      · obtain ⟨after, done, between, rfl, own, none⟩ := ih rest
        exact ⟨last :: after, done, between, rfl, own, none⟩

end History

/-! ## Probes that sleep -/

namespace Watch

section Flag

variable {K τ : Type} {R : Interface}

/-- The times at which the probes that sleep may wake up. -/
def probes (watch : Watch K τ R) : List K :=
  (watch.alarms.filter fun task => task.1 == .probe).map Prod.snd

/-- The probes among some tasks. -/
theorem probes_split {watch : Watch K τ R} {before behind : List (Alarm × K)} {due : K}
    (set : watch.alarms = before ++ (.probe, due) :: behind) :
    watch.probes = { watch with alarms := before }.probes ++
      due :: { watch with alarms := behind }.probes := by
  unfold probes
  rw [set]
  simp

theorem probes_skip {watch : Watch K τ R} {before behind : List (Alarm × K)} {alarm : Alarm}
    {due : K} (set : watch.alarms = before ++ (alarm, due) :: behind) (other : alarm ≠ .probe) :
    watch.probes = { watch with alarms := before ++ behind }.probes := by
  unfold probes
  rw [set]
  simp [other]

variable [Add K] [NatCast K] [Preorder K] {parse : List Entry → Program R Nat}
variable {settings : Settings} {idle : Watch K τ R → Prop} {watch watch' : Watch K τ R}

/-- What a step does to the probes: nothing, or it arms one, or one of them wakes up. -/
theorem Move.probe_cases (move : Move parse settings idle watch watch')
    (poised : watch.IsPoised settings) :
    (watch'.probes = watch.probes ∧ watch'.wake.probeArmed = watch.wake.probeArmed ∧
      firings watch'.history = firings watch.history ∧ watch.now ≤ watch'.now) ∨
    (watch.wake.probeArmed = false ∧ watch'.wake.probeArmed = true ∧
      watch'.probes = (watch.now + settings.retryDelay) :: watch.probes ∧
      firings watch'.history = firings watch.history ∧ watch'.now = watch.now) ∨
    (∃ before due behind, watch.probes = before ++ due :: behind ∧ due ≤ watch.now ∧
      watch'.probes = before ++ behind ∧ watch'.wake.probeArmed = false ∧
      firings watch'.history = watch.now :: firings watch.history ∧ watch'.now = watch.now) := by
  cases move with
  | starts | calls | parks | waits => exact .inl ⟨rfl, rfl, rfl, le_rfl⟩
  | ends => exact .inl ⟨rfl, rfl, firings_cons rfl _ _, le_rfl⟩
  | passes later => exact .inl ⟨rfl, rfl, rfl, later⟩
  | takes parked taken =>
      exact .inl ⟨rfl, WakeSignal.probeArmed_of_take? taken, firings_cons rfl _ _, le_rfl⟩
  | stops => exact .inl ⟨rfl, watch.wake.probeArmed_leave, rfl, le_rfl⟩
  | notifies =>
      exact .inl ⟨rfl, watch.wake.probeArmed_notify, firings_cons rfl _ _, le_rfl⟩
  | rings before behind set =>
      exact .inl ⟨(probes_skip set nofun).symm, watch.wake.probeArmed_notify,
        firings_cons rfl _ _, le_rfl⟩
  | probes before behind set =>
      exact .inl ⟨(probes_skip set nofun).symm, watch.wake.probeArmed_notify,
        firings_cons rfl _ _, le_rfl⟩
  | fires before behind set late =>
      refine .inr (.inr ⟨_, _, _, probes_split set, late, ?_, rfl, rfl, rfl⟩)
      unfold Watch.probes
      simp
  | asks busy shape =>
      obtain ⟨-, ⟨-, -, served⟩ | ⟨outcome, -, -, ⟨armed, served⟩ | ⟨off, served⟩⟩⟩ :=
        poised.serve_cases busy shape
      · rw [served]
        exact .inl ⟨rfl, rfl, rfl, le_rfl⟩
      · rw [served]
        exact .inl ⟨rfl, rfl, firings_cons rfl _ _, le_rfl⟩
      · rw [served]
        exact .inr (.inl ⟨off, rfl, rfl, firings_cons rfl _ _, rfl⟩)

/-- The flag of the probe goes along with what the loop asked for. -/
theorem Move.probeArmed_eq (move : Move parse settings idle watch watch')
    (poised : watch.IsPoised settings)
    (same : watch.wake.probeArmed = outstanding watch.history) :
    watch'.wake.probeArmed = outstanding watch'.history := by
  cases move with
  | starts | calls | parks | waits | passes | ends => exact same
  | takes parked taken => exact (WakeSignal.probeArmed_of_take? taken).trans same
  | stops => exact watch.wake.probeArmed_leave.trans same
  | notifies | rings | probes => exact watch.wake.probeArmed_notify.trans same
  | fires => rfl
  | asks busy shape =>
      obtain ⟨-, ⟨-, -, served⟩ | ⟨outcome, -, -, ⟨armed, served⟩ | ⟨off, served⟩⟩⟩ :=
        poised.serve_cases busy shape
      · rw [served]
        exact same
      · rw [served]
        exact armed
      · rw [served]
        rfl

theorem Reachable.probeArmed_eq (reachable : Reachable parse settings idle watch) :
    watch.wake.probeArmed = outstanding watch.history := by
  refine reachable.of_moves (fun watch => watch.wake.probeArmed = outstanding watch.history)
    (fun _ => rfl) ?_
  exact fun _ _ move poised same => move.probeArmed_eq poised same

/--
Behind a pass that should be tried again, the loop asks for a probe before anything else, and a
probe sleeps from then on until it wakes up.
-/
theorem Reachable.exists_armed (reachable : Reachable parse settings idle watch)
    {later past : List (K × Occurrence)} {time : K} {outcome : Outcome}
    (split : watch.history = later ++ (time, .ended outcome) :: past)
    (retry : outcome.needsRetry = true) :
    (watch.post = .busy (conclusion settings outcome) ∧ latest later = none) ∨
      ∃ after time' anew between, later = after ++ (time', .armed anew) :: between ∧
        latest between = none ∧
        ((∃ done ∈ after, done.2 = .fired) ∨ watch.wake.probeArmed = true) := by
  by_cases own : latest later = none
  · have last : latest watch.history = some (.ended outcome) := by
      rw [split, latest_append_of_none own]
      rfl
    have poised := reachable.isPoised
    unfold IsPoised at poised
    rw [last] at poised
    generalize watch.post = post, watch.wake.listener = listener at poised ⊢
    cases poised with
    | concluding => exact .inl ⟨rfl, own⟩
    | settled _ calm => exact absurd retry (Bool.eq_false_iff.mp calm)
    | parked _ calm => exact absurd retry (Bool.eq_false_iff.mp calm)
    | gone calm => exact absurd retry (Bool.eq_false_iff.mp calm)
  · obtain ⟨after, ⟨time', done⟩, between, rfl, is_own, none⟩ := exists_first_own own
    rw [List.append_assoc, List.cons_append] at split
    have follows := reachable.follows.of_split split
    rw [latest_append_of_none none] at follows
    cases done with
    | signalled | fired => cases is_own
    | began woken => exact absurd retry (Bool.eq_false_iff.mp follows)
    | ended other =>
        obtain ⟨woken, same⟩ := follows
        cases same
    | armed anew =>
        refine .inr ⟨after, time', anew, between, rfl, none, ?_⟩
        refine or_iff_not_imp_left.mpr fun asleep => ?_
        rw [reachable.probeArmed_eq, split]
        refine outstanding_of_armed fun done member => ?_
        cases shape : done.2 with
        | fired => exact absurd ⟨done, member, shape⟩ asleep
        | _ => rfl

/-- A loop asks for a probe only behind a pass that should be tried again. -/
theorem Reachable.armed_behind (reachable : Reachable parse settings idle watch)
    {later past : List (K × Occurrence)} {time : K} {anew : Bool}
    (split : watch.history = later ++ (time, .armed anew) :: past) :
    ∃ outcome, latest past = some (.ended outcome) ∧ outcome ≠ .lockUnavailable ∧
      ∀ applied discarded, outcome ≠ .drained applied discarded := by
  obtain ⟨outcome, last, retry⟩ := reachable.follows.of_split split
  refine ⟨outcome, last, ?_, fun applied discarded => ?_⟩
  · rintro rfl
    cases retry
  · rintro rfl
    cases retry

end Flag

/-! ## Probes that are apart -/

section Spacing

variable {K τ : Type} {R : Interface} [Semiring K] [PartialOrder K] [IsOrderedAddMonoid K]
variable {parse : List Entry → Program R Nat} {settings : Settings}
variable {idle : Watch K τ R → Prop} {watch watch' : Watch K τ R}

/-- How the probes that sleep, and those that woke up, stand to each other. -/
structure Asleep (settings : Settings) (watch : Watch K τ R) : Prop where
  /-- A probe sleeps exactly while the flag is set, and its time is up late enough. -/
  probe : (watch.wake.probeArmed = false ∧ watch.probes = []) ∨
    (watch.wake.probeArmed = true ∧ ∃ due, watch.probes = [due] ∧
      ∀ time ∈ firings watch.history, time + settings.retryDelay ≤ due)
  past : ∀ time ∈ firings watch.history, time ≤ watch.now
  spaced : Spaced (settings.retryDelay : K) (firings watch.history)

theorem Move.asleep (move : Move parse settings idle watch watch')
    (poised : watch.IsPoised settings) (asleep : watch.Asleep settings) :
    watch'.Asleep settings := by
  rcases move.probe_cases poised with
    ⟨probes, armed, fired, later⟩ | ⟨off, armed, probes, fired, now⟩ |
      ⟨before, due, behind, split, late, probes, armed, fired, now⟩
  · constructor
    · rw [probes, armed, fired]
      exact asleep.probe
    · rw [fired]
      exact fun time member => (asleep.past time member).trans later
    · rw [fired]
      exact asleep.spaced
  · have none : watch.probes = [] := by
      rcases asleep.probe with ⟨-, none⟩ | ⟨on, -⟩
      · exact none
      · cases off.symm.trans on
    constructor
    · refine .inr ⟨armed, _, by rw [probes, none], fun time member => ?_⟩
      rw [fired] at member
      exact add_le_add_left (asleep.past time member) _
    · rw [fired, now]
      exact asleep.past
    · rw [fired]
      exact asleep.spaced
  · -- The probe that wakes up is the only one, so none sleeps behind it.
    obtain ⟨due', only, apart⟩ : ∃ due', watch.probes = [due'] ∧
        ∀ time ∈ firings watch.history, time + settings.retryDelay ≤ due' := by
      rcases asleep.probe with ⟨-, none⟩ | ⟨-, only⟩
      · rw [none] at split
        cases before <;> cases split
      · exact only
    obtain ⟨rfl, rfl, rfl⟩ : before = [] ∧ due = due' ∧ behind = [] := by
      rw [only] at split
      cases before <;> simp_all
    constructor
    · exact .inl ⟨armed, probes⟩
    · rw [fired, now]
      intro time member
      rcases List.mem_cons.mp member with rfl | member
      · exact le_rfl
      · exact asleep.past time member
    · rw [fired]
      exact List.pairwise_cons.mpr
        ⟨fun time member => (apart time member).trans late, asleep.spaced⟩

theorem Reachable.asleep (reachable : Reachable parse settings idle watch) :
    watch.Asleep settings := by
  refine reachable.of_moves (Asleep settings) (fun now => ?_) ?_
  · exact ⟨.inl ⟨rfl, rfl⟩, nofun, .nil⟩
  · exact fun _ _ move poised asleep => move.asleep poised asleep

end Spacing

end Watch

end Dispatch
end OutboxRelay
