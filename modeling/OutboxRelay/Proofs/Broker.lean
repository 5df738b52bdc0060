import OutboxRelay.Broker
import OutboxRelay.Proofs.Program

/-!
# What a broker calls

A broker makes the calls of its caller on the store, whatever they are and however they are
answered.  Behind those that may change the outbox it gives one signal, and else none.

**Results.**
* `runs_onFirst`: a program among more parties makes the same calls.
* `forwards`: each call through a broker makes the calls that it forwards, and then gives one
  signal or none.
-/

namespace OutboxRelay
namespace Program

variable {I J : Interface}
variable {α β : Type}

/-- The calls that were made, each with its reply, the last one first. -/
abbrev Calls (I : Interface) := List (Σ made : I.Call, I.Reply made)

/-- A call with any reply is written down. -/
def Logs (past : Calls I) (made : I.Call) (reply : I.Reply made) (calls : Calls I) : Prop :=
  calls = ⟨made, reply⟩ :: past

/-- A call of one party is a call among more parties. -/
def amongFirst (J : Interface) (done : Σ made : I.Call, I.Reply made) :
    Σ made : (I.both J).Call, (I.both J).Reply made :=
  ⟨.inl done.1, done.2⟩

/-- A run of a sequence is a run of its first part and one of its second part. -/
theorem Runs.exists_of_bind {D : Type} {serves : D → (made : I.Call) → I.Reply made → D → Prop}
    {program : Program I α} {next : α → Program I β} {d d'' : D} {last : β}
    (run : Runs serves (program.bind next) d last d'') :
    ∃ result d', Runs serves program d result d' ∧ Runs serves (next result) d' last d'' := by
  induction program generalizing d with
  | done result => exact ⟨result, d, .done result d, run⟩
  | note record rest ih =>
      cases run with
      | note _ run =>
          obtain ⟨result, d', first, second⟩ := ih run
          exact ⟨result, d', .note record first, second⟩
  | call made rest ih =>
      cases run with
      | call served run =>
          obtain ⟨result, d', first, second⟩ := ih _ run
          exact ⟨result, d', .call served first, second⟩

/-- A program among more parties makes the same calls. -/
theorem runs_onFirst {program : Program I α} {result : α} {calls : Calls (I.both J)}
    (past : Calls I)
    (run : Runs Logs program.onFirst (past.map (amongFirst J)) result calls) :
    ∃ made, Runs Logs program past result made ∧ calls = made.map (amongFirst J) := by
  induction program generalizing past with
  | done result =>
      cases run
      exact ⟨past, .done result past, rfl⟩
  | note record rest ih =>
      cases run with
      | note _ run =>
          obtain ⟨made, first, rfl⟩ := ih past run
          exact ⟨made, .note record first, rfl⟩
  | call made rest ih =>
      cases run with
      | @call _ _ reply _ _ _ _ served run =>
          obtain rfl := served
          obtain ⟨all, first, rfl⟩ := ih reply (⟨made, reply⟩ :: past) run
          exact ⟨all, .call rfl first, rfl⟩

end Program

namespace Broker

open Program (Runs Logs Calls amongFirst)

variable {I : Interface} {α : Type}

/-- What a broker does with a call that it forwards. -/
structure Forwards (call : Program I α) : Prop where
  /-- One that may change the outbox is followed by one signal, whatever came of it. -/
  mutate : ∀ result calls, Runs Logs (Broker.mutate call) [] result calls →
    ∃ made, Runs Logs call [] result made ∧
      calls = ⟨.inr Dispatch.Wake.Call.notify, ()⟩ :: made.map (amongFirst Dispatch.Wake.interface)
  /-- One that only reads is followed by none. -/
  read : ∀ result calls, Runs Logs (Broker.read call) [] result calls →
    ∃ made, Runs Logs call [] result made ∧
      calls = made.map (amongFirst Dispatch.Wake.interface)

theorem forwards (call : Program I α) : Forwards call := by
  constructor
  · intro result calls run
    obtain ⟨told, between, first, second⟩ := Program.Runs.exists_of_bind run
    obtain ⟨made, ran, rfl⟩ := Program.runs_onFirst [] first
    cases second with
    | call served rest =>
        cases served
        cases rest
        exact ⟨made, ran, rfl⟩
  · exact fun result calls run => Program.runs_onFirst [] run

end Broker
end OutboxRelay
