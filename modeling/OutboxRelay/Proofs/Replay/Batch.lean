import OutboxRelay.Dispatch.Pass
import OutboxRelay.Proofs.Conversation

/-!
# Entries in a batch

Entries are resolved in order up to the first one that cannot be resolved.  It makes no
difference whether they are handed over in one batch, in two, or one by one: the same calls
are made, and as many entries are counted.

**Method.**  Batches are compared as programs, so that they agree in whatever way the calls
are answered.

**Results.**
* `singly_eq_parse`, `parse_append`: entries one by one, and entries in two batches.
* `through_calm_drainFrom`: a pass whose store never fails makes the calls of one batch.
* `converse_parse`: how far a batch gets, and by which calls.
-/

namespace OutboxRelay
namespace Replay

open Dispatch (Outcome drainFrom exceedsLimit)
open Program (Conversation Party)

/-! ## Batches as programs -/

/-- Resolves entries one by one, each as a batch of its own, until a batch counts none. -/
def singly : List Entry → OnDownstream Nat
  | [] => return 0
  | entry :: entries => do
      if (← parse [entry]) = 0 then return 0 else return (← singly entries) + 1

/-- What is done about the other entries behind the one that came first. -/
def afterFirst (entry : Entry) (rest : OnDownstream Nat) : Except EventError Unit → OnDownstream Nat
  | .ok () => rest.bind fun count => .done (count + 1)
  | .error error => .note (failureRecord entry error) (.done 0)

theorem parse_cons (entry : Entry) (entries : List Entry) :
    parse (entry :: entries) = (apply entry).bind (afterFirst entry (parse entries)) := by
  have split : count (entry :: entries) =
      (Program.ask (I := interface) entry).bind _ := rfl
  rw [parse, split]
  refine Program.through_bind_congr (Program.through_ask (I := interface) apply entry)
    fun result => ?_
  cases result with
  | ok answer => exact Program.through_bind apply (count entries) _
  | error error => rfl

theorem singly_eq_parse (entries : List Entry) : singly entries = parse entries := by
  induction entries with
  | nil => rfl
  | cons entry entries ih =>
      have split : singly (entry :: entries) = (parse [entry]).bind _ := rfl
      rw [split, parse_cons, parse_cons, Program.bind_assoc]
      congr 1
      funext result
      cases result with
      | ok answer => exact congrArg (fun rest => Program.bind rest _) ih
      | error error => rfl

theorem parse_append (xs ys : List Entry) :
    parse (xs ++ ys) = (parse xs).bind fun counted =>
      if counted < xs.length then .done counted
      else (parse ys).bind fun more => .done (xs.length + more) := by
  induction xs with
  | nil =>
      have empty : parse [] = .done 0 := rfl
      simp [empty]
  | cons entry xs ih =>
      rw [List.cons_append, parse_cons, parse_cons, Program.bind_assoc]
      congr 1
      funext result
      cases result with
      | ok answer =>
          simp only [afterFirst, ih, Program.bind_assoc]
          congr 1
          funext counted
          by_cases short : counted < xs.length
          · simp [short]
          · simp [short, Program.bind_assoc, Nat.add_right_comm]
      | error error => simp [afterFirst]

/-! ## Passes -/

section Passes

variable {τ : Type}

/-- Serves the calls of a pass by a store that never fails; others are left as they are. -/
def calm (answer : (call : Outbox.Call τ) → call.Answer) :
    (made : (Dispatch.interface τ Downstream.interface).Call) →
      OnDownstream ((Dispatch.interface τ Downstream.interface).Reply made)
  | .inl call => .done (.ok (answer call))
  | .inr call => Program.ask (I := Downstream.interface) call

/-- The outcome of a pass that applies so many entries of a batch, behind others. -/
def outcomeAt (applied : Nat) (entries : List Entry) (counted : Nat) : Outcome :=
  match entries[counted]? with
  | some entry => .halted (applied + counted) entry.id
  | none => .drained (applied + counted) 0

variable (answer : (call : Outbox.Call τ) → call.Answer) {limit : Option Int}

theorem through_calm_onSecond {α : Type} (program : OnDownstream α) :
    (Program.onSecond program).through (calm answer) = program := by
  induction program with
  | done result => rfl
  | note record rest ih => exact congrArg (Program.note record) ih
  | call made rest ih => exact congrArg (Program.call made) (funext ih)

/-- A pass over a store that never fails makes the calls of one batch. -/
theorem through_calm_drainFrom (applied : Nat) (entries : List Entry)
    (within : ∀ entry ∈ entries, exceedsLimit limit entry = false) :
    (drainFrom parse limit applied 0 entries).through (calm answer) =
      (parse entries).bind fun counted => .done (outcomeAt applied entries counted) := by
  induction entries generalizing applied with
  | nil => rfl
  | cons entry entries ih =>
      obtain ⟨within_first, within_others⟩ := List.forall_mem_cons.mp within
      have settled : (drainFrom parse limit applied 0 (entry :: entries)).through (calm answer) =
          (parse [entry]).bind fun counted =>
            if counted = 0 then .done (.halted applied entry.id)
            else (drainFrom parse limit (applied + 1) 0 entries).through (calm answer) := by
        rw [drainFrom, within_first]
        refine Program.through_bind_congr (through_calm_onSecond answer (parse [entry]))
          fun counted => ?_
        split <;> rfl
      rw [settled, parse_cons, parse_cons, Program.bind_assoc, Program.bind_assoc]
      congr 1
      funext result
      cases result with
      | ok resolved =>
          refine (ih (applied + 1) within_others).trans ?_
          simp only [afterFirst, Program.bind_assoc, Program.done_bind, outcomeAt,
            List.getElem?_cons_succ]
          simp only [Nat.add_comm, Nat.add_left_comm]
      | error error => rfl

end Passes

/-! ## Conversations -/

section Conversations

variable {σ : Type} (party : Party Downstream.interface σ)

/-- What comes of resolving entries one after the other, whether or not that fails. -/
def course : List Entry → σ → List (Conversation Downstream.interface (Except EventError Unit) σ)
  | [], _ => []
  | entry :: entries, s =>
      (apply entry).converse party s ::
        course entries ((apply entry).converse party s).state

/-- The position of the first entry that cannot be resolved, or the number of all entries. -/
def firstFailure (entries : List Entry) (s : σ) : Nat :=
  (course party entries s).findIdx fun told => !told.result.isOk

/-- The course of entries up to the first one that cannot be resolved, this one included. -/
def reached (entries : List Entry) (s : σ) :
    List (Conversation Downstream.interface (Except EventError Unit) σ) :=
  (course party entries s).take (firstFailure party entries s + 1)

/-- The state behind the last of some conversations. -/
def lastState (s : σ)
    (tolds : List (Conversation Downstream.interface (Except EventError Unit) σ)) : σ :=
  (tolds.getLast?.map Conversation.state).getD s

theorem length_course (entries : List Entry) (s : σ) :
    (course party entries s).length = entries.length := by
  induction entries generalizing s with
  | nil => rfl
  | cons entry entries ih => exact congrArg Nat.succ (ih _)

theorem lastState_cons (s : σ)
    (told : Conversation Downstream.interface (Except EventError Unit) σ)
    (tolds : List (Conversation Downstream.interface (Except EventError Unit) σ)) :
    lastState s (told :: tolds) = lastState told.state tolds := by
  simp only [lastState, List.getLast?_cons]
  cases tolds.getLast? <;> rfl

/-- How far a batch gets, and by which calls. -/
theorem converse_parse (entries : List Entry) (s : σ) :
    (parse entries).converse party s =
      ⟨firstFailure party entries s, (reached party entries s).flatMap Conversation.exchanges,
        lastState s (reached party entries s)⟩ := by
  induction entries generalizing s with
  | nil => rfl
  | cons entry entries ih =>
      rw [parse_cons, Program.converse_bind]
      unfold reached firstFailure
      rw [course]
      generalize (apply entry).converse party s = told
      obtain ⟨result, exchanges, s'⟩ := told
      cases result with
      | ok resolved =>
          simp only [List.findIdx_cons, Except.isOk, Except.toBool, Bool.not_true, cond_false,
            List.take_succ_cons, List.flatMap_cons, lastState_cons, afterFirst,
            Program.converse_bind, ih, Conversation.followedBy, Program.converse_done,
            List.append_nil]
          rfl
      | error error =>
          simp only [List.findIdx_cons, Except.isOk, Except.toBool, Bool.not_false, cond_true,
            List.take_succ_cons, List.take_zero, List.flatMap_cons, List.flatMap_nil,
            lastState_cons, afterFirst, Conversation.followedBy, Program.converse_note,
            Program.converse_done]
          rfl

/-- That entries are resolved in order until one of them cannot be, however they are handed over. -/
structure Batched (entries : List Entry) (s : σ) : Prop where
  /-- Each entry has its place in the course. -/
  length_course : (course party entries s).length = entries.length
  /-- A batch counts the entries in front of the first failure, and calls nothing behind it. -/
  parse_eq : (parse entries).converse party s =
    ⟨firstFailure party entries s, (reached party entries s).flatMap Conversation.exchanges,
      lastState s (reached party entries s)⟩
  /-- One by one, entries are resolved alike. -/
  singly_eq : (singly entries).converse party s = (parse entries).converse party s
  /-- A pass over a store that never fails does just that, unless the entry is past its limit. -/
  drain_eq : ∀ (τ : Type) (answer : (call : Outbox.Call τ) → call.Answer) (limit : Option Int),
    (∀ entry ∈ entries, exceedsLimit limit entry = false) →
      ((drainFrom parse limit 0 0 entries).through (calm answer)).converse party s =
        { (parse entries).converse party s with
          result := outcomeAt 0 entries ((parse entries).converse party s).result }
  /-- So are two batches, of which the second is not begun unless the first is resolved. -/
  append_eq : ∀ xs ys, entries = xs ++ ys →
    (parse entries).converse party s =
      if ((parse xs).converse party s).result < xs.length then (parse xs).converse party s
      else
        ((parse xs).converse party s).followedBy
          { (parse ys).converse party ((parse xs).converse party s).state with
            result := xs.length +
              ((parse ys).converse party ((parse xs).converse party s).state).result }

/-- Whatever the vulnerability database replies, entries are resolved alike in any batches. -/
theorem batched_parse (entries : List Entry) (s : σ) : Batched party entries s := by
  refine ⟨length_course party entries s, converse_parse party entries s, ?_, ?_, ?_⟩
  · rw [singly_eq_parse]
  · intro τ answer limit within
    rw [through_calm_drainFrom answer 0 entries within, Program.converse_bind]
    simp [Conversation.followedBy]
  · rintro xs ys rfl
    rw [parse_append, Program.converse_bind]
    split
    · simp [Conversation.followedBy]
    · simp [Conversation.followedBy, Program.converse_bind]

end Conversations

end Replay
end OutboxRelay
