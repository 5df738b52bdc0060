import OutboxRelay.Proofs.Program

/-!
# Conversations

A program makes its calls on a party with a state, which may answer each call by all that
it was asked before.  The conversation is what is said in between: the calls that were
made, in order, each with its reply.

**Results.**
* `run_eq_converse`: a conversation has the result and the state that the program has when
  the party serves it.
* `converse_bind`: a sequence converses part by part.
-/

namespace OutboxRelay
namespace Program

section Converse

variable {I : Interface} {α β σ : Type}

/-- A call with the reply to it. -/
abbrev Exchange (I : Interface) := Σ made : I.Call, I.Reply made

/-- A party with a state, which answers each call. -/
abbrev Party (I : Interface) (σ : Type) := (made : I.Call) → StateM σ (I.Reply made)

/-- A result, the exchanges that led to it, in order, and the state of the other party. -/
structure Conversation (I : Interface) (α σ : Type) where
  result : α
  exchanges : List (Exchange I)
  state : σ

/-- One more exchange in front of a conversation. -/
def Conversation.after (exchange : Exchange I) (told : Conversation I α σ) :
    Conversation I α σ :=
  { told with exchanges := exchange :: told.exchanges }

/-- A conversation and the one behind it. -/
def Conversation.followedBy (first : Conversation I α σ) (last : Conversation I β σ) :
    Conversation I β σ :=
  { last with exchanges := first.exchanges ++ last.exchanges }

/-- A conversation that ends behind another one without a call. -/
theorem Conversation.followedBy_of_nil (first : Conversation I α σ) (result : β) (s : σ) :
    first.followedBy ⟨result, [], s⟩ = ⟨result, first.exchanges, s⟩ := by
  rw [followedBy, List.append_nil]

/-- The conversation of a program with a party. -/
def converse (party : Party I σ) : Program I α → σ → Conversation I α σ
  | done result, s => ⟨result, [], s⟩
  | note _ rest, s => rest.converse party s
  | call made rest, s =>
      ((rest (party made s).1).converse party (party made s).2).after ⟨made, (party made s).1⟩

variable (party : Party I σ)

@[simp] theorem converse_done (result : α) (s : σ) :
    (done result : Program I α).converse party s = ⟨result, [], s⟩ := by
  rfl

@[simp] theorem converse_note (record : Journal.Record) (rest : Program I α) (s : σ) :
    (note record rest).converse party s = rest.converse party s := by
  rfl

theorem converse_bind (program : Program I α) (next : α → Program I β) (s : σ) :
    (program.bind next).converse party s =
      (program.converse party s).followedBy
        ((next (program.converse party s).result).converse party
          (program.converse party s).state) := by
  induction program generalizing s with
  | done result => rfl
  | note record rest ih => exact ih s
  | call made rest ih => exact congrArg (Conversation.after _) (ih _ _)

/-- A conversation ends as the program does when the party serves it. -/
theorem run_eq_converse (program : Program I α) (s : σ) :
    program.run (m := StateM σ) party (fun _ => pure ()) s =
      ((program.converse party s).result, (program.converse party s).state) := by
  induction program generalizing s with
  | done result => rfl
  | note record rest ih => exact ih s
  | call made rest ih => exact ih _ _

end Converse

end Program
end OutboxRelay
