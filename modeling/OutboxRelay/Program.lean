import OutboxRelay.Journal

/-!
# Programs

A program makes calls on the parties around it and goes on with their replies.  It
knows nothing about how a call is served, so the same program runs against a fake, a
database, or a server, and its calls can be interleaved with those of other programs.

**Input.** An interface: the calls that can be made, and the type of each call's reply.

**Results.** `run` serves the calls in a monad, `through` serves each one by a program
over another interface.
-/

namespace OutboxRelay

/-- The calls that a program can make, and the replies to them. -/
structure Interface where
  Call : Type
  Reply : Call → Type

/-- The calls of two interfaces together. -/
def Interface.both (I J : Interface) : Interface where
  Call := I.Call ⊕ J.Call
  Reply := fun
    | .inl call => I.Reply call
    | .inr call => J.Reply call

/-- A program with a result. -/
inductive Program (I : Interface) (α : Type)
  | done (result : α)
  | note (record : Journal.Record) (rest : Program I α)
  | call (call : I.Call) (rest : I.Reply call → Program I α)

namespace Program

variable {I J : Interface}
variable {α β : Type}

/-- A program followed by another one that depends on its result. -/
def bind : Program I α → (α → Program I β) → Program I β
  | done result, next => next result
  | note record rest, next => .note record (rest.bind next)
  | call made rest, next => .call made fun reply => (rest reply).bind next

instance : Monad (Program I) where
  pure := done
  bind := bind

/-- A call whose reply is the result. -/
def ask (made : I.Call) : Program I (I.Reply made) :=
  .call made .done

/-- A record of the journal. -/
def log (record : Journal.Record) : Program I Unit :=
  .note record (.done ())

/-- Serves every call by a program. -/
def through (serve : (made : I.Call) → Program J (I.Reply made)) :
    Program I α → Program J α
  | done result => .done result
  | note record rest => .note record (rest.through serve)
  | call made rest => (serve made).bind fun reply => (rest reply).through serve

/-- A program over the first of two interfaces. -/
def onFirst (program : Program I α) : Program (I.both J) α :=
  program.through fun made => ask (I := I.both J) (Sum.inl made)

/-- A program over the second of two interfaces. -/
def onSecond (program : Program J α) : Program (I.both J) α :=
  program.through fun made => ask (I := I.both J) (Sum.inr made)

/-- Serves the calls and the records of a program in a monad. -/
def run {m : Type → Type} [Monad m] (serve : (made : I.Call) → m (I.Reply made))
    (record : Journal.Record → m Unit) : Program I α → m α
  | done result => pure result
  | note entry rest => do
      record entry
      rest.run serve record
  | call made rest => do
      let reply ← serve made
      (rest reply).run serve record

@[simp] theorem done_bind (result : α) (next : α → Program I β) :
    (done result).bind next = next result := by
  rfl

@[simp] theorem bind_done (program : Program I α) :
    program.bind done = program := by
  induction program with
  | done result => rfl
  | note record rest ih => simp [bind, ih]
  | call made rest ih => simp [bind, ih]

theorem bind_assoc {γ : Type} (program : Program I α) (next : α → Program I β)
    (last : β → Program I γ) :
    (program.bind next).bind last =
      program.bind fun result => (next result).bind last := by
  induction program with
  | done result => rfl
  | note record rest ih => simp [bind, ih]
  | call made rest ih => simp [bind, ih]

instance : LawfulMonad (Program I) :=
  LawfulMonad.mk' (Program I) bind_done (fun _ _ => rfl) bind_assoc

end Program
end OutboxRelay
