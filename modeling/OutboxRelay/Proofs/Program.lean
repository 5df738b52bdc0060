import OutboxRelay.Program

/-!
# Reasoning about programs

A program is looked at in two ways.  One asks for its next call, past the records that it
leaves before.  The other asks what becomes of it when a party with a state serves its
calls, possibly in more than one way.

**Results.**
* `through_bind`: serving calls by programs goes along with sequencing.
* `Ensures.bind`: a sequence ensures what its second part ensures behind its first.
* `Ensures.of_runs`: what a program ensures holds at the end of each of its runs.
-/

namespace OutboxRelay
namespace Program

section Shape

variable {I J K : Interface}
variable {α β : Type}

@[simp] theorem note_bind (record : Journal.Record) (rest : Program I α)
    (next : α → Program I β) :
    (note record rest).bind next = note record (rest.bind next) := by
  rfl

@[simp] theorem call_bind (made : I.Call) (rest : I.Reply made → Program I α)
    (next : α → Program I β) :
    (call made rest).bind next = call made fun reply => (rest reply).bind next := by
  rfl

theorem through_bind (serve : (made : I.Call) → Program J (I.Reply made))
    (program : Program I α) (next : α → Program I β) :
    (program.bind next).through serve =
      (program.through serve).bind fun result => (next result).through serve := by
  induction program with
  | done result => rfl
  | note record rest ih => simp only [note_bind, through, ih]
  | call made rest ih => simp only [call_bind, through, ih, bind_assoc]

theorem through_bind_congr {serve : (made : I.Call) → Program J (I.Reply made)}
    {program : Program I α} {next : α → Program I β} {program' : Program J α}
    {next' : α → Program J β} (first : program.through serve = program')
    (last : ∀ result, (next result).through serve = next' result) :
    (program.bind next).through serve = program'.bind next' := by
  rw [through_bind, first]
  congr 1
  funext result
  exact last result

theorem through_ask (serve : (made : I.Call) → Program J (I.Reply made)) (made : I.Call) :
    (ask made).through serve = serve made := by
  exact bind_done (serve made)

theorem through_through (serve : (made : I.Call) → Program J (I.Reply made))
    (again : (made : J.Call) → Program K (J.Reply made)) (program : Program I α) :
    (program.through serve).through again =
      program.through fun made => (serve made).through again := by
  induction program with
  | done result => rfl
  | note record rest ih => simp only [through, ih]
  | call made rest ih => simp only [through, through_bind, ih]

/-- A sequence is served part by part. -/
theorem run_bind {m : Type → Type} [Monad m] [LawfulMonad m]
    (serve : (made : I.Call) → m (I.Reply made)) (record : Journal.Record → m Unit)
    (program : Program I α) (next : α → Program I β) :
    (program.bind next).run serve record =
      program.run serve record >>= fun result => (next result).run serve record := by
  induction program with
  | done result => simp only [done_bind, run, pure_bind]
  | note entry rest ih => simp only [note_bind, run, ih, LawfulMonad.bind_assoc]
  | call made rest ih => simp only [call_bind, run, ih, LawfulMonad.bind_assoc]

/-- A program past the records that it leaves before its next call or its end. -/
def quiet : Program I α → Program I α
  | done result => done result
  | note _ rest => rest.quiet
  | call made rest => call made rest

end Shape

section Served

variable {I : Interface}
variable {α β : Type} {D : Type}
variable (serves : D → (made : I.Call) → I.Reply made → D → Prop)

/--
Whatever replies a program gets, the state fulfils an invariant at every moment, and the
result and the state at the end fulfil a condition.
-/
def Ensures (inv : D → Prop) (post : α → D → Prop) : Program I α → D → Prop
  | done result, d => inv d ∧ post result d
  | note _ rest, d => Ensures inv post rest d
  | call made rest, d =>
      inv d ∧ ∀ reply d', serves d made reply d' → Ensures inv post (rest reply) d'

/-- A program can run from a state to a result and a state. -/
inductive Runs : Program I α → D → α → D → Prop
  | done (result : α) (d : D) : Runs (.done result) d result d
  | note {rest : Program I α} {d d' : D} {result : α} (record : Journal.Record)
      (run : Runs rest d result d') :
      Runs (.note record rest) d result d'
  | call {made : I.Call} {rest : I.Reply made → Program I α} {reply : I.Reply made}
      {d d' d'' : D} {result : α}
      (served : serves d made reply d') (run : Runs (rest reply) d' result d'') :
      Runs (.call made rest) d result d''

variable {serves}

variable {inv : D → Prop}

theorem Ensures.bind {post : α → D → Prop} {post' : β → D → Prop} {program : Program I α}
    {next : α → Program I β} {d : D} (ensured : Ensures serves inv post program d)
    (then_ensured : ∀ result d', inv d' → post result d' →
      Ensures serves inv post' (next result) d') :
    Ensures serves inv post' (program.bind next) d := by
  induction program generalizing d with
  | done result => exact then_ensured result d ensured.1 ensured.2
  | note record rest ih => exact ih ensured
  | call made rest ih =>
      exact ⟨ensured.1, fun reply d' served => ih reply (ensured.2 reply d' served)⟩

/-- The invariant holds at once. -/
theorem Ensures.now {post : α → D → Prop} {program : Program I α} {d : D}
    (ensured : Ensures serves inv post program d) :
    inv d := by
  induction program with
  | done result => exact ensured.1
  | note record rest ih => exact ih ensured
  | call made rest ih => exact ensured.1

theorem ensures_quiet {post : α → D → Prop} {program : Program I α} {d : D} :
    Ensures serves inv post program.quiet d ↔ Ensures serves inv post program d := by
  induction program with
  | done result => rfl
  | note record rest ih => exact ih
  | call made rest ih => rfl

/-- What is ensured is ensured behind the next call. -/
theorem Ensures.of_call {post : α → D → Prop} {program : Program I α} {made : I.Call}
    {rest : I.Reply made → Program I α} {reply : I.Reply made} {d d' : D}
    (ensured : Ensures serves inv post program d) (shape : program.quiet = .call made rest)
    (served : serves d made reply d') :
    Ensures serves inv post (rest reply) d' := by
  rw [← ensures_quiet, shape] at ensured
  exact ensured.2 reply d' served

theorem Ensures.of_done {post : α → D → Prop} {program : Program I α} {result : α} {d : D}
    (ensured : Ensures serves inv post program d) (shape : program.quiet = .done result) :
    post result d := by
  rw [← ensures_quiet, shape] at ensured
  exact ensured.2

theorem Ensures.of_runs {post : α → D → Prop} {program : Program I α} {d d' : D}
    {result : α} (ensured : Ensures serves inv post program d)
    (run : Runs serves program d result d') :
    post result d' := by
  induction run with
  | done result d => exact ensured.2
  | note record run ih => exact ih ensured
  | call served run ih => exact ih (ensured.2 _ _ served)

/-- What follows from what is ensured at the end is ensured at the end. -/
theorem Ensures.mono {post post' : α → D → Prop} {program : Program I α} {d : D}
    (ensured : Ensures serves inv post program d)
    (weaker : ∀ result d', post result d' → post' result d') :
    Ensures serves inv post' program d := by
  induction program generalizing d with
  | done result => exact ⟨ensured.1, weaker _ _ ensured.2⟩
  | note record rest ih => exact ih ensured
  | call made rest ih =>
      exact ⟨ensured.1, fun reply d' served => ih reply (ensured.2 reply d' served)⟩

/-- What is ensured with more ways to serve a call is ensured with fewer. -/
theorem Ensures.restrict {serves' : D → (made : I.Call) → I.Reply made → D → Prop}
    (fewer : ∀ d made reply d', serves' d made reply d' → serves d made reply d')
    {post : α → D → Prop} {program : Program I α} {d : D}
    (ensured : Ensures serves inv post program d) :
    Ensures serves' inv post program d := by
  induction program generalizing d with
  | done result => exact ensured
  | note record rest ih => exact ih ensured
  | call made rest ih =>
      exact ⟨ensured.1, fun reply d' served =>
        ih reply (ensured.2 reply d' (fewer _ _ _ _ served))⟩

theorem Ensures.ask {post : α → D → Prop} {made : I.Call}
    {next : I.Reply made → Program I α} {d : D} (holds : inv d)
    (replied : ∀ reply d', serves d made reply d' →
      Ensures serves inv post (next reply) d') :
    Ensures serves inv post ((Program.ask made).bind next) d := by
  exact ⟨holds, replied⟩

theorem ensures_true (program : Program I α) (d : D) :
    Ensures serves (fun _ => True) (fun _ _ => True) program d := by
  induction program generalizing d with
  | done result => exact ⟨trivial, trivial⟩
  | note record rest ih => exact ih d
  | call made rest ih => exact ⟨trivial, fun reply d' _ => ih reply d'⟩

/-- A program ensures as much among more parties, if its own parties serve it alike. -/
theorem Ensures.onFirst {J : Interface}
    {serves' : D → (made : (I.both J).Call) → (I.both J).Reply made → D → Prop}
    (alike : ∀ d made reply d', serves' d (.inl made) reply d' → serves d made reply d')
    {post : α → D → Prop} {program : Program I α} {d : D}
    (ensured : Ensures serves inv post program d) :
    Ensures serves' inv post (program.onFirst (J := J)) d := by
  induction program generalizing d with
  | done result => exact ensured
  | note record rest ih => exact ih ensured
  | call made rest ih =>
      exact ⟨ensured.1, fun reply d' served =>
        ih reply (ensured.2 reply d' (alike _ _ _ _ served))⟩

theorem Runs.bind {program : Program I α} {next : α → Program I β} {d d' d'' : D}
    {result : α} {last : β} (run : Runs serves program d result d')
    (then_run : Runs serves (next result) d' last d'') :
    Runs serves (program.bind next) d last d'' := by
  induction run with
  | done result d => exact then_run
  | note record run ih => exact .note record (ih then_run)
  | call served run ih => exact .call served (ih then_run)

end Served

end Program
end OutboxRelay
