import OutboxRelay.Json.Reader

/-!
# What a reader answers

The offset at which a text stands decides where a fault is placed and nothing else.  A
reader is therefore described by what it does with the octets that are left, wherever
they stand: it reads a value and leaves a rest, or it refuses.

**Method.** An answer is a value or none.  The answer of a sequence of readers is the
sequence of their answers, and each elementary reader has one lemma.
-/

namespace OutboxRelay
namespace Json

/-! ## Results that may fail -/

section Results

variable {ε ε' α β : Type} {x : Except ε α} {a : α}

theorem eq_ok_of_toOption (h : x.toOption = some a) : x = .ok a := by
  cases x with
  | error error => cases h
  | ok found =>
      obtain rfl : found = a := Option.some.inj h
      rfl

/-- A fault goes through a sequence, so that a sequence without one has none in its parts. -/
theorem exists_ok_of_bind {next : α → Except ε β} {b : β} (h : x >>= next = .ok b) :
    ∃ a, x = .ok a ∧ next a = .ok b := by
  cases x with
  | error error => cases h
  | ok a => exact ⟨a, rfl, h⟩

theorem exists_of_map {f : α → β} {b : β} (h : x.map f = .ok b) : ∃ a, x = .ok a ∧ f a = b := by
  cases x with
  | error error => cases h
  | ok a => exact ⟨a, rfl, Except.ok.inj h⟩

theorem eq_ok_of_mapError {f : ε → ε'} (h : x.mapError f = .ok a) : x = .ok a := by
  cases x with
  | error error => cases h
  | ok found => exact congrArg Except.ok (Except.ok.inj h)

theorem exists_of_mapError {f : ε → ε'} {error : ε'} (h : x.mapError f = .error error) :
    ∃ cause, x = .error cause ∧ f cause = error := by
  cases x with
  | error cause => exact ⟨cause, rfl, Except.error.inj h⟩
  | ok found => cases h

end Results

/-! ## Blanks -/

/-- Whether octets are blank. -/
def Blank (octets : Bytes) : Prop :=
  ∀ b ∈ octets, isBlank b = true

/-- Whether octets do not start with a blank one. -/
def Solid (octets : Bytes) : Prop :=
  ∀ b ∈ octets.head?, isBlank b = false

theorem Blank.nil : Blank [] := by
  simp [Blank]

theorem Solid.nil : Solid [] := by
  simp [Solid]

theorem Solid.cons {b : UInt8} (h : isBlank b = false) (rest : Bytes) : Solid (b :: rest) := by
  simpa [Solid] using h

/-- Any octets are blanks and what is behind them. -/
theorem exists_blank_append (input : Bytes) :
    ∃ before rest, input = before ++ rest ∧ Blank before ∧ Solid rest := by
  induction input with
  | nil => exact ⟨[], [], rfl, Blank.nil, Solid.nil⟩
  | cons b input ih =>
      cases hb : isBlank b with
      | false => exact ⟨[], b :: input, rfl, Blank.nil, Solid.cons hb input⟩
      | true =>
          obtain ⟨before, rest, rfl, hbefore, hrest⟩ := ih
          exact ⟨b :: before, rest, rfl, List.forall_mem_cons.mpr ⟨hb, hbefore⟩, hrest⟩

/-- Blanks are passed over up to what is not blank. -/
theorem skipBlanksFrom_append {before : Bytes} (h : Blank before) {input : Bytes}
    (solid : Solid input) (offset : Nat) :
    skipBlanksFrom offset (before ++ input) = ⟨offset + before.length, input⟩ := by
  induction before generalizing offset with
  | nil =>
      cases input with
      | nil => rfl
      | cons b rest =>
          have hb : isBlank b = false := solid b rfl
          simp [skipBlanksFrom, hb]
  | cons b before ih =>
      have hb : isBlank b = true := h b (by simp)
      have hbefore : Blank before := fun c hc => h c (by simp [hc])
      simp only [List.cons_append, skipBlanksFrom, hb, if_true, ih hbefore, List.length_cons]
      congr 1
      omega

namespace Reader

variable {α β : Type}

/-! ## Answers -/

/-- From some octets on, a reader reads a value and leaves a rest. -/
def Reads (reader : Reader α) (input : Bytes) (a : α) (rest : Bytes) : Prop :=
  ∀ offset, ∃ behind, reader ⟨offset, input⟩ = .ok (a, ⟨behind, rest⟩)

/-- From some octets on, a reader fails. -/
def Refuses (reader : Reader α) (input : Bytes) : Prop :=
  ∀ offset, ∃ fault, reader ⟨offset, input⟩ = .error fault

/-- From some octets on, a reader reads a value and leaves a rest, or fails if there is none. -/
def Answers (reader : Reader α) (input : Bytes) (answer : Option α) (rest : Bytes) : Prop :=
  match answer with
  | some a => Reads reader input a rest
  | none => Refuses reader input

/-- What a result shows: the value that was read and the rest, but neither offset nor fault. -/
def seen : Except Fault (α × Cursor) → Option (α × Bytes)
  | .ok (a, c) => some (a, c.rest)
  | .error _ => none

/-- A reader answers what its results show. -/
theorem answers_iff_seen {reader : Reader α} {input rest : Bytes} {answer : Option α} :
    Answers reader input answer rest ↔
      ∀ offset, seen (reader ⟨offset, input⟩) = answer.map (·, rest) := by
  constructor
  · intro h offset
    cases answer with
    | none =>
        obtain ⟨fault, h⟩ := h offset
        simp [h, seen]
    | some a =>
        obtain ⟨behind, h⟩ := h offset
        simp [h, seen]
  · intro h
    cases answer with
    | none =>
        intro offset
        have shown := h offset
        cases result : reader ⟨offset, input⟩ with
        | error fault => exact ⟨fault, rfl⟩
        | ok found => simp [result, seen] at shown
    | some a =>
        intro offset
        have shown := h offset
        cases result : reader ⟨offset, input⟩ with
        | error fault => simp [result, seen] at shown
        | ok found =>
            obtain ⟨value, behind, left⟩ := found
            simp only [result, seen, Option.map_some, Option.some.injEq, Prod.mk.injEq] at shown
            exact ⟨behind, by rw [shown.1, shown.2]⟩

section Sequences

variable {reader : Reader α} {next : α → Reader β} {input middle rest : Bytes}

theorem Reads.pure (a : α) (input : Bytes) : Reads (pure a) input a input :=
  fun offset => ⟨offset, rfl⟩

theorem Reads.bind {a : α} {b : β} (first : Reads reader input a middle)
    (second : Reads (next a) middle b rest) : Reads (reader >>= next) input b rest := by
  intro offset
  obtain ⟨between, h⟩ := first offset
  obtain ⟨behind, h'⟩ := second between
  refine ⟨behind, ?_⟩
  change (reader ⟨offset, input⟩ >>= fun p => next p.1 p.2) = _
  rw [h]
  exact h'

theorem Reads.bind_refuses {a : α} (first : Reads reader input a middle)
    (second : Refuses (next a) middle) : Refuses (reader >>= next) input := by
  intro offset
  obtain ⟨between, h⟩ := first offset
  obtain ⟨fault, h'⟩ := second between
  refine ⟨fault, ?_⟩
  change (reader ⟨offset, input⟩ >>= fun p => next p.1 p.2) = _
  rw [h]
  exact h'

theorem Refuses.bind (first : Refuses reader input) : Refuses (reader >>= next) input := by
  intro offset
  obtain ⟨fault, h⟩ := first offset
  refine ⟨fault, ?_⟩
  change (reader ⟨offset, input⟩ >>= fun p => next p.1 p.2) = _
  rw [h]
  rfl

/-- Behind what is read for sure, the answer is the one of the next reader. -/
theorem Reads.before {a : α} {answer : Option β} (first : Reads reader input a middle)
    (second : Answers (next a) middle answer rest) :
    Answers (reader >>= next) input answer rest := by
  cases answer with
  | none => exact first.bind_refuses second
  | some b => exact first.bind second

/-- The answer of a sequence is the sequence of the answers. -/
theorem Answers.bind {first : Option α} {second : α → Option β}
    (h : Answers reader input first middle)
    (h' : ∀ a, first = some a → Answers (next a) middle (second a) rest) :
    Answers (reader >>= next) input (first.bind second) rest := by
  cases first with
  | none => exact Refuses.bind h
  | some a => exact Reads.before h (h' a rfl)

/-- A value is made of what was read, whatever else is read behind it. -/
theorem Answers.bind_map {answer : Option α} {f : α → β}
    (h : Answers reader input answer middle) (h' : ∀ a, Reads (next a) middle (f a) rest) :
    Answers (reader >>= next) input (answer.map f) rest := by
  rw [Option.map_eq_bind]
  exact h.bind fun a _ => h' a

/-- What is made of a value that was read. -/
theorem Answers.map {answer : Option α} (h : Answers reader input answer rest) (f : α → β) :
    Answers (do return f (← reader)) input (answer.map f) rest :=
  h.bind_map fun a => Reads.pure (f a) rest

/-- A reader that goes on like another one answers like it. -/
theorem Answers.of_step {other : Reader α} {answer : Option α}
    (step : ∀ offset, ∃ between, reader ⟨offset, input⟩ = other ⟨between, middle⟩)
    (h : Answers other middle answer rest) : Answers reader input answer rest := by
  cases answer with
  | none =>
      intro offset
      obtain ⟨between, step⟩ := step offset
      obtain ⟨fault, h⟩ := h between
      exact ⟨fault, step.trans h⟩
  | some a =>
      intro offset
      obtain ⟨between, step⟩ := step offset
      obtain ⟨behind, h⟩ := h between
      exact ⟨behind, step.trans h⟩

end Sequences

/-- As an answer, but of the rest only a property is known. -/
def AnswersLeaving (reader : Reader α) (input : Bytes) (answer : Option α)
    (Left : Bytes → Prop) : Prop :=
  match answer with
  | some a => ∃ rest, Left rest ∧ Reads reader input a rest
  | none => Refuses reader input

theorem Answers.bind_leaving {reader : Reader α} {next : α → Reader β} {input middle : Bytes}
    {first : Option α} {second : α → Option β} {Left : Bytes → Prop}
    (h : Answers reader input first middle)
    (h' : ∀ a, first = some a → AnswersLeaving (next a) middle (second a) Left) :
    AnswersLeaving (reader >>= next) input (first.bind second) Left := by
  cases first with
  | none => exact Refuses.bind h
  | some a =>
      have h' := h' a rfl
      rw [Option.bind_some]
      cases hsecond : second a with
      | none =>
          rw [hsecond] at h'
          exact Reads.bind_refuses h h'
      | some b =>
          rw [hsecond] at h'
          obtain ⟨rest, hrest, h'⟩ := h'
          exact ⟨rest, hrest, Reads.bind h h'⟩

theorem Reads.before_leaving {reader : Reader α} {next : α → Reader β} {input middle : Bytes}
    {a : α} {answer : Option β} {Left : Bytes → Prop} (h : Reads reader input a middle)
    (h' : AnswersLeaving (next a) middle answer Left) :
    AnswersLeaving (reader >>= next) input answer Left := by
  cases answer with
  | none => exact h.bind_refuses h'
  | some b =>
      obtain ⟨rest, hrest, h'⟩ := h'
      exact ⟨rest, hrest, h.bind h'⟩

theorem AnswersLeaving.map {reader : Reader α} {input : Bytes} {answer : Option α}
    {Left : Bytes → Prop} (h : AnswersLeaving reader input answer Left) (f : α → β) :
    AnswersLeaving (do return f (← reader)) input (answer.map f) Left := by
  cases answer with
  | none => exact Refuses.bind h
  | some a =>
      obtain ⟨rest, hrest, h⟩ := h
      exact ⟨rest, hrest, h.bind (Reads.pure (f a) rest)⟩

/-- A step on the way changes faults only. -/
theorem Answers.inside {reader : Reader α} {input rest : Bytes} {answer : Option α}
    (h : Answers reader input answer rest) (step : Step) :
    Answers (inside step reader) input answer rest := by
  cases answer with
  | none =>
      intro offset
      obtain ⟨fault, h⟩ := h offset
      exact ⟨fault.inside step, by rw [Reader.inside, h]; rfl⟩
  | some a =>
      intro offset
      obtain ⟨behind, h⟩ := h offset
      exact ⟨behind, by rw [Reader.inside, h]; rfl⟩

/-! ## Elementary readers -/

theorem refuses_failing (cause : Cause) (input : Bytes) :
    Refuses (failing cause : Reader α) input :=
  fun _ => ⟨_, rfl⟩

theorem refuses_failingAhead (cause : Cause) (input : Bytes) :
    Refuses (failingAhead cause : Reader α) input :=
  fun _ => ⟨_, rfl⟩

/-- Something else was wanted, whatever stands there. -/
theorem refuses_refusing (wanted : Wanted) (input : Bytes) :
    Refuses (refusing wanted : Reader α) input := by
  intro offset
  unfold refusing
  cases found ⟨offset, input⟩ with
  | ok result => exact ⟨_, rfl⟩
  | error fault => exact ⟨fault, rfl⟩

theorem reads_peek (input : Bytes) : Reads peek input input.head? input :=
  fun offset => ⟨offset, rfl⟩

theorem reads_advance (b : UInt8) (rest : Bytes) : Reads advance (b :: rest) () rest :=
  fun offset => ⟨offset + 1, rfl⟩

theorem reads_blanks {before input : Bytes} (h : Blank before) (solid : Solid input) :
    Reads blanks (before ++ input) () input :=
  fun offset => ⟨_, by rw [blanks, Cursor.skipBlanks, skipBlanksFrom_append h solid]⟩

/-- The first octet behind some blanks is found and not consumed. -/
theorem reads_firstOctet {before : Bytes} (h : Blank before) {b : UInt8}
    (hb : isBlank b = false) (rest : Bytes) :
    Reads firstOctet (before ++ b :: rest) b (b :: rest) :=
  (reads_blanks h (Solid.cons hb rest)).bind
    ((reads_peek (b :: rest)).bind (Reads.pure b (b :: rest)))

/-- A word whose octets are there is passed over. -/
theorem reads_word (wanted rest : Bytes) :
    Reads (passing (word wanted)) (wanted ++ rest) () rest := by
  have hword (offset : Nat) :
      word wanted ⟨offset, wanted ++ rest⟩ = .ok ⟨offset + wanted.length, rest⟩ := by
    induction wanted generalizing offset with
    | nil => rfl
    | cons b wanted ih =>
        simp only [List.cons_append, word, if_true, Cursor.skip, List.drop_succ_cons,
          List.drop_zero, ih, List.length_cons]
        congr 2
        omega
  exact fun offset => ⟨_, by rw [passing, hword]; rfl⟩

/-- What a whole text decodes to is what the reader answers, if only blanks follow. -/
theorem Answers.decode {reader : Reader α} {bytes after : Bytes} {answer : Option α}
    (h : Answers reader bytes answer after) (blank : Blank after) :
    (Reader.decode reader bytes).toOption = answer := by
  have hblanks : Reads blanks after () [] := by
    simpa using reads_blanks blank Solid.nil
  cases answer with
  | none =>
      have hwhole : Refuses (whole reader) bytes := Refuses.bind h
      obtain ⟨fault, hwhole⟩ := hwhole 0
      simp only [Reader.decode, Cursor.start, hwhole, Except.toOption]
  | some a =>
      have hwhole : Reads (whole reader) bytes a [] :=
        Reads.bind h (hblanks.bind ((reads_peek []).bind (Reads.pure a [])))
      obtain ⟨behind, hwhole⟩ := hwhole 0
      simp only [Reader.decode, Cursor.start, hwhole, Except.toOption]

end Reader
end Json
end OutboxRelay
