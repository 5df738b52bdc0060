import OutboxRelay.Proofs.Json.Literal
import OutboxRelay.Proofs.Json.Quotation

/-!
# Skipping a tree

Every text of a tree is skipped, whatever its strings and numbers mean and however deep
it is.

**Method.** A stage is what the stack machine has before it, wherever that stands.  One
stage leads to another in some rounds, and the rounds of a tree are fewer than twice its
octets, by induction on the tree.
-/

namespace OutboxRelay
namespace Json

open Reader (Reads)

/-! ## Lexemes -/

/-- Some octets are passed over up to a rest. -/
def Passes (skip : Cursor → Except Fault Cursor) (input rest : Bytes) : Prop :=
  ∀ offset, ∃ behind, skip ⟨offset, input⟩ = .ok ⟨behind, rest⟩

/-- What goes on like something else passes the same. -/
theorem Passes.of_step {skip other : Cursor → Except Fault Cursor}
    {input middle rest : Bytes}
    (step : ∀ offset, ∃ between, skip ⟨offset, input⟩ = other ⟨between, middle⟩)
    (h : Passes other middle rest) : Passes skip input rest := by
  intro offset
  obtain ⟨between, step⟩ := step offset
  obtain ⟨behind, h⟩ := h between
  exact ⟨behind, step.trans h⟩

/-- What passes over octets behind the next one. -/
theorem Passes.behind {skip : Cursor → Except Fault Cursor} {input rest : Bytes}
    (h : Passes skip input rest) (b : UInt8) :
    Passes (fun c => skip (c.skip 1)) (b :: input) rest :=
  fun offset => h (offset + 1)

/-- What passes over octets reads nothing of them. -/
theorem Passes.reads {skip : Cursor → Except Fault Cursor} {input rest : Bytes}
    (h : Passes skip input rest) : Reads (Reader.passing skip) input () rest := by
  intro offset
  obtain ⟨behind, h⟩ := h offset
  exact ⟨behind, by rw [Reader.passing, h]; rfl⟩

theorem passes_word (wanted rest : Bytes) : Passes (word wanted) (wanted ++ rest) rest := by
  induction wanted with
  | nil => exact fun offset => ⟨offset, rfl⟩
  | cons b wanted ih =>
      refine Passes.of_step (fun offset => ⟨offset + 1, ?_⟩) ih
      simp only [List.cons_append, word, if_true, Cursor.skip, List.drop_succ_cons,
        List.drop_zero]

/-- The length of an escape behind its backslash. -/
theorem skipEscape_unit {p q r s : UInt8} {value : Nat} (h : hexValue? p q r s = some value)
    (offset : Nat) (rest : Bytes) :
    skipEscape ⟨offset, 0x75 :: p :: q :: r :: s :: rest⟩ = .ok 5 := by
  have hletter : letterEscape? 0x75 = none := by decide
  simp only [skipEscape, hletter, Option.isSome_none, Bool.false_eq_true, if_false, if_true,
    Cursor.skip, List.drop_succ_cons, List.drop_zero, hexQuad_of_hexValue? h]
  rfl

theorem skipStringFrom_escape {rest : Bytes} {offset length : Nat}
    (h : skipEscape ⟨offset + 1, rest⟩ = .ok length) :
    skipStringFrom offset (0x5C :: rest) =
      skipStringFrom (offset + 1 + length) (rest.drop length) := by
  rw [skipStringFrom]
  simp only [show (0x5C : UInt8) ≠ 0x22 by decide, if_false, if_true, h]

/-- A string is passed over up to its closing mark. -/
theorem passes_string (q : Quotation) (rest : Bytes) :
    Passes (fun c => skipStringFrom c.offset c.rest) (q.inner ++ 0x22 :: rest) rest := by
  obtain ⟨pieces⟩ := q
  simp only [Quotation.inner]
  induction pieces with
  | nil =>
      intro offset
      refine ⟨offset + 1, ?_⟩
      simp only [List.flatMap_nil, List.nil_append]
      rw [skipStringFrom]
      simp
  | cons piece pieces ih =>
      cases piece with
      | plain octet ordinary =>
          refine Passes.of_step (fun offset => ⟨offset + 1, ?_⟩) ih
          simp only [List.flatMap_cons, Piece.octets, List.cons_append, List.nil_append]
          rw [skipStringFrom]
          simp only [ordinary, if_false]
      | letter octet meant known =>
          refine Passes.of_step (fun offset => ⟨offset + 1 + 1, ?_⟩) ih
          have hlength (offset : Nat) (more : Bytes) :
              skipEscape ⟨offset, octet :: more⟩ = .ok 1 := by
            simp only [skipEscape, known, Option.isSome_some, if_true]
          exact skipStringFrom_escape (hlength _ _)
      | unit p q r s value read =>
          refine Passes.of_step (fun offset => ⟨offset + 1 + 5, ?_⟩) ih
          exact skipStringFrom_escape (skipEscape_unit read _ _)

section Numbers

variable (x : Literal) {rest : Bytes}

theorem skipDigits_append (digits : Digits) (h : NoDigit rest) (offset : Nat) :
    Cursor.skipDigits ⟨offset, digits.octets ++ rest⟩ =
      ⟨offset + digits.octets.length, rest⟩ := by
  simp only [Cursor.skipDigits, digits.takeWhile_append h, Cursor.skip, List.drop_left]

theorem passes_exponent (exponent : Exponent) (h : Stops rest) :
    Passes skipExponent (exponent.octets ++ rest) rest := by
  intro offset
  obtain ⟨b, more, hx, hb⟩ := exponent.digits.exists_cons
  obtain ⟨hplus, hminus, -⟩ := ne_of_isDigit hb
  obtain ⟨mark, isMark, sign, isSign, digits⟩ := exponent
  have hskip (offset : Nat) := skipDigits_append digits h.noDigit offset
  simp only at hx
  simp only [hx, List.cons_append] at hskip
  rcases sign with _ | sign
  · refine ⟨offset + 1 + (b :: more).length, ?_⟩
    simp only [skipExponent, Exponent.octets, Option.toList_none, List.nil_append,
      List.cons_append, Cursor.skip, List.drop_succ_cons, List.drop_zero, hx, hplus, hminus,
      decide_false, Bool.or_self, Bool.false_eq_true, if_false, hb, if_true, hskip]
  · have hsign : (sign = 0x2B || sign = 0x2D) = true := by simpa using isSign sign rfl
    refine ⟨offset + 1 + 1 + (b :: more).length, ?_⟩
    simp only [skipExponent, Exponent.octets, Option.toList_some, List.nil_append,
      List.cons_append, Cursor.skip, List.drop_succ_cons, List.drop_zero, hx, hsign,
      hb, if_true, hskip]

theorem passes_exponentIfAny (h : Stops rest) :
    Passes skipExponentIfAny (x.exponentOctets ++ rest) rest := by
  unfold Literal.exponentOctets
  cases x.exponent with
  | none =>
      intro offset
      cases rest with
      | nil => exact ⟨offset, rfl⟩
      | cons b rest =>
          obtain ⟨-, -, he, hE⟩ := not_numeric_of_stop (h b rfl)
          exact ⟨offset, by simp [skipExponentIfAny, he, hE]⟩
  | some exponent =>
      refine Passes.of_step (fun offset => ⟨offset, ?_⟩) (passes_exponent exponent h)
      have hmark : (exponent.mark = 0x65 || exponent.mark = 0x45) = true := by
        simpa using exponent.isMark
      simp only [skipExponentIfAny, Exponent.octets, List.cons_append, hmark, if_true]

theorem passes_fraction (h : Stops rest) :
    Passes skipFraction (x.fractionOctets ++ (x.exponentOctets ++ rest)) rest := by
  cases hfraction : x.fraction with
  | none =>
      refine Passes.of_step (fun offset => ⟨offset, ?_⟩) (passes_exponentIfAny x h)
      have hpoint := x.exponentOctets_noPoint h
      simp only [skipFraction, Literal.fractionOctets, hfraction, List.nil_append]
      cases hrest : x.exponentOctets ++ rest with
      | nil => rfl
      | cons b more =>
          have hb : b ≠ 0x2E := hpoint b (by simp [hrest])
          simp only [hb, if_false]
  | some digits =>
      refine Passes.of_step (fun offset => ⟨offset + 1 + digits.octets.length, ?_⟩)
        (passes_exponentIfAny x h)
      obtain ⟨b, more, hx, -⟩ := digits.exists_cons
      have hlength : offset + 1 + digits.octets.length ≠ offset + 1 := by
        simp [hx]
      simp only [skipFraction, Literal.fractionOctets, hfraction, List.cons_append, if_true,
        Cursor.skip, List.drop_succ_cons, List.drop_zero,
        skipDigits_append digits (x.exponentOctets_noDigit h), hlength, if_false]

/-- A number is passed over, whether it is within range or not. -/
theorem passes_number (h : Stops rest) : Passes skipNumber (x.unsignedOctets ++ rest) rest := by
  obtain ⟨b, more, hx, hb⟩ := x.whole.exists_cons
  rw [Literal.unsignedOctets, List.append_assoc, List.append_assoc]
  have hdigit := x.fractionOctets_noDigit h
  by_cases hzero : b = 0x30
  · subst hzero
    have hwhole : x.whole.octets = [0x30] := x.first (by simp [hx])
    refine Passes.of_step (fun offset => ⟨offset + 1, ?_⟩) (passes_fraction x h)
    simp only [skipNumber, hwhole, List.cons_append, List.nil_append, if_true, Cursor.skip,
      List.drop_succ_cons, List.drop_zero]
    cases hrest : x.fractionOctets ++ (x.exponentOctets ++ rest) with
    | nil => rfl
    | cons d others =>
        have hd : isDigit d = false := hdigit d (by simp [hrest])
        simp only [hd, Bool.false_eq_true, if_false]
  · refine Passes.of_step (fun offset => ⟨offset + x.whole.octets.length, ?_⟩)
      (passes_fraction x h)
    have hskip := skipDigits_append x.whole hdigit
    simp only [hx, List.cons_append] at hskip ⊢
    simp only [skipNumber, hzero, if_false, hb, if_true, hskip]

end Numbers

/-! ## The stack machine -/

/-- What the stack machine has before it, wherever that stands. -/
structure Stage where
  brackets : List Bracket
  expects : Expectation
  rest : Bytes

namespace Stage

/-- The state of skipping at a stage and an offset. -/
def skipping (s : Stage) (offset : Nat) : Skipping :=
  ⟨s.brackets, s.expects, ⟨offset, s.rest⟩⟩

/-- One stage leads to another in so many rounds. -/
def Reaches (rounds : Nat) (s s' : Stage) : Prop :=
  ∀ offset, ∃ behind, ∀ more,
    Skipping.finish (more + rounds) (s.skipping offset) = Skipping.finish more (s'.skipping behind)

theorem Reaches.trans {m n : Nat} {s s' s'' : Stage} (first : Reaches m s s')
    (second : Reaches n s' s'') : Reaches (m + n) s s'' := by
  intro offset
  obtain ⟨between, first⟩ := first offset
  obtain ⟨behind, second⟩ := second between
  refine ⟨behind, fun more => ?_⟩
  rw [show more + (m + n) = more + n + m by omega, first, second]

/-- A round at a value. -/
theorem reaches_value {brackets : List Bracket} {input : Bytes} {s : Stage}
    (h : ∀ offset, ∃ behind,
      (skipping ⟨brackets, .value, input⟩ offset).value = .ok (s.skipping behind)) :
    Reaches 1 ⟨brackets, .value, input⟩ s := by
  intro offset
  obtain ⟨behind, h⟩ := h offset
  exact ⟨behind, fun more => by simp only [Skipping.finish, skipping] at h ⊢; rw [h]⟩

/-- A round inside a bracket. -/
theorem reaches_follow {bracket : Bracket} {brackets : List Bracket} {input : Bytes}
    {expects : Expectation} (hexpects : expects ≠ .value) {s : Stage}
    (h : ∀ offset, ∃ behind,
      (skipping ⟨bracket :: brackets, expects, input⟩ offset).follow bracket brackets =
        .ok (s.skipping behind)) :
    Reaches 1 ⟨bracket :: brackets, expects, input⟩ s := by
  intro offset
  obtain ⟨behind, h⟩ := h offset
  refine ⟨behind, fun more => ?_⟩
  cases expects with
  | value => exact absurd rfl hexpects
  | opened => simp only [Skipping.finish, skipping] at h ⊢; rw [h]
  | separated => simp only [Skipping.finish, skipping] at h ⊢; rw [h]

end Stage

open Stage (Reaches)

section Rounds

variable {brackets : List Bracket} {before rest : Bytes}

/-- The closing octet ends the innermost bracket. -/
theorem reaches_closing (bracket : Bracket) {expects : Expectation}
    (hexpects : expects ≠ .value) (h : Blank before) :
    Reaches 1 ⟨bracket :: brackets, expects, before ++ bracket.closing :: rest⟩
      ⟨brackets, .separated, rest⟩ := by
  refine Stage.reaches_follow hexpects fun offset => ⟨offset + before.length + 1, ?_⟩
  have solid : Solid (bracket.closing :: rest) := by
    cases bracket <;> exact Solid.cons (by decide) rest
  simp only [Skipping.follow, Stage.skipping, Cursor.skipBlanks, skipBlanksFrom_append h solid,
    if_true, Cursor.skip, List.drop_succ_cons, List.drop_zero]
  rfl

/-- Behind an opening bracket the first item is on the way to its value. -/
theorem reaches_first {bracket : Bracket} {b : UInt8} {input middle : Bytes}
    (h : Blank before) (hb : isBlank b = false) (hclosing : b ≠ bracket.closing)
    (key : Passes (skipKey bracket) (b :: input) middle) :
    Reaches 1 ⟨bracket :: brackets, .opened, before ++ b :: input⟩
      ⟨bracket :: brackets, .value, middle⟩ := by
  refine Stage.reaches_follow (by decide) fun offset => ?_
  obtain ⟨behind, key⟩ := key (offset + before.length)
  refine ⟨behind, ?_⟩
  simp only [Skipping.follow, Stage.skipping, Cursor.skipBlanks,
    skipBlanksFrom_append h (Solid.cons hb input), hclosing, if_false, if_true, key]
  rfl

/-- Behind a comma the next item is on the way to its value. -/
theorem reaches_next {bracket : Bracket} {input middle : Bytes} (h : Blank before)
    (key : Passes (skipKey bracket) input middle) :
    Reaches 1 ⟨bracket :: brackets, .separated, before ++ 0x2C :: input⟩
      ⟨bracket :: brackets, .value, middle⟩ := by
  refine Stage.reaches_follow (by decide) fun offset => ?_
  obtain ⟨behind, key⟩ := key (offset + before.length + 1)
  refine ⟨behind, ?_⟩
  have hcomma : (0x2C : UInt8) ≠ bracket.closing := by cases bracket <;> decide
  simp only [Skipping.follow, Stage.skipping, Cursor.skipBlanks,
    skipBlanksFrom_append h (Solid.cons (show isBlank 0x2C = false by decide) input), hcomma,
    reduceCtorEq, if_false, if_true, Cursor.skip, List.drop_succ_cons, List.drop_zero, key]
  rfl

end Rounds

/-! ## Items -/

/--
Whether the items of a language are skipped inside a bracket: their first octet does
not close it, their key leads to a value, and the value takes fewer rounds than twice
the octets of the item.
-/
structure SkipsItem (bracket : Bracket) (item : Language) : Prop where
  opens : ∀ inner, item inner → ∃ b more, inner = b :: more ∧ isBlank b = false ∧
    b ≠ bracket.closing
  skips : ∀ inner, item inner → ∀ before, Blank before → ∀ rest, Stops rest →
    ∃ middle, Passes (skipKey bracket) (before ++ (inner ++ rest)) middle ∧
      ∃ rounds < 2 * inner.length, ∀ brackets,
        Reaches rounds ⟨brackets, .value, middle⟩ ⟨brackets, .separated, rest⟩

/-- The octet that opens a bracket. -/
def Bracket.opening : Bracket → UInt8
  | list => 0x5B
  | object => 0x7B

theorem Bracket.closing_cases (bracket : Bracket) :
    bracket.closing = 0x5D ∨ bracket.closing = 0x7D := by
  cases bracket <;> simp [Bracket.closing]

/-- What stands behind an item is skipped up to the end of the bracket. -/
theorem exists_reaches_of_following (bracket : Bracket) {items : List Language}
    (hitems : ∀ item ∈ items, SkipsItem bracket item) {others : Bytes}
    (h : following items others) (rest : Bytes) :
    ∃ rounds ≤ 2 * others.length + 1, ∀ brackets,
      Reaches rounds ⟨bracket :: brackets, .separated, others ++ bracket.closing :: rest⟩
        ⟨brackets, .separated, rest⟩ := by
  induction items generalizing others with
  | nil => exact ⟨1, by omega, fun _ => reaches_closing bracket (by decide) h⟩
  | cons item items ih =>
      obtain ⟨after, before, inner, others, rfl, hafter, hbefore, hinner, hothers⟩ := h
      obtain ⟨last, hlast, closes⟩ := ih (fun item hitem => hitems item (by simp [hitem])) hothers
      have stops := stops_of_following hothers bracket.closing_cases rest
      obtain ⟨middle, key, rounds, hrounds, value⟩ :=
        (hitems item (by simp)).skips inner hinner before hbefore _ stops
      refine ⟨1 + (rounds + last), ?_, ?_⟩
      · simp only [List.length_append, List.length_cons]
        omega
      · intro brackets
        simp only [List.append_assoc, List.cons_append]
        exact (reaches_next hafter key).trans ((value _).trans (closes brackets))

/-- What stands in a bracket is skipped up to its end. -/
theorem exists_reaches_of_row (bracket : Bracket) {items : List Language}
    (hitems : ∀ item ∈ items, SkipsItem bracket item) {inner : Bytes} (h : row items inner)
    (rest : Bytes) :
    ∃ rounds ≤ 2 * inner.length + 1, ∀ brackets,
      Reaches rounds ⟨bracket :: brackets, .opened, inner ++ bracket.closing :: rest⟩
        ⟨brackets, .separated, rest⟩ := by
  cases items with
  | nil => exact ⟨1, by omega, fun _ => reaches_closing bracket (by decide) h⟩
  | cons item items =>
      obtain ⟨before, inner, others, rfl, hbefore, hinner, hothers⟩ := h
      obtain ⟨last, hlast, closes⟩ := exists_reaches_of_following bracket
        (fun item hitem => hitems item (by simp [hitem])) hothers rest
      have stops := stops_of_following hothers bracket.closing_cases rest
      obtain ⟨middle, key, rounds, hrounds, value⟩ :=
        (hitems item (by simp)).skips inner hinner [] Blank.nil _ stops
      obtain ⟨b, more, rfl, hb, hclosing⟩ := (hitems item (by simp)).opens inner hinner
      refine ⟨1 + (rounds + last), ?_, ?_⟩
      · simp only [List.length_append, List.length_cons] at hrounds ⊢
        omega
      · intro brackets
        simp only [List.append_assoc, List.cons_append]
        exact (reaches_first hbefore hb hclosing key).trans ((value _).trans (closes brackets))

/-! ## Trees -/

/-- The texts of a tree are skipped in fewer rounds than twice their octets. -/
def Skips (tree : Tree) : Prop :=
  ∀ octets, tree.language octets → ∀ before, Blank before → ∀ rest, Stops rest →
    ∃ rounds < 2 * octets.length, ∀ brackets,
      Reaches rounds ⟨brackets, .value, before ++ (octets ++ rest)⟩
        ⟨brackets, .separated, rest⟩

/-- The items of a list are skipped if their trees are. -/
theorem Skips.item {tree : Tree} (h : Skips tree) : SkipsItem .list tree.language where
  opens := by
    intro inner hinner
    obtain ⟨b, more, hb, opens⟩ := Tree.exists_opens hinner
    exact ⟨b, more, hb, opens.solid.1, opens.solid.2.1⟩
  skips := by
    intro inner hinner before hbefore rest stops
    exact ⟨_, fun offset => ⟨offset, rfl⟩, h inner hinner before hbefore rest stops⟩

/-- A key is passed over with its colon. -/
theorem passes_key (name : Quotation) {before after : Bytes} (hbefore : Blank before)
    (hafter : Blank after) (rest : Bytes) :
    Passes (skipKey .object)
      (before ++ 0x22 :: (name.inner ++ 0x22 :: (after ++ 0x3A :: rest))) rest := by
  intro offset
  obtain ⟨behind, hname⟩ :=
    passes_string name (after ++ 0x3A :: rest) (offset + before.length + 1)
  refine ⟨behind + after.length + 1, ?_⟩
  have hmark := Solid.cons (show isBlank 0x22 = false by decide)
    (name.inner ++ 0x22 :: (after ++ 0x3A :: rest))
  have hcolon := Solid.cons (show isBlank 0x3A = false by decide) rest
  simp only [skipKey, Cursor.skipBlanks, skipBlanksFrom_append hbefore hmark, ne_eq, not_true,
    if_false]
  simp only at hname
  simp only [hname, Bind.bind, Except.bind, skipBlanksFrom_append hafter hcolon, if_true,
    Cursor.skip, List.drop_succ_cons, List.drop_zero]
  rfl

/-- The members of an object are skipped if the trees of their values are. -/
theorem Skips.member {tree : Tree} (h : Skips tree) (name : Quotation) :
    SkipsItem .object (memberLanguage name tree.language) where
  opens := by
    rintro inner ⟨after, before, octets, rfl, -⟩
    exact ⟨0x22, _, rfl, by decide, by decide⟩
  skips := by
    rintro inner ⟨after, between, octets, rfl, hafter, hbetween, hoctets⟩ before hbefore rest stops
    obtain ⟨rounds, hrounds, value⟩ := h octets hoctets between hbetween rest stops
    refine ⟨_, ?_, rounds, ?_, value⟩
    · simp only [Quotation.octets, List.cons_append, List.append_assoc, List.nil_append]
      exact passes_key name hbefore hafter _
    · simp only [List.length_append, List.length_cons]
      omega

section Values

variable {brackets : List Bracket} {before rest : Bytes}

/-- A value without inner structure takes one round. -/
theorem reaches_lexeme {skip : Cursor → Except Fault Cursor} {b : UInt8} {input : Bytes}
    (hskip : Passes skip (b :: input) rest)
    (hvalue : ∀ offset, Skipping.value ⟨brackets, .value, ⟨offset, b :: input⟩⟩ =
      (fun behind => ⟨brackets, .separated, behind⟩) <$> skip ⟨offset, b :: input⟩)
    (hb : isBlank b = false) (hbefore : Blank before) :
    Reaches 1 ⟨brackets, .value, before ++ b :: input⟩ ⟨brackets, .separated, rest⟩ := by
  refine Stage.reaches_value fun offset => ?_
  obtain ⟨behind, hskip⟩ := hskip (offset + before.length)
  refine ⟨behind, ?_⟩
  have hnone := skipBlanksFrom_append Blank.nil (Solid.cons hb input) (offset + before.length)
  simp only [List.nil_append, List.length_nil, Nat.add_zero] at hnone
  have h := hvalue (offset + before.length)
  rw [hskip] at h
  simp only [Skipping.value, Stage.skipping, Cursor.skipBlanks, hnone,
    skipBlanksFrom_append hbefore (Solid.cons hb input)] at h ⊢
  exact h

/-- An opening bracket takes one round. -/
theorem reaches_opening (bracket : Bracket) (hbefore : Blank before) (input : Bytes) :
    Reaches 1 ⟨brackets, .value, before ++ bracket.opening :: input⟩
      ⟨bracket :: brackets, .opened, input⟩ := by
  refine Stage.reaches_value fun offset => ⟨offset + before.length + 1, ?_⟩
  have solid : Solid (bracket.opening :: input) := by
    cases bracket <;> exact Solid.cons (by decide) input
  simp only [Skipping.value, Stage.skipping, Cursor.skipBlanks,
    skipBlanksFrom_append hbefore solid]
  cases bracket <;> rfl

/-- A tree in brackets takes a round to open, and those of its row. -/
theorem exists_reaches_of_bracketed {bracket : Bracket} {items : List Language}
    (hitems : ∀ item ∈ items, SkipsItem bracket item) {octets : Bytes}
    (h : bracketed bracket.opening bracket.closing items octets) (hbefore : Blank before)
    (rest : Bytes) :
    ∃ rounds < 2 * octets.length, ∀ brackets,
      Reaches rounds ⟨brackets, .value, before ++ (octets ++ rest)⟩
        ⟨brackets, .separated, rest⟩ := by
  obtain ⟨inner, rfl, hrow⟩ := h
  obtain ⟨rounds, hrounds, row⟩ := exists_reaches_of_row bracket hitems hrow rest
  refine ⟨1 + rounds, ?_, fun brackets => ?_⟩
  · simp only [List.length_append, List.length_cons, List.length_nil]
    omega
  · simp only [List.cons_append, List.append_assoc, List.nil_append]
    exact (reaches_opening bracket hbefore _).trans (row brackets)

end Values

/-- A number is skipped from its first digit on. -/
theorem value_of_isDigit (brackets : List Bracket) (offset : Nat) {b : UInt8}
    (h : isDigit b = true) (input : Bytes) :
    Skipping.value ⟨brackets, .value, ⟨offset, b :: input⟩⟩ =
      (fun behind => ⟨brackets, .separated, behind⟩) <$> skipNumber ⟨offset, b :: input⟩ := by
  have hnone := skipBlanksFrom_append Blank.nil (Solid.cons (isBlank_of_isDigit h) input) offset
  simp only [List.nil_append, List.length_nil, Nat.add_zero] at hnone
  have hword : b ≠ 0x6E ∧ b ≠ 0x74 ∧ b ≠ 0x66 := by
    refine ⟨?_, ?_, ?_⟩ <;> rintro rfl <;> simp [isDigit] at h
  simp only [Skipping.value, Cursor.skipBlanks, hnone, hword, (ne_of_isDigit h).2.1, if_false, h,
    if_true]

/-- The value of a number is skipped from its sign or its first digit on. -/
theorem skips_number (literal : Literal) : Skips (.number literal) := by
  rintro octets rfl before hbefore rest stops
  obtain ⟨b, more, hx, hb⟩ := literal.whole.exists_cons
  have hnumber := passes_number literal stops
  cases hsign : literal.negative with
  | true =>
      have hoctets : literal.octets = 0x2D :: literal.unsignedOctets := by
        rw [Literal.octets, if_pos hsign]
      rw [hoctets]
      refine ⟨1, by simp; omega, fun brackets => ?_⟩
      exact reaches_lexeme (hnumber.behind 0x2D) (fun offset => rfl) (by decide) hbefore
  | false =>
      have hoctets : literal.octets = literal.unsignedOctets := by
        simp [Literal.octets, hsign]
      have hcons : literal.unsignedOctets =
          b :: (more ++ (literal.fractionOctets ++ literal.exponentOctets)) := by
        rw [Literal.unsignedOctets, hx, List.cons_append]
      rw [hcons, List.cons_append] at hnumber
      rw [hoctets, hcons, List.cons_append]
      refine ⟨1, by simp; omega, fun brackets => ?_⟩
      refine reaches_lexeme hnumber (fun offset => ?_) (isBlank_of_isDigit hb) hbefore
      exact value_of_isDigit brackets offset hb _

/-- Every tree is skipped. -/
theorem skips (tree : Tree) : Skips tree := by
  induction tree with
  | null =>
      rintro octets rfl before hbefore rest -
      refine ⟨1, by decide, fun brackets => ?_⟩
      exact reaches_lexeme ((passes_word nullTail rest).behind _) (fun offset => rfl)
        (by decide) hbefore
  | boolean value =>
      rintro octets h before hbefore rest -
      cases value with
      | true =>
          obtain rfl : octets = _ := h
          refine ⟨1, by decide, fun brackets => ?_⟩
          exact reaches_lexeme ((passes_word trueTail rest).behind _) (fun offset => rfl)
            (by decide) hbefore
      | false =>
          obtain rfl : octets = _ := h
          refine ⟨1, by decide, fun brackets => ?_⟩
          exact reaches_lexeme ((passes_word falseTail rest).behind _) (fun offset => rfl)
            (by decide) hbefore
  | number literal => exact skips_number literal
  | text quotation =>
      rintro octets rfl before hbefore rest -
      refine ⟨1, by simp [Quotation.octets]; omega, fun brackets => ?_⟩
      simp only [Quotation.octets, List.cons_append, List.append_assoc, List.nil_append]
      exact reaches_lexeme ((passes_string quotation rest).behind _) (fun offset => rfl)
        (by decide) hbefore
  | list items ih =>
      rintro octets h before hbefore rest -
      have hitems : ∀ item ∈ itemLanguages items, SkipsItem .list item := by
        rw [itemLanguages_eq_map]
        rintro item hitem
        obtain ⟨tree, htree, rfl⟩ := List.mem_map.mp hitem
        exact (ih tree htree).item
      exact exists_reaches_of_bracketed hitems h hbefore rest
  | object members ih =>
      rintro octets h before hbefore rest -
      have hitems : ∀ item ∈ memberLanguages members, SkipsItem .object item := by
        rw [memberLanguages_eq_map]
        rintro item hitem
        obtain ⟨member, hmember, rfl⟩ := List.mem_map.mp hitem
        exact (ih member hmember).member member.1
      exact exists_reaches_of_bracketed hitems h hbefore rest

/-- A value of any tree is skipped. -/
theorem passes_skipValue {tree : Tree} {octets before rest : Bytes} (h : tree.language octets)
    (hbefore : Blank before) (stops : Stops rest) :
    Passes skipValue (before ++ (octets ++ rest)) rest := by
  intro offset
  obtain ⟨rounds, hrounds, reaches⟩ := skips tree octets h before hbefore rest stops
  obtain ⟨behind, reaches⟩ := reaches [] offset
  obtain ⟨more, hmore⟩ : ∃ more, 2 * (before ++ (octets ++ rest)).length + 2 =
      more + 1 + rounds := by
    refine ⟨2 * (before ++ (octets ++ rest)).length + 1 - rounds, ?_⟩
    simp only [List.length_append]
    omega
  refine ⟨behind, ?_⟩
  rw [skipValue, hmore]
  exact reaches (more + 1)

end Json
end OutboxRelay
