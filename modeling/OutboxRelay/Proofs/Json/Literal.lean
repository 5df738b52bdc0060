import OutboxRelay.Proofs.Json.Opening

/-!
# Reading numbers

A number as it is written is read as the number that it means, whatever follows it, as
long as that cannot belong to it.  A number is refused when it is beyond the range.

**Method.** Each part of a number is read by a function of its own.  Such a function is
steady on its part of the number: its answer is the one it gives when nothing follows.
-/

namespace OutboxRelay
namespace Json

open Reader (Answers seen answers_iff_seen)

/-! ## Digits -/

namespace Digits

theorem takeWhile_append (x : Digits) {rest : Bytes} (h : NoDigit rest) :
    (x.octets ++ rest).takeWhile isDigit = x.octets := by
  have hrest : rest.takeWhile isDigit = [] := by
    cases rest with
    | nil => rfl
    | cons b rest => simp [h b rfl]
  rw [List.takeWhile_append_of_pos x.digits, hrest, List.append_nil]

end Digits

namespace Literal

variable (x : Literal)

theorem exponentOctets_noDigit {rest : Bytes} (h : Stops rest) :
    NoDigit (x.exponentOctets ++ rest) := by
  unfold exponentOctets
  cases x.exponent with
  | none => exact h.noDigit
  | some exponent =>
      intro b hb
      obtain rfl : exponent.mark = b := by simpa [Exponent.octets] using hb
      rcases exponent.isMark with mark | mark <;> rw [mark] <;> decide

theorem exponentOctets_noPoint {rest : Bytes} (h : Stops rest) :
    ∀ b ∈ (x.exponentOctets ++ rest).head?, b ≠ 0x2E := by
  unfold exponentOctets
  cases x.exponent with
  | none => exact fun b hb => (not_numeric_of_stop (h b hb)).2.1
  | some exponent =>
      intro b hb
      obtain rfl : exponent.mark = b := by simpa [Exponent.octets] using hb
      rcases exponent.isMark with mark | mark <;> rw [mark] <;> decide

theorem fractionOctets_noDigit {rest : Bytes} (h : Stops rest) :
    NoDigit (x.fractionOctets ++ (x.exponentOctets ++ rest)) := by
  unfold fractionOctets
  cases x.fraction with
  | none => exact x.exponentOctets_noDigit h
  | some digits =>
      intro b hb
      obtain rfl : 0x2E = b := by simpa using hb
      decide

end Literal

/-! ## Steady readers -/

/-- Whether the answer at some octets is the same whatever follows. -/
def Steady (reader : Reader Numeral) (octets : Bytes) : Prop :=
  ∀ rest, Stops rest → ∀ offset offset',
    seen (reader ⟨offset, octets ++ rest⟩) =
      (seen (reader ⟨offset', octets ++ []⟩)).map fun found => (found.1, rest)

/-- What goes on like a steady reader is steady. -/
theorem Steady.of_step {reader other : Reader Numeral} {octets more : Bytes}
    (step : ∀ rest, Stops rest → ∀ offset, ∃ between,
      reader ⟨offset, octets ++ rest⟩ = other ⟨between, more ++ rest⟩)
    (h : Steady other more) : Steady reader octets := by
  intro rest stops offset offset'
  obtain ⟨between, hstep⟩ := step rest stops offset
  obtain ⟨between', hstep'⟩ := step [] Stops.nil offset'
  rw [hstep, hstep', h rest stops between between']

section Parts

variable (negative : Bool) (significand : Nat) (exponent : Int)

theorem seen_scaled (c : Cursor) :
    seen (scaled negative significand exponent c) =
      (Number.Magnitude.ofDecimal? significand exponent).map
        fun magnitude => (.float ⟨negative, magnitude⟩, c.rest) := by
  cases h : Number.Magnitude.ofDecimal? significand exponent <;> simp only [scaled, h] <;> rfl

theorem steady_scaled : Steady (scaled negative significand exponent) [] := by
  intro rest stops offset offset'
  simp [seen_scaled, Function.comp_def]

theorem steady_exponentTail (x : Exponent) :
    Steady (exponentTail negative significand exponent) x.octets := by
  intro rest stops offset offset'
  have htake := x.digits.takeWhile_append stops.noDigit
  have htake' := x.digits.takeWhile_append Stops.nil.noDigit
  obtain ⟨b, more, hx, hb⟩ := x.digits.exists_cons
  obtain ⟨hplus, hminus, -⟩ := ne_of_isDigit hb
  obtain ⟨mark, isMark, sign, isSign, digits⟩ := x
  simp only at htake htake' hx
  rw [hx, List.cons_append] at htake htake'
  -- a sign is passed over, and without one the first digit stands there
  rcases sign with _ | sign
  · simp only [exponentTail, Exponent.octets, Option.toList_none, List.nil_append,
      List.cons_append, Cursor.skip, List.drop_succ_cons, List.drop_zero, hx, hplus, hminus,
      if_false, hb, Bool.not_true, Bool.false_eq_true, htake, htake']
    split
    · simp [seen_scaled, Function.comp_def]
    · split <;> simp [seen]
  rcases isSign sign rfl with rfl | rfl
  · simp only [exponentTail, Exponent.octets, Option.toList_some, List.nil_append,
      List.cons_append, Cursor.skip, List.drop_succ_cons, List.drop_zero, hx, if_true,
      if_false, hb, Bool.not_true, Bool.false_eq_true, htake, htake']
    split
    · simp [seen_scaled, Function.comp_def]
    · split <;> simp [seen]
  · simp only [exponentTail, Exponent.octets, Option.toList_some, List.nil_append,
      List.cons_append, Cursor.skip, List.drop_succ_cons, List.drop_zero, hx, if_true,
      show (0x2D : UInt8) ≠ 0x2B by decide,
      if_false, hb, Bool.not_true, Bool.false_eq_true, htake, htake']
    split
    · simp [seen_scaled, Function.comp_def]
    · split <;> simp [seen]

/-- A number from behind its digits on, where an exponent may follow. -/
theorem steady_exponentIfAny {plain : Reader Numeral} (hplain : Steady plain [])
    (x : Literal) :
    Steady (fun c =>
      match c.rest with
      | b :: _ =>
          if b = 0x65 || b = 0x45 then exponentTail negative significand exponent c
          else plain c
      | [] => plain c) x.exponentOctets := by
  unfold Literal.exponentOctets
  cases x.exponent with
  | none =>
      refine Steady.of_step (fun rest stops offset => ⟨offset, ?_⟩) hplain
      cases rest with
      | nil => rfl
      | cons b rest =>
          obtain ⟨-, -, he, hE⟩ := not_numeric_of_stop (stops b rfl)
          simp [he, hE]
  | some exponent' =>
      refine Steady.of_step (fun rest stops offset => ⟨offset, ?_⟩)
        (steady_exponentTail negative significand exponent exponent')
      have hmark : (exponent'.mark = 0x65 || exponent'.mark = 0x45) = true := by
        simpa using exponent'.isMark
      simp only [Exponent.octets, List.cons_append, hmark, if_true]

theorem steady_fractionTail {x : Literal} {digits : Digits} (h : x.fraction = some digits) :
    Steady (fractionTail negative significand exponent)
      (x.fractionOctets ++ x.exponentOctets) := by
  obtain ⟨b, more, hx, hb⟩ := digits.exists_cons
  cases hfraction : fractionDigits significand digits.octets with
  | mk final taken =>
      refine Steady.of_step (fun rest stops offset => ⟨offset + 1 + digits.octets.length, ?_⟩)
        (steady_exponentIfAny negative final (exponent - taken)
          (steady_scaled negative final (exponent - taken)) x)
      have htake := digits.takeWhile_append (x.exponentOctets_noDigit stops)
      have hempty : digits.octets.isEmpty = false := by simp [hx]
      rw [List.append_assoc]
      generalize x.exponentOctets ++ rest = left at htake ⊢
      -- the number goes on as its end does, by what stands there
      cases left <;>
        simp only [fractionTail, Literal.fractionOctets, h, List.cons_append, Cursor.skip,
          List.drop_succ_cons, List.drop_zero, htake, hempty, Bool.false_eq_true, if_false,
          hfraction, List.drop_left]

theorem steady_wholeTail (dropped : Nat) (x : Literal) :
    Steady (wholeTail negative significand dropped) (x.fractionOctets ++ x.exponentOctets) := by
  have hplain : Steady (fun c => if dropped = 0 then .ok (wholeNumeral negative significand, c)
      else scaled negative significand dropped c) [] := by
    split
    · intro rest stops offset offset'
      rfl
    · exact steady_scaled negative significand dropped
  cases h : x.fraction with
  | none =>
      refine Steady.of_step (fun rest stops offset => ⟨offset, ?_⟩)
        (steady_exponentIfAny negative significand dropped hplain x)
      have hpoint := x.exponentOctets_noPoint stops
      simp only [wholeTail, Literal.fractionOctets, h, List.nil_append]
      cases hrest : x.exponentOctets ++ rest with
      | nil => rfl
      | cons b more =>
          have hb : b ≠ 0x2E := hpoint b (by simp [hrest])
          simp only [hb, if_false]
  | some digits =>
      refine Steady.of_step (fun rest stops offset => ⟨offset, ?_⟩)
        (steady_fractionTail negative significand dropped h)
      simp only [wholeTail, Literal.fractionOctets, h, List.cons_append, if_true]

end Parts

theorem steady_unsignedNumber (negative : Bool) (x : Literal) :
    Steady (unsignedNumber negative) x.unsignedOctets := by
  obtain ⟨b, more, hx, hb⟩ := x.whole.exists_cons
  by_cases hzero : b = 0x30
  · -- a zero in front stands alone
    subst hzero
    have hwhole : x.whole.octets = [0x30] := x.first (by simp [hx])
    refine Steady.of_step (fun rest stops offset => ⟨offset + 1, ?_⟩)
      (steady_wholeTail negative 0 0 x)
    have hdigit := x.fractionOctets_noDigit stops
    simp only [unsignedNumber, Literal.unsignedOctets, hwhole, List.cons_append,
      List.nil_append, List.append_assoc, if_true, Cursor.skip, List.drop_succ_cons,
      List.drop_zero]
    cases hrest : x.fractionOctets ++ (x.exponentOctets ++ rest) with
    | nil => rfl
    | cons d others =>
        have hd : isDigit d = false := hdigit d (by simp [hrest])
        simp only [hd, Bool.false_eq_true, if_false]
  · cases hwhole : wholeDigits 0 x.whole.octets with
    | mk significand dropped =>
        refine Steady.of_step (fun rest stops offset => ⟨offset + x.whole.octets.length, ?_⟩)
          (steady_wholeTail negative significand dropped x)
        have htake := x.whole.takeWhile_append (x.fractionOctets_noDigit stops)
        simp only [Literal.unsignedOctets, List.append_assoc]
        generalize x.fractionOctets ++ (x.exponentOctets ++ rest) = others at htake
        rw [unsignedNumber]
        simp only [htake, hwhole, Cursor.skip, List.drop_left]
        simp only [hx, List.cons_append, hzero, if_false, hb, if_true]

theorem steady_number (x : Literal) : Steady number x.octets := by
  unfold Literal.octets
  split
  · refine Steady.of_step (fun rest stops offset => ⟨offset + 1, ?_⟩)
      (steady_unsignedNumber true x)
    simp only [number, List.cons_append, if_true, Cursor.skip, List.drop_succ_cons,
      List.drop_zero]
  · refine Steady.of_step (fun rest stops offset => ⟨offset, ?_⟩)
      (steady_unsignedNumber false x)
    obtain ⟨b, more, hx, hb⟩ := x.whole.exists_cons
    have hminus : b ≠ 0x2D := (ne_of_isDigit hb).2.1
    simp only [number, Literal.unsignedOctets, hx, List.cons_append, hminus, if_false]

/-- A number is read as the number that it means. -/
theorem answers_number (x : Literal) {rest : Bytes} (h : Stops rest) :
    Answers number (x.octets ++ rest) x.numeral? rest := by
  rw [answers_iff_seen]
  intro offset
  rw [steady_number x rest h offset 0, List.append_nil]
  cases hnumber : number ⟨0, x.octets⟩ with
  | error fault => simp [Literal.numeral?, Cursor.start, hnumber, seen, Except.toOption]
  | ok found => simp [Literal.numeral?, Cursor.start, hnumber, seen, Except.toOption]

end Json
end OutboxRelay
