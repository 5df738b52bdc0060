import OutboxRelay.Json.Skip
import OutboxRelay.Proofs.Json.Opening

/-!
# Lexemes that were read

Whatever a lexer passes over without a fault is a word, a string or a number as it may be
written, whether its meaning was asked for or not.

**Method.** A lexer looks at one octet at a time, and each look that does not end in a
fault adds an octet, or a piece, to what was passed over.
-/

namespace OutboxRelay
namespace Json

/-! ## Blanks and words -/

/-- What is skipped before a lexeme is blank. -/
theorem exists_of_skipBlanks (c : Cursor) :
    ∃ before, c.rest = before ++ c.skipBlanks.rest ∧ Blank before := by
  obtain ⟨before, rest, hrest, hbefore, hsolid⟩ := exists_blank_append c.rest
  refine ⟨before, ?_, hbefore⟩
  rw [Cursor.skipBlanks, hrest, skipBlanksFrom_append hbefore hsolid]

theorem Blank.append {before after : Bytes} (h : Blank before) (h' : Blank after) :
    Blank (before ++ after) :=
  List.forall_mem_append.mpr ⟨h, h'⟩

theorem rest_of_word {wanted : Bytes} {c c' : Cursor} (h : word wanted c = .ok c') :
    c.rest = wanted ++ c'.rest := by
  induction wanted generalizing c with
  | nil =>
      obtain rfl : c = c' := Except.ok.inj h
      rfl
  | cons b wanted ih =>
      rw [word] at h
      split at h
      · simp at h
      · rename_i d more hrest
        split at h
        · rename_i hd
          have hmore := ih h
          rw [hrest, hd, List.cons_append, ← hmore, Cursor.skip, hrest]
          rfl
        · simp at h

/-! ## Numbers -/

/-- The digits at a cursor, if there are any. -/
theorem exists_digits {c : Cursor} (h : c.rest.takeWhile isDigit ≠ []) :
    ∃ digits : Digits,
      c.rest = digits.octets ++ (c.skip (c.rest.takeWhile isDigit).length).rest :=
  ⟨⟨c.rest.takeWhile isDigit, List.all_eq_true.mp List.all_takeWhile, h⟩,
    (List.prefix_iff_eq_append.mp (List.takeWhile_prefix isDigit)).symm⟩

theorem takeWhile_ne_nil {octets : Bytes} {d : UInt8} {more : Bytes} (h : octets = d :: more)
    (hd : isDigit d = true) : octets.takeWhile isDigit ≠ [] := by
  simp [h, hd]

section Numbers

variable {negative : Bool} {significand : Nat} {exponent : Int} {c c' : Cursor}
  {numeral : Numeral}

theorem eq_of_scaled (h : scaled negative significand exponent c = .ok (numeral, c')) :
    c = c' := by
  rw [scaled] at h
  split at h
  · exact (Prod.mk.inj (Except.ok.inj h)).2
  · simp at h

/-- A number from the digits of its exponent on. -/
def powerTail (negative : Bool) (significand : Nat) (exponent : Int) (down : Bool)
    (start : Cursor) : Except Fault (Numeral × Cursor) :=
  match start.rest with
  | [] => .error (start.fault .endOfValue)
  | b :: _ =>
      if !isDigit b then
        .error ((start.skip 1).fault .numberInvalid)
      else
        let digits := start.rest.takeWhile isDigit
        let behind := start.skip digits.length
        match exponentDigits 0 0 digits with
        | .ok power =>
            let power : Int := if down then -(power : Int) else power
            scaled negative significand (exponent + power) behind
        | .error taken =>
            if significand ≠ 0 ∧ !down then
              .error ((start.skip taken).fault .numberOutOfRange)
            else
              .ok (.float ⟨negative, Number.Magnitude.zero⟩, behind)

theorem exists_of_powerTail {down : Bool} {start : Cursor}
    (h : powerTail negative significand exponent down start = .ok (numeral, c')) :
    ∃ digits : Digits, start.rest = digits.octets ++ c'.rest := by
  simp only [powerTail] at h
  split at h
  · simp at h
  rename_i d others hstart
  split at h
  · simp at h
  rename_i hd
  obtain ⟨digits, hdigits⟩ := exists_digits (takeWhile_ne_nil hstart (by simpa using hd))
  have hbehind : start.skip (start.rest.takeWhile isDigit).length = c' := by
    split at h
    · exact eq_of_scaled h
    · split at h
      · simp at h
      · exact (Prod.mk.inj (Except.ok.inj h)).2
  exact ⟨digits, hbehind ▸ hdigits⟩

/-- From its mark on, an exponent is read to its end. -/
theorem exists_of_exponentTail {mark : UInt8} {more : Bytes} (hrest : c.rest = mark :: more)
    (hmark : mark = 0x65 ∨ mark = 0x45)
    (h : exponentTail negative significand exponent c = .ok (numeral, c')) :
    ∃ x : Exponent, c.rest = x.octets ++ c'.rest := by
  have key (sign : Option UInt8) (hsign : ∀ b ∈ sign, b = 0x2B ∨ b = 0x2D) (down : Bool)
      (start : Cursor) (hmore : more = sign.toList ++ start.rest)
      (h : powerTail negative significand exponent down start = .ok (numeral, c')) :
      ∃ x : Exponent, c.rest = x.octets ++ c'.rest := by
    obtain ⟨digits, hdigits⟩ := exists_of_powerTail h
    refine ⟨⟨mark, hmark, sign, hsign, digits⟩, ?_⟩
    rw [hrest, hmore, hdigits]
    simp [Exponent.octets]
  obtain ⟨offset, rest⟩ := c
  subst hrest
  cases more with
  | nil => exact key none (by simp) false ⟨offset + 1, []⟩ rfl h
  | cons b others =>
      by_cases hplus : b = 0x2B
      · subst hplus
        exact key (some 0x2B) (by simp) false ⟨offset + 1 + 1, others⟩ rfl h
      by_cases hminus : b = 0x2D
      · subst hminus
        exact key (some 0x2D) (by simp) true ⟨offset + 1 + 1, others⟩ rfl h
      · simp only [exponentTail, Cursor.skip, List.drop_succ_cons, List.drop_zero, hplus, hminus,
          if_false] at h
        exact key none (by simp) false ⟨offset + 1, b :: others⟩ rfl h

/-- The octets of the parts behind the whole digits, of which each may be missing. -/
def tailOctets (fraction : Option Digits) (exponent : Option Exponent) : Bytes :=
  (match fraction with
    | some digits => 0x2E :: digits.octets
    | none => []) ++
  (match exponent with
    | some exponent => exponent.octets
    | none => [])

/-- Behind its digits, a number ends, or it goes on with an exponent. -/
theorem exists_of_exponentIfAny {plain : Except Fault (Numeral × Cursor)}
    (hplain : plain = .ok (numeral, c') → c = c')
    (h : (match c.rest with
      | b :: _ =>
          if b = 0x65 || b = 0x45 then exponentTail negative significand exponent c
          else plain
      | [] => plain) = .ok (numeral, c')) :
    ∃ x : Option Exponent, c.rest = tailOctets none x ++ c'.rest := by
  split at h
  · rename_i b more hrest
    split at h
    · rename_i hmark
      obtain ⟨x, hx⟩ := exists_of_exponentTail hrest (by simpa using hmark) h
      exact ⟨some x, hx⟩
    · exact ⟨none, by rw [hplain h]; rfl⟩
  · exact ⟨none, by rw [hplain h]; rfl⟩

/-- From its point on, a number is read with its fraction. -/
theorem exists_of_fractionTail {more : Bytes} (hrest : c.rest = 0x2E :: more)
    (h : fractionTail negative significand exponent c = .ok (numeral, c')) :
    ∃ (digits : Digits) (x : Option Exponent),
      c.rest = tailOctets (some digits) x ++ c'.rest := by
  simp only [fractionTail] at h
  split at h
  · split at h <;> simp at h
  rename_i hnonempty
  obtain ⟨digits, hdigits⟩ := exists_digits (c := c.skip 1) (by simpa using hnonempty)
  obtain ⟨x, hx⟩ := exists_of_exponentIfAny eq_of_scaled h
  refine ⟨digits, x, ?_⟩
  rw [hx] at hdigits
  rw [hrest, ← (show (c.skip 1).rest = more by simp [Cursor.skip, hrest]), hdigits]
  simp [tailOctets]

/-- Behind its whole digits, a number is read to its end. -/
theorem exists_of_wholeTail {dropped : Nat}
    (h : wholeTail negative significand dropped c = .ok (numeral, c')) :
    ∃ (fraction : Option Digits) (x : Option Exponent),
      c.rest = tailOctets fraction x ++ c'.rest := by
  have hplain : (if dropped = 0 then .ok (wholeNumeral negative significand, c)
      else scaled negative significand dropped c) = .ok (numeral, c') → c = c' := by
    intro h
    split at h
    · exact (Prod.mk.inj (Except.ok.inj h)).2
    · exact eq_of_scaled h
  simp only [wholeTail] at h
  split at h
  · rename_i b more hrest
    split at h
    · rename_i hpoint
      obtain ⟨digits, x, hx⟩ := exists_of_fractionTail (hpoint ▸ hrest) h
      exact ⟨some digits, x, hx⟩
    · obtain ⟨x, hx⟩ := exists_of_exponentIfAny (c := c) hplain (by simpa only [hrest] using h)
      exact ⟨none, x, hx⟩
  · exact ⟨none, none, by rw [hplain h]; rfl⟩

/-- A number that starts with a zero has no other digit in front of the point. -/
theorem exists_literal_of_zero (negative : Bool) {more rest : Bytes} {fraction : Option Digits}
    {x : Option Exponent} (hrest : c.rest = 0x30 :: more)
    (hx : (c.skip 1).rest = tailOctets fraction x ++ rest) :
    ∃ literal : Literal, literal.negative = negative ∧ c.rest = literal.unsignedOctets ++ rest := by
  have digits : ∀ b ∈ ([0x30] : Bytes), isDigit b = true :=
    fun b hb => List.mem_singleton.mp hb ▸ by decide
  refine ⟨⟨negative, ⟨[0x30], digits, by simp⟩, fun _ => rfl, fraction, x⟩, rfl, ?_⟩
  rw [hrest, ← (show (c.skip 1).rest = more by simp [Cursor.skip, hrest]), hx]
  rfl

theorem exists_literal_of_digits (negative : Bool) {b : UInt8} {more rest : Bytes}
    {fraction : Option Digits} {x : Option Exponent} (hrest : c.rest = b :: more) (hzero : b ≠ 0x30)
    (hdigit : isDigit b = true)
    (hx : (c.skip (c.rest.takeWhile isDigit).length).rest = tailOctets fraction x ++ rest) :
    ∃ literal : Literal, literal.negative = negative ∧ c.rest = literal.unsignedOctets ++ rest := by
  obtain ⟨digits, hdigits⟩ := exists_digits (takeWhile_ne_nil hrest hdigit)
  have hfirst : digits.octets.head? = some 0x30 → digits.octets = [0x30] := by
    intro hhead
    obtain ⟨d, others, hoctets, -⟩ := digits.exists_cons
    rw [hdigits, hoctets] at hrest
    obtain rfl : d = b := (List.cons.inj hrest).1
    rw [hoctets] at hhead
    exact absurd (Option.some.inj hhead) hzero
  refine ⟨⟨negative, digits, hfirst, fraction, x⟩, rfl, ?_⟩
  rw [hx] at hdigits
  rw [hdigits]
  exact (List.append_assoc _ _ _).symm

/-- Behind its sign, a number is read to its end. -/
theorem exists_of_unsignedNumber (h : unsignedNumber negative c = .ok (numeral, c')) :
    ∃ literal : Literal, literal.negative = negative ∧
      c.rest = literal.unsignedOctets ++ c'.rest := by
  simp only [unsignedNumber] at h
  split at h
  · simp at h
  rename_i b more hrest
  split at h
  · rename_i hzero
    have hwhole : ∃ fraction x, (c.skip 1).rest = tailOctets fraction x ++ c'.rest := by
      split at h
      · split at h
        · simp at h
        · exact exists_of_wholeTail h
      · exact exists_of_wholeTail h
    obtain ⟨fraction, x, hx⟩ := hwhole
    exact exists_literal_of_zero negative (hzero ▸ hrest) hx
  split at h
  · rename_i hzero hdigit
    obtain ⟨fraction, x, hx⟩ := exists_of_wholeTail h
    exact exists_literal_of_digits negative hrest hzero hdigit hx
  · simp at h

/-- A number is read to its end. -/
theorem exists_of_number (h : number c = .ok (numeral, c')) :
    ∃ literal : Literal, c.rest = literal.octets ++ c'.rest := by
  rw [number] at h
  split at h
  · rename_i b more hrest
    split at h
    · rename_i hminus
      obtain ⟨literal, hnegative, hoctets⟩ := exists_of_unsignedNumber h
      refine ⟨literal, ?_⟩
      rw [Literal.octets, if_pos hnegative, hrest, hminus,
        ← (show (c.skip 1).rest = more by simp [Cursor.skip, hrest]), hoctets]
      rfl
    · obtain ⟨literal, hnegative, hoctets⟩ := exists_of_unsignedNumber h
      exact ⟨literal, by rw [Literal.octets, if_neg (by simp [hnegative]), hoctets]⟩
  · obtain ⟨literal, hnegative, hoctets⟩ := exists_of_unsignedNumber h
    exact ⟨literal, by rw [Literal.octets, if_neg (by simp [hnegative]), hoctets]⟩

end Numbers

/-! ## Numbers that are skipped -/

section Skipping

variable {c c' : Cursor}

/-- From its mark on, an exponent is skipped to its end. -/
theorem exists_of_skipExponent {mark : UInt8} {more : Bytes} (hrest : c.rest = mark :: more)
    (hmark : mark = 0x65 ∨ mark = 0x45) (h : skipExponent c = .ok c') :
    ∃ x : Exponent, c.rest = x.octets ++ c'.rest := by
  have key (sign : Option UInt8) (hsign : ∀ b ∈ sign, b = 0x2B ∨ b = 0x2D) (start : Cursor)
      (hmore : more = sign.toList ++ start.rest)
      (h : (match start.rest with
        | [] => .error (start.fault .numberInvalid)
        | b :: _ =>
            if isDigit b then .ok start.skipDigits
            else .error ((start.skip 1).fault .numberInvalid) : Except Fault Cursor) = .ok c') :
      ∃ x : Exponent, c.rest = x.octets ++ c'.rest := by
    split at h
    · simp at h
    rename_i d others hstart
    split at h
    · rename_i hd
      obtain ⟨digits, hdigits⟩ := exists_digits (takeWhile_ne_nil hstart hd)
      obtain rfl : start.skipDigits = c' := Except.ok.inj h
      refine ⟨⟨mark, hmark, sign, hsign, digits⟩, ?_⟩
      rw [hrest, hmore, hdigits]
      simp [Exponent.octets, Cursor.skipDigits]
    · simp at h
  obtain ⟨offset, rest⟩ := c
  subst hrest
  cases more with
  | nil => exact key none (by simp) ⟨offset + 1, []⟩ rfl h
  | cons b others =>
      by_cases hsign : b = 0x2B ∨ b = 0x2D
      · have hsign' : (b = 0x2B || b = 0x2D) = true := by simpa using hsign
        simp only [skipExponent, Cursor.skip, List.drop_succ_cons, List.drop_zero, hsign',
          if_true] at h
        exact key (some b) (by simpa using hsign) ⟨offset + 1 + 1, others⟩ rfl h
      · have hsign' : (b = 0x2B || b = 0x2D) = false := by simpa using hsign
        simp only [skipExponent, Cursor.skip, List.drop_succ_cons, List.drop_zero, hsign',
          Bool.false_eq_true, if_false] at h
        exact key none (by simp) ⟨offset + 1, b :: others⟩ rfl h

theorem exists_of_skipExponentIfAny (h : skipExponentIfAny c = .ok c') :
    ∃ x : Option Exponent, c.rest = tailOctets none x ++ c'.rest := by
  rw [skipExponentIfAny] at h
  split at h
  · rename_i b more hrest
    split at h
    · rename_i hmark
      obtain ⟨x, hx⟩ := exists_of_skipExponent hrest (by simpa using hmark) h
      exact ⟨some x, hx⟩
    · obtain rfl := Except.ok.inj h
      exact ⟨none, rfl⟩
  · obtain rfl := Except.ok.inj h
    exact ⟨none, rfl⟩

/-- Behind its whole digits, a number is skipped to its end. -/
theorem exists_of_skipFraction (h : skipFraction c = .ok c') :
    ∃ (fraction : Option Digits) (x : Option Exponent),
      c.rest = tailOctets fraction x ++ c'.rest := by
  simp only [skipFraction] at h
  split at h
  · rename_i b more hrest
    split at h
    · rename_i hpoint
      split at h
      · simp at h
      rename_i hmoved
      have hnonempty : (c.skip 1).rest.takeWhile isDigit ≠ [] := by
        intro hnil
        rw [Cursor.skipDigits, hnil] at hmoved
        exact hmoved rfl
      obtain ⟨digits, hdigits⟩ := exists_digits hnonempty
      obtain ⟨x, hx⟩ := exists_of_skipExponentIfAny h
      refine ⟨some digits, x, ?_⟩
      rw [Cursor.skipDigits] at hx
      rw [hx] at hdigits
      rw [hrest, hpoint, ← (show (c.skip 1).rest = more by simp [Cursor.skip, hrest]), hdigits]
      simp [tailOctets]
    · obtain ⟨x, hx⟩ := exists_of_skipExponentIfAny h
      exact ⟨none, x, hx⟩
  · obtain rfl := Except.ok.inj h
    exact ⟨none, none, rfl⟩

/-- Behind its sign, a number is skipped to its end. -/
theorem exists_of_skipNumber (negative : Bool) (h : skipNumber c = .ok c') :
    ∃ literal : Literal, literal.negative = negative ∧
      c.rest = literal.unsignedOctets ++ c'.rest := by
  rw [skipNumber] at h
  split at h
  · simp at h
  rename_i b more hrest
  split at h
  · rename_i hzero
    have hwhole : ∃ fraction x, (c.skip 1).rest = tailOctets fraction x ++ c'.rest := by
      split at h
      · split at h
        · simp at h
        · exact exists_of_skipFraction h
      · exact exists_of_skipFraction h
    obtain ⟨fraction, x, hx⟩ := hwhole
    exact exists_literal_of_zero negative (hzero ▸ hrest) hx
  split at h
  · rename_i hzero hdigit
    obtain ⟨fraction, x, hx⟩ := exists_of_skipFraction h
    exact exists_literal_of_digits negative hrest hzero hdigit hx
  · simp at h

end Skipping

/-! ## Strings -/

section Strings

variable {c c' : Cursor} {octets : Bytes} {length value : Nat}

theorem exists_of_hexQuad (h : hexQuad c = .ok value) :
    ∃ p q r s more, c.rest = p :: q :: r :: s :: more ∧ hexValue? p q r s = some value := by
  rw [hexQuad] at h
  split at h
  · rename_i p q r s more hrest
    split at h
    · rename_i p' q' r' s' hp hq hr hs
      refine ⟨p, q, r, s, more, hrest, ?_⟩
      obtain rfl := Except.ok.inj h
      simp [hexValue?, hp, hq, hr, hs]
    · simp at h
  · simp at h

theorem exists_of_trailingUnit (h : trailingUnit c = .ok value) :
    ∃ p q r s more, c.rest = 0x5C :: 0x75 :: p :: q :: r :: s :: more ∧
      hexValue? p q r s = some value := by
  rw [trailingUnit] at h
  split at h
  · simp at h
  rename_i b more hrest
  split at h
  · simp at h
  rename_i hbackslash
  split at h
  · simp at h
  rename_i u others
  split at h
  · simp at h
  rename_i hletter
  obtain ⟨unit, hunit, h⟩ := exists_ok_of_bind h
  split at h
  · obtain rfl : unit = value := Except.ok.inj h
    obtain ⟨p, q, r, s, behind, hquad, hvalue⟩ := exists_of_hexQuad hunit
    have hb : b = 0x5C := by simpa using hbackslash
    have hu : u = 0x75 := by simpa using hletter
    refine ⟨p, q, r, s, behind, ?_, hvalue⟩
    rw [hrest, hb, hu]
    simpa [Cursor.skip, hrest] using hquad
  · cases h

/-- An escape is one piece, or two of them for a pair of surrogates. -/
theorem exists_of_escape (h : escape c = .ok (octets, length)) :
    ∃ pieces : List Piece,
      0x5C :: c.rest = pieces.flatMap Piece.octets ++ (c.skip length).rest := by
  rw [escape] at h
  split at h
  · simp at h
  rename_i b more hrest
  split at h
  · rename_i meant hmeant
    obtain ⟨-, rfl⟩ := Prod.mk.inj (Except.ok.inj h)
    exact ⟨[.letter b meant hmeant], by simp [Piece.octets, Cursor.skip, hrest]⟩
  split at h
  · rename_i hletter
    obtain ⟨⟨found, count⟩, hnumbered, h⟩ := exists_ok_of_bind h
    obtain ⟨-, rfl⟩ := Prod.mk.inj (Except.ok.inj h)
    obtain ⟨unit, hunit, h⟩ := exists_ok_of_bind hnumbered
    obtain ⟨p, q, r, s, others, hquad, hvalue⟩ := exists_of_hexQuad hunit
    have hmore : more = p :: q :: r :: s :: others := by simpa [Cursor.skip, hrest] using hquad
    split at h
    · cases h
    split at h
    · obtain ⟨second, htrailing, h⟩ := exists_ok_of_bind h
      obtain ⟨-, rfl⟩ := Prod.mk.inj (Except.ok.inj h)
      obtain ⟨p', q', r', s', behind, hsecond, hvalue'⟩ := exists_of_trailingUnit htrailing
      have hothers : others = 0x5C :: 0x75 :: p' :: q' :: r' :: s' :: behind := by
        simpa [Cursor.skip, hrest, hmore] using hsecond
      refine ⟨[.unit p q r s unit hvalue, .unit p' q' r' s' second hvalue'], ?_⟩
      simp [Piece.octets, Cursor.skip, hrest, hletter, hmore, hothers]
    · obtain ⟨-, rfl⟩ := Prod.mk.inj (Except.ok.inj h)
      refine ⟨[.unit p q r s unit hvalue], ?_⟩
      simp [Piece.octets, Cursor.skip, hrest, hletter, hmore]
  · simp at h

/-- A string is read up to its closing mark. -/
theorem exists_of_stringOctets {read rest : Bytes} {offset : Nat}
    (h : stringOctets read offset rest = .ok (octets, c')) :
    ∃ q : Quotation, rest = q.inner ++ 0x22 :: c'.rest := by
  fun_induction stringOctets read offset rest with
  | case1 => simp at h
  | case2 read offset more =>
      obtain ⟨-, rfl⟩ := Prod.mk.inj (Except.ok.inj h)
      exact ⟨⟨[]⟩, by simp [Quotation.inner]⟩
  | case3 => simp at h
  | case4 read offset more found length hescape hmark ih =>
      obtain ⟨q, hq⟩ := ih h
      obtain ⟨pieces, hpieces⟩ := exists_of_escape hescape
      refine ⟨⟨pieces ++ q.pieces⟩, ?_⟩
      change 0x5C :: more = _ ++ more.drop length at hpieces
      rw [hpieces, hq]
      simp [Quotation.inner]
  | case5 => simp at h
  | case6 read offset b more hmark hbackslash hcontrol ih =>
      obtain ⟨q, hq⟩ := ih h
      exact ⟨⟨.plain b ⟨hmark, hbackslash, hcontrol⟩ :: q.pieces⟩, by
        simp [Quotation.inner, Piece.octets, hq]⟩

/-- A string is read up to its closing mark. -/
theorem exists_of_stringTail {text : String} (h : stringTail c = .ok (text, c')) :
    ∃ q : Quotation, c.rest = q.inner ++ 0x22 :: c'.rest := by
  obtain ⟨⟨octets, behind⟩, hoctets, h⟩ := exists_ok_of_bind h
  obtain ⟨q, hq⟩ := exists_of_stringOctets hoctets
  cases hdecode : Utf8.decode? octets with
  | none =>
      simp only [hdecode] at h
      cases h
  | some found =>
      simp only [hdecode] at h
      obtain ⟨-, rfl⟩ := Prod.mk.inj (Except.ok.inj h)
      exact ⟨q, hq⟩

/-- An escape that is skipped is one piece. -/
theorem exists_of_skipEscape (h : skipEscape c = .ok length) :
    ∃ piece : Piece, 0x5C :: c.rest = piece.octets ++ (c.skip length).rest := by
  rw [skipEscape] at h
  split at h
  · simp at h
  rename_i b more hrest
  split at h
  · rename_i hletter
    obtain ⟨meant, hmeant⟩ := Option.isSome_iff_exists.mp hletter
    obtain rfl := Except.ok.inj h
    exact ⟨.letter b meant hmeant, by simp [Piece.octets, Cursor.skip, hrest]⟩
  split at h
  · rename_i hletter
    obtain ⟨unit, hunit, h⟩ := exists_ok_of_bind h
    obtain rfl := Except.ok.inj h
    obtain ⟨p, q, r, s, others, hquad, hvalue⟩ := exists_of_hexQuad hunit
    have hmore : more = p :: q :: r :: s :: others := by simpa [Cursor.skip, hrest] using hquad
    exact ⟨.unit p q r s unit hvalue, by
      simp [Piece.octets, Cursor.skip, hrest, hletter, hmore]⟩
  · simp at h

/-- A string is skipped up to its closing mark. -/
theorem exists_of_skipStringFrom {rest : Bytes} {offset : Nat}
    (h : skipStringFrom offset rest = .ok c') :
    ∃ q : Quotation, rest = q.inner ++ 0x22 :: c'.rest := by
  fun_induction skipStringFrom offset rest with
  | case1 => simp at h
  | case2 offset more =>
      obtain rfl := Except.ok.inj h
      exact ⟨⟨[]⟩, by simp [Quotation.inner]⟩
  | case3 => simp at h
  | case4 offset more length hescape hmark ih =>
      obtain ⟨q, hq⟩ := ih h
      obtain ⟨piece, hpiece⟩ := exists_of_skipEscape hescape
      refine ⟨⟨piece :: q.pieces⟩, ?_⟩
      change 0x5C :: more = _ ++ more.drop length at hpiece
      rw [hpiece, hq]
      simp [Quotation.inner]
  | case5 => simp at h
  | case6 offset b more hmark hbackslash hcontrol ih =>
      obtain ⟨q, hq⟩ := ih h
      exact ⟨⟨.plain b ⟨hmark, hbackslash, hcontrol⟩ :: q.pieces⟩, by
        simp [Quotation.inner, Piece.octets, hq]⟩

end Strings

end Json
end OutboxRelay
