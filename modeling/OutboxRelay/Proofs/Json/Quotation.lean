import OutboxRelay.Proofs.Json.Grammar

/-!
# Reading strings

A string as it is written is read as the text that it means, and is refused when it
means none: when a surrogate stands alone, or when its octets are no text.

**Method.** Reading one piece leads from one state of the loop to the next.  The
induction follows the pieces the way in which their meaning is computed, so that two
surrogates are read in one step.
-/

namespace OutboxRelay
namespace Json

open Reader (Reads Refuses Answers)

/-! ## Escapes -/

section Escapes

variable {p q r s : UInt8} {value : Nat}

theorem hexQuad_of_hexValue? (h : hexValue? p q r s = some value) (offset : Nat)
    (rest : Bytes) : hexQuad ⟨offset, p :: q :: r :: s :: rest⟩ = .ok value := by
  simp only [hexValue?, Option.bind_eq_bind, Option.bind_eq_some_iff] at h
  obtain ⟨p', hp, q', hq, r', hr, s', hs, h⟩ := h
  simp only [Option.pure_def, Option.some.injEq] at h
  simp only [hexQuad, hp, hq, hr, hs, h]

/-- An escape by letter. -/
theorem escape_letter {octet meant : UInt8} (h : letterEscape? octet = some meant)
    (offset : Nat) (rest : Bytes) : escape ⟨offset, octet :: rest⟩ = .ok ([meant], 1) := by
  simp only [escape, h]

/-- An escape by number is read behind its letter. -/
theorem escape_unit (offset : Nat) (rest : Bytes) :
    escape ⟨offset, 0x75 :: rest⟩ =
      (numberedEscape ⟨offset + 1, rest⟩).map fun found => (found.1, found.2 + 1) := by
  have h : letterEscape? 0x75 = none := by decide
  simp only [escape, h, if_true, Cursor.skip, List.drop_succ_cons, List.drop_zero]
  cases numberedEscape ⟨offset + 1, rest⟩ <;> rfl

/-- A unit that is no surrogate stands for a character. -/
theorem numberedEscape_character (h : hexValue? p q r s = some value)
    (trailing : isTrailing value = false) (leading : isLeading value = false)
    (offset : Nat) (rest : Bytes) :
    numberedEscape ⟨offset, p :: q :: r :: s :: rest⟩ =
      .ok (String.utf8EncodeChar (Char.ofNat value), 4) := by
  rw [numberedEscape, hexQuad_of_hexValue? h]
  simp [Bind.bind, Except.bind, trailing, leading, Pure.pure, Except.pure]

/-- The second of two surrogates does not stand in front. -/
theorem numberedEscape_trailing (h : hexValue? p q r s = some value)
    (trailing : isTrailing value = true) (offset : Nat) (rest : Bytes) :
    ∃ fault, numberedEscape ⟨offset, p :: q :: r :: s :: rest⟩ = .error fault := by
  rw [numberedEscape, hexQuad_of_hexValue? h]
  simp [Bind.bind, Except.bind, trailing, throw, throwThe, MonadExceptOf.throw]

/-- Behind the first of two surrogates, the second one decides. -/
theorem numberedEscape_leading (h : hexValue? p q r s = some value)
    (leading : isLeading value = true) (offset : Nat) (rest : Bytes) :
    numberedEscape ⟨offset, p :: q :: r :: s :: rest⟩ =
      (trailingUnit ⟨offset + 4, rest⟩).map fun unit =>
        (String.utf8EncodeChar (Char.ofNat (pairValue value unit)), 10) := by
  have trailing : isTrailing value = false := by
    simp only [isLeading, isTrailing, Bool.and_eq_true, decide_eq_true_eq] at *
    simp
    omega
  rw [numberedEscape, hexQuad_of_hexValue? h]
  simp only [Bind.bind, Except.bind, trailing, leading, Bool.false_eq_true, if_false, if_true,
    Cursor.skip, List.drop_succ_cons, List.drop_zero]
  cases trailingUnit ⟨offset + 4, rest⟩ <;> rfl

theorem trailingUnit_unit (h : hexValue? p q r s = some value) (offset : Nat)
    (rest : Bytes) :
    if isTrailing value then
      trailingUnit ⟨offset, 0x5C :: 0x75 :: p :: q :: r :: s :: rest⟩ = .ok value
    else
      ∃ fault, trailingUnit ⟨offset, 0x5C :: 0x75 :: p :: q :: r :: s :: rest⟩ =
        .error fault := by
  simp only [trailingUnit, ne_eq, not_true, if_false, Cursor.skip, List.drop_succ_cons,
    List.drop_zero, hexQuad_of_hexValue? h]
  cases trailing : isTrailing value <;>
    simp [Bind.bind, Except.bind, Pure.pure, Except.pure, trailing, throw, throwThe,
      MonadExceptOf.throw]

/-- Two surrogates stand for one character. -/
theorem escape_pair {p' q' r' s' : UInt8} {second : Nat} (h : hexValue? p q r s = some value)
    (leading : isLeading value = true) (h' : hexValue? p' q' r' s' = some second)
    (trailing : isTrailing second = true) (offset : Nat) (rest : Bytes) :
    escape ⟨offset, 0x75 :: p :: q :: r :: s ::
      0x5C :: 0x75 :: p' :: q' :: r' :: s' :: rest⟩ =
      .ok (String.utf8EncodeChar (Char.ofNat (pairValue value second)), 11) := by
  have hunit := trailingUnit_unit h' (offset + 1 + 4) rest
  rw [if_pos trailing] at hunit
  rw [escape_unit, numberedEscape_leading h leading, hunit]
  simp only [Except.map]

/-- No other piece is the second of two surrogates, and neither is the closing mark. -/
theorem trailingUnit_of_not_unit {pieces : List Piece}
    (h : ∀ p q r s value read others,
      pieces ≠ .unit p q r s value read :: others) (offset : Nat) (rest : Bytes) :
    ∃ fault, trailingUnit ⟨offset, pieces.flatMap Piece.octets ++ 0x22 :: rest⟩ =
      .error fault := by
  cases pieces with
  | nil => exact ⟨_, by simp [trailingUnit]; rfl⟩
  | cons piece pieces =>
      cases piece with
      | plain octet ordinary =>
          exact ⟨_, by simp [Piece.octets, trailingUnit, ordinary.2.1]; rfl⟩
      | letter octet meant known =>
          have hu : octet ≠ 0x75 := by
            rintro rfl
            simp [letterEscape?] at known
          exact ⟨_, by simp [Piece.octets, trailingUnit, hu]; rfl⟩
      | unit p q r s value read => exact absurd rfl (h p q r s value read pieces)

end Escapes

/-! ## The loop -/

section Loop

variable (read : Bytes) (offset : Nat)

theorem stringOctets_mark (rest : Bytes) :
    stringOctets read offset (0x22 :: rest) = .ok (read.reverse, ⟨offset + 1, rest⟩) := by
  rw [stringOctets]
  simp

theorem stringOctets_plain {octet : UInt8}
    (h : octet ≠ 0x22 ∧ octet ≠ 0x5C ∧ ¬octet < 0x20) (rest : Bytes) :
    stringOctets read offset (octet :: rest) =
      stringOctets (octet :: read) (offset + 1) rest := by
  rw [stringOctets]
  simp only [h, if_false]

theorem stringOctets_escape {rest octets : Bytes} {length : Nat}
    (h : escape ⟨offset + 1, rest⟩ = .ok (octets, length)) :
    stringOctets read offset (0x5C :: rest) =
      stringOctets (octets.reverse ++ read) (offset + 1 + length) (rest.drop length) := by
  rw [stringOctets]
  simp only [show (0x5C : UInt8) ≠ 0x22 by decide, if_false, if_true, h]

theorem stringOctets_fault {rest : Bytes} {fault : Fault}
    (h : escape ⟨offset + 1, rest⟩ = .error fault) :
    stringOctets read offset (0x5C :: rest) = .error fault := by
  rw [stringOctets]
  simp only [show (0x5C : UInt8) ≠ 0x22 by decide, if_false, if_true, h]

end Loop

/-- The octets of a string behind those already read. -/
def octetsBehind (read : Bytes) : Reader Bytes :=
  fun c => stringOctets read c.offset c.rest

/-- An escape that means something leads on. -/
theorem answers_octetsBehind_escape {octets rest : Bytes} {length : Nat}
    (h : ∀ offset, escape ⟨offset, rest⟩ = .ok (octets, length)) (read : Bytes)
    {answer : Option Bytes} {after : Bytes}
    (behind : Answers (octetsBehind (octets.reverse ++ read)) (rest.drop length) answer after) :
    Answers (octetsBehind read) (0x5C :: rest) answer after := by
  refine Answers.of_step (fun offset => ⟨offset + 1 + length, ?_⟩) behind
  exact stringOctets_escape read offset (h (offset + 1))

/-- An escape that means nothing is refused. -/
theorem refuses_octetsBehind_escape {rest : Bytes}
    (h : ∀ offset, ∃ fault, escape ⟨offset, rest⟩ = .error fault) (read : Bytes) :
    Refuses (octetsBehind read) (0x5C :: rest) := by
  intro offset
  obtain ⟨fault, h⟩ := h (offset + 1)
  exact ⟨fault, stringOctets_fault read offset h⟩

/-- Octets are put in front of those that follow, whether these were read before or not. -/
theorem map_append_meantOctets? (pieces : List Piece) (read octets : Bytes) :
    ((meantOctets? pieces).map (octets ++ ·)).map (read.reverse ++ ·) =
      (meantOctets? pieces).map ((octets.reverse ++ read).reverse ++ ·) := by
  cases meantOctets? pieces <;> simp

/-- The loop reads what the pieces stand for. -/
theorem answers_octetsBehind (pieces : List Piece) (read rest : Bytes) :
    Answers (octetsBehind read) (pieces.flatMap Piece.octets ++ 0x22 :: rest)
      ((meantOctets? pieces).map (read.reverse ++ ·)) rest := by
  induction pieces using meantOctets?.induct generalizing read with
  | case1 =>
      intro offset
      exact ⟨offset + 1, by simp [octetsBehind, stringOctets_mark]⟩
  | case2 octet ordinary pieces ih =>
      rw [meantOctets?, map_append_meantOctets? pieces read [octet]]
      refine Answers.of_step (fun offset => ⟨offset + 1, ?_⟩) (ih _)
      exact stringOctets_plain read offset ordinary _
  | case3 octet meant known pieces ih =>
      rw [meantOctets?, map_append_meantOctets? pieces read [meant]]
      exact answers_octetsBehind_escape (fun offset => escape_letter known offset _) read (ih _)
  | case4 p q r s unit value pieces trailing =>
      have hmeant : meantOctets? (.unit p q r s unit value :: pieces) = none := by
        rw [meantOctets?.eq_def]
        simp only [trailing, if_true]
      rw [hmeant]
      refine refuses_octetsBehind_escape (fun offset => ?_) read
      obtain ⟨fault, h⟩ := numberedEscape_trailing value trailing (offset + 1) _
      exact ⟨fault, (escape_unit offset _).trans (congrArg _ h)⟩
  | case5 p q r s first value notTrailing leading p' q' r' s' second value' pieces trailing ih =>
      rw [meantOctets?, if_neg notTrailing, if_pos leading, if_pos trailing,
        map_append_meantOctets?]
      exact answers_octetsBehind_escape
        (fun offset => escape_pair value leading value' trailing offset _) read (ih _)
  | case6 p q r s first value notTrailing leading p' q' r' s' second value' pieces single =>
      rw [meantOctets?, if_neg notTrailing, if_pos leading, if_neg single]
      refine refuses_octetsBehind_escape (fun offset => ?_) read
      have h := trailingUnit_unit value' (offset + 1 + 4)
        (pieces.flatMap Piece.octets ++ 0x22 :: rest)
      rw [if_neg single] at h
      obtain ⟨fault, h⟩ := h
      exact ⟨fault, calc
        _ = _ := escape_unit offset _
        _ = _ := congrArg _ (numberedEscape_leading value leading (offset + 1) _)
        _ = _ := congrArg (Except.map _ ∘ Except.map _) h⟩
  | case7 p q r s first value pieces notTrailing leading alone =>
      have hmeant : meantOctets? (.unit p q r s first value :: pieces) = none := by
        rw [meantOctets?, if_neg notTrailing, if_pos leading]
        exact alone
      rw [hmeant]
      refine refuses_octetsBehind_escape (fun offset => ?_) read
      obtain ⟨fault, h⟩ := trailingUnit_of_not_unit alone (offset + 1 + 4) rest
      exact ⟨fault, calc
        _ = _ := escape_unit offset _
        _ = _ := congrArg _ (numberedEscape_leading value leading (offset + 1) _)
        _ = _ := congrArg (Except.map _ ∘ Except.map _) h⟩
  | case8 p q r s unit value pieces notTrailing notLeading ih =>
      have hmeant : meantOctets? (.unit p q r s unit value :: pieces) =
          (meantOctets? pieces).map (String.utf8EncodeChar (Char.ofNat unit) ++ ·) := by
        rw [meantOctets?.eq_def]
        simp only [notTrailing, notLeading, Bool.false_eq_true, if_false]
      rw [hmeant, map_append_meantOctets?]
      have hescape (offset : Nat) (rest : Bytes) :
          escape ⟨offset, 0x75 :: p :: q :: r :: s :: rest⟩ =
            .ok (String.utf8EncodeChar (Char.ofNat unit), 5) := by
        rw [escape_unit, numberedEscape_character value (by simpa using notTrailing)
          (by simpa using notLeading)]
        rfl
      exact answers_octetsBehind_escape (fun offset => hescape offset _) read (ih _)

/-- The text that some octets are. -/
def textOf (octets : Bytes) : Reader String :=
  fun c =>
    match Utf8.decode? octets with
    | some text => .ok (text, c)
    | none => .error (octetsFault octets c)

theorem answers_textOf (octets rest : Bytes) :
    Answers (textOf octets) rest (Utf8.decode? octets) rest := by
  cases h : Utf8.decode? octets with
  | none => exact fun offset => ⟨octetsFault octets ⟨offset, rest⟩, by simp only [textOf, h]⟩
  | some text => exact fun offset => ⟨offset, by simp only [textOf, h]⟩

/-- A string is read in two steps: its octets, and their text. -/
theorem stringTail_eq : stringTail = (octetsBehind [] >>= textOf : Reader String) := by
  funext c
  change (octetsBehind [] c >>= _) = (octetsBehind [] c >>= _)
  congr 1

/-- A string is read as the text that it means. -/
theorem answers_stringTail (q : Quotation) (rest : Bytes) :
    Answers stringTail (q.inner ++ 0x22 :: rest) q.text? rest := by
  have hoctets : Answers (octetsBehind []) (q.inner ++ 0x22 :: rest)
      (meantOctets? q.pieces) rest := by
    simpa [Quotation.inner] using answers_octetsBehind q.pieces [] rest
  rw [stringTail_eq]
  exact hoctets.bind fun octets _ => answers_textOf octets rest

end Json
end OutboxRelay
