import OutboxRelay.Proofs.Json.Grammar

/-!
# Where texts begin and end

The first octet of a text tells what kind of tree it is a text of.  What follows a
value inside brackets, or at the end, cannot belong to the value.
-/

namespace OutboxRelay
namespace Json

/-! ## What may follow -/

/-- Whether octets can follow a value: they start with a blank, a comma or a closing bracket. -/
def Stops (rest : Bytes) : Prop :=
  ∀ b ∈ rest.head?, isBlank b = true ∨ b = 0x2C ∨ b = 0x5D ∨ b = 0x7D

/-- Whether octets do not start with a digit. -/
def NoDigit (rest : Bytes) : Prop :=
  ∀ b ∈ rest.head?, isDigit b = false

theorem Stops.nil : Stops [] := by
  simp [Stops]

theorem Blank.stops {after : Bytes} (h : Blank after) : Stops after :=
  fun b hb => .inl (h b (List.mem_of_mem_head? hb))

/-- No octet that can follow a value belongs to a number. -/
theorem not_numeric_of_stop {b : UInt8}
    (h : isBlank b = true ∨ b = 0x2C ∨ b = 0x5D ∨ b = 0x7D) :
    isDigit b = false ∧ b ≠ 0x2E ∧ b ≠ 0x65 ∧ b ≠ 0x45 := by
  simp only [isBlank, Bool.or_eq_true, decide_eq_true_eq] at h
  rcases h with (((rfl | rfl) | rfl) | rfl) | rfl | rfl | rfl <;> decide

theorem Stops.noDigit {rest : Bytes} (h : Stops rest) : NoDigit rest :=
  fun b hb => (not_numeric_of_stop (h b hb)).1

/-- What follows an item inside brackets can follow a value. -/
theorem stops_of_following {items : List Language} {others : Bytes}
    (h : following items others) {closing : UInt8} (hclosing : closing = 0x5D ∨ closing = 0x7D)
    (rest : Bytes) : Stops (others ++ closing :: rest) := by
  -- behind blanks, or at once, there stands the end or a comma
  have key (after : Bytes) (hafter : Blank after) (b : UInt8)
      (hb : b = 0x2C ∨ b = 0x5D ∨ b = 0x7D) (more : Bytes) : Stops (after ++ b :: more) := by
    intro c hc
    cases after with
    | nil =>
        obtain rfl : b = c := by simpa using hc
        exact .inr hb
    | cons a after =>
        obtain rfl : a = c := by simpa using hc
        exact .inl (hafter a (by simp))
  cases items with
  | nil => exact key others h closing (.inr hclosing) rest
  | cons item items =>
      obtain ⟨after, before, inner, others, rfl, hafter, -⟩ := h
      rw [List.append_assoc, List.cons_append]
      exact key after hafter 0x2C (.inl rfl) _

/-! ## How texts begin -/

/-- A digit is no sign, no point and no mark of an exponent. -/
theorem ne_of_isDigit {b : UInt8} (h : isDigit b = true) :
    b ≠ 0x2B ∧ b ≠ 0x2D ∧ b ≠ 0x2E ∧ b ≠ 0x65 ∧ b ≠ 0x45 := by
  refine ⟨?_, ?_, ?_, ?_, ?_⟩ <;> rintro rfl <;> simp [isDigit] at h

/-- A digit is not blank. -/
theorem isBlank_of_isDigit {b : UInt8} (h : isDigit b = true) : isBlank b = false := by
  cases hb : isBlank b with
  | false => rfl
  | true =>
      have := (not_numeric_of_stop (.inl hb)).1
      simp [this] at h

theorem Digits.exists_cons (x : Digits) :
    ∃ b more, x.octets = b :: more ∧ isDigit b = true := by
  obtain ⟨b, more, h⟩ := List.exists_cons_of_ne_nil x.nonempty
  exact ⟨b, more, h, x.digits b (by simp [h])⟩

/-- The octets with which the texts of a tree can begin. -/
def Tree.Opens : Tree → UInt8 → Prop
  | .null, b => b = 0x6E
  | .boolean true, b => b = 0x74
  | .boolean false, b => b = 0x66
  | .number _, b => b = 0x2D ∨ isDigit b = true
  | .text _, b => b = 0x22
  | .list _, b => b = 0x5B
  | .object _, b => b = 0x7B

/-- A text begins with an octet of its kind. -/
theorem Tree.exists_opens {tree : Tree} {octets : Bytes} (h : tree.language octets) :
    ∃ b more, octets = b :: more ∧ tree.Opens b := by
  cases tree with
  | null => exact ⟨_, _, h, rfl⟩
  | boolean value => cases value <;> exact ⟨_, _, h, rfl⟩
  | number literal =>
      obtain ⟨b, more, hx, hb⟩ := literal.whole.exists_cons
      have hoctets : octets = literal.octets := h
      cases hsign : literal.negative with
      | true => exact ⟨_, _, by rw [hoctets, Literal.octets, hsign]; rfl, .inl rfl⟩
      | false =>
          refine ⟨b, more ++ (literal.fractionOctets ++ literal.exponentOctets), ?_, .inr hb⟩
          simp [hoctets, Literal.octets, hsign, Literal.unsignedOctets, hx]
  | text quotation => exact ⟨_, _, h, rfl⟩
  | list items =>
      obtain ⟨inner, h, -⟩ := h
      exact ⟨_, _, h, rfl⟩
  | object members =>
      obtain ⟨inner, h, -⟩ := h
      exact ⟨_, _, h, rfl⟩

/-- No text begins with a blank or with a closing bracket. -/
theorem Tree.Opens.solid {tree : Tree} {b : UInt8} (h : tree.Opens b) :
    isBlank b = false ∧ b ≠ 0x5D ∧ b ≠ 0x7D := by
  cases tree with
  | boolean value => cases value <;> obtain rfl : b = _ := h <;> decide
  | number literal =>
      rcases h with rfl | h
      · decide
      · refine ⟨isBlank_of_isDigit h, ?_, ?_⟩ <;> rintro rfl <;> simp [isDigit] at h
  | _ => obtain rfl : b = _ := h; decide

end Json
end OutboxRelay
