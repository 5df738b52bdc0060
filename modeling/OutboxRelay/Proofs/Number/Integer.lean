import OutboxRelay.Number.Integer
import OutboxRelay.Proofs.Number.Digits
import Mathlib.Algebra.Group.Int.Defs

/-!
# Spellings of integers

An integer is spelled with decimal digits and possibly a sign in front of them.  It has many
spellings, since zeros may lead the digits, and it is read from each of them if it lies within
the bounds.

**Method.** The reader looks at the bound behind every digit.  More digits never bring a number
back, so that one that is within the bound at the end has been within it all the way.  A negative
number is read like the opposite one within the opposite bounds.

**Results.**
* `IntegerRange.parse_eq_ok_iff`: the texts from which an integer is read are its spellings.
* `Spelling.toString_value_iff`: an integer is printed as it was spelled just when it was spelled
  without a plus sign, without zeros in front, and without a sign at zero.
-/

namespace OutboxRelay
namespace Number

/-! ## Spellings -/

/-- An integer as it is spelled. -/
structure Spelling where
  /-- The sign in front of the digits, if there is one. -/
  sign : Option Char
  isSign : ∀ c ∈ sign, c = '+' ∨ c = '-'
  digits : List Char
  areDigits : ∀ c ∈ digits, c.isDigit = true
  nonempty : digits ≠ []

namespace Spelling

/-- The text of a spelling. -/
def text (s : Spelling) : String :=
  String.ofList (s.sign.toList ++ s.digits)

/-- The number for which the digits stand. -/
def magnitude (s : Spelling) : Nat :=
  Nat.ofDigitChars 10 s.digits 0

/-- The integer that is spelled. -/
def value (s : Spelling) : Int :=
  if s.sign = some '-' then -s.magnitude else s.magnitude

/-- Whether there is no plus sign, no zero in front of other digits, and no sign at zero. -/
def IsPlain (s : Spelling) : Prop :=
  s.sign ≠ some '+' ∧ (s.digits.head? = some '0' → s.sign = none ∧ s.digits = ['0'])

/-- A sign and digits make a spelling. -/
theorem exists_text_eq {text : String} {digits : List Char} (sign : Option Char)
    (isSign : ∀ c ∈ sign, c = '+' ∨ c = '-') (areDigits : ∀ c ∈ digits, c.isDigit = true)
    (nonempty : digits ≠ []) (text_eq : text.toList = sign.toList ++ digits) :
    ∃ s : Spelling, s.text = text := by
  refine ⟨⟨sign, isSign, digits, areDigits, nonempty⟩, ?_⟩
  rw [Spelling.text, ← text_eq, String.ofList_toList]

variable (s : Spelling)

theorem sign_cases : s.sign = none ∨ s.sign = some '+' ∨ s.sign = some '-' := by
  cases sign_eq : s.sign with
  | none => exact .inl rfl
  | some c => exact .inr ((s.isSign c sign_eq).imp (congrArg some) (congrArg some))

/-- A minus sign is printed in front of the digits, but not at zero. -/
theorem toList_toString_value :
    (toString s.value).toList =
      if s.sign = some '-' ∧ s.magnitude ≠ 0 then '-' :: Nat.toDigits 10 s.magnitude
      else Nat.toDigits 10 s.magnitude := by
  unfold value
  by_cases negated : s.sign = some '-'
  · rw [if_pos negated]
    cases s.magnitude with
    | zero => simp only [negated, ne_eq, not_true, and_false, if_false]; rfl
    | succ m =>
        have printed : toString (-((m + 1 : Nat) : Int)) = "-" ++ (m + 1).repr := rfl
        rw [printed, negated, if_pos ⟨rfl, Nat.succ_ne_zero m⟩, String.toList_append,
          Nat.toList_repr]
        rfl
  · rw [if_neg negated, if_neg fun both => negated both.1]
    exact Nat.toList_repr

/-- An integer is printed as it was spelled just when it was spelled plainly. -/
theorem toString_value_iff : toString s.value = s.text ↔ s.IsPlain := by
  have same : Nat.toDigits 10 s.magnitude = s.digits ↔
      (s.digits.head? = some '0' → s.digits = ['0']) := toDigits_eq_iff s.areDigits s.nonempty
  rw [← String.toList_inj, toList_toString_value, text, String.toList_ofList]
  unfold IsPlain
  rcases s.sign_cases with sign | sign | sign
  case inl => simp [sign, same]
  case inr.inl =>
    have apart : Nat.toDigits 10 s.magnitude ≠ '+' :: s.digits := by
      intro printed
      have digit : '+'.isDigit = true :=
        Nat.isDigit_of_mem_toDigits (by decide) (by decide) (printed ▸ List.mem_cons_self)
      cases digit
    simp [sign, apart]
  case inr.inr =>
    by_cases zero : s.magnitude = 0
    · -- The digits of zero start with a zero, and the sign in front of them is not printed.
      have led : s.digits.head? = some '0' := by
        by_contra unled
        refine unled ?_
        rw [← same.mpr fun led => absurd led unled, zero]
        rfl
      simp [sign, zero, led]
    · rw [sign, if_pos ⟨rfl, zero⟩]
      constructor
      · intro printed
        have unled : s.digits.head? ≠ some '0' := by
          have digits_eq : Nat.toDigits 10 s.magnitude = s.digits := (List.cons.inj printed).2
          exact digits_eq ▸ head?_toDigits_ne zero
        exact ⟨by simp, fun led => absurd led unled⟩
      · rintro ⟨-, plain⟩
        have unled : s.digits.head? ≠ some '0' := fun led => nomatch (plain led).1
        rw [same.mpr fun led => absurd led unled]
        rfl

end Spelling

/--
Whether a text spells an integer from `least` to `greatest`, behind a minus sign only if there
may be one.
-/
def Spells (signed : Bool) (least greatest : Int) (text : String) (n : Int) : Prop :=
  ∃ spelling : Spelling, spelling.text = text ∧ spelling.value = n ∧
    (spelling.sign = some '-' → signed = true) ∧ least ≤ n ∧ n ≤ greatest

theorem Spells.least_le {signed : Bool} {least greatest n : Int} {text : String}
    (spells : Spells signed least greatest text n) : least ≤ n := by
  obtain ⟨s, -, -, -, within⟩ := spells
  exact within.1

theorem Spells.le_greatest {signed : Bool} {least greatest n : Int} {text : String}
    (spells : Spells signed least greatest text n) : n ≤ greatest := by
  obtain ⟨s, -, -, -, within⟩ := spells
  exact within.2

/-- An integer of some bounds is one of all other bounds between which it lies. -/
theorem Spells.within {signed : Bool} {least least' greatest greatest' n : Int} {text : String}
    (spells : Spells signed least greatest text n) (below : least' ≤ n) (above : n ≤ greatest') :
    Spells signed least' greatest' text n := by
  obtain ⟨s, text_eq, value_eq, sign, -⟩ := spells
  exact ⟨s, text_eq, value_eq, sign, below, above⟩

/-! ## Reading -/

theorem decimalDigit?_eq (c : Char) :
    decimalDigit? c = if c.isDigit then some (c.toNat - '0'.toNat) else none := by
  have same : ('0' ≤ c ∧ c ≤ '9') ↔ c.isDigit = true := by
    simp only [Char.isDigit_iff_toNat, Char.le_def, UInt32.le_iff_toNat_le]
    rfl
  unfold decimalDigit?
  simp only [same]

namespace IntegerRange

variable {range : IntegerRange} {digits : List Char} {n : Int}

/-- A number is read on from more digits just when it stays within the greatest integer. -/
theorem readUp_natCast_iff {value : Nat} (bounded : value ≤ range.greatest) :
    range.readUp value digits = .ok n ↔
      (∀ c ∈ digits, c.isDigit = true) ∧ Nat.ofDigitChars 10 digits value = n ∧
        n ≤ range.greatest := by
  induction digits generalizing value with
  | nil =>
      simp only [readUp, Except.ok.injEq, List.not_mem_nil, false_implies, implies_true,
        Nat.ofDigitChars_nil, true_and]
      exact ⟨fun same => ⟨same, same ▸ bounded⟩, And.left⟩
  | cons c digits ih =>
      rw [readUp, decimalDigit?_eq, List.forall_mem_cons, Nat.ofDigitChars_cons]
      by_cases digit : c.isDigit = true
      · have next : (value : Int) * 10 + (c.toNat - '0'.toNat : Nat) =
            (10 * value + (c.toNat - '0'.toNat) : Nat) := by
          push_cast
          omega
        have grown := le_ofDigitChars digits (10 * value + (c.toNat - '0'.toNat))
        simp only [digit, if_true, true_and, next]
        split
        case isTrue beyond =>
          refine iff_of_false (fun read => nomatch read) ?_
          rintro ⟨-, rfl, within⟩
          omega
        case isFalse within => exact ih (Int.not_lt.mp within)
      · simp [digit]

/-- The opposite integers. -/
def opposite (range : IntegerRange) : IntegerRange :=
  ⟨-range.greatest, -range.least⟩

@[simp] theorem greatest_opposite (range : IntegerRange) :
    range.opposite.greatest = -range.least :=
  rfl

/-- A negative number is read like the opposite one within the opposite bounds. -/
theorem readDown_neg_iff {value : Int} :
    range.readDown (-value) digits = .ok n ↔ range.opposite.readUp value digits = .ok (-n) := by
  induction digits generalizing value with
  | nil =>
      simp only [readDown, readUp, Except.ok.injEq]
      omega
  | cons c digits ih =>
      rw [readDown, readUp]
      cases decimalDigit? c with
      | none => simp
      | some digit =>
          have next : -value * 10 - digit = -(value * 10 + digit) := by omega
          have bound : -(value * 10 + digit) < range.least ↔
              range.opposite.greatest < value * 10 + digit := by
            rw [greatest_opposite]
            omega
          simp only [next, bound]
          split
          case isTrue => simp
          case isFalse => exact ih

/-- A number is read from its digits just when it is not above the greatest integer. -/
theorem readUp_eq_ok_iff (bounded : 0 ≤ range.greatest) :
    range.readUp 0 digits = .ok n ↔
      (∀ c ∈ digits, c.isDigit = true) ∧ Nat.ofDigitChars 10 digits 0 = n ∧ n ≤ range.greatest :=
  readUp_natCast_iff bounded

/-- A negative number is read from its digits just when it is not below the least integer. -/
theorem readDown_eq_ok_iff (bounded : range.least ≤ 0) :
    range.readDown 0 digits = .ok n ↔
      (∀ c ∈ digits, c.isDigit = true) ∧ -Nat.ofDigitChars 10 digits 0 = n ∧ range.least ≤ n := by
  have turned : range.readDown (-0) digits = .ok n ↔ range.opposite.readUp 0 digits = .ok (-n) :=
    readDown_neg_iff
  rw [Int.neg_zero, readUp_eq_ok_iff (Int.neg_nonneg.mpr bounded), greatest_opposite] at turned
  refine turned.trans (and_congr_right fun _ => ?_)
  omega

/-! ## Texts -/

/-- What is read of a spelling. -/
theorem parse_text (range : IntegerRange) (s : Spelling) :
    range.parse s.text =
      if s.sign = some '-' then
        if range.least < 0 then range.readDown 0 s.digits else .error .strangeCharacter
      else range.readUp 0 s.digits := by
  obtain ⟨c, digits, digits_eq⟩ := List.exists_cons_of_ne_nil s.nonempty
  have digit : c.isDigit = true := s.areDigits c (digits_eq ▸ List.mem_cons_self)
  unfold parse Spelling.text
  rw [String.toList_ofList]
  rcases s.sign_cases with sign | sign | sign
  case inl =>
    have unsigned : c ≠ '+' ∧ c ≠ '-' := by
      constructor <;> rintro rfl <;> cases digit
    cases digits with
    | nil => simp [sign, digits_eq, unsigned]
    | cons d digits => simp [sign, digits_eq, unsigned]
  case inr.inl => simp [sign, digits_eq]
  case inr.inr =>
    by_cases negative : range.least < 0
    · simp [sign, digits_eq, negative]
    · simp [sign, digits_eq, negative, readUp, decimalDigit?]

/-- An integer is read of spellings only. -/
theorem exists_text_of_parse {text : String} (least : range.least ≤ 0)
    (greatest : 0 ≤ range.greatest) (read : range.parse text = .ok n) :
    ∃ s : Spelling, s.text = text := by
  unfold parse at read
  split at read
  case h_1 => cases read
  case h_2 c text_eq =>
    split at read
    case isTrue => cases read
    case isFalse =>
      have areDigits := ((readUp_eq_ok_iff greatest).mp read).1
      exact Spelling.exists_text_eq none (by simp) areDigits (by simp) text_eq
  case h_3 c rest nonempty text_eq =>
    split at read
    case isTrue plus =>
      have areDigits := ((readUp_eq_ok_iff greatest).mp read).1
      exact Spelling.exists_text_eq (some '+') (by simp) areDigits nonempty (plus ▸ text_eq)
    case isFalse =>
      split at read
      case isTrue minus =>
        have areDigits := ((readDown_eq_ok_iff least).mp read).1
        exact Spelling.exists_text_eq (some '-') (by simp) areDigits nonempty (minus.1 ▸ text_eq)
      case isFalse =>
        have areDigits := ((readUp_eq_ok_iff greatest).mp read).1
        exact Spelling.exists_text_eq none (by simp) areDigits (by simp) text_eq

/-- An integer is read from its spelling just when it is within the bounds. -/
theorem parse_text_eq_ok_iff (least : range.least ≤ 0) (greatest : 0 ≤ range.greatest)
    (s : Spelling) :
    range.parse s.text = .ok n ↔
      s.value = n ∧ (s.sign = some '-' → range.least < 0) ∧ range.least ≤ n ∧
        n ≤ range.greatest := by
  have up : range.readUp 0 s.digits = .ok n ↔ s.magnitude = n ∧ n ≤ range.greatest :=
    (readUp_eq_ok_iff greatest).trans (and_iff_right s.areDigits)
  have down : range.readDown 0 s.digits = .ok n ↔ -s.magnitude = n ∧ range.least ≤ n :=
    (readDown_eq_ok_iff least).trans (and_iff_right s.areDigits)
  rw [parse_text, Spelling.value]
  by_cases negated : s.sign = some '-'
  · by_cases signed : range.least < 0
    · simp only [negated, signed, if_true, true_implies, true_and, down]
      omega
    · simp [negated, signed]
  · simp only [negated, if_false, false_implies, true_and, up]
    omega

/-- The texts from which an integer is read are its spellings. -/
theorem parse_eq_ok_iff {text : String} (least : range.least ≤ 0) (greatest : 0 ≤ range.greatest) :
    range.parse text = .ok n ↔ Spells (range.least < 0) range.least range.greatest text n := by
  simp only [Spells, decide_eq_true_eq]
  constructor
  · intro read
    obtain ⟨s, rfl⟩ := exists_text_of_parse least greatest read
    exact ⟨s, rfl, (parse_text_eq_ok_iff least greatest s).mp read⟩
  · rintro ⟨s, rfl, spelled⟩
    exact (parse_text_eq_ok_iff least greatest s).mpr spelled

/-- The texts of the integers of so many bits, one of them for the sign. -/
theorem parse_signed_eq_ok_iff {text : String} (bits : Nat) :
    (signed bits).parse text = .ok n ↔
      Spells true (-2 ^ (bits - 1)) (2 ^ (bits - 1) - 1) text n := by
  have positive : (0 : Int) < 2 ^ (bits - 1) := Int.pow_pos (by decide)
  have range_eq : signed bits = ⟨-2 ^ (bits - 1), 2 ^ (bits - 1) - 1⟩ := by
    simp [signed, Nat.one_shiftLeft]
  have negative : decide ((-2 ^ (bits - 1) : Int) < 0) = true := by
    rw [decide_eq_true_eq]
    omega
  rw [range_eq, parse_eq_ok_iff (by simp only; omega) (by simp only; omega), negative]

/-- The texts of the integers of so many bits without a sign. -/
theorem parse_unsigned_eq_ok_iff {text : String} (bits : Nat) :
    (unsigned bits).parse text = .ok n ↔ Spells false 0 (2 ^ bits - 1) text n := by
  have positive : (0 : Int) < 2 ^ bits := Int.pow_pos (by decide)
  have range_eq : unsigned bits = ⟨0, 2 ^ bits - 1⟩ := by
    simp [unsigned, Nat.one_shiftLeft]
  rw [range_eq]
  exact parse_eq_ok_iff (Int.le_refl 0) (by simp only; omega)

/-- Zeros may lead the digits behind a plus sign, but there is no minus sign, not even at zero. -/
example : (unsigned 64).parse "+007" = .ok 7 ∧
    (unsigned 64).parse "-0" = .error .strangeCharacter := by
  decide

end IntegerRange

/-- A text spells one integer. -/
theorem Spelling.value_eq_of_text_eq {s t : Spelling} (h : s.text = t.text) :
    s.value = t.value := by
  -- Both are read within bounds that are wide enough for them.
  let range : IntegerRange := ⟨-(1 + s.value.natAbs + t.value.natAbs),
    s.value.natAbs + t.value.natAbs⟩
  have negative : range.least < 0 := by simp only [range]; omega
  have greatest : 0 ≤ range.greatest := by simp only [range]; omega
  have read (x : Spelling) (within : range.least ≤ x.value ∧ x.value ≤ range.greatest) :
      range.parse x.text = .ok x.value :=
    (IntegerRange.parse_text_eq_ok_iff (Int.le_of_lt negative) greatest x).mpr
      ⟨rfl, fun _ => negative, within⟩
  have s_read := read s (by simp only [range]; omega)
  have t_read := read t (by simp only [range]; omega)
  exact Except.ok.inj (s_read.symm.trans (h ▸ t_read))

/-- Whether a spelling is plain depends on its text only. -/
theorem Spelling.IsPlain.of_text_eq {s t : Spelling} (plain : s.IsPlain) (h : s.text = t.text) :
    t.IsPlain := by
  rw [← toString_value_iff] at plain ⊢
  rw [← value_eq_of_text_eq h, ← h, plain]

end Number
end OutboxRelay
