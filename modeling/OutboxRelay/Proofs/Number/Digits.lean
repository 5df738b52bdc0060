import Mathlib.Data.List.Basic

/-!
# Decimal digits

A number is printed with its digits, and every row of digits stands for a number.

**Results.**
* `head?_toDigits_ne`: no zero leads the digits with which a number is printed.
* `toDigits_eq_iff`: digits are those with which their number is printed, unless a zero leads
  others.
-/

namespace OutboxRelay
namespace Number

theorem exists_digitChar {c : Char} (digit : c.isDigit = true) : ∃ n < 10, c = Nat.digitChar n := by
  obtain ⟨least, greatest⟩ : 48 ≤ c.toNat ∧ c.toNat ≤ 57 := Char.isDigit_iff_toNat.mp digit
  obtain ⟨n, c_eq⟩ : ∃ n, c.toNat = 48 + n := Nat.exists_eq_add_of_le least
  have digits : ∀ n < 10, Char.ofNat (48 + n) = Nat.digitChar n := by decide
  have small : n < 10 := by omega
  exact ⟨n, small, by rw [← digits n small, ← c_eq, Char.ofNat_toNat]⟩

/-- More digits never make a number smaller. -/
theorem le_ofDigitChars (digits : List Char) (value : Nat) :
    value ≤ Nat.ofDigitChars 10 digits value := by
  rw [Nat.ofDigitChars_eq_ofDigitChars_zero]
  have grown : value ≤ 10 ^ digits.length * value :=
    Nat.le_mul_of_pos_left value (Nat.pow_pos (by decide))
  omega

/-- A number is not printed with a zero in front of other digits. -/
theorem head?_toDigits_ne {n : Nat} (h : n ≠ 0) : (Nat.toDigits 10 n).head? ≠ some '0' := by
  induction n using Nat.base_induction 10 (by decide) with
  | single n small =>
      have digits : ∀ n < 10, n ≠ 0 → Nat.digitChar n ≠ '0' := by decide
      rw [Nat.toDigits_of_lt_base small, List.head?_singleton, ne_eq, Option.some_inj]
      exact digits n small h
  | digit n last small positive ih =>
      rw [← Nat.toDigits_append_toDigits (by decide) positive small,
        List.head?_append_of_ne_nil _ Nat.toDigits_ne_nil]
      exact ih (Nat.ne_of_gt positive)

/-- Digits behind those of a number that is not zero are printed behind them. -/
theorem toDigits_ofDigitChars {digits : List Char} (areDigits : ∀ c ∈ digits, c.isDigit = true)
    {value : Nat} (positive : 0 < value) :
    Nat.toDigits 10 (Nat.ofDigitChars 10 digits value) = Nat.toDigits 10 value ++ digits := by
  induction digits generalizing value with
  | nil => rw [Nat.ofDigitChars_nil, List.append_nil]
  | cons c digits ih =>
      obtain ⟨⟨n, small, rfl⟩, others⟩ :=
        (List.forall_mem_cons.mp areDigits).imp_left exists_digitChar
      rw [Nat.ofDigitChars_cons_digitChar_of_lt_ten small, ih others (by omega),
        ← Nat.toDigits_append_toDigits (by decide) positive small,
        Nat.toDigits_of_lt_base small, List.append_assoc, List.singleton_append]

/-- Digits are those with which their number is printed, unless a zero leads others. -/
theorem toDigits_eq_iff {digits : List Char} (areDigits : ∀ c ∈ digits, c.isDigit = true)
    (nonempty : digits ≠ []) :
    Nat.toDigits 10 (Nat.ofDigitChars 10 digits 0) = digits ↔
      (digits.head? = some '0' → digits = ['0']) := by
  constructor
  · intro printed zero
    have value_eq : Nat.ofDigitChars 10 digits 0 = 0 := by
      by_contra other
      refine head?_toDigits_ne other ?_
      rw [printed, zero]
    rw [← printed, value_eq]
    rfl
  · intro unled
    obtain ⟨c, digits, rfl⟩ := List.exists_cons_of_ne_nil nonempty
    obtain ⟨⟨n, small, rfl⟩, others⟩ :=
      (List.forall_mem_cons.mp areDigits).imp_left exists_digitChar
    rw [Nat.ofDigitChars_cons_digitChar_of_lt_ten small, Nat.mul_zero, Nat.zero_add]
    rcases Nat.eq_zero_or_pos n with rfl | positive
    · obtain rfl : digits = [] := (List.cons.inj (unled rfl)).2
      rfl
    · rw [toDigits_ofDigitChars others positive, Nat.toDigits_of_lt_base small,
        List.singleton_append]

end Number
end OutboxRelay
