import Mathlib.Tactic
import OutboxRelay.Number.Binary64

/-!
# Significands of rounded magnitudes

A rounded magnitude has a significand of at most fifty-three bits.

**Method.** On a grid that is not too fine for the lengths of numerator and denominator
the quotient has a bounded number of bits.  Rounding adds one at most, and where that
needs one more bit the result is brought to the next grid.
-/

namespace OutboxRelay
namespace Number
namespace Magnitude

/-- Whether the significand of a magnitude has at most fifty-three bits. -/
def IsShort (x : Magnitude) : Prop :=
  x.significand < 1 <<< 53

/-- On a grid that is not too fine, a quotient has so many bits at most. -/
theorem onGrid_div_lt {num den bits : Nat} {exponent : Int} (hden : den ≠ 0)
    (h : (Nat.log2 num : Int) + 1 ≤ bits + Nat.log2 den + exponent) :
    (onGrid num den exponent).1 / (onGrid num den exponent).2 < 2 ^ bits := by
  simp only [onGrid, Nat.shiftLeft_eq]
  have hpositive : 0 < den * 2 ^ exponent.toNat :=
    Nat.mul_pos (Nat.pos_of_ne_zero hden) (Nat.two_pow_pos _)
  rw [Nat.div_lt_iff_lt_mul hpositive]
  calc num * 2 ^ (-exponent).toNat
      < 2 ^ (num.log2 + 1) * 2 ^ (-exponent).toNat :=
        Nat.mul_lt_mul_of_pos_right Nat.lt_log2_self (Nat.two_pow_pos _)
    _ = 2 ^ (num.log2 + 1 + (-exponent).toNat) := (Nat.pow_add 2 _ _).symm
    _ ≤ 2 ^ (bits + (den.log2 + exponent.toNat)) :=
        Nat.pow_le_pow_right (by decide) (by omega)
    _ = 2 ^ bits * (2 ^ den.log2 * 2 ^ exponent.toNat) := by rw [Nat.pow_add, Nat.pow_add]
    _ ≤ 2 ^ bits * (den * 2 ^ exponent.toNat) :=
        Nat.mul_le_mul_left _ (Nat.mul_le_mul_right _ (Nat.log2_self_le hden))

theorem onGrid_div_zero (num : Nat) (exponent : Int) :
    (onGrid num 0 exponent).1 / (onGrid num 0 exponent).2 = 0 := by
  simp [onGrid]

/-- On its own grid, a quotient has at most fifty-three bits. -/
theorem gridExponent_div_lt (num den : Nat) :
    (onGrid num den (gridExponent num den)).1 / (onGrid num den (gridExponent num den)).2 <
      2 ^ 53 := by
  by_cases hden : den = 0
  · rw [hden, onGrid_div_zero]
    exact Nat.two_pow_pos 53
  simp only [gridExponent]
  split
  · exact onGrid_div_lt hden (by omega)
  · rename_i h
    exact Nat.lt_of_not_le h

theorem roundHalfEven_le (num den : Nat) : roundHalfEven num den ≤ num / den + 1 := by
  simp only [roundHalfEven]
  split
  · exact Nat.le_refl _
  split
  · omega
  · omega

/-! ## What is rounded -/

theorem isShort_zero : IsShort zero :=
  Nat.two_pow_pos 53

theorem isShort_nearest (num den : Nat) : IsShort (nearest num den) := by
  have hdiv := gridExponent_div_lt num den
  have hround := roundHalfEven_le (onGrid num den (gridExponent num den)).1
    (onGrid num den (gridExponent num den)).2
  simp only [IsShort, nearest]
  split
  · exact isShort_zero
  split
  · exact (by decide : 1 <<< 52 < 1 <<< 53)
  · change _ < 2 ^ 53
    rename_i hcarry
    have hcarry : roundHalfEven (onGrid num den (gridExponent num den)).1
        (onGrid num den (gridExponent num den)).2 ≠ 2 ^ 53 := hcarry
    exact Nat.lt_of_le_of_ne (hround.trans hdiv) hcarry

theorem IsShort.scaleDown {x : Magnitude} (h : IsShort x) (places : Nat) :
    IsShort (x.scaleDown places) := by
  induction x, places using Magnitude.scaleDown.induct with
  | case1 x places hplaces =>
      rw [Magnitude.scaleDown, if_pos hplaces]
      exact isShort_nearest _ _
  | case2 x places hplaces hzero =>
      rw [Magnitude.scaleDown, if_neg hplaces, if_pos hzero]
      exact h
  | case3 x places hplaces hzero ih =>
      rw [Magnitude.scaleDown, if_neg hplaces, if_neg hzero]
      exact ih (isShort_nearest _ _)

/-- The magnitude that is read of a decimal is short. -/
theorem isShort_ofDecimal? {significand : Nat} {exponent : Int} {x : Magnitude}
    (h : ofDecimal? significand exponent = some x) : IsShort x := by
  cases exponent with
  | ofNat places =>
      simp only [ofDecimal?] at h
      split at h
      · obtain ⟨-, hx⟩ := Option.ite_none_right_eq_some.mp h
        obtain rfl := Option.some.inj hx
        exact isShort_nearest _ _
      · obtain ⟨-, hx⟩ := Option.ite_none_right_eq_some.mp h
        obtain rfl := Option.some.inj hx
        exact isShort_zero
  | negSucc places =>
      obtain rfl := Option.some.inj h
      exact IsShort.scaleDown (isShort_nearest _ _) _

end Magnitude
end Number
end OutboxRelay
