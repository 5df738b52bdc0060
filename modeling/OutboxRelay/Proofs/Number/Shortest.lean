import OutboxRelay.Number.Shortest
import OutboxRelay.Proofs.Number.Binary64

/-!
# The search for the shortest decimal

The search for a decimal walks from coarse grids to finer ones.  It ends with a hit,
whose digits are not all zeros, or behind its last grid, with no digits.

**Method.** A grid that is finer than the interval of a magnitude has a hit: the point
above the magnitude.  Where an end without a hit would be written as several zeros, the
last grid is that fine.
-/

namespace OutboxRelay
namespace Number
namespace Magnitude

/-! ## Hits -/

theorem interval_spec (x : Magnitude) :
    x.interval.1 ≤ 4 * x.significand ∧ x.interval.2 = 4 * x.significand + 2 := by
  simp only [interval]
  split <;> exact ⟨Nat.sub_le _ _, rfl⟩

theorem quarter_pos (x : Magnitude) (power : Int) : 0 < (x.quarter power).2 := by
  simp only [quarter, Nat.shiftLeft_eq, Nat.pow_eq]
  positivity

/-- The point above a magnitude is in its interval, if the grid is finer than that. -/
theorem covers_above {x : Magnitude} {power : Int}
    (h : (x.quarter power).2 < 2 * (x.quarter power).1) :
    x.covers power (4 * x.significand * (x.quarter power).1 / (x.quarter power).2 + 1) = true := by
  obtain ⟨hlow, hhigh⟩ := x.interval_spec
  have hden := x.quarter_pos power
  simp only [covers, hhigh]
  generalize (x.quarter power).1 = num at h
  generalize (x.quarter power).2 = den at h hden
  generalize 4 * x.significand = centre at hlow
  have hfloor : centre * num / den * den ≤ centre * num := Nat.div_mul_le_self _ _
  have hceiling : centre * num < (centre * num / den + 1) * den := by
    rw [Nat.mul_comm _ den]
    exact Nat.lt_mul_div_succ _ hden
  have habove : (centre * num / den + 1) * den < (centre + 2) * num := by
    rw [Nat.add_mul, Nat.add_mul]
    omega
  have hbelow : x.interval.1 * num < (centre * num / den + 1) * den :=
    (Nat.mul_le_mul_right num hlow).trans_lt hceiling
  split
  · simp [hbelow.le, habove.le]
  · simp [hbelow, habove]

theorem onDecimalGrid?_ne_none {x : Magnitude} {power : Int}
    (h : (x.quarter power).2 < 2 * (x.quarter power).1) :
    x.onDecimalGrid? power ≠ none := by
  have habove := covers_above h
  simp only [onDecimalGrid?, habove, Bool.and_true, if_true]
  split
  · split
    · simp
    split <;> simp
  · simp

/-- A hit is not at zero. -/
theorem pos_of_onDecimalGrid? {x : Magnitude} {power : Int} {digits : Nat}
    (h : x.onDecimalGrid? power = some digits) : 0 < digits := by
  simp only [onDecimalGrid?] at h
  generalize 4 * x.significand * (x.quarter power).1 / (x.quarter power).2 = below at h
  split at h
  · rename_i hboth
    have hbelow : 0 < below := by
      simp only [Bool.and_eq_true, decide_eq_true_eq] at hboth
      exact hboth.1.1
    split at h
    · obtain rfl := Option.some.inj h
      exact hbelow
    split at h
    · obtain rfl := Option.some.inj h
      exact Nat.succ_pos below
    · obtain rfl := Option.some.inj h
      exact Nat.add_pos_left hbelow _
  split at h
  · rename_i hboth
    obtain rfl := Option.some.inj h
    simp only [Bool.and_eq_true, decide_eq_true_eq] at hboth
    exact hboth.1
  · obtain ⟨-, h⟩ := Option.ite_none_right_eq_some.mp h
    obtain rfl := Option.some.inj h
    exact Nat.succ_pos below

/-! ## The walk -/

/-- The walk ends with a hit, or without one behind grids that have none. -/
theorem firstGrid_spec (x : Magnitude) (steps : Nat) (power : Int) :
    0 < (x.firstGrid steps power).digits ∨
      (x.firstGrid steps power).exponent = power - steps ∧
        ∀ step < steps, x.onDecimalGrid? (power - step) = none := by
  induction steps generalizing power with
  | zero => exact .inr ⟨by simp [firstGrid], by simp⟩
  | succ steps ih =>
      rw [firstGrid]
      cases hgrid : x.onDecimalGrid? power with
      | some digits => exact .inl (pos_of_onDecimalGrid? hgrid)
      | none =>
          rcases ih (power - 1) with hdigits | ⟨hpower, hnone⟩
          · exact .inl hdigits
          · refine .inr ⟨by simp only [hpower]; omega, fun step hstep => ?_⟩
            cases step with
            | zero => simpa using hgrid
            | succ step =>
                have := hnone step (by omega)
                rwa [show power - (step + 1 : Nat) = power - 1 - step by omega]

/-- A power of ten below a power of two, so that the grid is finer than the interval. -/
theorem quarter_lt {x : Magnitude} {power : Nat} (h : 4 * (power : Int) + 2 ≤ x.exponent) :
    (x.quarter power).2 < 2 * (x.quarter power).1 := by
  have hpower : 10 ^ power ≤ 2 ^ (4 * power) := by
    rw [Nat.pow_mul]
    exact Nat.pow_le_pow_left (by decide) power
  obtain ⟨rest, hrest⟩ : ∃ rest : Nat, x.exponent - 2 = 4 * (power : Int) + rest :=
    ⟨(x.exponent - 2 - 4 * power).toNat, by omega⟩
  have hup : (x.exponent - 2).toNat = 4 * power + rest := by omega
  have hdown : (-(x.exponent - 2)).toNat = 0 := by omega
  simp only [quarter, hup, hdown, Int.toNat_natCast, Nat.shiftLeft_eq, Nat.pow_eq]
  have hnegative : (-(power : Int)).toNat = 0 := by omega
  rw [hnegative, Nat.pow_add]
  have hone : 1 ≤ 2 ^ rest := Nat.one_le_two_pow
  nlinarith [Nat.mul_le_mul_left (2 ^ (4 * power)) hone, Nat.two_pow_pos (4 * power)]

/--
Where the search finds no digits it does not end at a power of ten that would be written
as several zeros: the last grid before that power has a hit.
-/
theorem exponent_shortest {x : Magnitude} (h : IsShort x) (hzero : x.shortest.digits = 0) :
    x.shortest.exponent ≤ 0 ∨ 16 ≤ x.shortest.exponent := by
  by_cases hsignificand : x.significand = 0
  · simp [shortest, hsignificand]
  rw [shortest, if_neg hsignificand] at hzero ⊢
  rcases x.firstGrid_spec 24 x.decimalBound with hdigits | ⟨hpower, hnone⟩
  · omega
  rw [hpower]
  by_contra hrange
  have hlog : Nat.log2 (x.significand + 1) ≤ 53 := by
    have hle : x.significand + 1 ≤ 2 ^ 53 := h
    have hlog := Nat.log2_lt (n := x.significand + 1) (k := 54) (by omega)
    omega
  obtain ⟨power, hlast⟩ : ∃ power : Nat, x.decimalBound - (23 : Nat) = power :=
    ⟨(x.decimalBound - 23).toNat, by omega⟩
  have hbound : 4 * (power : Int) + 2 ≤ x.exponent := by
    simp only [decimalBound] at hlast hrange
    omega
  refine onDecimalGrid?_ne_none (quarter_lt hbound) ?_
  rw [← hlast]
  exact hnone 23 (by decide)

end Magnitude
end Number
end OutboxRelay
