/-!
# Binary floating point in exact arithmetic

A magnitude is a multiple of a power of two.  Those of the sixty-four bit binary
format have a significand below `2 ^ 53` and an exponent of at least `-1074`.

**Algorithm.**

1. Bring a quotient to a grid on which its floor has fifty-three bits, or to the
   finest grid of the format.
2. Round to the nearest point of the grid, a half to the even neighbour.
3. Products and quotients of magnitudes are quotients of natural numbers, so one
   rounding serves them all.
-/

namespace OutboxRelay
namespace Number

/-- The magnitude `significand * 2 ^ exponent`. -/
structure Magnitude where
  significand : Nat
  exponent : Int
  deriving DecidableEq, Repr, Inhabited

namespace Magnitude

/-- The exponent of the finest grid. -/
def leastExponent : Int := -1074

/-- The exponent of the coarsest grid. -/
def greatestExponent : Int := 971

/-- The magnitude zero. -/
def zero : Magnitude :=
  ⟨0, leastExponent⟩

/-- Whether a magnitude is within the range of the format. -/
def isFinite (x : Magnitude) : Bool :=
  x.exponent ≤ greatestExponent

/-- `num / den` scaled by `2 ^ (-exponent)`, as a quotient of natural numbers. -/
def onGrid (num den : Nat) (exponent : Int) : Nat × Nat :=
  (num <<< (-exponent).toNat, den <<< exponent.toNat)

/-- The nearest natural number to `num / den`, a half going to the even one. -/
def roundHalfEven (num den : Nat) : Nat :=
  let floor := num / den
  let twice := 2 * (num % den)
  if den < twice then floor + 1
  else if twice = den then floor + floor % 2
  else floor

/-- The exponent of the grid on which `num / den` is rounded. -/
def gridExponent (num den : Nat) : Int :=
  let guess := max leastExponent
    ((Nat.log2 num : Int) - (Nat.log2 den : Int) - 53)
  let (n, d) := onGrid num den guess
  if 1 <<< 53 ≤ n / d then guess + 1 else guess

/-- The magnitude nearest to `num / den`. -/
def nearest (num den : Nat) : Magnitude :=
  if num = 0 then
    zero
  else
    let exponent := gridExponent num den
    let (n, d) := onGrid num den exponent
    let significand := roundHalfEven n d
    if significand = 1 <<< 53 then
      ⟨1 <<< 52, exponent + 1⟩
    else
      ⟨significand, exponent⟩

/-- The magnitude nearest to a natural number. -/
def ofNat (n : Nat) : Magnitude :=
  nearest n 1

/-- The rounded product. -/
def mul (x y : Magnitude) : Magnitude :=
  let exponent := x.exponent + y.exponent
  nearest ((x.significand * y.significand) <<< exponent.toNat)
    (1 <<< (-exponent).toNat)

/-- The rounded quotient by a magnitude other than zero. -/
def div (x y : Magnitude) : Magnitude :=
  let exponent := x.exponent - y.exponent
  nearest (x.significand <<< exponent.toNat)
    (y.significand <<< (-exponent).toNat)

/-- The magnitude nearest to a power of ten. -/
def powerOfTen (places : Nat) : Magnitude :=
  ofNat (Nat.pow 10 places)

/-- The largest power of ten within the range of the format. -/
def tenPlaces : Nat := 308

/-- A magnitude divided by a power of ten, in steps that stay within range. -/
def scaleDown (x : Magnitude) (places : Nat) : Magnitude :=
  if places ≤ tenPlaces then
    x.div (powerOfTen places)
  else if x.significand = 0 then
    x
  else
    scaleDown (x.div (powerOfTen tenPlaces)) (places - tenPlaces)
termination_by places
decreasing_by
  simp only [tenPlaces] at *
  omega

/--
The magnitude of the decimal `significand * 10 ^ exponent`: the significand is
rounded first and the scaled result again.  Nothing, if it is out of range.
-/
def ofDecimal? (significand : Nat) : Int → Option Magnitude
  | .ofNat places =>
      if places ≤ tenPlaces then
        let x := (ofNat significand).mul (powerOfTen places)
        if x.isFinite then some x else none
      else if significand = 0 then
        some zero
      else
        none
  | .negSucc places =>
      some ((ofNat significand).scaleDown (places + 1))

end Magnitude

/-- A finite number of the format, zero having either sign. -/
structure Binary64 where
  negative : Bool
  magnitude : Magnitude
  deriving DecidableEq, Repr, Inhabited

end Number
end OutboxRelay
