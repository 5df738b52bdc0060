import OutboxRelay.Number.Binary64

/-!
# The shortest decimal that reads back

Every magnitude is the nearest one to each real number of an interval around it.
The decimal written for it has the fewest digits of all decimals in that interval
and, of those, is the nearest one.

**Algorithm.** Walk from a grid of powers of ten that is too coarse to finer ones.
On each, only the two neighbours of the magnitude can lie in the interval, and the
first grid with a hit gives the fewest digits.
-/

namespace OutboxRelay
namespace Number

/-- The decimal `digits * 10 ^ exponent`. -/
structure Decimal where
  digits : Nat
  exponent : Int
  deriving DecidableEq, Repr, Inhabited

namespace Magnitude

/--
The ends of the interval that rounds to a magnitude, in quarters of its grid.
The grid below the least significand of a range is twice as fine.
-/
def interval (x : Magnitude) : Nat × Nat :=
  let centre := 4 * x.significand
  if x.significand = 1 <<< 52 ∧ leastExponent < x.exponent then
    (centre - 1, centre + 2)
  else
    (centre - 2, centre + 2)

/-- One quarter of the grid of a magnitude, measured in `10 ^ power`. -/
def quarter (x : Magnitude) (power : Int) : Nat × Nat :=
  let exponent := x.exponent - 2
  (Nat.pow 10 (-power).toNat <<< exponent.toNat,
    Nat.pow 10 power.toNat <<< (-exponent).toNat)

/-- Whether `digits * 10 ^ power` lies in the interval of a magnitude. -/
def covers (x : Magnitude) (power : Int) (digits : Nat) : Bool :=
  let (num, den) := x.quarter power
  let (low, high) := x.interval
  let point := digits * den
  if x.significand % 2 = 0 then
    low * num ≤ point && point ≤ high * num
  else
    low * num < point && point < high * num

/-- The decimal on the grid of `10 ^ power` that is nearest to a magnitude, if it reads back. -/
def onDecimalGrid? (x : Magnitude) (power : Int) : Option Nat :=
  let (num, den) := x.quarter power
  let value := 4 * x.significand * num
  let below := value / den
  let above := below + 1
  let hitBelow := 0 < below && x.covers power below
  let hitAbove := x.covers power above
  if hitBelow && hitAbove then
    let twice := 2 * (value % den)
    if twice < den then some below
    else if den < twice then some above
    else some (below + below % 2)
  else if hitBelow then some below
  else if hitAbove then some above
  else none

/-- The first hit on the grids from `power` downwards. -/
def firstGrid (x : Magnitude) : Nat → Int → Decimal
  | 0, power => ⟨0, power⟩
  | steps + 1, power =>
      match x.onDecimalGrid? power with
      | some digits => ⟨digits, power⟩
      | none => firstGrid x steps (power - 1)

/-- An upper bound for the decimal exponent of a magnitude. -/
def decimalBound (x : Magnitude) : Int :=
  ((Nat.log2 (x.significand + 1) : Int) + x.exponent + 1) * 30103 / 100000 + 2

/-- The shortest decimal that reads back as a magnitude, and zero for zero. -/
def shortest (x : Magnitude) : Decimal :=
  if x.significand = 0 then
    ⟨0, 0⟩
  else
    x.firstGrid 24 x.decimalBound

end Magnitude

/--
How a decimal is laid out: its point is at most so many places right of the first
digit's left edge, or so many places left of it, before an exponent is written.
-/
structure Layout where
  placesRight : Int
  placesLeft : Int
  deriving DecidableEq, Repr

namespace Decimal

/-- A row of zeros. -/
def zeros (n : Nat) : String :=
  String.ofList (List.replicate n '0')

/-- The decimal with an exponent, the point after its first digit. -/
def withExponent (digits : List Char) (exponent : Int) : String :=
  let mark := if exponent < 0 then "e-" else "e+"
  let power := mark ++ toString exponent.natAbs
  match digits with
  | [] => power
  | [d] => d.toString ++ power
  | d :: rest => d.toString ++ "." ++ String.ofList rest ++ power

/-- The text of a decimal, which always has a point or an exponent. -/
def text (layout : Layout) (x : Decimal) : String :=
  let digits := (toString x.digits).toList
  let point : Int := digits.length + x.exponent
  if 0 ≤ x.exponent ∧ point ≤ layout.placesRight then
    String.ofList digits ++ zeros x.exponent.toNat ++ ".0"
  else if 0 < point ∧ point ≤ layout.placesRight then
    String.ofList (digits.take point.toNat) ++ "." ++
      String.ofList (digits.drop point.toNat)
  else if -layout.placesLeft < point ∧ point ≤ 0 then
    "0." ++ zeros (-point).toNat ++ String.ofList digits
  else
    withExponent digits (point - 1)

end Decimal

/-- The text of a number of the format. -/
def Binary64.text (layout : Layout) (x : Binary64) : String :=
  (if x.negative then "-" else "") ++ x.magnitude.shortest.text layout

end Number
end OutboxRelay
