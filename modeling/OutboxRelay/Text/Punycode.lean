/-!
# Punycode

A row of characters is written in ASCII as its ASCII characters followed by the places
and the numbers of the others.  The others are taken in ascending order, and each step
from one to the next is a number of variable length in base thirty-six.

**Algorithm.** A number is written from its least digit on.  Each position has a
threshold, and a digit below its threshold ends the number.  The thresholds follow the
size of the steps seen so far, through a bias.
-/

namespace OutboxRelay
namespace Punycode

/-- The digit of a value below thirty-six. -/
def digit (value : Nat) : Char :=
  if value < 26 then Char.ofNat (0x61 + value) else Char.ofNat (0x30 + value - 26)

/-- The value of a digit, of either case. -/
def digitValue? (c : Char) : Option Nat :=
  let n := c.toNat
  if 0x61 ≤ n ∧ n ≤ 0x7A then some (n - 0x61)
  else if 0x41 ≤ n ∧ n ≤ 0x5A then some (n - 0x41)
  else if 0x30 ≤ n ∧ n ≤ 0x39 then some (n - 0x30 + 26)
  else none

/-- The threshold of a position, the first of which is thirty-six. -/
def threshold (bias position : Nat) : Nat :=
  if position ≤ bias + 1 then 1
  else if bias + 26 ≤ position then 26
  else position - bias

theorem threshold_pos (bias position : Nat) : 0 < threshold bias position := by
  unfold threshold
  split
  · omega
  · split <;> omega

/-- Brings a step into range and counts the positions that this takes. -/
def shrink (step position : Nat) : Nat × Nat :=
  if 455 < step then shrink (step / 35) (position + 36) else (step, position)
termination_by step
decreasing_by
  exact Nat.div_lt_self (by omega) (by omega)

/-- The bias behind a step, with so many characters known; the first step counts less. -/
def adapted (step count : Nat) (isFirst : Bool) : Nat :=
  let step := if isFirst then step / 700 else step / 2
  let (step, position) := shrink (step + step / count) 0
  position + 36 * step / (step + 38)

/-! ## Writing -/

/-- The digits of a number from a position on. -/
def numberFrom (bias position number : Nat) : List Char :=
  let limit := threshold bias position
  if number < limit then
    [digit number]
  else
    digit (limit + (number - limit) % (36 - limit)) ::
      numberFrom bias (position + 36) ((number - limit) / (36 - limit))
termination_by number
decreasing_by
  have := threshold_pos bias position
  have : (number - threshold bias position) / (36 - threshold bias position) ≤
      number - threshold bias position := Nat.div_le_self _ _
  omega

/-- The state of writing: what is written, in reverse, and what is known of the steps. -/
structure Writing where
  written : List Char
  step : Nat
  bias : Nat
  count : Nat

/-- Passes one character while those with a number are being placed. -/
def Writing.pass (plain number : Nat) (w : Writing) (c : Char) : Writing :=
  if c.toNat < number then
    { w with step := w.step + 1 }
  else if c.toNat = number then
    { written := (numberFrom w.bias 36 w.step).reverse ++ w.written
      step := 0
      bias := adapted w.step (w.count + 1) (w.count == plain)
      count := w.count + 1 }
  else
    w

/-- Places the characters with each of some numbers, which ascend. -/
def Writing.place (chars : List Char) (plain : Nat) : Nat → List Nat → Writing → Writing
  | _, [], w => w
  | last, number :: numbers, w =>
      let w := { w with step := w.step + (number - last) * (w.count + 1) }
      let w := chars.foldl (Writing.pass plain number) w
      place chars plain (number + 1) numbers { w with step := w.step + 1 }

/-- Whether a character belongs to ASCII. -/
def isPlain (c : Char) : Bool :=
  c.toNat < 0x80

/-- The distinct numbers of the characters outside of ASCII, in ascending order. -/
def strangeNumbers (chars : List Char) : List Nat :=
  (((chars.filter fun c => !isPlain c).map Char.toNat).mergeSort (· ≤ ·)).eraseDups

/-- The ASCII form of a row of characters. -/
def encode (chars : List Char) : List Char :=
  let plain := chars.filter isPlain
  let start : Writing := ⟨[], 0, 72, plain.length⟩
  let done := Writing.place chars plain.length 0x80 (strangeNumbers chars) start
  plain ++ (if plain.isEmpty then [] else ['-']) ++ done.written.reverse

/-! ## Reading -/

/-- The number written from a position on, and the digits behind it. -/
def readNumber (bias : Nat) :
    Nat → Nat → Nat → List Char → Option (Nat × List Char)
  | _, _, _, [] => none
  | position, number, weight, c :: rest => do
      let value ← digitValue? c
      let number := number + value * weight
      let limit := threshold bias position
      if value < limit then
        some (number, rest)
      else
        readNumber bias (position + 36) number (weight * (36 - limit)) rest

/-- Reading leaves fewer characters. -/
theorem length_lt_of_readNumber {bias : Nat} :
    ∀ {chars rest : List Char} {position number weight result : Nat},
      readNumber bias position number weight chars = some (result, rest) →
        rest.length < chars.length
  | [], _, _, _, _, _, h => by simp [readNumber] at h
  | c :: chars, rest, position, number, weight, result, h => by
      simp only [readNumber, Option.bind_eq_bind, Option.bind_eq_some_iff] at h
      obtain ⟨value, _, h⟩ := h
      split at h
      · simp only [Option.some.injEq, Prod.mk.injEq] at h
        simp [h.2]
      · have := length_lt_of_readNumber h
        simp only [List.length_cons]
        omega

/--
Places the characters that the rest of the digits describe.  Behind the first one the
place is never zero.
-/
def readFrom (number place bias : Nat) (chars : List Char) (digits : List Char) :
    Option (List Char) :=
  match digits with
  | [] => some chars
  | d :: more =>
      match h : readNumber bias 36 0 1 (d :: more) with
      | none => none
      | some (step, rest) =>
          let count := chars.length + 1
          let bias := adapted step count (place == 0)
          let number := number + (place + step) / count
          let place := (place + step) % count
          if number.isValidChar then
            readFrom number (place + 1) bias
              (chars.insertIdx place (Char.ofNat number)) rest
          else
            none
termination_by digits.length
decreasing_by exact length_lt_of_readNumber h

/-- The characters behind the last hyphen, and those in front of it. -/
def splitLast (chars : List Char) : List Char × List Char :=
  let behind := (chars.reverse.takeWhile (· ≠ '-')).reverse
  (chars.take (chars.length - behind.length - 1), behind)

/--
The row of characters with an ASCII form, in which a hyphen sets off at least one
character.
-/
def decode? (chars : List Char) : Option (List Char) :=
  let (plain, digits) := splitLast chars
  if plain.isEmpty && chars.contains '-' then none
  else if plain.all isPlain then readFrom 0x80 0 72 plain digits
  else none

end Punycode
end OutboxRelay
