/-!
# Integers in settings

An integer is written with decimal digits behind an optional sign and has to lie in a
range.  Its digits are read from the left, and the first fault on the way is reported.
-/

namespace OutboxRelay
namespace Number

/-- A range of integers, both of its ends included. -/
structure IntegerRange where
  least : Int
  greatest : Int
  deriving DecidableEq, Repr

/-- Why a text is no integer of a range. -/
inductive IntegerFault
  | empty
  | strangeCharacter
  | tooLarge
  | tooSmall
  deriving DecidableEq, Repr

/-- The wording of the reason. -/
def IntegerFault.message : IntegerFault → String
  | empty => "cannot parse integer from empty string"
  | strangeCharacter => "invalid digit found in string"
  | tooLarge => "number too large to fit in target type"
  | tooSmall => "number too small to fit in target type"

/-- The value of a decimal digit. -/
def decimalDigit? (c : Char) : Option Nat :=
  if '0' ≤ c ∧ c ≤ '9' then some (c.toNat - '0'.toNat) else none

namespace IntegerRange

/-- The integers of so many bits, one of them for the sign. -/
def signed (bits : Nat) : IntegerRange :=
  ⟨-(1 <<< (bits - 1) : Nat), (1 <<< (bits - 1) : Nat) - 1⟩

/-- The integers of so many bits without a sign. -/
def unsigned (bits : Nat) : IntegerRange :=
  ⟨0, (1 <<< bits : Nat) - 1⟩

/-- Reads the rest of the digits of a number that is not negative. -/
def readUp (range : IntegerRange) : Int → List Char → Except IntegerFault Int
  | value, [] => .ok value
  | value, c :: rest =>
      match decimalDigit? c with
      | none => .error .strangeCharacter
      | some digit =>
          let value := value * 10 + digit
          if range.greatest < value then .error .tooLarge
          else readUp range value rest

/-- Reads the rest of the digits of a number that is negative. -/
def readDown (range : IntegerRange) : Int → List Char → Except IntegerFault Int
  | value, [] => .ok value
  | value, c :: rest =>
      match decimalDigit? c with
      | none => .error .strangeCharacter
      | some digit =>
          let value := value * 10 - digit
          if value < range.least then .error .tooSmall
          else readDown range value rest

/-- Reads an integer; a minus sign is one only where the range has negative integers. -/
def parse (range : IntegerRange) (text : String) : Except IntegerFault Int :=
  match text.toList with
  | [] => .error .empty
  | [c] => if c = '+' ∨ c = '-' then .error .strangeCharacter else range.readUp 0 [c]
  | c :: rest =>
      if c = '+' then range.readUp 0 rest
      else if c = '-' ∧ range.least < 0 then range.readDown 0 rest
      else range.readUp 0 (c :: rest)

end IntegerRange

end Number
end OutboxRelay
