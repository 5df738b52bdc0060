import OutboxRelay.Json.Value

/-!
# Points in time

A point in time is a number of microseconds.  Its text names a day of the calendar and
a time of that day, with as many digits behind the second as it needs: none, three or
six.

**Algorithm.** Days are counted from the first of March of the year zero, so that the
leap day is the last one of its year.  Four hundred years have the same number of days
wherever they start.
-/

namespace OutboxRelay

/-- Microseconds since the start of the year 1970. -/
abbrev Timestamp := Int

namespace Timestamp

/-- A day of the calendar. -/
structure Day where
  year : Int
  month : Nat
  day : Nat
  deriving DecidableEq, Repr

/-- The day that comes so many days after the first of January 1970. -/
def dayOf (days : Int) : Day :=
  let shifted := days + 719468
  let era := shifted.fdiv 146097
  let dayOfEra := (shifted.fmod 146097).toNat
  let yearOfEra :=
    (dayOfEra - dayOfEra / 1460 + dayOfEra / 36524 - dayOfEra / 146096) / 365
  let dayOfYear := dayOfEra - (365 * yearOfEra + yearOfEra / 4 - yearOfEra / 100)
  let march := (5 * dayOfYear + 2) / 153
  let day := dayOfYear - (153 * march + 2) / 5 + 1
  let month := if march < 10 then march + 3 else march - 9
  ⟨era * 400 + yearOfEra + (if month ≤ 2 then 1 else 0), month, day⟩

/-- A number with at least so many digits. -/
def padded (width n : Nat) : String :=
  let digits := Nat.toDigits 10 n
  String.ofList (List.replicate (width - digits.length) '0' ++ digits)

/-- The text of a year, with a sign if it needs more than four digits or is before zero. -/
def yearText (year : Int) : String :=
  if year < 0 then "-" ++ padded 4 year.natAbs
  else if 9999 < year then "+" ++ padded 4 year.natAbs
  else padded 4 year.natAbs

/-- The text of a part of a second. -/
def fractionText (microseconds : Nat) : String :=
  if microseconds = 0 then ""
  else if microseconds % 1000 = 0 then "." ++ padded 3 (microseconds / 1000)
  else "." ++ padded 6 microseconds

/-- The text of a point in time. -/
def text (time : Timestamp) : String :=
  let seconds := Int.fdiv time 1000000
  let day := dayOf (seconds.fdiv 86400)
  let second := (seconds.fmod 86400).toNat
  yearText day.year ++ "-" ++ padded 2 day.month ++ "-" ++ padded 2 day.day ++ "T" ++
    padded 2 (second / 3600) ++ ":" ++ padded 2 (second / 60 % 60) ++ ":" ++
    padded 2 (second % 60) ++ fractionText (Int.fmod time 1000000).toNat ++ "Z"

/-- The value that describes a point in time. -/
def toJson (time : Timestamp) : Json.Value :=
  .text (text time)

end Timestamp
end OutboxRelay
