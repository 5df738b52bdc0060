import OutboxRelay.Number.Shortest
import OutboxRelay.Text.Quoted
import OutboxRelay.Text.Utf8

/-!
# Why a JSON text was refused

A fault has a cause, the number of octets read when it arose, and the way from the
root of the text to the value being read.  The place of a fault is shown as a line
and a column, both of which follow from the octets read.
-/

namespace OutboxRelay
namespace Json

/-- Floating numbers have a point up to sixteen places right of the first digit's left
edge and less than five places left of it, and an exponent beyond. -/
def floatLayout : Number.Layout :=
  ⟨16, 5⟩

/-- What stood in the text. -/
inductive Found
  | null
  | boolean (value : Bool)
  | integer (value : Int)
  | float (value : Number.Binary64)
  | text (value : String)
  | sequence
  | map
  deriving DecidableEq, Repr

/-- What was wanted in its place. -/
inductive Wanted
  | text
  | integer (bits : Nat)
  | sequence
  | record (title : String)
  | unit
  | identifier
  deriving DecidableEq, Repr

/-- The cause of a fault. -/
inductive Cause
  | endOfList
  | endOfObject
  | endOfText
  | endOfValue
  | colonWanted
  | listSeparatorWanted
  | objectSeparatorWanted
  | wordWanted
  | valueWanted
  | escapeInvalid
  | numberInvalid
  | numberOutOfRange
  | octetsInvalid
  | controlCharacter
  | keyNotText
  | surrogateAlone
  | surrogateCutShort
  | trailingComma
  | trailingCharacters
  | tooDeep
  | wrongType (found : Found) (wanted : Wanted)
  | wrongInteger (value : Int) (wanted : Wanted)
  | unknownVariant (name : String) (known : List String)
  | wrongLength (length : Nat) (title : String) (fields : Nat)
  | missingField (name : String)
  | duplicateField (name : String)
  | refused (reason : String)
  deriving DecidableEq, Repr

/-- The three classes of faults: ill-formed text, unsuitable content, early end. -/
inductive Category
  | malformed
  | content
  | ended
  deriving DecidableEq, Repr

namespace Found

/-- How a value that stood in the text is named. -/
def describe : Found → String
  | null => "null"
  | boolean true => "boolean `true`"
  | boolean false => "boolean `false`"
  | integer value => "integer `" ++ toString value ++ "`"
  | float value => "floating point `" ++ value.text floatLayout ++ "`"
  | text value => "string " ++ Text.quoted value
  | sequence => "sequence"
  | map => "map"

end Found

namespace Wanted

/-- How a wanted value is named. -/
def describe : Wanted → String
  | text => "a string"
  | integer bits => "i" ++ toString bits
  | sequence => "a sequence"
  | record title => "struct " ++ title
  | unit => "unit"
  | identifier => "a formatted UUID string"

end Wanted

namespace Cause

/-- The class of a cause. -/
def category : Cause → Category
  | endOfList | endOfObject | endOfText | endOfValue => .ended
  | wrongType .. | wrongInteger .. | unknownVariant .. | wrongLength ..
  | missingField .. | duplicateField .. | refused .. => .content
  | _ => .malformed

/-- The number of fields of a record, in words. -/
def elements (count : Nat) : String :=
  toString count ++ if count = 1 then " element" else " elements"

/-- The names of variants, each between marks. -/
def variants (known : List String) : String :=
  ", ".intercalate (known.map fun name => "`" ++ name ++ "`")

/-- The wording of a cause. -/
def message : Cause → String
  | endOfList => "EOF while parsing a list"
  | endOfObject => "EOF while parsing an object"
  | endOfText => "EOF while parsing a string"
  | endOfValue => "EOF while parsing a value"
  | colonWanted => "expected `:`"
  | listSeparatorWanted => "expected `,` or `]`"
  | objectSeparatorWanted => "expected `,` or `\x7d`"
  | wordWanted => "expected ident"
  | valueWanted => "expected value"
  | escapeInvalid => "invalid escape"
  | numberInvalid => "invalid number"
  | numberOutOfRange => "number out of range"
  | octetsInvalid => "invalid unicode code point"
  | controlCharacter =>
      "control character (\\u0000-\\u001F) found while parsing a string"
  | keyNotText => "key must be a string"
  | surrogateAlone => "lone leading surrogate in hex escape"
  | surrogateCutShort => "unexpected end of hex escape"
  | trailingComma => "trailing comma"
  | trailingCharacters => "trailing characters"
  | tooDeep => "recursion limit exceeded"
  | wrongType found wanted =>
      "invalid type: " ++ found.describe ++ ", expected " ++ wanted.describe
  | wrongInteger value wanted =>
      "invalid value: integer `" ++ toString value ++ "`, expected " ++
        wanted.describe
  | unknownVariant name known =>
      "unknown variant `" ++ name ++ "`, expected one of " ++ variants known
  | wrongLength length title fields =>
      "invalid length " ++ toString length ++ ", expected struct " ++ title ++
        " with " ++ elements fields
  | missingField name => "missing field `" ++ name ++ "`"
  | duplicateField name => "duplicate field `" ++ name ++ "`"
  | refused reason => reason

end Cause

/-- One step from a value to a value inside it; a member whose name was not read has none. -/
inductive Step
  | member (name : String)
  | index (position : Nat)
  | unnamed
  deriving DecidableEq, Repr

/-- A fault: its cause, the octets read when it arose, and the way to its place. -/
structure Fault where
  cause : Cause
  offset : Nat
  path : List Step
  deriving DecidableEq, Repr

namespace Fault

/-- The fault seen from the value around it. -/
def inside (step : Step) (fault : Fault) : Fault :=
  { fault with path := step :: fault.path }

end Fault

/-- The line and the column reached after some octets, each line starting at column zero. -/
def advance (place : Nat × Nat) (octet : UInt8) : Nat × Nat :=
  if octet = 0x0A then (place.1 + 1, 0) else (place.1, place.2 + 1)

/-- The line and the column after the first octets of a text. -/
def placeAfter (text : Bytes) (offset : Nat) : Nat × Nat :=
  (text.take offset).foldl advance (1, 0)

/-- A fault with its place in the text. -/
structure Error where
  cause : Cause
  line : Nat
  column : Nat
  path : List Step
  deriving DecidableEq, Repr

/-- The fault of reading a text. -/
def Fault.locate (text : Bytes) (fault : Fault) : Error :=
  let (line, column) := placeAfter text fault.offset
  ⟨fault.cause, line, column, fault.path⟩

namespace Error

/-- The wording of an error. -/
def message (error : Error) : String :=
  error.cause.message ++ " at line " ++ toString error.line ++
    " column " ++ toString error.column

/-- The class of an error. -/
def category (error : Error) : Category :=
  error.cause.category

/-- The way to a value, its steps after the first member set off by points. -/
def pathText : Bool → List Step → String
  | _, [] => ""
  | _, .index position :: rest =>
      "[" ++ toString position ++ "]" ++ pathText false rest
  | first, .member name :: rest =>
      (if first then "" else ".") ++ name ++ pathText false rest
  | first, .unnamed :: rest =>
      (if first then "" else ".") ++ "?" ++ pathText false rest

/-- The wording of an error after the way to its place, if any name or index is known. -/
def placedMessage (error : Error) : String :=
  if error.path.all (· == Step.unnamed) then
    error.message
  else
    pathText true error.path ++ ": " ++ error.message

end Error

end Json
end OutboxRelay
