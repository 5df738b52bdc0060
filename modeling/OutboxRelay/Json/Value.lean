import OutboxRelay.Json.Fault

/-!
# JSON values and their text

A value is printed without blanks.  The members of an object are printed in the order
in which it lists them; an object that was read from a text lists them by name, each
name once.
-/

namespace OutboxRelay
namespace Json

/-- A JSON value. -/
inductive Value
  | null
  | boolean (value : Bool)
  | integer (value : Int)
  | float (value : Number.Binary64)
  | text (value : String)
  | list (items : List Value)
  | object (members : List (String × Value))
  deriving Inhabited

/-- A digit in base sixteen, in lower case. -/
def hexCharacter (n : Nat) : Char :=
  Nat.digitChar (n % 16)

/-- A character inside a string: only the marks, the backslash and controls are escaped. -/
def escapedCharacter (c : Char) : List Char :=
  if c = '"' then ['\\', '"']
  else if c = '\\' then ['\\', '\\']
  else if c = '\x08' then ['\\', 'b']
  else if c = '\x0c' then ['\\', 'f']
  else if c = '\n' then ['\\', 'n']
  else if c = '\r' then ['\\', 'r']
  else if c = '\t' then ['\\', 't']
  else if c.toNat < 0x20 then
    ['\\', 'u', '0', '0', hexCharacter (c.toNat / 16), hexCharacter c.toNat]
  else [c]

/-- The text of a string. -/
def printText (text : String) : String :=
  "\"" ++ String.ofList (text.toList.flatMap escapedCharacter) ++ "\""

/-- Texts with commas between them. -/
def commaSeparated (texts : List String) : String :=
  ",".intercalate texts

namespace Value

mutual

/-- The text of a value. -/
def print : Value → String
  | null => "null"
  | boolean true => "true"
  | boolean false => "false"
  | integer value => toString value
  | float value => value.text floatLayout
  | text value => printText value
  | list items => "[" ++ commaSeparated (printItems items) ++ "]"
  | object members => "\x7b" ++ commaSeparated (printMembers members) ++ "\x7d"

/-- The texts of the items of a list. -/
def printItems : List Value → List String
  | [] => []
  | item :: items => print item :: printItems items

/-- The texts of the members of an object. -/
def printMembers : List (String × Value) → List String
  | [] => []
  | (name, value) :: members =>
      (printText name ++ ":" ++ print value) :: printMembers members

end

/-- The octets of the text of a value. -/
def encode (value : Value) : Bytes :=
  Utf8.encode value.print

end Value

/-- Whether one name comes before another, octet by octet. -/
def nameBefore (a b : String) : Bool :=
  decide (a < b)

/-- Members ordered by name with one more of them; a name already there gets the new value. -/
def insertMember (name : String) (value : Value) :
    List (String × Value) → List (String × Value)
  | [] => [(name, value)]
  | (other, kept) :: members =>
      if name = other then
        (name, value) :: members
      else if nameBefore name other then
        (name, value) :: (other, kept) :: members
      else
        (other, kept) :: insertMember name value members

/-- The object that a row of members describes, the last one of a name counting. -/
def Value.ofMembers (members : List (String × Value)) : Value :=
  .object (members.foldl (fun object (name, value) =>
    insertMember name value object) [])

end Json
end OutboxRelay
