import OutboxRelay.Json.Skip
import OutboxRelay.Json.Value

/-!
# Readers of typed values

A reader knows what it wants.  A value of another kind is read to its end, if it has
no inner structure, and then reported together with what was wanted.

**Algorithm.**

* A list is read item by item, an object member by member.  A fault on the way carries
  the step that led to it.
* A fault without a place of its own, such as a missing field, is placed where the
  bracket around it ends, as far as that end can be read.
* The depth that a reader gets is the number of brackets it may still open.
-/

namespace OutboxRelay
namespace Json

/-- The brackets that a text may open inside each other. -/
def depthLimit : Nat := 127

namespace Reader

variable {α β : Type}

/-- A reader that fails with the octets read so far. -/
def failing (cause : Cause) : Reader α :=
  fun c => .error (c.fault cause)

/-- A reader that fails at the next octet. -/
def failingAhead (cause : Cause) : Reader α :=
  fun c => .error (c.faultAhead cause)

/-- Passes over blanks. -/
def blanks : Reader Unit :=
  fun c => .ok ((), c.skipBlanks)

/-- The next octet, which is not consumed. -/
def peek : Reader (Option UInt8) :=
  fun c => .ok (c.rest.head?, c)

/-- Consumes an octet. -/
def advance : Reader Unit :=
  fun c => .ok ((), c.skip 1)

/-- A lexeme without a value. -/
def passing (lexeme : Cursor → Except Fault Cursor) : Reader Unit :=
  fun c => (lexeme c).map fun behind => ((), behind)

/-- A reader whose faults carry one more step. -/
def inside (step : Step) (reader : Reader α) : Reader α :=
  fun c => (reader c).mapError (Fault.inside step)

/-- What stands at a cursor, read to its end if it has no inner structure. -/
def found (c : Cursor) : Except Fault (Found × Cursor) :=
  match c.rest with
  | [] => .error (c.faultAhead .valueWanted)
  | b :: _ =>
      if b = 0x6E then
        (word nullTail (c.skip 1)).map fun behind => (.null, behind)
      else if b = 0x74 then
        (word trueTail (c.skip 1)).map fun behind => (.boolean true, behind)
      else if b = 0x66 then
        (word falseTail (c.skip 1)).map fun behind => (.boolean false, behind)
      else if b = 0x2D || isDigit b then
        (number c).map fun
          | (.integer value, behind) => (.integer value, behind)
          | (.float value, behind) => (.float value, behind)
      else if b = 0x22 then
        (stringTail (c.skip 1)).map fun (text, behind) => (.text text, behind)
      else if b = 0x5B then .ok (.sequence, c)
      else if b = 0x7B then .ok (.map, c)
      else .error (c.faultAhead .valueWanted)

/-- Refuses what stands next, since something else was wanted. -/
def refusing (wanted : Wanted) : Reader α :=
  fun c =>
    match found c with
    | .ok (found, behind) => .error (behind.fault (.wrongType found wanted))
    | .error fault => .error fault

/-- The first octet of the next value. -/
def firstOctet : Reader UInt8 := do
  blanks
  match ← peek with
  | some b => return b
  | none => failingAhead .endOfValue

/-! ## Values without inner structure -/

/-- A string. -/
def text : Reader String := do
  if (← firstOctet) = 0x22 then
    fun c => stringTail (c.skip 1)
  else
    refusing .text

/-- A string, or nothing for the word null. -/
def optionalText : Reader (Option String) := do
  blanks
  if (← peek) = some 0x6E then
    advance
    passing (word nullTail)
    return none
  else
    return some (← text)

/-- An integer of so many bits, one of them for the sign. -/
def integer (bits : Nat) : Reader Int := do
  let b ← firstOctet
  if b = 0x2D || isDigit b then
    match ← (number : Reader Numeral) with
    | .integer value =>
        let bound : Nat := 1 <<< (bits - 1)
        if -bound ≤ value ∧ value < bound then
          return value
        else
          failing (.wrongInteger value (.integer bits))
    | .float value => failing (.wrongType (.float value) (.integer bits))
  else
    refusing (.integer bits)

/-- The word null. -/
def unit : Reader Unit := do
  if (← firstOctet) = 0x6E then
    advance
    passing (word nullTail)
  else
    refusing .unit

/-! ## Lists -/

/-- Whether another item of a list follows; its separator is consumed. -/
def moreItems (first : Bool) : Reader Bool := do
  blanks
  match ← peek with
  | none => failingAhead .endOfList
  | some b =>
      if b = 0x5D then
        return false
      else if first then
        return true
      else if b = 0x2C then
        advance
        blanks
        match ← peek with
        | none => failingAhead .endOfValue
        | some b =>
            if b = 0x5D then failingAhead .trailingComma else return true
      else
        failingAhead .listSeparatorWanted

/-- Consumes the end of a list. -/
def closeList : Reader Unit := do
  blanks
  match ← peek with
  | none => failingAhead .endOfList
  | some b =>
      if b = 0x5D then advance
      else if b = 0x2C then
        advance
        blanks
        if (← peek) = some 0x5D then failingAhead .trailingComma
        else failingAhead .trailingCharacters
      else
        failingAhead .trailingCharacters

/-- How far a list can be closed. -/
def listEnd (c : Cursor) : Cursor :=
  let c := c.skipBlanks
  match c.rest with
  | [] => c
  | b :: _ =>
      if b = 0x5D then c.skip 1
      else if b = 0x2C then (c.skip 1).skipBlanks
      else c

/-- The items of a list behind its bracket, those already read standing in reverse. -/
def itemsFrom (item : Reader α) : Nat → Nat → List α → Reader (List α)
  | 0, _, _ => failing .endOfList
  | rounds + 1, position, read => do
      if ← moreItems (position == 0) then
        let value ← inside (.index position) item
        itemsFrom item rounds (position + 1) (value :: read)
      else
        return read.reverse

/-- The items of a list behind its bracket. -/
def items (item : Reader α) : Reader (List α) :=
  fun c => itemsFrom item (c.rest.length + 1) 0 [] c

/-- A list of values of one type. -/
def list (item : Nat → Reader α) (depth : Nat) : Reader (List α) := do
  if (← firstOctet) = 0x5B then
    match depth with
    | 0 => failingAhead .tooDeep
    | depth + 1 =>
        advance
        let values ← items (item depth)
        closeList
        return values
  else
    refusing .sequence

/-! ## Objects -/

/-- Whether another member of an object follows; its separator is consumed. -/
def moreMembers (first : Bool) : Reader Bool := do
  blanks
  match ← peek with
  | none => failingAhead .endOfObject
  | some b =>
      if b = 0x7D then
        return false
      else if first then
        if b = 0x22 then return true else failingAhead .keyNotText
      else if b = 0x2C then
        advance
        blanks
        match ← peek with
        | none => failingAhead .endOfValue
        | some b =>
            if b = 0x22 then return true
            else if b = 0x7D then failingAhead .trailingComma
            else failingAhead .keyNotText
      else
        failingAhead .objectSeparatorWanted

/-- The name of the next member, if there is one. -/
def memberName? (first : Bool) : Reader (Option String) :=
  inside .unnamed do
    if ← moreMembers first then
      advance
      return some (← (stringTail : Reader String))
    else
      return none

/-- Consumes the colon behind a name. -/
def colon : Reader Unit := do
  blanks
  match ← peek with
  | none => failingAhead .endOfObject
  | some b => if b = 0x3A then advance else failingAhead .colonWanted

/-- Consumes the end of an object. -/
def closeObject : Reader Unit := do
  blanks
  match ← peek with
  | none => failingAhead .endOfObject
  | some b =>
      if b = 0x7D then advance
      else if b = 0x2C then failingAhead .trailingComma
      else failingAhead .trailingCharacters

/-- How far an object can be closed. -/
def objectEnd (c : Cursor) : Cursor :=
  let c := c.skipBlanks
  match c.rest with
  | [] => c
  | b :: _ => if b = 0x7D then c.skip 1 else c

/-- A member's value behind its name and the colon, which still belongs to the object. -/
def memberValue (name : String) (value : Reader α) : Reader α := do
  colon
  inside (.member name) value

/-! ## Values of any kind -/

/-- The members of an object behind its bracket, those already read standing in reverse. -/
def membersFrom (value : Reader β) :
    Nat → Bool → List (String × β) → Reader (List (String × β))
  | 0, _, _ => failing .endOfObject
  | rounds + 1, first, read => do
      match ← memberName? first with
      | none => return read.reverse
      | some name =>
          let member ← memberValue name value
          membersFrom value rounds false ((name, member) :: read)

/-- The members of an object behind its bracket. -/
def members (value : Reader β) : Reader (List (String × β)) :=
  fun c => membersFrom value (c.rest.length + 1) true [] c

/-- A value without inner structure whose first octet is known. -/
def simple (b : UInt8) : Reader Value := do
  if b = 0x6E then
    advance
    passing (word nullTail)
    return .null
  else if b = 0x74 then
    advance
    passing (word trueTail)
    return .boolean true
  else if b = 0x66 then
    advance
    passing (word falseTail)
    return .boolean false
  else if b = 0x2D || isDigit b then
    match ← (number : Reader Numeral) with
    | .integer value => return .integer value
    | .float value => return .float value
  else if b = 0x22 then
    advance
    return .text (← (stringTail : Reader String))
  else
    failingAhead .valueWanted

/--
A value of any kind that may still open so many brackets inside each other.  No key is set apart:
one that a writer reserves for a text that it carries along unread is a key like any other here.
-/
def value : Nat → Reader Value
  | 0 => do
      let b ← firstOctet
      if b = 0x5B || b = 0x7B then failingAhead .tooDeep else simple b
  | depth + 1 => do
      let b ← firstOctet
      if b = 0x5B then
        advance
        let values ← items (value depth)
        closeList
        return .list values
      else if b = 0x7B then
        advance
        let pairs ← members (value depth)
        closeObject
        return .ofMembers pairs
      else
        simple b

/-! ## Whole texts -/

/-- A value that stands alone in its text. -/
def whole (reader : Reader α) : Reader α := do
  let value ← reader
  blanks
  match ← peek with
  | none => return value
  | some _ => failingAhead .trailingCharacters

/-- Reads a whole text. -/
def decode (reader : Reader α) (bytes : Bytes) : Except Error α :=
  match whole reader (Cursor.start bytes) with
  | .ok (value, _) => .ok value
  | .error fault => .error (fault.locate bytes)

end Reader
end Json
end OutboxRelay
