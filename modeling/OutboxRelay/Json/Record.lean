import OutboxRelay.Json.Reader

/-!
# Records

A record is a value with named fields.  It is written as an object, whose members may
stand in any order and between others that nobody asked for, or as the list of its
fields in order.

**Input.** A row of fields, each with a name, a reader, and possibly a value for the
case that the field is absent.

**Algorithm.** While the members of an object are read, each field has a slot.  A
member fills the slot of its name, which must be vacant; at the end every slot without
a value takes the field's own one or is reported.
-/

namespace OutboxRelay
namespace Json

/-- A field: its name, its reader, and the value that it has when it is absent. -/
structure Field where
  name : String
  Carrier : Type
  read : Nat → Reader Carrier
  absent : Option Carrier

namespace Field

/-- A field that has to be present. -/
def required {α : Type} (name : String) (read : Nat → Reader α) : Field :=
  ⟨name, α, read, none⟩

/-- A field with a value of its own. -/
def optional {α : Type} (name : String) (read : Nat → Reader α) (absent : α) : Field :=
  ⟨name, α, read, some absent⟩

/-- A required string. -/
def text (name : String) : Field :=
  required name fun _ => Reader.text

/-- A required integer. -/
def integer (name : String) (bits : Nat) : Field :=
  required name fun _ => Reader.integer bits

end Field

/-- The values of a row of fields. -/
def Row : List Field → Type
  | [] => Unit
  | field :: fields => field.Carrier × Row fields

/-- The slots of a row of fields, each with a value or vacant. -/
def Slots : List Field → Type
  | [] => Unit
  | field :: fields => Option field.Carrier × Slots fields

namespace Slots

/-- All slots vacant. -/
def vacant : (fields : List Field) → Slots fields
  | [] => ()
  | _ :: fields => (none, vacant fields)

/-- What a member of some name does to the slots. -/
inductive Use (fields : List Field) : Type
  | unknown
  | taken
  | fills (read : Nat → Reader (Slots fields))

/-- How a member of some name is used. -/
def use : (fields : List Field) → Slots fields → String → Use fields
  | [], _, _ => .unknown
  | field :: fields, (slot, slots), name =>
      if field.name = name then
        match slot with
        | some _ => .taken
        | none => .fills fun depth => do
            let value ← field.read depth
            return (some value, slots)
      else
        match use fields slots name with
        | .unknown => .unknown
        | .taken => .taken
        | .fills read => .fills fun depth => do
            let slots ← read depth
            return (slot, slots)

/-- The values of all slots, or the name of the first one that has none. -/
def complete : (fields : List Field) → Slots fields → Except String (Row fields)
  | [], _ => .ok ()
  | field :: fields, (slot, slots) =>
      match slot <|> field.absent with
      | none => .error field.name
      | some value => (complete fields slots).map fun row => (value, row)

end Slots

/-- A record: its title, its fields, and the value that their values make up. -/
structure Record (α : Type) where
  title : String
  fields : List Field
  build : Row fields → α

namespace Record

variable {α : Type}

/-- The slots after the members of an object behind its bracket. -/
def slotsFrom (fields : List Field) (depth : Nat) :
    Nat → Bool → Slots fields → Reader (Slots fields)
  | 0, _, _ => Reader.failing .endOfObject
  | rounds + 1, first, slots => do
      match ← Reader.memberName? first with
      | none => return slots
      | some name =>
          match Slots.use fields slots name with
          | .unknown =>
              Reader.memberValue name (Reader.passing skipValue)
              slotsFrom fields depth rounds false slots
          | .taken =>
              fun c => .error
                ((Reader.objectEnd c).fault (.duplicateField name))
          | .fills read =>
              let slots ← Reader.memberValue name (read depth)
              slotsFrom fields depth rounds false slots

/-- The row of an object behind its bracket. -/
def rowOfMembers (fields : List Field) (depth : Nat) : Reader (Row fields) :=
  fun c => do
    let (slots, behind) ←
      slotsFrom fields depth (c.rest.length + 1) true (Slots.vacant fields) c
    match Slots.complete fields slots with
    | .ok row => return (row, behind)
    | .error name =>
        throw ((Reader.objectEnd behind).fault (.missingField name))

/-- The row of a list behind its bracket, from some position on. -/
def rowOfItems (title : String) (total depth : Nat) :
    (fields : List Field) → Nat → Reader (Row fields)
  | [], _ => return ()
  | field :: fields, position => do
      let value ←
        if ← Reader.moreItems (position == 0) then
          Reader.inside (.index position) (field.read depth)
        else
          match field.absent with
          | some value => pure value
          | none =>
              fun c => .error
                ((Reader.listEnd c).fault (.wrongLength position title total))
      let row ← rowOfItems title total depth fields (position + 1)
      return (value, row)

/-- Reads a record, which opens a bracket of its own. -/
def read (record : Record α) (depth : Nat) : Reader α := do
  let b ← Reader.firstOctet
  if b = 0x5B then
    match depth with
    | 0 => Reader.failingAhead .tooDeep
    | depth + 1 =>
        Reader.advance
        let row ← rowOfItems record.title record.fields.length depth record.fields 0
        Reader.closeList
        return record.build row
  else if b = 0x7B then
    match depth with
    | 0 => Reader.failingAhead .tooDeep
    | depth + 1 =>
        Reader.advance
        let row ← rowOfMembers record.fields depth
        Reader.closeObject
        return record.build row
  else
    Reader.refusing (.record record.title)

/-- Reads a record that stands alone in its text. -/
def decode (record : Record α) (bytes : Bytes) : Except Error α :=
  Reader.decode (record.read depthLimit) bytes

end Record
end Json
end OutboxRelay
