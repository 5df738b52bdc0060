import OutboxRelay.Json.Reader

/-!
# Variants

A variant is one of a few values, each of which has a name.  It is written as its
name, or as an object whose only member has that name and no content.
-/

namespace OutboxRelay
namespace Json
namespace Reader

variable {α : Type}

/-- A name of one of the known values. -/
def variantName (known : List α) (name : α → String) : Reader α :=
  fun c => do
    let (found, behind) ← stringTail (c.skip 1)
    match known.find? fun value => name value == found with
    | some value => return (value, behind)
    | none => throw (behind.fault (.unknownVariant found (known.map name)))

/-- The start of an object that holds a variant: its bracket, up to the name. -/
def openVariant : Reader Unit := do
  advance
  blanks
  match ← peek with
  | none => failingAhead .endOfObject
  | some b =>
      if b = 0x22 then return ()
      else if b = 0x7D then failingAhead .valueWanted
      else failingAhead .keyNotText

/-- The end of an object that holds a variant and nothing else. -/
def closeVariant : Reader Unit := do
  blanks
  match ← peek with
  | none => failing .endOfObject
  | some b => if b = 0x7D then advance else failing .valueWanted

/-- One of the known values. -/
def variant (known : List α) (name : α → String) (depth : Nat) : Reader α := do
  let b ← firstOctet
  if b = 0x22 then
    variantName known name
  else if b = 0x7B then
    match depth with
    | 0 => failingAhead .tooDeep
    | _ + 1 =>
        openVariant
        let value ← variantName known name
        colon
        unit
        closeVariant
        return value
  else
    failingAhead .valueWanted

end Reader
end Json
end OutboxRelay
