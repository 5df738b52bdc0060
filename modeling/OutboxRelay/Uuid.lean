import OutboxRelay.Text.Quoted

/-!
# Universally unique identifiers

An identifier is a word of one hundred and twenty-eight bits.  Its text is a row of
digits in base sixteen in five groups.  Identifiers of version seven start with the
time of their making, so that they sort in the order in which they were made.
-/

namespace OutboxRelay

/-- A universally unique identifier. -/
structure Uuid where
  bits : BitVec 128
  deriving DecidableEq, Repr

namespace Uuid

/-- The identifier with a number, modulo the range of a word. -/
def ofNat (n : Nat) : Uuid :=
  ⟨BitVec.ofNat 128 n⟩

/-- The number of an identifier. -/
def toNat (id : Uuid) : Nat :=
  id.bits.toNat

/-- The four bits that tell the version. -/
def version (id : Uuid) : Nat :=
  id.toNat >>> 76 % 16

/-- The lengths of the groups of digits. -/
def groupLengths : List Nat :=
  [8, 4, 4, 4, 12]

/-- The digits of an identifier, the first one first. -/
def digits (id : Uuid) : List Char :=
  (List.range 32).map fun i =>
    Nat.digitChar (id.toNat >>> (4 * (31 - i)) % 16)

/-- A row of characters in groups of given lengths. -/
def grouped : List Nat → List Char → List (List Char)
  | [], _ => []
  | length :: lengths, chars =>
      chars.take length :: grouped lengths (chars.drop length)

/-- The text of an identifier. -/
def text (id : Uuid) : String :=
  "-".intercalate ((grouped groupLengths id.digits).map String.ofList)

/-- Why a text is no identifier. -/
inductive Malformed
  | character (found : Char) (position : Nat)
  | length (found : Nat)
  | groups (found : Nat)
  | group (position found : Nat)
  deriving DecidableEq, Repr

/-- The wording of the reason. -/
def Malformed.message : Malformed → String
  | character found position =>
      "invalid character: found `" ++ found.toString ++ "` at " ++ toString position
  | length found =>
      "invalid length: found " ++ toString found
  | groups found =>
      "invalid group count: expected 5, found " ++ toString found
  | group position found =>
      "invalid group length in group " ++ toString position ++ ": expected " ++
        toString (groupLengths.getD position 0) ++ ", found " ++ toString found

/-- The value of a digit in base sixteen, of either case. -/
def digit? (c : Char) : Option Nat :=
  if '0' ≤ c ∧ c ≤ '9' then some (c.toNat - '0'.toNat)
  else if 'a' ≤ c ∧ c ≤ 'f' then some (c.toNat - 'a'.toNat + 10)
  else if 'A' ≤ c ∧ c ≤ 'F' then some (c.toNat - 'A'.toNat + 10)
  else none

/-- The number that a row of digits denotes. -/
def number? (digits : List Char) : Option Nat :=
  digits.foldlM (fun n c => (digit? c).map (n * 16 + ·)) 0

/-- The identifier of thirty-two digits. -/
def ofDigits? (digits : List Char) : Option Uuid :=
  if digits.length = 32 then (number? digits).map ofNat else none

/-- The identifier of digits in groups. -/
def ofGroups? (chars : List Char) : Option Uuid :=
  let groups := chars.splitOn '-'
  if groups.map List.length = groupLengths then ofDigits? groups.flatten else none

/-- The mark that a name of an identifier may start with, in either case. -/
def urnMark : List Char :=
  "urn:uuid:".toList

/-- The characters behind the mark of a name. -/
def urnBody? (chars : List Char) : Option (List Char) :=
  if (chars.take urnMark.length).map Char.toLower = urnMark then
    some (chars.drop urnMark.length)
  else
    none

/-- The characters between braces. -/
def bracedBody? (chars : List Char) : Option (List Char) :=
  if chars.head? = some (Char.ofNat 0x7B) ∧ chars.getLast? = some (Char.ofNat 0x7D)
      ∧ 2 ≤ chars.length then
    some (chars.drop 1).dropLast
  else
    none

/-- The first character that stands in no identifier, with its place in octets. -/
def strangeCharacter? (position : Nat) : List Char → Option Malformed
  | [] => none
  | c :: rest =>
      if c = '-' ∨ (digit? c).isSome then
        strangeCharacter? (position + c.utf8Size) rest
      else
        some (.character c position)

/-- The octets in front of the last group of a bare text. -/
def lastGroupStart : Nat := 24

/--
The first group whose length is wrong.  The last group is taken to reach from its place
in a bare text to the end of the whole text, which has so many octets.
-/
def wrongGroup (size position : Nat) : List (List Char) → List Nat → Malformed
  | group :: next :: groups, length :: lengths =>
      if group.length = length then wrongGroup size (position + 1) (next :: groups) lengths
      else .group position group.length
  | _, _ => .group position (size - lastGroupStart)

/-- The octets of the longest text of an identifier. -/
def longest : Nat :=
  urnMark.length + 36

/-- The reason why a text of so many octets is no identifier. -/
def reason (size : Nat) (chars : List Char) : Malformed :=
  let inner := bracedBody? chars <|> urnBody? chars
  let body := inner.getD chars
  if longest < size then
    .length size
  else
    match strangeCharacter? 0 body with
    | some reason => reason
    | none =>
        let groups := body.splitOn '-'
        if groups.length = 1 ∧ inner.isNone then .length size
        else if groups.length ≠ groupLengths.length then .groups groups.length
        else wrongGroup size 0 groups groupLengths

/--
Reads an identifier: thirty-two digits, or digits in groups, which may stand between
braces or behind the mark of a name.
-/
def parse (text : String) : Except Malformed Uuid :=
  let chars := text.toList
  let body := (bracedBody? chars <|> urnBody? chars).getD chars
  match ofDigits? chars <|> ofGroups? body with
  | some id => .ok id
  | none => .error (reason text.utf8ByteSize chars)

/-- The identifier of version seven that was made at a time, the later of two by its count. -/
def ofTime (milliseconds count : Nat) : Uuid :=
  let (high, low) := (count >>> 62, count % 1 <<< 62)
  ofNat ((milliseconds % 1 <<< 48) <<< 80 + 7 <<< 76 +
    (high % 1 <<< 12) <<< 64 + 2 <<< 62 + low)

/-- A source of identifiers: the time, and how many were made. -/
structure Source where
  milliseconds : Nat
  count : Nat
  deriving DecidableEq, Repr

/-- A new identifier, and the source behind it. -/
def Source.fresh (source : Source) : Uuid × Source :=
  (ofTime source.milliseconds source.count,
    { source with count := source.count + 1 })

/-- So many new identifiers, in the order of their making. -/
def Source.take : Nat → Source → List Uuid × Source
  | 0, source => ([], source)
  | n + 1, source =>
      let (id, source) := source.fresh
      let (ids, source) := take n source
      (id :: ids, source)

end Uuid

/-- The identifier of an entry of the outbox. -/
abbrev EntryId := Uuid

end OutboxRelay
