import OutboxRelay.Json.Fault

/-!
# Lexemes of JSON texts

A cursor stands between two octets of a text.  Readers take a cursor and answer a
value with the cursor behind it, or a fault.  This module reads what has no inner
structure: blanks, words, strings, and numbers.

**Rules.**

* A fault that a looked-at octet causes counts that octet as read; a fault behind
  consumed octets does not look further.
* A string is decoded as UTF-8 after its escapes are resolved, and surrogates must
  come in pairs.
* A number with a point or an exponent, one beyond sixty-four bits, and `-0` are
  floating numbers.
-/

namespace OutboxRelay
namespace Json

/-- A place in a text: the octets read, and the octets left. -/
structure Cursor where
  offset : Nat
  rest : Bytes
  deriving DecidableEq, Repr, Inhabited

/-- A reader of values of a type. -/
abbrev Reader (α : Type) := StateT Cursor (Except Fault) α

/-- The cursor at the start of a text. -/
def Cursor.start (text : Bytes) : Cursor :=
  ⟨0, text⟩

namespace Cursor

/-- The octets read when the next octet, if there is one, counts as read. -/
def ahead (c : Cursor) : Nat :=
  match c.rest with
  | [] => c.offset
  | _ :: _ => c.offset + 1

/-- A fault behind the octets read. -/
def fault (c : Cursor) (cause : Cause) : Fault :=
  ⟨cause, c.offset, []⟩

/-- A fault at the next octet. -/
def faultAhead (c : Cursor) (cause : Cause) : Fault :=
  ⟨cause, c.ahead, []⟩

/-- The cursor behind some octets. -/
def skip (c : Cursor) (n : Nat) : Cursor :=
  ⟨c.offset + n, c.rest.drop n⟩

end Cursor

/-- Whether an octet is blank between lexemes. -/
def isBlank (b : UInt8) : Bool :=
  b = 0x20 || b = 0x0A || b = 0x09 || b = 0x0D

/-- The cursor behind the blanks. -/
def skipBlanksFrom : Nat → Bytes → Cursor
  | offset, [] => ⟨offset, []⟩
  | offset, b :: rest =>
      if isBlank b then skipBlanksFrom (offset + 1) rest
      else ⟨offset, b :: rest⟩

/-- The cursor behind the blanks at a cursor. -/
def Cursor.skipBlanks (c : Cursor) : Cursor :=
  skipBlanksFrom c.offset c.rest

/-- Reads on behind the rest of a word of which some octets are still wanted. -/
def word : Bytes → Cursor → Except Fault Cursor
  | [], c => .ok c
  | wanted :: more, c =>
      match c.rest with
      | [] => .error (c.fault .endOfValue)
      | b :: _ =>
          if b = wanted then word more (c.skip 1)
          else .error ((c.skip 1).fault .wordWanted)

/-- The rest of the word for nothing. -/
def nullTail : Bytes := [0x75, 0x6C, 0x6C]

/-- The rest of the word for true. -/
def trueTail : Bytes := [0x72, 0x75, 0x65]

/-- The rest of the word for false. -/
def falseTail : Bytes := [0x61, 0x6C, 0x73, 0x65]

/-! ## Strings -/

/-- The value of a digit in base sixteen, of either case. -/
def hexDigit? (b : UInt8) : Option Nat :=
  let n := b.toNat
  if 0x30 ≤ n ∧ n ≤ 0x39 then some (n - 0x30)
  else if 0x61 ≤ n ∧ n ≤ 0x66 then some (n - 0x61 + 10)
  else if 0x41 ≤ n ∧ n ≤ 0x46 then some (n - 0x41 + 10)
  else none

/-- The value of four digits in base sixteen. -/
def hexQuad (c : Cursor) : Except Fault Nat :=
  match c.rest with
  | p :: q :: r :: s :: _ =>
      match hexDigit? p, hexDigit? q, hexDigit? r, hexDigit? s with
      | some p, some q, some r, some s =>
          .ok (((p * 16 + q) * 16 + r) * 16 + s)
      | _, _, _, _ => .error ((c.skip 4).fault .escapeInvalid)
  | few => .error ((c.skip few.length).fault .endOfText)

/-- Whether a unit is the first of a pair of surrogates. -/
def isLeading (unit : Nat) : Bool :=
  0xD800 ≤ unit && unit ≤ 0xDBFF

/-- Whether a unit is the second of a pair of surrogates. -/
def isTrailing (unit : Nat) : Bool :=
  0xDC00 ≤ unit && unit ≤ 0xDFFF

/-- The scalar value of a pair of surrogates. -/
def pairValue (leading trailing : Nat) : Nat :=
  (leading - 0xD800) * 0x400 + (trailing - 0xDC00) + 0x10000

/-- The second half of a pair of surrogates, with its own backslash. -/
def trailingUnit (c : Cursor) : Except Fault Nat :=
  match c.rest with
  | [] => .error (c.fault .endOfText)
  | b :: more =>
      if b ≠ 0x5C then
        .error ((c.skip 1).fault .surrogateCutShort)
      else
        match more with
        | [] => .error ((c.skip 1).fault .endOfText)
        | u :: _ =>
            if u ≠ 0x75 then
              .error ((c.skip 2).fault .surrogateCutShort)
            else do
              let unit ← hexQuad (c.skip 2)
              if isTrailing unit then
                return unit
              else
                throw ((c.skip 6).fault .surrogateAlone)

/-- The octets that an escape by number stands for, and its length behind the letter. -/
def numberedEscape (c : Cursor) : Except Fault (Bytes × Nat) := do
  let unit ← hexQuad c
  if isTrailing unit then
    throw ((c.skip 4).fault .surrogateAlone)
  else if isLeading unit then
    let trailing ← trailingUnit (c.skip 4)
    return (String.utf8EncodeChar (Char.ofNat (pairValue unit trailing)), 10)
  else
    return (String.utf8EncodeChar (Char.ofNat unit), 4)

/-- The octet that an escape by letter stands for. -/
def letterEscape? (b : UInt8) : Option UInt8 :=
  if b = 0x22 then some 0x22
  else if b = 0x5C then some 0x5C
  else if b = 0x2F then some 0x2F
  else if b = 0x62 then some 0x08
  else if b = 0x66 then some 0x0C
  else if b = 0x6E then some 0x0A
  else if b = 0x72 then some 0x0D
  else if b = 0x74 then some 0x09
  else none

/-- The octets that an escape stands for, and its length behind the backslash. -/
def escape (c : Cursor) : Except Fault (Bytes × Nat) :=
  match c.rest with
  | [] => .error (c.fault .endOfText)
  | b :: _ =>
      match letterEscape? b with
      | some octet => .ok ([octet], 1)
      | none =>
          if b = 0x75 then do
            let (octets, length) ← numberedEscape (c.skip 1)
            return (octets, length + 1)
          else
            .error ((c.skip 1).fault .escapeInvalid)

/-- The octets of a string up to its closing mark, after those already read in reverse. -/
def stringOctets (read : Bytes) (offset : Nat) (rest : Bytes) :
    Except Fault (Bytes × Cursor) :=
  match rest with
  | [] => .error (Cursor.fault ⟨offset, []⟩ .endOfText)
  | b :: more =>
      if b = 0x22 then
        .ok (read.reverse, ⟨offset + 1, more⟩)
      else if b = 0x5C then
        match escape ⟨offset + 1, more⟩ with
        | .error fault => .error fault
        | .ok (octets, length) =>
            stringOctets (octets.reverse ++ read) (offset + 1 + length)
              (more.drop length)
      else if b < 0x20 then
        .error (Cursor.fault ⟨offset + 1, more⟩ .controlCharacter)
      else
        stringOctets (b :: read) (offset + 1) more
termination_by rest.length
decreasing_by
  · simp only [List.length_drop, List.length_cons]
    omega
  · simp only [List.length_cons]
    omega

/--
The place of the first ill-formed octet of a string, found by counting back from its
end.  The octets are counted after their escapes are resolved, so that without escapes
the place is the octet's own.
-/
def octetsFault (octets : Bytes) (behind : Cursor) : Fault :=
  ⟨.octetsInvalid, behind.offset - octets.length + Utf8.validLength octets, []⟩

/-- A string behind its opening mark. -/
def stringTail (c : Cursor) : Except Fault (String × Cursor) := do
  let (octets, behind) ← stringOctets [] c.offset c.rest
  match Utf8.decode? octets with
  | some text => return (text, behind)
  | none => throw (octetsFault octets behind)

/-! ## Numbers -/

/-- Whether an octet is a decimal digit. -/
def isDigit (b : UInt8) : Bool :=
  0x30 ≤ b && b ≤ 0x39

/-- The value of a decimal digit. -/
def digitValue (b : UInt8) : Nat :=
  b.toNat - 0x30

/-- The largest number that a word of sixty-four bits holds. -/
def wordMax : Nat := 1 <<< 64 - 1

/-- The largest power of ten by which an exponent is read exactly. -/
def exponentMax : Nat := 1 <<< 31 - 1

/-- A number as read: an integer that fits into sixty-four bits, or a floating number. -/
inductive Numeral
  | integer (value : Int)
  | float (value : Number.Binary64)
  deriving DecidableEq, Repr

/--
The whole digits of a number: the significand as long as it fits into a word, and
the count of digits left out behind it.
-/
def wholeDigits (significand : Nat) : Bytes → Nat × Nat
  | [] => (significand, 0)
  | b :: rest =>
      let grown := significand * 10 + digitValue b
      if grown ≤ wordMax then wholeDigits grown rest
      else (significand, rest.length + 1)

/--
The digits behind the point: the significand as long as it fits into a word, and the
count of digits taken into it.
-/
def fractionDigits (significand : Nat) : Bytes → Nat × Nat
  | [] => (significand, 0)
  | b :: rest =>
      let grown := significand * 10 + digitValue b
      if grown ≤ wordMax then
        let (final, taken) := fractionDigits grown rest
        (final, taken + 1)
      else
        (significand, 0)

/-- The digits of an exponent, or the count of digits after which it is too large. -/
def exponentDigits (exponent taken : Nat) : Bytes → Except Nat Nat
  | [] => .ok exponent
  | b :: rest =>
      let grown := exponent * 10 + digitValue b
      if grown ≤ exponentMax then exponentDigits grown (taken + 1) rest
      else .error (taken + 1)

/-- The floating number of a decimal, which has to be within range. -/
def scaled (negative : Bool) (significand : Nat) (exponent : Int) (behind : Cursor) :
    Except Fault (Numeral × Cursor) :=
  match Number.Magnitude.ofDecimal? significand exponent with
  | some magnitude => .ok (.float ⟨negative, magnitude⟩, behind)
  | none => .error (behind.fault .numberOutOfRange)

/-- A number from its exponent mark on. -/
def exponentTail (negative : Bool) (significand : Nat) (exponent : Int) (c : Cursor) :
    Except Fault (Numeral × Cursor) :=
  let marked := c.skip 1
  let (down, start) :=
    match marked.rest with
    | b :: _ =>
        if b = 0x2B then (false, marked.skip 1)
        else if b = 0x2D then (true, marked.skip 1)
        else (false, marked)
    | [] => (false, marked)
  match start.rest with
  | [] => .error (start.fault .endOfValue)
  | b :: _ =>
      if !isDigit b then
        .error ((start.skip 1).fault .numberInvalid)
      else
        let digits := start.rest.takeWhile isDigit
        let behind := start.skip digits.length
        match exponentDigits 0 0 digits with
        | .ok power =>
            let power : Int := if down then -(power : Int) else power
            scaled negative significand (exponent + power) behind
        | .error taken =>
            if significand ≠ 0 ∧ !down then
              .error ((start.skip taken).fault .numberOutOfRange)
            else
              .ok (.float ⟨negative, Number.Magnitude.zero⟩, behind)

/-- A number from its point on. -/
def fractionTail (negative : Bool) (significand : Nat) (exponent : Int) (c : Cursor) :
    Except Fault (Numeral × Cursor) :=
  let start := c.skip 1
  let digits := start.rest.takeWhile isDigit
  if digits.isEmpty then
    match start.rest with
    | [] => .error (start.fault .endOfValue)
    | _ :: _ => .error (start.faultAhead .numberInvalid)
  else
    let (significand, taken) := fractionDigits significand digits
    let exponent := exponent - taken
    let behind := start.skip digits.length
    match behind.rest with
    | b :: _ =>
        if b = 0x65 || b = 0x45 then
          exponentTail negative significand exponent behind
        else
          scaled negative significand exponent behind
    | [] => scaled negative significand exponent behind

/-- The number of a word read without point and exponent. -/
def wholeNumeral (negative : Bool) (significand : Nat) : Numeral :=
  if !negative then
    .integer significand
  else if significand = 0 ∨ 1 <<< 63 < significand then
    .float ⟨true, Number.Magnitude.ofNat significand⟩
  else
    .integer (-(significand : Int))

/-- A number behind its whole digits. -/
def wholeTail (negative : Bool) (significand dropped : Nat) (behind : Cursor) :
    Except Fault (Numeral × Cursor) :=
  let plain :=
    if dropped = 0 then .ok (wholeNumeral negative significand, behind)
    else scaled negative significand dropped behind
  match behind.rest with
  | b :: _ =>
      if b = 0x2E then fractionTail negative significand dropped behind
      else if b = 0x65 || b = 0x45 then
        exponentTail negative significand dropped behind
      else plain
  | [] => plain

/-- A number behind its sign. -/
def unsignedNumber (negative : Bool) (c : Cursor) : Except Fault (Numeral × Cursor) :=
  match c.rest with
  | [] => .error (c.fault .endOfValue)
  | b :: more =>
      if b = 0x30 then
        match more with
        | d :: _ =>
            if isDigit d then .error ((c.skip 1).faultAhead .numberInvalid)
            else wholeTail negative 0 0 (c.skip 1)
        | [] => wholeTail negative 0 0 (c.skip 1)
      else if isDigit b then
        let digits := c.rest.takeWhile isDigit
        let (significand, dropped) := wholeDigits 0 digits
        wholeTail negative significand dropped (c.skip digits.length)
      else
        .error ((c.skip 1).fault .numberInvalid)

/-- A number whose first octet is a digit or a minus sign. -/
def number (c : Cursor) : Except Fault (Numeral × Cursor) :=
  match c.rest with
  | b :: _ =>
      if b = 0x2D then unsignedNumber true (c.skip 1)
      else unsignedNumber false c
  | [] => unsignedNumber false c

end Json
end OutboxRelay
