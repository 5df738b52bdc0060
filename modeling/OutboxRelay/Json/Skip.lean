import OutboxRelay.Json.Lexeme

/-!
# Skipping a value

A value that nobody asked for is passed over.  It has to be well formed, but its
strings are not decoded, its numbers have no range, and it may be nested to any
depth.

**Algorithm.** A stack holds the brackets that are open.  Behind a value or behind an
opening bracket, the next octet closes the innermost bracket or starts another value.
-/

namespace OutboxRelay
namespace Json

/-- An open bracket. -/
inductive Bracket
  | list
  | object
  deriving DecidableEq, Repr

namespace Bracket

/-- The octet that closes a bracket. -/
def closing : Bracket → UInt8
  | list => 0x5D
  | object => 0x7D

/-- What is missing behind a value in a bracket. -/
def separatorWanted : Bracket → Cause
  | list => .listSeparatorWanted
  | object => .objectSeparatorWanted

/-- What ends too early. -/
def unended : Bracket → Cause
  | list => .endOfList
  | object => .endOfObject

end Bracket

/-- The length of an escape behind the backslash. -/
def skipEscape (c : Cursor) : Except Fault Nat :=
  match c.rest with
  | [] => .error (c.fault .endOfText)
  | b :: _ =>
      if (letterEscape? b).isSome then .ok 1
      else if b = 0x75 then do
        let _ ← hexQuad (c.skip 1)
        return 5
      else .error ((c.skip 1).fault .escapeInvalid)

/-- The cursor behind the closing mark of a string. -/
def skipStringFrom (offset : Nat) (rest : Bytes) : Except Fault Cursor :=
  match rest with
  | [] => .error (Cursor.fault ⟨offset, []⟩ .endOfText)
  | b :: more =>
      if b = 0x22 then
        .ok ⟨offset + 1, more⟩
      else if b = 0x5C then
        match skipEscape ⟨offset + 1, more⟩ with
        | .error fault => .error fault
        | .ok length => skipStringFrom (offset + 1 + length) (more.drop length)
      else if b < 0x20 then
        .error (Cursor.fault ⟨offset, rest⟩ .controlCharacter)
      else
        skipStringFrom (offset + 1) more
termination_by rest.length
decreasing_by
  · simp only [List.length_drop, List.length_cons]
    omega
  · simp only [List.length_cons]
    omega

/-- The cursor behind the digits at a cursor. -/
def Cursor.skipDigits (c : Cursor) : Cursor :=
  c.skip (c.rest.takeWhile isDigit).length

/-- The cursor behind an exponent, from its mark on. -/
def skipExponent (c : Cursor) : Except Fault Cursor :=
  let marked := c.skip 1
  let start :=
    match marked.rest with
    | b :: _ => if b = 0x2B || b = 0x2D then marked.skip 1 else marked
    | [] => marked
  match start.rest with
  | [] => .error (start.fault .numberInvalid)
  | b :: _ =>
      if isDigit b then .ok start.skipDigits
      else .error ((start.skip 1).fault .numberInvalid)

/-- The cursor behind an exponent, if one follows. -/
def skipExponentIfAny (c : Cursor) : Except Fault Cursor :=
  match c.rest with
  | b :: _ => if b = 0x65 || b = 0x45 then skipExponent c else .ok c
  | [] => .ok c

/-- The cursor behind a number, behind its whole digits. -/
def skipFraction (c : Cursor) : Except Fault Cursor :=
  match c.rest with
  | b :: _ =>
      if b = 0x2E then
        let start := c.skip 1
        let behind := start.skipDigits
        if behind.offset = start.offset then
          .error (start.faultAhead .numberInvalid)
        else
          skipExponentIfAny behind
      else
        skipExponentIfAny c
  | [] => .ok c

/-- The cursor behind a number, behind its sign. -/
def skipNumber (c : Cursor) : Except Fault Cursor :=
  match c.rest with
  | [] => .error (c.fault .numberInvalid)
  | b :: more =>
      if b = 0x30 then
        match more with
        | d :: _ =>
            if isDigit d then .error ((c.skip 1).faultAhead .numberInvalid)
            else skipFraction (c.skip 1)
        | [] => skipFraction (c.skip 1)
      else if isDigit b then
        skipFraction c.skipDigits
      else
        .error ((c.skip 1).fault .numberInvalid)

/-- The cursor at the value of the next item of a bracket: an object's item has a key. -/
def skipKey (bracket : Bracket) (c : Cursor) : Except Fault Cursor :=
  match bracket with
  | .list => .ok c
  | .object =>
      let c := c.skipBlanks
      match c.rest with
      | [] => .error (c.faultAhead .endOfObject)
      | b :: more =>
          if b ≠ 0x22 then
            .error (c.faultAhead .keyNotText)
          else do
            let behind ← skipStringFrom (c.offset + 1) more
            let colon := behind.skipBlanks
            match colon.rest with
            | [] => throw (colon.faultAhead .endOfObject)
            | b :: _ =>
                if b = 0x3A then return colon.skip 1
                else throw (colon.faultAhead .colonWanted)

/-- What is read next: a value, or what may follow in the innermost bracket. -/
inductive Expectation
  | value
  | opened
  | separated
  deriving DecidableEq, Repr

/-- The state of skipping: the open brackets, what is read next, and where. -/
structure Skipping where
  brackets : List Bracket
  expects : Expectation
  cursor : Cursor

/-- Skips an opening octet, a word, a string, or a number. -/
def Skipping.value (s : Skipping) : Except Fault Skipping :=
  let c := s.cursor.skipBlanks
  let done (behind : Cursor) : Skipping :=
    ⟨s.brackets, .separated, behind⟩
  match c.rest with
  | [] => .error (c.faultAhead .endOfValue)
  | b :: more =>
      if b = 0x6E then done <$> word nullTail (c.skip 1)
      else if b = 0x74 then done <$> word trueTail (c.skip 1)
      else if b = 0x66 then done <$> word falseTail (c.skip 1)
      else if b = 0x2D then done <$> skipNumber (c.skip 1)
      else if isDigit b then done <$> skipNumber c
      else if b = 0x22 then done <$> skipStringFrom (c.offset + 1) more
      else if b = 0x5B then
        .ok ⟨.list :: s.brackets, .opened, c.skip 1⟩
      else if b = 0x7B then
        .ok ⟨.object :: s.brackets, .opened, c.skip 1⟩
      else
        .error (c.faultAhead .valueWanted)

/-- Skips what follows in a bracket: its end, or the way to its next value. -/
def Skipping.follow (bracket : Bracket) (outer : List Bracket) (s : Skipping) :
    Except Fault Skipping := do
  let c := s.cursor.skipBlanks
  match c.rest with
  | [] => throw (c.faultAhead bracket.unended)
  | b :: _ =>
      if b = bracket.closing then
        return ⟨outer, .separated, c.skip 1⟩
      else if s.expects = .opened then
        let c ← skipKey bracket c
        return ⟨s.brackets, .value, c⟩
      else if b = 0x2C then
        let c ← skipKey bracket (c.skip 1)
        return ⟨s.brackets, .value, c⟩
      else
        throw (c.faultAhead bracket.separatorWanted)

/-- Goes on until the value is complete; every two rounds read an octet. -/
def Skipping.finish : Nat → Skipping → Except Fault Cursor
  | 0, s => .error (s.cursor.fault .endOfValue)
  | rounds + 1, s =>
      match s.expects, s.brackets with
      | .value, _ =>
          match s.value with
          | .ok s => finish rounds s
          | .error fault => .error fault
      | _, [] => .ok s.cursor
      | _, bracket :: outer =>
          match s.follow bracket outer with
          | .ok s => finish rounds s
          | .error fault => .error fault

/-- The cursor behind the next value. -/
def skipValue (c : Cursor) : Except Fault Cursor :=
  Skipping.finish (2 * c.rest.length + 2) ⟨[], .value, c⟩

end Json
end OutboxRelay
