import OutboxRelay.Text.Utf8

/-!
# Percent-encoded text

A character that must not stand for itself is written as the octets of its UTF-8 form,
each as a percent sign and two digits in base sixteen.  Which characters these are
depends on the part of a URL; a part is given by a predicate on characters.
-/

namespace OutboxRelay
namespace Percent

/-- The characters that are encoded in some part. -/
abbrev Part := Char → Bool

/-- Whether a character is one of a given row. -/
def among (row : String) (c : Char) : Bool :=
  row.toList.contains c

/-- Controls, and everything outside of ASCII. -/
def controls : Part :=
  fun c => c.toNat < 0x20 || 0x7F ≤ c.toNat

/-- What is encoded in a fragment. -/
def fragment : Part :=
  fun c => controls c || among " \"<>`" c

/-- What is encoded in a query. -/
def query : Part :=
  fun c => controls c || among " \"#<>" c

/-- What is encoded in a query of a special scheme. -/
def specialQuery : Part :=
  fun c => query c || c == '\''

/-- What is encoded in a path. -/
def path : Part :=
  fun c => fragment c || among "#?\x7b\x7d" c

/-- What is encoded in a name or a password. -/
def userInfo : Part :=
  fun c => path c || among "/:;=@[\\]^|" c

/-- What is encoded in a single segment of a path. -/
def segment : Part :=
  fun c => path c || among "/%" c

/-- What is encoded in a single segment of a path of a special scheme. -/
def specialSegment : Part :=
  fun c => segment c || c == '\\'

/-- What is encoded in a form; a blank has a sign of its own there. -/
def form : Part :=
  fun c => !(c.isAlphanum || among "*-._" c)

/-- A digit in base sixteen, in upper case. -/
def digit (n : Nat) : Char :=
  (Nat.digitChar (n % 16)).toUpper

/-- An octet as a percent sign and two digits. -/
def encodeOctet (b : UInt8) : List Char :=
  ['%', digit (b.toNat / 16), digit b.toNat]

/-- A character in some part. -/
def encodeChar (part : Part) (c : Char) : List Char :=
  if part c then (String.utf8EncodeChar c).flatMap encodeOctet else [c]

/-- A row of characters in some part. -/
def encode (part : Part) (chars : List Char) : List Char :=
  chars.flatMap (encodeChar part)

/-- A character in a form. -/
def encodeFormChar (c : Char) : List Char :=
  if c = ' ' then ['+'] else encodeChar form c

/-- A text in a form. -/
def encodeForm (text : String) : String :=
  String.ofList (text.toList.flatMap encodeFormChar)

/-- The value of an octet that is a digit in base sixteen, of either case. -/
def digitValue? (b : UInt8) : Option Nat :=
  let n := b.toNat
  if 0x30 ≤ n ∧ n ≤ 0x39 then some (n - 0x30)
  else if 0x61 ≤ n ∧ n ≤ 0x66 then some (n - 0x61 + 10)
  else if 0x41 ≤ n ∧ n ≤ 0x46 then some (n - 0x41 + 10)
  else none

/-- The octets that encoded octets stand for; a lone percent sign stands for itself. -/
def decode : Bytes → Bytes
  | 0x25 :: x :: y :: rest =>
      match digitValue? x, digitValue? y with
      | some x, some y => UInt8.ofNat (x * 16 + y) :: decode rest
      | _, _ => 0x25 :: decode (x :: y :: rest)
  | b :: rest => b :: decode rest
  | [] => []
termination_by bytes => bytes.length
decreasing_by
  all_goals
    simp only [List.length_cons]
    omega

/-- The text that an encoded text stands for, if it is well formed. -/
def decode? (text : String) : Option String :=
  Utf8.decode? (decode (Utf8.encode text))

end Percent
end OutboxRelay
