import OutboxRelay.Text.Composition
import OutboxRelay.Text.Percent
import OutboxRelay.Text.Punycode
import OutboxRelay.Url.DomainName.Direction
import OutboxRelay.Url.DomainName.Joining

/-!
# Domain names

A domain name is a row of labels with points between them.  It is kept in small letters
and in ASCII; a label with other characters has a form of its own, behind a mark.

**Algorithm.**

1. Fold every character and compose the result.
2. Take the labels apart, and read those that are in the form behind the mark.
3. Check every label, and all of them for their directions.
4. Write the labels with other characters in that form.
-/

namespace OutboxRelay
namespace DomainName

/-- The characters of ASCII that no name may have. -/
def isDenied (c : Char) : Bool :=
  c.toNat ≤ 0x20 || c.toNat = 0x7F || Percent.among "%#/:<>?@[\\]^|" c

/-- The mark in front of a label that stands for other characters. -/
def mark : List Char :=
  "xn--".toList

/-- The most characters of a label that is written behind the mark. -/
def longestWritten : Nat := 1000

/-- The most characters of a label that is read behind the mark. -/
def longestRead : Nat := 2000

/-- The form in which names that mean the same are the same. -/
def canonical? (chars : List Char) : Option (List Char) :=
  (chars.mapM fold?).map fun folded => Text.composed folded.flatten

/-- Whether a label starts well and has no idle sign about joining. -/
def isSound (label : List Char) : Bool :=
  !(label.head?.map Text.isMark).getD false && signsMatter label

/-- A label, as it is meant and as it is written. -/
structure Label where
  meant : List Char
  written : List Char
  deriving DecidableEq, Repr

/-- The label in the form behind the mark. -/
def marked? (chars : List Char) : Option Label := do
  let body := chars.drop mark.length
  if longestRead < body.length then none
  let meant ← Punycode.decode? body
  if meant.all Punycode.isPlain || canonical? meant ≠ some meant || !isSound meant then
    none
  return ⟨meant, chars⟩

/-- The label that a row of characters stands for. -/
def label? (chars : List Char) : Option Label :=
  if chars.take mark.length = mark then
    marked? chars
  else if chars.all Punycode.isPlain then
    some ⟨chars, chars⟩
  else if longestWritten < chars.length || !isSound chars then
    none
  else
    some ⟨chars, mark ++ Punycode.encode chars⟩

/-- The name that a row of characters stands for. -/
def ofChars? (chars : List Char) : Option String := do
  let labels ← ((← canonical? chars).splitOn '.').mapM label?
  let name := ['.'].intercalate (labels.map Label.written)
  if name.any isDenied || !keepDirections (labels.map Label.meant) then none
  return String.ofList name

/-- The name that a row of octets stands for. -/
def ofOctets? (octets : Bytes) : Option String := do
  let text ← Utf8.decode? octets
  ofChars? text.toList

end DomainName
end OutboxRelay
