import OutboxRelay.Text.Unprintable

/-!
# Quoted text

A text inside a message stands between quotation marks, so that its ends and its
invisible characters can be seen.  Each character is written as itself, as a
backslash and a letter, or as a number in braces.
-/

namespace OutboxRelay
namespace Text

/-- The lower-case digits of a number in base sixteen. -/
def hexadecimal (n : Nat) : String :=
  String.ofList (Nat.toDigits 16 n)

/-- A character written by its number. -/
def numbered (c : Char) : String :=
  "\\u\x7b" ++ hexadecimal c.toNat ++ "\x7d"

/-- One character of a quoted text. -/
def quotedChar (c : Char) : String :=
  if c = '"' then "\\\""
  else if c = '\\' then "\\\\"
  else if c = '\n' then "\\n"
  else if c = '\r' then "\\r"
  else if c = '\t' then "\\t"
  else if c.toNat = 0 then "\\0"
  else if c.toNat < 0x20 || c.toNat = 0x7F then numbered c
  else if c.toNat < 0x7F then c.toString
  else if isUnprintable c then numbered c
  else c.toString

/-- A text between quotation marks. -/
def quoted (text : String) : String :=
  "\"" ++ String.join (text.toList.map quotedChar) ++ "\""

end Text
end OutboxRelay
