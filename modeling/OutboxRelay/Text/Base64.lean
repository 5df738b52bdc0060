import OutboxRelay.Text.Utf8

/-!
# Base sixty-four

Three octets are written as four characters of six bits each.  One or two octets at
the end are filled up with zero bits, and signs of padding tell how many are missing.
-/

namespace OutboxRelay
namespace Base64

/-- The characters, in the order of their values. -/
def alphabet : List Char :=
  "ABCDEFGHIJKLMNOPQRSTUVWXYZabcdefghijklmnopqrstuvwxyz0123456789+/".toList

/-- The character of six bits. -/
def character (bits : Nat) : Char :=
  alphabet.getD (bits % 64) '='

/-- The four characters of a word of twenty-four bits. -/
def characters (word : Nat) : List Char :=
  [character (word >>> 18), character (word >>> 12), character (word >>> 6),
    character word]

/-- The characters of a byte string. -/
def encode : Bytes → List Char
  | [] => []
  | [a] => (characters (a.toNat <<< 16)).take 2 ++ ['=', '=']
  | [a, b] => (characters (a.toNat <<< 16 + b.toNat <<< 8)).take 3 ++ ['=']
  | a :: b :: c :: rest =>
      characters (a.toNat <<< 16 + b.toNat <<< 8 + c.toNat) ++ encode rest

end Base64
end OutboxRelay
