import OutboxRelay.Text.Quoted

/-!
# Addresses of the Internet Protocol

An address of version four is a word of four octets, one of version six a word of
eight pieces.  Both have a text of their own.

**Rules.**

* The first longest run of at least two zero pieces is left out of a text.
* Pieces are written in lower case and without leading zeros.
-/

namespace OutboxRelay
namespace Net

/-- An address of version four. -/
structure Ipv4 where
  bits : BitVec 32
  deriving DecidableEq, Repr

/-- An address of version six. -/
structure Ipv6 where
  bits : BitVec 128
  deriving DecidableEq, Repr

/-- The number whose digits in some base are given, the first one first. -/
def fromDigits (base : Nat) (digits : List Nat) : Nat :=
  digits.foldl (fun number digit => number * base + digit) 0

namespace Ipv4

/-- The address with a number. -/
def ofNat (n : Nat) : Ipv4 :=
  ⟨BitVec.ofNat 32 n⟩

/-- The address with four octets. -/
def ofOctets (octets : List Nat) : Ipv4 :=
  ofNat (fromDigits 256 octets)

/-- The four octets of an address. -/
def octets (address : Ipv4) : List Nat :=
  [24, 16, 8, 0].map fun shift => address.bits.toNat >>> shift % 256

/-- The text of an address. -/
def text (address : Ipv4) : String :=
  ".".intercalate (address.octets.map toString)

end Ipv4

namespace Ipv6

/-- The address with eight pieces. -/
def ofPieces (pieces : List Nat) : Ipv6 :=
  ⟨BitVec.ofNat 128 (fromDigits 65536 pieces)⟩

/-- The eight pieces of an address. -/
def pieces (address : Ipv6) : List Nat :=
  [112, 96, 80, 64, 48, 32, 16, 0].map fun shift =>
    address.bits.toNat >>> shift % 65536

/-- How many zero pieces stand at the start of a row. -/
def leadingZeros (pieces : List Nat) : Nat :=
  (pieces.takeWhile (· = 0)).length

/-- The position and the length of the first longest run of zeros from a position on. -/
def longestRun (position : Nat) : List Nat → Nat × Nat
  | [] => (position, 0)
  | piece :: pieces =>
      let here := leadingZeros (piece :: pieces)
      let later := longestRun (position + 1) pieces
      if later.2 ≤ here then (position, here) else later

/-- Pieces with colons between them. -/
def joined (pieces : List Nat) : String :=
  ":".intercalate (pieces.map Text.hexadecimal)

/-- The text of a row of pieces. -/
def piecesText (pieces : List Nat) : String :=
  let (start, length) := longestRun 0 pieces
  if length < 2 then
    joined pieces
  else
    joined (pieces.take start) ++ "::" ++ joined (pieces.drop (start + length))

/-- The text of an address. -/
def text (address : Ipv6) : String :=
  piecesText address.pieces

/-- The address of version four that an address stands for, if it does. -/
def mapped? (address : Ipv6) : Option Ipv4 :=
  if address.bits.toNat >>> 32 = 0xFFFF then
    some (.ofNat address.bits.toNat)
  else
    none

/-- The text of an address, in which an address of version four keeps its own. -/
def dottedText (address : Ipv6) : String :=
  match address.mapped? with
  | some inner => "::ffff:" ++ inner.text
  | none => address.text

end Ipv6

end Net
end OutboxRelay
