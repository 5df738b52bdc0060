import OutboxRelay.Net.Ip
import OutboxRelay.Number.Integer

/-!
# Socket addresses

A socket address is an address of the Internet Protocol with a port, and a scope if
the address is one of version six.

**Algorithm.** Readers take characters from the front of a row.  One that fails takes
nothing, so that another one can be tried.
-/

namespace OutboxRelay
namespace Net

/-- A socket address. -/
inductive SocketAddress
  | v4 (address : Ipv4) (port : Nat)
  | v6 (address : Ipv6) (scope port : Nat)
  deriving DecidableEq, Repr

/-- A reader of the characters at the front of a row. -/
abbrev Taking (α : Type) := StateT (List Char) Option α

namespace Taking

/-- Takes a given character. -/
def mark (c : Char) : Taking Unit := fun
  | d :: rest => if d = c then some ((), rest) else none
  | [] => none

/-- The number of a row of digits. -/
def numberOf (base : Nat) (digit? : Char → Option Nat) (digits : List Char) : Nat :=
  fromDigits base (digits.filterMap digit?)

/-- Takes all digits at the front; there has to be one, and the number has a bound. -/
def number (base : Nat) (digit? : Char → Option Nat) (bound : Nat) : Taking Nat :=
  fun row =>
    let digits := row.takeWhile fun c => (digit? c).isSome
    let value := numberOf base digit? digits
    if digits.isEmpty ∨ bound ≤ value then none
    else some (value, row.dropWhile fun c => (digit? c).isSome)

/-- The value of a digit in base sixteen, of either case. -/
def hexDigit? (c : Char) : Option Nat :=
  if '0' ≤ c ∧ c ≤ '9' then some (c.toNat - '0'.toNat)
  else if 'a' ≤ c ∧ c ≤ 'f' then some (c.toNat - 'a'.toNat + 10)
  else if 'A' ≤ c ∧ c ≤ 'F' then some (c.toNat - 'A'.toNat + 10)
  else none

/-- Takes an octet: at most three digits, without a leading zero. -/
def octet : Taking Nat := fun row =>
  let digits := row.takeWhile fun c => (Number.decimalDigit? c).isSome
  if 3 < digits.length ∨ (digits.head? = some '0' ∧ 1 < digits.length) then none
  else number 10 Number.decimalDigit? 256 row

/-- Takes a piece: at most four digits in base sixteen. -/
def piece : Taking Nat := fun row =>
  if 4 < (row.takeWhile fun c => (hexDigit? c).isSome).length then none
  else number 16 hexDigit? 65536 row

/-- Takes the octets of an address of version four. -/
def octets : Taking (List Nat) := do
  let a ← octet
  mark '.'
  let b ← octet
  mark '.'
  let c ← octet
  mark '.'
  let d ← octet
  return [a, b, c, d]

/-- Takes what follows a colon, which the first of a row does without. -/
def separated {α : Type} (first : Bool) (reader : Taking α) : Taking α := do
  if first then
    reader
  else
    mark ':'
    reader

/-- The two pieces that four octets make. -/
def piecesOfOctets (octets : List Nat) : List Nat :=
  match octets with
  | [a, b, c, d] => [a * 256 + b, c * 256 + d]
  | _ => []

/--
Takes pieces as long as there are any and room is left, and tells whether four octets
ended them.
-/
def piecesFrom : Nat → List Nat → Taking (List Nat × Bool)
  | 0, taken => return (taken.reverse, false)
  | room + 1, taken => fun row =>
      let dotted :=
        if room = 0 then none else separated taken.isEmpty octets row
      match dotted with
      | some (octets, rest) =>
          some ((taken.reverse ++ piecesOfOctets octets, true), rest)
      | none =>
          match separated taken.isEmpty piece row with
          | some (value, rest) => piecesFrom room (value :: taken) rest
          | none => some ((taken.reverse, false), row)

/-- Takes an address of version six; two colons stand for at least one zero piece. -/
def ipv6 : Taking Ipv6 := do
  let (front, dotted) ← piecesFrom 8 []
  if front.length = 8 then
    return .ofPieces front
  else if dotted then
    failure
  else
    mark ':'
    mark ':'
    let (back, _) ← piecesFrom (7 - front.length) []
    let zeros := List.replicate (8 - front.length - back.length) 0
    return .ofPieces (front ++ zeros ++ back)

/-- Takes the scope of an address, if there is one that fits. -/
def scope : Taking Nat := fun row =>
  match (do mark '%'; number 10 Number.decimalDigit? 0x100000000 : Taking Nat) row with
  | some found => some found
  | none => some (0, row)

/-- Takes a port behind its colon. -/
def port : Taking Nat := do
  mark ':'
  number 10 Number.decimalDigit? 65536

/-- Takes a socket address of version four. -/
def socketV4 : Taking SocketAddress := do
  let octets ← octets
  return .v4 (.ofOctets octets) (← port)

/-- Takes a socket address of version six. -/
def socketV6 : Taking SocketAddress := do
  mark '['
  let address ← ipv6
  let scope ← scope
  mark ']'
  return .v6 address scope (← port)

end Taking

namespace SocketAddress

/-- The socket address that a text denotes. -/
def parse? (text : String) : Option SocketAddress :=
  match (Taking.socketV4 <|> Taking.socketV6).run text.toList with
  | some (address, []) => some address
  | _ => none

/-- The text of a socket address, in which a scope of zero is left out. -/
def text : SocketAddress → String
  | v4 address port => address.text ++ ":" ++ toString port
  | v6 address scope port =>
      "[" ++ address.dottedText ++ (if scope = 0 then "" else "%" ++ toString scope) ++
        "]:" ++ toString port

end SocketAddress

end Net
end OutboxRelay
