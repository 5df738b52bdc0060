import OutboxRelay.Net.Ip
import OutboxRelay.Number.Integer
import OutboxRelay.Text.Percent
import OutboxRelay.Url.DomainName

/-!
# Hosts

The host of a URL is a domain name or an address of the Internet Protocol.  A scheme
of its own kind may have a host that is taken as it stands.

**Rules.**

* A name whose last label is a number is an address of version four, whose last part
  fills the octets that are left.
* Parts of such an address may be written in base eight, ten or sixteen.
-/

namespace OutboxRelay

/-- Why a text is no URL. -/
inductive UrlFault
  | relativeWithoutBase
  | relativeToRootless
  | emptyHost
  | invalidDomainName
  | invalidDomainCharacter
  | invalidPort
  | invalidIpv4
  | invalidIpv6
  deriving DecidableEq, Repr

/-- The wording of the reason. -/
def UrlFault.message : UrlFault → String
  | relativeWithoutBase => "relative URL without a base"
  | relativeToRootless => "relative URL with a cannot-be-a-base base"
  | emptyHost => "empty host"
  | invalidDomainName => "invalid international domain name"
  | invalidDomainCharacter => "invalid domain character"
  | invalidPort => "invalid port number"
  | invalidIpv4 => "invalid IPv4 address"
  | invalidIpv6 => "invalid IPv6 address"

/-- The host of a URL. -/
inductive Host
  | domain (text : String)
  | v4 (address : Net.Ipv4)
  | v6 (address : Net.Ipv6)
  deriving DecidableEq, Repr

namespace Host

/-- The text of a host. -/
def text : Host → String
  | domain text => text
  | v4 address => address.text
  | v6 address => "[" ++ address.text ++ "]"

/-- Whether a host is there at all. -/
def isPresent : Host → Bool
  | domain text => text ≠ ""
  | v4 _ => true
  | v6 _ => true

/-! ## Addresses of version four -/

/-- The digit of a base up to sixteen. -/
def digit? (base : Nat) (c : Char) : Option Nat :=
  match Percent.digitValue? (UInt8.ofNat c.toNat) with
  | some value => if c.toNat < 0x80 ∧ value < base then some value else none
  | none => none

/-- The number of a row of digits, all of which have to be of a base. -/
def numberIn? (base : Nat) (digits : List Char) : Option Nat :=
  (digits.mapM (digit? base)).map (Net.fromDigits base)

/-- The number of one part of an address. -/
def partNumber? (part : List Char) : Option Nat :=
  match part with
  | [] => none
  | '0' :: 'x' :: digits => numberIn? 16 digits
  | '0' :: 'X' :: digits => numberIn? 16 digits
  | '0' :: c :: digits => numberIn? 8 (c :: digits)
  | digits => numberIn? 10 digits

/-- The parts of a name between its points, without an empty one at the end. -/
def parts (name : List Char) : List (List Char) :=
  let parts := name.splitOn '.'
  if parts.getLast? = some [] then parts.dropLast else parts

/-- Whether the last part of a name is a number. -/
def endsInNumber (name : List Char) : Bool :=
  match (parts name).getLast? with
  | none => false
  | some part =>
      (part ≠ [] && part.all fun c => (Number.decimalDigit? c).isSome)
        || (partNumber? part).isSome

/-- The address with some leading octets and a number for the octets that are left. -/
def addressOf (leading : List Nat) (last : Nat) : Except UrlFault Net.Ipv4 :=
  let bits := 8 * (4 - leading.length)
  if leading.all (· ≤ 255) ∧ last < 1 <<< bits then
    .ok (.ofNat (Net.fromDigits 256 leading <<< bits + last))
  else
    .error .invalidIpv4

/-- The address of version four that a name denotes. -/
def ipv4 (name : List Char) : Except UrlFault Net.Ipv4 :=
  match (parts name).mapM partNumber? with
  | none => .error .invalidIpv4
  | some numbers =>
      match numbers.getLast? with
      | none => .error .invalidIpv4
      | some last =>
          if 4 < numbers.length then .error .invalidIpv4
          else addressOf numbers.dropLast last

/-! ## Addresses of version six -/

/-- The pieces read so far, in reverse; the second row stands behind two colons. -/
structure Pieces where
  front : List Nat
  back : Option (List Nat)

namespace Pieces

/-- How many pieces are settled; two colons stand for at least one. -/
def count (pieces : Pieces) : Nat :=
  pieces.front.length +
    match pieces.back with
    | none => 0
    | some back => back.length + 1

/-- The pieces with one more. -/
def add (pieces : Pieces) (piece : Nat) : Pieces :=
  match pieces.back with
  | none => { pieces with front := piece :: pieces.front }
  | some back => { pieces with back := some (piece :: back) }

/-- The address that the pieces make up. -/
def address? (pieces : Pieces) : Option Net.Ipv6 :=
  match pieces.back with
  | none =>
      if pieces.front.length = 8 then some (.ofPieces pieces.front.reverse) else none
  | some back =>
      let zeros := List.replicate (8 - pieces.front.length - back.length) 0
      if pieces.count ≤ 8 then
        some (.ofPieces (pieces.front.reverse ++ zeros ++ back.reverse))
      else
        none

end Pieces

/-- An octet of a dotted tail: without a leading zero and below 256. -/
def tailOctet? (part : List Char) : Option Nat :=
  if part.head? = some '0' ∧ 1 < part.length then none
  else if part = [] then none
  else (numberIn? 10 part).filter (· ≤ 255)

/-- The pieces with those of a dotted tail. -/
def dottedTail? (pieces : Pieces) (chars : List Char) : Option Pieces :=
  if 6 < pieces.count then none
  else
    match (chars.splitOn '.').mapM tailOctet? with
    | some [a, b, c, d] => some ((pieces.add (a * 256 + b)).add (c * 256 + d))
    | _ => none

/-- The pieces of a row of characters, after those already read. -/
def piecesFrom : Nat → Pieces → List Char → Option Pieces
  | 0, _, _ => none
  | _, pieces, [] => some pieces
  | rounds + 1, pieces, c :: rest =>
      if pieces.count = 8 then none
      else if c = ':' then
        if pieces.back.isSome then none
        else piecesFrom rounds { pieces with back := some [] } rest
      else
        let digits := ((c :: rest).take 4).takeWhile fun c => (digit? 16 c).isSome
        let behind := (c :: rest).drop digits.length
        let piece := (numberIn? 16 digits).getD 0
        match behind with
        | [] => some (pieces.add piece)
        | '.' :: _ => if digits = [] then none else dottedTail? pieces (c :: rest)
        | [':'] => none
        | ':' :: more => piecesFrom rounds (pieces.add piece) more
        | _ => none

/-- The address of version six that a row of characters denotes. -/
def ipv6 (chars : List Char) : Except UrlFault Host :=
  let pieces :=
    match chars with
    | ':' :: ':' :: rest => piecesFrom (rest.length + 1) ⟨[], some []⟩ rest
    | ':' :: _ => none
    | _ :: _ :: _ => piecesFrom (chars.length + 1) ⟨[], none⟩ chars
    | _ => none
  match pieces.bind Pieces.address? with
  | some address => .ok (v6 address)
  | none => .error .invalidIpv6

/-- The host between brackets. -/
def bracketed (chars : List Char) : Except UrlFault Host :=
  if chars.getLast? = some ']' then ipv6 (chars.drop 1).dropLast
  else .error .invalidIpv6

/-! ## Names -/

/-- The host that a name of a special scheme denotes. -/
def ofName (name : String) : Except UrlFault Host :=
  if name = "" then .error .emptyHost
  else if endsInNumber name.toList then (ipv4 name.toList).map v4
  else .ok (.domain name)

/-- The host of a special scheme. -/
def parse (chars : List Char) : Except UrlFault Host :=
  if chars.head? = some '[' then
    bracketed chars
  else
    match DomainName.ofOctets? (Percent.decode (Utf8.encode (String.ofList chars))) with
    | some name => ofName name
    | none => .error .invalidDomainName

/-- The characters that a host which is taken as it stands must not have. -/
def isForbidden (c : Char) : Bool :=
  c.toNat = 0 || Percent.among "\t\n\r #/:<>?@[\\]^|" c

/-- The host of a scheme of its own kind. -/
def parseAsIs (chars : List Char) : Except UrlFault Host :=
  if chars.head? = some '[' then
    bracketed chars
  else if chars.any isForbidden then
    .error .invalidDomainCharacter
  else
    .ok (.domain (String.ofList (Percent.encode Percent.controls chars)))

end Host
end OutboxRelay
