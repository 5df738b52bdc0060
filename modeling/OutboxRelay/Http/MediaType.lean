import OutboxRelay.Http.Message

/-!
# Media types

A media type names a type and a subtype, whose end behind a plus sign may name the
syntax of the content.  Parameters may follow, each behind a semicolon.

**Algorithm.** The text is taken from the left: tokens, then one parameter after the
other, each with a token or a quoted text for its value.
-/

namespace OutboxRelay
namespace Http

/-- A media type, in lower case. -/
structure MediaType where
  type : String
  subtype : String
  suffix : Option String
  deriving DecidableEq, Repr

namespace MediaType

/-- Whether a character may stand in a token. -/
def isTokenChar (c : Char) : Bool :=
  c.isAlphanum || Percent.among "!#$%&'*+-.^_`|~" c

/-- Whether a character may stand between quotation marks. -/
def isQuotedChar (c : Char) : Bool :=
  0x20 ≤ c.toNat && c.toNat < 0x7F && c ≠ '"'

/--
What stands behind the quotation marks of a value.  A value is never empty, so that a
mark right behind the first one belongs to it.
-/
def behindQuoted? : List Char → Option (List Char)
  | [] => none
  | first :: chars =>
      if isQuotedChar first || first = '"' then
        match chars.dropWhile isQuotedChar with
        | '"' :: rest => some rest
        | _ => none
      else
        none

/-- What stands behind the value of a parameter, if it is well formed. -/
def behindValue? (chars : List Char) : Option (List Char) :=
  match chars with
  | '"' :: rest => (behindQuoted? rest).map fun rest => rest.dropWhile (· = ' ')
  | _ => some (chars.dropWhile isTokenChar)

/-- Whether a value of a parameter is there before the next one. -/
def isUsable (value behind : List Char) : Bool :=
  behind.isEmpty || value.length ≠ behind.length

/-- Whether a row of parameters is well formed. -/
def areParameters : Nat → List Char → Bool
  | 0, chars => chars.isEmpty
  | rounds + 1, chars =>
      match chars with
      | [] => true
      | ' ' :: rest => areParameters rounds rest
      | _ =>
          let name := chars.takeWhile isTokenChar
          match chars.dropWhile isTokenChar with
          | '=' :: value =>
              match behindValue? value with
              | some behind =>
                  !name.isEmpty && isUsable value behind &&
                    match behind with
                    | [] => true
                    | ';' :: rest => areParameters rounds rest
                    | _ => false
              | none => false
          | _ => false

/-- A text in lower case. -/
def lower (chars : List Char) : String :=
  String.ofList (chars.map Char.toLower)

/-- The subtype and the syntax that it names behind its last plus sign. -/
def splitSuffix (chars : List Char) : String × Option String :=
  let behind := (chars.reverse.takeWhile (· ≠ '+')).reverse
  let front := chars.take (chars.length - behind.length - 1)
  if chars.length = behind.length ∨ front.isEmpty then (lower chars, none)
  else (lower front, some (lower behind))

/-- The media type that a text denotes. -/
def parse? (text : String) : Option MediaType :=
  let chars := text.toList
  let type := chars.takeWhile isTokenChar
  match chars.dropWhile isTokenChar with
  | '/' :: rest =>
      let name := rest.takeWhile isTokenChar
      let (subtype, suffix) := splitSuffix name
      let parsed : MediaType := ⟨lower type, subtype, suffix⟩
      match rest.dropWhile isTokenChar with
      | [] => if type.isEmpty then none else some parsed
      | ';' :: parameters =>
          if type.isEmpty || name.isEmpty then none
          else if areParameters (parameters.length + 1) parameters then some parsed
          else none
      | _ => none
  | _ => none

/-- Whether content of a media type is a JSON text. -/
def isJson (media : MediaType) : Bool :=
  media.type = "application" &&
    (media.subtype = "json" || media.suffix = some "json")

end MediaType
end Http
end OutboxRelay
