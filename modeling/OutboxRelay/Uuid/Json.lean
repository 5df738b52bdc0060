import OutboxRelay.Json.Reader
import OutboxRelay.Uuid

/-!
# Identifiers in JSON texts

An identifier is a string with its text.
-/

namespace OutboxRelay
namespace Uuid

/-- The cause of a fault in the text of an identifier. -/
def refusal (malformed : Malformed) : Json.Cause :=
  .refused ("UUID parsing failed: " ++ malformed.message)

/-- Reads an identifier. -/
def read : Json.Reader Uuid := do
  if (← Json.Reader.firstOctet) = 0x22 then
    match parse (← Json.Reader.text) with
    | .ok id => return id
    | .error malformed => Json.Reader.failing (refusal malformed)
  else
    Json.Reader.refusing .identifier

/-- The value that describes an identifier. -/
def toJson (id : Uuid) : Json.Value :=
  .text id.text

end Uuid
end OutboxRelay
