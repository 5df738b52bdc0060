import OutboxRelay.Admin.Handler
import OutboxRelay.Http.MediaType

/-!
# Routes

A request of an administrator is led by its path to what is done for it.

**Rules.**

* The path is looked at first, then the method, then the media type, the length and
  the content of a body.
* What may be got may also be asked for without its content.
* A request may take any time.  What cuts off a request that takes too long, and answers in its
  place, stands outside.
-/

namespace OutboxRelay
namespace Admin

open Http (Field MediaType Method Response)
open Json (Record)

/-- A request as it arrives, its path with what follows it. -/
structure Incoming where
  method : Method
  path : String
  fields : List Field
  body : Bytes
  deriving DecidableEq, Repr

/-- The things that can be asked for. -/
inductive Route
  | health
  | stats
  | append
  | compact
  deriving DecidableEq, Repr

namespace Route

/-- All routes. -/
def all : List Route :=
  [health, stats, append, compact]

/-- The path of a route. -/
def path : Route → String
  | health => "/"
  | stats => "/outbox"
  | append => "/outbox/events"
  | compact => "/outbox/compact"

/-- The methods of a route. -/
def methods : Route → List Method
  | health | stats => [.get, .head]
  | append | compact => [.post]

/-- The route with a path. -/
def ofPath? (path : String) : Option Route :=
  all.find? fun route => route.path == path

/-- The methods of a route, as a caller is told of them. -/
def allowText (route : Route) : String :=
  ",".intercalate (route.methods.map Method.name)

end Route

/-- The path of a request without what follows it. -/
def barePath (path : String) : String :=
  String.ofList (path.toList.takeWhile fun c => c ≠ '?' && c ≠ '#')

/-- The longest body that is accepted, in octets. -/
def bodyLimit : Nat := 256 * 1024

/-- Whether the fields of a request promise a JSON text. -/
def promisesJson (fields : List Field) : Bool :=
  match (Field.lookup "content-type" fields).bind MediaType.parse? with
  | some media => media.isJson
  | none => false

/-- The answer to a body that is no JSON text, or not one of the wanted shape. -/
def ofJsonError (error : Json.Error) : Response :=
  match error.category with
  | .content =>
      plain 422 ("Failed to deserialize the JSON body into the target type: " ++
        error.placedMessage)
  | .malformed | .ended =>
      plain 400 ("Failed to parse the request body as JSON: " ++ error.placedMessage)

/-- What a request asks for, or the answer if that cannot be read. -/
def requested {α : Type} (record : Record α) (incoming : Incoming) :
    Except Response α :=
  if !promisesJson incoming.fields then
    .error (plain 415 "Expected request with `Content-Type: application/json`")
  else if bodyLimit < incoming.body.length then
    .error (plain 413 "Failed to buffer the request body: length limit exceeded")
  else
    (record.decode incoming.body).mapError ofJsonError

section Routes

variable {τ : Type}

/-- Does what a body asks for. -/
def withBody {α : Type} (record : Record α) (incoming : Incoming)
    (handle : α → AtDesk τ Response) : AtDesk τ Response :=
  match requested record incoming with
  | .ok request => handle request
  | .error response => return response

/-- Does what a request on a route asks for. -/
def onRoute (route : Route) (incoming : Incoming) : AtDesk τ Response :=
  match route with
  | .health => return plain 200 "ok"
  | .stats => stats
  | .append => withBody AppendRequest.record incoming append
  | .compact => withBody CompactRequest.record incoming compact

/-- The answer without its content, if that is what was asked for. -/
def trimmed (method : Method) (response : Response) : Response :=
  if method = .head then { response with body := [] } else response

/-- Answers a request. -/
def handle (incoming : Incoming) : AtDesk τ Response :=
  match Route.ofPath? (barePath incoming.path) with
  | none => return bare 404
  | some route =>
      if route.methods.contains incoming.method then do
        return trimmed incoming.method (← onRoute route incoming)
      else
        return { bare 405 with fields := [⟨"allow", route.allowText⟩] }

end Routes

end Admin
end OutboxRelay
