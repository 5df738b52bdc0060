import OutboxRelay.Downstream
import OutboxRelay.Http.Client

/-!
# The vulnerability database on the web

Each call on the vulnerability database is one request to a server whose address is
given by a base URL.  The team that a call is made for is the authorization of its
request.

**Rules.**

* A status from 200 to 299 is success; 404 and 403 tell what they always tell, and
  any other status is reported with its text.
* A server matches identifiers loosely, so that only exact matches of a lookup count.
-/

namespace OutboxRelay
namespace Downstream
namespace Remote

open Http (ClientError Method OnWeb Received Request)
open Json (Record Value)

/-- A failure of the client. -/
def transport (error : ClientError) : DownstreamError :=
  .transport error.message

/-- The URL behind the base URL with some more segments. -/
def endpoint (base : Url) (segments : List String) : Except DownstreamError Url :=
  match base.extend? segments with
  | some url => .ok url
  | none => .error (.transport ("base URL cannot be a base: " ++ base.text))

/-- A request, as far as it can be built. -/
def request (base : Url) (method : Method) (segments : List String)
    (finish : Request → Except ClientError Request) : Except DownstreamError Request := do
  let url ← endpoint base segments
  ((Request.start method url).bind finish).mapError transport

/-- The value that describes a target to be created. -/
def creation (identifier : String) (tags : List String) : Value :=
  .object [("identifier", .text identifier), ("tags", .list (tags.map .text))]

/-- The value that describes a finding to be updated. -/
def overriding (update : FindingUpdate) (tag : String) : Value :=
  .object (("status", .text update.status) ::
    Event.notesMember update.notes ++ [("tag", .text tag)])

/-- The request of a call. -/
def requestOf (base : Url) : Call → Except DownstreamError Request
  | .createTarget identifier tags =>
      request base .post ["targets"] fun request =>
        .ok (request.withJson (creation identifier tags))
  | .deleteTag scope tag =>
      request base .delete ["tags", tag] fun request => request.authorize scope
  | .deleteTargetTag scope targetId tag =>
      request base .delete ["targets", targetId, "tags", tag] fun request =>
        request.authorize scope
  | .targets identifier =>
      request base .get ["targets"] fun request =>
        .ok (request.withPair "identifier" identifier)
  | .updateFinding findingId update tag =>
      request base .patch ["findings", findingId] fun request =>
        (request.authorize tag).map fun request =>
          request.withJson (overriding update tag)

/-- The text of a body; one that was cut short has none. -/
def bodyText (received : Received) : String :=
  if received.complete then Utf8.decodeLossy received.response.body else ""

/-- The failure that a response without success tells of. -/
def failureOf (received : Received) : DownstreamError :=
  match received.response.status with
  | 404 => .notFound
  | 403 => .forbidden
  | status => .status status (bodyText received)

/-- The record in the body of a response. -/
def decodeBody {α : Type} (record : Record α) (received : Received) :
    Except DownstreamError α :=
  let failure := transport .undecodableBody
  if received.complete then
    (record.decode received.response.body).mapError fun _ => failure
  else
    .error failure

/-- The targets that a lookup answers with; the list may be left out. -/
def targetsRecord : Record (List Target) where
  title := "TargetsResponse"
  fields := [.optional "targets" (Json.Reader.list Target.record.read) []]
  build := fun (targets, _) => targets

/-- What a call answers with on a response of success. -/
def answerOf : (call : Call) → Received → Except DownstreamError call.Answer
  | .createTarget .., received => decodeBody Target.record received
  | .deleteTag .., _ => .ok ()
  | .deleteTargetTag .., _ => .ok ()
  | .targets identifier, received =>
      (decodeBody targetsRecord received).map fun targets : List Target =>
        targets.filter fun target => target.identifier = identifier
  | .updateFinding .., _ => .ok ()

/-- What a response tells of a call. -/
def judge (call : Call) (received : Received) : Except DownstreamError call.Answer :=
  if Http.Status.isSuccess received.response.status then answerOf call received
  else .error (failureOf received)

/-- Makes a call on the server behind a base URL. -/
def serve (base : Url) (call : Call) : OnWeb (Except DownstreamError call.Answer) :=
  match requestOf base call with
  | .error error => return .error error
  | .ok request => do
      match ← Http.send request with
      | .error error => return .error (transport error)
      | .ok received => return judge call received

end Remote
end Downstream
end OutboxRelay
