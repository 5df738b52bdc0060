import OutboxRelay.Proofs.Downstream.Acceptance

/-!
# The request of a call

Behind a base URL of the web a call is one request, to which the call adds what it is about: a
pair of the query, a body, or the scope that it is made in.

**Results.**
* `liftUserInfo_eq`: what becomes of the name and the password of a URL.
* `requestOf_eq`: the request of a call as a whole.
* `head?_exchanges_serve`: this request is the first one that is sent.
-/

namespace OutboxRelay

namespace Http

/-- The authorization that the name and the password of a URL stand for, if they count. -/
def credentials? (url : Url) : Option String :=
  (Percent.decode? url.username).bind fun name =>
    let password := url.password.bind Percent.decode?
    if name = "" ∧ password = none then none
    else some (Request.basicAuthorization name password)

/-- Name and password that count are moved to a field. -/
theorem liftUserInfo_eq (request : Request) :
    request.liftUserInfo =
      match credentials? request.url with
      | none => request
      | some value =>
          { request with url := request.url.withoutUserInfo }.addField "authorization" value := by
  unfold Request.liftUserInfo credentials?
  cases Percent.decode? request.url.username with
  | none => rfl
  | some name =>
      dsimp only [Option.bind_some]
      split <;> rfl

end Http

namespace Downstream
namespace Remote

open Http (Exchange Method Request isFieldChar isSendable)
open Program (Party)
open Url (extendBy withoutEmptyEnd)

/-! ## Parts of a call -/

/-- The scope that a call is made in, if there is one. -/
def scopeOf? : Call → Option String
  | .deleteTag scope _ => some scope
  | .deleteTargetTag scope _ _ => some scope
  | .updateFinding _ _ tag => some tag
  | .createTarget .. | .targets _ => none

/-- Whether the scope of a call may stand in a field. -/
def IsSuitable (call : Call) : Prop :=
  ∀ scope ∈ scopeOf? call, scope.toList.all isFieldChar

instance (call : Call) : Decidable (IsSuitable call) :=
  inferInstanceAs (Decidable (∀ scope ∈ scopeOf? call, _))

/-- The texts behind the base URL that a call leads to. -/
def textsOf : Call → List String
  | .createTarget .. => ["targets"]
  | .deleteTag _ tag => ["tags", tag]
  | .deleteTargetTag _ targetId tag => ["targets", targetId, "tags", tag]
  | .targets _ => ["targets"]
  | .updateFinding findingId .. => ["findings", findingId]

/-- What a call adds to a request that leads to the right place. -/
def complete : Call → Request → Request
  | .createTarget identifier tags, request => request.withJson (creation identifier tags)
  | .deleteTag scope _, request => request.addField "authorization" scope
  | .deleteTargetTag scope _ _, request => request.addField "authorization" scope
  | .targets identifier, request => request.withPair "identifier" identifier
  | .updateFinding _ update tag, request =>
      (request.addField "authorization" tag).withJson (overriding update tag)

/-- The URL that a call leads to, behind a base URL whose path has some segments. -/
def located (base : Url) (segments : List String) (call : Call) : Url :=
  { base with
    path := .rooted ((textsOf call).foldl (extendBy base.scheme) (withoutEmptyEnd segments)) }

/-! ## The request -/

section Requests

variable {base : Url} {segments : List String} {call : Call}

theorem authorize_eq_ok {request : Request} {scope : String}
    (suitable : scope.toList.all isFieldChar) :
    request.authorize scope = .ok (request.addField "authorization" scope) :=
  if_pos suitable

theorem start_eq_ok {method : Method} {url : Url} (hosted : url.hasHost = true) :
    Request.start method url = .ok (Request.liftUserInfo ⟨method, url, [], []⟩) :=
  if_pos hosted

/-- A request to some texts behind a base URL with a host is as its last step makes it. -/
theorem request_eq (rooted : base.path = .rooted segments) (hosted : base.hasHost = true)
    (method : Method) {texts : List String}
    {finish : Request → Except Http.ClientError Request} {finished : Request}
    (finishes : finish (Request.liftUserInfo ⟨method, { base with
      path := .rooted (texts.foldl (extendBy base.scheme) (withoutEmptyEnd segments)) }, [], []⟩) =
        .ok finished) :
    request base method texts finish = .ok finished := by
  rw [request, endpoint_eq rooted]
  change ((Request.start method _).bind finish).mapError transport = .ok finished
  rw [start_eq_ok (by exact hosted)]
  change (finish _).mapError transport = .ok finished
  rw [finishes]
  rfl

/-- A call in a suitable scope is a request, which is known as a whole. -/
theorem requestOf_eq (rooted : base.path = .rooted segments) (hosted : base.hasHost = true)
    (suitable : IsSuitable call) :
    requestOf base call =
      .ok (complete call (Request.liftUserInfo
        ⟨methodOf call, located base segments call, [], []⟩)) := by
  cases call with
  | createTarget identifier tags => exact request_eq rooted hosted .post rfl
  | targets identifier => exact request_eq rooted hosted .get rfl
  | deleteTag scope tag =>
      exact request_eq rooted hosted .delete (authorize_eq_ok (suitable scope rfl))
  | deleteTargetTag scope targetId tag =>
      exact request_eq rooted hosted .delete (authorize_eq_ok (suitable scope rfl))
  | updateFinding findingId update tag =>
      refine request_eq rooted hosted .patch ?_
      rw [authorize_eq_ok (suitable tag rfl)]
      rfl

/-- A call in a scope that is not suitable is no request. -/
theorem isSuitable_of_requestOf {request : Request} (built : requestOf base call = .ok request) :
    IsSuitable call := by
  have authorized (request authorized : Request) (scope : String)
      (h : request.authorize scope = .ok authorized) : scope.toList.all isFieldChar := by
    unfold Request.authorize at h
    split at h
    · assumption
    · cases h
  rintro scope named
  cases call with
  | createTarget => cases named
  | targets => cases named
  | deleteTag =>
      cases named
      obtain ⟨-, started, -, -, finish_eq⟩ := exists_start_of_request built
      exact authorized started request scope finish_eq
  | deleteTargetTag =>
      cases named
      obtain ⟨-, started, -, -, finish_eq⟩ := exists_start_of_request built
      exact authorized started request scope finish_eq
  | updateFinding =>
      cases named
      obtain ⟨-, started, -, -, finish_eq⟩ := exists_start_of_request built
      obtain ⟨between, authorize_eq, -⟩ := Json.exists_of_map finish_eq
      exact authorized started between scope authorize_eq

end Requests

/-! ## The first exchange -/

section Exchanges

variable {σ : Type} (web : Party Http.interface σ)

theorem head?_exchanges_send (request : Request) (s : σ) :
    ((Http.send request).converse web s).exchanges.head?.map Exchange.request =
      if isSendable request.url then some request else none := by
  unfold Http.send
  split
  · rw [Http.follow]
    rfl
  · rfl

/-- The request of a call is sent first, if it can be sent at all. -/
theorem head?_exchanges_serve {base : Url} {call : Call} {request : Request}
    (built : requestOf base call = .ok request) (s : σ) :
    ((serve base call).converse web s).exchanges.head?.map Exchange.request =
      if isSendable request.url then some request else none := by
  rw [serve_eq_of_requestOf base built, Program.converse_bind, Program.converse_done,
    Program.Conversation.followedBy_of_nil]
  exact head?_exchanges_send web request s

end Exchanges

end Remote
end Downstream
end OutboxRelay
