import OutboxRelay.Http.Scripted
import OutboxRelay.Proofs.Downstream.Endpoint
import OutboxRelay.Proofs.Http.Redirection
import OutboxRelay.Proofs.Replay.Conduct

/-!
# Mutations that are reported as done

A call on the vulnerability database is one request, and it succeeds if the answer tells of
success.  When the server redirects, this is the answer to the last request, which need not
be the request of the call any more.

**Results.**
* `own_of_requestOf`: the method and the body of the request of each call.
* `serve_cases`: the requests that a call sends, and what it makes of the answer.
* `reported_of_serve`: a mutation that is reported as done was accepted by the server just
  when no answer turned it into a request that only gets.
* `unaccepted_of_see_other`: a mutation that is reported as done although the server never
  accepted it.
-/

namespace OutboxRelay
namespace Downstream
namespace Remote

open Http (Accepted Exchange Method OnWeb Pursues Received Request Turned finalResponse?)
open Program (Conversation Party)

/-! ## Requests of calls -/

/-- The method of the request of a call. -/
def methodOf : Call → Method
  | .createTarget .. => .post
  | .deleteTag .. => .delete
  | .deleteTargetTag .. => .delete
  | .targets _ => .get
  | .updateFinding .. => .patch

/-- The body of the request of a call. -/
def bodyOf : Call → Bytes
  | .createTarget identifier tags => (creation identifier tags).encode
  | .updateFinding _ update tag => (overriding update tag).encode
  | .deleteTag .. | .deleteTargetTag .. | .targets _ => []

section Requests

variable {base : Url}

theorem own_of_start {method : Method} {url : Url} {started : Request}
    (h : Request.start method url = .ok started) :
    started.method = method ∧ started.body = [] := by
  rw [eq_of_start h]
  unfold Request.liftUserInfo
  split
  · exact ⟨rfl, rfl⟩
  · dsimp only
    split <;> exact ⟨rfl, rfl⟩

theorem own_of_authorize {request authorized : Request} {value : String}
    (h : request.authorize value = .ok authorized) :
    authorized.method = request.method ∧ authorized.body = request.body := by
  unfold Request.authorize at h
  split at h
  · cases h
    exact ⟨rfl, rfl⟩
  · cases h

theorem own_of_withJson (request : Request) (value : Json.Value) :
    (request.withJson value).method = request.method ∧
      (request.withJson value).body = value.encode :=
  ⟨rfl, rfl⟩

/-- A request whose last step keeps the method and gives it a body. -/
theorem own_of_request {method : Method} {texts : List String} {body : Bytes}
    {finish : Request → Except Http.ClientError Request} {built : Request}
    (keeps : ∀ request finished, finish request = .ok finished → request.body = [] →
      finished.method = request.method ∧ finished.body = body)
    (h : request base method texts finish = .ok built) :
    built.method = method ∧ built.body = body := by
  obtain ⟨url, started, -, start_eq, finish_eq⟩ := exists_start_of_request h
  obtain ⟨method_eq, unfilled⟩ := own_of_start start_eq
  obtain ⟨kept, filled⟩ := keeps started built finish_eq unfilled
  exact ⟨kept.trans method_eq, filled⟩

/-- A call is made by a request of its own method and with its own body. -/
theorem own_of_requestOf {call : Call} {built : Request} (h : requestOf base call = .ok built) :
    built.method = methodOf call ∧ built.body = bodyOf call := by
  have authorized_keeps (scope : String) (request finished : Request)
      (finish_eq : request.authorize scope = .ok finished) (unfilled : request.body = []) :
      finished.method = request.method ∧ finished.body = [] := by
    obtain ⟨method_eq, body_eq⟩ := own_of_authorize finish_eq
    exact ⟨method_eq, body_eq.trans unfilled⟩
  cases call with
  | createTarget identifier tags =>
      rw [bodyOf, methodOf]
      refine own_of_request (fun request finished finish_eq _ => ?_) h
      rw [← Except.ok.inj finish_eq]
      exact own_of_withJson request _
  | targets identifier =>
      refine own_of_request (fun request finished finish_eq unfilled => ?_) h
      rw [← Except.ok.inj finish_eq]
      exact ⟨rfl, unfilled⟩
  | deleteTag scope tag => exact own_of_request (authorized_keeps scope) h
  | deleteTargetTag scope targetId tag => exact own_of_request (authorized_keeps scope) h
  | updateFinding findingId update tag =>
      refine own_of_request (fun request finished finish_eq _ => ?_) h
      obtain ⟨authorized, authorize_eq, rfl⟩ := Json.exists_of_map finish_eq
      obtain ⟨method_eq, body_eq⟩ := own_of_withJson authorized (overriding update tag)
      exact ⟨method_eq.trans (own_of_authorize authorize_eq).1, body_eq⟩

theorem methodOf_ne_get {call : Call} (mutation : call.IsMutation) : methodOf call ≠ .get := by
  cases call with
  | targets identifier => exact mutation.elim
  | _ => nofun

end Requests

/-! ## Calls on a server -/

section Calls

variable {σ : Type} (web : Party Http.interface σ) (base : Url)

/-- What a call makes of the outcome of its request. -/
def conclude (call : Call) : Except Http.ClientError Received → Except DownstreamError call.Answer
  | .error error => .error (transport error)
  | .ok received => judge call received

theorem serve_eq_of_requestOf {call : Call} {request : Request}
    (built : requestOf base call = .ok request) :
    serve base call = (Http.send request).bind fun outcome => .done (conclude call outcome) := by
  rw [serve, built]
  refine congrArg (Program.bind (Http.send request)) (funext fun outcome => ?_)
  cases outcome <;> rfl

/-- A call that cannot be a request sends nothing.  Any other one is told by what came of it. -/
theorem serve_cases (call : Call) (s : σ) :
    (∃ error, requestOf base call = .error error ∧
      (serve base call).converse web s = ⟨.error error, [], s⟩) ∨
    ∃ request outcome, requestOf base call = .ok request ∧
      Pursues request ((serve base call).converse web s).exchanges outcome ∧
      ((serve base call).converse web s).result = conclude call outcome := by
  cases built : requestOf base call with
  | error error =>
      refine .inl ⟨error, rfl, ?_⟩
      rw [serve, built]
      rfl
  | ok request =>
      refine .inr ⟨request, ((Http.send request).converse web s).result, rfl, ?_⟩
      rw [serve_eq_of_requestOf base built, Program.converse_bind, Program.converse_done,
        Conversation.followedBy_of_nil]
      exact ⟨Http.pursues_send web request s, rfl⟩

/-- A call sends nothing but requests of its own method and such that only get. -/
theorem method_of_serve (call : Call) (s : σ) {exchange : Exchange}
    (among : exchange ∈ ((serve base call).converse web s).exchanges) :
    exchange.request.method = methodOf call ∨ exchange.request.method = .get := by
  obtain ⟨error, -, told⟩ | ⟨request, outcome, built, pursues, -⟩ := serve_cases web base call s
  · rw [told] at among
    cases among
  · rw [← (own_of_requestOf built).1]
    exact pursues.method_cases exchange among

end Calls

/-! ## Mutations -/

/-- What holds of the exchanges of a mutation that is reported as done. -/
structure Reported (call : Call) (exchanges : List Exchange) : Prop where
  succeeded : ∃ received, finalResponse? exchanges = some received ∧
    Http.Status.isSuccess received.response.status
  /-- The server accepted the mutation, with its method and its body, just when no answer turned
  it into a request that only gets. -/
  accepted_iff : Accepted (methodOf call) (bodyOf call) exchanges ↔
    ∀ exchange ∈ exchanges, ¬ Turned (methodOf call) exchange

theorem isSuccess_of_judge {call : Call} {received : Received} {answer : call.Answer}
    (told : judge call received = .ok answer) :
    Http.Status.isSuccess received.response.status := by
  unfold judge at told
  split at told
  case isTrue succeeds => exact succeeds
  case isFalse => cases told

/-- A response with a status alone, and perhaps a place to go to. -/
def answer (status : Http.Status) (place : Option String) : Http.Reaction :=
  .respond ⟨⟨status, (place.map fun text => ⟨"location", text⟩).toList, []⟩, true⟩

/-- The web that answers each request from a script. -/
def scripted : Party Http.interface Http.Scripted :=
  fun request web => web.serve request

/-- A web that sends a request on with some status, and answers the next one with success. -/
def sendingOn (status : Http.Status) : Http.Scripted :=
  ⟨[answer status (some "/"), answer 204 none], true, []⟩

/-- The conversation about the removal of a tag on such a web. -/
def removal (status : Http.Status) :
    Conversation Http.interface (Except DownstreamError Unit) Http.Scripted :=
  (serve home (.deleteTag "team" "team")).converse scripted (sendingOn status)

/--
A mutation that is reported as done was accepted by the server, unless an answer turned it into
a request that only gets.
-/
theorem reported_of_serve {σ : Type} (web : Party Http.interface σ) (base : Url) (s : σ)
    {call : Call} {answer : call.Answer} (mutation : call.IsMutation)
    (done : ((serve base call).converse web s).result = .ok answer) :
    Reported call ((serve base call).converse web s).exchanges := by
  obtain ⟨error, -, told⟩ | ⟨request, outcome, built, pursues, told⟩ :=
    serve_cases web base call s
  · rw [told] at done
    cases done
  · obtain ⟨method_eq, body_eq⟩ := own_of_requestOf built
    rw [told] at done
    cases outcome with
    | error error => cases done
    | ok received =>
        have succeeds := isSuccess_of_judge done
        refine ⟨⟨received, pursues.finalResponse?_eq, succeeds⟩, ?_⟩
        rw [← method_eq, ← body_eq]
        exact pursues.accepted_iff succeeds (method_eq ▸ methodOf_ne_get mutation)

/-- A temporary redirection keeps the request, which is accepted at its second place. -/
theorem reported_of_removal :
    (Call.deleteTag "team" "team").IsMutation ∧ (removal 307).result = .ok () ∧
      Reported (.deleteTag "team" "team") (removal 307).exchanges ∧
      Accepted .delete [] (removal 307).exchanges ∧ (removal 307).exchanges.length = 2 := by
  have mutation : (Call.deleteTag "team" "team").IsMutation := trivial
  have done : (removal 307).result = .ok () := Json.eq_ok_of_toOption (by decide +kernel)
  exact ⟨mutation, done, reported_of_serve scripted home (sendingOn 307) mutation done,
    by decide +kernel, by decide +kernel⟩

/--
A removal that is sent on to be seen elsewhere ends in a request that only gets.  Its success is
that of the removal, which the server never accepted.
-/
theorem unaccepted_of_see_other :
    (Call.deleteTag "team" "team").IsMutation ∧ (removal 303).result = .ok () ∧
      ¬ Accepted (methodOf (.deleteTag "team" "team")) (bodyOf (.deleteTag "team" "team"))
        (removal 303).exchanges ∧
      ((removal 303).exchanges.map fun exchange : Exchange => exchange.request.method) =
        [.delete, .get] :=
  ⟨trivial, Json.eq_ok_of_toOption (by decide +kernel), by decide +kernel, by decide +kernel⟩

end Remote
end Downstream
end OutboxRelay
