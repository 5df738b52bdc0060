import OutboxRelay.Proofs.Config.Reading
import OutboxRelay.Proofs.Downstream.Sending

/-!
# Authorizations on the web

A call that is made in a scope carries the scope as an authorization.  The base URL may have a
name and a password, which stand for an authorization of their own.

**Rules.**
* Authorizations are added one behind the other; none replaces another.
* A redirection to the same server keeps all authorizations, and any other one drops them.

**Results.**
* `authorizations_eq_passedOn`: the authorizations along a row of redirections.
* `scoping_of_ofLookup`: the authorizations of all requests of a call.  The scope is the only one
  just when name and password of the base URL do not count.
* `twice_authorized`: a removal that carries two authorizations, of which the scope is the last.
-/

namespace OutboxRelay

/-- The host and the port that a URL leads to. -/
def Url.server (url : Url) : Option Host × Option Nat :=
  (url.host, url.effectivePort?)

namespace Http

/-- The authorizations among some fields. -/
def authorizations (fields : List Field) : List String :=
  (fields.filter fun field => field.name = "authorization").map Field.value

/-! ## Redirections -/

section Redirections

variable {request next : Request} {response : Response}

/-- Without the content type the authorizations are the same. -/
theorem authorizations_asGet (request : Request) :
    authorizations request.asGet.fields = authorizations request.fields := by
  simp only [authorizations, Request.asGet, List.filter_filter]
  refine congrArg (List.map Field.value) (List.filter_congr fun field _ => ?_)
  by_cases own : field.name = "authorization" <;> simp [own]

/-- The authorizations are passed on to the same server only. -/
theorem authorizations_redirectedTo (request : Request) (url : Url) :
    authorizations (request.redirectedTo url).fields =
      if url.server = request.url.server then authorizations request.fields else [] := by
  unfold Request.redirectedTo
  by_cases same : url.server = request.url.server
  · have parts := Prod.mk.inj same
    simp [same, parts]
  · have parts : ¬(url.host = request.url.host ∧
        url.effectivePort? = request.url.effectivePort?) :=
      fun both => same (Prod.ext both.1 both.2)
    simp [same, parts, authorizations]

theorem authorizations_of_nextRequest? (onward : nextRequest? request response = some next) :
    authorizations next.fields =
      if next.url.server = request.url.server then authorizations request.fields else [] := by
  obtain ⟨turned, url, redirects, rfl⟩ := exists_of_nextRequest? onward
  rw [authorizations_redirectedTo]
  obtain ⟨-, ⟨-, rfl⟩ | ⟨-, rfl⟩⟩ := redirection?_cases redirects
  · rw [authorizations_asGet]
    rfl
  · rfl

end Redirections

/-! ## Rows of requests -/

/-- The authorizations that are left of a request at the end of a row of exchanges. -/
def passedOn (request : Request) (row : List Exchange) : List String :=
  if ∀ each ∈ row, each.request.url.server = request.url.server then
    authorizations request.fields
  else []

theorem passedOn_singleton {request : Request} {exchange : Exchange}
    (own : exchange.request = request) :
    passedOn request [exchange] = authorizations request.fields :=
  if_pos (List.forall_mem_singleton.mpr (own ▸ rfl))

/-- What is left of a request behind a first redirection. -/
theorem passedOn_cons {request next : Request} {first : Exchange} {row : List Exchange}
    (own : first.request = request) (starts : ∃ each ∈ row, each.request = next)
    (passed : authorizations next.fields =
      if next.url.server = request.url.server then authorizations request.fields else []) :
    passedOn request (first :: row) = passedOn next row := by
  unfold passedOn
  rw [passed]
  by_cases shared : next.url.server = request.url.server
  · simp only [List.forall_mem_cons, own, true_and, shared, if_true]
  · obtain ⟨each, among, rfl⟩ := starts
    rw [if_neg shared, ite_self]
    exact if_neg fun all => shared (all each (List.mem_cons_of_mem _ among))

theorem eq_of_prefix_singleton {α : Type} {front : List α} {a b : α}
    (among : front ++ [a] <+: [b]) : front = [] ∧ a = b := by
  cases front with
  | nil => simpa using among
  | cons first front => simpa using among.length_le

namespace Pursues

variable {request : Request} {exchanges : List Exchange} {outcome : Except ClientError Received}

/-- The first request is the one that redirections start from. -/
theorem request_of_head? (pursues : Pursues request exchanges outcome) :
    ∀ exchange ∈ exchanges.head?, exchange.request = request := by
  cases pursues <;> simp [Exchange.request]

/--
The authorizations are those of the first request as long as no redirection has led to another
server.  From there on there are none.
-/
theorem authorizations_eq_passedOn (pursues : Pursues request exchanges outcome)
    {front : List Exchange} {exchange : Exchange} (among : front ++ [exchange] <+: exchanges) :
    authorizations exchange.request.fields = passedOn request (front ++ [exchange]) := by
  induction pursues generalizing front with
  | unsent request error => simp at among
  | unanswered request error =>
      obtain ⟨rfl, rfl⟩ := eq_of_prefix_singleton among
      exact (passedOn_singleton rfl).symm
  | answered settled =>
      obtain ⟨rfl, rfl⟩ := eq_of_prefix_singleton among
      exact (passedOn_singleton rfl).symm
  | @redirected request next received more outcome onward pursues ih =>
      cases front with
      | nil =>
          obtain rfl : exchange = ⟨request, some received⟩ := by simpa using among
          exact (passedOn_singleton rfl).symm
      | cons first front =>
          obtain ⟨rfl, later⟩ := List.cons_prefix_cons.mp among
          have starts : ∃ each ∈ front ++ [exchange], each.request = next := by
            obtain ⟨each, head_eq⟩ : ∃ each, (front ++ [exchange]).head? = some each := by
              cases front <;> exact ⟨_, rfl⟩
            have also : more.head? = some each := by
              obtain ⟨behind, rfl⟩ := later
              simpa using head_eq
            exact ⟨each, List.mem_of_mem_head? head_eq, pursues.request_of_head? each also⟩
          have own : Exchange.request ⟨request, some received⟩ = request := rfl
          have passed := authorizations_of_nextRequest? onward
          exact (ih later).trans (passedOn_cons own starts passed).symm

end Pursues

end Http

namespace Downstream
namespace Remote

open Http (Exchange Request authorizations credentials? isSendable passedOn)
open Program (Party)
open Url (IsWebScheme)

/-! ## Calls -/

/-- The request of a call has the authorization of its base, if there is one, and its scope. -/
theorem authorizations_complete (call : Call) (method : Http.Method) (url : Url) :
    authorizations (complete call (Request.liftUserInfo ⟨method, url, [], []⟩)).fields =
      (credentials? url).toList ++ (scopeOf? call).toList := by
  rw [Http.liftUserInfo_eq]
  cases credentials? url <;> cases call <;> rfl

/-- The request of a call leads to the server of its base. -/
theorem server_complete (call : Call) (method : Http.Method) (url : Url) :
    (complete call (Request.liftUserInfo ⟨method, url, [], []⟩)).url.server = url.server := by
  rw [Http.liftUserInfo_eq]
  cases credentials? url <;> cases call <;> rfl

/-- How the requests of a call behind a base URL are authorized. -/
structure Scoping (base : Url) (call : Call) (exchanges : List Exchange) : Prop where
  /-- The call is a request to the server of its base, and is sent if it can be sent at all. -/
  first : ∃ request, requestOf base call = .ok request ∧ request.url.server = base.server ∧
    exchanges.head?.map Exchange.request = if isSendable request.url then some request else none
  /-- The authorization of the base stands in front of the scope, until a redirection leads to
  another server; from there on there is none. -/
  authorizations_eq {front : List Exchange} {exchange : Exchange}
    (among : front ++ [exchange] <+: exchanges) :
    authorizations exchange.request.fields =
      if ∀ each ∈ front ++ [exchange], each.request.url.server = base.server then
        (credentials? base).toList ++ (scopeOf? call).toList
      else []
  /-- The scope is the one authorization just when name and password of the base do not count. -/
  alone_iff {scope : String} {front : List Exchange} {exchange : Exchange}
    (own : scopeOf? call = some scope) (among : front ++ [exchange] <+: exchanges)
    (stays : ∀ each ∈ front ++ [exchange], each.request.url.server = base.server) :
    authorizations exchange.request.fields = [scope] ↔ credentials? base = none

theorem scoping_of_requestOf {σ : Type} (web : Party Http.interface σ) {base : Url} {call : Call}
    {segments : List String} (rooted : base.path = .rooted segments)
    (hosted : base.hasHost = true) (suitable : IsSuitable call) (s : σ) :
    Scoping base call ((serve base call).converse web s).exchanges := by
  have built := requestOf_eq rooted hosted suitable
  have server_eq := server_complete call (methodOf call) (located base segments call)
  have authorizations_eq {front : List Exchange} {exchange : Exchange}
      (among : front ++ [exchange] <+: ((serve base call).converse web s).exchanges) :
      authorizations exchange.request.fields =
        if ∀ each ∈ front ++ [exchange], each.request.url.server = base.server then
          (credentials? base).toList ++ (scopeOf? call).toList
        else [] := by
    obtain ⟨error, refused, -⟩ | ⟨request, outcome, also, pursues, -⟩ :=
      serve_cases web base call s
    · rw [built] at refused
      cases refused
    · rw [built] at also
      cases also
      rw [pursues.authorizations_eq_passedOn among, passedOn, server_eq, authorizations_complete]
      rfl
  refine ⟨⟨_, built, server_eq, head?_exchanges_serve web built s⟩, authorizations_eq, ?_⟩
  intro scope front exchange own among stays
  rw [authorizations_eq among, if_pos stays, own]
  cases credentials? base <;> simp

end Remote
end Downstream

/-! ## Configured bases -/

/-- The base URL of a configuration was read from a text. -/
theorem Config.exists_parse_of_ofLookup {lookup : Config.Lookup} {config : Config}
    (read : Config.ofLookup lookup = .ok config) :
    ∃ text, Url.parse text = .ok config.downstreamUrl := by
  obtain ⟨text, -, url_read⟩ := (((judges_ofLookup lookup).ok_iff config).mp read).downstreamUrl
  exact ⟨text, url_read⟩

namespace Downstream
namespace Remote

open Http (authorizations Exchange)
open Program (Party)
open Url (IsWebScheme)

/--
The requests of a call in a suitable scope, behind a configured base URL of the web: until a
redirection leads to another server, each of them carries the authorization of the base, if it has
one, and the scope.
-/
theorem scoping_of_ofLookup {σ : Type} (web : Party Http.interface σ) {lookup : Config.Lookup}
    {config : Config} {call : Call} (read : Config.ofLookup lookup = .ok config)
    (on_web : IsWebScheme config.downstreamUrl.scheme) (suitable : IsSuitable call) (s : σ) :
    Scoping config.downstreamUrl call
      ((serve config.downstreamUrl call).converse web s).exchanges := by
  obtain ⟨text, url_read⟩ := Config.exists_parse_of_ofLookup read
  obtain ⟨segments, rooted⟩ := Url.exists_rooted_of_parse url_read on_web
  exact scoping_of_requestOf web rooted (Url.hasHost_of_parse url_read on_web) suitable s

/-! ## Examples -/

/-- The variables of a configuration with a base URL. -/
def environment (base : String) : Config.Lookup :=
  fun key => [("DATABASE_URL", "postgres://localhost/outbox"), ("VULNDB_URL", base)].lookup key

/-- A configuration with a base URL and defaults. -/
def configured (base : Url) : Config where
  databaseUrl := "postgres://localhost/outbox"
  listenAddress := Config.defaultAddress
  downstreamUrl := base
  downstreamTimeout := Config.defaultTimeout
  dispatch := Dispatch.Settings.default

/-- The base URL with a name and a password. -/
def guarded : Url :=
  { home with username := "user", password := some "pass" }

theorem ofLookup_guarded :
    Config.ofLookup (environment "http://user:pass@[::1]/api/v1/") = .ok (configured guarded) :=
  Json.eq_ok_of_toOption (by decide +kernel)

theorem ofLookup_home :
    Config.ofLookup (environment "http://[::1]/api/v1/") = .ok (configured home) :=
  Json.eq_ok_of_toOption (by decide +kernel)

/-- A web that sends a request on to the same server first, and then to another one. -/
def wandering : Http.Scripted :=
  ⟨[answer 307 (some "/"), answer 307 (some "http://[::2]/"), answer 204 none], true, []⟩

/-- The exchanges about the removal of a tag behind a base URL. -/
def removing (base : Url) : List Exchange :=
  ((serve base (.deleteTag "team" "tag")).converse scripted wandering).exchanges

/-- The authorizations of the requests of such a removal. -/
def removingAuthorizations (base : Url) : List (List String) :=
  (removing base).map fun exchange => authorizations exchange.request.fields

/-- Without a name and a password the scope goes alone, and to the server of the base only. -/
theorem scoping_of_home :
    Config.ofLookup (environment "http://[::1]/api/v1/") = .ok (configured home) ∧
      IsWebScheme home.scheme ∧ IsSuitable (.deleteTag "team" "tag") ∧
      Scoping home (.deleteTag "team" "tag") (removing home) ∧
      removingAuthorizations home = [["team"], ["team"], []] := by
  have on_web : IsWebScheme home.scheme := .inl rfl
  have suitable : IsSuitable (.deleteTag "team" "tag") := by decide +kernel
  exact ⟨ofLookup_home, on_web, suitable,
    scoping_of_ofLookup scripted ofLookup_home on_web suitable wandering, by decide +kernel⟩

/-- With a name and a password each request to the server of the base has two authorizations. -/
theorem twice_authorized :
    Config.ofLookup (environment "http://user:pass@[::1]/api/v1/") = .ok (configured guarded) ∧
      IsWebScheme guarded.scheme ∧ IsSuitable (.deleteTag "team" "tag") ∧
      removingAuthorizations guarded =
        [["Basic dXNlcjpwYXNz", "team"], ["Basic dXNlcjpwYXNz", "team"], []] :=
  ⟨ofLookup_guarded, .inl rfl, by decide +kernel, by decide +kernel⟩

end Remote
end Downstream
end OutboxRelay
