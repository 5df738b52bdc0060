import OutboxRelay.Http.Client
import OutboxRelay.Proofs.Conversation
import Mathlib.Tactic.Tauto

/-!
# Redirections

A client that follows redirections sends a row of requests, each in place of the one before.
What it reports is the answer to the last one.

**Rules.**
* A redirection keeps the method and the body of a request, or turns it into one that only
  gets.  Such a request is never turned back.

**Results.**
* `pursues_send`: the rows of requests that are sent, whatever the web answers.
* `Pursues.finalResponse?_eq`, `Pursues.not_isSuccess`: a response is reported just when it is
  the answer to the last request, and no other answer tells of success.
* `Pursues.accepted_iff`: a request that changes something was answered with success itself,
  and not in the guise of one that only gets, just when no answer turned it.
-/

namespace OutboxRelay
namespace Http

open Program (Party)

/-- A request with what came of it. -/
abbrev Exchange := Program.Exchange Http.interface

namespace Exchange

/-- The request of an exchange. -/
def request (exchange : Exchange) : Request := exchange.1

/-- The response in an exchange, if there was one. -/
def received? (exchange : Exchange) : Option Received := exchange.2

end Exchange

/-! ## One redirection -/

/-- Whether a status turns a request into one that only gets. -/
def TurnsToGet (method : Method) (status : Status) : Prop :=
  status = 303 ∧ method ≠ .get ∧ method ≠ .head ∨ (status = 301 ∨ status = 302) ∧ method = .post

instance (method : Method) (status : Status) : Decidable (TurnsToGet method status) :=
  inferInstanceAs (Decidable (_ ∨ _))

section Step

variable {request next : Request} {response : Response} {status : Status}

theorem redirection?_cases (redirects : redirection? request status = some next) :
    ¬ Status.isSuccess status ∧
      (TurnsToGet request.method status ∧ next = request.asGet ∨
        ¬ TurnsToGet request.method status ∧ next = request) := by
  unfold redirection? at redirects
  unfold TurnsToGet
  split at redirects
  case isTrue moved =>
    have refused : ¬ Status.isSuccess status := by
      rcases moved with rfl | rfl <;> decide
    cases redirects
    by_cases posts : request.method = .post
    · exact ⟨refused, .inl ⟨.inr ⟨moved, posts⟩, if_pos posts⟩⟩
    · have kept : ¬ status = 303 := by
        rcases moved with rfl | rfl <;> decide
      exact ⟨refused, .inr ⟨by simp [kept, posts], if_neg posts⟩⟩
  case isFalse unmoved =>
  split at redirects
  case isTrue see_other =>
    subst see_other
    cases redirects
    by_cases gets : request.method = .get ∨ request.method = .head
    · exact ⟨by decide, .inr ⟨by tauto, if_pos gets⟩⟩
    · exact ⟨by decide, .inl ⟨.inl ⟨rfl, by tauto⟩, if_neg gets⟩⟩
  case isFalse not_other =>
  split at redirects
  case isTrue kept =>
    cases redirects
    have refused : ¬ Status.isSuccess status := by
      rcases kept with rfl | rfl <;> decide
    exact ⟨refused, .inr ⟨by tauto, rfl⟩⟩
  case isFalse => cases redirects

theorem TurnsToGet.not_isSuccess {method : Method} (turns : TurnsToGet method status) :
    ¬ Status.isSuccess status := by
  rcases turns with ⟨rfl, -⟩ | ⟨rfl | rfl, -⟩ <;> decide

/-- A response redirects to the request that its status asks for, at another URL. -/
theorem exists_of_nextRequest? (onward : nextRequest? request response = some next) :
    ∃ turned url, redirection? request response.status = some turned ∧
      next = turned.redirectedTo url := by
  obtain ⟨turned, redirects, onward⟩ := Option.bind_eq_some_iff.mp onward
  obtain ⟨place, -, onward⟩ := Option.bind_eq_some_iff.mp onward
  obtain ⟨url, -, onward⟩ := Option.bind_eq_some_iff.mp onward
  exact ⟨turned, url, redirects, (Option.some.inj onward).symm⟩

theorem nextRequest?_cases (onward : nextRequest? request response = some next) :
    ¬ Status.isSuccess response.status ∧
      (TurnsToGet request.method response.status ∧ next.method = .get ∨
        ¬ TurnsToGet request.method response.status ∧ next.method = request.method ∧
          next.body = request.body) := by
  obtain ⟨turned, url, redirects, rfl⟩ := exists_of_nextRequest? onward
  obtain ⟨refused, ⟨turns, rfl⟩ | ⟨keeps, rfl⟩⟩ := redirection?_cases redirects
  · exact ⟨refused, .inl ⟨turns, rfl⟩⟩
  · exact ⟨refused, .inr ⟨keeps, rfl, rfl⟩⟩

end Step

/-! ## Rows of requests -/

/-- The exchanges of a request and of those that it is redirected to, with the outcome. -/
inductive Pursues : Request → List Exchange → Except ClientError Received → Prop
  | unsent (request : Request) (error : ClientError) : Pursues request [] (.error error)
  | unanswered (request : Request) (error : ClientError) :
      Pursues request [⟨request, none⟩] (.error error)
  | answered {request : Request} {received : Received}
      (settled : nextRequest? request received.response = none) :
      Pursues request [⟨request, some received⟩] (.ok received)
  | redirected {request next : Request} {received : Received} {more : List Exchange}
      {outcome : Except ClientError Received}
      (onward : nextRequest? request received.response = some next)
      (pursues : Pursues next more outcome) :
      Pursues request (⟨request, some received⟩ :: more) outcome

/-- The response to the last request, if it was answered. -/
def finalResponse? (exchanges : List Exchange) : Option Received :=
  exchanges.getLast?.bind Exchange.received?

/-- Whether a request with a method and a body was answered with success. -/
def Accepted (method : Method) (body : Bytes) (exchanges : List Exchange) : Prop :=
  ∃ exchange ∈ exchanges, exchange.request.method = method ∧ exchange.request.body = body ∧
    ∃ received ∈ exchange.received?, Status.isSuccess received.response.status

instance (method : Method) (body : Bytes) (exchanges : List Exchange) :
    Decidable (Accepted method body exchanges) :=
  inferInstanceAs (Decidable (∃ exchange ∈ exchanges, _ ∧ _))

/-- Whether an answer turns a request into one that only gets. -/
def Turned (method : Method) (exchange : Exchange) : Prop :=
  ∃ received ∈ exchange.received?, TurnsToGet method received.response.status

instance (method : Method) (exchange : Exchange) : Decidable (Turned method exchange) :=
  inferInstanceAs (Decidable (∃ received ∈ exchange.received?, _))

namespace Pursues

variable {request : Request} {exchanges : List Exchange} {outcome : Except ClientError Received}

/-- A request keeps its method or becomes one that only gets. -/
theorem method_cases (pursues : Pursues request exchanges outcome) :
    ∀ exchange ∈ exchanges,
      exchange.request.method = request.method ∨ exchange.request.method = .get := by
  induction pursues with
  | unsent request error => exact List.forall_mem_nil _
  | unanswered request error => exact List.forall_mem_singleton.mpr (.inl rfl)
  | answered settled => exact List.forall_mem_singleton.mpr (.inl rfl)
  | redirected onward pursues ih =>
      refine List.forall_mem_cons.mpr ⟨.inl rfl, fun exchange later => ?_⟩
      obtain ⟨-, ⟨-, got⟩ | ⟨-, kept, -⟩⟩ := nextRequest?_cases onward
      · exact .inr ((ih exchange later).elim (·.trans got) id)
      · exact (ih exchange later).imp_left (·.trans kept)

/-- A request that only gets stays one. -/
theorem method_eq_get (pursues : Pursues request exchanges outcome)
    (gets : request.method = .get) (exchange : Exchange) (among : exchange ∈ exchanges) :
    exchange.request.method = .get :=
  (pursues.method_cases exchange among).elim (·.trans gets) id

theorem finalResponse?_eq {received : Received}
    (pursues : Pursues request exchanges (.ok received)) :
    finalResponse? exchanges = some received := by
  generalize told : Except.ok received = outcome at pursues
  induction pursues with
  | unsent request error => cases told
  | unanswered request error => cases told
  | answered settled =>
      cases told
      rfl
  | redirected onward pursues ih =>
      cases pursues with
      | unsent => cases told
      | _ => exact ih told

/-- No answer that is not reported tells of success. -/
theorem not_isSuccess {error : ClientError} (pursues : Pursues request exchanges (.error error)) :
    ∀ exchange ∈ exchanges, ∀ received ∈ exchange.received?,
      ¬ Status.isSuccess received.response.status := by
  generalize told : Except.error error = outcome at pursues
  induction pursues with
  | unsent request error => exact List.forall_mem_nil _
  | unanswered request error => exact List.forall_mem_singleton.mpr nofun
  | answered settled => cases told
  | redirected onward pursues ih =>
      refine List.forall_mem_cons.mpr ⟨fun received same => ?_, ih told⟩
      cases same
      exact (nextRequest?_cases onward).1

/-- A request other than one that only gets was accepted just when no answer turned it. -/
theorem accepted_iff {received : Received} (pursues : Pursues request exchanges (.ok received))
    (succeeds : Status.isSuccess received.response.status) (changes : request.method ≠ .get) :
    Accepted request.method request.body exchanges ↔
      ∀ exchange ∈ exchanges, ¬ Turned request.method exchange := by
  generalize told : Except.ok received = outcome at pursues
  induction pursues with
  | unsent request error => cases told
  | unanswered request error => cases told
  | answered settled =>
      cases told
      refine iff_of_true ⟨_, List.mem_singleton_self _, rfl, rfl, received, rfl, succeeds⟩ ?_
      refine List.forall_mem_singleton.mpr ?_
      rintro ⟨received, same, turns⟩
      cases same
      exact turns.not_isSuccess succeeds
  | @redirected request next answer more outcome onward pursues ih =>
      obtain ⟨refused, ⟨turns, got⟩ | ⟨keeps, method_eq, body_eq⟩⟩ := nextRequest?_cases onward
      · refine iff_of_false ?_ fun unturned =>
          unturned _ List.mem_cons_self ⟨answer, rfl, turns⟩
        rintro ⟨exchange, among, own, -, received, same, success⟩
        rcases List.mem_cons.mp among with rfl | later
        · cases same
          exact refused success
        · exact changes (own.symm.trans (pursues.method_eq_get got exchange later))
      · have later := ih (method_eq ▸ changes) told
        rw [method_eq, body_eq] at later
        refine Iff.trans ?_ (later.trans ?_)
        · constructor
          · rintro ⟨exchange, among, own, full, received, same, success⟩
            rcases List.mem_cons.mp among with rfl | among
            · cases same
              exact absurd success refused
            · exact ⟨exchange, among, own, full, received, same, success⟩
          · rintro ⟨exchange, among, accepted⟩
            exact ⟨exchange, List.mem_cons_of_mem _ among, accepted⟩
        · rw [List.forall_mem_cons]
          refine (and_iff_right ?_).symm
          rintro ⟨received, same, turns⟩
          cases same
          exact keeps turns

end Pursues

section Conversations

variable {σ : Type} (web : Party Http.interface σ)

theorem pursues_of_exchange {request : Request} (s : σ)
    {next : Option Received → OnWeb (Except ClientError Received)}
    (pursues : ∀ reply s', Pursues request
      (⟨request, reply⟩ :: ((next reply).converse web s').exchanges)
      ((next reply).converse web s').result) :
    Pursues request ((exchange request >>= next).converse web s).exchanges
      ((exchange request >>= next).converse web s).result :=
  pursues _ _

theorem pursues_follow (first : Url) (hops : Nat) (request : Request) (s : σ) :
    Pursues request ((follow first hops request).converse web s).exchanges
      ((follow first hops request).converse web s).result := by
  induction hops using Nat.strongRecOn generalizing request s with
  | ind hops ih =>
      rw [follow]
      refine pursues_of_exchange web s fun reply s' => ?_
      cases reply with
      | none => exact .unanswered request _
      | some received =>
          dsimp only
          split
          case h_1 settled => exact .answered settled
          case h_2 next onward =>
            refine .redirected onward ?_
            cases hops with
            | zero => exact .unsent next _
            | succ hops =>
                dsimp only
                split
                · exact ih hops (Nat.lt_succ_self hops) next s'
                · exact .unsent next _

theorem pursues_send (request : Request) (s : σ) :
    Pursues request ((send request).converse web s).exchanges
      ((send request).converse web s).result := by
  unfold send
  split
  · exact pursues_follow web _ _ request s
  · exact .unsent request _

end Conversations

end Http
end OutboxRelay
