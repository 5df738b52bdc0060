import OutboxRelay.Downstream.Remote
import OutboxRelay.Proofs.Url.Web

/-!
# Resources behind identifiers

A call on a tag, on a tag of a target or on a finding is a request to the URL of that resource,
which has the identifiers as segments.

**Rules.**  An identifier may be any text.  A text is plain if it is no name for a place, which a
path would follow, and has no tab or line break, which a URL would drop.

**Results.**
* `addressing_of_parse`: behind a base URL of the web, the URL of a resource has a segment for
  each identifier just when all of them are plain.  Resources with plain identifiers never share
  a URL.
* `exists_collapsed`: what becomes of other identifiers.
-/

namespace OutboxRelay
namespace Downstream
namespace Remote

open Http (Request)
open Url (Addresses IsWebScheme addedSegment extendBy withoutEmptyEnd)

/-! ## Resources -/

/-- What calls lead to by identifiers. -/
inductive Resource
  | tag (name : String)
  | targetTag (targetId name : String)
  | finding (findingId : String)
  deriving DecidableEq, Repr

namespace Resource

/-- The texts behind a base URL that lead to a resource. -/
def texts : Resource → List String
  | .tag name => ["tags", name]
  | .targetTag targetId name => ["targets", targetId, "tags", name]
  | .finding findingId => ["findings", findingId]

/-- The resource that a call leads to, if it does so by identifiers. -/
def ofCall? : Call → Option Resource
  | .deleteTag _ name => some (.tag name)
  | .deleteTargetTag _ targetId name => some (.targetTag targetId name)
  | .updateFinding findingId _ _ => some (.finding findingId)
  | .createTarget .. | .targets _ => none

/-- Whether all texts that lead to a resource are plain. -/
def IsPlain (resource : Resource) : Prop :=
  ∀ text ∈ resource.texts, Url.IsPlain text

instance (resource : Resource) : Decidable resource.IsPlain :=
  inferInstanceAs (Decidable (∀ text ∈ resource.texts, Url.IsPlain text))

/-- The collection in front of the identifiers is named by a plain text. -/
theorem exists_texts (resource : Resource) :
    ∃ first rest, resource.texts = first :: rest ∧ Url.IsPlain first ∧ first ≠ "" := by
  cases resource <;> exact ⟨_, _, rfl, by decide, by decide⟩

theorem texts_injective {resource other : Resource} (same : resource.texts = other.texts) :
    resource = other := by
  cases resource <;> cases other <;> simp_all [texts]

end Resource

/-! ## URLs of resources -/

/-- How resources are found behind a base URL whose path has some segments. -/
structure Addressing (base : Url) (segments : List String) : Prop where
  rooted : base.path = .rooted segments
  /-- Each resource has a URL, which differs from the base in its path only.  It has a segment for
  each identifier just when these are plain and the base does not end in two slashes alone. -/
  located (resource : Resource) :
    ∃ path, endpoint base resource.texts = .ok { base with path := .rooted path } ∧
      (Addresses segments resource.texts path ↔ segments ≠ ["", ""] ∧ resource.IsPlain)
  /-- A call on a resource, as far as it can be built, is a request to that path. -/
  requested {call : Call} {resource : Resource} {request : Request}
    (leads : Resource.ofCall? call = some resource) (built : requestOf base call = .ok request) :
    ∃ url, endpoint base resource.texts = .ok url ∧ request.url.path = url.path
  /-- Resources with plain identifiers do not share a URL. -/
  distinct {resource other : Resource} {url other_url : Url} (plain : resource.IsPlain)
    (other_plain : other.IsPlain) (found : endpoint base resource.texts = .ok url)
    (other_found : endpoint base other.texts = .ok other_url)
    (same : url.text = other_url.text) : resource = other

section Endpoints

variable {base : Url} {segments : List String} {resource other : Resource}

theorem endpoint_eq (rooted : base.path = .rooted segments) (texts : List String) :
    endpoint base texts = .ok { base with
      path := .rooted (texts.foldl (extendBy base.scheme) (withoutEmptyEnd segments)) } := by
  simp [endpoint, Url.extend?, rooted]

theorem path_liftUserInfo (request : Request) :
    request.liftUserInfo.url.path = request.url.path := by
  unfold Request.liftUserInfo
  split
  · rfl
  · dsimp only
    split <;> rfl

theorem url_authorize {request authorized : Request} {value : String}
    (h : request.authorize value = .ok authorized) : authorized.url = request.url := by
  unfold Request.authorize at h
  split at h
  · cases h
    rfl
  · cases h

/-- A request is built in three steps. -/
theorem exists_start_of_request {method : Http.Method} {texts : List String}
    {finish : Request → Except Http.ClientError Request} {built : Request}
    (h : request base method texts finish = .ok built) :
    ∃ url started, endpoint base texts = .ok url ∧ Request.start method url = .ok started ∧
      finish started = .ok built := by
  obtain ⟨url, found, h⟩ := Json.exists_ok_of_bind h
  obtain ⟨started, start_eq, finish_eq⟩ := Json.exists_ok_of_bind (Json.eq_ok_of_mapError h)
  exact ⟨url, started, found, start_eq, finish_eq⟩

theorem eq_of_start {method : Http.Method} {url : Url} {started : Request}
    (h : Request.start method url = .ok started) :
    started = Request.liftUserInfo ⟨method, url, [], []⟩ := by
  unfold Request.start at h
  split at h
  · exact (Except.ok.inj h).symm
  · cases h

/-- A request that is built leads where it was to lead, with name and password moved. -/
theorem exists_of_request {method : Http.Method} {texts : List String}
    {finish : Request → Except Http.ClientError Request} {built : Request}
    (keeps : ∀ request finished, finish request = .ok finished → finished.url = request.url)
    (h : request base method texts finish = .ok built) :
    ∃ url, endpoint base texts = .ok url ∧ built.url.path = url.path := by
  obtain ⟨url, started, found, start_eq, finish_eq⟩ := exists_start_of_request h
  refine ⟨url, found, ?_⟩
  rw [keeps started built finish_eq, eq_of_start start_eq]
  exact path_liftUserInfo _

/-- A call on a resource leads to the URL of that resource. -/
theorem exists_of_requestOf {call : Call} {built : Request}
    (leads : Resource.ofCall? call = some resource) (h : requestOf base call = .ok built) :
    ∃ url, endpoint base resource.texts = .ok url ∧ built.url.path = url.path := by
  cases call with
  | createTarget => cases leads
  | targets => cases leads
  | deleteTag =>
      cases leads
      exact exists_of_request (fun _ _ => url_authorize) h
  | deleteTargetTag =>
      cases leads
      exact exists_of_request (fun _ _ => url_authorize) h
  | updateFinding =>
      cases leads
      refine exists_of_request (fun request finished finish_eq => ?_) h
      obtain ⟨authorized, authorize_eq, rfl⟩ := Json.exists_of_map finish_eq
      have url_eq := url_authorize authorize_eq
      exact url_eq

/-- The path of a resource with plain identifiers, by the segments that these add. -/
theorem endpoint_of_isPlain (rooted : base.path = .rooted segments) (plain : resource.IsPlain) :
    endpoint base resource.texts = .ok { base with
      path := .rooted (Url.front segments ++ resource.texts.map (addedSegment base.scheme)) } := by
  obtain ⟨first, rest, texts_eq, -, named⟩ := resource.exists_texts
  have all_plain : ∀ text ∈ first :: rest, Url.IsPlain text := texts_eq ▸ plain
  rw [endpoint_eq rooted, texts_eq, Url.foldl_withoutEmptyEnd base.scheme segments named all_plain]

/-- Resources with plain identifiers do not share a URL. -/
theorem eq_of_endpoint_text_eq (rooted : base.path = .rooted segments) {url other_url : Url}
    (plain : resource.IsPlain) (other_plain : other.IsPlain)
    (found : endpoint base resource.texts = .ok url)
    (other_found : endpoint base other.texts = .ok other_url)
    (same : url.text = other_url.text) : resource = other := by
  have whole (texts : List String) :
      ∀ segment ∈ texts.map (addedSegment base.scheme), '/' ∉ segment.toList := by
    intro segment among slash
    obtain ⟨text, -, rfl⟩ := List.mem_map.mp among
    exact Url.separators_addedSegment base.scheme text '/' slash (by decide)
  rw [endpoint_of_isPlain rooted plain] at found
  rw [endpoint_of_isPlain rooted other_plain] at other_found
  cases found
  cases other_found
  have segments_eq := Url.eq_of_text_eq (whole _) (whole _) same
  exact Resource.texts_injective
    (Url.eq_of_map_addedSegment_eq base.scheme plain other_plain segments_eq)

/--
Behind a base URL of the web, the URL of a resource has a segment for each identifier just when
all of them are plain, and resources with plain identifiers do not share a URL.
-/
theorem addressing_of_parse {text : String} (read : Url.parse text = .ok base)
    (web : IsWebScheme base.scheme) : ∃ segments, Addressing base segments := by
  obtain ⟨segments, rooted⟩ := Url.exists_rooted_of_parse read web
  refine ⟨segments, rooted, fun resource => ⟨_, endpoint_eq rooted resource.texts, ?_⟩,
    exists_of_requestOf, eq_of_endpoint_text_eq rooted⟩
  obtain ⟨first, rest, texts_eq, plain, named⟩ := resource.exists_texts
  rw [Resource.IsPlain, texts_eq]
  exact Url.addresses_iff base.scheme segments plain named rest

end Endpoints

/-! ## Examples -/

/-- A base URL that ends in a slash. -/
def home : Url where
  scheme := "http"
  username := ""
  password := none
  host := some (.v6 ⟨1⟩)
  port := none
  isFenced := false
  path := .rooted ["api", "v1", ""]
  query := none
  fragment := none

theorem parse_home : Url.parse "http://[::1]/api/v1/" = .ok home :=
  Json.eq_ok_of_toOption (by decide +kernel)

theorem addressing_of_home :
    Url.parse "http://[::1]/api/v1/" = .ok home ∧ IsWebScheme home.scheme ∧
      ∃ segments, Addressing home segments :=
  ⟨parse_home, .inl rfl, addressing_of_parse parse_home (.inl rfl)⟩

/--
Tags that are not plain share a URL with others, or lead to the collection of all tags, or to the
base itself.
-/
theorem exists_collapsed :
    Url.parse "http://[::1]/api/v1/" = .ok home ∧
      endpoint home (Resource.tag "a\tb").texts = endpoint home (Resource.tag "ab").texts ∧
      endpoint home (Resource.tag "..").texts =
        .ok { home with path := .rooted ["api", "v1", "tags"] } ∧
      ¬Addresses ["api", "v1", ""] (Resource.tag "..").texts ["api", "v1", "tags"] ∧
      endpoint home (Resource.tag ".\t.").texts = .ok home ∧
      ¬Addresses ["api", "v1", ""] (Resource.tag ".\t.").texts ["api", "v1", ""] := by
  refine ⟨parse_home, rfl, Json.eq_ok_of_toOption (by decide +kernel), fun short => ?_,
    Json.eq_ok_of_toOption (by decide +kernel), fun short => ?_⟩
  · exact absurd short.length_eq (by decide)
  · exact absurd short.length_eq (by decide)

end Remote
end Downstream
end OutboxRelay
