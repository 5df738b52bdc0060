import OutboxRelay.Proofs.Downstream.Sending
import OutboxRelay.Proofs.Json.Normal
import OutboxRelay.Proofs.Replay.Removal
import OutboxRelay.Proofs.Text.Form

/-!
# Arguments on the web

The arguments of a call travel in the query of its request, as a form, or in its body, as the text
of an object.  A server reads them back as they were.

**Results.**
* `describes_object`: what a server reads of an object of texts.
* `carried_of_parse`: what a server reads of the request of any call, and that the lookup of an
  asset and its creation name the same identifier.
-/

namespace OutboxRelay

namespace Json

/-! ## Bodies -/

/-- A body is the text of an object with some members, and is read as the object of these. -/
structure Describes (body : Bytes) (members : List (String × Value)) : Prop where
  written : ∃ trees, (Tree.object trees).language body ∧
    memberValues? (Tree.value? (depthLimit - 1)) trees = some members
  read : Reader.decode (Reader.value depthLimit) body = .ok (.ofMembers members)

/-- Whether a value is the one that its own tree denotes. -/
def Value.IsTold (depth : Nat) (value : Value) : Prop :=
  value.tree.value? depth = some value

theorem isTold_text (depth : Nat) (text : String) : (Value.text text).IsTold depth := by
  rw [Value.IsTold, Value.tree, Tree.value?_text, Quotation.text?_ofString]
  rfl

theorem isTold_list {depth : Nat} {items : List Value} (told : ∀ item ∈ items, item.IsTold depth) :
    (Value.list items).IsTold (depth + 1) := by
  have values : itemValues? (Tree.value? depth) (Value.itemTrees items) = some items := by
    induction items with
    | nil => rfl
    | cons item items ih =>
        obtain ⟨first, others⟩ := List.forall_mem_cons.mp told
        rw [Value.itemTrees, itemValues?, first, ih others]
        rfl
  rw [Value.IsTold, Value.tree, Tree.value?, values]
  rfl

theorem memberValues?_memberTrees {depth : Nat} {members : List (String × Value)}
    (told : ∀ member ∈ members, member.2.IsTold depth) :
    memberValues? (Tree.value? depth) (Value.memberTrees members) = some members := by
  induction members with
  | nil => rfl
  | cons member members ih =>
      obtain ⟨first, others⟩ := List.forall_mem_cons.mp told
      rw [Value.memberTrees, memberValues?, Quotation.text?_ofString, first, ih others]
      rfl

/-- An object of values that are told by their trees is read as it is printed. -/
theorem describes_object (members : List (String × Value))
    (told : ∀ member ∈ members, member.2.IsTold (depthLimit - 1))
    (floatless : (Value.object members).floats = []) :
    Describes (Value.object members).encode members := by
  have language := (Value.object members).language_tree (by simp [floatless])
  have values := memberValues?_memberTrees told
  refine ⟨⟨_, language, values⟩, eq_ok_of_toOption ?_⟩
  have denoted := (denotes_value depthLimit _ _ language [] Blank.nil [] Blank.nil.stops).decode
    Blank.nil
  rw [List.nil_append, List.append_nil] at denoted
  exact denoted.trans (congrArg (Option.map Value.ofMembers) values)

end Json

namespace Downstream
namespace Remote

open Http (Exchange Request isSendable)
open Json (Describes Value)
open Program (Conversation Party)
open Replay (Removes converseOver createAsset deleteAsset exchanges_createAsset removes_deleteAsset)
open Url (IsWebScheme)

/-! ## Requests of calls -/

/-- What a server behind a base URL reads of the request of a call. -/
def Tells (base : Url) : Call → Request → Prop
  | .createTarget identifier tags, request =>
      request.url.pairs = base.pairs ∧
        Describes request.body
          [("identifier", .text identifier), ("tags", .list (tags.map .text))]
  | .deleteTag .., request => request.url.pairs = base.pairs ∧ request.body = []
  | .deleteTargetTag .., request => request.url.pairs = base.pairs ∧ request.body = []
  | .targets identifier, request =>
      request.url.pairs = base.pairs ++ [("identifier", identifier)] ∧ request.body = []
  | .updateFinding _ update tag, request =>
      request.url.pairs = base.pairs ∧
        Describes request.body (("status", .text update.status) ::
          (update.notes.map fun notes => ("notes", Value.text notes)).toList ++
            [("tag", .text tag)])

theorem describes_creation (identifier : String) (tags : List String) :
    Describes (creation identifier tags).encode
      [("identifier", .text identifier), ("tags", .list (tags.map .text))] := by
  refine Json.describes_object _ ?_ ?_
  · have each : ∀ tag ∈ tags.map Value.text, tag.IsTold (Json.depthLimit - 2) := by
      intro tag among
      obtain ⟨text, -, rfl⟩ := List.mem_map.mp among
      exact Json.isTold_text _ text
    simp only [List.forall_mem_cons]
    exact ⟨Json.isTold_text _ identifier, Json.isTold_list each, List.forall_mem_nil _⟩
  · have floatless : Value.itemFloats (tags.map Value.text) = [] := by
      induction tags with
      | nil => rfl
      | cons tag tags ih => exact ih
    simp [Value.floats, Value.memberFloats, floatless]

theorem describes_overriding (update : FindingUpdate) (tag : String) :
    Describes (overriding update tag).encode (("status", .text update.status) ::
      (update.notes.map fun notes => ("notes", Value.text notes)).toList ++
        [("tag", .text tag)]) := by
  obtain ⟨status, notes⟩ := update
  cases notes with
  | none =>
      refine Json.describes_object [("status", .text status), ("tag", .text tag)] ?_ rfl
      simp [Json.isTold_text]
  | some notes =>
      refine Json.describes_object
        [("status", .text status), ("notes", .text notes), ("tag", .text tag)] ?_ rfl
      simp [Json.isTold_text]

/-- A server reads the arguments of a call of its request. -/
theorem tells_complete (call : Call) {base : Url} {request : Request}
    (same : request.url.pairs = base.pairs) (unfilled : request.body = []) :
    Tells base call (complete call request) := by
  cases call with
  | createTarget identifier tags =>
      have body_eq := (own_of_withJson request (creation identifier tags)).2
      exact ⟨same, body_eq ▸ describes_creation identifier tags⟩
  | deleteTag => exact ⟨same, unfilled⟩
  | deleteTargetTag => exact ⟨same, unfilled⟩
  | targets identifier =>
      exact ⟨(Url.pairs_withPair request.url _ _).trans (congrArg (· ++ _) same), unfilled⟩
  | updateFinding findingId update tag =>
      have body_eq :=
        (own_of_withJson (request.addField "authorization" tag) (overriding update tag)).2
      exact ⟨same, body_eq ▸ describes_overriding update tag⟩

/-- A request without its name and password leads to the same pairs, and has the same body. -/
theorem pairs_liftUserInfo (request : Request) :
    request.liftUserInfo.url.pairs = request.url.pairs ∧
      request.liftUserInfo.body = request.body := by
  rw [Http.liftUserInfo_eq]
  split <;> exact ⟨rfl, rfl⟩

/-! ## Calls on a server -/

/-- How the arguments of a call are carried behind a base URL. -/
structure Carried (base : Url) (call : Call) (exchanges : List Exchange) : Prop where
  /-- A call in a suitable scope is a request that tells its arguments, and is sent first if it
  can be sent at all. -/
  sent : IsSuitable call → ∃ request, requestOf base call = .ok request ∧ Tells base call request ∧
    exchanges.head?.map Exchange.request = if isSendable request.url then some request else none
  unsent : ¬ IsSuitable call → exchanges = []

section Calls

variable {σ : Type} (web : Party Http.interface σ) {base : Url} {segments : List String}

theorem carried_of_rooted (rooted : base.path = .rooted segments) (hosted : base.hasHost = true)
    (call : Call) (s : σ) : Carried base call ((serve base call).converse web s).exchanges := by
  constructor
  · intro suitable
    have built := requestOf_eq rooted hosted suitable
    obtain ⟨pairs_eq, body_eq⟩ :=
      pairs_liftUserInfo ⟨methodOf call, located base segments call, [], []⟩
    exact ⟨_, built, tells_complete call pairs_eq body_eq, head?_exchanges_serve web built s⟩
  · intro unsuitable
    obtain ⟨error, -, told⟩ | ⟨request, outcome, built, -⟩ := serve_cases web base call s
    · rw [told]
    · exact absurd (isSuitable_of_requestOf built) unsuitable

/-- The first request that is sent tells the arguments of its call. -/
theorem Carried.tells_of_head? {call : Call} {exchanges : List Exchange}
    (carried : Carried base call exchanges) :
    ∀ exchange ∈ exchanges.head?, Tells base call exchange.request := by
  intro exchange first
  by_cases suitable : IsSuitable call
  · obtain ⟨request, -, tells, sent⟩ := carried.sent suitable
    rw [first, Option.map_some] at sent
    split at sent
    · exact Option.some.inj sent ▸ tells
    · cases sent
  · rw [carried.unsent suitable] at first
    cases first

end Calls

/-! ## Assets -/

/-- Whether a removal of an asset and its creation, if they send anything, name its identifier
first of all. -/
structure Identified (base : Url) (asset : Asset) (removal creation : List Exchange) : Prop where
  looked : ∀ exchange ∈ removal.head?,
    exchange.request.url.pairs = base.pairs ++ [("identifier", asset.identifier)]
  created : ∀ exchange ∈ creation.head?, Describes exchange.request.body
    [("identifier", .text asset.identifier), ("tags", .list [.text asset.team.tag])]

section Assets

variable {σ : Type} (web : Party Http.interface σ) {base : Url}

/-- A removal starts with its lookup, and sends nothing if the lookup sends nothing. -/
theorem head?_of_removes {asset : Asset}
    {found : Conversation Http.interface (Except DownstreamError (List Target)) σ}
    {half : Conversation Http.interface (Except EventError Unit) σ}
    (removes : Removes web base asset found half) :
    half.exchanges.head? = found.exchanges.head? := by
  cases listed : listed? found.exchanges with
  | none => rw [(removes.unlisted listed).1]
  | some targets =>
      have sent : found.exchanges ≠ [] := by
        intro silent
        rw [silent] at listed
        cases listed
      rcases matches_eq : matching asset.identifier targets with _ | ⟨target, _ | ⟨other, others⟩⟩
      · rw [(removes.unmatched targets listed matches_eq).1]
      · rw [removes.sole targets target listed matches_eq]
        exact List.head?_append_of_ne_nil _ sent
      · have several : 1 < (matching asset.identifier targets).length := by
          rw [matches_eq]
          exact Nat.one_lt_succ_succ _
        rw [(removes.ambiguous targets listed several).1]

theorem identified_of_carried
    (carried : ∀ call s, Carried base call ((serve base call).converse web s).exchanges)
    (asset : Asset) (duplicates : Int64) (s s' : σ) :
    Identified base asset (converseOver web base (deleteAsset asset duplicates).run s).exchanges
      (converseOver web base (createAsset asset).run s').exchanges := by
  constructor
  · intro exchange first
    by_cases many : 0 < duplicates
    · have silent :
          (converseOver web base (deleteAsset asset duplicates).run s).exchanges = [] := by
        rw [deleteAsset, if_pos many]
        rfl
      rw [silent] at first
      cases first
    · rw [head?_of_removes web (removes_deleteAsset web base asset many s)] at first
      exact ((carried (.targets asset.identifier) s).tells_of_head? exchange first).1
  · intro exchange first
    rw [exchanges_createAsset] at first
    exact ((carried (.createTarget asset.identifier [asset.team.tag]) s').tells_of_head?
      exchange first).2

end Assets

/-! ## Bases of the web -/

/--
Behind a base URL of the web a server reads the arguments of each call as they were, and the
lookup of an asset and its creation name the same identifier.
-/
theorem carried_of_parse {σ : Type} (web : Party Http.interface σ) {text : String} {base : Url}
    (read : Url.parse text = .ok base) (on_web : IsWebScheme base.scheme) :
    (∀ call s, Carried base call ((serve base call).converse web s).exchanges) ∧
      ∀ (asset : Asset) (duplicates : Int64) (s s' : σ),
        Identified base asset (converseOver web base (deleteAsset asset duplicates).run s).exchanges
          (converseOver web base (createAsset asset).run s').exchanges := by
  obtain ⟨segments, rooted⟩ := Url.exists_rooted_of_parse read on_web
  have hosted := Url.hasHost_of_parse read on_web
  have carried := carried_of_rooted web rooted hosted
  exact ⟨carried, identified_of_carried web carried⟩

/-! ## Examples -/

/-- A base URL with a query. -/
def asking : Url :=
  { home with path := .rooted ["api"], query := some "via=relay" }

/-- An asset whose identifier has signs of its own in forms and in JSON texts. -/
def marked : Asset :=
  ⟨"a", "a b+c&d=e%26\"\n", ⟨"t", "tag"⟩⟩

/-- An update whose notes are there, but empty. -/
def annotated : Call :=
  .updateFinding "f" ⟨"done", some ""⟩ "tag"

/-- The requests of an update, of a lookup and of a creation over a web that answers nothing. -/
theorem carried_of_asking :
    let updating := (serve asking annotated).converse scripted (.blank true)
    let removal := converseOver scripted asking (deleteAsset marked 0).run (.blank true)
    let creation := converseOver scripted asking (createAsset marked).run (.blank true)
    Url.parse "http://[::1]/api?via=relay" = .ok asking ∧ IsWebScheme asking.scheme ∧
      Carried asking annotated updating.exchanges ∧
      Identified asking marked removal.exchanges creation.exchanges ∧
      (updating.exchanges.map fun exchange : Exchange => exchange.request.body) =
        [Utf8.encode "\x7b\"status\":\"done\",\"notes\":\"\",\"tag\":\"tag\"\x7d"] ∧
      (removal.exchanges.map fun exchange : Exchange => exchange.request.url.query) =
        [some "via=relay&identifier=a+b%2Bc%26d%3De%2526%22%0A"] ∧
      (creation.exchanges.map fun exchange : Exchange => exchange.request.body) =
        [Utf8.encode
          "\x7b\"identifier\":\"a b+c&d=e%26\\\"\\n\",\"tags\":[\"tag\"]\x7d"] := by
  have read : Url.parse "http://[::1]/api?via=relay" = .ok asking :=
    Json.eq_ok_of_toOption (by decide +kernel)
  have on_web : IsWebScheme asking.scheme := .inl rfl
  obtain ⟨carried, identified⟩ := carried_of_parse scripted read on_web
  exact ⟨read, on_web, carried annotated (.blank true),
    identified marked 0 (.blank true) (.blank true),
    by decide +kernel, by decide +kernel, by decide +kernel⟩

end Remote
end Downstream

end OutboxRelay
