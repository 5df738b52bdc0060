import OutboxRelay.Proofs.Downstream.Acceptance

/-!
# Removals over the web

To remove the tag of an asset, the database is asked for the targets with the identifier of the
asset.  The server may list more targets than these, and only exact matches count.

**Rules.**
* Only the target that matches alone is untagged, by its own id.
* No match is as good as a removal.  Several matches are a failure, and so is a lookup that tells
  of no targets.

**Results.**
* `lookedUp_serve`: a lookup only gets, and finds the exact matches of the list that it is
  answered with.
* `removes_deleteAsset`: what a removal sends, and what it makes of the answers.
* `removing_apply`: an entry that removes the tag of an asset sends nothing that deletes, except
  to untag the target that matches alone.
-/

namespace OutboxRelay

open Program (Conversation Party)

namespace Downstream
namespace Remote

open Http (Exchange Pursues Received finalResponse?)

/-! ## Lookups -/

/-- The targets that a server lists in its last response, if this is a success and readable. -/
def listed? (exchanges : List Exchange) : Option (List Target) :=
  (finalResponse? exchanges).bind fun received =>
    if Http.Status.isSuccess received.response.status then
      (decodeBody targetsRecord received).toOption
    else none

/-- The targets with exactly an identifier. -/
def matching (identifier : String) (targets : List Target) : List Target :=
  targets.filter fun target => target.identifier = identifier

/-- How a lookup goes over the web. -/
structure LookedUp (identifier : String) (exchanges : List Exchange)
    (result : Except DownstreamError (List Target)) : Prop where
  gets : ∀ exchange ∈ exchanges, exchange.request.method = .get
  found : result.toOption = (listed? exchanges).map (matching identifier)

theorem LookedUp.exists_error {identifier : String} {exchanges : List Exchange}
    {result : Except DownstreamError (List Target)}
    (looked : LookedUp identifier exchanges result) (unlisted : listed? exchanges = none) :
    ∃ error, result = .error error := by
  have found := looked.found
  rw [unlisted] at found
  cases result with
  | error error => exact ⟨error, rfl⟩
  | ok targets => cases found

theorem LookedUp.eq_ok {identifier : String} {exchanges : List Exchange}
    {result : Except DownstreamError (List Target)} {targets : List Target}
    (looked : LookedUp identifier exchanges result) (listed : listed? exchanges = some targets) :
    result = .ok (matching identifier targets) := by
  have found := looked.found
  rw [listed] at found
  exact Json.eq_ok_of_toOption found

section Lookups

variable {request : Http.Request} {exchanges : List Exchange}

theorem listed?_of_ok {received : Received} (pursues : Pursues request exchanges (.ok received))
    (identifier : String) :
    (judge (.targets identifier) received : Except DownstreamError (List Target)).toOption =
      (listed? exchanges).map (matching identifier) := by
  rw [listed?, pursues.finalResponse?_eq, Option.bind_some, judge]
  split
  · rw [answerOf]
    cases decodeBody targetsRecord received <;> rfl
  · rfl

theorem listed?_of_error {error : Http.ClientError}
    (pursues : Pursues request exchanges (.error error)) : listed? exchanges = none := by
  cases final : finalResponse? exchanges with
  | none => rw [listed?, final, Option.bind_none]
  | some received =>
      obtain ⟨exchange, last, answered⟩ := Option.bind_eq_some_iff.mp final
      have refused := pursues.not_isSuccess exchange (List.mem_of_getLast? last) received answered
      rw [listed?, final, Option.bind_some, if_neg refused]

/-- A lookup finds the exact matches of the list that it is answered with. -/
theorem lookedUp_serve {σ : Type} (web : Party Http.interface σ) (base : Url)
    (identifier : String) (s : σ) :
    LookedUp identifier ((serve base (.targets identifier)).converse web s).exchanges
      ((serve base (.targets identifier)).converse web s).result := by
  obtain ⟨error, -, told⟩ | ⟨request, outcome, built, pursues, told⟩ :=
    serve_cases web base (.targets identifier) s
  · rw [told]
    exact ⟨List.forall_mem_nil _, rfl⟩
  · refine ⟨fun exchange among => ?_, ?_⟩
    · exact (method_of_serve web base (.targets identifier) s among).elim id id
    rw [told]
    cases outcome with
    | error error =>
        rw [listed?_of_error pursues]
        rfl
    | ok received => exact listed?_of_ok pursues identifier

end Lookups

end Remote
end Downstream

namespace Replay

open Downstream (Call)
open Downstream.Remote
  (LookedUp home listed? lookedUp_serve matching method_of_serve scripted serve)

/-! ## Removals -/

/-- The asset of which an event removes the tag, and its duplicates. -/
def removal? : Event → Option (Asset × Int64)
  | .deleteAsset asset duplicates => some (asset, duplicates)
  | .updateAsset old _ duplicates => some (old, duplicates)
  | _ => none

/-- The asset that an event creates behind a removal. -/
def successor? : Event → Option Asset
  | .updateAsset _ new _ => some new
  | _ => none

section Web

variable {σ : Type} (web : Party Http.interface σ) (base : Url)

/-- The conversation of a program that makes its calls on a server. -/
def converseOver {α : Type} (program : OnDownstream α) (s : σ) :
    Conversation Http.interface α σ :=
  (program.through (serve base)).converse web s

/-- The lookup of an asset. -/
def lookup (asset : Asset) (s : σ) :
    Conversation Http.interface (Except DownstreamError (List Target)) σ :=
  (serve base (.targets asset.identifier)).converse web s

/-- The removal of the tag of an asset from a target. -/
def untagging (asset : Asset) (target : Target) (s : σ) :
    Conversation Http.interface (Except DownstreamError Unit) σ :=
  (serve base (.deleteTargetTag asset.team.tag target.id asset.team.tag)).converse web s

/-- How the tag of an asset is removed behind its lookup. -/
structure Removes (asset : Asset)
    (found : Conversation Http.interface (Except DownstreamError (List Target)) σ)
    (half : Conversation Http.interface (Except EventError Unit) σ) : Prop where
  gets (exchange : Http.Exchange) : exchange ∈ found.exchanges → exchange.request.method = .get
  unlisted : listed? found.exchanges = none →
    half.exchanges = found.exchanges ∧ ∃ error, half.result = .error (.downstream error)
  unmatched (targets : List Target) : listed? found.exchanges = some targets →
    matching asset.identifier targets = [] →
      half.exchanges = found.exchanges ∧ half.result = .ok ()
  sole (targets : List Target) (target : Target) : listed? found.exchanges = some targets →
    matching asset.identifier targets = [target] →
      half.exchanges = found.exchanges ++ (untagging web base asset target found.state).exchanges
  ambiguous (targets : List Target) : listed? found.exchanges = some targets →
    1 < (matching asset.identifier targets).length →
      half.exchanges = found.exchanges ∧
        half.result =
          .error (.targetNotUnique asset.identifier (matching asset.identifier targets).length)

/-- A program goes on with the answer of its first call. -/
theorem converseOver_of_call {α : Type} {program : OnDownstream α} {made : Call}
    {rest : Except DownstreamError made.Answer → OnDownstream α}
    (shape : program = .call made rest) (s : σ) :
    converseOver web base program s =
      ((serve base made).converse web s).followedBy
        (converseOver web base (rest ((serve base made).converse web s).result)
          ((serve base made).converse web s).state) := by
  subst shape
  exact Program.converse_bind web _ _ s

theorem exchanges_absorb (settled : DownstreamError → Bool) (reply : Except DownstreamError Unit)
    (s : σ) : (converseOver web base (absorb settled reply).run s).exchanges = [] := by
  cases reply with
  | ok answer => rfl
  | error error =>
      rw [absorb, ExceptT.run_mk]
      unfold converseOver
      split <;> rfl

theorem exchanges_of_untagging {asset : Asset} {target : Target}
    {program : OnDownstream (Except EventError Unit)} {settled : DownstreamError → Bool}
    (shape : program =
      .call (.deleteTargetTag asset.team.tag target.id asset.team.tag) fun reply =>
        (absorb settled reply).run) (s : σ) :
    (converseOver web base program s).exchanges =
      (untagging web base asset target s).exchanges := by
  have told := congrArg Conversation.exchanges (converseOver_of_call web base shape s)
  have silent := exchanges_absorb web base settled (untagging web base asset target s).result
    (untagging web base asset target s).state
  exact told.trans ((congrArg (_ ++ ·) silent).trans (List.append_nil _))

/-- What a removal makes of the answer of its lookup. -/
theorem exists_rest_of_deleteAsset (asset : Asset) {duplicates : Int64} (few : ¬ 0 < duplicates) :
    ∃ rest : Except DownstreamError (List Target) → OnDownstream (Except EventError Unit),
      (deleteAsset asset duplicates).run = .call (.targets asset.identifier) rest ∧
      (∀ error, rest (.error error) = .done (.error (.downstream error))) ∧
      rest (.ok []) = .done (.ok ()) ∧
      (∀ target, rest (.ok [target]) =
        .call (.deleteTargetTag asset.team.tag target.id asset.team.tag) fun reply =>
          (absorb (fun error => error.isNotFound || error.isForbidden) reply).run) ∧
      ∀ targets, 1 < targets.length →
        rest (.ok targets) = .done (.error (.targetNotUnique asset.identifier targets.length)) := by
  unfold deleteAsset
  rw [if_neg few]
  refine ⟨_, rfl, fun error => rfl, rfl, fun target => rfl, fun targets several => ?_⟩
  rcases targets with _ | ⟨target, _ | ⟨other, others⟩⟩
  · cases several
  · exact absurd several (Nat.lt_irrefl 1)
  · rfl

theorem removes_deleteAsset (asset : Asset) {duplicates : Int64} (few : ¬ 0 < duplicates) (s : σ) :
    Removes web base asset (lookup web base asset s)
      (converseOver web base (deleteAsset asset duplicates).run s) := by
  have looked : LookedUp asset.identifier (lookup web base asset s).exchanges
    (lookup web base asset s).result := lookedUp_serve web base asset.identifier s
  obtain ⟨rest, shape, failed, unmatched, sole, ambiguous⟩ := exists_rest_of_deleteAsset asset few
  have told : converseOver web base (deleteAsset asset duplicates).run s =
      (lookup web base asset s).followedBy (converseOver web base
        (rest (lookup web base asset s).result) (lookup web base asset s).state) :=
    converseOver_of_call web base shape s
  rw [told]
  generalize lookup web base asset s = found at looked
  obtain ⟨result, exchanges, s'⟩ := found
  have ends {result' : Except EventError Unit} (done : rest result = .done result') :
      (Conversation.mk result exchanges s').followedBy (converseOver web base (rest result) s') =
        ⟨result', exchanges, s'⟩ := by
    rw [done]
    exact Conversation.followedBy_of_nil _ _ _
  refine ⟨looked.gets, fun unlisted => ?_, fun targets listed none_match => ?_,
    fun targets target listed one_matches => ?_, fun targets listed several => ?_⟩
  · obtain ⟨error, failure⟩ := looked.exists_error unlisted
    cases failure
    rw [ends (failed error)]
    exact ⟨rfl, error, rfl⟩
  · cases looked.eq_ok listed
    rw [none_match] at ends ⊢
    rw [ends unmatched]
    exact ⟨rfl, rfl⟩
  · cases looked.eq_ok listed
    have onward : rest (.ok (matching asset.identifier targets)) = _ :=
      (congrArg (fun found => rest (.ok found)) one_matches).trans (sole target)
    exact congrArg (exchanges ++ ·) (exchanges_of_untagging web base onward s')
  · cases looked.eq_ok listed
    rw [ends (ambiguous _ several)]
    exact ⟨rfl, rfl⟩

/-- Only the target that matches alone is ever told to be untagged. -/
theorem Removes.exists_of_delete {asset : Asset}
    {found : Conversation Http.interface (Except DownstreamError (List Target)) σ}
    {half : Conversation Http.interface (Except EventError Unit) σ}
    (removes : Removes web base asset found half) {exchange : Http.Exchange}
    (among : exchange ∈ half.exchanges) (deletes : exchange.request.method = .delete) :
    ∃ targets target, listed? found.exchanges = some targets ∧
      matching asset.identifier targets = [target] ∧
      exchange ∈ (untagging web base asset target found.state).exchanges := by
  have elsewhere : exchange ∉ found.exchanges := by
    intro looks
    have gets := removes.gets exchange looks
    rw [deletes] at gets
    cases gets
  cases listed : listed? found.exchanges with
  | none => exact absurd ((removes.unlisted listed).1 ▸ among) elsewhere
  | some targets =>
      rcases matches_eq : matching asset.identifier targets with _ | ⟨target, _ | ⟨other, others⟩⟩
      · exact absurd ((removes.unmatched targets listed matches_eq).1 ▸ among) elsewhere
      · rw [removes.sole targets target listed matches_eq] at among
        exact ⟨targets, target, rfl, matches_eq, (List.mem_append.mp among).resolve_left elsewhere⟩
      · have several : 1 < (matching asset.identifier targets).length := by
          rw [matches_eq]
          exact Nat.one_lt_succ_succ _
        exact absurd ((removes.ambiguous targets listed several).1 ▸ among) elsewhere

/-! ## Entries -/

/-- The creation of an asset with its tag. -/
def creating (asset : Asset) (s : σ) :
    Conversation Http.interface (Except DownstreamError Target) σ :=
  (serve base (.createTarget asset.identifier [asset.team.tag])).converse web s

/-- How an event goes on behind the removal that it starts with. -/
structure Removing (event : Event) (asset : Asset)
    (found : Conversation Http.interface (Except DownstreamError (List Target)) σ)
    (half told : Conversation Http.interface (Except EventError Unit) σ) : Prop where
  removes : Removes web base asset found half
  alone : successor? event = none → told = half
  failed (error : EventError) : half.result = .error error → told = half
  continued (new : Asset) : successor? event = some new → half.result = .ok () →
    told.exchanges = half.exchanges ++ (creating web base new half.state).exchanges
  /-- Whatever is deleted, it is for the only exact match of the lookup. -/
  deletes (exchange : Http.Exchange) : exchange ∈ told.exchanges →
    exchange.request.method = .delete →
      ∃ targets target, listed? found.exchanges = some targets ∧
        matching asset.identifier targets = [target] ∧
        exchange ∈ (untagging web base asset target found.state).exchanges

/-- A step and what comes behind it, unless it fails. -/
theorem converseOver_run_bind {α β : Type} (work : Resolving α) (next : α → Resolving β) (s : σ) :
    converseOver web base (work >>= next).run s =
      (converseOver web base work.run s).followedBy
        (match (converseOver web base work.run s).result with
          | .ok a => converseOver web base (next a).run (converseOver web base work.run s).state
          | .error error => ⟨.error error, [], (converseOver web base work.run s).state⟩) := by
  rw [run_bind_eq, converseOver]
  refine (congrArg (Program.converse web · s)
    (Program.through_bind (I := Downstream.interface) (serve base) work.run _)).trans ?_
  refine (Program.converse_bind web _ _ s).trans ?_
  unfold converseOver
  cases ((work.run.through (serve base)).converse web s).result <;> rfl

theorem exchanges_createAsset (asset : Asset) (s : σ) :
    (converseOver web base (createAsset asset).run s).exchanges =
      (creating web base asset s).exchanges := by
  have shape : (createAsset asset).run =
    .call (.createTarget asset.identifier [asset.team.tag]) _ := rfl
  have told := congrArg Conversation.exchanges (converseOver_of_call web base shape s)
  refine told.trans (Eq.trans (congrArg (_ ++ ·) ?_) (List.append_nil _))
  cases ((serve base (.createTarget asset.identifier [asset.team.tag])).converse web s).result with
  | ok target => rfl
  | error error => rfl

/-- Nothing that is sent to create an asset deletes. -/
theorem not_delete_of_creating {asset : Asset} {s : σ} {exchange : Http.Exchange}
    (among : exchange ∈ (creating web base asset s).exchanges) :
    exchange.request.method ≠ .delete := by
  rcases method_of_serve web base (.createTarget asset.identifier [asset.team.tag]) s among with
    posts | gets
  · rw [posts]
    nofun
  · rw [gets]
    nofun

theorem removing_deleteAsset (asset : Asset) {duplicates : Int64} (few : ¬ 0 < duplicates)
    (s : σ) :
    Removing web base (.deleteAsset asset duplicates) asset (lookup web base asset s)
      (converseOver web base (deleteAsset asset duplicates).run s)
      (converseOver web base (applyEvent (.deleteAsset asset duplicates)).run s) where
  removes := removes_deleteAsset web base asset few s
  alone _ := rfl
  failed _ _ := rfl
  continued _ none_next _ := nomatch none_next
  deletes _ := (removes_deleteAsset web base asset few s).exists_of_delete web base

theorem removing_updateAsset (old new : Asset) {duplicates : Int64} (few : ¬ 0 < duplicates)
    (s : σ) :
    Removing web base (.updateAsset old new duplicates) old (lookup web base old s)
      (converseOver web base (deleteAsset old duplicates).run s)
      (converseOver web base (applyEvent (.updateAsset old new duplicates)).run s) := by
  have removes := removes_deleteAsset web base old few s
  have told := converseOver_run_bind web base (deleteAsset old duplicates)
    (fun _ => createAsset new) s
  have shape : applyEvent (.updateAsset old new duplicates) =
      deleteAsset old duplicates >>= fun _ => createAsset new := rfl
  rw [shape, told]
  generalize converseOver web base (deleteAsset old duplicates).run s = half at removes
  obtain ⟨result, exchanges, s'⟩ := half
  cases result with
  | error error =>
      dsimp only
      rw [Conversation.followedBy_of_nil]
      exact ⟨removes, fun _ => rfl, fun _ _ => rfl, fun _ _ => nofun,
        fun _ => removes.exists_of_delete web base⟩
  | ok answer =>
      refine ⟨removes, nofun, nofun, ?_, ?_⟩
      · intro created same _
        cases same
        exact congrArg (exchanges ++ ·) (exchanges_createAsset web base new s')
      · intro exchange among deletes
        rcases List.mem_append.mp among with among | among
        · exact removes.exists_of_delete web base among deletes
        · rw [exchanges_createAsset] at among
          exact absurd deletes (not_delete_of_creating web base among)

end Web

/-! ## Example of an entry -/

/-- A host that has gone. -/
def gone : Asset :=
  ⟨"a", "host", ⟨"t", "blue"⟩⟩

/-- A host that has gone and come back under another name. -/
def move : Event :=
  .updateAsset gone { gone with identifier := "home" } 0

/-- The entry of such a move. -/
def moveEntry : Entry :=
  ⟨⟨1⟩, "UpdateAsset", 1, move.encode, 0, 0, 0⟩

/-- A response of success with a body. -/
def readable (body : Json.Value) : Http.Reaction :=
  .respond ⟨⟨200, [], body.encode⟩, true⟩

/-- A web that lists more targets than the one that is looked up. -/
def looselyMatching : Http.Scripted where
  reactions := [
    readable (.object [("targets", .list (Target.toJson <$>
      [⟨"0", "Host", []⟩, ⟨"1", "host", ["blue"]⟩, ⟨"2", "hosts", []⟩]))]),
    readable .null,
    readable (Target.toJson ⟨"3", "home", ["blue"]⟩)]
  reachable := true
  seen := []

/-! ## Entries over the web -/

theorem apply_of_decode {entry : Entry} {event : Event}
    (decoded : Event.decode entry.action entry.version entry.payload = .ok event) :
    apply entry = (applyEvent event).run := by
  rw [apply, decoded]

/--
An entry that removes the tag of an asset sends nothing that deletes, except to untag the only
target that the server lists with exactly the identifier of the asset.
-/
theorem removing_apply {σ : Type} (web : Party Http.interface σ) (base : Url) {entry : Entry}
    {event : Event} {asset : Asset} {duplicates : Int64}
    (decoded : Event.decode entry.action entry.version entry.payload = .ok event)
    (removal : removal? event = some (asset, duplicates)) (few : duplicates ≤ 0) (s : σ) :
    Removing web base event asset (lookup web base asset s)
      (converseOver web base (deleteAsset asset duplicates).run s)
      (converseOver web base (apply entry) s) := by
  rw [apply_of_decode decoded]
  cases event with
  | deleteAsset =>
      cases removal
      exact removing_deleteAsset web base asset (Int64.not_lt.mpr few) s
  | updateAsset old new =>
      cases removal
      exact removing_updateAsset web base asset new (Int64.not_lt.mpr few) s
  | deleteTeam | deleteAllAssets | createAsset | overwriteFinding => cases removal

/-- A move over a web that lists too many targets. -/
theorem removing_of_move :
    Event.decode moveEntry.action moveEntry.version moveEntry.payload = .ok move ∧
      removal? move = some (gone, 0) ∧
      Removing scripted home move gone (lookup scripted home gone looselyMatching)
        (converseOver scripted home (deleteAsset gone 0).run looselyMatching)
        (converseOver scripted home (apply moveEntry) looselyMatching) ∧
      ((converseOver scripted home (apply moveEntry) looselyMatching).exchanges.map
        fun exchange : Http.Exchange => (exchange.request.method, exchange.request.url.path)) =
        [(.get, .rooted ["api", "v1", "targets"]),
          (.delete, .rooted ["api", "v1", "targets", "1", "tags", "blue"]),
          (.post, .rooted ["api", "v1", "targets"])] := by
  have decoded : Event.decode moveEntry.action moveEntry.version moveEntry.payload = .ok move :=
    Json.eq_ok_of_toOption (by decide +kernel)
  have few : (0 : Int64) ≤ 0 := by decide
  refine ⟨decoded, rfl, removing_apply scripted home decoded rfl few looselyMatching, ?_⟩
  rw [apply_of_decode decoded]
  decide +kernel

end Replay
end OutboxRelay
