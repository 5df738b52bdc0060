import OutboxRelay.Proofs.Conversation
import OutboxRelay.Replay

/-!
# The calls of an event

To bring an event about takes a few calls on the vulnerability database, which may answer
each of them in any way.  Which calls are made depends on the replies, and so does whether
the event was brought about.

**Rules.**
* A failure that shows the work of its call as done is as good as success.  Any other
  failure is a fault, and so is a lookup that finds several targets.
* Nothing is called behind a fault, which is what the event fails with.

**Results.**
* `Judged.ok_iff`, `Judged.exists_of_error`: an event is brought about just when no exchange
  has a fault, and fails with the fault of its last one.
* `conduct_applyEvent`: the calls that each event makes, whatever the database answers.
-/

namespace OutboxRelay

/-- Whether a call may change the database. -/
def Downstream.Call.IsMutation : Downstream.Call → Prop
  | .targets _ => False
  | _ => True

namespace Replay

open Downstream (Call)
open Program (Conversation Party)

/-- A call on the vulnerability database with the reply to it. -/
abbrev Exchange := Program.Exchange Downstream.interface

/-! ## Faults -/

/-- Whether a failure of a call shows the work of the call as done. -/
def absorbs : Call → DownstreamError → Bool
  | .deleteTag .., .notFound => true
  | .deleteTargetTag .., .notFound => true
  | .deleteTargetTag .., .forbidden => true
  | .updateFinding .., .notFound => true
  | _, _ => false

/-- What an exchange has against the event being brought about. -/
def fault? : Exchange → Option EventError
  | ⟨call, .error error⟩ => if absorbs call error then none else some (.downstream error)
  | ⟨.targets identifier, .ok (targets : List Target)⟩ =>
      if 1 < targets.length then some (.targetNotUnique identifier targets.length) else none
  | ⟨_, .ok _⟩ => none

/-- The result of exchanges of which only the last one may have a fault. -/
inductive Judged : List Exchange → Except EventError Unit → Prop
  | nil : Judged [] (.ok ())
  | clear {exchange : Exchange} {more : List Exchange} {result : Except EventError Unit}
      (faultless : fault? exchange = none) (judged : Judged more result) :
      Judged (exchange :: more) result
  | faulty {exchange : Exchange} {error : EventError} (fault : fault? exchange = some error) :
      Judged [exchange] (.error error)

section Judgement

variable {exchanges more : List Exchange} {result : Except EventError Unit}

theorem Judged.append (first : Judged exchanges (.ok ())) (last : Judged more result) :
    Judged (exchanges ++ more) result := by
  generalize told : Except.ok () = first_result at first
  induction first with
  | nil => exact last
  | clear faultless judged ih => exact .clear faultless (ih told)
  | faulty fault => cases told

theorem Judged.ok_iff (judged : Judged exchanges result) :
    result = .ok () ↔ ∀ exchange ∈ exchanges, fault? exchange = none := by
  induction judged with
  | nil => simp
  | clear faultless judged ih => rw [ih, List.forall_mem_cons, and_iff_right faultless]
  | faulty fault => simp [fault]

theorem Judged.eq_of_fault {exchange : Exchange} {error : EventError}
    (judged : Judged [exchange] result) (fault : fault? exchange = some error) :
    result = .error error := by
  cases judged with
  | clear faultless judged =>
      rw [fault] at faultless
      cases faultless
  | faulty fault' =>
      rw [fault] at fault'
      cases fault'
      rfl

theorem Judged.exists_of_error {error : EventError} (judged : Judged exchanges (.error error)) :
    ∃ earlier last, exchanges = earlier ++ [last] ∧ fault? last = some error ∧
      ∀ exchange ∈ earlier, fault? exchange = none := by
  generalize told : Except.error error = result at judged
  induction judged with
  | nil => cases told
  | clear faultless judged ih =>
      obtain ⟨earlier, last, rfl, fault, faultless_earlier⟩ := ih told
      exact ⟨_ :: earlier, last, rfl, fault,
        List.forall_mem_cons.mpr ⟨faultless, faultless_earlier⟩⟩
  | faulty fault =>
      cases told
      exact ⟨[], _, rfl, fault, List.forall_mem_nil _⟩

end Judgement

/-! ## Calls -/

/-- The exchanges by which the tag of an asset is removed. -/
inductive Untags (asset : Asset) (duplicates : Int64) : List Exchange → Prop
  | kept (many : 0 < duplicates) : Untags asset duplicates []
  | looked (few : ¬ 0 < duplicates) (reply : Except DownstreamError (List Target))
      (not_one : ∀ target, reply ≠ .ok [target]) :
      Untags asset duplicates [⟨.targets asset.identifier, reply⟩]
  | untagged (few : ¬ 0 < duplicates) (target : Target) (reply : Except DownstreamError Unit) :
      Untags asset duplicates
        [⟨.targets asset.identifier, .ok [target]⟩,
          ⟨.deleteTargetTag asset.team.tag target.id asset.team.tag, reply⟩]

/-- The exchanges by which an event is brought about. -/
inductive Makes : Event → List Exchange → Prop
  | deleteTeam (team : Team) (reply : Except DownstreamError Unit) :
      Makes (.deleteTeam team) [⟨.deleteTag team.tag team.tag, reply⟩]
  | deleteAllAssets (team : Team) (reply : Except DownstreamError Unit) :
      Makes (.deleteAllAssets team) [⟨.deleteTag team.tag team.tag, reply⟩]
  | createAsset (asset : Asset) (reply : Except DownstreamError Target) :
      Makes (.createAsset asset) [⟨.createTarget asset.identifier [asset.team.tag], reply⟩]
  | deleteAsset {asset : Asset} {duplicates : Int64} {exchanges : List Exchange}
      (untags : Untags asset duplicates exchanges) :
      Makes (.deleteAsset asset duplicates) exchanges
  | updateHalf {old : Asset} {duplicates : Int64} {exchanges : List Exchange} (new : Asset)
      (untags : Untags old duplicates exchanges)
      (faulty : ∃ exchange ∈ exchanges, fault? exchange ≠ none) :
      Makes (.updateAsset old new duplicates) exchanges
  | updateAsset {old : Asset} {duplicates : Int64} {exchanges : List Exchange} (new : Asset)
      (untags : Untags old duplicates exchanges)
      (faultless : ∀ exchange ∈ exchanges, fault? exchange = none)
      (reply : Except DownstreamError Target) :
      Makes (.updateAsset old new duplicates)
        (exchanges ++ [⟨.createTarget new.identifier [new.team.tag], reply⟩])
  | overwriteFinding (finding : FindingOverwrite) (reply : Except DownstreamError Unit) :
      Makes (.overwriteFinding finding)
        [⟨.updateFinding finding.findingId ⟨finding.status, finding.notes⟩ finding.tag, reply⟩]

/-- How an event is brought about, or fails. -/
structure Conduct (event : Event) (exchanges : List Exchange) (result : Except EventError Unit) :
    Prop where
  makes : Makes event exchanges
  resolved_iff : result = .ok () ↔ ∀ exchange ∈ exchanges, fault? exchange = none
  /-- An event fails with the only fault that there is, which is the one of the last exchange. -/
  faulty : ∀ error, result = .error error → ∃ earlier last, exchanges = earlier ++ [last] ∧
    fault? last = some error ∧ ∀ exchange ∈ earlier, fault? exchange = none
  /-- Several targets are told of with their number, and nothing is changed. -/
  ambiguous : ∀ (identifier : String) (targets : List Target),
    (⟨.targets identifier, .ok targets⟩ : Exchange) ∈ exchanges → 1 < targets.length →
      result = .error (.targetNotUnique identifier targets.length) ∧
        ∀ exchange ∈ exchanges, ¬ exchange.1.IsMutation

section Forms

variable {exchanges : List Exchange} {identifier : String} {targets : List Target}

theorem fault?_of_several (several : 1 < targets.length) :
    fault? ⟨.targets identifier, .ok targets⟩ =
      some (.targetNotUnique identifier targets.length) :=
  if_pos several

/-- A lookup that finds several targets is all that there is. -/
theorem Untags.eq_of_several {asset : Asset} {duplicates : Int64}
    (untags : Untags asset duplicates exchanges)
    (told : (⟨.targets identifier, .ok targets⟩ : Exchange) ∈ exchanges)
    (several : 1 < targets.length) :
    exchanges = [⟨.targets identifier, .ok targets⟩] := by
  cases untags with
  | kept many => cases told
  | looked few reply not_one =>
      cases List.mem_singleton.mp told
      rfl
  | untagged few target reply =>
      rcases List.mem_cons.mp told with same | same
      · cases same
        exact absurd several (Nat.lt_irrefl 1)
      · cases List.mem_singleton.mp same

theorem Makes.eq_of_several {event : Event} (makes : Makes event exchanges)
    (told : (⟨.targets identifier, .ok targets⟩ : Exchange) ∈ exchanges)
    (several : 1 < targets.length) :
    exchanges = [⟨.targets identifier, .ok targets⟩] := by
  cases makes with
  | deleteTeam | deleteAllAssets | createAsset | overwriteFinding =>
      cases List.mem_singleton.mp told
  | deleteAsset untags => exact untags.eq_of_several told several
  | updateHalf new untags faulty => exact untags.eq_of_several told several
  | updateAsset new untags faultless reply =>
      rcases List.mem_append.mp told with told | told
      · have clear := faultless _ told
        rw [fault?_of_several several] at clear
        cases clear
      · cases List.mem_singleton.mp told

end Forms

/-! ## Conversations -/

/-- A conversation has exchanges of some form and the result that they have. -/
def Keeps {σ : Type} (form : List Exchange → Prop)
    (told : Conversation Downstream.interface (Except EventError Unit) σ) : Prop :=
  form told.exchanges ∧ Judged told.exchanges told.result

section Conversations

variable {σ : Type}

theorem Keeps.mono {form form' : List Exchange → Prop}
    {told : Conversation Downstream.interface (Except EventError Unit) σ}
    (keeps : Keeps form told) (weaker : ∀ exchanges, form exchanges → form' exchanges) :
    Keeps form' told :=
  ⟨weaker _ keeps.1, keeps.2⟩

variable (party : Party Downstream.interface σ)

theorem converse_absorb (settled : DownstreamError → Bool) (reply : Except DownstreamError Unit)
    (s : σ) :
    (absorb settled reply).run.converse party s =
      ⟨match reply with
        | .ok () => .ok ()
        | .error error => if settled error then .ok () else .error (.downstream error),
        [], s⟩ := by
  cases reply with
  | ok answer => rfl
  | error error =>
      rw [absorb, ExceptT.run_mk]
      dsimp only
      split <;> rfl

/-- A call of which just those failures are absorbed that are no faults. -/
theorem keeps_absorb {settled : DownstreamError → Bool}
    (exchange : Except DownstreamError Unit → Exchange)
    (clear : fault? (exchange (.ok ())) = none)
    (agrees : ∀ error, fault? (exchange (.error error)) =
      if settled error then none else some (.downstream error))
    (reply : Except DownstreamError Unit) (s : σ) :
    Keeps (fun exchanges => ∃ reply, exchanges = [exchange reply])
      (((absorb settled reply).run.converse party s).after (exchange reply)) := by
  refine ⟨⟨reply, ?_⟩, ?_⟩
  all_goals rw [converse_absorb]
  · rfl
  · cases reply with
    | ok answer => exact .clear clear .nil
    | error error =>
        have fault := agrees error
        by_cases settles : settled error
        · simp only [settles] at fault ⊢
          exact .clear fault .nil
        · simp only [settles] at fault ⊢
          exact .faulty fault

theorem keeps_deleteTeamTag (team : Team) (s : σ) :
    Keeps (fun exchanges => ∃ reply, exchanges = [⟨.deleteTag team.tag team.tag, reply⟩])
      ((deleteTeamTag team).run.converse party s) :=
  keeps_absorb party (fun reply => ⟨.deleteTag team.tag team.tag, reply⟩) rfl
    (fun error => by cases error <;> rfl) _ _

theorem keeps_untag (tag targetId : String) (s : σ) :
    Keeps (fun exchanges => ∃ reply, exchanges = [⟨.deleteTargetTag tag targetId tag, reply⟩])
      ((do absorb (fun error => error.isNotFound || error.isForbidden)
            (← reply (.deleteTargetTag tag targetId tag)) : Resolving Unit).run.converse
        party s) :=
  keeps_absorb party (fun reply => ⟨.deleteTargetTag tag targetId tag, reply⟩) rfl
    (fun error => by cases error <;> rfl) _ _

theorem keeps_overwriteFinding (finding : FindingOverwrite) (s : σ) :
    Keeps (fun exchanges => ∃ reply, exchanges = [⟨.updateFinding finding.findingId
        ⟨finding.status, finding.notes⟩ finding.tag, reply⟩])
      ((overwriteFinding finding).run.converse party s) :=
  keeps_absorb party (fun reply => ⟨.updateFinding finding.findingId
    ⟨finding.status, finding.notes⟩ finding.tag, reply⟩) rfl
    (fun error => by cases error <;> rfl) _ _

/-- A step and what comes behind it, unless it fails. -/
theorem run_bind_eq {α β : Type} (work : Resolving α) (next : α → Resolving β) :
    (work >>= next).run = work.run.bind fun
      | .ok a => (next a).run
      | .error error => .done (.error error) := by
  rw [ExceptT.run_bind]
  refine congrArg (Program.bind work.run) (funext fun result => ?_)
  cases result <;> rfl

theorem converse_run_bind {α β : Type} (work : Resolving α) (next : α → Resolving β) (s : σ) :
    (work >>= next).run.converse party s =
      (work.run.converse party s).followedBy
        (match (work.run.converse party s).result with
          | .ok a => (next a).run.converse party (work.run.converse party s).state
          | .error error => ⟨.error error, [], (work.run.converse party s).state⟩) := by
  rw [run_bind_eq, Program.converse_bind]
  cases (work.run.converse party s).result <;> rfl

/-- Whatever the reply to the next call is, what comes behind it keeps to a form. -/
theorem keeps_of_call {program : OnDownstream (Except EventError Unit)} {made : Call}
    {rest : Except DownstreamError made.Answer → OnDownstream (Except EventError Unit)}
    {form : List Exchange → Prop} {s : σ} (shape : program = .call made rest)
    (keeps : ∀ reply s', Keeps form (((rest reply).converse party s').after ⟨made, reply⟩)) :
    Keeps form (program.converse party s) := by
  subst shape
  exact keeps _ _

theorem keeps_createAsset (asset : Asset) (s : σ) :
    Keeps (fun exchanges => ∃ reply, exchanges =
        [⟨.createTarget asset.identifier [asset.team.tag], reply⟩])
      ((createAsset asset).run.converse party s) := by
  refine keeps_of_call party rfl fun reply s' => ?_
  cases reply with
  | ok target => exact ⟨⟨_, rfl⟩, .clear rfl .nil⟩
  | error error => exact ⟨⟨_, rfl⟩, .faulty rfl⟩

/-- Only a target that is the only one is untagged. -/
theorem keeps_deleteAsset (asset : Asset) (duplicates : Int64) (s : σ) :
    Keeps (Untags asset duplicates) ((deleteAsset asset duplicates).run.converse party s) := by
  unfold deleteAsset
  split
  case isTrue many => exact ⟨.kept many, .nil⟩
  case isFalse few =>
    refine keeps_of_call party rfl fun reply s' => ?_
    rcases reply with error | (_ | ⟨target, _ | ⟨other, others⟩⟩)
    · exact ⟨.looked few (.error error) nofun, .faulty rfl⟩
    · exact ⟨.looked few (.ok []) nofun, .clear rfl .nil⟩
    · obtain ⟨⟨reply, exchanges_eq⟩, judged⟩ :=
        keeps_untag party asset.team.tag target.id s'
      refine ⟨?_, .clear rfl judged⟩
      have untags : Untags asset duplicates _ := .untagged few target reply
      rw [← exchanges_eq] at untags
      exact untags
    · exact ⟨.looked few (.ok (target :: other :: others)) nofun, .faulty rfl⟩

/-- The calls of an event have the form that its kind gives them. -/
theorem keeps_applyEvent (event : Event) (s : σ) :
    Keeps (Makes event) ((applyEvent event).run.converse party s) := by
  cases event with
  | deleteTeam team =>
      refine (keeps_deleteTeamTag party team s).mono ?_
      rintro _ ⟨reply, rfl⟩
      exact .deleteTeam team reply
  | deleteAllAssets team =>
      refine (keeps_deleteTeamTag party team s).mono ?_
      rintro _ ⟨reply, rfl⟩
      exact .deleteAllAssets team reply
  | createAsset asset =>
      refine (keeps_createAsset party asset s).mono ?_
      rintro _ ⟨reply, rfl⟩
      exact .createAsset asset reply
  | deleteAsset asset duplicates =>
      exact (keeps_deleteAsset party asset duplicates s).mono fun _ => .deleteAsset
  | overwriteFinding finding =>
      refine (keeps_overwriteFinding party finding s).mono ?_
      rintro _ ⟨reply, rfl⟩
      exact .overwriteFinding finding reply
  | updateAsset old new duplicates =>
      obtain ⟨untags, judged⟩ := keeps_deleteAsset party old duplicates s
      have told : (applyEvent (.updateAsset old new duplicates)).run.converse party s = _ :=
        converse_run_bind party (deleteAsset old duplicates) (fun _ => createAsset new) s
      rw [told]
      generalize (deleteAsset old duplicates).run.converse party s = half at untags judged ⊢
      obtain ⟨result, exchanges, s'⟩ := half
      cases result with
      | error error =>
          obtain ⟨earlier, last, split, fault, -⟩ := judged.exists_of_error
          have faulty : ∃ exchange ∈ exchanges, fault? exchange ≠ none := by
            obtain rfl : exchanges = earlier ++ [last] := split
            refine ⟨last, List.mem_append_right _ (List.mem_singleton_self last), ?_⟩
            rw [fault]
            nofun
          refine ⟨?_, ?_⟩
          all_goals simp only [Conversation.followedBy, List.append_nil]
          · exact .updateHalf new untags faulty
          · exact judged
      | ok answer =>
          obtain ⟨⟨reply, exchanges_eq⟩, created⟩ := keeps_createAsset party new s'
          refine ⟨?_, judged.append created⟩
          have makes := Makes.updateAsset new untags (judged.ok_iff.mp rfl) reply
          rw [← exchanges_eq] at makes
          exact makes

/-- Whatever the vulnerability database replies, an event makes its calls and no others. -/
theorem conduct_applyEvent (event : Event) (s : σ) :
    Conduct event ((applyEvent event).run.converse party s).exchanges
      ((applyEvent event).run.converse party s).result := by
  obtain ⟨makes, judged⟩ := keeps_applyEvent party event s
  refine ⟨makes, judged.ok_iff, ?_, ?_⟩
  · intro error failed
    rw [failed] at judged
    exact judged.exists_of_error
  · intro identifier targets told several
    rw [makes.eq_of_several told several] at judged ⊢
    exact ⟨judged.eq_of_fault (fault?_of_several several), List.forall_mem_singleton.mpr id⟩

end Conversations

end Replay
end OutboxRelay
