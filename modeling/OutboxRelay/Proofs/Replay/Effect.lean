import OutboxRelay.Proofs.Downstream.Registry
import OutboxRelay.Proofs.Program
import OutboxRelay.Replay

/-!
# The effect of an event

Each event has an effect on a registry as it looks from outside, and having it twice is
having it once.  A replay takes the registry there in at most two moves, whatever calls
fail on the way, so that it can be broken off anywhere and begun again.

**Results.**
* `Event.effect_effect`: the effect of an event is idempotent.
* `moves_deleteAsset`, `moves_createAsset` and so on: what a replay does to the view.
* `attains_apply`: a replay never leads away from the effect of its entry, and has it if
  the entry is resolved.
-/

namespace OutboxRelay

open Downstream (Registry View)

namespace Event

/-- What is left of a target's tags when an asset is deleted. -/
def dropAsset (asset : Asset) (duplicates : Int64) (view : View) : View :=
  if 0 < duplicates then view else view.untag asset.identifier asset.team.tag

/-- The effect of an event on a registry. -/
def effect : Event → View → View
  | deleteTeam team | deleteAllAssets team => View.untagAll team.tag
  | createAsset asset => View.tag asset.identifier {asset.team.tag}
  | deleteAsset asset duplicates => dropAsset asset duplicates
  | updateAsset old new duplicates => fun view =>
      (dropAsset old duplicates view).tag new.identifier {new.team.tag}
  | overwriteFinding finding =>
      View.overwrite finding.findingId ⟨finding.status, finding.notes⟩

theorem dropAsset_dropAsset (asset : Asset) (duplicates : Int64) (view : View) :
    dropAsset asset duplicates (dropAsset asset duplicates view) =
      dropAsset asset duplicates view := by
  unfold dropAsset
  split
  · rfl
  · exact View.untag_untag ..

/-- A deletion that is made good by a creation can be made once more. -/
theorem tag_dropAsset_tag (asset : Asset) (duplicates : Int64) (identifier : String)
    (tags : Finset String) (view : View) :
    (dropAsset asset duplicates (view.tag identifier tags)).tag identifier tags =
      (dropAsset asset duplicates view).tag identifier tags := by
  unfold dropAsset
  split
  · exact View.tag_tag ..
  · exact View.tag_untag_tag ..

/-- The effect of an event is idempotent. -/
theorem effect_effect (event : Event) (view : View) :
    event.effect (event.effect view) = event.effect view := by
  cases event with
  | deleteTeam team | deleteAllAssets team => exact View.untagAll_untagAll ..
  | createAsset asset => exact View.tag_tag ..
  | deleteAsset asset duplicates => exact dropAsset_dropAsset ..
  | updateAsset old new duplicates =>
      show (dropAsset old duplicates ((dropAsset old duplicates view).tag _ _)).tag _ _ = _
      rw [tag_dropAsset_tag, dropAsset_dropAsset]
      rfl
  | overwriteFinding finding => exact View.overwrite_overwrite ..

end Event

namespace Replay

/-! ## Moves -/

/--
Whatever fails, the view of a registry fulfils an invariant at every moment of a program,
and is what it is meant to be if the program succeeds.
-/
def Attains (inv : View → Prop) (goal : View)
    (program : OnDownstream (Except EventError Unit)) (d : Registry) : Prop :=
  Program.Ensures (I := Downstream.interface) Registry.Serves (fun d' => inv d'.view)
    (fun result d' => result = .ok () → d'.view = goal) program d

/-- A program changes the view at most once, by a function, and if it succeeds it has. -/
def Moves (change : View → View) (program : Resolving Unit) : Prop :=
  ∀ (inv : View → Prop) (d : Registry), inv d.view → inv (change d.view) →
    Attains inv (change d.view) program.run d

section Moves

variable {inv : View → Prop} {goal : View} {change : View → View} {d d' : Registry}

theorem Attains.now {program : OnDownstream (Except EventError Unit)}
    (attains : Attains inv goal program d) :
    inv d.view := by
  unfold Attains at attains
  exact attains.now

/-- What a program attains is attained by what is left of it behind a call. -/
theorem Attains.consult {program : OnDownstream (Except EventError Unit)}
    {call : Downstream.Call} {reply : Except DownstreamError call.Answer}
    {more : Except DownstreamError call.Answer → OnDownstream (Except EventError Unit)}
    (attains : Attains inv goal program d) (shape : program.quiet = .call call more)
    (served : d.Serves call reply d') :
    Attains inv goal (more reply) d' := by
  exact Program.Ensures.of_call attains shape served

theorem Attains.settle {program : OnDownstream (Except EventError Unit)}
    (attains : Attains inv goal program d) (shape : program.quiet = .done (.ok ())) :
    d.view = goal := by
  exact Program.Ensures.of_done attains shape rfl

/-- A program that gives up attains whatever it is meant to. -/
theorem attains_error (error : EventError) (holds : inv d.view) :
    Attains inv goal (.done (.error error)) d := by
  refine ⟨holds, fun succeeded => ?_⟩
  cases succeeded

theorem attains_ok (holds : inv goal) (there : d.view = goal) :
    Attains inv goal (.done (.ok ())) d := by
  refine ⟨?_, fun _ => there⟩
  show inv d.view
  rw [there]
  exact holds

/-- A reply that tells that the work is done, or was done before, is absorbed. -/
theorem attains_absorb {settled : DownstreamError → Bool}
    {reply : Except DownstreamError Unit} (absorbs : settled .notFound = true)
    (done : reply = .ok () ∨ reply = .error .notFound) (holds : inv goal)
    (there : d.view = goal) :
    Attains inv goal (absorb settled reply).run d := by
  rcases done with rfl | rfl
  · exact attains_ok holds there
  · unfold absorb
    simp only [absorbs]
    exact attains_ok holds there

/-- A fault is not absorbed. -/
theorem attains_absorb_fault {settled : DownstreamError → Bool} {error : DownstreamError}
    (fault : Downstream.IsFault error)
    (strict : ∀ error, Downstream.IsFault error → settled error = false)
    (holds : inv d.view) :
    Attains inv goal (absorb settled (.error error)).run d := by
  unfold absorb
  simp only [strict error fault]
  exact attains_error _ holds

theorem isNotFound_of_fault (error : DownstreamError) (fault : Downstream.IsFault error) :
    error.isNotFound = false := by
  cases error with
  | notFound | forbidden => exact absurd fault id
  | status | transport => rfl

theorem isForbidden_of_fault (error : DownstreamError) (fault : Downstream.IsFault error) :
    error.isForbidden = false := by
  cases error with
  | notFound | forbidden => exact absurd fault id
  | status | transport => rfl

theorem holds_of_moved (stays : inv d.view) (goes : inv (change d.view))
    (moved : d'.view = d.view ∨ d'.view = change d.view) :
    inv d'.view := by
  rcases moved with same | changed
  · rw [same]
    exact stays
  · rw [changed]
    exact goes

end Moves

theorem moves_deleteTeamTag (team : Team) :
    Moves (View.untagAll team.tag) (deleteTeamTag team) := by
  intro inv d stays goes
  refine ⟨stays, fun reply d' served => ?_⟩
  rcases served.works_or_fault fun _ _ works => works.deleteTag.2 with
    works | ⟨error, fault, rfl, moved⟩
  · obtain ⟨done, moved⟩ := works.deleteTag
    exact attains_absorb rfl done goes moved
  · exact attains_absorb_fault fault isNotFound_of_fault (holds_of_moved stays goes moved)

theorem moves_overwriteFinding (finding : FindingOverwrite) :
    Moves (View.overwrite finding.findingId ⟨finding.status, finding.notes⟩)
      (overwriteFinding finding) := by
  intro inv d stays goes
  refine ⟨stays, fun reply d' served => ?_⟩
  rcases served.works_or_fault fun _ _ works => works.updateFinding.2 with
    works | ⟨error, fault, rfl, moved⟩
  · obtain ⟨done, moved⟩ := works.updateFinding
    exact attains_absorb rfl done goes moved
  · exact attains_absorb_fault fault isNotFound_of_fault (holds_of_moved stays goes moved)

theorem moves_createAsset (asset : Asset) :
    Moves (View.tag asset.identifier {asset.team.tag}) (createAsset asset) := by
  intro inv d stays goes
  refine ⟨stays, fun reply d' served => ?_⟩
  rcases served.works_or_fault fun _ _ works => works.createTarget.2 with
    works | ⟨error, fault, rfl, moved⟩
  · obtain ⟨⟨target, rfl⟩, moved⟩ := works.createTarget
    exact attains_ok goes moved
  · exact attains_error _ (holds_of_moved stays goes moved)

theorem moves_deleteAsset (asset : Asset) (duplicates : Int64) :
    Moves (Event.dropAsset asset duplicates) (deleteAsset asset duplicates) := by
  intro inv d stays goes
  unfold Event.dropAsset at goes ⊢
  unfold deleteAsset
  by_cases kept : 0 < duplicates
  · simp only [if_pos kept] at goes ⊢
    exact ⟨stays, fun _ => rfl⟩
  · simp only [if_neg kept] at goes ⊢
    refine ⟨stays, fun reply d' served => ?_⟩
    have looks : ∀ reply d', d.Works (.targets asset.identifier) reply d' →
        d'.view = id d.view := fun _ _ works => congrArg Registry.view works.targets.1
    rcases served.works_or_fault looks with works | ⟨error, fault, rfl, moved⟩
    · obtain ⟨rfl, ⟨unknown, rfl⟩ | ⟨profile, shown, known, rfl⟩⟩ := works.targets
      · exact attains_ok goes (Registry.untag_view_of_none unknown).symm
      · refine ⟨stays, fun reply d'' served => ?_⟩
        rcases served.works_or_fault fun _ _ works => (works.deleteTargetTag known).2 with
          works | ⟨error, fault, rfl, moved⟩
        · obtain ⟨done, moved⟩ := works.deleteTargetTag known
          exact attains_absorb rfl done goes moved
        · show Attains inv _ (absorb (fun error => error.isNotFound || error.isForbidden)
            (.error error)).run d''
          refine attains_absorb_fault fault ?_ (holds_of_moved stays goes moved)
          intro other fault
          rw [isNotFound_of_fault other fault, isForbidden_of_fault other fault]
          rfl
    · exact attains_error _ (holds_of_moved stays stays moved)

/-- A replay of an event never leads away from its effect, and has it if it succeeds. -/
theorem attains_applyEvent (event : Event) {d : Registry} {goal : View}
    (ahead : event.effect d.view = goal) :
    Attains (fun view => event.effect view = goal) goal (applyEvent event).run d := by
  have still : event.effect goal = goal := by
    rw [← ahead]
    exact event.effect_effect d.view
  cases event with
  | deleteTeam team | deleteAllAssets team =>
      obtain rfl := ahead
      exact moves_deleteTeamTag team _ d rfl still
  | createAsset asset =>
      obtain rfl := ahead
      exact moves_createAsset asset _ d rfl still
  | deleteAsset asset duplicates =>
      obtain rfl := ahead
      exact moves_deleteAsset asset duplicates _ d rfl still
  | overwriteFinding finding =>
      obtain rfl := ahead
      exact moves_overwriteFinding finding _ d rfl still
  | updateAsset old new duplicates =>
      have dropped : Event.effect (.updateAsset old new duplicates)
          (Event.dropAsset old duplicates d.view) = goal := by
        rw [← ahead]
        show View.tag _ _ (Event.dropAsset _ _ (Event.dropAsset _ _ _)) = _
        rw [Event.dropAsset_dropAsset]
        rfl
      have deleted := moves_deleteAsset old duplicates
        (fun view => Event.effect (.updateAsset old new duplicates) view = goal) d ahead dropped
      refine Program.Ensures.bind deleted ?_
      intro result d' holds there
      cases result with
      | error error => exact ⟨holds, fun succeeded => by cases succeeded⟩
      | ok answer =>
          have there := there rfl
          have goal_eq : View.tag new.identifier {new.team.tag} d'.view = goal := by
            rw [there]
            exact ahead
          have created := moves_createAsset new
            (fun view => Event.effect (.updateAsset old new duplicates) view = goal) d' holds
            (by rw [goal_eq]; exact still)
          rw [goal_eq] at created
          exact created

/-- The effect of an entry on a registry: that of its event, if it has one. -/
def effect (entry : Entry) : View → View :=
  match Event.decode entry.action entry.version entry.payload with
  | .ok event => event.effect
  | .error _ => id

/-- A replay of an entry never leads away from its effect, and has it if it succeeds. -/
theorem attains_apply (entry : Entry) {d : Registry} {goal : View}
    (ahead : effect entry d.view = goal) :
    Attains (fun view => effect entry view = goal) goal (apply entry) d := by
  unfold effect at ahead ⊢
  unfold apply
  cases decoded : Event.decode entry.action entry.version entry.payload with
  | error error =>
      rw [decoded] at ahead
      exact ⟨ahead, fun succeeded => by cases succeeded⟩
  | ok event =>
      rw [decoded] at ahead
      exact attains_applyEvent event ahead

end Replay
end OutboxRelay
