import OutboxRelay.Proofs.Replay.Effect

/-!
# Clean replays

A clean replay is one in which no call fails.  Wherever a replay with failures got to,
a clean one could have got there at once, with the same choice of identities.

**Results.**
* `runs_apply`: a registry with the effect of an entry can come about by a clean replay.
* `Applies.view_eq`: every clean replay has the effect of its entry.
* `AppliesEach.view_eq`: clean replays of the same entries end alike.
-/

namespace OutboxRelay

open Downstream (Registry View)

namespace Downstream.Registry

variable {d d' : Registry}

theorem Grows.retag (grows : d.Grows d')
    (change : String → Finset String → Finset String) :
    (d.retag change).Grows d' := by
  intro identifier profile known
  obtain ⟨old, was, rfl⟩ := Option.map_eq_some_iff.mp known
  exact grows identifier old was

/-! ## Calls that work -/

theorem works_deleteTag {scope tag : String} (grows : d.Grows d')
    (there : d'.view = d.view.untagAll tag) :
    ∃ reply, (reply = .ok () ∨ reply = .error .notFound) ∧
      d.Works (.deleteTag scope tag) reply d' := by
  by_cases worn : ∃ identifier profile,
      d.target identifier = some profile ∧ tag ∈ profile.tags
  · obtain rfl : d.retag (fun _ old => old.erase tag) = d' :=
      (grows.retag _).eq_of_view_eq ((view_retag_untagAll d tag).trans there.symm)
    exact ⟨.ok (), .inl rfl, .untaggedAll worn⟩
  · have works : d.Works (.deleteTag scope tag) (.error .notFound) d :=
      .nowhere fun identifier profile known member =>
        worn ⟨identifier, profile, known, member⟩
    obtain rfl : d = d' := grows.eq_of_view_eq (works.deleteTag.2.trans there.symm)
    exact ⟨.error .notFound, .inr rfl, works⟩

theorem works_updateFinding {id tag : String} {update : FindingUpdate}
    (grows : d.Grows d') (there : d'.view = d.view.overwrite id update) :
    ∃ reply, (reply = .ok () ∨ reply = .error .notFound) ∧
      d.Works (.updateFinding id update tag) reply d' := by
  cases known : d.finding id with
  | some old =>
      have works : d.Works (.updateFinding id update tag) (.ok ()) (d.overwrite id update) :=
        .overwritten known
      have grown : (d.overwrite id update).Grows d' := grows
      obtain rfl := grown.eq_of_view_eq (works.updateFinding.2.trans there.symm)
      exact ⟨.ok (), .inl rfl, works⟩
  | none =>
      have works : d.Works (.updateFinding id update tag) (.error .notFound) d :=
        .unknown known
      obtain rfl : d = d' := grows.eq_of_view_eq (works.updateFinding.2.trans there.symm)
      exact ⟨.error .notFound, .inr rfl, works⟩

theorem works_deleteTargetTag {scope identifier tag : String} {profile : Profile}
    (known : d.target identifier = some profile) (grows : d.Grows d')
    (there : d'.view = d.view.untag identifier tag) :
    ∃ reply, (reply = .ok () ∨ reply = .error .notFound) ∧
      d.Works (.deleteTargetTag scope profile.id tag) reply d' := by
  by_cases worn : tag ∈ profile.tags
  · have works : d.Works (.deleteTargetTag scope profile.id tag) (.ok ())
        (d.retag fun other old => if other = identifier then old.erase tag else old) :=
      .untagged known worn
    obtain rfl := (grows.retag _).eq_of_view_eq
      ((view_retag_untag d identifier tag).trans there.symm)
    exact ⟨.ok (), .inl rfl, works⟩
  · have works : d.Works (.deleteTargetTag scope profile.id tag) (.error .notFound) d := by
      refine .unworn fun other profile' known' same member => worn ?_
      obtain rfl := d.apart other identifier profile' profile known' known same
      rw [known] at known'
      cases known'
      exact member
    obtain rfl : d = d' :=
      grows.eq_of_view_eq ((works.deleteTargetTag known).2.trans there.symm)
    exact ⟨.error .notFound, .inr rfl, works⟩

theorem works_createTarget {identifier : String} (tags : List String) (grows : d.Grows d')
    (there : d'.view = d.view.tag identifier tags.toFinset) :
    ∃ target, d.Works (.createTarget identifier tags) (.ok target) d' := by
  cases known : d.target identifier with
  | some profile =>
      obtain rfl := (grows.retag _).eq_of_view_eq
        ((view_retag_tag known).trans there.symm)
      exact ⟨_, .tagged _ known (Finset.toList_toFinset _)⟩
  | none =>
      -- The new target has the identity that it has in the end.
      have made : (d'.target identifier).map Profile.tags = some tags.toFinset := by
        have made := congrFun (congrArg View.tags there) identifier
        simpa [view, View.tag, known] using made
      obtain ⟨profile, made, -⟩ := Option.map_eq_some_iff.mp made
      have fresh : ∀ other old, d.target other = some old → old.id ≠ profile.id := by
        intro other old was same
        obtain ⟨tags', still⟩ := grows other old was
        obtain rfl := d'.apart other identifier _ profile still made same
        rw [known] at was
        cases was
      have grown : (d.enroll identifier profile.id tags.toFinset fresh).Grows d' := by
        intro other old was
        by_cases same : other = identifier
        · subst same
          obtain rfl : ⟨profile.id, tags.toFinset⟩ = old := by
            simpa [enroll] using was
          exact ⟨profile.tags, made⟩
        · exact grows other old ((Function.update_of_ne same ..).symm.trans was)
      obtain rfl := grown.eq_of_view_eq ((view_enroll known).trans there.symm)
      exact ⟨_, .created tags known fresh rfl⟩

end Downstream.Registry

namespace Replay

/-! ## Events -/

/-- A program can run from a registry to another one without a failure. -/
def RunsTo (program : Resolving Unit) (d d' : Registry) : Prop :=
  Program.Runs (I := Downstream.interface) Registry.Works program.run d (.ok ()) d'

section Events

variable {d d' : Registry}

theorem runs_absorb {settled : DownstreamError → Bool} {reply : Except DownstreamError Unit}
    (absorbs : settled .notFound = true)
    (done : reply = .ok () ∨ reply = .error .notFound) :
    RunsTo (absorb settled reply) d d := by
  rcases done with rfl | rfl
  · exact .done _ _
  · unfold RunsTo absorb
    simp only [absorbs]
    exact .note _ (.done _ _)

theorem runs_deleteTeamTag (team : Team) (grows : d.Grows d')
    (there : d'.view = d.view.untagAll team.tag) :
    RunsTo (deleteTeamTag team) d d' := by
  obtain ⟨reply, done, works⟩ := Registry.works_deleteTag grows there
  exact .call works (runs_absorb rfl done)

theorem runs_overwriteFinding (finding : FindingOverwrite) (grows : d.Grows d')
    (there : d'.view =
      d.view.overwrite finding.findingId ⟨finding.status, finding.notes⟩) :
    RunsTo (overwriteFinding finding) d d' := by
  obtain ⟨reply, done, works⟩ := Registry.works_updateFinding grows there
  exact .call works (runs_absorb rfl done)

theorem runs_createAsset (asset : Asset) (grows : d.Grows d')
    (there : d'.view = d.view.tag asset.identifier {asset.team.tag}) :
    RunsTo (createAsset asset) d d' := by
  obtain ⟨target, works⟩ := Registry.works_createTarget [asset.team.tag] grows there
  exact .call works (.done _ _)

theorem runs_deleteAsset (asset : Asset) (duplicates : Int64) (grows : d.Grows d')
    (there : d'.view = Event.dropAsset asset duplicates d.view) :
    RunsTo (deleteAsset asset duplicates) d d' := by
  unfold Event.dropAsset at there
  unfold RunsTo deleteAsset
  by_cases kept : 0 < duplicates
  · rw [if_pos kept] at there
    obtain rfl := grows.eq_of_view_eq there.symm
    simp only [if_pos kept]
    exact .note _ (.done _ _)
  · rw [if_neg kept] at there
    simp only [if_neg kept]
    cases known : d.target asset.identifier with
    | none =>
        rw [Registry.untag_view_of_none known] at there
        obtain rfl := grows.eq_of_view_eq there.symm
        exact .call (.missing known) (.done _ _)
    | some profile =>
        obtain ⟨reply, done, works⟩ := Registry.works_deleteTargetTag known grows there
        refine .call (.found profile.tags.toList known (Finset.toList_toFinset _)) ?_
        refine .call works ?_
        exact runs_absorb rfl done

/-- A registry with the effect of an event can come about without a failure. -/
theorem runs_applyEvent (event : Event) (grows : d.Grows d')
    (there : d'.view = event.effect d.view) :
    RunsTo (applyEvent event) d d' := by
  cases event with
  | deleteTeam team | deleteAllAssets team => exact runs_deleteTeamTag team grows there
  | createAsset asset => exact runs_createAsset asset grows there
  | deleteAsset asset duplicates => exact runs_deleteAsset asset duplicates grows there
  | overwriteFinding finding => exact runs_overwriteFinding finding grows there
  | updateAsset old new duplicates =>
      obtain ⟨between, first, second, dropped⟩ : ∃ between : Registry,
          d.Grows between ∧ between.Grows d' ∧
            between.view = Event.dropAsset old duplicates d.view := by
        unfold Event.dropAsset
        by_cases kept : 0 < duplicates
        · exact ⟨d, .refl d, grows, (if_pos kept).symm⟩
        · rw [if_neg kept]
          exact ⟨_, Registry.grows_retag d _, grows.retag _,
            Registry.view_retag_untag d old.identifier old.team.tag⟩
      have created : d'.view = between.view.tag new.identifier {new.team.tag} := by
        rw [dropped]
        exact there
      exact Program.Runs.bind (runs_deleteAsset old duplicates first dropped)
        (runs_createAsset new second created)

end Events

/-! ## Entries -/

/-- Whether the payload of an entry is an event. -/
def Decodable (entry : Entry) : Prop :=
  ∃ event, Event.decode entry.action entry.version entry.payload = .ok event

/-- An entry can be resolved without a failure, which leads from a registry to another. -/
abbrev Applies (d : Registry) (entry : Entry) (d' : Registry) : Prop :=
  RunsTo (ExceptT.mk (apply entry)) d d'

/-- Entries can be resolved without a failure, each once and in order. -/
def AppliesEach (d : Registry) : List Entry → Registry → Prop
  | [], d' => d' = d
  | entry :: rest, d' => ∃ between, Applies d entry between ∧ AppliesEach between rest d'

section Entries

variable {d d' : Registry} {entry : Entry}

theorem runs_apply (decodable : Decodable entry) (grows : d.Grows d')
    (there : d'.view = effect entry d.view) :
    Applies d entry d' := by
  obtain ⟨event, decoded⟩ := decodable
  unfold effect at there
  rw [decoded] at there
  have run := runs_applyEvent event grows there
  unfold Applies RunsTo apply
  rw [decoded]
  exact run

/-- Every clean replay has the effect of its entry. -/
theorem Applies.view_eq (applies : Applies d entry d') :
    d'.view = effect entry d.view := by
  have attains := attains_apply entry (d := d) rfl
  exact (attains.restrict fun _ _ _ _ works => Or.inl works).of_runs applies rfl

theorem appliesEach_append {first second : List Entry} :
    AppliesEach d (first ++ second) d' ↔
      ∃ between, AppliesEach d first between ∧ AppliesEach between second d' := by
  induction first generalizing d with
  | nil =>
      constructor
      · exact fun applies => ⟨d, rfl, applies⟩
      · rintro ⟨_, rfl, applies⟩
        exact applies
  | cons entry rest ih =>
      constructor
      · rintro ⟨next, applies, more⟩
        obtain ⟨between, before, behind⟩ := ih.mp more
        exact ⟨between, ⟨next, applies, before⟩, behind⟩
      · rintro ⟨between, ⟨next, applies, before⟩, behind⟩
        exact ⟨next, applies, ih.mpr ⟨between, before, behind⟩⟩

/-- Clean replays of the same entries end alike. -/
theorem AppliesEach.view_eq {entries : List Entry} {d₁ d₂ d₁' d₂' : Registry}
    (applies : AppliesEach d₁ entries d₁') (applies' : AppliesEach d₂ entries d₂')
    (alike : d₁.view = d₂.view) :
    d₁'.view = d₂'.view := by
  induction entries generalizing d₁ d₂ with
  | nil =>
      obtain rfl := applies
      obtain rfl := applies'
      exact alike
  | cons entry rest ih =>
      obtain ⟨between, first, more⟩ := applies
      obtain ⟨between', first', more'⟩ := applies'
      refine ih more more' ?_
      rw [first.view_eq, first'.view_eq, alike]

end Entries

end Replay
end OutboxRelay
