import OutboxRelay.Downstream
import Mathlib.Data.Finset.Basic
import Mathlib.Data.Finset.Lattice.Lemmas

/-!
# A reference database

The registry is what the vulnerability database is meant to be: targets with distinct
identifiers, each with a set of tags, and findings.  It chooses the identity of a target
when it creates it, and nothing else.

**Rules.**
* A call that works has its whole effect at one instant.
* Any call may fail for a reason that has nothing to do with its work, before its effect
  or behind it.

**Results.**
* `view`: a registry without the identities that it chose.
* `Works.createTarget`, `Works.deleteTag`, `Works.deleteTargetTag`, `Works.updateFinding`:
  what a call does to the view, in whatever way it is served.
* `Serves.grows`: a target keeps its identity.
-/

namespace OutboxRelay
namespace Downstream

/-- What a registry knows of a target. -/
structure Profile where
  id : String
  tags : Finset String

/-- A vulnerability database that keeps to its rules. -/
structure Registry where
  target : String → Option Profile
  finding : String → Option FindingUpdate
  /-- No two targets have the same identity. -/
  apart : ∀ identifier other profile profile', target identifier = some profile →
    target other = some profile' → profile.id = profile'.id → identifier = other

/-- A registry without the identities that it chose. -/
@[ext] structure View where
  tags : String → Option (Finset String)
  finding : String → Option FindingUpdate

/-! ## Views -/

namespace View

/-- Adds tags to a target, which is created if need be. -/
def tag (identifier : String) (tags : Finset String) (view : View) : View :=
  { view with
    tags := Function.update view.tags identifier
      (some ((view.tags identifier).getD ∅ ∪ tags)) }

/-- Removes a tag from a target. -/
def untag (identifier tag : String) (view : View) : View :=
  { view with
    tags := Function.update view.tags identifier
      ((view.tags identifier).map fun tags => tags.erase tag) }

/-- Removes a tag from every target. -/
def untagAll (tag : String) (view : View) : View :=
  { view with tags := fun identifier => (view.tags identifier).map fun tags => tags.erase tag }

/-- Overrides the state of a finding, if it is known. -/
def overwrite (id : String) (update : FindingUpdate) (view : View) : View :=
  { view with
    finding := Function.update view.finding id ((view.finding id).map fun _ => update) }

section Laws

variable (view : View)

theorem untagAll_untagAll (tag : String) :
    (view.untagAll tag).untagAll tag = view.untagAll tag := by
  ext1
  · funext identifier
    show ((view.tags identifier).map _).map _ = (view.tags identifier).map _
    rw [Option.map_map]
    congr 1
    funext tags
    exact Finset.erase_idem
  · rfl

theorem tag_tag (identifier : String) (tags : Finset String) :
    (view.tag identifier tags).tag identifier tags = view.tag identifier tags := by
  ext1
  · simp only [tag, Function.update_self, Function.update_idem, Option.getD_some,
      Finset.union_assoc, Finset.union_idempotent]
  · rfl

theorem untag_untag (identifier tag : String) :
    (view.untag identifier tag).untag identifier tag = view.untag identifier tag := by
  ext1
  · simp only [untag, Function.update_self, Function.update_idem, Option.map_map]
    congr 2
    funext tags
    exact Finset.erase_idem
  · rfl

theorem overwrite_overwrite (id : String) (update : FindingUpdate) :
    (view.overwrite id update).overwrite id update = view.overwrite id update := by
  ext1
  · rfl
  · simp only [overwrite, Function.update_self, Function.update_idem, Option.map_map]
    rfl

/-- A removal that is made good by what comes behind it can be made once more. -/
theorem tag_untag_tag (identifier other tag : String) (tags : Finset String) :
    ((view.tag other tags).untag identifier tag).tag other tags =
      (view.untag identifier tag).tag other tags := by
  ext1
  · simp only [View.tag, untag]
    by_cases same : identifier = other
    · subst same
      simp only [Function.update_self, Function.update_idem]
      congr 2
      cases view.tags identifier with
      | none =>
          ext name
          simp
      | some worn =>
          ext name
          simp
          tauto
    · have same' : other ≠ identifier := fun eq => same eq.symm
      simp only [Function.update_of_ne same, Function.update_of_ne same',
        Function.update_self, Option.getD_some]
      rw [Function.update_comm same, Function.update_idem, Finset.union_assoc,
        Finset.union_idempotent]
      exact Function.update_comm same' _ _ view.tags
  · rfl

end Laws

end View

/-! ## Registries -/

namespace Registry

/-- What a registry looks like from outside. -/
def view (d : Registry) : View :=
  ⟨fun identifier => (d.target identifier).map Profile.tags, d.finding⟩

/-- Changes the tags of all targets. -/
def retag (d : Registry) (change : String → Finset String → Finset String) : Registry where
  target identifier :=
    (d.target identifier).map fun profile => ⟨profile.id, change identifier profile.tags⟩
  finding := d.finding
  apart := by
    intro identifier other profile profile' known known' same
    obtain ⟨old, was, rfl⟩ := Option.map_eq_some_iff.mp known
    obtain ⟨old', was', rfl⟩ := Option.map_eq_some_iff.mp known'
    exact d.apart identifier other old old' was was' same

/-- Creates a target with an identity that none has. -/
def enroll (d : Registry) (identifier id : String) (tags : Finset String)
    (fresh : ∀ other profile, d.target other = some profile → profile.id ≠ id) :
    Registry where
  target := Function.update d.target identifier (some ⟨id, tags⟩)
  finding := d.finding
  apart := by
    intro first second profile profile' known known' same
    by_cases new : first = identifier
    · by_cases new' : second = identifier
      · rw [new, new']
      · subst new
        rw [Function.update_self] at known
        rw [Function.update_of_ne new'] at known'
        cases known
        exact absurd same.symm (fresh second profile' known')
    · rw [Function.update_of_ne new] at known
      by_cases new' : second = identifier
      · subst new'
        rw [Function.update_self] at known'
        cases known'
        exact absurd same (fresh first profile known)
      · rw [Function.update_of_ne new'] at known'
        exact d.apart first second profile profile' known known' same

/-- Overrides the state of a finding. -/
def overwrite (d : Registry) (id : String) (update : FindingUpdate) : Registry :=
  { d with finding := Function.update d.finding id (some update) }

/-- How a registry serves a call that works. -/
inductive Works (d : Registry) :
    (call : Call) → Except DownstreamError call.Answer → Registry → Prop
  /-- The target exists and is tagged. -/
  | tagged {identifier : String} {tags : List String} {profile : Profile}
      (shown : List String) (known : d.target identifier = some profile)
      (same : shown.toFinset = profile.tags ∪ tags.toFinset) :
      Works d (.createTarget identifier tags) (.ok (⟨profile.id, identifier, shown⟩ : Target))
        (d.retag fun other old => if other = identifier then old ∪ tags.toFinset else old)
  | created {identifier id : String} {tags : List String} (shown : List String)
      (unknown : d.target identifier = none)
      (fresh : ∀ other profile, d.target other = some profile → profile.id ≠ id)
      (same : shown.toFinset = tags.toFinset) :
      Works d (.createTarget identifier tags) (.ok (⟨id, identifier, shown⟩ : Target))
        (d.enroll identifier id tags.toFinset fresh)
  /-- Some targets had the tag, and none has it then. -/
  | untaggedAll {scope tag : String}
      (worn : ∃ identifier profile, d.target identifier = some profile ∧ tag ∈ profile.tags) :
      Works d (.deleteTag scope tag) (.ok ()) (d.retag fun _ old => old.erase tag)
  | nowhere {scope tag : String}
      (unworn : ∀ identifier profile, d.target identifier = some profile →
        tag ∉ profile.tags) :
      Works d (.deleteTag scope tag) (.error .notFound) d
  /-- The target had the tag, and does not have it then. -/
  | untagged {scope identifier tag : String} {profile : Profile}
      (known : d.target identifier = some profile) (worn : tag ∈ profile.tags) :
      Works d (.deleteTargetTag scope profile.id tag) (.ok ())
        (d.retag fun other old => if other = identifier then old.erase tag else old)
  /-- No target with the identity has the tag. -/
  | unworn {scope id tag : String}
      (unworn : ∀ identifier profile, d.target identifier = some profile →
        profile.id = id → tag ∉ profile.tags) :
      Works d (.deleteTargetTag scope id tag) (.error .notFound) d
  /-- The only target with the identifier is found. -/
  | found {identifier : String} {profile : Profile} (shown : List String)
      (known : d.target identifier = some profile) (same : shown.toFinset = profile.tags) :
      Works d (.targets identifier)
        (.ok ([⟨profile.id, identifier, shown⟩] : List Target)) d
  | missing {identifier : String} (unknown : d.target identifier = none) :
      Works d (.targets identifier) (.ok ([] : List Target)) d
  | overwritten {id tag : String} {update old : FindingUpdate}
      (known : d.finding id = some old) :
      Works d (.updateFinding id update tag) (.ok ()) (d.overwrite id update)
  | unknown {id tag : String} {update : FindingUpdate} (unknown : d.finding id = none) :
      Works d (.updateFinding id update tag) (.error .notFound) d

end Registry

/-- Whether a failure has nothing to do with the work of a call. -/
def IsFault : DownstreamError → Prop
  | .status .. | .transport _ => True
  | .notFound | .forbidden => False

/-- How a registry serves a call that may fail, before its effect or behind it. -/
def Registry.Serves (d : Registry) (call : Call)
    (reply : Except DownstreamError call.Answer) (d' : Registry) : Prop :=
  d.Works call reply d' ∨
    ∃ error, IsFault error ∧ reply = .error error ∧
      (d' = d ∨ ∃ reply', d.Works call reply' d')

namespace Registry

variable {d d' d'' : Registry}

/-! ## Identities -/

/-- Every target is still there, with the identity that it had. -/
def Grows (d d' : Registry) : Prop :=
  ∀ identifier profile, d.target identifier = some profile →
    ∃ tags, d'.target identifier = some ⟨profile.id, tags⟩

theorem Grows.refl (d : Registry) : d.Grows d := by
  exact fun identifier profile known => ⟨profile.tags, known⟩

theorem Grows.trans (first : d.Grows d') (second : d'.Grows d'') : d.Grows d'' := by
  intro identifier profile known
  obtain ⟨tags, known'⟩ := first identifier profile known
  exact second identifier ⟨profile.id, tags⟩ known'

theorem grows_retag (d : Registry) (change : String → Finset String → Finset String) :
    d.Grows (d.retag change) := by
  intro identifier profile known
  exact ⟨_, congrArg (Option.map _) known⟩

theorem grows_enroll {identifier id : String} {tags : Finset String}
    {fresh : ∀ other profile, d.target other = some profile → profile.id ≠ id}
    (unknown : d.target identifier = none) :
    d.Grows (d.enroll identifier id tags fresh) := by
  intro other profile known
  have apart : other ≠ identifier := by
    rintro rfl
    rw [unknown] at known
    cases known
  exact ⟨profile.tags, (Function.update_of_ne apart ..).trans known⟩

/-- A registry is told by its view and its identities. -/
theorem Grows.eq_of_view_eq (grows : d.Grows d') (same : d.view = d'.view) : d = d' := by
  have target_eq : d.target = d'.target := by
    funext identifier
    have tags_eq : (d.target identifier).map Profile.tags =
        (d'.target identifier).map Profile.tags :=
      congrFun (congrArg View.tags same) identifier
    cases known : d.target identifier with
    | none =>
        rw [known] at tags_eq
        exact (Option.map_eq_none_iff.mp tags_eq.symm).symm
    | some profile =>
        obtain ⟨tags, known'⟩ := grows identifier profile known
        rw [known, known'] at tags_eq
        cases tags_eq
        exact known'.symm
  have finding_eq : d.finding = d'.finding := congrArg View.finding same
  cases d
  cases d'
  cases target_eq
  cases finding_eq
  rfl

theorem Works.grows {call : Call} {reply : Except DownstreamError call.Answer}
    (works : d.Works call reply d') : d.Grows d' := by
  cases works with
  | tagged | untaggedAll | untagged => exact grows_retag d _
  | created shown unknown fresh same => exact grows_enroll unknown
  | nowhere | unworn | found | missing | unknown => exact Grows.refl d
  | overwritten => exact fun identifier profile known => ⟨profile.tags, known⟩

theorem Serves.grows {call : Call} {reply : Except DownstreamError call.Answer}
    (served : d.Serves call reply d') : d.Grows d' := by
  rcases served with works | ⟨error, -, -, rfl | ⟨reply', works⟩⟩
  · exact works.grows
  · exact Grows.refl d'
  · exact works.grows

/-! ## What calls do to the view -/

theorem view_enroll {identifier id : String} {tags : Finset String}
    {fresh : ∀ other profile, d.target other = some profile → profile.id ≠ id}
    (unknown : d.target identifier = none) :
    (d.enroll identifier id tags fresh).view = d.view.tag identifier tags := by
  ext1
  · funext other
    show Option.map _ (Function.update d.target identifier _ other) = _
    simp only [View.tag, view, unknown]
    by_cases same : other = identifier
    · subst same
      simp
    · simp [same]
  · rfl

theorem view_retag_tag {identifier : String} {tags : Finset String} {profile : Profile}
    (known : d.target identifier = some profile) :
    (d.retag fun other old => if other = identifier then old ∪ tags else old).view =
      d.view.tag identifier tags := by
  ext1
  · funext other
    by_cases same : other = identifier
    · subst same
      simp [retag, view, View.tag, known]
    · simp [retag, view, View.tag, same, Function.comp_def]
  · rfl

theorem view_retag_untag (d : Registry) (identifier tag : String) :
    (d.retag fun other old => if other = identifier then old.erase tag else old).view =
      d.view.untag identifier tag := by
  ext1
  · funext other
    by_cases same : other = identifier
    · subst same
      simp [retag, view, View.untag, Function.comp_def]
    · simp [retag, view, View.untag, same, Function.comp_def]
  · rfl

theorem view_retag_untagAll (d : Registry) (tag : String) :
    (d.retag fun _ old => old.erase tag).view = d.view.untagAll tag := by
  ext1
  · funext other
    simp [retag, view, View.untagAll, Function.comp_def]
  · rfl

theorem Works.createTarget {identifier : String} {tags : List String}
    {reply : Except DownstreamError Target}
    (works : d.Works (.createTarget identifier tags) reply d') :
    (∃ target, reply = .ok target) ∧ d'.view = d.view.tag identifier tags.toFinset := by
  cases works with
  | tagged shown known same => exact ⟨⟨_, rfl⟩, view_retag_tag known⟩
  | created shown unknown fresh same => exact ⟨⟨_, rfl⟩, view_enroll unknown⟩

theorem Works.deleteTag {scope tag : String} {reply : Except DownstreamError Unit}
    (works : d.Works (.deleteTag scope tag) reply d') :
    (reply = .ok () ∨ reply = .error .notFound) ∧ d'.view = d.view.untagAll tag := by
  cases works with
  | untaggedAll worn => exact ⟨.inl rfl, view_retag_untagAll d tag⟩
  | nowhere unworn =>
      refine ⟨.inr rfl, ?_⟩
      ext1
      · funext identifier
        show (d.target identifier).map _ = ((d.target identifier).map _).map _
        cases known : d.target identifier with
        | none => rfl
        | some profile =>
            exact congrArg some (Finset.erase_eq_of_notMem (unworn identifier profile known)).symm
      · rfl

theorem Works.targets {identifier : String} {reply : Except DownstreamError (List Target)}
    (works : d.Works (.targets identifier) reply d') :
    d' = d ∧
      ((d.target identifier = none ∧ reply = .ok []) ∨
        ∃ profile shown, d.target identifier = some profile ∧
          reply = .ok [⟨profile.id, identifier, shown⟩]) := by
  cases works with
  | found shown known same => exact ⟨rfl, .inr ⟨_, shown, known, rfl⟩⟩
  | missing unknown => exact ⟨rfl, .inl ⟨unknown, rfl⟩⟩

theorem Works.deleteTargetTag {scope identifier tag : String} {profile : Profile}
    {reply : Except DownstreamError Unit} (known : d.target identifier = some profile)
    (works : d.Works (.deleteTargetTag scope profile.id tag) reply d') :
    (reply = .ok () ∨ reply = .error .notFound) ∧
      d'.view = d.view.untag identifier tag := by
  generalize id_eq : profile.id = id at works
  cases works with
  | @untagged _ other _ profile' known' worn =>
      obtain rfl := d.apart identifier other profile profile' known known' id_eq
      exact ⟨.inl rfl, view_retag_untag d identifier tag⟩
  | unworn unworn =>
      refine ⟨.inr rfl, ?_⟩
      ext1
      · have kept : profile.tags.erase tag = profile.tags :=
          Finset.erase_eq_of_notMem (unworn identifier profile known id_eq)
        simp [view, View.untag, known, kept]
      · rfl

/-- There is nothing to remove from a target that does not exist. -/
theorem untag_view_of_none {identifier tag : String}
    (unknown : d.target identifier = none) :
    d.view.untag identifier tag = d.view := by
  ext1
  · simp [view, View.untag, unknown]
  · rfl

theorem Works.updateFinding {id tag : String} {update : FindingUpdate}
    {reply : Except DownstreamError Unit}
    (works : d.Works (.updateFinding id update tag) reply d') :
    (reply = .ok () ∨ reply = .error .notFound) ∧ d'.view = d.view.overwrite id update := by
  cases works with
  | overwritten known =>
      refine ⟨.inl rfl, ?_⟩
      ext1
      · rfl
      · simp [Registry.overwrite, view, View.overwrite, known]
  | unknown unknown =>
      refine ⟨.inr rfl, ?_⟩
      ext1
      · rfl
      · simp [view, View.overwrite, unknown]

/-- A call that changes the view in one way changes it so or not at all, if it fails. -/
theorem Serves.works_or_fault {call : Call} {reply : Except DownstreamError call.Answer}
    {change : View → View}
    (does : ∀ reply d', d.Works call reply d' → d'.view = change d.view)
    (served : d.Serves call reply d') :
    d.Works call reply d' ∨
      ∃ error, IsFault error ∧ reply = .error error ∧
        (d'.view = d.view ∨ d'.view = change d.view) := by
  rcases served with works | ⟨error, fault, failed, rfl | ⟨reply', works⟩⟩
  · exact .inl works
  · exact .inr ⟨error, fault, failed, .inl rfl⟩
  · exact .inr ⟨error, fault, failed, .inr (does reply' d' works)⟩

end Registry

end Downstream
end OutboxRelay
