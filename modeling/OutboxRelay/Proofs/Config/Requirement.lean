import OutboxRelay.Config
import OutboxRelay.Proofs.Number.Integer

/-!
# Requirements on settings

A configuration is read from texts with keys.  What is asked of the texts is a row of
requirements, and an error is about the first of them that is not met.

**Method.** Each part of the reading judges some requirements: it has a value just when they are
met, and is refused for the first that is not.  Parts one behind the other judge the requirements
one behind the other, so that the whole reading judges all of them.

**Results.**
* `Judges.bind`: parts one behind the other.
* `judges_required`, `judges_parsed`, `judges_optional` and `judges_withDefault`: the parts that
  look at a single key.
-/

namespace OutboxRelay
namespace Config

open Number (Spells)

/-! ## Requirements -/

/-- What is asked of the text for a key. -/
inductive Demand
  /-- There is a text. -/
  | presence
  /-- If there is a text, it is a URL. -/
  | url
  /-- If there is a text, it is a socket address. -/
  | address
  /-- If there is a text, it spells an integer of some bounds. -/
  | integer (signed : Bool) (least greatest : Int)

/-- Whether a demand is met by the text for a key, if there is one. -/
def Demand.IsMetBy : Demand → Option String → Prop
  | presence, given => given.isSome = true
  | url, given => ∀ text ∈ given, ∃ url, Url.parse text = .ok url
  | address, given => ∀ text ∈ given, ∃ address, Net.SocketAddress.parse? text = some address
  | integer signed least greatest, given =>
      ∀ text ∈ given, ∃ n, Spells signed least greatest text n

/-- A demand on the text for a key. -/
structure Requirement where
  key : String
  demand : Demand

/-- Whether a requirement is met by some texts. -/
def Requirement.IsMet (lookup : Lookup) (requirement : Requirement) : Prop :=
  requirement.demand.IsMetBy (lookup requirement.key)

/-- The key of the limit of attempts. -/
abbrev limitKey : String := "OUTBOX_MAX_ATTEMPTS"

/-- A limit of attempts allows for one. -/
def limitRequirement : Requirement :=
  ⟨limitKey, .integer true 1 (2 ^ 31 - 1)⟩

/-- All requirements, in order. -/
def requirements : List Requirement :=
  [⟨"DATABASE_URL", .presence⟩,
    ⟨"VULNDB_URL", .presence⟩,
    ⟨"VULNDB_URL", .url⟩,
    ⟨"LISTEN_ADDR", .address⟩,
    ⟨"VULNDB_TIMEOUT_SECS", .integer false 0 (2 ^ 64 - 1)⟩,
    ⟨"OUTBOX_LOCK_ID", .integer true (-2 ^ 63) (2 ^ 63 - 1)⟩,
    ⟨"OUTBOX_STARTUP_DELAY_MS", .integer false 0 (2 ^ 64 - 1)⟩,
    ⟨"OUTBOX_RETRY_DELAY_MS", .integer false 0 (2 ^ 64 - 1)⟩,
    limitRequirement]

/-- Whether a requirement is the first of a row that is not met. -/
def IsFirstUnmet (lookup : Lookup) (row : List Requirement) (requirement : Requirement) : Prop :=
  ∃ front rest, row = front ++ requirement :: rest ∧ (∀ each ∈ front, each.IsMet lookup) ∧
    ¬requirement.IsMet lookup

/-- What an error says of a requirement that is not met. -/
inductive Complains (lookup : Lookup) : Requirement → ConfigError → Prop
  /-- There is no text. -/
  | missing (key : String) : Complains lookup ⟨key, .presence⟩ (.missing key)
  /-- There is a text, which is shown as it was given. -/
  | unread {key text : String} {demand : Demand} (other : demand ≠ .presence)
      (given : lookup key = some text)
      (strange : key = limitKey → ∀ n, ¬Spells true (-2 ^ 31) 0 text n) (reason : String) :
      Complains lookup ⟨key, demand⟩ (.invalid key text reason)
  /-- There is a limit that does not allow for one attempt, of which the number is shown. -/
  | tooFew {text : String} {n : Int} (given : lookup limitKey = some text)
      (spells : Spells true (-2 ^ 31) 0 text n) (reason : String) :
      Complains lookup limitRequirement (.invalid limitKey (toString n) reason)

/-! ## Judging -/

/--
A part of the reading judges a row of requirements: its values are those that are allowed, and
with a value all requirements are met; it is refused for the first one that is not met.
-/
structure Judges {α : Type} (lookup : Lookup) (row : List Requirement)
    (part : Except ConfigError α) (Allows : α → Prop) : Prop where
  ok_iff (a : α) : part = .ok a ↔ Allows a
  met {a : α} (read : part = .ok a) : ∀ each ∈ row, each.IsMet lookup
  refused {error : ConfigError} (read : part = .error error) :
    ∃ requirement, IsFirstUnmet lookup row requirement ∧ Complains lookup requirement error

section Judging

variable {α β : Type} {lookup : Lookup} {row others : List Requirement}
  {part : Except ConfigError α} {Allows : α → Prop}

theorem IsFirstUnmet.append_right {requirement : Requirement}
    (first : IsFirstUnmet lookup row requirement) (others : List Requirement) :
    IsFirstUnmet lookup (row ++ others) requirement := by
  obtain ⟨front, rest, rfl, met, unmet⟩ := first
  exact ⟨front, rest ++ others, by simp, met, unmet⟩

theorem IsFirstUnmet.append_left {requirement : Requirement}
    (first : IsFirstUnmet lookup others requirement) (met : ∀ each ∈ row, each.IsMet lookup) :
    IsFirstUnmet lookup (row ++ others) requirement := by
  obtain ⟨front, rest, rfl, also_met, unmet⟩ := first
  refine ⟨row ++ front, rest, by simp, fun each among => ?_, unmet⟩
  exact (List.mem_append.mp among).elim (met each) (also_met each)

namespace Judges

theorem done (lookup : Lookup) (a : α) : Judges lookup [] (pure a) (a = ·) where
  ok_iff b := ⟨Except.ok.inj, congrArg Except.ok⟩
  met _ := by simp
  refused read := nomatch read

/-- A value that is read for a requirement has to be the only one that is allowed. -/
theorem of_met {requirement : Requirement} {a : α} (met : requirement.IsMet lookup)
    (only : ∀ b, Allows b ↔ a = b) : Judges lookup [requirement] (.ok a) Allows where
  ok_iff b := by rw [only, Except.ok.injEq]
  met _ := List.forall_mem_singleton.mpr met
  refused read := nomatch read

/-- Where there is an error about a requirement, no value may be allowed. -/
theorem of_unmet {requirement : Requirement} {error : ConfigError} (nothing : ∀ a, ¬Allows a)
    (unmet : ¬requirement.IsMet lookup) (complains : Complains lookup requirement error) :
    Judges lookup [requirement] (.error error) Allows where
  ok_iff a := iff_of_false (fun read => nomatch read) (nothing a)
  met read := nomatch read
  refused read := by
    cases read
    exact ⟨requirement, ⟨[], [], rfl, by simp, unmet⟩, complains⟩

/-- Parts one behind the other judge the requirements one behind the other. -/
theorem bind (judges : Judges lookup row part Allows) {next : α → Except ConfigError β}
    {AllowsNext : α → β → Prop}
    (judges_next : ∀ a, Allows a → Judges lookup others (next a) (AllowsNext a)) :
    Judges lookup (row ++ others) (part >>= next) fun b => ∃ a, Allows a ∧ AllowsNext a b := by
  cases part_eq : part with
  | error error =>
      have nothing (a : α) : ¬Allows a := fun allowed =>
        nomatch part_eq.symm.trans ((judges.ok_iff a).mpr allowed)
      refine ⟨fun b => ?_, (fun read => nomatch read), fun read => ?_⟩
      · exact iff_of_false (fun read => nomatch read) fun ⟨a, allowed, _⟩ => nothing a allowed
      · cases read
        obtain ⟨requirement, first, complains⟩ := judges.refused part_eq
        exact ⟨requirement, first.append_right others, complains⟩
  | ok a =>
      have allowed : Allows a := (judges.ok_iff a).mp part_eq
      have only {a' : α} (allowed' : Allows a') : a = a' :=
        Except.ok.inj (part_eq.symm.trans ((judges.ok_iff a').mpr allowed'))
      have met := judges.met part_eq
      have judges_next := judges_next a allowed
      refine ⟨fun b => ?_, fun read => ?_, fun read => ?_⟩
      · refine (judges_next.ok_iff b).trans ⟨fun next => ⟨a, allowed, next⟩, ?_⟩
        rintro ⟨a', allowed', next⟩
        exact only allowed' ▸ next
      · exact List.forall_mem_append.mpr ⟨met, judges_next.met read⟩
      · obtain ⟨requirement, first, complains⟩ := judges_next.refused read
        exact ⟨requirement, first.append_left met, complains⟩

/-- A value that is turned into another one is judged like itself. -/
theorem map (judges : Judges lookup row part Allows) (f : α → β) :
    Judges lookup row (part.map f) fun b => ∃ a, Allows a ∧ f a = b := by
  have whole : Judges lookup (row ++ []) (part >>= fun a => pure (f a)) _ :=
    judges.bind fun a _ => done lookup (f a)
  rw [List.append_nil] at whole
  cases part <;> exact whole

theorem congr {Allows' : α → Prop} (judges : Judges lookup row part Allows)
    (same : ∀ a, Allows a ↔ Allows' a) : Judges lookup row part Allows' :=
  ⟨fun a => (judges.ok_iff a).trans (same a), judges.met, judges.refused⟩

/-- There is a value just when all requirements are met. -/
theorem exists_ok_iff (judges : Judges lookup row part Allows) :
    (∃ a, part = .ok a) ↔ ∀ each ∈ row, each.IsMet lookup := by
  constructor
  · rintro ⟨a, read⟩
    exact judges.met read
  · intro met
    cases part_eq : part with
    | ok a => exact ⟨a, rfl⟩
    | error error =>
        obtain ⟨requirement, ⟨front, rest, rfl, -, unmet⟩, -⟩ := judges.refused part_eq
        exact absurd (met requirement (by simp)) unmet

end Judges

/-! ## The text for a key -/

theorem judges_required (lookup : Lookup) (key : String) :
    Judges lookup [⟨key, .presence⟩] (required lookup key) (lookup key = some ·) := by
  have met_iff : Requirement.IsMet lookup ⟨key, .presence⟩ ↔ (lookup key).isSome = true := Iff.rfl
  unfold required
  cases given : lookup key with
  | some text =>
      have met : Requirement.IsMet lookup ⟨key, .presence⟩ := met_iff.mpr (given ▸ rfl)
      exact .of_met met fun other => Option.some_inj
  | none =>
      have unmet : ¬Requirement.IsMet lookup ⟨key, .presence⟩ := by simp [met_iff, given]
      exact .of_unmet (by simp) unmet (.missing key)

/-- What a text denotes as far as a demand is about texts that are given. -/
structure Demand.Parses (demand : Demand) (parse : String → Except String α)
    (Denotes : String → α → Prop) : Prop where
  parse_eq_ok_iff (text : String) (a : α) : parse text = .ok a ↔ Denotes text a
  isMetBy_some (text : String) : demand.IsMetBy (some text) ↔ ∃ a, Denotes text a
  isMetBy_none : demand.IsMetBy none
  ne_presence : demand ≠ .presence

variable {demand : Demand} {parse : String → Except String α} {Denotes : String → α → Prop}
  {key text : String}

/-- A requirement on a text that is given is met just when the text denotes something. -/
theorem Demand.Parses.isMet_iff (parses : demand.Parses parse Denotes)
    (given : lookup key = some text) :
    Requirement.IsMet lookup ⟨key, demand⟩ ↔ ∃ a, Denotes text a := by
  rw [Requirement.IsMet, given, parses.isMetBy_some]

/-- A text that is given is judged by what it denotes. -/
theorem judges_parsed (parses : demand.Parses parse Denotes) (given : lookup key = some text)
    (other : key ≠ limitKey) :
    Judges lookup [⟨key, demand⟩] (parsed key text parse) (Denotes text) := by
  have denotes_iff := parses.parse_eq_ok_iff text
  have met_iff := parses.isMet_iff given
  unfold parsed
  cases parse_eq : parse text with
  | ok a =>
      simp only [parse_eq, Except.ok.injEq] at denotes_iff
      have met := met_iff.mpr ⟨a, (denotes_iff a).mp rfl⟩
      exact .of_met met fun b => (denotes_iff b).symm
  | error reason =>
      simp only [parse_eq, reduceCtorEq, false_iff] at denotes_iff
      have unmet := fun met => (met_iff.mp met).elim denotes_iff
      exact .of_unmet denotes_iff unmet
        (.unread parses.ne_presence given (fun same => absurd same other) reason)

/-- What is read for a key: what its text denotes, or a default if there is no text. -/
def StandsFor (lookup : Lookup) (key : String) (Denotes : String → α → Prop) (absent : α)
    (value : α) : Prop :=
  match lookup key with
  | some text => Denotes text value
  | none => value = absent

variable {absent : α}

theorem standsFor_some (given : lookup key = some text) (value : α) :
    StandsFor lookup key Denotes absent value ↔ Denotes text value := by
  rw [StandsFor, given]

theorem standsFor_none (given : lookup key = none) (value : α) :
    StandsFor lookup key Denotes absent value ↔ value = absent := by
  rw [StandsFor, given]

/-- A text that may be given is judged by what it denotes. -/
theorem judges_optional (parses : demand.Parses parse Denotes) (other : key ≠ limitKey) :
    Judges lookup [⟨key, demand⟩] (optional lookup key parse)
      (StandsFor lookup key (fun text value => ∃ a, Denotes text a ∧ some a = value) none) := by
  unfold optional
  cases given : lookup key with
  | none =>
      have met : Requirement.IsMet lookup ⟨key, demand⟩ := by
        rw [Requirement.IsMet, given]
        exact parses.isMetBy_none
      refine .of_met met fun value => ?_
      rw [standsFor_none given, eq_comm]
  | some text =>
      refine ((judges_parsed parses given other).map some).congr fun value => ?_
      rw [standsFor_some given]

/-- A text that may be given is judged by what it denotes, and a default stands in for it. -/
theorem judges_withDefault (lookup : Lookup) (key : String) (parses : demand.Parses parse Denotes)
    (absent : α) (other : key ≠ limitKey) :
    Judges lookup [⟨key, demand⟩] (withDefault lookup key parse absent)
      (StandsFor lookup key Denotes absent) := by
  refine ((judges_optional parses other).map fun value => value.getD absent).congr fun value => ?_
  cases given : lookup key with
  | none =>
      simp only [standsFor_none given]
      constructor
      · rintro ⟨_, rfl, rfl⟩
        rfl
      · rintro rfl
        exact ⟨none, rfl, rfl⟩
  | some text =>
      simp only [standsFor_some given]
      constructor
      · rintro ⟨_, ⟨a, denotes, rfl⟩, rfl⟩
        exact denotes
      · intro denotes
        exact ⟨some value, ⟨value, denotes, rfl⟩, rfl⟩

end Judging

end Config
end OutboxRelay
