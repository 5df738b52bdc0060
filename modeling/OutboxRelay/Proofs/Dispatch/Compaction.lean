import OutboxRelay.Proofs.Dispatch.Sharing
import OutboxRelay.Proofs.Dispatch.Traffic

/-!
# Compaction beside passes

The oldest entries may be deleted at any time, by a call that asks for no lock.  A pass works
on the entries that it has read, so it goes on with an entry that is deleted meanwhile, and
counts that entry as well.

**Rules.**
* All calls that are made work.
* All passes ask for the same lock, and an entry that is appended has a new identifier.

**Results.**
* `Tended.exists_stages`: the passes keep to their stages.
* `Books`: each entry is still there, or was counted by one pass, or by one compaction, or by
  both.
* `Books.balance`: what was counted twice makes up for what is missing in the books.
-/

namespace OutboxRelay
namespace Dispatch

open Store (TransactionId Database)
open Outbox (without mem_without)

/-- What is done to a log at one instant. -/
inductive Chore (ι : Type)
  /-- An entry is appended, and is seen by all. -/
  | appends (entry : Entry)
  /-- Some entries are deleted, and it is told how many. -/
  | compacts (gone : List Entry) (deleted : Nat)
  | acts (pass : ι) (act : Act)

/-- The chore of a pass that reads some entries. -/
def Chore.reads {ι : Type} (pass : ι) (entries : List Entry) : Chore ι :=
  .acts pass (.store .entries (.ok entries))

/-- A database, and the passes that work on it. -/
structure Upkeep (X ι : Type) where
  db : Database
  /-- Where each pass stands. -/
  place : ι → X
  /-- What was done, the last chore first. -/
  history : List (Chore ι)

namespace Upkeep

variable {X Y ι : Type}

/-- An empty database on which nobody has begun to work. -/
def start (place : X) (clock : Timestamp) (capacity : Nat) : Upkeep X ι :=
  ⟨.empty clock capacity, fun _ => place, []⟩

/-- The same upkeep, whose passes stand somewhere else. -/
def placed (upkeep : Upkeep X ι) (place : ι → Y) : Upkeep Y ι :=
  ⟨upkeep.db, place, upkeep.history⟩

end Upkeep

/-- The entries that are there before and not behind. -/
def missing (before behind : List Entry) : List Entry :=
  before.filter fun entry => entry ∉ behind

section History

variable {ι : Type}

/-- The entries that were appended, the last one first. -/
def appended : List (Chore ι) → List Entry
  | [] => []
  | .appends entry :: past => entry :: appended past
  | _ :: past => appended past

/-- The entries that compactions have deleted. -/
def compacted : List (Chore ι) → List Entry
  | [] => []
  | .compacts gone _ :: past => gone ++ compacted past
  | _ :: past => compacted past

/-- How many entries were deleted, as all compactions together have told. -/
def deletedTotal : List (Chore ι) → Nat
  | [] => 0
  | .compacts _ deleted :: past => deleted + deletedTotal past
  | _ :: past => deletedTotal past

/-- What passes did, the last act first. -/
def acted : List (Chore ι) → List (ι × Act)
  | [] => []
  | .acts pass act :: past => (pass, act) :: acted past
  | _ :: past => acted past

/-- The entry that an act has removed, if it was there. -/
def Act.removed? : Act → Option EntryId
  | .store (.remove id) _ => some id
  | _ => none

/-- The entries that passes have removed and counted, the last one first. -/
def counted (history : List (Chore ι)) : List EntryId :=
  (acted history).filterMap fun done => done.2.removed?

/-- The entries that were counted twice: by a pass, and by a compaction. -/
def countedTwice (history : List (Chore ι)) : List EntryId :=
  (counted history).filter fun id => id ∈ (compacted history).map Entry.id

/-- The passes that have applied an entry, once for each entry. -/
def appliers (history : List (ι × Act)) : List ι :=
  (history.filter fun done => done.2.resolved?.isSome).map Prod.fst

/-- A pass faces an entry: it is the last one that it has handed to its parser. -/
def Faces (pass : ι) (entry : Entry) (history : List (Chore ι)) : Prop :=
  ∃ since past, history = since ++ .acts pass (.hand entry) :: past ∧
    ∀ other, .acts pass (.hand other) ∉ since

/-- A pass has read an entry at last, and no compaction had deleted that entry by then. -/
def Sighted (pass : ι) (id : EntryId) (history : List (Chore ι)) : Prop :=
  ∃ since entries past, history = since ++ .reads pass entries :: past ∧
    (∀ others, .reads pass others ∉ since) ∧ id ∈ entries.map Entry.id ∧
    id ∈ (appended past).map Entry.id ∧ id ∉ (compacted past).map Entry.id

theorem appended_append (later past : List (Chore ι)) :
    appended (later ++ past) = appended later ++ appended past := by
  induction later with
  | nil => rfl
  | cons chore later ih =>
      cases chore with
      | appends entry => exact congrArg (entry :: ·) ih
      | compacts | acts => exact ih

theorem compacted_append (later past : List (Chore ι)) :
    compacted (later ++ past) = compacted later ++ compacted past := by
  induction later with
  | nil => rfl
  | cons chore later ih =>
      cases chore with
      | compacts gone => exact (congrArg (gone ++ ·) ih).trans (List.append_assoc ..).symm
      | appends | acts => exact ih

theorem acted_append (later past : List (Chore ι)) :
    acted (later ++ past) = acted later ++ acted past := by
  induction later with
  | nil => rfl
  | cons chore later ih =>
      cases chore with
      | acts pass act => exact congrArg ((pass, act) :: ·) ih
      | appends | compacts => exact ih

theorem counted_append (later past : List (Chore ι)) :
    counted (later ++ past) = counted later ++ counted past := by
  unfold counted
  rw [acted_append, List.filterMap_append]

/-- An entry that is compacted was compacted by some chore. -/
theorem exists_compacts {entry : Entry} {history : List (Chore ι)}
    (member : entry ∈ compacted history) :
    ∃ later gone deleted past, history = later ++ .compacts gone deleted :: past ∧
      entry ∈ gone := by
  induction history with
  | nil => exact absurd member List.not_mem_nil
  | cons chore past ih =>
      cases chore with
      | compacts gone deleted =>
          rcases List.mem_append.mp member with new | old
          · exact ⟨[], gone, deleted, past, rfl, new⟩
          · obtain ⟨later, gone', deleted', past', rfl, among⟩ := ih old
            exact ⟨_ :: later, gone', deleted', past', rfl, among⟩
      | appends | acts =>
          obtain ⟨later, gone, deleted, past', rfl, among⟩ := ih member
          exact ⟨_ :: later, gone, deleted, past', rfl, among⟩

/-- An entry that is counted was removed by some pass. -/
theorem exists_removes {id : EntryId} {history : List (Chore ι)} (member : id ∈ counted history) :
    ∃ later pass reply past,
      history = later ++ .acts pass (.store (.remove id) reply) :: past := by
  induction history with
  | nil => exact absurd member List.not_mem_nil
  | cons chore past ih =>
      have deeper (old : id ∈ counted past) : ∃ later pass reply past',
          chore :: past = later ++ .acts pass (.store (.remove id) reply) :: past' := by
        obtain ⟨later, pass, reply, past', rfl⟩ := ih old
        exact ⟨chore :: later, pass, reply, past', rfl⟩
      cases chore with
      | appends | compacts => exact deeper member
      | acts pass act =>
          obtain ⟨⟨other, done⟩, among, found⟩ := List.mem_filterMap.mp member
          rcases List.mem_cons.mp among with same | old
          · obtain ⟨rfl, rfl⟩ := Prod.mk.inj same
            cases done with
            | store call reply =>
                cases call with
                | remove removed =>
                    cases found
                    exact ⟨[], other, reply, past, rfl⟩
                | _ => cases found
            | _ => cases found
          · exact deeper (List.mem_filterMap.mpr ⟨_, old, found⟩)

theorem Sighted.later {pass : ι} {id : EntryId} {history : List (Chore ι)} {chore : Chore ι}
    (sighted : Sighted pass id history) (blind : ∀ others, chore ≠ .reads pass others) :
    Sighted pass id (chore :: history) := by
  obtain ⟨since, entries, past, rfl, last, read⟩ := sighted
  refine ⟨chore :: since, entries, past, rfl, fun others member => ?_, read⟩
  rcases List.mem_cons.mp member with same | member
  · exact blind others same.symm
  · exact last others member

theorem Sighted.mem_appended {pass : ι} {id : EntryId} {history : List (Chore ι)}
    (sighted : Sighted pass id history) :
    id ∈ (appended history).map Entry.id := by
  obtain ⟨since, entries, past, rfl, -, -, known, -⟩ := sighted
  rw [appended_append, List.map_append]
  exact List.mem_append_right _ known

theorem Faces.later {pass : ι} {entry : Entry} {history : List (Chore ι)} {chore : Chore ι}
    (faces : Faces pass entry history) (blind : ∀ other, chore ≠ .acts pass (.hand other)) :
    Faces pass entry (chore :: history) := by
  obtain ⟨since, past, rfl, last⟩ := faces
  refine ⟨chore :: since, past, rfl, fun other member => ?_⟩
  rcases List.mem_cons.mp member with same | member
  · exact blind other same.symm
  · exact last other member

end History

/-! ## Steps -/

section Steps

variable {X ι : Type} [DecidableEq ι]
variable (settings : ι → Settings) (move : Settings → X → Act → X → Prop)

/-- What can happen next, when passes move in a given way. -/
inductive Tend : Upkeep X ι → Upkeep X ι → Prop
  /-- Time goes by. -/
  | ticks {upkeep : Upkeep X ι} {now : Timestamp} (later : upkeep.db.clock ≤ now) :
      Tend upkeep { upkeep with db := { upkeep.db with clock := now } }
  | appends {upkeep : Upkeep X ι} {entry : Entry}
      (fresh : entry.id ∉ (appended upkeep.history).map Entry.id) :
      Tend upkeep { upkeep with
        db := { upkeep.db with rows := upkeep.db.rows ++ [entry] }
        history := .appends entry :: upkeep.history }
  /-- Someone has so many of the oldest entries deleted. -/
  | compacts {upkeep : Upkeep X ι} {count : Int} {deleted : Nat} {db : Database}
      (served : upkeep.db.run (Store.serve (.removeOldest count)) = (.ok deleted, db)) :
      Tend upkeep { upkeep with
        db := db
        history := .compacts (missing upkeep.db.rows db.rows) deleted :: upkeep.history }
  /-- A pass acts. -/
  | acts {upkeep : Upkeep X ι} {pass : ι} {act : Act} {x : X} {db : Database}
      (moves : move (settings pass) (upkeep.place pass) act x)
      (succeeds : act.Succeeds upkeep.db db) :
      Tend upkeep ⟨db, Function.update upkeep.place pass x, .acts pass act :: upkeep.history⟩

/-- Upkeep that can come about, when passes move in a given way, from an empty database. -/
def Tended (place : X) (clock : Timestamp) (capacity : Nat) (upkeep : Upkeep X ι) : Prop :=
  Relation.ReflTransGen (Tend settings move) (.start place clock capacity) upkeep

end Steps

section Stages

variable {ι : Type} [DecidableEq ι] {settings : ι → Settings} {clock : Timestamp}
variable {capacity : Nat}

theorem exists_stages_of_tend {upkeep upkeep' : Upkeep Standing ι} {stages : ι → Stage}
    (follow : ∀ pass, Follows (settings pass) (upkeep.place pass) (stages pass))
    (tend : Tend settings Standing.Move upkeep upkeep') :
    ∃ stages', Tend settings Stage.Move (upkeep.placed stages) (upkeep'.placed stages') ∧
      ∀ pass, Follows (settings pass) (upkeep'.place pass) (stages' pass) := by
  cases tend with
  | ticks later => exact ⟨stages, .ticks later, follow⟩
  | appends fresh => exact ⟨stages, .appends fresh, follow⟩
  | compacts served => exact ⟨stages, .compacts served, follow⟩
  | @acts pass act x db moves succeeds =>
      obtain ⟨stage, allowed, follows⟩ := (follow pass).move moves
      exact ⟨Function.update stages pass stage, .acts allowed succeeds,
        Follows.update follow follows⟩

/-- Each pass keeps to the stages. -/
theorem Tended.exists_stages {upkeep : Upkeep Standing ι}
    (tended : Tended settings Standing.Move .idle clock capacity upkeep) :
    ∃ stages, Tended settings Stage.Move .idle clock capacity (upkeep.placed stages) ∧
      ∀ pass, Follows (settings pass) (upkeep.place pass) (stages pass) := by
  induction tended with
  | refl => exact ⟨fun _ => .idle, .refl, fun _ => .idle⟩
  | tail _ tend ih =>
      obtain ⟨stages, staged, follow⟩ := ih
      obtain ⟨stages', tend', follow'⟩ := exists_stages_of_tend follow tend
      exact ⟨stages', staged.tail tend', follow'⟩

/--
What is true of a pass at first, and is kept by its own acts and by whatever else is done, is
true of it at any time.
-/
theorem Tended.of_acts {upkeep : Upkeep Stage ι}
    (tended : Tended settings Stage.Move .idle clock capacity upkeep)
    (property : Stage → List (Chore ι) → Prop) {pass : ι} (initial : property .idle [])
    (own : ∀ stage act stage' past db db', property stage past →
      Stage.Move (settings pass) stage act stage' → act.Succeeds db db' →
        property stage' (.acts pass act :: past))
    (other : ∀ stage chore past, property stage past → (∀ act, chore ≠ .acts pass act) →
      property stage (chore :: past)) :
    property (upkeep.place pass) upkeep.history := by
  induction tended with
  | refl => exact initial
  | tail _ tend ih =>
      cases tend with
      | ticks later => exact ih
      | appends fresh => exact other _ _ _ ih fun act same => nomatch same
      | compacts served => exact other _ _ _ ih fun act same => nomatch same
      | @acts actor act stage db moves succeeds =>
          by_cases same : pass = actor
          · subst same
            simpa using own _ _ _ _ _ _ ih moves succeeds
          · have apart : ∀ done, Chore.acts actor act ≠ .acts pass done := by
              rintro done acted
              cases acted
              exact same rfl
            simpa [same] using other _ _ _ ih apart

end Stages

/-! ## Books -/

/-- The books of a log: where each entry that was appended is, or who has counted it. -/
structure Books {ι : Type} (rows : List Entry) (history : List (Chore ι)) : Prop where
  appended_distinct : ((appended history).map Entry.id).Nodup
  rows_distinct : (rows.map Entry.id).Nodup
  counted_distinct : (counted history).Nodup
  compacted_distinct : ((compacted history).map Entry.id).Nodup
  counted_gone : ∀ id ∈ counted history, id ∉ rows.map Entry.id
  compacted_gone : ∀ id ∈ (compacted history).map Entry.id, id ∉ rows.map Entry.id
  mem_appended : ∀ id, id ∈ (appended history).map Entry.id ↔
    id ∈ rows.map Entry.id ∨ id ∈ counted history ∨ id ∈ (compacted history).map Entry.id
  deleted : deletedTotal history = (compacted history).length

namespace Books

variable {ι : Type} {rows rows' : List Entry} {history : List (Chore ι)}

theorem initial : Books [] ([] : List (Chore ι)) := by
  constructor <;> simp [appended, compacted, counted, acted, deletedTotal]

/-- Entries that were counted twice make up for what is missing in the books. -/
theorem balance (books : Books rows history) :
    (appended history).length + (countedTwice history).length =
      rows.length + (counted history).length + deletedTotal history := by
  let all := ((appended history).map Entry.id).toFinset
  let left := (rows.map Entry.id).toFinset
  let byPasses := (counted history).toFinset
  let byCompactions := ((compacted history).map Entry.id).toFinset
  have all_eq : all = left ∪ (byPasses ∪ byCompactions) := by
    ext id
    simpa [all, left, byPasses, byCompactions] using books.mem_appended id
  have apart : Disjoint left (byPasses ∪ byCompactions) := by
    refine Finset.disjoint_left.mpr fun id member gone => ?_
    have member := List.mem_toFinset.mp member
    rcases Finset.mem_union.mp gone with gone | gone
    · exact books.counted_gone id (List.mem_toFinset.mp gone) member
    · exact books.compacted_gone id (List.mem_toFinset.mp gone) member
  have twice_eq : (countedTwice history).toFinset = byPasses ∩ byCompactions := by
    ext id
    simp [countedTwice, byPasses, byCompactions]
  have all_card : all.card = (appended history).length := by
    rw [List.toFinset_card_of_nodup books.appended_distinct, List.length_map]
  have left_card : left.card = rows.length := by
    rw [List.toFinset_card_of_nodup books.rows_distinct, List.length_map]
  have passes_card : byPasses.card = (counted history).length :=
    List.toFinset_card_of_nodup books.counted_distinct
  have compactions_card : byCompactions.card = deletedTotal history := by
    rw [List.toFinset_card_of_nodup books.compacted_distinct, List.length_map, books.deleted]
  have twice_card : (byPasses ∩ byCompactions).card = (countedTwice history).length := by
    rw [← twice_eq]
    exact List.toFinset_card_of_nodup (books.counted_distinct.filter _)
  have split := Finset.card_union_add_card_inter byPasses byCompactions
  have union := Finset.card_union_of_disjoint apart
  rw [← all_eq] at union
  omega

/-- What counts nothing and leaves the identifiers alone leaves the books alone. -/
theorem acts (books : Books rows history) {pass : ι} {act : Act} (none : act.removed? = none)
    (same : rows'.map Entry.id = rows.map Entry.id) :
    Books rows' (.acts pass act :: history) := by
  have counted_eq : counted (.acts pass act :: history) = counted history :=
    List.filterMap_cons_none none
  constructor
  · exact books.appended_distinct
  · rw [same]
    exact books.rows_distinct
  · rw [counted_eq]
    exact books.counted_distinct
  · exact books.compacted_distinct
  · rw [counted_eq, same]
    exact books.counted_gone
  · rw [same]
    exact books.compacted_gone
  · rw [counted_eq, same]
    exact books.mem_appended
  · exact books.deleted

theorem append (books : Books rows history) {entry : Entry}
    (fresh : entry.id ∉ (appended history).map Entry.id) :
    Books (rows ++ [entry]) (.appends entry :: history) := by
  have mem_rows (id : EntryId) : id ∈ (rows ++ [entry]).map Entry.id ↔
      id ∈ rows.map Entry.id ∨ id = entry.id := by
    rw [List.map_append, List.mem_append, List.map_singleton, List.mem_singleton]
  have new : entry.id ∉ rows.map Entry.id := fun member =>
    fresh ((books.mem_appended _).mpr (.inl member))
  constructor
  · exact List.nodup_cons.mpr ⟨fresh, books.appended_distinct⟩
  · rw [List.map_append]
    refine books.rows_distinct.append (List.nodup_singleton _) ?_
    simpa using new
  · exact books.counted_distinct
  · exact books.compacted_distinct
  · intro id member left
    rcases (mem_rows id).mp left with left | rfl
    · exact books.counted_gone id member left
    · exact fresh ((books.mem_appended _).mpr (.inr (.inl member)))
  · intro id member left
    rcases (mem_rows id).mp left with left | rfl
    · exact books.compacted_gone id member left
    · exact fresh ((books.mem_appended _).mpr (.inr (.inr member)))
  · intro id
    show id ∈ entry.id :: (appended history).map Entry.id ↔ _
    rw [List.mem_cons, mem_rows, books.mem_appended]
    tauto
  · exact books.deleted

/-- A compaction deletes some entries that are there, and tells how many. -/
theorem compact (books : Books rows history) (fewer : rows'.Sublist rows) {deleted : Nat}
    (told : deleted = (missing rows rows').length) :
    Books rows' (.compacts (missing rows rows') deleted :: history) := by
  have among {entry : Entry} (member : entry ∈ missing rows rows') :
      entry ∈ rows ∧ entry ∉ rows' := by
    simpa [missing] using member
  have gone_apart : ∀ id ∈ (missing rows rows').map Entry.id, id ∉ rows'.map Entry.id := by
    intro id gone left
    obtain ⟨entry, member, rfl⟩ := List.mem_map.mp gone
    obtain ⟨other, still, same⟩ := List.mem_map.mp left
    obtain ⟨here, absent⟩ := among member
    obtain rfl := List.inj_on_of_nodup_map books.rows_distinct (fewer.subset still) here same
    exact absent still
  have ids_subset : (missing rows rows').map Entry.id ⊆ rows.map Entry.id :=
    List.map_subset _ fun entry member => (among member).1
  have mem_compacted (id : EntryId) :
      id ∈ (compacted (.compacts (missing rows rows') deleted :: history)).map Entry.id ↔
        id ∈ (missing rows rows').map Entry.id ∨ id ∈ (compacted history).map Entry.id := by
    show id ∈ (missing rows rows' ++ compacted history).map Entry.id ↔ _
    rw [List.map_append, List.mem_append]
  have fewer_ids := fewer.map Entry.id
  constructor
  · exact books.appended_distinct
  · exact books.rows_distinct.sublist fewer_ids
  · exact books.counted_distinct
  · show ((missing rows rows' ++ compacted history).map Entry.id).Nodup
    rw [List.map_append]
    refine List.Nodup.append ?_ books.compacted_distinct ?_
    · exact books.rows_distinct.sublist (List.filter_sublist.map _)
    · exact fun id new old => books.compacted_gone id old (ids_subset new)
  · exact fun id member left => books.counted_gone id member (fewer_ids.subset left)
  · intro id member left
    rcases (mem_compacted id).mp member with new | old
    · exact gone_apart id new left
    · exact books.compacted_gone id old (fewer_ids.subset left)
  · intro id
    have mem_rows : id ∈ rows.map Entry.id ↔
        id ∈ rows'.map Entry.id ∨ id ∈ (missing rows rows').map Entry.id := by
      constructor
      · intro member
        obtain ⟨entry, here, rfl⟩ := List.mem_map.mp member
        by_cases left : entry ∈ rows'
        · exact .inl (List.mem_map_of_mem left)
        · exact .inr (List.mem_map_of_mem (List.mem_filter.mpr ⟨here, by simpa using left⟩))
      · rintro (left | gone)
        · exact fewer_ids.subset left
        · exact ids_subset gone
    show id ∈ (appended history).map Entry.id ↔ _ ∨ id ∈ counted history ∨ _
    rw [books.mem_appended, mem_compacted, mem_rows]
    tauto
  · show deleted + deletedTotal history = (missing rows rows' ++ compacted history).length
    rw [List.length_append, books.deleted, told]

/-- A pass removes an entry that no pass has counted, whether it is still there or not. -/
theorem remove (books : Books rows history) {pass : ι} {id : EntryId}
    {reply : Except StoreError Unit} (known : id ∈ (appended history).map Entry.id)
    (uncounted : id ∉ counted history) :
    Books (without id rows) (.acts pass (.store (.remove id) reply) :: history) := by
  have mem_rows (other : EntryId) : other ∈ (without id rows).map Entry.id ↔
      other ∈ rows.map Entry.id ∧ other ≠ id := by
    constructor
    · intro member
      obtain ⟨entry, left, rfl⟩ := List.mem_map.mp member
      obtain ⟨here, apart⟩ := mem_without.mp left
      exact ⟨List.mem_map_of_mem here, apart⟩
    · rintro ⟨member, apart⟩
      obtain ⟨entry, here, rfl⟩ := List.mem_map.mp member
      exact List.mem_map_of_mem (mem_without.mpr ⟨here, apart⟩)
  have mem_counted (other : EntryId) :
      other ∈ counted (.acts pass (.store (.remove id) reply) :: history) ↔
        other = id ∨ other ∈ counted history := by
    exact List.mem_cons
  constructor
  · exact books.appended_distinct
  · exact books.rows_distinct.sublist (List.filter_sublist.map _)
  · exact List.nodup_cons.mpr ⟨uncounted, books.counted_distinct⟩
  · exact books.compacted_distinct
  · intro other member left
    obtain ⟨here, apart⟩ := (mem_rows other).mp left
    rcases (mem_counted other).mp member with same | old
    · exact apart same
    · exact books.counted_gone other old here
  · exact fun other member left =>
      books.compacted_gone other member ((mem_rows other).mp left).1
  · intro other
    show other ∈ (appended history).map Entry.id ↔ _ ∨ _ ∨ other ∈ (compacted history).map Entry.id
    rw [mem_rows, mem_counted]
    by_cases same : other = id
    · subst same
      simpa using known
    · rw [books.mem_appended]
      tauto
  · exact books.deleted

end Books

/-! ## What passes do to the books -/

/-- All that a pass does that matters to the books, if the calls that it makes work. -/
theorem Stage.Move.books_cases {settings : Settings} {stage stage' : Stage} {act : Act}
    {db db' : Database} (move : Stage.Move settings stage act stage')
    (succeeds : act.Succeeds db db') :
    (act.removed? = none ∧ (∀ entries, act ≠ .store .entries (.ok entries)) ∧
      (act.OffLog ∨ ∃ id reply, act = .store (.recordFailure id) reply) ∧
      (stage'.pending = stage.pending ∨ stage'.pending = [])) ∨
    (∃ entries, act = .store .entries (.ok entries) ∧ stage'.pending = entries) ∨
    (∃ (entry : Entry) (rest : List Entry), act = .store (.remove entry.id) (.ok ()) ∧
      stage.pending = entry :: rest ∧ stage'.pending = rest) := by
  cases move with
  | start | handed | consulted | resolved =>
      exact .inl ⟨rfl, fun _ => nofun, .inl trivial, .inl rfl⟩
  | unresolved | finish => exact .inl ⟨rfl, fun _ => nofun, .inl trivial, .inr rfl⟩
  | lockTaken | lockRefused => exact .inl ⟨rfl, fun _ => nofun, .inl (.inl rfl), .inr rfl⟩
  | conceded | released => exact .inl ⟨rfl, fun _ => nofun, .inl (.inr (.inl rfl)), .inr rfl⟩
  | counted => exact .inl ⟨rfl, fun _ => nofun, .inr ⟨_, _, rfl⟩, .inr rfl⟩
  | read lock entries => exact .inr (.inl ⟨entries, rfl, pending_next ..⟩)
  | discarded lock applied discarded entry rest =>
      exact .inr (.inr ⟨entry, rest, rfl, rfl, pending_next ..⟩)
  | removed lock applied discarded entry rest =>
      exact .inr (.inr ⟨entry, rest, rfl, rfl, pending_next ..⟩)
  | lockFailed | misread | notDiscarded | notRemoved =>
      obtain ⟨answer, same, -⟩ := succeeds
      cases same

/-- An act that neither reads nor removes entries leaves their identifiers alone. -/
theorem Act.Succeeds.ids_eq {act : Act} {db db' : Database} (succeeds : act.Succeeds db db')
    (old : db.Numbered)
    (blank : ∀ lock reply, act = .store (.release (some lock)) reply →
      ∀ transaction ∈ db.transactions, transaction.id = lock.transaction →
        transaction.inserted = [])
    (kind : act.OffLog ∨ ∃ id reply, act = .store (.recordFailure id) reply) :
    db'.rows.map Entry.id = db.rows.map Entry.id := by
  rcases kind with off | ⟨id, reply, rfl⟩
  · have kept := (succeeds.shrinks old blank).2.2.2 off
    rw [← map_fst_task, kept, map_fst_task]
  · obtain ⟨answer, -, rfl⟩ := succeeds.performs old
    exact Outbox.map_markFailed (fun _ _ _ => rfl) db.clock id db.rows

/-- A compaction takes away what is missing behind it, and tells how much that is. -/
theorem missing_of_removeOldest {db db' : Database} {count : Int} {deleted : Nat}
    (served : db.run (Store.serve (.removeOldest count)) = (.ok deleted, db')) :
    db'.transactions = db.transactions ∧ db'.nextTransaction = db.nextTransaction ∧
      db'.rows.Sublist db.rows ∧ deleted = (missing db.rows db'.rows).length := by
  by_cases negative : count < 0
  · simp only [Store.serve, negative, if_true] at served
    cases served
  · simp only [Store.serve, negative, if_false] at served
    have told : db.deleteOldest count.toNat = (.ok deleted, db') :=
      Database.run_of_stored served
    have told := Database.eq_of_connected told
    simp only [Database.deleteAll, List.partition_eq_filter_filter] at told
    obtain ⟨deleted_eq, rfl⟩ := Prod.mk.inj told
    obtain rfl := Except.ok.inj deleted_eq
    refine ⟨rfl, rfl, List.filter_sublist, congrArg List.length ?_⟩
    refine List.filter_congr fun entry member => ?_
    simp [member]

end Dispatch
end OutboxRelay
