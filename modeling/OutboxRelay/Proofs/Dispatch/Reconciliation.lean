import OutboxRelay.Proofs.Dispatch.CommitOrder
import OutboxRelay.Proofs.Dispatch.Compaction
import OutboxRelay.Proofs.History

/-!
# What compactions leave true

A pass that has read an entry replays it and counts it, though a compaction may delete it
meanwhile and count it too.  No other entry is replayed once it is deleted, or counted twice.

**Results.**
* `Tended.kept`: what a pass has yet to settle nobody has counted but compactions.
* `Tended.reconciled`: who makes a call for an entry had read it before it was deleted, and the
  counts of passes and compactions add up but for entries that were deleted in between.
* `exists_replayed_behind_compaction`: an entry may be replayed that was deleted before.
-/

namespace OutboxRelay
namespace Dispatch

open Store (TransactionId Database)

/-! ## What passes know -/

/--
What a pass has yet to settle it has read, when no compaction had deleted it; and no pass has
counted any of it.
-/
structure Informed {ι : Type} (history : List (Chore ι)) (pass : ι) (pending : List Entry) :
    Prop where
  distinct : (pending.map Entry.id).Nodup
  uncounted : ∀ entry ∈ pending, entry.id ∉ counted history
  sighted : ∀ entry ∈ pending, Sighted pass entry.id history

namespace Informed

variable {ι : Type} {history : List (Chore ι)} {pass : ι} {pending : List Entry}

theorem nil : Informed history pass [] := by
  constructor <;> simp

/-- What counts no entry and is not read by a pass leaves the pass informed. -/
theorem later (informed : Informed history pass pending) {chore : Chore ι}
    (same : counted (chore :: history) = counted history)
    (blind : ∀ others, chore ≠ .reads pass others) :
    Informed (chore :: history) pass pending := by
  refine ⟨informed.distinct, ?_, ?_⟩
  · rw [same]
    exact informed.uncounted
  · exact fun entry member => (informed.sighted entry member).later blind

/-- A pass that reads the entries is informed of all that are there. -/
theorem of_read {db : Database} (books : Books db.rows history) :
    Informed (.reads pass db.entries :: history) pass db.entries := by
  have here {entry : Entry} (member : entry ∈ db.entries) :
      entry.id ∈ db.rows.map Entry.id :=
    List.mem_map_of_mem (Database.mem_entries.mp member)
  have perm := (List.mergeSort_perm db.rows Store.comesBefore).map Entry.id
  refine ⟨perm.nodup_iff.mpr books.rows_distinct, ?_, ?_⟩
  · exact fun entry member already => books.counted_gone _ already (here member)
  · intro entry member
    refine ⟨[], db.entries, history, rfl, fun _ => List.not_mem_nil,
      List.mem_map_of_mem member, (books.mem_appended _).mpr (.inl (here member)), ?_⟩
    exact fun gone => books.compacted_gone _ gone (here member)

/-- A pass that has removed its first entry stays informed of the others. -/
theorem rest {entry : Entry} {entries : List Entry} {reply : Except StoreError Unit}
    (informed : Informed history pass (entry :: entries)) :
    Informed (.acts pass (.store (.remove entry.id) reply) :: history) pass entries := by
  obtain ⟨first, distinct⟩ := List.nodup_cons.mp informed.distinct
  refine ⟨distinct, ?_, ?_⟩
  · intro other member already
    rcases List.mem_cons.mp already with same | old
    · exact first (same ▸ List.mem_map_of_mem member)
    · exact informed.uncounted other (List.mem_cons_of_mem _ member) old
  · exact fun other member =>
      (informed.sighted other (List.mem_cons_of_mem _ member)).later fun _ => nofun

end Informed

/-- The entry that a parser works on. -/
def Stage.parsed? : Stage → Option Entry
  | .replaying _ _ _ entry _ _ => some entry
  | _ => none

@[simp] theorem Stage.parsed?_next (limit : Option Int) (lock : Lock TransactionId)
    (applied discarded : Nat) (entries : List Entry) :
    (next limit lock applied discarded entries).parsed? = none := by
  exact next_cases (fun _ stage => stage.parsed? = none) rfl (fun _ _ _ => rfl)
    (fun _ _ => rfl) entries

/-- What a chore goes by, given what was done before it. -/
def Chore.Sound {ι : Type} : Chore ι → List (Chore ι) → Prop
  | .acts pass (.consult ..), past => ∃ entry, Faces pass entry past ∧ Sighted pass entry.id past
  | .acts pass (.store (.remove id) _), past => id ∉ counted past ∧ Sighted pass id past
  | .compacts gone _, past => ∀ entry ∈ gone, entry.id ∉ counted past
  | _, _ => True

/-- The invariants of upkeep. -/
structure Kept {ι : Type} (key : LockId) (upkeep : Upkeep Stage ι) : Prop where
  ledger : Ledger key upkeep.db [] fun pass => (upkeep.place pass).claim
  books : Books upkeep.db.rows upkeep.history
  informed : ∀ pass, Informed upkeep.history pass (upkeep.place pass).pending
  sound : Throughout Chore.Sound upkeep.history

section Kept

variable {ι : Type} {settings : ι → Settings} {key : LockId}
variable {clock : Timestamp} {capacity : Nat} {upkeep upkeep' : Upkeep Stage ι}

/-- What an informed pass does is sound. -/
theorem sound_of_move {stage stage' : Stage} {act : Act} {history : List (Chore ι)} {pass : ι}
    (move : Stage.Move (settings pass) stage act stage')
    (informed : Informed history pass stage.pending)
    (faces : ∀ entry, stage.parsed? = some entry → Faces pass entry history) :
    (Chore.acts pass act).Sound history := by
  cases move with
  | consulted lock applied discarded entry =>
      exact ⟨entry, faces entry rfl, informed.sighted entry List.mem_cons_self⟩
  | discarded lock applied discarded entry | notDiscarded lock applied discarded entry
  | removed lock applied discarded entry | notRemoved lock applied discarded entry =>
      exact ⟨informed.uncounted entry List.mem_cons_self,
        informed.sighted entry List.mem_cons_self⟩
  | _ => trivial

/-- While a pass has the lock, no other one has entries to settle. -/
theorem Kept.pending_eq_nil (kept : Kept key upkeep) {pass other : ι}
    {id : TransactionId} (claimed : (upkeep.place pass).claim = some (true, id))
    (apart : other ≠ pass) :
    (upkeep.place other).pending = [] := by
  by_contra some_left
  obtain ⟨id', claim⟩ := Stage.exists_claim_of_pending some_left
  exact apart (kept.ledger.alone claim claimed)

/-- An entry that is counted twice was deleted while a pass worked on what it had read. -/
theorem Kept.exists_between {upkeep : Upkeep Stage ι} (kept : Kept key upkeep) {id : EntryId}
    (twice : id ∈ countedTwice upkeep.history) :
    ∃ later pass reply mid gone deleted since entries past,
      upkeep.history = later ++ .acts pass (.store (.remove id) reply) ::
        (mid ++ .compacts gone deleted :: (since ++ .reads pass entries :: past)) ∧
      id ∈ gone.map Entry.id ∧ id ∈ entries.map Entry.id := by
  obtain ⟨by_pass, by_compaction⟩ := List.mem_filter.mp twice
  obtain ⟨entry, gone_once, rfl⟩ := List.mem_map.mp (of_decide_eq_true by_compaction)
  obtain ⟨later, pass, reply, before, split⟩ := exists_removes by_pass
  obtain ⟨-, since, entries, past, rfl, -, read, -, unharmed⟩ := kept.sound.of_split split
  rw [split, compacted_append] at gone_once
  rcases List.mem_append.mp gone_once with behind | gone_once
  · -- A compaction deletes only what is there, and so nothing that a pass has removed.
    obtain ⟨last, gone, deleted, mid, rfl, among⟩ := exists_compacts behind
    rw [List.append_assoc, List.cons_append] at split
    have apart := kept.sound.of_split split entry among
    rw [counted_append] at apart
    exact absurd (List.mem_append_right _ List.mem_cons_self) apart
  · have gone_once : entry ∈ compacted (since ++ .reads pass entries :: past) := gone_once
    rw [compacted_append] at gone_once
    rcases List.mem_append.mp gone_once with between | old
    · obtain ⟨mid, gone, deleted, first, rfl, among⟩ := exists_compacts between
      rw [List.append_assoc] at split
      exact ⟨later, pass, reply, mid, gone, deleted, first, entries, past, split,
        List.mem_map_of_mem among, read⟩
    · exact absurd (List.mem_map_of_mem old) unharmed

variable [DecidableEq ι]

/-- What is parsed was handed to the parser. -/
theorem Tended.faces (tended : Tended settings Stage.Move .idle clock capacity upkeep)
    {pass : ι} {entry : Entry} :
    (upkeep.place pass).parsed? = some entry → Faces pass entry upkeep.history := by
  refine tended.of_acts (fun stage history =>
    stage.parsed? = some entry → Faces pass entry history) ?_ ?_ ?_
  · exact nofun
  · intro stage act stage' past db db' ih move _ parsed
    cases move with
    | read | discarded | removed =>
        rw [Stage.parsed?_next] at parsed
        cases parsed
    | handed =>
        cases parsed
        exact ⟨[], past, rfl, fun _ => List.not_mem_nil⟩
    | consulted => exact (ih parsed).later fun _ => nofun
    | _ => cases parsed
  · intro stage chore past ih other parsed
    exact (ih parsed).later fun _ => other _

/-- What a pass does leaves the books in order, and all passes informed. -/
theorem Kept.books_acts (kept : Kept key upkeep) {pass : ι} {act : Act} {stage : Stage}
    {db : Database} (moves : Stage.Move (settings pass) (upkeep.place pass) act stage)
    (succeeds : act.Succeeds upkeep.db db) :
    Books db.rows (.acts pass act :: upkeep.history) ∧
      ∀ other, Informed (.acts pass act :: upkeep.history) other
        (Function.update upkeep.place pass stage other).pending := by
  have update (own : Informed (.acts pass act :: upkeep.history) pass stage.pending)
      (others : ∀ other, other ≠ pass →
        Informed (.acts pass act :: upkeep.history) other (upkeep.place other).pending) :
      ∀ other, Informed (.acts pass act :: upkeep.history) other
        (Function.update upkeep.place pass stage other).pending :=
    (Function.forall_update_iff upkeep.place fun other stage =>
      Informed (.acts pass act :: upkeep.history) other stage.pending).mpr ⟨own, others⟩
  rcases moves.books_cases succeeds with
    ⟨none, blind, kind, pending⟩ | ⟨entries, rfl, pending⟩ | ⟨entry, rest, rfl, before, pending⟩
  · have same := succeeds.ids_eq kept.ledger.old (kept.ledger.blank_of_release moves) kind
    have later (other : ι) : Informed (.acts pass act :: upkeep.history) other
        (upkeep.place other).pending := by
      refine (kept.informed other).later (List.filterMap_cons_none none) fun others read => ?_
      cases read
      exact blind others rfl
    refine ⟨kept.books.acts none same, update ?_ fun other _ => later other⟩
    rcases pending with pending | pending
    · rw [pending]
      exact later pass
    · rw [pending]
      exact Informed.nil
  · obtain ⟨answer, answered, performs⟩ := succeeds.performs kept.ledger.old
    cases answered
    obtain ⟨rfl, rfl⟩ := performs
    refine ⟨kept.books.acts rfl rfl, update ?_ fun other apart => ?_⟩
    · rw [pending]
      exact Informed.of_read kept.books
    · refine (kept.informed other).later rfl fun others read => ?_
      cases read
      exact apart rfl
  · obtain ⟨answer, -, rfl⟩ := succeeds.performs kept.ledger.old
    obtain ⟨id, claimed⟩ :=
      Stage.exists_claim_of_pending (before ▸ List.cons_ne_nil entry rest)
    have informed := kept.informed pass
    rw [before] at informed
    refine ⟨kept.books.remove ?_ ?_, update ?_ fun other apart => ?_⟩
    · exact (informed.sighted entry List.mem_cons_self).mem_appended
    · exact informed.uncounted entry List.mem_cons_self
    · rw [pending]
      exact informed.rest
    · rw [kept.pending_eq_nil claimed apart]
      exact Informed.nil

/-- Whatever happens keeps the invariants. -/
theorem Kept.tend (kept : Kept key upkeep) (same_key : ∀ pass, (settings pass).lockId = key)
    (faces : ∀ pass entry, (upkeep.place pass).parsed? = some entry →
      Faces pass entry upkeep.history)
    (tend : Tend settings Stage.Move upkeep upkeep') :
    Kept key upkeep' := by
  cases tend with
  | ticks later => exact ⟨kept.ledger.congr rfl rfl, kept.books, kept.informed, kept.sound⟩
  | appends fresh =>
      refine ⟨kept.ledger.congr rfl rfl, kept.books.append fresh, fun pass => ?_,
        trivial, kept.sound⟩
      exact (kept.informed pass).later rfl fun _ => nofun
  | compacts served =>
      obtain ⟨same, next, fewer, told⟩ := missing_of_removeOldest served
      refine ⟨kept.ledger.congr same next, kept.books.compact fewer told, fun pass => ?_,
        fun entry member already => ?_, kept.sound⟩
      · exact (kept.informed pass).later rfl fun _ => nofun
      · exact kept.books.counted_gone _ already
          (List.mem_map_of_mem (List.mem_of_mem_filter member))
  | @acts pass act stage db moves succeeds =>
      obtain ⟨books, informed⟩ := kept.books_acts moves succeeds
      exact ⟨kept.ledger.acts same_key moves succeeds, books, informed,
        sound_of_move moves (kept.informed pass) (faces pass), kept.sound⟩

/-- The invariants hold at any time. -/
theorem Tended.kept (same_key : ∀ pass, (settings pass).lockId = key)
    (tended : Tended settings Stage.Move .idle clock capacity upkeep) :
    Kept key upkeep := by
  induction tended with
  | refl =>
      exact ⟨Ledger.initial clock capacity, Books.initial, fun _ => Informed.nil, trivial⟩
  | tail run tend ih => exact ih.tend same_key (fun _ _ => Tended.faces run) tend

end Kept

/-! ## What passes report -/

/-- How many entries a pass reports that it has applied. -/
def Outcome.applied : Outcome → Nat
  | .drained applied _ | .halted applied _ | .storeFailed applied => applied
  | .contended | .lockUnavailable => 0

/-- How many entries a pass reports that it has discarded. -/
def Outcome.discarded : Outcome → Nat
  | .drained _ discarded => discarded
  | .halted .. | .storeFailed _ | .contended | .lockUnavailable => 0

/--
An outcome tells what a pass has removed and applied, all of whose calls worked.  A pass that
halts does not tell what it has discarded.
-/
def Outcome.Tells (removed applied : Nat) : Outcome → Prop
  | .drained told discarded => removed = told + discarded ∧ applied = told
  | .halted told _ => told ≤ removed ∧ applied = told
  | .contended => removed = 0 ∧ applied = 0
  | .storeFailed _ | .lockUnavailable => False

namespace Stage

/-- A stage tells what a pass has removed and applied, all of whose calls worked. -/
def Tells (removed applied : Nat) : Stage → Prop
  | .idle | .asking | .refused _ | .reading _ => removed = 0 ∧ applied = 0
  | .discarding _ told discarded _ _ | .facing _ told discarded _ _
  | .replaying _ told discarded _ _ _ => removed = told + discarded ∧ applied = told
  | .removing _ told discarded _ _ => removed = told + discarded ∧ applied = told + 1
  | .failing _ told _ => told ≤ removed ∧ applied = told
  | .leaving _ outcome | .returning outcome | .ended outcome => outcome.Tells removed applied

theorem tells_next {limit : Option Int} {lock : Lock TransactionId} {told discarded removed : Nat}
    {entries : List Entry} (told_eq : removed = told + discarded) :
    (next limit lock told discarded entries).Tells removed told := by
  exact next_cases (fun _ stage => stage.Tells removed told) ⟨told_eq, rfl⟩
    (fun _ _ _ => ⟨told_eq, rfl⟩) (fun _ _ => ⟨told_eq, rfl⟩) entries

/-- A pass that acts keeps account of what it has removed and applied. -/
theorem Tells.move {settings : Settings} {stage stage' : Stage} {act : Act}
    {removed applied : Nat} {db db' : Database} (tells : stage.Tells removed applied)
    (move : Stage.Move settings stage act stage') (succeeds : act.Succeeds db db') :
    stage'.Tells (if act.removes then removed + 1 else removed)
      (if act.resolved?.isSome then applied + 1 else applied) := by
  cases move with
  | start | lockTaken | lockRefused | conceded | handed | consulted | released | finish =>
      exact tells
  | read =>
      obtain ⟨rfl, rfl⟩ := tells
      exact tells_next rfl
  | discarded lock told discarded =>
      obtain ⟨rfl, rfl⟩ := tells
      exact tells_next (Nat.add_assoc ..)
  | removed lock told discarded =>
      obtain ⟨rfl, rfl⟩ := tells
      exact tells_next (Nat.add_right_comm ..)
  | resolved => exact ⟨tells.1, congrArg (· + 1) tells.2⟩
  | unresolved => exact ⟨Nat.le.intro tells.1.symm, tells.2⟩
  | counted => exact tells
  | lockFailed | misread | notDiscarded | notRemoved =>
      obtain ⟨answer, same, -⟩ := succeeds
      cases same

end Stage

/-- What passes have counted they have removed. -/
theorem length_counted {ι : Type} (history : List (Chore ι)) :
    (counted history).length = (removers (acted history)).length := by
  have same (act : Act) : act.removed?.isSome = act.removes := by
    cases act with
    | store call => cases call <;> rfl
    | _ => rfl
  unfold counted removers
  rw [List.length_map, List.length_filterMap_eq_countP, List.countP_eq_length_filter]
  simp only [same]

section Reports

variable {ι : Type} [DecidableEq ι]

/-- How many entries a pass has removed. -/
def removedBy (pass : ι) (history : List (Chore ι)) : Nat :=
  (removers (acted history)).count pass

/-- How many entries a pass has applied. -/
def appliedBy (pass : ι) (history : List (Chore ι)) : Nat :=
  (appliers (acted history)).count pass

theorem removedBy_own {pass : ι} {act : Act} {past : List (Chore ι)} :
    removedBy pass (.acts pass act :: past) =
      if act.removes then removedBy pass past + 1 else removedBy pass past := by
  cases removes : act.removes with
  | false => exact congrArg (List.count pass) (removers_cons_of_false removes)
  | true => simp [removedBy, removers, acted, removes]

theorem appliedBy_own {pass : ι} {act : Act} {past : List (Chore ι)} :
    appliedBy pass (.acts pass act :: past) =
      if act.resolved?.isSome then appliedBy pass past + 1 else appliedBy pass past := by
  cases resolves : act.resolved?.isSome <;> simp [appliedBy, appliers, acted, resolves]

theorem removedBy_other {pass : ι} {chore : Chore ι} {past : List (Chore ι)}
    (other : ∀ act, chore ≠ .acts pass act) :
    removedBy pass (chore :: past) = removedBy pass past := by
  cases chore with
  | appends | compacts => rfl
  | acts actor act =>
      have apart : actor ≠ pass := fun same => other act (same ▸ rfl)
      cases removes : act.removes <;> simp [removedBy, removers, acted, removes, apart]

theorem appliedBy_other {pass : ι} {chore : Chore ι} {past : List (Chore ι)}
    (other : ∀ act, chore ≠ .acts pass act) :
    appliedBy pass (chore :: past) = appliedBy pass past := by
  cases chore with
  | appends | compacts => rfl
  | acts actor act =>
      have apart : actor ≠ pass := fun same => other act (same ▸ rfl)
      cases resolves : act.resolved?.isSome <;>
        simp [appliedBy, appliers, acted, resolves, apart]

variable {settings : ι → Settings} {clock : Timestamp} {capacity : Nat}
variable {upkeep : Upkeep Stage ι}

/-- Each pass keeps account of what it has removed and applied. -/
theorem Tended.tells (tended : Tended settings Stage.Move .idle clock capacity upkeep)
    (pass : ι) :
    (upkeep.place pass).Tells (removedBy pass upkeep.history)
      (appliedBy pass upkeep.history) := by
  refine tended.of_acts (fun stage history =>
    stage.Tells (removedBy pass history) (appliedBy pass history)) ⟨rfl, rfl⟩ ?_ ?_
  · intro stage act stage' past db db' tells move succeeds
    rw [removedBy_own, appliedBy_own]
    exact tells.move move succeeds
  · intro stage chore past tells other
    rw [removedBy_other other, appliedBy_other other]
    exact tells

/-- What all passes have counted is what each of them has removed. -/
theorem sum_removedBy {passes : List ι} {history : List (Chore ι)} (distinct : passes.Nodup)
    (all : ∀ pass ∉ passes, removedBy pass history = 0) :
    (passes.map fun pass => removedBy pass history).sum = (counted history).length := by
  rw [length_counted]
  refine sum_count_eq_length distinct fun pass member => ?_
  by_contra absent
  exact List.count_eq_zero.mp (all pass absent) member

end Reports

/-! ## Whole runs -/

/-- What is true of passes and compactions, however they interleave. -/
structure Reconciled {ι : Type} [DecidableEq ι] (upkeep : Upkeep Standing ι) : Prop where
  /-- Who makes a call for an entry has read the entry before a compaction deleted it. -/
  called : ∀ later pass call reply past,
    upkeep.history = later ++ .acts pass (.consult call reply) :: past →
      ∃ entry, Faces pass entry past ∧ Sighted pass entry.id past
  /-- No entry is counted by two passes, or twice by one. -/
  counted_once : (counted upkeep.history).Nodup
  /-- No entry is counted by two compactions. -/
  compacted_once : ((compacted upkeep.history).map Entry.id).Nodup
  /--
  An entry that is counted by a pass and by a compaction was deleted behind the reading of the
  pass and before its removal.
  -/
  twice : ∀ id ∈ countedTwice upkeep.history,
    ∃ later pass reply mid gone deleted since entries past,
      upkeep.history = later ++ .acts pass (.store (.remove id) reply) ::
        (mid ++ .compacts gone deleted :: (since ++ .reads pass entries :: past)) ∧
      id ∈ gone.map Entry.id ∧ id ∈ entries.map Entry.id
  /-- All entries are there or counted, and those that are counted twice are told. -/
  balance : (appended upkeep.history).length + (countedTwice upkeep.history).length =
    upkeep.db.rows.length + (counted upkeep.history).length + deletedTotal upkeep.history
  /-- A pass reports what it has counted. -/
  reports : ∀ pass outcome, upkeep.place pass = .ended outcome →
    outcome.Tells (removedBy pass upkeep.history) (appliedBy pass upkeep.history)
  /-- What passes report adds up, once all of them have ended and none has halted. -/
  total : ∀ (passes : List ι) (outcome : ι → Outcome), passes.Nodup →
    (∀ pass ∉ passes, upkeep.place pass = .idle) →
    (∀ pass ∈ passes, upkeep.place pass = .ended (outcome pass) ∧
      ∀ applied id, outcome pass ≠ .halted applied id) →
    (appended upkeep.history).length + (countedTwice upkeep.history).length =
      upkeep.db.rows.length + (passes.map fun pass => (outcome pass).applied).sum +
        (passes.map fun pass => (outcome pass).discarded).sum + deletedTotal upkeep.history

section Whole

variable {ι : Type} [DecidableEq ι] {settings : ι → Settings} {key : LockId}
variable {clock : Timestamp} {capacity : Nat}

theorem Follows.eq_idle {settings : Settings} {standing : Standing} {stage : Stage}
    (follows : Follows settings standing stage) (idle : standing = .idle) :
    stage = .idle := by
  subst idle
  cases follows
  rfl

theorem Follows.eq_ended {settings : Settings} {standing : Standing} {stage : Stage}
    {outcome : Outcome} (follows : Follows settings standing stage)
    (ended : standing = .ended outcome) :
    stage = .ended outcome := by
  subst ended
  cases follows
  rfl

/-- What passes report is what they have counted, if none of them has halted. -/
theorem sum_reports {upkeep : Upkeep Standing ι} {passes : List ι} {outcome : ι → Outcome}
    (tells : ∀ pass ∈ passes,
      (outcome pass).Tells (removedBy pass upkeep.history) (appliedBy pass upkeep.history))
    (unhalted : ∀ pass ∈ passes, ∀ applied id, outcome pass ≠ .halted applied id) :
    (passes.map fun pass => (outcome pass).applied).sum +
        (passes.map fun pass => (outcome pass).discarded).sum =
      (passes.map fun pass => removedBy pass upkeep.history).sum := by
  rw [← List.sum_map_add]
  refine congrArg List.sum (List.map_congr_left fun pass member => ?_)
  have told := tells pass member
  have apart := unhalted pass member
  generalize outcome pass = ended at told apart
  cases ended with
  | drained => exact told.1.symm
  | contended => exact told.1.symm
  | halted applied id => exact absurd rfl (apart applied id)
  | storeFailed | lockUnavailable => exact told.elim

/-- Passes and compactions are reconciled, however they interleave. -/
theorem Tended.reconciled {upkeep : Upkeep Standing ι}
    (same_key : ∀ pass, (settings pass).lockId = key)
    (tended : Tended settings Standing.Move .idle clock capacity upkeep) :
    Reconciled upkeep := by
  obtain ⟨stages, staged, follow⟩ := tended.exists_stages
  have kept := staged.kept same_key
  have reports : ∀ pass outcome, upkeep.place pass = .ended outcome →
      outcome.Tells (removedBy pass upkeep.history) (appliedBy pass upkeep.history) := by
    intro pass outcome ended
    have tells := staged.tells pass
    rw [show (upkeep.placed stages).place pass = .ended outcome from
      (follow pass).eq_ended ended] at tells
    exact tells
  refine ⟨?_, kept.books.counted_distinct, kept.books.compacted_distinct,
    fun id => kept.exists_between, kept.books.balance, reports, ?_⟩
  · exact fun later pass call reply past split => kept.sound.of_split split
  · intro passes outcome distinct others ended
    have none_by (pass : ι) (absent : pass ∉ passes) : removedBy pass upkeep.history = 0 := by
      have tells := staged.tells pass
      rw [show (upkeep.placed stages).place pass = .idle from
        (follow pass).eq_idle (others pass absent)] at tells
      exact tells.1
    have reported := sum_reports (fun pass member => reports pass _ (ended pass member).1)
      fun pass member => (ended pass member).2
    rw [sum_removedBy distinct none_by] at reported
    refine kept.books.balance.trans ?_
    show upkeep.db.rows.length + (counted upkeep.history).length +
      deletedTotal upkeep.history = _
    rw [← reported, ← Nat.add_assoc]

end Whole

/-! ## A compaction in the middle of a pass -/

section Run

variable {ι : Type} [DecidableEq ι] {settings : ι → Settings} {clock : Timestamp}
variable {capacity : Nat} {upkeep : Upkeep Standing ι} {db : Database}

/-- A pass acts next. -/
theorem Tended.act {standing : Standing}
    (tended : Tended settings Standing.Move .idle clock capacity upkeep) (pass : ι) (act : Act)
    (moves : Standing.Move (settings pass) (upkeep.place pass) act standing)
    (succeeds : act.Succeeds upkeep.db db) :
    Tended settings Standing.Move .idle clock capacity
      ⟨db, Function.update upkeep.place pass standing, .acts pass act :: upkeep.history⟩ := by
  exact tended.tail (.acts moves succeeds)

/-- A compaction is next, which deletes one entry. -/
theorem Tended.compact (tended : Tended settings Standing.Move .idle clock capacity upkeep)
    (served : upkeep.db.run (Store.serve (.removeOldest 1)) = (.ok (1 : Nat), db)) :
    Tended settings Standing.Move .idle clock capacity
      ⟨db, upkeep.place, .compacts (missing upkeep.db.rows db.rows) 1 :: upkeep.history⟩ := by
  exact tended.tail (.compacts served)

end Run

theorem run_removeOldest_stock (clock : Timestamp) (row : Entry) (lock : Store.Transaction)
    (next : TransactionId) :
    (stock clock [row] [lock] next).run (Store.serve (.removeOldest 1)) =
      (.ok (1 : Nat), stock clock [] [lock] next) := by
  let db := stock clock [row] [lock] next
  have sorted : db.entries = [row] := List.mergeSort_singleton row
  have deleted : db.deleteOldest 1 = (.ok 1, stock clock [] [lock] next) := by
    let removal := db.deleteAll ((db.entries.take 1).map Entry.id)
    show ((.ok removal.1, removal.2) : Except DatabaseError Nat × Database) = _
    unfold removal
    rw [sorted]
    simp [db, stock, Database.deleteAll, List.partition_eq_filter_filter, Database.empty]
  show ((db.deleteOldest 1).1.mapError StoreError.database, (db.deleteOldest 1).2) = _
  rw [deleted]
  rfl

/-- A pass reads an entry, a compaction deletes it, and then the pass goes on with it. -/
theorem exists_compacted_in_between :
    ∃ (upkeep : Upkeep Standing Unit) (later past : List (Chore Unit)),
      Tended (fun _ => .default) Standing.Move .idle 0 8 upkeep ∧
      upkeep.history = later ++ .acts () (.consult (.deleteTag "a" "a") (.ok ())) ::
        .acts () (.hand farewell) :: .compacts [farewell] 1 :: past ∧
      upkeep.place () = .ended (.drained 1 0) ∧ upkeep.db.rows = [] ∧
      appended upkeep.history = [farewell] ∧ compacted upkeep.history = [farewell] ∧
      counted upkeep.history = [farewell.id] ∧ deletedTotal upkeep.history = 1 := by
  have started : Tended (fun _ : Unit => .default) Standing.Move .idle 0 8
      ⟨stock 0 [] [] 0, fun _ => .idle, []⟩ := Relation.ReflTransGen.refl
  have entered : Tended (fun _ : Unit => .default) Standing.Move .idle 0 8
      ⟨stock 0 [farewell] [] 0, fun _ => .idle, [.appends farewell]⟩ :=
    started.tail (.appends List.not_mem_nil)
  have begun := entered.act () .start .start rfl
  have locked : Tended (fun _ : Unit => .default) Standing.Move .idle 0 8
      ⟨stock 0 [farewell] [⟨0, [], [1000]⟩] 1, _, _⟩ :=
    begun.act () (.store (.tryLock 1000) (.ok ⟨true, 0⟩)) (.store rfl _) ⟨_, rfl, rfl⟩
  have read := locked.act () (.store .entries (.ok [farewell])) (.store rfl _)
    ⟨_, rfl, run_entries_stock 0 farewell _ _ (by decide) _⟩
  have compacted := read.compact (run_removeOldest_stock 0 farewell _ _)
  have handed := compacted.act () (.hand farewell) (.hand rfl) rfl
  have consulted := handed.act () (.consult (.deleteTag "a" "a") (.ok ()))
    (.consult (by rw [apply_farewell]; rfl) _) ⟨⟨_, rfl⟩, rfl⟩
  have settled := consulted.act () (.settle farewell (.ok ())) (.settle rfl) rfl
  have removed : Tended (fun _ : Unit => .default) Standing.Move .idle 0 8
      ⟨stock 0 [] [⟨0, [], [1000]⟩] 1, _, _⟩ :=
    settled.act () (.store (.remove farewell.id) (.ok ())) (.store rfl _) ⟨_, rfl, rfl⟩
  have released : Tended (fun _ : Unit => .default) Standing.Move .idle 0 8
      ⟨stock 0 [] [] 1, _, _⟩ :=
    removed.act () (.store (.release (some ⟨true, 0⟩)) (.ok ())) (.store rfl _) ⟨_, rfl, rfl⟩
  have drained := released.act () (.finish (.drained 1 0)) (.finish rfl) rfl
  exact ⟨_, [.acts () (.finish (.drained 1 0)),
    .acts () (.store (.release (some ⟨true, 0⟩)) (.ok ())),
    .acts () (.store (.remove farewell.id) (.ok ())), .acts () (.settle farewell (.ok ()))],
    [.reads () [farewell], .acts () (.store (.tryLock 1000) (.ok ⟨true, 0⟩)), .acts () .start,
      .appends farewell], drained, rfl, rfl, rfl, rfl, rfl, rfl, rfl⟩

/--
An entry may be replayed that a compaction has deleted before.  Then it is counted by both, and
the counts do not add up.
-/
theorem exists_replayed_behind_compaction :
    ∃ upkeep : Upkeep Standing Unit,
      Tended (fun _ => .default) Standing.Move .idle 0 8 upkeep ∧
      (∃ later call reply past entry,
        upkeep.history = later ++ .acts () (.consult call reply) :: past ∧
          Faces () entry past ∧ entry.id ∈ (compacted past).map Entry.id) ∧
      (∃ id ∈ counted upkeep.history, id ∈ (compacted upkeep.history).map Entry.id) ∧
      ∃ applied discarded, upkeep.place () = .ended (.drained applied discarded) ∧
        (appended upkeep.history).length ≠
          upkeep.db.rows.length + applied + discarded + deletedTotal upkeep.history := by
  obtain ⟨upkeep, later, past, tended, split, ended, none_left, entered, gone, counted_eq,
    deleted⟩ := exists_compacted_in_between
  refine ⟨upkeep, tended, ⟨later, _, _, _, farewell, split, ?_, ?_⟩, ⟨farewell.id, ?_, ?_⟩,
    1, 0, ended, ?_⟩
  · exact ⟨[], _, rfl, fun _ => List.not_mem_nil⟩
  · exact List.mem_cons_self
  · rw [counted_eq]
    exact List.mem_cons_self
  · rw [gone]
    exact List.mem_cons_self
  · rw [entered, none_left, deleted]
    decide

/-- The entry that was deleted in between is the one that is counted twice. -/
theorem reconciled_of_compaction_in_between :
    ∃ upkeep : Upkeep Standing Unit,
      Tended (fun _ => .default) Standing.Move .idle 0 8 upkeep ∧
        countedTwice upkeep.history = [farewell.id] ∧
        upkeep.place () = .ended (.drained 1 0) ∧ Reconciled upkeep := by
  obtain ⟨upkeep, -, -, tended, -, ended, -, -, gone, counted_eq, -⟩ :=
    exists_compacted_in_between
  have same_key : Unit → Settings.default.lockId = 1000 := fun _ => rfl
  refine ⟨upkeep, tended, ?_, ended, Tended.reconciled same_key tended⟩
  unfold countedTwice
  rw [counted_eq, gone]
  rfl

end Dispatch
end OutboxRelay
