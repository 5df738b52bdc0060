import OutboxRelay.Proofs.Dispatch.Traffic

/-!
# The order of entries beside writers

An entry has its place among all entries from its insertion on, but a pass can see it only when
its transaction is committed.  So a pass may apply an entry and only then find one that
comes before it.

**Results.**
* `not_inOrder`: entries are not always applied in their order.
* `Flowing.open_of_overtaken`: an entry that is applied behind a greater one was in an open
  transaction when the pass that applied the greater one read the entries.
-/

namespace OutboxRelay
namespace Dispatch

open Store (TransactionId Transaction Database rank)
open Outbox (task markFailed without)

/-- The deed of a pass that reads some entries. -/
def Deed.reads {ι : Type} (pass : ι) (entries : List Entry) : Deed ι :=
  .acts pass (.store .entries (.ok entries))

/-- The deed of a pass whose parser has applied an entry. -/
def Deed.applies {ι : Type} (pass : ι) (entry : Entry) : Deed ι :=
  .acts pass (.settle entry (.ok ()))

section History

variable {ι : Type}

theorem inserted_append (later past : List (Deed ι)) :
    inserted (later ++ past) = inserted later ++ inserted past := by
  induction later with
  | nil => rfl
  | cons deed later ih =>
      cases deed with
      | inserts entry => exact congrArg (entry :: ·) ih
      | commits | acts => exact ih

theorem committed_append (later past : List (Deed ι)) :
    committed (later ++ past) = committed later ++ committed past := by
  induction later with
  | nil => rfl
  | cons deed later ih =>
      cases deed with
      | commits entries => exact (congrArg (entries ++ ·) ih).trans (List.append_assoc ..).symm
      | inserts | acts => exact ih

/-- Each entry is applied before all greater ones, unless it was applied before already. -/
def InOrder (history : List (Deed ι)) : Prop :=
  ∀ later pass greater earlier,
    history = later ++ .applies pass greater :: earlier →
      ∀ other entry, .applies other entry ∈ later →
        (∀ before again, .applies before again ∈ earlier → again.id ≠ entry.id) →
          ¬ rank entry < rank greater

end History

/-! ## Where entries are -/

/-- What was inserted is in an open transaction, committed, or rolled back. -/
structure Shelved {ι : Type} (db : Database) (history : List (Deed ι)) : Prop where
  /-- No two entries have the same identifier. -/
  distinct : ((inserted history).map Entry.id).Nodup
  /-- Entries are inserted in their order. -/
  sorted : (inserted history).Pairwise fun later earlier => rank earlier < rank later
  past : ∀ entry ∈ inserted history, entry.createdAt ≤ db.clock
  committed_subset : committed history ⊆ inserted history
  open_subset : ∀ transaction ∈ db.transactions, transaction.inserted ⊆ inserted history
  /-- What is in an open transaction is not committed. -/
  open_apart : ∀ transaction ∈ db.transactions, ∀ entry ∈ transaction.inserted,
    entry ∉ committed history
  open_once : ∀ one ∈ db.transactions, ∀ other ∈ db.transactions, ∀ entry,
    entry ∈ one.inserted → entry ∈ other.inserted → one.id = other.id
  open_distinct : ∀ transaction ∈ db.transactions, transaction.inserted.Nodup
  rows_subset : db.rows.map task ⊆ (committed history).map task
  rows_distinct : (db.rows.map Entry.id).Nodup

namespace Shelved

variable {ι : Type} {db db' : Database} {history : List (Deed ι)}

theorem initial (clock : Timestamp) (capacity : Nat) :
    Shelved (.empty clock capacity) ([] : List (Deed ι)) := by
  constructor <;> simp [Database.empty, inserted, committed]

/-- An entry is told by its identifier. -/
theorem eq_of_id (shelved : Shelved db history) {a b : Entry} (a_in : a ∈ inserted history)
    (b_in : b ∈ inserted history) (same : a.id = b.id) :
    a = b := by
  exact List.inj_on_of_nodup_map shelved.distinct a_in b_in same

/-- Two entries of which one asks for what the other asks for have the same place. -/
theorem rank_eq_of_task_eq {a b : Entry} (same : task a = task b) : rank a = rank b := by
  have id_eq : a.id = b.id := congrArg Prod.fst same
  have createdAt_eq : a.createdAt = b.createdAt := congrArg (fun task => task.2.2.2.2) same
  unfold rank
  rw [id_eq, createdAt_eq]

/-- What is in an open transaction has no identifier that was committed. -/
theorem open_id_apart (shelved : Shelved db history) {transaction : Transaction}
    (open_now : transaction ∈ db.transactions) {entry other : Entry}
    (among : entry ∈ transaction.inserted) (known : other ∈ committed history) :
    entry.id ≠ other.id := by
  intro same
  have entry_in := shelved.open_subset transaction open_now among
  rw [← shelved.eq_of_id entry_in (shelved.committed_subset known) same] at known
  exact shelved.open_apart transaction open_now entry among known

/-- What can be read was committed. -/
theorem exists_committed (shelved : Shelved db history) {row : Entry} (member : row ∈ db.rows) :
    ∃ entry ∈ committed history, task entry = task row := by
  exact List.mem_map.mp (shelved.rows_subset (List.mem_map_of_mem member))

/-- Some entries are taken away and nothing else is done to any. -/
theorem shrink (shelved : Shelved db history) {history' : List (Deed ι)}
    (inserts : inserted history' = inserted history)
    (commits : committed history' = committed history) (clock : db.clock ≤ db'.clock)
    (transactions : ∀ transaction ∈ db'.transactions,
      transaction ∈ db.transactions ∨ transaction.inserted = [])
    (fewer : (db'.rows.map task).Sublist (db.rows.map task)) :
    Shelved db' history' := by
  have still_open {transaction : Transaction} {entry : Entry}
      (member : transaction ∈ db'.transactions) (among : entry ∈ transaction.inserted) :
      transaction ∈ db.transactions := by
    refine (transactions transaction member).resolve_right fun blank => ?_
    rw [blank] at among
    exact absurd among List.not_mem_nil
  constructor
  · rw [inserts]
    exact shelved.distinct
  · rw [inserts]
    exact shelved.sorted
  · intro entry member
    rw [inserts] at member
    exact le_trans (shelved.past entry member) clock
  · rw [inserts, commits]
    exact shelved.committed_subset
  · intro transaction member entry among
    rw [inserts]
    exact shelved.open_subset transaction (still_open member among) among
  · intro transaction member entry among
    rw [commits]
    exact shelved.open_apart transaction (still_open member among) entry among
  · intro one one_open other other_open entry one_has other_has
    exact shelved.open_once one (still_open one_open one_has) other
      (still_open other_open other_has) entry one_has other_has
  · intro transaction member
    rcases transactions transaction member with member | blank
    · exact shelved.open_distinct transaction member
    · rw [blank]
      exact List.nodup_nil
  · rw [commits]
    exact List.Subset.trans fewer.subset shelved.rows_subset
  · have ids := fewer.map Prod.fst
    rw [map_fst_task, map_fst_task] at ids
    exact shelved.rows_distinct.sublist ids

/-- A writer inserts a new entry in its transaction. -/
theorem insert (shelved : Shelved db history) {transaction : Transaction} {id : EntryId}
    {action : Action} {version : Int} {payload : Bytes}
    (open_now : transaction ∈ db.transactions)
    (fresh : ∀ entry ∈ inserted history, entry.id.toNat < id.toNat) :
    Shelved
      (db.setTransaction { transaction with
        inserted := transaction.inserted ++ [db.newEntry id action version payload] })
      (.inserts (db.newEntry id action version payload) :: history) := by
  let entry := db.newEntry id action version payload
  have unknown : entry ∉ inserted history := fun member => Nat.lt_irrefl _ (fresh entry member)
  have less : ∀ other ∈ inserted history, rank other < rank entry := by
    intro other member
    have earlier := shelved.past other member
    have smaller := fresh other member
    refine Prod.Lex.lt_iff.mpr ?_
    rcases lt_or_eq_of_le earlier with before | same
    · exact .inl before
    · exact .inr ⟨same, smaller⟩
  have mem_inserted {changed : Transaction} {other : Entry}
      (member : changed ∈ (db.setTransaction { transaction with
        inserted := transaction.inserted ++ [entry] }).transactions)
      (among : other ∈ changed.inserted) :
      (∃ before ∈ db.transactions, before.id = changed.id ∧ other ∈ before.inserted) ∨
        (changed.id = transaction.id ∧ other = entry) := by
    rcases Database.mem_of_setTransaction member with member | rfl
    · exact .inl ⟨changed, member, rfl, among⟩
    · rcases List.mem_append.mp among with among | last
      · exact .inl ⟨transaction, open_now, rfl, among⟩
      · exact .inr ⟨rfl, List.mem_singleton.mp last⟩
  constructor
  · refine List.nodup_cons.mpr ⟨?_, shelved.distinct⟩
    intro member
    obtain ⟨other, among, same⟩ := List.mem_map.mp member
    have smaller := fresh other among
    rw [same] at smaller
    exact Nat.lt_irrefl _ smaller
  · exact List.pairwise_cons.mpr ⟨less, shelved.sorted⟩
  · exact List.forall_mem_cons.mpr ⟨le_refl _, shelved.past⟩
  · exact List.subset_cons_of_subset _ shelved.committed_subset
  · intro changed member other among
    rcases mem_inserted member among with ⟨before, member, -, among⟩ | ⟨-, rfl⟩
    · exact List.mem_cons_of_mem _ (shelved.open_subset before member among)
    · exact List.mem_cons_self
  · intro changed member other among
    rcases mem_inserted member among with ⟨before, member, -, among⟩ | ⟨-, rfl⟩
    · exact shelved.open_apart before member other among
    · exact fun committed => unknown (shelved.committed_subset committed)
  · intro one one_open other other_open known one_has other_has
    rcases mem_inserted one_open one_has with ⟨one', one_open, one_eq, one_has⟩ | ⟨one_eq, rfl⟩
    · rcases mem_inserted other_open other_has with
        ⟨other', other_open, other_eq, other_has⟩ | ⟨other_eq, rfl⟩
      · rw [← one_eq, ← other_eq]
        exact shelved.open_once one' one_open other' other_open known one_has other_has
      · exact absurd (shelved.open_subset one' one_open one_has) unknown
    · rcases mem_inserted other_open other_has with
        ⟨other', other_open, other_eq, other_has⟩ | ⟨other_eq, -⟩
      · exact absurd (shelved.open_subset other' other_open other_has) unknown
      · rw [one_eq, other_eq]
  · intro changed member
    rcases Database.mem_of_setTransaction member with member | rfl
    · exact shelved.open_distinct changed member
    · refine List.nodup_append.mpr
        ⟨shelved.open_distinct transaction open_now, List.nodup_singleton _, ?_⟩
      rintro other among _ last rfl
      rw [List.mem_singleton.mp last] at among
      exact unknown (shelved.open_subset transaction open_now among)
  · exact shelved.rows_subset
  · exact shelved.rows_distinct

/-- A writer commits its transaction. -/
theorem commit (shelved : Shelved db history) {transaction : Transaction}
    (open_now : transaction ∈ db.transactions) :
    Shelved
      { db.dropTransaction transaction.id with rows := db.rows ++ transaction.inserted }
      (.commits transaction.inserted :: history) := by
  have mem_drop {other : Transaction}
      (member : other ∈ (db.dropTransaction transaction.id).transactions) :
      other ∈ db.transactions ∧ other.id ≠ transaction.id := by
    simpa [Database.dropTransaction] using member
  constructor
  · exact shelved.distinct
  · exact shelved.sorted
  · exact shelved.past
  · exact List.append_subset.mpr
      ⟨shelved.open_subset transaction open_now, shelved.committed_subset⟩
  · exact fun other member => shelved.open_subset other (mem_drop member).1
  · intro other member entry among now_committed
    obtain ⟨other_open, apart⟩ := mem_drop member
    rcases List.mem_append.mp now_committed with among' | before
    · exact apart (shelved.open_once other other_open transaction open_now entry among among')
    · exact shelved.open_apart other other_open entry among before
  · exact fun one one_open other other_open =>
      shelved.open_once one (mem_drop one_open).1 other (mem_drop other_open).1
  · exact fun other member => shelved.open_distinct other (mem_drop member).1
  · show (db.rows ++ transaction.inserted).map task ⊆
      (transaction.inserted ++ committed history).map task
    rw [List.map_append, List.map_append]
    exact List.append_subset.mpr ⟨List.subset_append_of_subset_right _ shelved.rows_subset,
      List.subset_append_left _ _⟩
  · show ((db.rows ++ transaction.inserted).map Entry.id).Nodup
    rw [List.map_append]
    refine List.nodup_append.mpr ⟨shelved.rows_distinct, ?_, ?_⟩
    · refine (shelved.open_distinct transaction open_now).map_on ?_
      exact fun a a_in b b_in => shelved.eq_of_id
        (shelved.open_subset transaction open_now a_in)
        (shelved.open_subset transaction open_now b_in)
    · intro id row_member id' open_member same
      obtain ⟨row, row_in, rfl⟩ := List.mem_map.mp row_member
      obtain ⟨entry, among, rfl⟩ := List.mem_map.mp open_member
      obtain ⟨other, known, task_eq⟩ := shelved.exists_committed row_in
      have id_eq : other.id = row.id := congrArg Prod.fst task_eq
      exact shelved.open_id_apart open_now among known (id_eq.trans same).symm

end Shelved

/-! ## What a pass has read -/

/-- A pass has yet to settle all entries that it could see and that are left. -/
structure Abreast {ι : Type} (db : Database) (history : List (Deed ι)) (pass : ι)
    (pending : List Entry) : Prop where
  sorted : pending.Pairwise fun earlier later => rank earlier ≤ rank later
  distinct : (pending.map Entry.id).Nodup
  kept : pending.map task ⊆ db.rows.map task
  read : pending ≠ [] → ∃ later entries past, history = later ++ .reads pass entries :: past ∧
    committed past ⊆ inserted past ∧ pending.map task ⊆ (committed past).map task ∧
    ∀ entry ∈ committed past,
      entry.id ∈ db.rows.map Entry.id → entry.id ∈ pending.map Entry.id

namespace Abreast

variable {ι : Type} {db db' : Database} {history : List (Deed ι)} {pass : ι}
variable {pending : List Entry}

theorem nil : Abreast db history pass [] := by
  exact ⟨List.Pairwise.nil, List.nodup_nil, List.nil_subset _, fun none => absurd rfl none⟩

/-- A pass that reads the entries sees all that are committed. -/
theorem of_read (shelved : Shelved db history) :
    Abreast db (.reads pass db.entries :: history) pass db.entries := by
  have tasks_eq : db.entries.map task ⊆ db.rows.map task :=
    List.map_subset _ fun entry member => Database.mem_entries.mp member
  have perm := (List.mergeSort_perm db.rows Store.comesBefore).map Entry.id
  refine ⟨db.entries_sorted, perm.nodup_iff.mpr shelved.rows_distinct, tasks_eq,
    fun _ => ⟨[], db.entries, history, rfl, shelved.committed_subset, ?_, ?_⟩⟩
  · exact List.Subset.trans tasks_eq shelved.rows_subset
  · intro entry _ left
    obtain ⟨row, member, same⟩ := List.mem_map.mp left
    rw [← same]
    exact List.mem_map_of_mem (Database.mem_entries.mpr member)

/-- What others do leaves a pass abreast, if they take away none of the entries it has read. -/
theorem later (abreast : Abreast db history pass pending) (more : List (Deed ι))
    (kept : db.rows.map task ⊆ db'.rows.map task)
    (old : ∀ entry ∈ committed history,
      entry.id ∈ db'.rows.map Entry.id → entry.id ∈ db.rows.map Entry.id) :
    Abreast db' (more ++ history) pass pending := by
  refine ⟨abreast.sorted, abreast.distinct, List.Subset.trans abreast.kept kept,
    fun some_left => ?_⟩
  obtain ⟨since, entries, past, rfl, prior, known, complete⟩ := abreast.read some_left
  refine ⟨more ++ since, entries, past, (List.append_assoc ..).symm, prior, known, ?_⟩
  intro entry member left
  refine complete entry member (old entry ?_ left)
  rw [committed_append]
  exact List.mem_append_right _ member

/-- A pass that removes its first entry goes on with the others. -/
theorem rest {entry : Entry} {entries : List Entry} {deed : Deed ι}
    (abreast : Abreast db history pass (entry :: entries)) :
    Abreast { db with rows := without entry.id db.rows } (deed :: history) pass entries := by
  have distinct := List.nodup_cons.mp abreast.distinct
  refine ⟨abreast.sorted.of_cons, distinct.2, ?_, fun _ => ?_⟩
  · intro asked member
    obtain ⟨other, among, rfl⟩ := List.mem_map.mp member
    obtain ⟨row, row_in, same⟩ :=
      List.mem_map.mp (abreast.kept (List.mem_map_of_mem (List.mem_cons_of_mem _ among)))
    have apart : row.id ≠ entry.id := by
      have id_eq : row.id = other.id := congrArg Prod.fst same
      rw [id_eq]
      exact fun twice => distinct.1 (twice ▸ List.mem_map_of_mem among)
    exact List.mem_map.mpr ⟨row, Outbox.mem_without.mpr ⟨row_in, apart⟩, same⟩
  · obtain ⟨since, read, past, rfl, prior, known, complete⟩ := abreast.read (List.cons_ne_nil _ _)
    refine ⟨deed :: since, read, past, rfl, prior, ?_, ?_⟩
    · exact List.Subset.trans (List.subset_cons_self _ _) known
    · intro other member left
      obtain ⟨row, row_in, same⟩ := List.mem_map.mp left
      obtain ⟨row_in, apart⟩ := Outbox.mem_without.mp row_in
      have pending := complete other member (same ▸ List.mem_map_of_mem row_in)
      exact (List.mem_cons.mp pending).resolve_left fun first => apart (same.trans first)

/-- No entry that a pass has yet to settle comes before its first one. -/
theorem first_le {entry other : Entry} {entries : List Entry}
    (abreast : Abreast db history pass (entry :: entries)) (member : other ∈ entry :: entries) :
    rank entry ≤ rank other := by
  rcases List.mem_cons.mp member with rfl | member
  · exact le_refl _
  · exact List.rel_of_pairwise_cons abreast.sorted member

end Abreast

/-! ## Entries that are overtaken -/

/-- What is true when an entry was applied by a pass that had read the entries in the past. -/
structure Overtakes {ι : Type} (db : Database) (later : List (Deed ι)) (greater : Entry)
    (past : List (Deed ι)) : Prop where
  known : task greater ∈ (committed past).map task
  prior : committed past ⊆ inserted past
  /-- What the pass could see in front of the entry is gone. -/
  gone : ∀ entry ∈ committed past, rank entry < rank greater →
    entry.id ∉ db.rows.map Entry.id
  /-- What is applied later and comes before the entry was in an open transaction. -/
  overtaken : ∀ other entry, .applies other entry ∈ later → rank entry < rank greater →
    entry.id ∈ (inserted past).map Entry.id ∧ entry.id ∉ (committed past).map Entry.id

/-- Whenever an entry was applied, all entries before it were, which the pass could see. -/
def Ordered {ι : Type} (db : Database) (history : List (Deed ι)) : Prop :=
  ∀ later pass greater earlier, history = later ++ .applies pass greater :: earlier →
    ∃ since entries past, earlier = since ++ .reads pass entries :: past ∧
      Overtakes db later greater past

section Ordered

variable {ι : Type} {db db' : Database} {history : List (Deed ι)} {pass : ι}

/-- Who goes on with an entry has all entries behind that it could see before it. -/
theorem Abreast.exists_overtakes {greater : Entry} {entries : List Entry}
    (abreast : Abreast db history pass (greater :: entries)) (shelved : Shelved db history) :
    ∃ since entries past, history = since ++ .reads pass entries :: past ∧
      Overtakes db [] greater past := by
  obtain ⟨since, read, past, split, prior, known, complete⟩ :=
    abreast.read (List.cons_ne_nil _ _)
  have old {entry : Entry} (member : entry ∈ committed past) : entry ∈ inserted history := by
    rw [split, inserted_append]
    exact List.mem_append_right _ (prior member)
  refine ⟨since, read, past, split, known List.mem_cons_self, prior, ?_, ?_⟩
  · intro entry member less left
    obtain ⟨other, among, same⟩ := List.mem_map.mp (complete entry member left)
    obtain ⟨twin, twin_in, task_eq⟩ := List.mem_map.mp (known (List.mem_map_of_mem among))
    have id_eq : twin.id = other.id := congrArg Prod.fst task_eq
    obtain rfl := shelved.eq_of_id (old twin_in) (old member) (id_eq.trans same)
    rw [Shelved.rank_eq_of_task_eq task_eq] at less
    exact not_lt_of_ge (abreast.first_le among) less
  · exact fun _ _ none => absurd none List.not_mem_nil

/-- What others do brings back nothing that is gone. -/
theorem Overtakes.mono {later : List (Deed ι)} {greater : Entry} {past : List (Deed ι)}
    (overtakes : Overtakes db later greater past)
    (old : ∀ entry ∈ committed past,
      entry.id ∈ db'.rows.map Entry.id → entry.id ∈ db.rows.map Entry.id) :
    Overtakes db' later greater past := by
  refine ⟨overtakes.known, overtakes.prior, ?_, overtakes.overtaken⟩
  exact fun entry member less left => overtakes.gone entry member less (old entry member left)

/-- An entry that is applied behind a greater one could not be seen by who applied that. -/
theorem Overtakes.apply {later past : List (Deed ι)} {greater entry : Entry} {other : ι}
    (overtakes : Overtakes db later greater past) (shelved : Shelved db history)
    (suffix : past <:+ history) (left : task entry ∈ db.rows.map task) :
    Overtakes db (.applies other entry :: later) greater past := by
  obtain ⟨mid, rfl⟩ := suffix
  refine ⟨overtakes.known, overtakes.prior, overtakes.gone, ?_⟩
  intro another applied member less
  rcases List.mem_cons.mp member with same | member
  · cases same
    obtain ⟨row, row_in, row_eq⟩ := List.mem_map.mp left
    obtain ⟨twin, twin_in, twin_eq⟩ := shelved.exists_committed row_in
    have twin_eq := twin_eq.trans row_eq
    have id_eq : twin.id = entry.id := congrArg Prod.fst twin_eq
    have rank_eq := Shelved.rank_eq_of_task_eq twin_eq
    have twin_inserted := shelved.committed_subset twin_in
    have prior : twin ∈ inserted past := by
      rw [inserted_append] at twin_inserted
      refine (List.mem_append.mp twin_inserted).resolve_left fun recent => ?_
      obtain ⟨known, known_in, known_eq⟩ := List.mem_map.mp overtakes.known
      have sorted := shelved.sorted
      rw [inserted_append, List.pairwise_append] at sorted
      have above := sorted.2.2 twin recent known (overtakes.prior known_in)
      rw [Shelved.rank_eq_of_task_eq known_eq, rank_eq] at above
      exact lt_asymm above less
    refine ⟨id_eq ▸ List.mem_map_of_mem prior, fun seen => ?_⟩
    obtain ⟨known, known_in, same⟩ := List.mem_map.mp seen
    have known_inserted : known ∈ inserted (mid ++ past) := by
      rw [inserted_append]
      exact List.mem_append_right _ (overtakes.prior known_in)
    obtain rfl := shelved.eq_of_id known_inserted twin_inserted (same.trans id_eq.symm)
    refine overtakes.gone known known_in (rank_eq ▸ less) ?_
    have row_id : row.id = known.id := (congrArg Prod.fst row_eq).trans id_eq.symm
    exact row_id ▸ List.mem_map_of_mem row_in
  · exact overtakes.overtaken another applied member less

theorem Ordered.mono (ordered : Ordered db history)
    (old : ∀ entry ∈ committed history,
      entry.id ∈ db'.rows.map Entry.id → entry.id ∈ db.rows.map Entry.id) :
    Ordered db' history := by
  rintro later pass greater earlier rfl
  obtain ⟨since, entries, past, rfl, overtakes⟩ := ordered later pass greater earlier rfl
  refine ⟨since, entries, past, rfl, overtakes.mono fun entry member => old entry ?_⟩
  have suffix : past <:+ later ++ .applies pass greater :: (since ++ .reads pass entries :: past) :=
    ⟨later ++ .applies pass greater :: (since ++ [.reads pass entries]), by simp⟩
  obtain ⟨mid, split⟩ := suffix
  rw [← split, committed_append]
  exact List.mem_append_right _ member

theorem Ordered.quiet {deed : Deed ι} (ordered : Ordered db history)
    (other : ∀ pass entry, deed ≠ .applies pass entry) :
    Ordered db (deed :: history) := by
  intro later pass greater earlier split
  cases later with
  | nil => exact absurd (List.cons.inj split).1 (other pass greater)
  | cons last later =>
      obtain ⟨rfl, rfl⟩ := List.cons.inj split
      obtain ⟨since, entries, past, rfl, overtakes⟩ := ordered later pass greater earlier rfl
      refine ⟨since, entries, past, rfl, overtakes.known, overtakes.prior, overtakes.gone, ?_⟩
      intro another entry member
      exact overtakes.overtaken another entry
        ((List.mem_cons.mp member).resolve_left fun same => other another entry same.symm)

/-- A pass that goes on with what it has read overtakes only what it could not see. -/
theorem Ordered.apply {entry : Entry} {entries : List Entry} (ordered : Ordered db history)
    (shelved : Shelved db history) (abreast : Abreast db history pass (entry :: entries)) :
    Ordered db (.applies pass entry :: history) := by
  intro later another greater earlier split
  cases later with
  | nil =>
      cases split
      exact abreast.exists_overtakes shelved
  | cons last later =>
      obtain ⟨rfl, rfl⟩ := List.cons.inj split
      obtain ⟨since, read, past, rfl, overtakes⟩ := ordered later another greater earlier rfl
      refine ⟨since, read, past, rfl,
        overtakes.apply shelved ?_ (abreast.kept List.mem_cons_self)⟩
      exact ⟨later ++ .applies another greater :: (since ++ [.reads another read]), by simp⟩

end Ordered

/-! ## Whole runs -/

/-- The invariants of traffic. -/
structure Traced {ι : Type} (key : LockId) (traffic : Traffic Stage ι) : Prop where
  ledger : Ledger key traffic.db traffic.writers traffic.claims
  shelved : Shelved traffic.db traffic.history
  abreast : ∀ pass, Abreast traffic.db traffic.history pass (traffic.place pass).pending
  ordered : Ordered traffic.db traffic.history

namespace Traced

variable {ι : Type} {settings : ι → Settings} {key : LockId}
variable {clock : Timestamp} {capacity : Nat} {traffic traffic' : Traffic Stage ι}

theorem initial : Traced key (.start .idle clock capacity : Traffic Stage ι) := by
  refine ⟨Ledger.initial clock capacity, Shelved.initial clock capacity, fun _ => Abreast.nil, ?_⟩
  intro later pass greater earlier split
  cases later <;> cases split

/-- What happens without a deed, and leaves the entries alone. -/
theorem still (traced : Traced key traffic) {db : Database} {writers : List TransactionId}
    (ledger : Ledger key db writers traffic.claims) (shelved : Shelved db traffic.history)
    (same : db.rows = traffic.db.rows) :
    Traced key { traffic with db := db, writers := writers } := by
  refine ⟨ledger, shelved, fun pass => ?_, ?_⟩
  · exact (traced.abreast pass).later [] (same ▸ List.Subset.refl _) fun _ _ left => same ▸ left
  · exact traced.ordered.mono fun _ _ left => same ▸ left

/-- An act that takes an entry away, or reads them, is done by a pass that has the lock. -/
theorem offLog_of_other (traced : Traced key traffic) {pass other : ι} {act : Act}
    {stage : Stage} (moves : Stage.Move (settings pass) (traffic.place pass) act stage)
    (apart : other ≠ pass) (some_left : (traffic.place other).pending ≠ []) :
    act.OffLog := by
  obtain ⟨id, claimed⟩ := Stage.exists_claim_of_pending some_left
  have alone {id' : TransactionId} (claim : (traffic.place pass).claim = some (true, id')) :
      False :=
    apart (traced.ledger.alone claimed claim)
  rcases moves.log_cases with
    ⟨off, -⟩ | ⟨entries, rfl, -⟩ | ⟨entry, reply, id', -, claim, -⟩ |
      ⟨entry, rest, reply, -, pending, -⟩
  · exact off
  · exact .inr (.inr rfl)
  · exact (alone claim).elim
  · obtain ⟨id', claim⟩ := Stage.exists_claim_of_pending (pending ▸ List.cons_ne_nil entry rest)
    exact (alone claim).elim

/-- When a pass acts, entries stay in order. -/
theorem ordered_acts (traced : Traced key traffic) {pass : ι} {act : Act} {stage : Stage}
    (moves : Stage.Move (settings pass) (traffic.place pass) act stage) :
    Ordered traffic.db (.acts pass act :: traffic.history) := by
  by_cases applies : ∃ entry, act = .settle entry (.ok ())
  · obtain ⟨entry, rfl⟩ := applies
    have abreast := traced.abreast pass
    generalize traffic.place pass = before at moves abreast
    cases moves with
    | resolved lock applied discarded entry rest shape =>
        exact traced.ordered.apply traced.shelved abreast
  · refine traced.ordered.quiet fun other entry same => applies ⟨entry, ?_⟩
    cases same
    rfl

variable [DecidableEq ι]

/-- When a pass acts, all passes stay abreast. -/
theorem abreast_acts (traced : Traced key traffic) {pass : ι} {act : Act} {stage : Stage}
    {db : Database} (moves : Stage.Move (settings pass) (traffic.place pass) act stage)
    (succeeds : act.Succeeds traffic.db db)
    (kept : act.OffLog → db.rows.map task = traffic.db.rows.map task) (other : ι) :
    Abreast db (.acts pass act :: traffic.history) other
      (Function.update traffic.place pass stage other).pending := by
  have later (off : act.OffLog) : Abreast db (.acts pass act :: traffic.history) other
      (traffic.place other).pending := by
    have ids_eq : db.rows.map Entry.id = traffic.db.rows.map Entry.id := by
      rw [← map_fst_task, kept off, map_fst_task]
    exact (traced.abreast other).later [_] (kept off ▸ List.Subset.refl _)
      fun _ _ left => ids_eq ▸ left
  by_cases same : other = pass
  · subst same
    rw [Function.update_self]
    rcases moves.log_cases with
      ⟨off, pending | pending⟩ | ⟨entries, rfl, pending⟩ | ⟨entry, reply, id, -, -, pending⟩ |
        ⟨entry, rest, reply, rfl, before, pending⟩
    · rw [pending]
      exact later off
    · rw [pending]
      exact Abreast.nil
    · obtain ⟨answer, answered, performs⟩ := succeeds.performs traced.ledger.old
      cases answered
      obtain ⟨rfl, rfl⟩ := performs
      rw [pending]
      exact Abreast.of_read traced.shelved
    · rw [pending]
      exact Abreast.nil
    · obtain ⟨answer, -, performs⟩ := succeeds.performs traced.ledger.old
      obtain rfl := performs
      rcases pending with pending | ⟨-, pending⟩
      · rw [pending]
        exact Abreast.nil
      · rw [pending]
        exact (before ▸ traced.abreast other).rest
  · rw [Function.update_of_ne same]
    by_cases none_left : (traffic.place other).pending = []
    · rw [none_left]
      exact Abreast.nil
    · exact later (traced.offLog_of_other moves same none_left)

/-- Whatever happens keeps the invariants. -/
theorem flow (traced : Traced key traffic) (same_key : ∀ pass, (settings pass).lockId = key)
    (flow : Flow settings Stage.Move traffic traffic') :
    Traced key traffic' := by
  have ledger := traced.ledger.flow same_key flow
  cases flow with
  | ticks later =>
      exact traced.still ledger
        (traced.shelved.shrink rfl rfl later (fun _ member => .inl member) (List.Sublist.refl _))
        rfl
  | opens served =>
      obtain ⟨rfl, rfl⟩ := Database.of_openTransaction served
      refine traced.still ledger ?_ rfl
      refine traced.shelved.shrink rfl rfl (le_refl _) ?_ (List.Sublist.refl _)
      intro transaction member
      rcases List.mem_append.mp member with member | last
      · exact .inl member
      · rw [List.mem_singleton.mp last]
        exact .inr rfl
  | inserts own fresh served =>
      obtain ⟨transaction, found, rfl⟩ := Database.exists_of_insert served
      obtain ⟨open_now, rfl⟩ := Database.id_eq_of_transaction? found
      refine ⟨ledger, traced.shelved.insert open_now fresh, fun pass => ?_, ?_⟩
      · exact (traced.abreast pass).later [_] (List.Subset.refl _) fun _ _ left => left
      · refine Ordered.quiet (traced.ordered.mono fun _ _ left => left) fun _ _ same => ?_
        cases same
  | @commits id transaction db own found served =>
      obtain ⟨_, found', rfl⟩ := Database.exists_of_commit served
      obtain rfl := Option.some.inj (found.symm.trans found')
      obtain ⟨open_now, rfl⟩ := Database.id_eq_of_transaction? found
      have old : ∀ entry ∈ committed traffic.history,
          entry.id ∈ (traffic.db.rows ++ transaction.inserted).map Entry.id →
            entry.id ∈ traffic.db.rows.map Entry.id := by
        intro entry known left
        rw [List.map_append] at left
        refine (List.mem_append.mp left).resolve_right fun new => ?_
        obtain ⟨other, among, same⟩ := List.mem_map.mp new
        exact traced.shelved.open_id_apart open_now among known same
      refine ⟨ledger, traced.shelved.commit open_now, fun pass => ?_, ?_⟩
      · refine (traced.abreast pass).later [_] ?_ old
        rw [List.map_append]
        exact List.subset_append_left _ _
      · refine Ordered.quiet (traced.ordered.mono old) fun _ _ same => ?_
        cases same
  | abandons own =>
      exact traced.still ledger
        (traced.shelved.shrink rfl rfl (le_refl _)
          (fun _ member => .inl (List.mem_of_mem_filter member)) (List.Sublist.refl _))
        rfl
  | @acts pass act stage db moves succeeds =>
      have blank := traced.ledger.blank_of_release moves
      obtain ⟨clock, transactions, fewer, kept⟩ := succeeds.shrinks traced.ledger.old blank
      refine ⟨ledger, ?_, traced.abreast_acts moves succeeds kept, ?_⟩
      · exact traced.shelved.shrink rfl rfl (le_of_eq clock.symm) transactions fewer
      · refine (traced.ordered_acts moves).mono fun entry _ left => ?_
        have ids := fewer.map Prod.fst
        rw [map_fst_task, map_fst_task] at ids
        exact ids.subset left

end Traced

section Overtaken

variable {ι : Type} [DecidableEq ι] {settings : ι → Settings} {key : LockId}
variable {clock : Timestamp} {capacity : Nat}

theorem Flowing.traced {traffic : Traffic Stage ι}
    (same_key : ∀ pass, (settings pass).lockId = key)
    (flowing : Flowing settings Stage.Move .idle clock capacity traffic) :
    Traced key traffic := by
  induction flowing with
  | refl => exact Traced.initial
  | tail _ flow ih => exact ih.flow same_key flow

/--
An entry that is applied behind a greater one had been inserted, but was not committed, when
the pass that applied the greater one read the entries.
-/
theorem Flowing.open_of_overtaken {traffic : Traffic Standing ι} {pass other : ι}
    {greater entry : Entry} {later earlier : List (Deed ι)}
    (same_key : ∀ pass, (settings pass).lockId = key)
    (flowing : Flowing settings Standing.Move .idle clock capacity traffic)
    (split : traffic.history = later ++ .applies pass greater :: earlier)
    (applied : .applies other entry ∈ later) (less : rank entry < rank greater) :
    ∃ since entries past, earlier = since ++ .reads pass entries :: past ∧
      entry.id ∈ (inserted past).map Entry.id ∧ entry.id ∉ (committed past).map Entry.id := by
  obtain ⟨stages, staged, -⟩ := flowing.exists_stages
  obtain ⟨since, entries, past, parts, overtakes⟩ :=
    (staged.traced same_key).ordered later pass greater earlier split
  exact ⟨since, entries, past, parts, overtakes.overtaken other entry applied less⟩

end Overtaken

/-! ## A run in which an entry is overtaken -/

section Run

variable {ι : Type} [DecidableEq ι] {settings : ι → Settings} {clock : Timestamp}
variable {capacity : Nat} {traffic : Traffic Standing ι} {db : Database}

/-- A pass acts next. -/
theorem Flowing.act {standing : Standing}
    (flowing : Flowing settings Standing.Move .idle clock capacity traffic) (pass : ι) (act : Act)
    (moves : Standing.Move (settings pass) (traffic.place pass) act standing)
    (succeeds : act.Succeeds traffic.db db) :
    Flowing settings Standing.Move .idle clock capacity
      ⟨db, traffic.writers, Function.update traffic.place pass standing,
        .acts pass act :: traffic.history⟩ := by
  exact flowing.tail (.acts moves succeeds)

/-- A writer inserts an entry next that deletes a team. -/
theorem Flowing.insert (flowing : Flowing settings Standing.Move .idle clock capacity traffic)
    (id : TransactionId) (entryId : EntryId) (own : id ∈ traffic.writers)
    (fresh : ∀ entry ∈ inserted traffic.history, entry.id.toNat < entryId.toNat)
    (served : traffic.db.insert id
      (traffic.db.newEntry entryId .deleteTeam 1 farewell.payload) = (.ok (), db)) :
    Flowing settings Standing.Move .idle clock capacity
      ⟨db, traffic.writers, traffic.place,
        .inserts (traffic.db.newEntry entryId .deleteTeam 1 farewell.payload) ::
          traffic.history⟩ := by
  exact flowing.tail (.inserts own fresh served)

/-- A writer commits its transaction next. -/
theorem Flowing.commit (flowing : Flowing settings Standing.Move .idle clock capacity traffic)
    (id : TransactionId) (transaction : Transaction) (own : id ∈ traffic.writers)
    (found : traffic.db.transaction? id = some transaction)
    (served : traffic.db.commit id = (.ok (), db)) :
    Flowing settings Standing.Move .idle clock capacity
      ⟨db, traffic.writers.erase id, traffic.place,
        .commits transaction.inserted :: traffic.history⟩ := by
  exact flowing.tail (.commits own found served)

end Run

/-- The entry that is inserted first. -/
def early : Entry := { farewell with id := ⟨1⟩ }

/-- The entry that is committed first. -/
def late : Entry := { farewell with id := ⟨2⟩, createdAt := 1, updatedAt := 1 }

/-- A database at a time, with some entries, open transactions, and the number of the next one. -/
def stock (clock : Timestamp) (rows : List Entry) (transactions : List Transaction)
    (next : TransactionId) : Database :=
  { Database.empty clock 8 with
    rows := rows
    transactions := transactions
    nextTransaction := next }

theorem run_entries_stock (clock : Timestamp) (row : Entry) (lock : Transaction)
    (others : List Transaction) (few : others.length < 7) (next : TransactionId) :
    (stock clock [row] (lock :: others) next).run (Store.serve .entries) =
      (.ok [row], stock clock [row] (lock :: others) next) := by
  let db := stock clock [row] (lock :: others) next
  have room : ¬ 8 ≤ others.length + 1 := by omega
  have sorted : db.entries = [row] := List.mergeSort_singleton row
  have connects : db.connect = .ok () := by
    simp [db, stock, Database.connect, Database.empty, room]
  have read : db.connected .selectAll (fun db => (.ok db.entries, db)) = (.ok [row], db) := by
    simp only [Database.connected, connects, sorted]
    rfl
  show ((db.connected .selectAll fun db => (.ok db.entries, db)).1.mapError StoreError.database,
    (db.connected .selectAll fun db => (.ok db.entries, db)).2) = _
  rw [read]
  rfl

theorem apply_early : Replay.apply early = (Replay.applyEvent (.deleteTeam ⟨"1", "a"⟩)).run := by
  exact apply_farewell

theorem apply_late : Replay.apply late = (Replay.applyEvent (.deleteTeam ⟨"1", "a"⟩)).run := by
  exact apply_farewell

/-- What can come about on an empty database from two passes. -/
abbrev Arises (traffic : Traffic Standing Bool) : Prop :=
  Flowing (fun _ => .default) Standing.Move .idle 0 8 traffic

/-- A pass can apply the only entry that it can see, and another pass has not begun. -/
theorem exists_applied_late :
    ∃ (place : Bool → Standing) (later : List (Deed Bool)),
      Arises ⟨stock 1 [] [⟨0, [early], []⟩] 3, [0], place, later ++ .applies false late ::
        [.acts false (.consult (.deleteTag "a" "a") (.ok ())), .acts false (.hand late),
          .reads false [late], .acts false (.store (.tryLock 1000) (.ok ⟨true, 2⟩)),
          .acts false .start, .commits [late], .inserts late, .inserts early]⟩ ∧
      place true = .idle := by
  have started : Arises ⟨stock 0 [] [] 0, [], fun _ => .idle, []⟩ := Relation.ReflTransGen.refl
  -- One writer inserts an entry, and another one inserts a later entry and commits it.
  have opened : Arises ⟨stock 0 [] [⟨0, [], []⟩] 1, [0], fun _ => .idle, []⟩ :=
    started.tail (.opens rfl)
  have inserted : Arises
      ⟨stock 0 [] [⟨0, [early], []⟩] 1, [0], fun _ => .idle, [.inserts early]⟩ :=
    opened.insert 0 ⟨1⟩ (by decide) (by decide) rfl
  have ticked : Arises
      ⟨stock 1 [] [⟨0, [early], []⟩] 1, [0], fun _ => .idle, [.inserts early]⟩ :=
    inserted.tail (.ticks (by decide))
  have opened : Arises
      ⟨stock 1 [] [⟨0, [early], []⟩, ⟨1, [], []⟩] 2, [1, 0], fun _ => .idle,
        [.inserts early]⟩ :=
    ticked.tail (.opens rfl)
  have inserted : Arises
      ⟨stock 1 [] [⟨0, [early], []⟩, ⟨1, [late], []⟩] 2, [1, 0], fun _ => .idle,
        [.inserts late, .inserts early]⟩ :=
    opened.insert 1 ⟨2⟩ (by decide) (by decide) rfl
  have committed : Arises
      ⟨stock 1 [late] [⟨0, [early], []⟩] 2, [0], fun _ => .idle,
        [.commits [late], .inserts late, .inserts early]⟩ :=
    inserted.commit 1 ⟨1, [late], []⟩ (by decide) rfl rfl
  -- A pass sees only the entry that is committed.
  have begun := committed.act false .start .start rfl
  have locked : Arises ⟨stock 1 [late] [⟨0, [early], []⟩, ⟨2, [], [1000]⟩] 3, [0], _, _⟩ :=
    begun.act false (.store (.tryLock 1000) (.ok ⟨true, 2⟩)) (.store rfl _) ⟨_, rfl, rfl⟩
  have read := locked.act false (.store .entries (.ok [late])) (.store rfl _)
    ⟨_, rfl, run_entries_stock 1 late _ _ (by decide) _⟩
  have handed := read.act false (.hand late) (.hand rfl) rfl
  have consulted := handed.act false (.consult (.deleteTag "a" "a") (.ok ()))
    (.consult (by rw [apply_late]; rfl) _) ⟨⟨_, rfl⟩, rfl⟩
  have settled := consulted.act false (.settle late (.ok ())) (.settle rfl) rfl
  have removed : Arises ⟨stock 1 [] [⟨0, [early], []⟩, ⟨2, [], [1000]⟩] 3, [0], _, _⟩ :=
    settled.act false (.store (.remove late.id) (.ok ())) (.store rfl _) ⟨_, rfl, rfl⟩
  have released : Arises ⟨stock 1 [] [⟨0, [early], []⟩] 3, [0], _, _⟩ :=
    removed.act false (.store (.release (some ⟨true, 2⟩)) (.ok ())) (.store rfl _) ⟨_, rfl, rfl⟩
  exact ⟨_, [.acts false (.store (.release (some ⟨true, 2⟩)) (.ok ())),
    .acts false (.store (.remove late.id) (.ok ()))], released, rfl⟩

/-- The other pass applies the other entry once that is committed. -/
theorem exists_overtaken :
    ∃ (traffic : Traffic Standing Bool) (later earlier : List (Deed Bool)), Arises traffic ∧
      traffic.history = later ++ .applies false late :: earlier ∧
      .applies true early ∈ later ∧
      ∀ before again, Deed.applies before again ∉ earlier := by
  obtain ⟨place, later, applied, idle⟩ := exists_applied_late
  have committed : Arises ⟨stock 1 [early] [] 3, [], place, _⟩ :=
    applied.commit 0 ⟨0, [early], []⟩ (List.mem_singleton_self 0) rfl rfl
  have starts : Standing.Move .default (place true) .start
      (.running (runPass Replay.count .default)) := by
    rw [idle]
    exact .start
  have begun := committed.act true .start starts rfl
  have locked : Arises ⟨stock 1 [early] [⟨3, [], [1000]⟩] 4, [], _, _⟩ :=
    begun.act true (.store (.tryLock 1000) (.ok ⟨true, 3⟩)) (.store rfl _) ⟨_, rfl, rfl⟩
  have read := locked.act true (.store .entries (.ok [early])) (.store rfl _)
    ⟨_, rfl, run_entries_stock 1 early _ _ (by decide) _⟩
  have handed := read.act true (.hand early) (.hand rfl) rfl
  have consulted := handed.act true (.consult (.deleteTag "a" "a") (.ok ()))
    (.consult (by rw [apply_early]; rfl) _) ⟨⟨_, rfl⟩, rfl⟩
  have settled := consulted.act true (.settle early (.ok ())) (.settle rfl) rfl
  refine ⟨_, .applies true early :: .acts true (.consult (.deleteTag "a" "a") (.ok ())) ::
    .acts true (.hand early) :: .reads true [early] ::
    .acts true (.store (.tryLock 1000) (.ok ⟨true, 3⟩)) :: .acts true .start ::
    .commits [early] :: later, _, settled, rfl, List.mem_cons_self, fun before again => ?_⟩
  simp [Deed.applies, Deed.reads]

/-- Entries are not always applied in their order. -/
theorem not_inOrder :
    ¬ ∀ traffic : Traffic Standing Bool,
      Flowing (fun _ => .default) Standing.Move .idle 0 8 traffic → InOrder traffic.history := by
  intro in_order
  obtain ⟨traffic, later, earlier, arises, split, applied, first⟩ := exists_overtaken
  refine in_order traffic arises later false late earlier split true early applied ?_ (by decide)
  exact fun before again member => absurd member (first before again)

/-- The entry that was overtaken had been in an open transaction. -/
theorem open_of_overtaken_early :
    ∃ (traffic : Traffic Standing Bool) (later earlier : List (Deed Bool)), Arises traffic ∧
      traffic.history = later ++ .applies false late :: earlier ∧
      .applies true early ∈ later ∧ rank early < rank late ∧
      ∃ since entries past, earlier = since ++ .reads false entries :: past ∧
        early.id ∈ (inserted past).map Entry.id ∧ early.id ∉ (committed past).map Entry.id := by
  obtain ⟨traffic, later, earlier, arises, split, applied, -⟩ := exists_overtaken
  have less : rank early < rank late := by decide
  exact ⟨traffic, later, earlier, arises, split, applied, less,
    Flowing.open_of_overtaken (fun _ => rfl) arises split applied less⟩

end Dispatch
end OutboxRelay
