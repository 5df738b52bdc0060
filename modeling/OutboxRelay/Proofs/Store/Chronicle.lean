import OutboxRelay.Proofs.Store.Steady
import Mathlib.Data.List.Sort

/-!
# The chronicle of a store

What a store does can be told without a database.  A chronicle is a list of entries in the order
of their making, and beside it what each open transaction has written so far.

**Input.**  A row of operations, each at a moment: clocks may stand still or go back from one
to the next, and the identifiers that are drawn are new.

**Method.**  The rows of a database are kept in no order, and each statement spells the order
out for itself.  As identifiers are distinct, rows that are sorted are sorted in one way only.

**Results.**
* `entries_eq`: a sorted permutation of the rows is what is read of them.
* `entries_append`, `deleteAll_oldest`, `stats_eq`: what statements do to the list that is read.
* `Orderly.chronicled`: a store answers any row of operations as its chronicle does.
-/

namespace OutboxRelay
namespace Store

open Outbox (markFailed without)

/-! ## Operations -/

/-- What the clock shows when something is asked, and the identifiers to be drawn then. -/
structure Moment where
  clock : Timestamp
  ids : Uuid.Source
  deriving DecidableEq, Repr

namespace Moment

/-- The identifier that is drawn at a moment. -/
def id (moment : Moment) : EntryId :=
  moment.ids.fresh.1

/-- An entry that is made at a moment. -/
def entry (moment : Moment) (action : Action) (version : Int) (payload : Bytes) : Entry where
  id := moment.id
  action := action.tag
  version := version
  payload := payload
  attempts := 0
  createdAt := moment.clock
  updatedAt := moment.clock

end Moment

/-- What a store is asked by writers, dispatchers and onlookers. -/
inductive Operation
  | publish (action : Action) (version : Int) (payload : Bytes)
  /-- Open a transaction for entries that are committed together. -/
  | begin
  | append (transaction : TransactionId) (action : Action) (version : Int) (payload : Bytes)
  | commit (transaction : TransactionId)
  | abandon (transaction : TransactionId)
  | entries
  | recordFailure (id : EntryId)
  | remove (id : EntryId)
  | removeOldest (count : Int)
  | stats

namespace Operation

/-- What an operation answers when it succeeds. -/
def Answer : Operation → Type
  | publish .. => EntryId
  | begin => TransactionId
  | append .. => EntryId
  | commit _ => Unit
  | abandon _ => Unit
  | entries => List Entry
  | recordFailure _ => Unit
  | remove _ => Unit
  | removeOldest _ => Nat
  | stats => Outbox.Stats

/-- The statements that serve an operation. -/
def program : (operation : Operation) → OnDatabase (Except StoreError operation.Answer)
  | publish action version payload => serveIntake (.publish action version payload)
  | begin => stored (ExceptT.mk (ask .openTransaction))
  | append transaction action version payload =>
      stored (Store.append transaction action version payload)
  | commit transaction => stored (ExceptT.mk (ask (.commit transaction)))
  | abandon transaction => do
      ask (.abandon transaction)
      return .ok ()
  | entries => serve .entries
  | recordFailure id => serve (.recordFailure id)
  | remove id => serve (.remove id)
  | removeOldest count => serve (.removeOldest count)
  | stats => serveIntake .stats

end Operation

/-- An operation, and what was answered. -/
abbrev Told := Σ operation : Operation, Except StoreError operation.Answer

/-- All that is answered to a row of operations, and what they leave behind. -/
def answers {σ : Type}
    (serve : σ → Moment → (operation : Operation) → Except StoreError operation.Answer × σ) :
    σ → List (Moment × Operation) → List Told × σ
  | s, [] => ([], s)
  | s, (moment, operation) :: rest =>
      let (reply, s) := serve s moment operation
      let (told, last) := answers serve s rest
      (⟨operation, reply⟩ :: told, last)

/-! ## Chronicles -/

/-- What an open transaction has written. -/
structure Draft where
  transaction : TransactionId
  entries : List Entry
  deriving DecidableEq, Repr

/-- The entries in the order of their making, and what is still to be committed. -/
structure Chronicle where
  entries : List Entry
  drafts : List Draft
  /-- The number of the next transaction. -/
  next : TransactionId
  deriving DecidableEq, Repr

/-- The entries with one more of them, at its place. -/
def shelve (entries : List Entry) (entry : Entry) : List Entry :=
  entries.orderedInsert (fun a b => comesBefore a b = true) entry

namespace Chronicle

/-- What a transaction has written. -/
def draftOf (c : Chronicle) (transaction : TransactionId) : List Entry :=
  (c.drafts.filter fun draft => draft.transaction = transaction).flatMap Draft.entries

/-- Writes an entry for a transaction. -/
def write (c : Chronicle) (transaction : TransactionId) (entry : Entry) : Chronicle :=
  { c with
    drafts := c.drafts.map fun draft =>
      if draft.transaction = transaction then { draft with entries := draft.entries ++ [entry] }
      else draft }

/-- Forgets a transaction. -/
def close (c : Chronicle) (transaction : TransactionId) : Chronicle :=
  { c with drafts := c.drafts.filter fun draft => draft.transaction ≠ transaction }

/-- Carries an operation out. -/
def serve (c : Chronicle) (moment : Moment) :
    (operation : Operation) → Except StoreError operation.Answer × Chronicle
  | .publish action version payload =>
      (.ok moment.id, { c with
        entries := shelve c.entries (moment.entry action version payload)
        next := c.next + 1 })
  | .begin =>
      (.ok c.next, { c with
        drafts := c.drafts ++ [⟨c.next, []⟩]
        next := c.next + 1 })
  | .append transaction action version payload =>
      (.ok moment.id, c.write transaction (moment.entry action version payload))
  | .commit transaction =>
      (.ok (), { c.close transaction with
        entries := (c.draftOf transaction).foldl shelve c.entries })
  | .abandon transaction => (.ok (), c.close transaction)
  | .entries => (.ok c.entries, c)
  | .recordFailure id =>
      (.ok (), { c with entries := markFailed moment.clock id c.entries })
  | .remove id => (.ok (), { c with entries := without id c.entries })
  | .removeOldest count =>
      if count < 0 then
        (.error (negativeCount count), c)
      else
        let removed : Nat := min count.toNat c.entries.length
        (.ok removed, { c with entries := c.entries.drop count.toNat })
  | .stats =>
      (.ok {
        pending := c.entries.length
        oldest := c.entries.head?.map Entry.createdAt
        highestAttempts := (c.entries.map Entry.attempts).max? }, c)

/-- The identifiers of all entries, committed or still to be committed. -/
def ids (c : Chronicle) : List EntryId :=
  (c.entries ++ c.drafts.flatMap Draft.entries).map Entry.id

/-- Whether a transaction is open. -/
def IsOpen (c : Chronicle) (transaction : TransactionId) : Prop :=
  ∃ draft ∈ c.drafts, draft.transaction = transaction

/--
Whether an operation meets no fault on a database that lets so many connections be open: it
gets the connection that it needs, a new identifier, an open transaction, and a counter of
attempts that can go on.
-/
def Admits (c : Chronicle) (capacity : Nat) (moment : Moment) : Operation → Prop
  | .publish .. => c.drafts.length < capacity ∧ moment.id ∉ c.ids
  | .append transaction .. => c.IsOpen transaction ∧ moment.id ∉ c.ids
  | .commit transaction => c.IsOpen transaction
  | .abandon transaction => c.IsOpen transaction
  | .recordFailure id => c.drafts.length < capacity ∧ Database.Countable id c.entries
  | .begin | .entries | .remove _ | .removeOldest _ | .stats => c.drafts.length < capacity

instance (c : Chronicle) (transaction : TransactionId) : Decidable (c.IsOpen transaction) :=
  inferInstanceAs (Decidable (∃ draft ∈ c.drafts, draft.transaction = transaction))

instance (c : Chronicle) (capacity : Nat) (moment : Moment) :
    (operation : Operation) → Decidable (c.Admits capacity moment operation)
  | .publish .. => inferInstanceAs (Decidable (c.drafts.length < capacity ∧ moment.id ∉ c.ids))
  | .append number .. => inferInstanceAs (Decidable (c.IsOpen number ∧ moment.id ∉ c.ids))
  | .commit number | .abandon number => inferInstanceAs (Decidable (c.IsOpen number))
  | .recordFailure id => inferInstanceAs (Decidable
      (c.drafts.length < capacity ∧ ∀ entry ∈ c.entries, entry.id = id →
        entry.attempts < attemptsMax))
  | .begin | .entries | .remove _ | .removeOldest _ | .stats =>
      inferInstanceAs (Decidable (c.drafts.length < capacity))

/-- Whether no operation of a row meets a fault. -/
def AdmitsAll (c : Chronicle) (capacity : Nat) : List (Moment × Operation) → Prop
  | [] => True
  | (moment, operation) :: rest =>
      c.Admits capacity moment operation ∧
        (c.serve moment operation).2.AdmitsAll capacity rest

instance instDecidableAdmitsAll (capacity : Nat) :
    (asked : List (Moment × Operation)) → (c : Chronicle) → Decidable (c.AdmitsAll capacity asked)
  | [], _ => inferInstanceAs (Decidable True)
  | (moment, operation) :: rest, c =>
      have := instDecidableAdmitsAll capacity rest (c.serve moment operation).2
      inferInstanceAs (Decidable (c.Admits capacity moment operation ∧
        (c.serve moment operation).2.AdmitsAll capacity rest))

end Chronicle

namespace Database

/-- The chronicle of a database. -/
def chronicle (db : Database) : Chronicle where
  entries := db.entries
  drafts := db.transactions.map fun transaction => ⟨transaction.id, transaction.inserted⟩
  next := db.nextTransaction

/-- A database at a moment. -/
def atMoment (db : Database) (moment : Moment) : Database :=
  { db with clock := moment.clock, ids := moment.ids }

/-- Carries an operation out at a moment. -/
def perform (db : Database) (moment : Moment) (operation : Operation) :
    Except StoreError operation.Answer × Database :=
  (db.atMoment moment).run operation.program

/-! ## Rows in order -/

section Order

variable {db : Database} {rows : List Entry}

theorem eq_of_rank_eq (distinct : (rows.map Entry.id).Nodup) {a b : Entry} (a_in : a ∈ rows)
    (b_in : b ∈ rows) (same : rank a = rank b) : a = b := by
  have number_eq : a.id.toNat = b.id.toNat := by
    simp only [rank, toLex_inj, Prod.mk.injEq] at same
    exact same.2
  have id_eq : a.id = b.id := by
    cases ha : a.id
    cases hb : b.id
    simp only [ha, hb, Uuid.toNat] at number_eq
    rw [BitVec.eq_of_toNat_eq number_eq]
  exact List.inj_on_of_nodup_map distinct a_in b_in id_eq

theorem perm_entries (db : Database) : db.entries.Perm db.rows :=
  List.mergeSort_perm db.rows comesBefore

/-- A sorted permutation of the rows is what is read of them. -/
theorem entries_eq (distinct : (db.rows.map Entry.id).Nodup) (perm : rows.Perm db.rows)
    (sorted : rows.Pairwise fun earlier later => rank earlier ≤ rank later) :
    db.entries = rows := by
  have all : db.entries.Perm rows := db.perm_entries.trans perm.symm
  refine all.eq_of_pairwise (fun a b a_in b_in first second => ?_) db.entries_sorted sorted
  exact eq_of_rank_eq distinct (mem_entries.mp a_in) (perm.mem_iff.mp b_in)
    (le_antisymm first second)

/-- Distinct rows are read strictly in their order. -/
theorem entries_strict (distinct : (db.rows.map Entry.id).Nodup) :
    db.entries.Pairwise fun earlier later => rank earlier < rank later := by
  have apart : db.entries.Pairwise fun a b => a.id ≠ b.id :=
    List.pairwise_map.mp ((db.perm_entries.map Entry.id).nodup_iff.mpr distinct)
  refine List.Pairwise.imp_of_mem (fun a_in b_in both => ?_) (db.entries_sorted.and apart)
  refine lt_of_le_of_ne both.1 fun same => both.2 ?_
  rw [eq_of_rank_eq distinct (mem_entries.mp a_in) (mem_entries.mp b_in) same]

theorem perm_shelve (entries : List Entry) (entry : Entry) :
    (shelve entries entry).Perm (entry :: entries) :=
  List.perm_orderedInsert _ entry entries

theorem sorted_shelve {entries : List Entry} (entry : Entry)
    (sorted : entries.Pairwise fun earlier later => rank earlier ≤ rank later) :
    (shelve entries entry).Pairwise fun earlier later => rank earlier ≤ rank later := by
  simp only [← comesBefore_iff] at sorted ⊢
  have : Std.Total fun a b : Entry => comesBefore a b = true :=
    ⟨fun a b => by simpa only [comesBefore_iff] using le_total (rank a) (rank b)⟩
  have : IsTrans Entry fun a b => comesBefore a b = true :=
    ⟨fun a b c => by simpa only [comesBefore_iff] using le_trans⟩
  exact sorted.orderedInsert entry entries

/-- Entries that are put where they belong, one after the other, are in order. -/
theorem shelve_all (more : List Entry) {entries : List Entry}
    (sorted : entries.Pairwise fun earlier later => rank earlier ≤ rank later) :
    (more.foldl shelve entries).Perm (entries ++ more) ∧
      (more.foldl shelve entries).Pairwise fun earlier later => rank earlier ≤ rank later := by
  induction more generalizing entries with
  | nil => exact ⟨by simp, sorted⟩
  | cons entry more ih =>
      obtain ⟨perm, in_order⟩ := ih (sorted_shelve entry sorted)
      refine ⟨perm.trans ?_, in_order⟩
      exact ((perm_shelve entries entry).append_right more).trans List.perm_middle.symm

/-- Rows that are added are read at their places. -/
theorem entries_append {more : List Entry} (distinct : ((db.rows ++ more).map Entry.id).Nodup) :
    entries { db with rows := db.rows ++ more } = more.foldl shelve db.entries := by
  obtain ⟨perm, sorted⟩ := shelve_all more db.entries_sorted
  exact entries_eq distinct (perm.trans (db.perm_entries.append_right more)) sorted

theorem rank_markFailed (now : Timestamp) (id : EntryId) {entries : List Entry}
    (sorted : entries.Pairwise fun earlier later => rank earlier ≤ rank later) :
    (markFailed now id entries).Pairwise fun earlier later => rank earlier ≤ rank later := by
  have ranks : (entries.map rank).Pairwise (· ≤ ·) := List.pairwise_map.mpr sorted
  rw [← Outbox.map_markFailed (fun _ _ _ => rfl) now id entries] at ranks
  exact List.pairwise_map.mp ranks

/-- An attempt that is counted moves no entry. -/
theorem entries_markFailed (distinct : (db.rows.map Entry.id).Nodup) (now : Timestamp)
    (id : EntryId) :
    entries { db with rows := markFailed now id db.rows } = markFailed now id db.entries := by
  have same : (markFailed now id db.rows).map Entry.id = db.rows.map Entry.id :=
    Outbox.map_markFailed (fun _ _ _ => rfl) now id db.rows
  refine entries_eq (same ▸ distinct) (db.perm_entries.map _) ?_
  exact rank_markFailed now id db.entries_sorted

/-- Rows that are kept are read in their order. -/
theorem entries_filter (distinct : (db.rows.map Entry.id).Nodup) (keep : Entry → Bool) :
    entries { db with rows := db.rows.filter keep } = db.entries.filter keep := by
  refine entries_eq (distinct.sublist (List.filter_sublist.map Entry.id))
    (db.perm_entries.filter keep) ?_
  exact db.entries_sorted.sublist List.filter_sublist

/-- The identifiers of the first entries tell these from the others. -/
theorem filter_oldest {entries : List Entry} (distinct : (entries.map Entry.id).Nodup) (n : Nat) :
    let oldest := (entries.take n).map Entry.id
    (entries.filter fun entry => oldest.contains entry.id) = entries.take n ∧
      (entries.filter fun entry => !oldest.contains entry.id) = entries.drop n := by
  intro oldest
  have parts : entries = entries.take n ++ entries.drop n := (List.take_append_drop n entries).symm
  have first : ∀ entry ∈ entries.take n, oldest.contains entry.id = true :=
    fun entry among => List.contains_iff_mem.mpr (List.mem_map_of_mem among)
  have others : ∀ entry ∈ entries.drop n, oldest.contains entry.id = false := by
    rw [parts, List.map_append, List.nodup_append] at distinct
    intro entry among
    rw [Bool.eq_false_iff, Ne, List.contains_iff_mem]
    exact fun within => distinct.2.2 _ within _ (List.mem_map_of_mem among) rfl
  constructor
  · conv_lhs => rw [parts]
    rw [List.filter_append, List.filter_eq_self.mpr first, List.filter_eq_nil_iff.mpr,
      List.append_nil]
    exact fun entry among => Bool.eq_false_iff.mp (others entry among)
  · conv_lhs => rw [parts]
    rw [List.filter_append, List.filter_eq_nil_iff.mpr, List.filter_eq_self.mpr, List.nil_append]
    · exact fun entry among => congrArg (!·) (others entry among)
    · exact fun entry among => by rw [first entry among]; exact Bool.false_ne_true

/-- The oldest entries are deleted, as many as there are, and no others. -/
theorem deleteAll_oldest (distinct : (db.rows.map Entry.id).Nodup) (n : Nat) :
    let oldest := (db.entries.take n).map Entry.id
    (db.deleteAll oldest).1 = min n db.entries.length ∧
      (db.deleteAll oldest).2.entries = db.entries.drop n := by
  intro oldest
  obtain ⟨gone, kept⟩ := filter_oldest ((db.perm_entries.map Entry.id).nodup_iff.mpr distinct) n
  rw [deleteAll_eq, entries_filter distinct]
  refine ⟨?_, kept⟩
  rw [(db.perm_entries.symm.filter _).length_eq, gone, List.length_take]

theorem length_entries (db : Database) : db.entries.length = db.rows.length :=
  db.perm_entries.length_eq

/-- The time of the oldest entry is that of the first one that is read. -/
theorem oldest_eq (db : Database) :
    (db.rows.map Entry.createdAt).min? = db.entries.head?.map Entry.createdAt := by
  have perm := db.perm_entries.map Entry.createdAt
  have sorted := db.entries_sorted
  cases read : db.entries with
  | nil =>
      rw [read] at perm
      simp [List.nil_perm.mp perm]
  | cons first rest =>
      rw [read] at perm sorted
      refine List.min?_eq_some_iff.mpr
        ⟨perm.mem_iff.mp (List.mem_cons_self ..), fun time among => ?_⟩
      obtain ⟨entry, within, rfl⟩ := List.mem_map.mp (perm.mem_iff.mpr among)
      rcases List.mem_cons.mp within with rfl | within
      · exact le_refl _
      · rcases Prod.Lex.le_iff.mp (List.rel_of_pairwise_cons sorted within) with earlier | same
        · exact le_of_lt earlier
        · exact le_of_eq same.1

theorem highest_eq (db : Database) :
    (db.rows.map Entry.attempts).max? = (db.entries.map Entry.attempts).max? := by
  have perm := db.perm_entries.map Entry.attempts
  refine Option.ext fun most => ?_
  simp only [List.max?_eq_some_iff, perm.mem_iff]

/-- The aggregates of the rows are told by the list that is read of them. -/
theorem stats_eq (db : Database) :
    db.stats = {
      pending := db.entries.length
      oldest := db.entries.head?.map Entry.createdAt
      highestAttempts := (db.entries.map Entry.attempts).max? } := by
  simp only [stats, length_entries, oldest_eq, highest_eq]

end Order

/-! ## Drafts -/

section Drafts

variable {db : Database} {number : TransactionId} {transaction : Transaction}

theorem perm_ids (db : Database) : db.chronicle.ids.Perm (db.known.map Entry.id) := by
  refine List.Perm.map Entry.id (List.Perm.append db.perm_entries ?_)
  simp only [chronicle, List.flatMap_map]
  exact List.Perm.refl _

theorem exists_of_isOpen (h : db.chronicle.IsOpen number) :
    ∃ transaction, db.transaction? number = some transaction := by
  obtain ⟨draft, among, same⟩ := h
  obtain ⟨transaction, within, rfl⟩ := List.mem_map.mp among
  exact Option.isSome_iff_exists.mp
    (List.find?_isSome.mpr ⟨transaction, within, by simpa using same⟩)

theorem chronicle_opened (db : Database) :
    (db.opened []).chronicle = { db.chronicle with
      drafts := db.chronicle.drafts ++ [⟨db.nextTransaction, []⟩]
      next := db.nextTransaction + 1 } := by
  simp only [chronicle, opened, entries, List.map_append, List.map_cons, List.map_nil]

theorem known_opened (db : Database) : (db.opened []).known = db.known := by
  simp [known, opened]

theorem chronicle_write (apart : db.Apart) (found : db.transaction? number = some transaction)
    (entry : Entry) :
    (db.setTransaction { transaction with
      inserted := transaction.inserted ++ [entry] }).chronicle =
        db.chronicle.write number entry := by
  obtain ⟨among, rfl⟩ := id_eq_of_transaction? found
  simp only [chronicle, Chronicle.write, setTransaction, List.map_map]
  congr 1
  refine List.map_congr_left fun other other_among => ?_
  by_cases same : other.id = transaction.id
  · obtain rfl := apart.eq_of_id among other_among same
    simp
  · simp [same]

theorem chronicle_close (db : Database) (number : TransactionId) :
    (db.dropTransaction number).chronicle = db.chronicle.close number := by
  simp [chronicle, Chronicle.close, dropTransaction, entries, List.filter_map, Function.comp_def]

variable {before behind : List Transaction}

theorem draftOf_eq (split : db.Split transaction before behind) :
    db.chronicle.draftOf transaction.id = transaction.inserted := by
  have none (others : List Transaction) (inside : ∀ other ∈ others, other ∈ before ++ behind) :
      (others.filter fun other => other.id = transaction.id) = [] :=
    List.filter_eq_nil_iff.mpr fun other among => by
      simpa using split.others other (inside other among)
  simp only [chronicle, Chronicle.draftOf, List.filter_map, Function.comp_def, split.eq,
    List.filter_append]
  rw [none before fun other => List.mem_append_left _, List.filter_cons_of_pos (by simp),
    none behind fun other => List.mem_append_right _]
  simp

/-- A transaction that writes an entry makes it known. -/
theorem perm_known_write (split : db.Split transaction before behind) (entry : Entry) :
    (db.setTransaction { transaction with
      inserted := transaction.inserted ++ [entry] }).known.Perm (entry :: db.known) := by
  rw [split.setTransaction_eq (by rfl)]
  refine List.perm_iff_count.mpr fun other => ?_
  simp only [known, split.eq, List.flatMap_append, List.flatMap_cons, List.count_append,
    List.count_cons, List.count_nil]
  omega

/-- A transaction that ends leaves its entries or takes them away. -/
theorem perm_known_close (split : db.Split transaction before behind) :
    ((db.dropTransaction transaction.id).known ++ transaction.inserted).Perm db.known := by
  rw [split.dropTransaction_eq]
  refine List.perm_iff_count.mpr fun other => ?_
  simp only [known, split.eq, List.flatMap_append, List.flatMap_cons, List.count_append]
  omega

end Drafts

/-! ## Carrying operations out -/

/-- A database without faults, whose transactions and entries can be told apart. -/
structure Orderly (db : Database) : Prop where
  works : db.Works
  numbered : db.Numbered
  apart : db.Apart
  distinct : (db.known.map Entry.id).Nodup

namespace Orderly

variable {db db' : Database} {moment : Moment} {operation : Operation}

theorem rows_distinct (orderly : db.Orderly) : (db.rows.map Entry.id).Nodup :=
  orderly.distinct.sublist ((List.sublist_append_left ..).map Entry.id)

theorem atMoment (orderly : db.Orderly) (moment : Moment) : (db.atMoment moment).Orderly :=
  ⟨orderly.works.of_surroundings rfl, orderly.numbered, orderly.apart, orderly.distinct⟩

theorem run (orderly : db.Orderly) {α : Type} (program : OnDatabase α)
    (distinct : ((db.run program).2.known.map Entry.id).Nodup) : (db.run program).2.Orderly :=
  ⟨orderly.works.of_surroundings (surroundings_run db program), orderly.numbered.run program,
    orderly.apart.run orderly.numbered program, distinct⟩

end Orderly

/-- A database answers an operation as its chronicle does, and is in order behind it. -/
structure Mirrors (db : Database) (moment : Moment) (operation : Operation) : Prop where
  serve_eq : db.chronicle.serve moment operation =
    ((db.perform moment operation).1, (db.perform moment operation).2.chronicle)
  orderly : (db.perform moment operation).2.Orderly

section Operations

variable {db db' : Database} {moment : Moment} {number : TransactionId}
variable {action : Action} {version : Int} {payload : Bytes}

theorem Orderly.mirrors (orderly : db.Orderly) {operation : Operation}
    {reply : Except StoreError operation.Answer}
    (ran : (db.atMoment moment).run operation.program = (reply, db'))
    (distinct : (db'.known.map Entry.id).Nodup)
    (served : db.chronicle.serve moment operation = (reply, db'.chronicle)) :
    db.Mirrors moment operation := by
  have ordered := (orderly.atMoment moment).run operation.program
  rw [ran] at ordered
  constructor
  · rw [perform, ran]
    exact served
  · rw [perform, ran]
    exact ordered distinct

theorem Orderly.mirrors_publish (orderly : db.Orderly) (room : db.HasRoom)
    (fresh : moment.id ∉ db.chronicle.ids) :
    db.Mirrors moment (.publish action version payload) := by
  have ready := orderly.atMoment moment
  let entry := moment.entry action version payload
  have ran := run_publish action version payload ready.works room ready.numbered
  have grown : (entry :: db.known).map Entry.id |>.Nodup :=
    List.nodup_cons.mpr ⟨fun known => fresh (db.perm_ids.mem_iff.mpr known), orderly.distinct⟩
  have distinct : ((db.rows ++ [entry] ++ db.transactions.flatMap Transaction.inserted).map
      Entry.id).Nodup := by
    refine (List.Perm.map Entry.id ?_).nodup_iff.mpr grown
    rw [List.append_assoc]
    exact List.perm_middle
  refine orderly.mirrors ran distinct ?_
  have placed := entries_append (distinct.sublist ((List.sublist_append_left ..).map Entry.id))
  simp only [Chronicle.serve]
  exact congrArg (fun entries => (_, Chronicle.mk entries _ _)) placed.symm

theorem Orderly.mirrors_begin (orderly : db.Orderly) (room : db.HasRoom) :
    db.Mirrors moment .begin := by
  have ready := orderly.atMoment moment
  refine orderly.mirrors (run_begin ready.works room) ?_ ?_
  · rw [known_opened]
    exact orderly.distinct
  · exact congrArg (Prod.mk _) (db.chronicle_opened).symm

theorem Orderly.mirrors_append (orderly : db.Orderly) (is_open : db.chronicle.IsOpen number)
    (fresh : moment.id ∉ db.chronicle.ids) :
    db.Mirrors moment (.append number action version payload) := by
  have ready := orderly.atMoment moment
  let entry := moment.entry action version payload
  obtain ⟨transaction, found⟩ := exists_of_isOpen is_open
  obtain ⟨rfl, before, behind, split⟩ := exists_split orderly.apart found
  have ran := run_stored (run_append action version payload ready.works found)
  refine orderly.mirrors ran ?_ ?_
  · refine ((perm_known_write split entry).map Entry.id).nodup_iff.mpr ?_
    exact List.nodup_cons.mpr ⟨fun known => fresh (db.perm_ids.mem_iff.mpr known), orderly.distinct⟩
  · exact congrArg (Prod.mk _) (chronicle_write orderly.apart found entry).symm

theorem Orderly.mirrors_commit (orderly : db.Orderly) (is_open : db.chronicle.IsOpen number) :
    db.Mirrors moment (.commit number) := by
  have ready := orderly.atMoment moment
  obtain ⟨transaction, found⟩ := exists_of_isOpen is_open
  obtain ⟨rfl, before, behind, split⟩ := exists_split orderly.apart found
  have distinct : (({ db.dropTransaction transaction.id with
      rows := db.rows ++ transaction.inserted } : Database).known.map Entry.id).Nodup := by
    have moved := (perm_known_close split).map Entry.id
    refine (List.Perm.trans ?_ moved).nodup_iff.mpr orderly.distinct
    simp only [known, List.append_assoc]
    exact ((List.perm_append_comm).append_left _).map Entry.id
  refine orderly.mirrors (run_commit ready.works found) distinct ?_
  have placed := entries_append (distinct.sublist ((List.sublist_append_left ..).map Entry.id))
  simp only [Chronicle.serve, draftOf_eq split, ← chronicle_close]
  exact congrArg (fun entries => (_, Chronicle.mk entries _ _)) placed.symm

theorem Orderly.mirrors_abandon (orderly : db.Orderly) (is_open : db.chronicle.IsOpen number) :
    db.Mirrors moment (.abandon number) := by
  have ready := orderly.atMoment moment
  have ran : (db.atMoment moment).run (Operation.abandon number).program =
    (.ok (), (db.atMoment moment).dropTransaction number) := rfl
  obtain ⟨transaction, found⟩ := exists_of_isOpen is_open
  obtain ⟨rfl, before, behind, split⟩ := exists_split orderly.apart found
  refine orderly.mirrors ran ?_ (congrArg (Prod.mk _) (db.chronicle_close transaction.id).symm)
  have all := ((perm_known_close split).map Entry.id).nodup_iff.mpr orderly.distinct
  exact all.sublist ((List.sublist_append_left ..).map Entry.id)

theorem Orderly.mirrors_entries (orderly : db.Orderly) (room : db.HasRoom) :
    db.Mirrors moment .entries :=
  orderly.mirrors (run_entries (orderly.atMoment moment).works room) orderly.distinct rfl

theorem Orderly.mirrors_recordFailure (orderly : db.Orderly) (room : db.HasRoom) {id : EntryId}
    (countable : Countable id db.entries) : db.Mirrors moment (.recordFailure id) := by
  have ready := orderly.atMoment moment
  have rows_countable : Countable id db.rows :=
    fun entry among => countable entry (mem_entries.mpr among)
  refine orderly.mirrors (run_recordFailure ready.works room rows_countable) ?_ ?_
  · have same : (markFailed moment.clock id db.rows).map Entry.id = db.rows.map Entry.id :=
      Outbox.map_markFailed (fun _ _ _ => rfl) moment.clock id db.rows
    have distinct := orderly.distinct
    rw [known, List.map_append] at distinct ⊢
    exact same ▸ distinct
  · have counted := entries_markFailed orderly.rows_distinct moment.clock id
    exact congrArg (fun entries => (_, Chronicle.mk entries _ _)) counted.symm

theorem Orderly.mirrors_remove (orderly : db.Orderly) (room : db.HasRoom) (id : EntryId) :
    db.Mirrors moment (.remove id) := by
  have ready := orderly.atMoment moment
  refine orderly.mirrors (run_remove ready.works room id) ?_ ?_
  · exact orderly.distinct.sublist ((List.filter_sublist.append_right _).map Entry.id)
  · have kept := entries_filter orderly.rows_distinct fun entry => entry.id ≠ id
    exact congrArg (fun entries => (_, Chronicle.mk entries _ _)) kept.symm

theorem Orderly.mirrors_removeOldest (orderly : db.Orderly) (room : db.HasRoom) (count : Int) :
    db.Mirrors moment (.removeOldest count) := by
  have ready := orderly.atMoment moment
  by_cases negative : count < 0
  · refine orderly.mirrors (run_removeOldest_of_neg _ negative) orderly.distinct ?_
    simp only [Chronicle.serve, negative, if_true]
    rfl
  · obtain ⟨deleted, kept⟩ := deleteAll_oldest ready.rows_distinct count.toNat
    have ran := run_removeOldest ready.works room (not_lt.mp negative)
    rw [deleteAll_eq] at deleted kept
    simp only [deleteAll_eq] at ran
    refine orderly.mirrors ran ?_ ?_
    · exact orderly.distinct.sublist ((List.filter_sublist.append_right _).map Entry.id)
    · simp only [Chronicle.serve, negative, if_false]
      exact Prod.ext (congrArg Except.ok deleted.symm)
        (congrArg (fun entries => Chronicle.mk entries _ _) kept.symm)

theorem Orderly.mirrors_stats (orderly : db.Orderly) (room : db.HasRoom) :
    db.Mirrors moment .stats := by
  refine orderly.mirrors (run_stats (orderly.atMoment moment).works room) orderly.distinct ?_
  exact congrArg (fun stats => (Except.ok stats, _)) (stats_eq (db.atMoment moment)).symm

/-- An operation that meets no fault is answered as the chronicle answers it. -/
theorem Orderly.mirrors_of_admits (orderly : db.Orderly) {operation : Operation}
    (admits : db.chronicle.Admits db.capacity moment operation) : db.Mirrors moment operation := by
  have room (few : db.chronicle.drafts.length < db.capacity) : db.HasRoom := by
    simpa [HasRoom, chronicle] using few
  cases operation with
  | publish => exact orderly.mirrors_publish (room admits.1) admits.2
  | begin => exact orderly.mirrors_begin (room admits)
  | append => exact orderly.mirrors_append admits.1 admits.2
  | commit => exact orderly.mirrors_commit admits
  | abandon => exact orderly.mirrors_abandon admits
  | entries => exact orderly.mirrors_entries (room admits)
  | recordFailure => exact orderly.mirrors_recordFailure (room admits.1) admits.2
  | remove id => exact orderly.mirrors_remove (room admits) id
  | removeOldest count => exact orderly.mirrors_removeOldest (room admits) count
  | stats => exact orderly.mirrors_stats (room admits)

theorem capacity_perform (db : Database) (moment : Moment) (operation : Operation) :
    (db.perform moment operation).2.capacity = db.capacity :=
  congrArg Prod.fst (surroundings_run (db.atMoment moment) operation.program)

/-- A database stays in order, and its chronicle keeps up with it. -/
theorem Orderly.answers_eq (orderly : db.Orderly) {asked : List (Moment × Operation)}
    (admitted : db.chronicle.AdmitsAll db.capacity asked) :
    (answers perform db asked).2.Orderly ∧
      answers Chronicle.serve db.chronicle asked =
        ((answers perform db asked).1, (answers perform db asked).2.chronicle) := by
  induction asked generalizing db with
  | nil => exact ⟨orderly, rfl⟩
  | cons first rest ih =>
      obtain ⟨moment, operation⟩ := first
      obtain ⟨admits, admitted⟩ := admitted
      have mirrors := orderly.mirrors_of_admits admits
      rw [mirrors.serve_eq, ← capacity_perform db moment operation] at admitted
      obtain ⟨orderly', same⟩ := ih mirrors.orderly admitted
      exact ⟨orderly', by simp only [answers, mirrors.serve_eq, same]⟩

/--
A store that meets no fault answers any row of operations as its chronicle does: as a list of
entries that is kept strictly in the order of their making.
-/
theorem Orderly.chronicled (orderly : db.Orderly) {asked : List (Moment × Operation)}
    (admitted : db.chronicle.AdmitsAll db.capacity asked) :
    (answers perform db asked).1 = (answers Chronicle.serve db.chronicle asked).1 ∧
      (answers perform db asked).2.chronicle = (answers Chronicle.serve db.chronicle asked).2 ∧
      (answers Chronicle.serve db.chronicle asked).2.entries.Pairwise
        fun earlier later => rank earlier < rank later := by
  obtain ⟨orderly', same⟩ := orderly.answers_eq admitted
  rw [same]
  exact ⟨rfl, rfl, entries_strict orderly'.rows_distinct⟩

end Operations

/-! ## An example -/

theorem orderly_empty (clock : Timestamp) (capacity : Nat) : (empty clock capacity).Orderly :=
  ⟨⟨rfl, rfl, rfl⟩, numbered_empty clock capacity, List.nodup_nil, List.nodup_nil⟩

theorem chronicle_empty (clock : Timestamp) (capacity : Nat) :
    (empty clock capacity).chronicle = ⟨[], [], 0⟩ := by
  simp [chronicle, empty, entries]

/-- The moment at a time at which the identifier with a number is drawn. -/
def moment (clock : Timestamp) (number : Nat) : Moment :=
  ⟨clock, ⟨0, number⟩⟩

/--
Operations with a clock that stands still and goes back, an entry that was removed before it
is reported as failed, a transaction that is abandoned, and limits out of range.
-/
def mixture : List (Moment × Operation) :=
  [(moment 5 1, .publish .deleteTeam 1 [1]),
    (moment 5 2, .begin),
    (moment 5 0, .publish .createAsset 7 [2]),
    (moment 3 3, .append 1 .updateAsset 1 [3]),
    (moment 3 4, .begin),
    (moment 3 4, .append 3 .deleteAsset 1 [4]),
    (moment 4 5, .entries),
    (moment 4 5, .commit 1),
    (moment 4 5, .abandon 3),
    (moment 9 5, .recordFailure (moment 0 1).id),
    (moment 9 5, .stats),
    (moment 9 5, .removeOldest (-1)),
    (moment 9 5, .removeOldest 2),
    (moment 9 5, .remove (moment 0 0).id),
    (moment 9 5, .recordFailure (moment 0 0).id),
    (moment 9 5, .entries),
    (moment 9 5, .removeOldest 9),
    (moment 9 5, .stats)]

/-- The mixture is answered in the order of times and identifiers, whatever is asked when. -/
theorem chronicled_of_mixture :
    let first := (moment 5 1).entry .deleteTeam 1 [1]
    let second := (moment 5 0).entry .createAsset 7 [2]
    let third := (moment 3 3).entry .updateAsset 1 [3]
    (empty 0 4).chronicle.AdmitsAll 4 mixture ∧
      (answers perform (empty 0 4) mixture).1 =
        [⟨.publish .deleteTeam 1 [1], .ok first.id⟩,
          ⟨.begin, .ok (1 : TransactionId)⟩,
          ⟨.publish .createAsset 7 [2], .ok second.id⟩,
          ⟨.append 1 .updateAsset 1 [3], .ok third.id⟩,
          ⟨.begin, .ok (3 : TransactionId)⟩,
          ⟨.append 3 .deleteAsset 1 [4], .ok (moment 3 4).id⟩,
          ⟨.entries, .ok [second, first]⟩,
          ⟨.commit 1, .ok ()⟩,
          ⟨.abandon 3, .ok ()⟩,
          ⟨.recordFailure first.id, .ok ()⟩,
          ⟨.stats, .ok (⟨3, some 3, some 1⟩ : Outbox.Stats)⟩,
          ⟨.removeOldest (-1), .error (negativeCount (-1))⟩,
          ⟨.removeOldest 2, .ok (2 : Nat)⟩,
          ⟨.remove second.id, .ok ()⟩,
          ⟨.recordFailure second.id, .ok ()⟩,
          ⟨.entries, .ok [{ first with attempts := 1, updatedAt := 9 }]⟩,
          ⟨.removeOldest 9, .ok (1 : Nat)⟩,
          ⟨.stats, .ok (⟨0, none, none⟩ : Outbox.Stats)⟩] := by
  intro first second third
  have admitted : (empty 0 4).chronicle.AdmitsAll 4 mixture := by
    rw [chronicle_empty]
    decide +kernel
  refine ⟨admitted, (Orderly.chronicled (orderly_empty 0 4) admitted).1.trans ?_⟩
  rw [chronicle_empty]
  rfl

end Database
end Store
end OutboxRelay
