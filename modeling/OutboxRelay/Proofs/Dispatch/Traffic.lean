import OutboxRelay.Proofs.Dispatch.Snapshot
import OutboxRelay.Proofs.Store.Database

/-!
# Writers beside passes

Any number of writers add entries to a database, each in transactions of its own, while any
number of passes work on the entries that are committed.  The statements of a transaction are
steps of their own, and so are the calls of a pass.

**Rules.**
* All calls that are made work.
* The clock of the database does not go back, and an identifier is greater than all that were
  given out before.
* All passes ask for the same lock, and nobody removes entries but they.

**Results.**
* `Flowing.exists_stages`: the passes keep to their stages.
* `Flowing.ledger`: the open transactions belong to writers, or are claimed by passes.
* `Ledger.alone`: at most one pass has the lock.
-/

namespace OutboxRelay
namespace Dispatch

open Store (TransactionId Transaction Database)
open Outbox (task)

/-- What is done at one instant. -/
inductive Deed (ι : Type)
  /-- A writer inserts an entry, which nobody else sees yet. -/
  | inserts (entry : Entry)
  /-- A writer commits its transaction, so that all see what it inserted. -/
  | commits (entries : List Entry)
  | acts (pass : ι) (act : Act)

/-- A database with its writers, and the passes that work on it. -/
structure Traffic (X ι : Type) where
  db : Database
  /-- The transactions that writers have open. -/
  writers : List TransactionId
  /-- Where each pass stands. -/
  place : ι → X
  /-- What was done, the last deed first. -/
  history : List (Deed ι)

namespace Traffic

variable {X Y ι : Type}

/-- An empty database on which nobody has begun to work. -/
def start (place : X) (clock : Timestamp) (capacity : Nat) : Traffic X ι :=
  ⟨.empty clock capacity, [], fun _ => place, []⟩

/-- The same traffic, whose passes stand somewhere else. -/
def placed (traffic : Traffic X ι) (place : ι → Y) : Traffic Y ι :=
  ⟨traffic.db, traffic.writers, place, traffic.history⟩

end Traffic

/-- The entries that writers have inserted. -/
def inserted {ι : Type} : List (Deed ι) → List Entry
  | [] => []
  | .inserts entry :: past => entry :: inserted past
  | _ :: past => inserted past

/-- The entries that writers have committed. -/
def committed {ι : Type} : List (Deed ι) → List Entry
  | [] => []
  | .commits entries :: past => entries ++ committed past
  | _ :: past => committed past

/-- What an act of a pass does to the database when it succeeds. -/
def Act.Succeeds : Act → Database → Database → Prop
  | .store call reply, db, db' =>
      ∃ answer, reply = .ok answer ∧ db.run (Store.serve call) = (.ok answer, db')
  | .consult _ reply, db, db' => (∃ answer, reply = .ok answer) ∧ db' = db
  | _, db, db' => db' = db

section Steps

variable {X ι : Type} [DecidableEq ι]
variable (settings : ι → Settings) (move : Settings → X → Act → X → Prop)

/-- What can happen next, when passes move in a given way. -/
inductive Flow : Traffic X ι → Traffic X ι → Prop
  /-- Time goes by. -/
  | ticks {traffic : Traffic X ι} {now : Timestamp} (later : traffic.db.clock ≤ now) :
      Flow traffic { traffic with db := { traffic.db with clock := now } }
  /-- A writer opens a transaction. -/
  | opens {traffic : Traffic X ι} {id : TransactionId} {db : Database}
      (served : traffic.db.openTransaction = (.ok id, db)) :
      Flow traffic { traffic with db := db, writers := id :: traffic.writers }
  /-- A writer inserts an entry. -/
  | inserts {traffic : Traffic X ι} {id : TransactionId} {entryId : EntryId} {action : Action}
      {version : Int} {payload : Bytes} {db : Database} (own : id ∈ traffic.writers)
      (fresh : ∀ entry ∈ inserted traffic.history, entry.id.toNat < entryId.toNat)
      (served : traffic.db.insert id (traffic.db.newEntry entryId action version payload) =
        (.ok (), db)) :
      Flow traffic { traffic with
        db := db
        history := .inserts (traffic.db.newEntry entryId action version payload) ::
          traffic.history }
  /-- A writer commits its transaction. -/
  | commits {traffic : Traffic X ι} {id : TransactionId} {transaction : Transaction}
      {db : Database} (own : id ∈ traffic.writers)
      (found : traffic.db.transaction? id = some transaction)
      (served : traffic.db.commit id = (.ok (), db)) :
      Flow traffic { traffic with
        db := db
        writers := traffic.writers.erase id
        history := .commits transaction.inserted :: traffic.history }
  /-- A writer rolls its transaction back. -/
  | abandons {traffic : Traffic X ι} {id : TransactionId} (own : id ∈ traffic.writers) :
      Flow traffic { traffic with
        db := traffic.db.dropTransaction id
        writers := traffic.writers.erase id }
  /-- A pass acts. -/
  | acts {traffic : Traffic X ι} {pass : ι} {act : Act} {x : X} {db : Database}
      (moves : move (settings pass) (traffic.place pass) act x)
      (succeeds : act.Succeeds traffic.db db) :
      Flow traffic { traffic with
        db := db
        place := Function.update traffic.place pass x
        history := .acts pass act :: traffic.history }

/-- Traffic that can come about, when passes move in a given way, from an empty database. -/
def Flowing (place : X) (clock : Timestamp) (capacity : Nat) (traffic : Traffic X ι) : Prop :=
  Relation.ReflTransGen (Flow settings move) (.start place clock capacity) traffic

end Steps

section Stages

variable {ι : Type} [DecidableEq ι] {settings : ι → Settings} {clock : Timestamp}
variable {capacity : Nat}

theorem exists_stages_of_flow {traffic traffic' : Traffic Standing ι} {stages : ι → Stage}
    (follow : ∀ pass, Follows (settings pass) (traffic.place pass) (stages pass))
    (flow : Flow settings Standing.Move traffic traffic') :
    ∃ stages', Flow settings Stage.Move (traffic.placed stages) (traffic'.placed stages') ∧
      ∀ pass, Follows (settings pass) (traffic'.place pass) (stages' pass) := by
  cases flow with
  | ticks later => exact ⟨stages, .ticks later, follow⟩
  | opens served => exact ⟨stages, .opens served, follow⟩
  | inserts own fresh served => exact ⟨stages, .inserts own fresh served, follow⟩
  | commits own found served => exact ⟨stages, .commits own found served, follow⟩
  | abandons own => exact ⟨stages, .abandons own, follow⟩
  | @acts pass act x db moves succeeds =>
      obtain ⟨stage, allowed, follows⟩ := (follow pass).move moves
      exact ⟨Function.update stages pass stage, .acts allowed succeeds,
        Follows.update follow follows⟩

/-- Each pass keeps to the stages. -/
theorem Flowing.exists_stages {traffic : Traffic Standing ι}
    (flowing : Flowing settings Standing.Move .idle clock capacity traffic) :
    ∃ stages, Flowing settings Stage.Move .idle clock capacity (traffic.placed stages) ∧
      ∀ pass, Follows (settings pass) (traffic.place pass) (stages pass) := by
  induction flowing with
  | refl => exact ⟨fun _ => .idle, .refl, fun _ => .idle⟩
  | tail _ flow ih =>
      obtain ⟨stages, staged, follow⟩ := ih
      obtain ⟨stages', flow', follow'⟩ := exists_stages_of_flow follow flow
      exact ⟨stages', staged.tail flow', follow'⟩

end Stages

/-! ## The open transactions -/

/-- The open transactions of a database belong to writers, or are claimed by passes. -/
structure Ledger {ι : Type} (key : LockId) (db : Database) (writers : List TransactionId)
    (claims : ι → Option (Bool × TransactionId)) : Prop where
  old : ∀ transaction ∈ db.transactions, transaction.id < db.nextTransaction
  writer_old : ∀ id ∈ writers, id < db.nextTransaction
  claim_old : ∀ pass acquired id, claims pass = some (acquired, id) → id < db.nextTransaction
  not_writer : ∀ pass acquired id, claims pass = some (acquired, id) → id ∉ writers
  /-- A transaction is claimed at most once. -/
  claim_once : ∀ pass other acquired acquired' id,
    claims pass = some (acquired, id) → claims other = some (acquired', id) → pass = other
  /-- Who claims to have the lock has it. -/
  holds : ∀ pass id, claims pass = some (true, id) →
    ∃ transaction ∈ db.transactions, transaction.id = id ∧ key ∈ transaction.keys
  /-- At most one transaction has the lock. -/
  held_once : ∀ one ∈ db.transactions, ∀ other ∈ db.transactions,
    key ∈ one.keys → key ∈ other.keys → one.id = other.id
  /-- A pass inserts nothing. -/
  blank : ∀ pass acquired id, claims pass = some (acquired, id) →
    ∀ transaction ∈ db.transactions, transaction.id = id → transaction.inserted = []

namespace Ledger

variable {ι : Type} {key : LockId} {db db' : Database} {writers : List TransactionId}
variable {claims : ι → Option (Bool × TransactionId)}

theorem initial (clock : Timestamp) (capacity : Nat) :
    Ledger key (.empty clock capacity) [] fun _ : ι => none := by
  constructor <;> simp [Database.empty]

/-- What leaves the open transactions alone leaves their ledger alone. -/
theorem congr (ledger : Ledger key db writers claims)
    (same : db'.transactions = db.transactions) (next : db'.nextTransaction = db.nextTransaction) :
    Ledger key db' writers claims := by
  constructor
  · simpa only [same, next] using ledger.old
  · simpa only [next] using ledger.writer_old
  · simpa only [next] using ledger.claim_old
  · exact ledger.not_writer
  · exact ledger.claim_once
  · simpa only [same] using ledger.holds
  · simpa only [same] using ledger.held_once
  · simpa only [same] using ledger.blank

/-- At most one pass claims to have the lock. -/
theorem alone (ledger : Ledger key db writers claims) {pass other : ι} {id id' : TransactionId}
    (mine : claims pass = some (true, id)) (yours : claims other = some (true, id')) :
    pass = other := by
  obtain ⟨one, one_open, rfl, one_has⟩ := ledger.holds pass id mine
  obtain ⟨another, another_open, rfl, another_has⟩ := ledger.holds other id' yours
  rw [ledger.held_once one one_open another another_open one_has another_has] at mine
  exact ledger.claim_once _ _ _ _ _ mine yours

/-- What a pass releases has inserted nothing. -/
theorem blank_of_release {settings : Settings} {place : ι → Stage} {pass : ι} {act : Act}
    {stage : Stage} (ledger : Ledger key db writers fun other => (place other).claim)
    (moves : Stage.Move settings (place pass) act stage) (lock : Lock TransactionId)
    (reply : Except StoreError Unit) (releases : act = .store (.release (some lock)) reply) :
    ∀ transaction ∈ db.transactions, transaction.id = lock.transaction →
      transaction.inserted = [] := by
  subst releases
  rcases moves.lock_cases with
    ⟨off, -⟩ | ⟨error, same, -⟩ | ⟨lock, same, -⟩ | ⟨lock', acquired, reply, same, claim, -⟩
  · exact absurd (.inr rfl) off
  · cases same
  · cases same
  · cases same
    exact ledger.blank pass acquired lock.transaction claim

/-- A transaction that is opened with a lock nobody has, or with none. -/
theorem opened (ledger : Ledger key db writers claims) {keys : List LockId}
    (free : key ∈ keys → ∀ transaction ∈ db.transactions, key ∉ transaction.keys) :
    Ledger key (db.opened keys) writers claims := by
  have mem_opened (transaction : Transaction) : transaction ∈ (db.opened keys).transactions ↔
      transaction ∈ db.transactions ∨ transaction = ⟨db.nextTransaction, [], keys⟩ := by
    simp [Database.opened]
  constructor
  · intro transaction member
    rcases (mem_opened transaction).mp member with member | rfl
    · exact Nat.lt_succ_of_lt (ledger.old transaction member)
    · exact Nat.lt_succ_self _
  · exact fun id member => Nat.lt_succ_of_lt (ledger.writer_old id member)
  · exact fun pass acquired id claimed =>
      Nat.lt_succ_of_lt (ledger.claim_old pass acquired id claimed)
  · exact ledger.not_writer
  · exact ledger.claim_once
  · intro pass id claimed
    obtain ⟨transaction, member, has⟩ := ledger.holds pass id claimed
    exact ⟨transaction, (mem_opened transaction).mpr (.inl member), has⟩
  · intro one one_open other other_open one_has other_has
    rcases (mem_opened one).mp one_open with one_open | rfl
    · rcases (mem_opened other).mp other_open with other_open | rfl
      · exact ledger.held_once one one_open other other_open one_has other_has
      · exact absurd one_has (free other_has one one_open)
    · rcases (mem_opened other).mp other_open with other_open | rfl
      · exact absurd other_has (free one_has other other_open)
      · rfl
  · intro pass acquired id claimed transaction member same
    rcases (mem_opened transaction).mp member with member | rfl
    · exact ledger.blank pass acquired id claimed transaction member same
    · rfl

/-- A writer gets the next transaction. -/
theorem write (ledger : Ledger key db writers claims) :
    Ledger key (db.opened []) (db.nextTransaction :: writers) claims := by
  have opened : Ledger key (db.opened []) writers claims :=
    ledger.opened fun none => absurd none List.not_mem_nil
  constructor
  · exact opened.old
  · exact List.forall_mem_cons.mpr ⟨Nat.lt_succ_self _, opened.writer_old⟩
  · exact opened.claim_old
  · intro pass acquired id claimed member
    rcases List.mem_cons.mp member with rfl | member
    · exact Nat.lt_irrefl _ (ledger.claim_old pass acquired _ claimed)
    · exact ledger.not_writer pass acquired id claimed member
  · exact opened.claim_once
  · exact opened.holds
  · exact opened.held_once
  · exact opened.blank

/-- A writer inserts something in its transaction. -/
theorem insert (ledger : Ledger key db writers claims) {transaction : Transaction}
    (open_now : transaction ∈ db.transactions) (own : transaction.id ∈ writers)
    (entries : List Entry) :
    Ledger key (db.setTransaction { transaction with inserted := entries }) writers claims := by
  have exists_before {other : Transaction}
      (member : other ∈ (db.setTransaction { transaction with inserted := entries }).transactions) :
      ∃ before ∈ db.transactions, before.id = other.id ∧ before.keys = other.keys := by
    rcases Database.mem_of_setTransaction member with member | rfl
    · exact ⟨other, member, rfl, rfl⟩
    · exact ⟨transaction, open_now, rfl, rfl⟩
  constructor
  · intro other member
    obtain ⟨before, member, same, -⟩ := exists_before member
    exact same ▸ ledger.old before member
  · exact ledger.writer_old
  · exact ledger.claim_old
  · exact ledger.not_writer
  · exact ledger.claim_once
  · intro pass id claimed
    obtain ⟨other, member, rfl, has⟩ := ledger.holds pass id claimed
    have apart : other.id ≠ transaction.id := fun same =>
      ledger.not_writer pass true other.id claimed (same ▸ own)
    exact ⟨other, List.mem_map.mpr ⟨other, member, if_neg apart⟩, rfl, has⟩
  · intro one one_open other other_open one_has other_has
    obtain ⟨one', one_open, one_eq, one_keys⟩ := exists_before one_open
    obtain ⟨other', other_open, other_eq, other_keys⟩ := exists_before other_open
    rw [← one_eq, ← other_eq]
    exact ledger.held_once one' one_open other' other_open (one_keys ▸ one_has)
      (other_keys ▸ other_has)
  · intro pass acquired id claimed other member same
    rcases Database.mem_of_setTransaction member with member | rfl
    · exact ledger.blank pass acquired id claimed other member same
    · exact absurd (same ▸ own) (ledger.not_writer pass acquired id claimed)

/-- A transaction that no pass claims can be ended. -/
theorem drop (ledger : Ledger key db writers claims) {id : TransactionId}
    (unclaimed : ∀ pass acquired, claims pass ≠ some (acquired, id)) :
    Ledger key (db.dropTransaction id) writers claims := by
  have mem_drop (transaction : Transaction) :
      transaction ∈ (db.dropTransaction id).transactions ↔
        transaction ∈ db.transactions ∧ transaction.id ≠ id := by
    simp [Database.dropTransaction]
  constructor
  · exact fun transaction member => ledger.old transaction ((mem_drop _).mp member).1
  · exact ledger.writer_old
  · exact ledger.claim_old
  · exact ledger.not_writer
  · exact ledger.claim_once
  · intro pass other claimed
    obtain ⟨transaction, member, rfl, has⟩ := ledger.holds pass other claimed
    have apart : transaction.id ≠ id := fun same => unclaimed pass true (same ▸ claimed)
    exact ⟨transaction, (mem_drop _).mpr ⟨member, apart⟩, rfl, has⟩
  · intro one one_open other other_open
    exact ledger.held_once one ((mem_drop _).mp one_open).1 other ((mem_drop _).mp other_open).1
  · intro pass acquired other claimed transaction member
    exact ledger.blank pass acquired other claimed transaction ((mem_drop _).mp member).1

/-- A writer is done with its transaction. -/
theorem leave (ledger : Ledger key db writers claims) {id : TransactionId}
    (own : id ∈ writers) :
    Ledger key (db.dropTransaction id) (writers.erase id) claims := by
  have dropped : Ledger key (db.dropTransaction id) writers claims :=
    ledger.drop fun pass acquired claimed => ledger.not_writer pass acquired id claimed own
  constructor
  · exact dropped.old
  · exact fun other member => dropped.writer_old other (List.mem_of_mem_erase member)
  · exact dropped.claim_old
  · exact fun pass acquired other claimed member =>
      dropped.not_writer pass acquired other claimed (List.mem_of_mem_erase member)
  · exact dropped.claim_once
  · exact dropped.holds
  · exact dropped.held_once
  · exact dropped.blank

variable [DecidableEq ι]

/-- A claim can be given up. -/
theorem concede (ledger : Ledger key db writers claims) (pass : ι) :
    Ledger key db writers (Function.update claims pass none) := by
  constructor
  · exact ledger.old
  · exact ledger.writer_old
  · exact fun other acquired id claimed =>
      ledger.claim_old _ _ _ (claim_of_update_none claimed).2
  · exact fun other acquired id claimed =>
      ledger.not_writer _ _ _ (claim_of_update_none claimed).2
  · exact fun one other acquired acquired' id claimed claimed' =>
      ledger.claim_once _ _ _ _ _ (claim_of_update_none claimed).2
        (claim_of_update_none claimed').2
  · exact fun other id claimed => ledger.holds _ _ (claim_of_update_none claimed).2
  · exact ledger.held_once
  · exact fun other acquired id claimed =>
      ledger.blank _ _ _ (claim_of_update_none claimed).2

/-- A pass releases its lock. -/
theorem release (ledger : Ledger key db writers claims) {pass : ι} {acquired : Bool}
    {id : TransactionId} (claimed : claims pass = some (acquired, id)) :
    Ledger key (db.dropTransaction id) writers (Function.update claims pass none) := by
  refine (ledger.concede pass).drop fun other acquired' claimed' => ?_
  obtain ⟨apart, claimed'⟩ := claim_of_update_none claimed'
  exact apart (ledger.claim_once _ _ _ _ _ claimed' claimed)

/-- A pass that asks for the lock claims what the answer says. -/
theorem take (ledger : Ledger key db writers claims) (pass : ι) :
    Ledger key (db.opened (if db.isHeld key then [] else [key])) writers
      (Function.update claims pass (some (!db.isHeld key, db.nextTransaction))) := by
  have free : key ∈ (if db.isHeld key then [] else [key]) →
      ∀ transaction ∈ db.transactions, key ∉ transaction.keys := by
    intro taken transaction member has
    have held : db.isHeld key = true :=
      List.any_eq_true.mpr ⟨transaction, member, List.contains_iff_mem.mpr has⟩
    rw [held, if_pos rfl] at taken
    exact absurd taken List.not_mem_nil
  have opened := ledger.opened free
  have new_open : (⟨db.nextTransaction, [], if db.isHeld key then [] else [key]⟩ : Transaction) ∈
      (db.opened (if db.isHeld key then [] else [key])).transactions :=
    List.mem_append_right _ List.mem_cons_self
  constructor
  · exact opened.old
  · exact opened.writer_old
  · intro other acquired id claimed
    rcases claim_cases_of_update claimed with ⟨-, -, rfl⟩ | ⟨-, claimed⟩
    · exact Nat.lt_succ_self _
    · exact opened.claim_old _ _ _ claimed
  · intro other acquired id claimed
    rcases claim_cases_of_update claimed with ⟨-, -, rfl⟩ | ⟨-, claimed⟩
    · exact fun member => Nat.lt_irrefl _ (ledger.writer_old _ member)
    · exact ledger.not_writer _ _ _ claimed
  · intro one other acquired acquired' id claimed claimed'
    rcases claim_cases_of_update claimed with ⟨rfl, -, rfl⟩ | ⟨-, claimed⟩
    · rcases claim_cases_of_update claimed' with ⟨rfl, -, -⟩ | ⟨-, claimed'⟩
      · rfl
      · exact absurd (ledger.claim_old _ _ _ claimed') (Nat.lt_irrefl _)
    · rcases claim_cases_of_update claimed' with ⟨-, -, rfl⟩ | ⟨-, claimed'⟩
      · exact absurd (ledger.claim_old _ _ _ claimed) (Nat.lt_irrefl _)
      · exact ledger.claim_once _ _ _ _ _ claimed claimed'
  · intro other id claimed
    rcases claim_cases_of_update claimed with ⟨-, acquired, rfl⟩ | ⟨-, claimed⟩
    · have unheld : db.isHeld key = false := by simpa using acquired.symm
      exact ⟨_, new_open, rfl, by simp [unheld]⟩
    · exact opened.holds _ _ claimed
  · exact opened.held_once
  · intro other acquired id claimed transaction member same
    rcases claim_cases_of_update claimed with ⟨-, -, rfl⟩ | ⟨-, claimed⟩
    · rcases List.mem_append.mp member with member | last
      · exact absurd same (Nat.ne_of_lt (ledger.old transaction member))
      · rw [List.mem_singleton.mp last]
    · exact opened.blank _ _ _ claimed transaction member same

end Ledger

section Lock

variable {ι : Type} [DecidableEq ι] {settings : ι → Settings} {key : LockId}
variable {clock : Timestamp} {capacity : Nat}

/-- What the passes claim. -/
def Traffic.claims (traffic : Traffic Stage ι) (pass : ι) : Option (Bool × TransactionId) :=
  (traffic.place pass).claim

/-- An act that works does what its call asks for. -/
theorem Act.Succeeds.performs {call : Outbox.Call TransactionId}
    {reply : Except StoreError call.Answer} {db db' : Database}
    (succeeds : (Act.store call reply).Succeeds db db')
    (old : db.Numbered) :
    ∃ answer, reply = .ok answer ∧ db.Performs call answer db' := by
  obtain ⟨answer, rfl, served⟩ := succeeds
  exact ⟨answer, rfl, Database.performs_of_run old served⟩

/-- An act that does not concern the lock leaves the open transactions alone. -/
theorem Act.Succeeds.transactions_eq {act : Act} {db db' : Database}
    (succeeds : act.Succeeds db db') (off : ¬ act.OnLock)
    (old : db.Numbered) :
    db'.transactions = db.transactions ∧ db'.nextTransaction = db.nextTransaction := by
  cases act with
  | store call reply =>
      obtain ⟨answer, rfl, performs⟩ := succeeds.performs old
      cases call with
      | entries => rw [performs.2]; exact ⟨rfl, rfl⟩
      | recordFailure id => rw [performs]; exact ⟨rfl, rfl⟩
      | remove id => rw [performs]; exact ⟨rfl, rfl⟩
      | removeOldest count => rw [performs]; exact ⟨rfl, rfl⟩
      | tryLock id => exact absurd (.inl rfl) off
      | release lock => exact absurd (.inr rfl) off
  | consult call reply => rw [succeeds.2]; exact ⟨rfl, rfl⟩
  | start | hand | settle | finish => rw [succeeds]; exact ⟨rfl, rfl⟩

/-- What an act that works does to the entries: it may take some away. -/
theorem Act.Succeeds.shrinks {act : Act} {db db' : Database} (succeeds : act.Succeeds db db')
    (old : db.Numbered)
    (blank : ∀ lock reply, act = .store (.release (some lock)) reply →
      ∀ transaction ∈ db.transactions, transaction.id = lock.transaction →
        transaction.inserted = []) :
    db'.clock = db.clock ∧
      (∀ transaction ∈ db'.transactions,
        transaction ∈ db.transactions ∨ transaction.inserted = []) ∧
      (db'.rows.map task).Sublist (db.rows.map task) ∧
      (act.OffLog → db'.rows.map task = db.rows.map task) := by
  have nothing : db.clock = db.clock ∧
      (∀ transaction ∈ db.transactions,
        transaction ∈ db.transactions ∨ transaction.inserted = []) ∧
      (db.rows.map task).Sublist (db.rows.map task) ∧
      (act.OffLog → db.rows.map task = db.rows.map task) :=
    ⟨rfl, fun _ member => .inl member, List.Sublist.refl _, fun _ => rfl⟩
  cases act with
  | store call reply =>
      obtain ⟨answer, rfl, performs⟩ := succeeds.performs old
      cases call with
      | entries =>
          obtain ⟨-, rfl⟩ := performs
          exact nothing
      | recordFailure id =>
          obtain rfl := performs
          have same : List.map task _ = _ :=
            Outbox.map_markFailed (fun _ _ _ => rfl) db.clock id db.rows
          exact ⟨rfl, fun _ member => .inl member, same ▸ List.Sublist.refl _, fun _ => same⟩
      | remove id =>
          obtain rfl := performs
          exact ⟨rfl, fun _ member => .inl member, List.filter_sublist.map _,
            fun off => by simp [Act.OffLog, Outbox.Call.kind] at off⟩
      | removeOldest count =>
          obtain rfl := performs
          refine ⟨rfl, fun _ member => .inl member, ?_,
            fun off => by simp [Act.OffLog, Outbox.Call.kind] at off⟩
          simp only [Database.deleteAll, List.partition_eq_filter_filter]
          exact List.filter_sublist.map _
      | tryLock key =>
          obtain ⟨-, rfl⟩ := performs
          refine ⟨rfl, fun transaction member => ?_, List.Sublist.refl _, fun _ => rfl⟩
          rcases List.mem_append.mp member with member | last
          · exact .inl member
          · rw [List.mem_singleton.mp last]
            exact .inr rfl
      | release lock =>
          cases lock with
          | none =>
              obtain rfl := performs
              exact nothing
          | some lock =>
              obtain ⟨transaction, found, rfl⟩ := performs
              obtain ⟨open_now, id_eq⟩ := Database.id_eq_of_transaction? found
              rw [blank lock _ rfl transaction open_now id_eq, List.append_nil]
              exact ⟨rfl, fun _ member => .inl (List.mem_of_mem_filter member),
                List.Sublist.refl _, fun _ => rfl⟩
  | consult call reply =>
      rw [succeeds.2]
      exact nothing
  | start | hand | settle | finish =>
      rw [succeeds]
      exact nothing

/-- What a pass does keeps the open transactions accounted for. -/
theorem Ledger.acts {db db' : Database} {writers : List TransactionId} {place : ι → Stage}
    {pass : ι} {act : Act} {stage : Stage} (same_key : ∀ pass, (settings pass).lockId = key)
    (ledger : Ledger key db writers fun other => (place other).claim)
    (moves : Stage.Move (settings pass) (place pass) act stage) (succeeds : act.Succeeds db db') :
    Ledger key db' writers fun other => (Function.update place pass stage other).claim := by
  rw [claim_update]
  rcases moves.lock_cases with
    ⟨off, same⟩ | ⟨error, rfl, -, claim⟩ | ⟨lock, rfl, -, claim⟩ |
      ⟨lock, acquired, reply, rfl, before, claim⟩
  · rw [same, Function.update_eq_self_iff.mpr rfl]
    obtain ⟨same, next⟩ := succeeds.transactions_eq off ledger.old
    exact ledger.congr same next
  · obtain ⟨answer, same, -⟩ := succeeds
    cases same
  · obtain ⟨answer, same, performs⟩ := succeeds.performs ledger.old
    cases same
    rw [same_key] at performs
    obtain ⟨rfl, rfl⟩ := performs
    rw [claim]
    exact ledger.take pass
  · obtain ⟨answer, rfl, transaction, -, rfl⟩ := succeeds.performs ledger.old
    rw [claim]
    exact (ledger.release before).congr rfl rfl

theorem Ledger.flow {traffic traffic' : Traffic Stage ι}
    (same_key : ∀ pass, (settings pass).lockId = key)
    (ledger : Ledger key traffic.db traffic.writers traffic.claims)
    (flow : Flow settings Stage.Move traffic traffic') :
    Ledger key traffic'.db traffic'.writers traffic'.claims := by
  cases flow with
  | ticks later => exact ledger.congr rfl rfl
  | opens served =>
      obtain ⟨rfl, rfl⟩ := Database.of_openTransaction served
      exact ledger.write
  | inserts own fresh served =>
      obtain ⟨transaction, found, rfl⟩ := Database.exists_of_insert served
      obtain ⟨open_now, rfl⟩ := Database.id_eq_of_transaction? found
      exact ledger.insert open_now own _
  | commits own found served =>
      obtain ⟨transaction, -, rfl⟩ := Database.exists_of_commit served
      exact (ledger.leave own).congr rfl rfl
  | abandons own => exact ledger.leave own
  | acts moves succeeds => exact ledger.acts same_key moves succeeds

/-- All open transactions are accounted for. -/
theorem Flowing.ledger {traffic : Traffic Stage ι}
    (same_key : ∀ pass, (settings pass).lockId = key)
    (flowing : Flowing settings Stage.Move .idle clock capacity traffic) :
    Ledger key traffic.db traffic.writers traffic.claims := by
  induction flowing with
  | refl => exact Ledger.initial clock capacity
  | tail _ flow ih => exact ih.flow same_key flow

end Lock

end Dispatch
end OutboxRelay
