import OutboxRelay.Proofs.Store.Database

/-!
# What becomes of entries

A statement may add an entry, and it may take entries away, but it never changes what an
entry says: only its attempts are counted, with the time of the last one.

**Results.**
* `change_execute`: all that a statement can do to a database.
* `known_of_execute`: an entry that is known behind a statement was known before it or was
  inserted by it.
* `of_publish`: an entry is added by a transaction of its own, which leaves no trace.
-/

namespace OutboxRelay

/-- What an entry says, which stays as it was written. -/
def Entry.content (entry : Entry) : EntryId × String × Int × Bytes :=
  (entry.id, entry.action, entry.version, entry.payload)

namespace Store
namespace Database

variable {db db' : Database}

/-! ## Changes -/

/-- What a statement can do to a database. -/
inductive Change (db : Database) : Statement → Database → Prop
  | nothing {statement : Statement} : Change db statement db
  | identifies {ids : Uuid.Source} : Change db .freshId { db with ids := ids }
  | opens : Change db .openTransaction (db.opened [])
  | inserts {id : TransactionId} {entryId : EntryId} {action : Action} {version : Int}
      {payload : Bytes} {transaction : Transaction}
      (found : db.transaction? id = some transaction) :
      Change db (.insert id entryId action version payload) (db.setTransaction { transaction with
        inserted := transaction.inserted ++ [db.newEntry entryId action version payload] })
  | locks {id : TransactionId} {key : LockId} {transaction : Transaction}
      (found : db.transaction? id = some transaction) :
      Change db (.tryLock id key)
        (db.setTransaction { transaction with keys := key :: transaction.keys })
  | ends {statement : Statement} {id : TransactionId} :
      Change db statement (db.dropTransaction id)
  | commits {id : TransactionId} {transaction : Transaction}
      (found : db.transaction? id = some transaction) :
      Change db (.commit id)
        { db.dropTransaction id with rows := db.rows ++ transaction.inserted }
  | rewrites {statement : Statement} {rows : List Entry}
      (same : ∀ row ∈ rows, ∃ old ∈ db.rows, old.content = row.content) :
      Change db statement { db with rows := rows }

section Statements

variable {α : Type} {kind : Kind} {statement : Statement}

theorem change_connected {work : Database → Except DatabaseError α × Database}
    (h : Change db statement (work db).2) : Change db statement (db.connected kind work).2 := by
  unfold connected
  split
  · exact .nothing
  · exact .nothing
  · exact h

theorem change_within {id : TransactionId} {work : Transaction → Except DatabaseError α × Database}
    (h : ∀ transaction, db.transaction? id = some transaction →
      Change db statement (work transaction).2) :
    Change db statement (db.within id kind work).2 := by
  unfold within
  split
  · exact .nothing
  · exact .nothing
  · exact h _ ‹_›

theorem change_deleteAll (ids : List EntryId) : Change db statement (db.deleteAll ids).2 := by
  have kept : (db.deleteAll ids).2 =
      { db with rows := db.rows.filter fun entry => !ids.contains entry.id } := by
    simp [deleteAll, List.partition_eq_filter_filter, Function.comp_def]
  rw [kept]
  exact .rewrites fun row hrow => ⟨row, List.mem_of_mem_filter hrow, rfl⟩

/-- All that a statement can do to a database. -/
theorem change_execute (db : Database) (statement : Statement) :
    Change db statement (db.execute statement).2 := by
  cases statement with
  | freshId => exact .identifies
  | openTransaction => exact change_connected .opens
  | insert => exact change_within fun _ found => .inserts found
  | tryLock id key =>
      refine change_within fun transaction found => ?_
      split
      · exact .nothing
      · exact .locks found
  | commit id =>
      simp only [execute, commit]
      split
      · exact .nothing
      · exact .ends
      · exact .commits ‹_›
  | abandon => exact .ends
  | selectAll => exact change_connected .nothing
  | countAttempt id =>
      refine change_connected ?_
      split
      · exact .nothing
      · refine .rewrites fun row hrow => ?_
        obtain ⟨old, hold, rfl⟩ := List.mem_map.mp hrow
        refine ⟨old, hold, ?_⟩
        split <;> rfl
  | delete => exact change_connected (change_deleteAll _)
  | deleteOldest => exact change_connected (change_deleteAll _)
  | summarize => exact change_connected .nothing

end Statements

/-! ## Numbers of transactions -/

theorem numbered_empty (clock : Timestamp) (capacity : Nat) :
    (empty clock capacity).Numbered := by
  simp [Numbered, empty]

theorem Numbered.setTransaction (h : db.Numbered) {id : TransactionId}
    {transaction changed : Transaction} (found : db.transaction? id = some transaction)
    (same : changed.id = transaction.id) : (db.setTransaction changed).Numbered := by
  intro other among
  rcases mem_of_setTransaction among with among | rfl
  · exact h other among
  · rw [same]
    exact h transaction (id_eq_of_transaction? found).1

/-- Every statement numbers transactions in the order of their opening. -/
theorem Numbered.execute (h : db.Numbered) (statement : Statement) :
    (db.execute statement).2.Numbered := by
  have change := change_execute db statement
  generalize (db.execute statement).2 = db' at change
  cases change with
  | nothing => exact h
  | identifies => exact h
  | opens =>
      intro transaction among
      rcases List.mem_append.mp among with among | last
      · exact Nat.lt_succ_of_lt (h transaction among)
      · obtain rfl := List.mem_singleton.mp last
        exact Nat.lt_succ_self _
  | inserts found => exact h.setTransaction found rfl
  | locks found => exact h.setTransaction found rfl
  | ends => exact fun transaction among => h transaction (List.mem_of_mem_filter among)
  | commits => exact fun transaction among => h transaction (List.mem_of_mem_filter among)
  | rewrites => exact h

/-- Every program of statements does so, too. -/
theorem Numbered.run {α : Type} (h : db.Numbered) (program : OnDatabase α) :
    (db.run program).2.Numbered := by
  induction program generalizing db with
  | done result => exact h
  | note record rest ih => exact ih h
  | call made rest ih => exact ih _ (h.execute made)

/-! ## Entries that are known -/

/-- All entries, committed or still to be committed. -/
def known (db : Database) : List Entry :=
  db.rows ++ db.transactions.flatMap Transaction.inserted

theorem mem_known {entry : Entry} :
    entry ∈ db.known ↔ entry ∈ db.rows ∨
      ∃ transaction ∈ db.transactions, entry ∈ transaction.inserted := by
  simp [known]

theorem known_of_setTransaction {changed : Transaction} {row : Entry}
    (h : row ∈ (db.setTransaction changed).known) : row ∈ db.known ∨ row ∈ changed.inserted := by
  rcases mem_known.mp h with hrow | ⟨other, among, hrow⟩
  · exact .inl (mem_known.mpr (.inl hrow))
  · rcases mem_of_setTransaction among with among | rfl
    · exact .inl (mem_known.mpr (.inr ⟨other, among, hrow⟩))
    · exact .inr hrow

theorem known_of_inserted {id : TransactionId} {transaction : Transaction}
    (found : db.transaction? id = some transaction) {row : Entry}
    (h : row ∈ transaction.inserted) : row ∈ db.known :=
  mem_known.mpr (.inr ⟨transaction, (id_eq_of_transaction? found).1, h⟩)

theorem known_of_dropTransaction {id : TransactionId} {row : Entry}
    (h : row ∈ (db.dropTransaction id).known) : row ∈ db.known := by
  rcases mem_known.mp h with hrow | ⟨other, among, hrow⟩
  · exact mem_known.mpr (.inl hrow)
  · exact mem_known.mpr (.inr ⟨other, List.mem_of_mem_filter among, hrow⟩)

/-- An entry that is known was known before with the same content, or is just inserted. -/
theorem known_of_execute {statement : Statement} {row : Entry}
    (h : row ∈ (db.execute statement).2.known) :
    (∃ old ∈ db.known, old.content = row.content) ∨
      ∃ transaction action version payload,
        statement = .insert transaction row.id action version payload := by
  have change := change_execute db statement
  generalize (db.execute statement).2 = db' at change h
  cases change with
  | nothing => exact .inl ⟨row, h, rfl⟩
  | identifies => exact .inl ⟨row, h, rfl⟩
  | opens =>
      refine .inl ⟨row, ?_, rfl⟩
      simpa [known, opened] using h
  | inserts found =>
      rcases known_of_setTransaction h with hknown | hrow
      · exact .inl ⟨row, hknown, rfl⟩
      rcases List.mem_append.mp hrow with hrow | hrow
      · exact .inl ⟨row, known_of_inserted found hrow, rfl⟩
      · obtain rfl := List.mem_singleton.mp hrow
        exact .inr ⟨_, _, _, _, rfl⟩
  | locks found =>
      rcases known_of_setTransaction h with hknown | hrow
      · exact .inl ⟨row, hknown, rfl⟩
      · exact .inl ⟨row, known_of_inserted found hrow, rfl⟩
  | ends => exact .inl ⟨row, known_of_dropTransaction h, rfl⟩
  | commits found =>
      refine .inl ⟨row, ?_, rfl⟩
      rcases mem_known.mp h with hrow | ⟨other, among, hrow⟩
      · rcases List.mem_append.mp hrow with hrow | hrow
        · exact mem_known.mpr (.inl hrow)
        · exact known_of_inserted found hrow
      · exact mem_known.mpr (.inr ⟨other, List.mem_of_mem_filter among, hrow⟩)
  | rewrites same =>
      rcases mem_known.mp h with hrow | hrow
      · obtain ⟨old, hold, heq⟩ := same row hrow
        exact .inl ⟨old, mem_known.mpr (.inl hold), heq⟩
      · exact .inl ⟨row, mem_known.mpr (.inr hrow), rfl⟩

/-! ## Later databases -/

/-- Whether a statement inserts no entry with an identifier. -/
def SparesId (id : EntryId) : Statement → Prop
  | .insert _ other .. => other ≠ id
  | _ => True

/--
What can come of a database while nobody else writes an entry with an identifier: any
statements are executed, and anything but the entries may change by itself.
-/
inductive Later (id : EntryId) (db : Database) : Database → Prop
  | now : Later id db db
  | changes {db' db'' : Database} (later : Later id db db') (rows : db''.rows = db'.rows)
      (transactions : db''.transactions = db'.transactions) : Later id db db''
  | executes {db' : Database} (later : Later id db db') {statement : Statement}
      (spares : SparesId id statement) : Later id db (db'.execute statement).2

/-- What an entry says stays, as long as the entry is there. -/
theorem Later.content_eq {id : EntryId} {content : EntryId × String × Int × Bytes}
    (later : Later id db db') (only : ∀ row ∈ db.known, row.id = id → row.content = content) :
    ∀ row ∈ db'.known, row.id = id → row.content = content := by
  induction later with
  | now => exact only
  | changes later rows transactions ih =>
      rw [known, rows, transactions]
      exact ih
  | executes later spares ih =>
      intro row hrow hid
      rcases known_of_execute hrow with ⟨old, hold, heq⟩ | ⟨_, _, _, _, rfl⟩
      · have hold_id : old.id = id := (congrArg Prod.fst heq).trans hid
        exact heq.symm.trans (ih old hold hold_id)
      · exact absurd hid spares

/-! ## Publishing -/

section Work

variable {action : Action} {version : Int} {payload : Bytes} {id : EntryId}

/-- An entry that is added within a transaction that was just opened is the only one there. -/
theorem of_append (h : db.Numbered)
    (served : (db.opened []).run
      (Store.append db.nextTransaction action version payload).run = (.ok id, db')) :
    db' = withLast { db with ids := db.ids.fresh.2 }
      ⟨db.nextTransaction, [db.newEntry id action version payload], []⟩ := by
  obtain ⟨fresh, identified, fresh_eq, served⟩ := exists_of_run_bind served
  obtain ⟨u, inserted, insert_eq, served⟩ := exists_of_run_bind served
  cases served
  cases fresh_eq
  have numbered : Numbered { db with ids := db.ids.fresh.2 } := h
  obtain ⟨transaction, found, rfl⟩ := exists_of_insert insert_eq
  obtain rfl := Option.some.inj ((transaction?_withLast numbered rfl).symm.trans found)
  exact setTransaction_withLast numbered rfl rfl

/-- An entry is added by a transaction of its own, which leaves no trace. -/
theorem of_publish (h : db.Numbered)
    (served : db.run (Store.publish action version payload).run = (.ok id, db')) :
    db' = { db with
      rows := db.rows ++ [db.newEntry id action version payload]
      ids := db.ids.fresh.2
      nextTransaction := db.nextTransaction + 1 } := by
  obtain ⟨number, opened, open_eq, served⟩ := exists_of_run_bind served
  obtain ⟨appended, inserted, append_eq, served⟩ := exists_of_run_bind served
  obtain ⟨u, committed, commit_eq, served⟩ := exists_of_run_bind served
  obtain ⟨rfl, rfl⟩ : appended = id ∧ committed = db' := by
    cases served
    exact ⟨rfl, rfl⟩
  have opened_eq : db.openTransaction = (.ok number, opened) := open_eq
  obtain ⟨rfl, rfl⟩ := of_openTransaction opened_eq
  obtain rfl := of_append h (run_of_orAbandon append_eq)
  have numbered : Numbered { db with ids := db.ids.fresh.2 } := h
  obtain ⟨transaction, found, rfl⟩ := exists_of_commit commit_eq
  obtain rfl := Option.some.inj ((transaction?_withLast numbered rfl).symm.trans found)
  rw [dropTransaction_withLast numbered rfl]
  rfl

/-- The only new entry is the one that was added. -/
theorem known_of_publish (h : db.Numbered)
    (served : db.run (Store.publish action version payload).run = (.ok id, db')) {row : Entry}
    (hrow : row ∈ db'.known) : row ∈ db.known ∨ row = db.newEntry id action version payload := by
  rw [of_publish h served] at hrow
  rcases mem_known.mp hrow with hrow | hrow
  · rcases List.mem_append.mp hrow with hrow | hrow
    · exact .inl (mem_known.mpr (.inl hrow))
    · exact .inr (List.mem_singleton.mp hrow)
  · exact .inl (mem_known.mpr (.inr hrow))

end Work

end Database
end Store
end OutboxRelay
