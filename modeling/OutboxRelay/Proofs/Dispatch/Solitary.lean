import OutboxRelay.Proofs.Dispatch.Fleet

/-!
# A pass by itself

One pass works on an outbox while nobody else does.  What it meets on its way is given: which
calls on the outbox fail, and what the vulnerability database answers, each of which may
depend on all that was done before.  A call that fails has no effect.

**Results.**
* `Recounts`: the rows of acts that a pass can make, each with the outcome of the pass and the
  entries that it leaves.
* `Scene.exists_recounts_runPass`: what a pass does, whatever it meets, is one of these rows.
* `Recounts.released`, `Recounts.untouched`, `Recounts.total`: what these rows have in common.
* `Scene.unmoved_runPass`: it makes no difference to a pass whether it could release its lock.
-/

namespace OutboxRelay
namespace Dispatch

open Store (TransactionId)

/-! ## What a pass does -/

/-- The acts by which a program of a parser comes to its result, by the replies in them. -/
inductive Plays {α : Type} : Replay.OnDownstream α → List Act → α → Prop
  | done (result : α) : Plays (.done result) [] result
  | note {rest : Replay.OnDownstream α} {acts : List Act} {result : α}
      (record : Journal.Record) (plays : Plays rest acts result) :
      Plays (.note record rest) acts result
  | call {made : Downstream.Call}
      {rest : Except DownstreamError made.Answer → Replay.OnDownstream α} {acts : List Act}
      {result : α} (reply : Except DownstreamError made.Answer)
      (plays : Plays (rest reply) acts result) :
      Plays (.call made rest) (.consult made reply :: acts) result

/-- The acts by which a pass has an entry resolved, with the result that it is told. -/
inductive Handles (entry : Entry) (result : Except EventError Unit) : List Act → Prop
  | intro {asked : List Act} (plays : Plays (Replay.apply entry) asked result) :
      Handles entry result (.hand entry :: asked ++ [.settle entry result])

/-- The acts by which a pass clears an entry: it is discarded or applied, and removed. -/
inductive Clears (limit : Option Int) (entry : Entry) : List Act → Prop
  | discards (exceeds : exceedsLimit limit entry = true) :
      Clears limit entry [.store (.remove entry.id) (.ok ())]
  | applies {acts : List Act} (within : exceedsLimit limit entry = false)
      (handles : Handles entry (.ok ()) acts) :
      Clears limit entry (acts ++ [.store (.remove entry.id) (.ok ())])

/-- The acts by which a pass clears some entries one after the other. -/
inductive ClearsAll (limit : Option Int) : List Entry → List Act → Prop
  | nil : ClearsAll limit [] []
  | cons {entry : Entry} {entries : List Entry} {acts more : List Act}
      (first : Clears limit entry acts) (others : ClearsAll limit entries more) :
      ClearsAll limit (entry :: entries) (acts ++ more)

/--
The acts by which a pass does not clear an entry, the outcome when so many were applied
before, and the entry as the pass leaves it.
-/
inductive Stops (limit : Option Int) (applied : Nat) (entry : Entry) :
    List Act → Outcome → Entry → Prop
  | undiscarded (exceeds : exceedsLimit limit entry = true) (failure : StoreError) :
      Stops limit applied entry [.store (.remove entry.id) (.error failure)]
        (.storeFailed applied) entry
  | unresolved {acts : List Act} {error : EventError}
      (within : exceedsLimit limit entry = false) (handles : Handles entry (.error error) acts)
      (now : Timestamp) :
      Stops limit applied entry (acts ++ [.store (.recordFailure entry.id) (.ok ())])
        (.halted applied entry.id)
        { entry with attempts := entry.attempts + 1, updatedAt := now }
  | uncounted {acts : List Act} {error : EventError}
      (within : exceedsLimit limit entry = false) (handles : Handles entry (.error error) acts)
      (failure : StoreError) :
      Stops limit applied entry (acts ++ [.store (.recordFailure entry.id) (.error failure)])
        (.halted applied entry.id) entry
  | unremoved {acts : List Act} (within : exceedsLimit limit entry = false)
      (handles : Handles entry (.ok ()) acts) (failure : StoreError) :
      Stops limit applied entry (acts ++ [.store (.remove entry.id) (.error failure)])
        (.storeFailed applied) entry

/-- How many of some entries are discarded when they are cleared. -/
def discardedOf (limit : Option Int) (entries : List Entry) : Nat :=
  entries.countP (exceedsLimit limit)

/-- How many of some entries are applied when they are cleared. -/
def appliedOf (limit : Option Int) (entries : List Entry) : Nat :=
  entries.countP fun entry => !exceedsLimit limit entry

/--
The acts by which a pass drains its entries when so many were applied and discarded before,
its outcome, and the entries that it leaves.  All entries are cleared, or those in front of
the first one that is not.
-/
inductive Drains (limit : Option Int) (applied discarded : Nat) (log : List Entry) :
    List Act → Outcome → List Entry → Prop
  | empties {acts : List Act} (clears : ClearsAll limit log acts) :
      Drains limit applied discarded log acts
        (.drained (applied + appliedOf limit log) (discarded + discardedOf limit log)) []
  | stops {cleared after : List Entry} {entry left : Entry} {acts last : List Act}
      {outcome : Outcome} (split : log = cleared ++ entry :: after)
      (clears : ClearsAll limit cleared acts)
      (stuck : Stops limit (applied + appliedOf limit cleared) entry last outcome left) :
      Drains limit applied discarded log (acts ++ last) outcome (left :: after)

/-- The acts of a pass over a log from its begin to its end, its outcome, and what it leaves. -/
inductive Recounts (settings : Settings) (log : List Entry) :
    List Act → Outcome → List Entry → Prop
  | lockUnavailable (failure : StoreError) :
      Recounts settings log [.store (.tryLock settings.lockId) (.error failure)]
        .lockUnavailable log
  | contended {lock : Lock TransactionId} (acquired : lock.acquired = false)
      (reply : Except StoreError Unit) :
      Recounts settings log
        ([.store (.tryLock settings.lockId) (.ok lock)] ++
          [.store (.release (some lock)) reply])
        .contended log
  | unread {lock : Lock TransactionId} (acquired : lock.acquired = true) (failure : StoreError)
      (reply : Except StoreError Unit) :
      Recounts settings log
        ([.store (.tryLock settings.lockId) (.ok lock), .store .entries (.error failure)] ++
          [.store (.release (some lock)) reply])
        (.storeFailed 0) log
  | settled {lock : Lock TransactionId} {acts : List Act} {outcome : Outcome}
      {left : List Entry} (acquired : lock.acquired = true)
      (drains : Drains settings.maxAttempts 0 0 log acts outcome left)
      (reply : Except StoreError Unit) :
      Recounts settings log
        (.store (.tryLock settings.lockId) (.ok lock) :: .store .entries (.ok log) :: acts ++
          [.store (.release (some lock)) reply])
        outcome left

/-! ## What all passes have in common -/

/-- Whether an act is part of how a pass settles an entry. -/
inductive Act.Settling (entry : Entry) : Act → Prop
  | hand : Settling entry (.hand entry)
  | consult (call : Downstream.Call) (reply : Except DownstreamError call.Answer) :
      Settling entry (.consult call reply)
  | settle (result : Except EventError Unit) : Settling entry (.settle entry result)
  | remove (reply : Except StoreError Unit) : Settling entry (.store (.remove entry.id) reply)
  | recordFailure (reply : Except StoreError Unit) :
      Settling entry (.store (.recordFailure entry.id) reply)

/-- Whether an act has an entry resolved, removes it, or counts an attempt at it. -/
def Act.Concerns (id : EntryId) : Act → Prop
  | .hand entry | .settle entry _ => entry.id = id
  | .store (.remove other) _ | .store (.recordFailure other) _ => other = id
  | .store (.removeOldest _) _ => True
  | _ => False

/-- Whether an act is an attempt to release a lock. -/
def Act.IsRelease : Act → Prop
  | .store (.release _) _ => True
  | _ => False

section Grammar

variable {settings : Settings} {limit : Option Int} {applied discarded : Nat}
variable {entry left : Entry} {entries log remaining : List Entry}
variable {acts : List Act} {outcome : Outcome}

theorem Act.Settling.not_isRelease {act : Act} (settling : act.Settling entry) :
    ¬ act.IsRelease := by
  cases settling <;> exact id

theorem Act.Settling.id_eq {act : Act} {id : EntryId} (settling : act.Settling entry)
    (concerns : act.Concerns id) :
    entry.id = id := by
  cases settling with
  | consult call reply => exact concerns.elim
  | _ => exact concerns

theorem Plays.settling {α : Type} {program : Replay.OnDownstream α} {result : α}
    (plays : Plays program acts result) :
    ∀ act ∈ acts, act.Settling entry := by
  induction plays with
  | done result => exact fun act member => absurd member List.not_mem_nil
  | note record plays ih => exact ih
  | call reply plays ih => exact List.forall_mem_cons.mpr ⟨.consult _ reply, ih⟩

theorem Handles.settling {result : Except EventError Unit} (handles : Handles entry result acts) :
    ∀ act ∈ acts, act.Settling entry := by
  obtain ⟨plays⟩ := handles
  rw [List.forall_mem_append, List.forall_mem_cons, List.forall_mem_singleton]
  exact ⟨⟨.hand, plays.settling⟩, .settle result⟩

theorem Clears.settling (clears : Clears limit entry acts) :
    ∀ act ∈ acts, act.Settling entry := by
  cases clears with
  | discards exceeds => exact List.forall_mem_singleton.mpr (.remove _)
  | applies within handles =>
      exact List.forall_mem_append.mpr
        ⟨handles.settling, List.forall_mem_singleton.mpr (.remove _)⟩

theorem Stops.settling (stops : Stops limit applied entry acts outcome left) :
    ∀ act ∈ acts, act.Settling entry := by
  cases stops with
  | undiscarded exceeds failure => exact List.forall_mem_singleton.mpr (.remove _)
  | unresolved within handles now =>
      exact List.forall_mem_append.mpr
        ⟨handles.settling, List.forall_mem_singleton.mpr (.recordFailure _)⟩
  | uncounted within handles failure =>
      exact List.forall_mem_append.mpr
        ⟨handles.settling, List.forall_mem_singleton.mpr (.recordFailure _)⟩
  | unremoved within handles failure =>
      exact List.forall_mem_append.mpr
        ⟨handles.settling, List.forall_mem_singleton.mpr (.remove _)⟩

theorem ClearsAll.settling (clears : ClearsAll limit entries acts) :
    ∀ act ∈ acts, ∃ entry ∈ entries, act.Settling entry := by
  induction clears with
  | nil => exact fun act member => absurd member List.not_mem_nil
  | cons first others ih =>
      rw [List.forall_mem_append]
      refine ⟨fun act member => ⟨_, List.mem_cons_self, first.settling act member⟩, ?_⟩
      intro act member
      obtain ⟨entry, among, settling⟩ := ih act member
      exact ⟨entry, List.mem_cons_of_mem _ among, settling⟩

/-- A pass settles no entry behind the first one that it leaves. -/
theorem Drains.settling (drains : Drains limit applied discarded log acts outcome remaining) :
    ∃ reached, log = reached ++ remaining.tail ∧
      ∀ act ∈ acts, ∃ entry ∈ reached, act.Settling entry := by
  cases drains with
  | empties clears => exact ⟨log, (List.append_nil log).symm, clears.settling⟩
  | @stops cleared after entry left acts last outcome split clears stuck =>
      refine ⟨cleared ++ [entry], split.trans (List.append_cons ..), ?_⟩
      rw [List.forall_mem_append]
      constructor
      · intro act member
        obtain ⟨entry, among, settling⟩ := clears.settling act member
        exact ⟨entry, List.mem_append_left _ among, settling⟩
      · exact fun act member => ⟨entry, by simp, stuck.settling act member⟩

/-- A lock that a pass was told of nowhere else is the one of its first act. -/
theorem lock_eq_of_told {key : LockId} {lock first : Lock TransactionId}
    (told : .store (.tryLock key) (.ok lock) ∈ .store (.tryLock key) (.ok first) :: acts)
    (elsewhere : .store (.tryLock key) (.ok lock) ∉ acts) :
    lock = first := by
  rcases List.mem_cons.mp told with same | member
  · cases same
    rfl
  · exact absurd member elsewhere

/-- A pass that was told of a lock releases that lock once, and does nothing behind that. -/
theorem Recounts.released {lock : Lock TransactionId}
    (recounts : Recounts settings log acts outcome remaining)
    (told : .store (.tryLock settings.lockId) (.ok lock) ∈ acts) :
    ∃ earlier reply, acts = earlier ++ [.store (.release (some lock)) reply] ∧
      ∀ act ∈ earlier, ¬ act.IsRelease := by
  cases recounts with
  | lockUnavailable failure => simp at told
  | contended acquired reply =>
      obtain rfl := lock_eq_of_told told nofun
      exact ⟨_, reply, rfl, by simp [Act.IsRelease]⟩
  | unread acquired failure reply =>
      obtain rfl := lock_eq_of_told told nofun
      exact ⟨_, reply, rfl, by simp [Act.IsRelease]⟩
  | @settled lock' acts outcome remaining acquired drains reply =>
      obtain ⟨reached, -, settling⟩ := drains.settling
      have elsewhere : Act.store (.tryLock settings.lockId) (.ok lock) ∉
          .store .entries (.ok log) :: acts ++ [.store (.release (some lock')) reply] := by
        rintro (_ | ⟨_, member⟩)
        rcases List.mem_append.mp member with member | last
        · obtain ⟨entry, -, settling⟩ := settling _ member
          cases settling
        · cases List.mem_singleton.mp last
      obtain rfl := lock_eq_of_told told elsewhere
      refine ⟨_, reply, rfl, ?_⟩
      rw [List.forall_mem_cons, List.forall_mem_cons]
      refine ⟨id, id, fun act member => ?_⟩
      obtain ⟨entry, -, settling⟩ := settling act member
      exact settling.not_isRelease

/-- Nothing that a pass does concerns an entry behind the first one that it leaves. -/
theorem Recounts.untouched (recounts : Recounts settings log acts outcome remaining)
    (distinct : (log.map Entry.id).Nodup) :
    ∀ entry ∈ remaining.tail, ∀ act ∈ acts, ¬ act.Concerns entry.id := by
  intro entry behind
  cases recounts with
  | lockUnavailable failure => simp [Act.Concerns]
  | contended acquired reply => simp [Act.Concerns]
  | unread acquired failure reply => simp [Act.Concerns]
  | settled acquired drains reply =>
      obtain ⟨reached, split, settling⟩ := drains.settling
      rw [split, List.map_append, List.nodup_append] at distinct
      rw [List.forall_mem_append, List.forall_mem_cons, List.forall_mem_cons,
        List.forall_mem_singleton]
      refine ⟨⟨id, id, fun act member concerns => ?_⟩, id⟩
      obtain ⟨settled, among, settling⟩ := settling act member
      exact distinct.2.2 _ (List.mem_map_of_mem among) _ (List.mem_map_of_mem behind)
        (settling.id_eq concerns)

theorem appliedOf_add_discardedOf (limit : Option Int) (entries : List Entry) :
    appliedOf limit entries + discardedOf limit entries = entries.length := by
  rw [Nat.add_comm, discardedOf, appliedOf]
  simpa using (entries.length_eq_countP_add_countP (exceedsLimit limit)).symm

/-- A pass that drained its log has applied or discarded each entry, and leaves none. -/
theorem Recounts.total (recounts : Recounts settings log acts (.drained applied discarded)
      remaining) :
    applied + discarded = log.length ∧ remaining = [] := by
  cases recounts with
  | settled acquired drains reply =>
      generalize drained : Outcome.drained applied discarded = outcome at drains
      cases drains with
      | empties clears =>
          obtain ⟨rfl, rfl⟩ := Outcome.drained.inj drained
          rw [Nat.zero_add, Nat.zero_add]
          exact ⟨appliedOf_add_discardedOf _ _, rfl⟩
      | stops split clears stuck =>
          subst drained
          cases stuck

/-- One more entry in front of those that a pass drains. -/
theorem Drains.cons {more : List Act} (first : Clears limit entry acts)
    (drains : Drains limit (applied + appliedOf limit [entry])
      (discarded + discardedOf limit [entry]) entries more outcome remaining) :
    Drains limit applied discarded (entry :: entries) (acts ++ more) outcome remaining := by
  have applied_eq (others : List Entry) : applied + appliedOf limit (entry :: others) =
      applied + appliedOf limit [entry] + appliedOf limit others := by
    simp only [appliedOf, List.countP_cons, List.countP_nil]
    omega
  have discarded_eq (others : List Entry) : discarded + discardedOf limit (entry :: others) =
      discarded + discardedOf limit [entry] + discardedOf limit others := by
    simp only [discardedOf, List.countP_cons, List.countP_nil]
    omega
  cases drains with
  | empties clears =>
      rw [← applied_eq, ← discarded_eq]
      exact .empties (.cons first clears)
  | stops split clears stuck =>
      rw [← applied_eq] at stuck
      rw [split, ← List.append_assoc]
      exact .stops rfl (.cons first clears) stuck

/-- A pass that does not clear its first entry leaves the others. -/
theorem Drains.first (stuck : Stops limit applied entry acts outcome left) :
    Drains limit applied discarded (entry :: entries) acts outcome (left :: entries) := by
  have split : entry :: entries = [] ++ entry :: entries := rfl
  exact .stops split .nil stuck

end Grammar

/-! ## What a pass meets -/

/-- What a pass meets when so much was done before, the last act first. -/
structure Surroundings where
  /-- The failure of a call on the outbox, if it fails. -/
  fault : List Act → Outbox.Call TransactionId → Option StoreError
  /-- What the vulnerability database answers. -/
  answer : List Act → (call : Downstream.Call) → Except DownstreamError call.Answer
  now : List Act → Timestamp

/-- Surroundings that differ at most in whether the lock can be released. -/
structure Surroundings.Like (around around' : Surroundings) : Prop where
  answer_eq : around'.answer = around.answer
  now_eq : around'.now = around.now
  fault_eq : ∀ history call, (∀ lock, call ≠ .release lock) →
    around'.fault history call = around.fault history call

/-- An outbox on which a pass works, and what the pass has done, the last act first. -/
structure Scene where
  outbox : Outbox.Shared
  history : List Act

namespace Scene

section Run

variable (around : Surroundings)

/-- Answers a call on the outbox. -/
def store (call : Outbox.Call TransactionId) (scene : Scene) :
    Except StoreError call.Answer × Scene :=
  match around.fault scene.history call with
  | some failure =>
      (.error failure, ⟨scene.outbox, .store call (.error failure) :: scene.history⟩)
  | none =>
      let answer := scene.outbox.answer call
      (.ok answer, ⟨scene.outbox.effect (around.now scene.history) call,
        .store call (.ok answer) :: scene.history⟩)

/-- Answers a call on the vulnerability database. -/
def consult (call : Downstream.Call) (scene : Scene) :
    Except DownstreamError call.Answer × Scene :=
  let reply := around.answer scene.history call
  (reply, ⟨scene.outbox, .consult call reply :: scene.history⟩)

/-- Runs a program on the vulnerability database. -/
def work {α : Type} (program : Replay.OnDownstream α) (scene : Scene) : α × Scene :=
  program.run (I := Downstream.interface) (m := StateM Scene) (consult around)
    (fun _ => pure ()) scene

/-- Has an entry resolved. -/
def replay (entry : Entry) (scene : Scene) : Except EventError Unit × Scene :=
  let (result, scene) :=
    work around (Replay.apply entry) ⟨scene.outbox, .hand entry :: scene.history⟩
  (result, ⟨scene.outbox, .settle entry result :: scene.history⟩)

/-- Answers a call of a pass. -/
def serve : (made : (interface TransactionId Replay.interface).Call) →
    StateM Scene ((interface TransactionId Replay.interface).Reply made)
  | .inl call => store around call
  | .inr entry => replay around entry

/-- Runs a program of a pass. -/
def conduct {α : Type} (program : OnOutbox TransactionId Replay.interface α) (scene : Scene) :
    α × Scene :=
  program.run (m := StateM Scene) (serve around) (fun _ => pure ()) scene

/-- Runs a pass. -/
def pass (settings : Settings) (scene : Scene) : Outcome × Scene :=
  conduct around (runPass Replay.count settings) scene

/-- A program of a pass makes some acts, and has a result and an outbox at its end. -/
def Leads {α : Type} (program : OnOutbox TransactionId Replay.interface α) (scene : Scene)
    (acts : List Act) (result : α) (outbox : Outbox.Shared) : Prop :=
  conduct around program scene = (result, ⟨outbox, acts.reverse ++ scene.history⟩)

end Run

section Leads

variable {around : Surroundings} {α β : Type} {scene : Scene} {outbox outbox' : Outbox.Shared}

theorem conduct_bind (program : OnOutbox TransactionId Replay.interface α)
    (next : α → OnOutbox TransactionId Replay.interface β) (scene : Scene) :
    conduct around (program >>= next) scene =
      conduct around (next (conduct around program scene).1) (conduct around program scene).2 := by
  induction program generalizing scene with
  | done result => rfl
  | note record rest ih => exact ih scene
  | call made rest ih => exact ih _ _

theorem Leads.bind {program : OnOutbox TransactionId Replay.interface α} {acts more : List Act}
    {next : α → OnOutbox TransactionId Replay.interface β} {result : α} {last : β}
    (first : Leads around program scene acts result outbox)
    (then_leads : Leads around (next result) ⟨outbox, acts.reverse ++ scene.history⟩ more last
      outbox') :
    Leads around (program >>= next) scene (acts ++ more) last outbox' := by
  unfold Leads at first then_leads ⊢
  rw [conduct_bind, first, then_leads, List.reverse_append, List.append_assoc]

/-- What a program does behind its last call changes nothing. -/
theorem Leads.bind_quiet {program : OnOutbox TransactionId Replay.interface α} {acts : List Act}
    {next : α → OnOutbox TransactionId Replay.interface β} {result : α} {last : β}
    (first : Leads around program scene acts result outbox)
    (then_leads : Leads around (next result) ⟨outbox, acts.reverse ++ scene.history⟩ [] last
      outbox) :
    Leads around (program >>= next) scene acts last outbox := by
  simpa using first.bind then_leads

variable (around)

/-- A call on the outbox fails without an effect, or has its effect. -/
theorem leads_onStore (call : Outbox.Call TransactionId) (scene : Scene) :
    (∃ failure, Leads around (onStore call) scene [.store call (.error failure)]
      (.error failure) scene.outbox) ∨
    ∃ now, Leads around (onStore call) scene [.store call (.ok (scene.outbox.answer call))]
      (.ok (scene.outbox.answer call)) (scene.outbox.effect now call) := by
  have served : conduct around (onStore call) scene = store around call scene := rfl
  unfold Leads
  rw [served]
  cases failed : around.fault scene.history call with
  | some failure => exact .inl ⟨failure, by simp [store, failed]⟩
  | none => exact .inr ⟨around.now scene.history, by simp [store, failed]⟩

theorem exists_plays_work (program : Replay.OnDownstream α) (scene : Scene) :
    ∃ asked, Plays program asked (work around program scene).1 ∧
      (work around program scene).2 = ⟨scene.outbox, asked.reverse ++ scene.history⟩ := by
  induction program generalizing scene with
  | done result => exact ⟨[], .done result, rfl⟩
  | note record rest ih =>
      obtain ⟨asked, plays, after⟩ := ih scene
      exact ⟨asked, .note record plays, after⟩
  | call made rest ih =>
      obtain ⟨asked, plays, after⟩ :=
        ih (consult around made scene).1 (consult around made scene).2
      refine ⟨.consult made (consult around made scene).1 :: asked, .call _ plays, ?_⟩
      refine after.trans ?_
      simp [consult]

/-- A parser that is handed an entry counts one if it could resolve it, and else none. -/
theorem exists_handles_count (entry : Entry) (scene : Scene) :
    ∃ acts result, Handles entry result acts ∧
      Leads around (Program.onSecond (Replay.count [entry])) scene acts
        (match result with
          | .ok () => 1
          | .error _ => 0)
        scene.outbox := by
  obtain ⟨asked, plays, worked⟩ := exists_plays_work around (Replay.apply entry)
    ⟨scene.outbox, .hand entry :: scene.history⟩
  refine ⟨_, _, .intro plays, ?_⟩
  generalize result_eq : (work around (Replay.apply entry) _).1 = result at plays ⊢
  have resolves : Leads around (Program.onSecond (Program.ask (I := Replay.interface) entry))
      scene (.hand entry :: asked ++ [Act.settle entry result]) result scene.outbox := by
    have after : (replay around entry scene) = (result, ⟨scene.outbox,
        (Act.hand entry :: asked ++ [Act.settle entry result]).reverse ++ scene.history⟩) := by
      simp [replay, worked, result_eq]
    exact after
  have split : Program.onSecond (J := Replay.interface) (I := Outbox.interface TransactionId)
      (Replay.count [entry]) =
        Program.onSecond (Program.ask (I := Replay.interface) entry) >>= _ :=
    Program.through_bind _ (Program.ask (I := Replay.interface) entry) _
  rw [split]
  refine resolves.bind_quiet ?_
  cases result <;> rfl

end Leads

/-! ## Whole passes -/

section Passes

variable (around : Surroundings) (settings : Settings) (limit : Option Int)

theorem exists_drains_drainFrom (applied discarded : Nat) (entries : List Entry) (scene : Scene)
    (distinct : (entries.map Entry.id).Nodup) (log_eq : scene.outbox.log = entries) :
    ∃ acts outcome outbox,
      Leads around (drainFrom Replay.count limit applied discarded entries) scene acts outcome
        outbox ∧
      Drains limit applied discarded entries acts outcome outbox.log := by
  induction entries generalizing applied discarded scene with
  | nil =>
      refine ⟨[], .drained applied discarded, scene.outbox, rfl, ?_⟩
      rw [log_eq]
      exact .empties .nil
  | cons entry rest ih =>
      have tail : (rest.map Entry.id).Nodup := (List.nodup_cons.mp distinct).2
      have removed_log (now : Timestamp) :
          (scene.outbox.effect now (.remove entry.id)).log = rest :=
        (congrArg _ log_eq).trans (Outbox.without_head distinct)
      have counted_log (now : Timestamp) :
          (scene.outbox.effect now (.recordFailure entry.id)).log =
            { entry with attempts := entry.attempts + 1, updatedAt := now } :: rest :=
        (congrArg _ log_eq).trans (Outbox.markFailed_head distinct)
      rw [drainFrom]
      by_cases exceeds : exceedsLimit limit entry = true
      · rw [if_pos exceeds]
        rcases leads_onStore around (.remove entry.id) scene with
          ⟨failure, failed⟩ | ⟨now, removed⟩
        · refine ⟨_, _, scene.outbox, failed.bind_quiet rfl, ?_⟩
          rw [log_eq]
          exact .first (.undiscarded exceeds failure)
        · obtain ⟨acts, outcome, outbox, run, drains⟩ :=
            ih applied (discarded + 1) ⟨_, _⟩ tail (removed_log now)
          refine ⟨_, outcome, outbox, removed.bind run, .cons (.discards exceeds) ?_⟩
          simpa [appliedOf, discardedOf, exceeds] using drains
      · have within : exceedsLimit limit entry = false := eq_false_of_ne_true exceeds
        rw [if_neg exceeds]
        obtain ⟨acts, result, handles, replayed⟩ :=
          exists_handles_count around entry scene
        cases result with
        | error error =>
            rcases leads_onStore around (.recordFailure entry.id) ⟨scene.outbox, _⟩
              with ⟨failure, failed⟩ | ⟨now, counted⟩
            · refine ⟨_, _, scene.outbox, replayed.bind (failed.bind_quiet rfl), ?_⟩
              rw [log_eq]
              exact .first (.uncounted within handles failure)
            · refine ⟨_, _, scene.outbox.effect now (.recordFailure entry.id),
                replayed.bind (counted.bind_quiet rfl), ?_⟩
              rw [counted_log]
              exact .first (.unresolved within handles now)
        | ok answer =>
            rcases leads_onStore around (.remove entry.id) ⟨scene.outbox, _⟩
              with ⟨failure, failed⟩ | ⟨now, removed⟩
            · refine ⟨_, _, scene.outbox, replayed.bind (failed.bind_quiet rfl), ?_⟩
              rw [log_eq]
              exact .first (.unremoved within handles failure)
            · obtain ⟨more, outcome, outbox, run, drains⟩ :=
                ih (applied + 1) discarded ⟨_, _⟩ tail (removed_log now)
              refine ⟨_, outcome, outbox, replayed.bind (removed.bind run), ?_⟩
              rw [← List.append_assoc]
              refine .cons (.applies within handles) ?_
              simpa [appliedOf, discardedOf, within] using drains

theorem leads_reportDrained (outcome : Outcome) (scene : Scene) :
    Leads around (reportDrained outcome >>= fun _ => pure outcome) scene [] outcome
      scene.outbox := by
  cases outcome with
  | drained applied discarded =>
      simp only [reportDrained]
      split <;> rfl
  | _ => rfl

theorem leads_reportRefused (scene : Scene) :
    Leads around
      (Program.log (record .debug "dispatch lock held by another instance"
        [("lock_id", .text (toString settings.lockId))]) >>= fun _ => pure .contended)
      scene [] Outcome.contended scene.outbox := by
  rfl

/-- A pass that has only its lock to release ends as it would, whether or not it can. -/
theorem exists_leads_release {last : OnOutbox TransactionId Replay.interface Outcome}
    {outcome : Outcome} (ends : ∀ scene, Leads around last scene [] outcome scene.outbox)
    (lock : Lock TransactionId) (scene : Scene) :
    ∃ reply outbox,
      Leads around (release lock >>= fun _ => last) scene [.store (.release (some lock)) reply]
        outcome outbox ∧
      outbox.log = scene.outbox.log := by
  rcases leads_onStore around (.release (some lock)) scene with
    ⟨failure, failed⟩ | ⟨now, released⟩
  · have failed : Leads around (release lock) scene _ () scene.outbox := failed.bind_quiet rfl
    exact ⟨_, scene.outbox, failed.bind_quiet (ends _), rfl⟩
  · have released : Leads around (release lock) scene _ () _ := released.bind_quiet rfl
    exact ⟨_, _, released.bind_quiet (ends _), rfl⟩

/-- With the lock, a pass reads the entries and drains them. -/
theorem exists_leads_drain (scene : Scene) (distinct : (scene.outbox.log.map Entry.id).Nodup) :
    (∃ failure, Leads around (drain Replay.count limit) scene
      [.store .entries (.error failure)] (.storeFailed 0) scene.outbox) ∨
    ∃ acts outcome outbox,
      Leads around (drain Replay.count limit) scene
        (.store .entries (.ok scene.outbox.log) :: acts) outcome outbox ∧
      Drains limit 0 0 scene.outbox.log acts outcome outbox.log := by
  rw [drain]
  rcases leads_onStore around .entries scene with ⟨failure, failed⟩ | ⟨now, read⟩
  · exact .inl ⟨failure, failed.bind_quiet rfl⟩
  · obtain ⟨acts, outcome, outbox, run, drains⟩ :=
      exists_drains_drainFrom around limit 0 0 scene.outbox.log
        ⟨scene.outbox, .store .entries (.ok scene.outbox.log) :: scene.history⟩ distinct rfl
    exact .inr ⟨acts, outcome, outbox, read.bind run, drains⟩

/-- A pass that has the lock drains what it can and releases the lock. -/
theorem exists_leads_acquired (lock : Lock TransactionId) (scene : Scene)
    (distinct : (scene.outbox.log.map Entry.id).Nodup) :
    ∃ acts reply outcome outbox,
      Leads around
        (drain Replay.count limit >>= fun outcome => release lock >>= fun _ =>
          reportDrained outcome >>= fun _ => pure outcome)
        scene (acts ++ [.store (.release (some lock)) reply]) outcome outbox ∧
      ((∃ failure, acts = [.store .entries (.error failure)] ∧ outcome = .storeFailed 0 ∧
          outbox.log = scene.outbox.log) ∨
        ∃ more, acts = .store .entries (.ok scene.outbox.log) :: more ∧
          Drains limit 0 0 scene.outbox.log more outcome outbox.log) := by
  rcases exists_leads_drain around limit scene distinct with
    ⟨failure, failed⟩ | ⟨acts, outcome, outbox, run, drains⟩
  · obtain ⟨reply, outbox, released, log_eq⟩ :=
      exists_leads_release around (leads_reportDrained around (.storeFailed 0)) lock
        ⟨scene.outbox, _⟩
    exact ⟨_, reply, _, outbox, failed.bind released, .inl ⟨failure, rfl, rfl, log_eq⟩⟩
  · obtain ⟨reply, outbox', released, log_eq⟩ :=
      exists_leads_release around (leads_reportDrained around outcome) lock ⟨outbox, _⟩
    refine ⟨_, reply, _, outbox', run.bind released, .inr ⟨acts, rfl, ?_⟩⟩
    rw [log_eq]
    exact drains

/-- Whatever a pass meets, it does what is recounted of passes. -/
theorem exists_recounts_runPass (scene : Scene)
    (distinct : (scene.outbox.log.map Entry.id).Nodup) :
    ∃ acts outcome outbox,
      Leads around (runPass Replay.count settings) scene acts outcome outbox ∧
      Recounts settings scene.outbox.log acts outcome outbox.log := by
  rw [runPass]
  rcases leads_onStore around (.tryLock settings.lockId) scene with
    ⟨failure, failed⟩ | ⟨now, locked⟩
  · exact ⟨_, _, scene.outbox, failed.bind_quiet rfl, .lockUnavailable failure⟩
  generalize (scene.outbox.answer (.tryLock settings.lockId) : Lock TransactionId) = lock at locked
  let taken := scene.outbox.effect now (.tryLock settings.lockId)
  cases acquired : lock.acquired with
  | false =>
      obtain ⟨reply, outbox, released, log_eq⟩ :=
        exists_leads_release around (leads_reportRefused around settings) lock
          ⟨taken, .store (.tryLock settings.lockId) (.ok lock) :: scene.history⟩
      have recounts : Recounts settings scene.outbox.log
          ([.store (.tryLock settings.lockId) (.ok lock)] ++
            [.store (.release (some lock)) reply]) .contended outbox.log := by
        rw [log_eq]
        exact .contended acquired reply
      refine ⟨_, .contended, outbox, Leads.bind locked ?_, recounts⟩
      simp only [acquired, Bool.false_eq_true, if_false]
      exact released
  | true =>
      obtain ⟨acts, reply, outcome, outbox, run, settled⟩ :=
        exists_leads_acquired around settings.maxAttempts lock
          ⟨taken, .store (.tryLock settings.lockId) (.ok lock) :: scene.history⟩ distinct
      have recounts : Recounts settings scene.outbox.log
          ([.store (.tryLock settings.lockId) (.ok lock)] ++
            (acts ++ [.store (.release (some lock)) reply])) outcome outbox.log := by
        rcases settled with ⟨failure, rfl, rfl, log_eq⟩ | ⟨more, rfl, drains⟩
        · rw [log_eq]
          exact .unread acquired failure reply
        · exact .settled acquired drains reply
      refine ⟨_, outcome, outbox, Leads.bind locked ?_, recounts⟩
      simp only [acquired, if_true]
      exact run

end Passes

/-! ## Locks that cannot be released -/

/-- Whether a program releases no lock, whatever it is told. -/
def Holds {α : Type} : OnOutbox TransactionId Replay.interface α → Prop
  | .done _ => True
  | .note _ rest => Holds rest
  | .call made rest => (∀ lock, made ≠ .inl (.release lock)) ∧ ∀ reply, Holds (rest reply)

section Unmoved

variable {around around' : Surroundings} {limit : Option Int} {α β : Type}

theorem Holds.bind {program : OnOutbox TransactionId Replay.interface α}
    {next : α → OnOutbox TransactionId Replay.interface β} (holds : Holds program)
    (then_holds : ∀ result, Holds (next result)) :
    Holds (program >>= next) := by
  induction program with
  | done result => exact then_holds result
  | note record rest ih => exact ih holds
  | call made rest ih => exact ⟨holds.1, fun reply => ih reply (holds.2 reply)⟩

theorem holds_onStore {call : Outbox.Call TransactionId} (other : ∀ lock, call ≠ .release lock) :
    Holds (onStore call) := by
  refine ⟨fun lock same => other lock (Sum.inl.inj same), fun reply => trivial⟩

theorem holds_onSecond (program : Program Replay.interface α) :
    Holds (Program.onSecond program) := by
  induction program with
  | done result => trivial
  | note record rest ih => exact ih
  | call made rest ih => exact ⟨nofun, ih⟩

theorem holds_drainFrom (applied discarded : Nat) (entries : List Entry) :
    Holds (drainFrom Replay.count limit applied discarded entries) := by
  induction entries generalizing applied discarded with
  | nil => trivial
  | cons entry rest ih =>
      rw [drainFrom]
      split
      · refine Holds.bind (holds_onStore nofun) fun reply => ?_
        cases reply with
        | error failure => trivial
        | ok answer => exact ih _ _
      · refine (holds_onSecond _).bind fun resolved => ?_
        split
        · refine Holds.bind (holds_onStore nofun) fun reply => ?_
          cases reply <;> trivial
        · refine Holds.bind (holds_onStore nofun) fun reply => ?_
          cases reply with
          | error failure => trivial
          | ok answer => exact ih _ _

theorem holds_drain : Holds (drain Replay.count limit) := by
  refine Holds.bind (holds_onStore nofun) fun reply => ?_
  cases reply with
  | error failure => trivial
  | ok entries => exact holds_drainFrom 0 0 entries

theorem serve_eq (like : around.Like around')
    {made : (interface TransactionId Replay.interface).Call}
    (other : ∀ lock, made ≠ .inl (.release lock)) (scene : Scene) :
    serve around' made scene = serve around made scene := by
  cases made with
  | inl call =>
      have fault_eq := like.fault_eq scene.history call fun lock same =>
        other lock (congrArg Sum.inl same)
      simp only [serve, store, fault_eq, like.now_eq]
      rfl
  | inr entry =>
      have consult_eq : consult around' = consult around := by
        funext call scene
        simp only [consult, like.answer_eq]
      simp only [serve, replay, work, consult_eq]
      rfl

theorem Holds.conduct_eq {program : OnOutbox TransactionId Replay.interface α}
    (holds : Holds program) (like : around.Like around') (scene : Scene) :
    conduct around' program scene = conduct around program scene := by
  induction program generalizing scene with
  | done result => rfl
  | note record rest ih => exact ih holds scene
  | call made rest ih =>
      have served := serve_eq like holds.1 scene
      refine (ih _ (holds.2 _) _).trans ?_
      exact congrArg (fun after : _ × Scene => conduct around (rest after.1) after.2) served

/-- Whether the release of a lock makes no difference to a program. -/
def Unmoved (around around' : Surroundings)
    (program : OnOutbox TransactionId Replay.interface α) : Prop :=
  ∀ scene, (conduct around' program scene).1 = (conduct around program scene).1 ∧
    (conduct around' program scene).2.outbox.log = (conduct around program scene).2.outbox.log

theorem Holds.unmoved_bind {program : OnOutbox TransactionId Replay.interface α}
    {next : α → OnOutbox TransactionId Replay.interface β} (holds : Holds program)
    (like : around.Like around') (rest : ∀ result, Unmoved around around' (next result)) :
    Unmoved around around' (program >>= next) := by
  intro scene
  rw [conduct_bind, conduct_bind, holds.conduct_eq like]
  exact rest _ _

theorem unmoved_release {last : OnOutbox TransactionId Replay.interface Outcome}
    {outcome : Outcome} (ends : ∀ around scene, Leads around last scene [] outcome scene.outbox)
    (lock : Lock TransactionId) :
    Unmoved around around' (release lock >>= fun _ => last) := by
  intro scene
  obtain ⟨_, _, run, log_eq⟩ := exists_leads_release around (ends around) lock scene
  obtain ⟨_, _, run', log_eq'⟩ := exists_leads_release around' (ends around') lock scene
  unfold Leads at run run'
  rw [run, run']
  exact ⟨rfl, log_eq'.trans log_eq.symm⟩

/-- Whether a pass can release its lock matters neither to its outcome nor to the entries. -/
theorem unmoved_runPass (like : around.Like around') (settings : Settings) :
    Unmoved around around' (runPass Replay.count settings) := by
  refine Holds.unmoved_bind (holds_onStore nofun) like fun reply => ?_
  cases reply with
  | error failure => exact fun _ => ⟨rfl, rfl⟩
  | ok lock =>
      by_cases acquired : Lock.acquired lock = true
      · simp only [acquired, if_true]
        refine holds_drain.unmoved_bind like fun outcome => ?_
        exact unmoved_release (fun around scene => leads_reportDrained around outcome scene) lock
      · simp only [acquired]
        exact unmoved_release (fun around => leads_reportRefused around settings) lock

end Unmoved

/-- What is true of a pass that works on an outbox by itself. -/
structure Exact (around : Surroundings) (settings : Settings) (scene : Scene) (acts : List Act)
    (outcome : Outcome) (outbox : Outbox.Shared) : Prop where
  /-- The pass does just this. -/
  pass_eq : pass around settings scene = (outcome, ⟨outbox, acts.reverse ++ scene.history⟩)
  recounts : Recounts settings scene.outbox.log acts outcome outbox.log
  /-- The lock that it was told of is released once, and last of all. -/
  released : ∀ lock, .store (.tryLock settings.lockId) (.ok lock) ∈ acts →
    ∃ earlier reply, acts = earlier ++ [.store (.release (some lock)) reply] ∧
      ∀ act ∈ earlier, ¬ act.IsRelease
  /-- Nothing is done about an entry behind the first one that is left. -/
  untouched : ∀ entry ∈ outbox.log.tail, ∀ act ∈ acts, ¬ act.Concerns entry.id
  total : ∀ applied discarded, outcome = .drained applied discarded →
    applied + discarded = scene.outbox.log.length ∧ outbox.log = []
  /-- Whether the lock could be released makes no difference. -/
  unmoved : ∀ around', around.Like around' →
    (pass around' settings scene).1 = outcome ∧
      (pass around' settings scene).2.outbox.log = outbox.log

/-- A pass that works on an outbox by itself does exactly what is recounted of passes. -/
theorem exists_exact_pass (around : Surroundings) (settings : Settings) (scene : Scene)
    (distinct : (scene.outbox.log.map Entry.id).Nodup) :
    ∃ acts outcome outbox, Exact around settings scene acts outcome outbox := by
  obtain ⟨acts, outcome, outbox, run, recounts⟩ :=
    exists_recounts_runPass around settings scene distinct
  have pass_eq : pass around settings scene = _ := run
  refine ⟨acts, outcome, outbox, pass_eq, recounts, fun lock told => recounts.released told,
    recounts.untouched distinct, ?_, ?_⟩
  · rintro applied discarded rfl
    exact recounts.total
  · intro around' like
    have unmoved := unmoved_runPass like settings scene
    rw [← pass, ← pass, pass_eq] at unmoved
    exact unmoved

/-- Surroundings in which nothing fails but the release of a lock. -/
def unreleased : Surroundings where
  fault := fun _ call =>
    match call with
    | .release _ => some Outbox.Memory.failure
    | _ => none
  answer := fun _ call =>
    match call with
    | .targets _ => .ok []
    | .createTarget identifier tags => .ok ⟨identifier, identifier, tags⟩
    | .updateFinding .. | .deleteTag .. | .deleteTargetTag .. => .ok ()
  now := fun _ => 0

/-- A pass that applies one entry, is stopped by the next, and cannot release its lock. -/
theorem exact_of_halted_pass :
    ∃ acts outbox, Exact unreleased .default
      ⟨.ofEntries [farewell, { farewell with id := ⟨1⟩, action := "nonsense" },
        { farewell with id := ⟨2⟩ }], []⟩ acts (.halted 1 ⟨1⟩) outbox := by
  obtain ⟨acts, outcome, outbox, exact⟩ := exists_exact_pass unreleased .default
    ⟨.ofEntries [farewell, { farewell with id := ⟨1⟩, action := "nonsense" },
      { farewell with id := ⟨2⟩ }], []⟩ (by decide)
  have halted : (pass unreleased .default _).1 = _ := congrArg Prod.fst exact.pass_eq
  obtain rfl : Outcome.halted 1 ⟨1⟩ = outcome := Eq.trans (by decide +kernel) halted
  exact ⟨acts, outbox, exact⟩

end Scene

end Dispatch
end OutboxRelay
