import OutboxRelay.Proofs.Dispatch.Accounts
import OutboxRelay.Proofs.Dispatch.Solitary
import Mathlib.Algebra.Ring.Nat

/-!
# A limit to attempts

A dispatcher that is told a limit makes one pass after the other over an outbox that does not
fail, and nothing enters.  The vulnerability database may answer as it likes.  Each pass empties
the outbox or uses up one of the attempts that its entries have left, so that no entry can block
those behind it for ever.

**Results.**
* `Carries`: the acts of a pass tell which outbox it leaves when no call fails.
* `Drains.empties_or_halts`: such a pass clears all entries, or fails at one that it leaves.
* `Scene.Tried.pass`: what a pass adds to the account of the failed attempts.
* `Scene.limited_passes`: all that the limit means for a row of passes.
-/

namespace OutboxRelay
namespace Dispatch

open Store (TransactionId)
open Outbox (Shared)

/-! ## Passes whose calls on the outbox work -/

/-- Surroundings in which no call on the outbox fails. -/
def Surroundings.Steady (around : Surroundings) : Prop :=
  ∀ history call, around.fault history call = none

/-- Whether an act is no call on the outbox. -/
def Act.Aside : Act → Prop
  | .store .. => False
  | _ => True

/-- Whether an act is no call on the outbox that failed. -/
def Act.Served : Act → Prop
  | .store _ reply => ∃ answer, reply = .ok answer
  | _ => True

/-- Acts lead from one outbox to another one, and each call in them works. -/
inductive Carries : Shared → List Act → Shared → Prop
  | nil (s : Shared) : Carries s [] s
  | store {s s' : Shared} {acts : List Act} (now : Timestamp)
      (call : Outbox.Call TransactionId) (rest : Carries (s.effect now call) acts s') :
      Carries s (.store call (.ok (s.answer call)) :: acts) s'
  | aside {s s' : Shared} {act : Act} {acts : List Act} (off : act.Aside)
      (rest : Carries s acts s') :
      Carries s (act :: acts) s'

section Carries

variable {s s' : Shared} {acts more : List Act}

theorem Plays.aside {α : Type} {program : Replay.OnDownstream α} {result : α}
    (plays : Plays program acts result) :
    ∀ act ∈ acts, act.Aside := by
  induction plays with
  | done result => exact fun act member => absurd member List.not_mem_nil
  | note record plays ih => exact ih
  | call reply plays ih => exact List.forall_mem_cons.mpr ⟨trivial, ih⟩

theorem carries_of_aside (off : ∀ act ∈ acts, act.Aside) : Carries s acts s := by
  induction acts with
  | nil => exact .nil s
  | cons act acts ih =>
      rw [List.forall_mem_cons] at off
      exact .aside off.1 (ih off.2)

theorem Carries.append {middle : Shared} (first : Carries s acts middle)
    (then_carries : Carries middle more s') :
    Carries s (acts ++ more) s' := by
  induction first with
  | nil s => exact then_carries
  | store now call rest ih => exact .store now call (ih then_carries)
  | aside off rest ih => exact .aside off (ih then_carries)

theorem Carries.exists_middle (carries : Carries s (acts ++ more) s') :
    ∃ middle, Carries s acts middle ∧ Carries middle more s' := by
  induction acts generalizing s with
  | nil => exact ⟨s, .nil s, carries⟩
  | cons act acts ih =>
      cases carries with
      | store now call rest =>
          obtain ⟨middle, first, last⟩ := ih rest
          exact ⟨middle, .store now call first, last⟩
      | aside off rest =>
          obtain ⟨middle, first, last⟩ := ih rest
          exact ⟨middle, .aside off first, last⟩

theorem Carries.served (carries : Carries s acts s') : ∀ act ∈ acts, act.Served := by
  induction carries with
  | nil s => exact fun act member => absurd member List.not_mem_nil
  | store now call rest ih => exact List.forall_mem_cons.mpr ⟨⟨_, rfl⟩, ih⟩
  | @aside s s' act acts off rest ih =>
      refine List.forall_mem_cons.mpr ⟨?_, ih⟩
      cases act with
      | store call reply => exact off.elim
      | _ => trivial

/-- A call that works has been answered, and has had its effect. -/
theorem Carries.exists_of_store {call : Outbox.Call TransactionId}
    {reply : Except StoreError call.Answer} (carries : Carries s (.store call reply :: acts) s') :
    reply = .ok (s.answer call) ∧ ∃ now, Carries (s.effect now call) acts s' := by
  cases carries with
  | store now call rest => exact ⟨rfl, now, rest⟩
  | aside off rest => exact off.elim

theorem Carries.holder_eq (carries : Carries s acts s') (off : ∀ act ∈ acts, ¬ act.OnLock) :
    s'.holder = s.holder := by
  induction carries with
  | nil s => rfl
  | @store s s' acts now call rest ih =>
      rw [List.forall_mem_cons] at off
      have served : s.Serves .any call (.ok (s.answer call)) (s.effect now call) := ⟨rfl, now, rfl⟩
      rw [ih off.2]
      exact (served.lock_eq (not_or.mp off.1)).1
  | aside _ rest ih => exact ih (List.forall_mem_cons.mp off).2

end Carries

section Steady

variable {around : Surroundings} {settings : Settings} {scene : Scene}

namespace Scene

/-- What a party has done tells which outbox it leaves. -/
theorem exists_carries_serve (steady : around.Steady)
    (made : (interface TransactionId Replay.interface).Call) (scene : Scene) :
    ∃ acts, (serve around made scene).2.history = acts.reverse ++ scene.history ∧
      Carries scene.outbox acts (serve around made scene).2.outbox := by
  cases made with
  | inl call =>
      have served : (store around call scene).2 =
          ⟨scene.outbox.effect (around.now scene.history) call,
            .store call (.ok (scene.outbox.answer call)) :: scene.history⟩ := by
        simp [store, steady scene.history call]
      refine ⟨[.store call (.ok (scene.outbox.answer call))], congrArg history served, ?_⟩
      show Carries scene.outbox _ (store around call scene).2.outbox
      rw [served]
      exact .store _ call (.nil _)
  | inr entry =>
      obtain ⟨asked, plays, worked⟩ := exists_plays_work around (Replay.apply entry)
        ⟨scene.outbox, .hand entry :: scene.history⟩
      have replayed : (replay around entry scene).2 = ⟨scene.outbox,
          (Act.hand entry :: asked ++ [Act.settle entry (replay around entry scene).1]).reverse ++
            scene.history⟩ := by
        simp [replay, worked]
      refine ⟨_, congrArg history replayed, ?_⟩
      show Carries scene.outbox _ (replay around entry scene).2.outbox
      rw [replayed]
      refine carries_of_aside ?_
      rw [List.forall_mem_append, List.forall_mem_cons, List.forall_mem_singleton]
      exact ⟨⟨trivial, plays.aside⟩, trivial⟩

/-- What a program has done tells which outbox it leaves. -/
theorem exists_carries_conduct {α : Type} (steady : around.Steady)
    (program : OnOutbox TransactionId Replay.interface α) (scene : Scene) :
    ∃ acts, (conduct around program scene).2.history = acts.reverse ++ scene.history ∧
      Carries scene.outbox acts (conduct around program scene).2.outbox := by
  induction program generalizing scene with
  | done result => exact ⟨[], rfl, .nil _⟩
  | note record rest ih => exact ih scene
  | call made rest ih =>
      obtain ⟨acts, first_eq, first⟩ := exists_carries_serve steady made scene
      obtain ⟨more, history_eq, last⟩ :=
        ih (serve around made scene).1 (serve around made scene).2
      refine ⟨acts ++ more, ?_, first.append last⟩
      rw [List.reverse_append, List.append_assoc, ← first_eq]
      exact history_eq

/--
A pass that finds the lock free and whose calls work drains its entries, and leaves the lock
free again.
-/
theorem exists_drains_pass (steady : around.Steady)
    (distinct : (scene.outbox.log.map Entry.id).Nodup)
    (free : scene.outbox.holder settings.lockId = none) :
    ∃ lock acts reply outcome outbox,
      pass around settings scene = (outcome, ⟨outbox,
        (.store (.tryLock settings.lockId) (.ok lock) ::
          .store .entries (.ok scene.outbox.log) :: acts ++
            [Act.store (.release (some lock)) reply]).reverse ++ scene.history⟩) ∧
      Drains settings.maxAttempts 0 0 scene.outbox.log acts outcome outbox.log ∧
      (∀ act ∈ acts, act.Served) ∧ outbox.holder settings.lockId = none := by
  obtain ⟨acts, outcome, outbox, run, recounts⟩ :=
    exists_recounts_runPass around settings scene distinct
  obtain ⟨acts', history_eq, carries⟩ :=
    exists_carries_conduct steady (runPass Replay.count settings) scene
  unfold Leads at run
  rw [run] at history_eq carries
  obtain rfl : acts = acts' :=
    List.reverse_injective (List.append_cancel_right history_eq)
  generalize left_eq : outbox.log = left at recounts
  cases recounts with
  | lockUnavailable failure => cases carries.exists_of_store.1
  | contended acquired reply =>
      obtain ⟨answered, -⟩ := carries.exists_of_store
      cases answered
      simp [Shared.answer, free] at acquired
  | unread acquired failure reply =>
      obtain ⟨-, now, carries⟩ := carries.exists_of_store
      cases carries.exists_of_store.1
  | @settled lock acts outcome remaining acquired drains reply =>
      refine ⟨lock, acts, reply, outcome, outbox, run, left_eq.symm ▸ drains, ?_, ?_⟩
      · exact fun act member => carries.served act (by simp [member])
      · obtain ⟨answered, now, carries⟩ := carries.exists_of_store
        obtain ⟨-, later, carries⟩ := carries.exists_of_store
        obtain ⟨middle, working, closing⟩ := carries.exists_middle
        obtain ⟨-, last, ends⟩ := closing.exists_of_store
        cases ends
        obtain ⟨reached, -, settling⟩ := drains.settling
        have kept : middle.holder = (scene.outbox.attempt settings.lockId).holder := by
          refine working.holder_eq fun act member => ?_
          obtain ⟨entry, -, settles⟩ := settling act member
          cases settles <;> simp [Act.OnLock, Outbox.Call.kind]
        cases answered
        simp [kept, Shared.attempt, Shared.answer, free]

end Scene

end Steady

/-! ## The account of failed attempts -/

/-- Whether an act tells that an entry could not be resolved. -/
def Act.fails (id : EntryId) : Act → Bool
  | .settle entry (.error _) => entry.id = id
  | _ => false

/-- How often an entry could not be resolved. -/
def failures (id : EntryId) (acts : List Act) : Nat :=
  acts.countP (Act.fails id)

/-- How many attempts some entries have left together. -/
def allowance (limit : Int) (entries : List Entry) : Nat :=
  (entries.map fun entry => (limit - entry.attempts).toNat).sum

section Account

variable {limit : Option Int} {entry : Entry} {entries log remaining : List Entry}
variable {acts more : List Act} {applied discarded : Nat} {outcome : Outcome} {id : EntryId}

theorem failures_append (id : EntryId) (acts more : List Act) :
    failures id (acts ++ more) = failures id acts + failures id more := by
  exact List.countP_append

theorem failures_reverse (id : EntryId) (acts : List Act) :
    failures id acts.reverse = failures id acts := by
  exact List.countP_reverse

theorem allowance_append (limit : Int) (entries more : List Entry) :
    allowance limit (entries ++ more) = allowance limit entries + allowance limit more := by
  simp [allowance]

theorem Plays.failures_eq {α : Type} {program : Replay.OnDownstream α} {result : α}
    (plays : Plays program acts result) :
    failures id acts = 0 := by
  induction plays with
  | done result => rfl
  | note record plays ih => exact ih
  | call reply plays ih => exact ih

theorem Handles.failures_eq {result : Except EventError Unit}
    (handles : Handles entry result acts) :
    failures id acts = failures id [.settle entry result] := by
  obtain ⟨plays⟩ := handles
  rw [List.cons_append]
  refine (failures_append id (.hand entry :: _) _).trans ?_
  exact (congrArg (· + _) plays.failures_eq).trans (Nat.zero_add _)

theorem Clears.failures_eq (clears : Clears limit entry acts) : failures id acts = 0 := by
  cases clears with
  | discards exceeds => rfl
  | applies within handles => rw [failures_append, handles.failures_eq]; rfl

theorem ClearsAll.failures_eq (clears : ClearsAll limit entries acts) : failures id acts = 0 := by
  induction clears with
  | nil => rfl
  | cons first others ih => rw [failures_append, first.failures_eq, ih]

/-- A pass whose calls work clears all its entries, or fails at one and counts that. -/
theorem Drains.empties_or_halts
    (drains : Drains limit applied discarded log acts outcome remaining)
    (served : ∀ act ∈ acts, act.Served) :
    (ClearsAll limit log acts ∧ remaining = []) ∨
    ∃ cleared entry after first last error now,
      log = cleared ++ entry :: after ∧
      acts = first ++ (last ++ [.store (.recordFailure entry.id) (.ok ())]) ∧
      ClearsAll limit cleared first ∧ exceedsLimit limit entry = false ∧
      Handles entry (.error error) last ∧
      remaining = { entry with attempts := entry.attempts + 1, updatedAt := now } :: after := by
  cases drains with
  | empties clears => exact .inl ⟨clears, rfl⟩
  | @stops cleared after entry left first last outcome split clears stuck =>
      have works (failure : StoreError) (call : Outbox.Call TransactionId) :
          Act.store call (.error failure) ∉ last := by
        intro member
        obtain ⟨answer, same⟩ := served _ (List.mem_append_right _ member)
        cases same
      cases stuck with
      | undiscarded exceeds failure => exact absurd (List.mem_singleton_self _) (works failure _)
      | uncounted within handles failure =>
          exact absurd (List.mem_append_right _ (List.mem_singleton_self _)) (works failure _)
      | unremoved within handles failure =>
          exact absurd (List.mem_append_right _ (List.mem_singleton_self _)) (works failure _)
      | unresolved within handles now =>
          exact .inr ⟨cleared, entry, after, first, _, _, now, split, rfl, clears, within, handles,
            rfl⟩

/-- A pass whose calls work empties the outbox, or uses up an attempt. -/
theorem Drains.allowance_lt {limit : Int}
    (drains : Drains (some limit) applied discarded log acts outcome remaining)
    (served : ∀ act ∈ acts, act.Served) :
    remaining = [] ∨ allowance limit remaining < allowance limit log := by
  rcases drains.empties_or_halts served with
    ⟨-, gone⟩ | ⟨cleared, entry, after, _, _, _, now, rfl, -, -, within, -, rfl⟩
  · exact .inl gone
  · have below : entry.attempts < limit := by simpa [exceedsLimit] using within
    right
    rw [allowance_append]
    simp only [allowance, List.map_cons, List.sum_cons]
    omega

/-- A pass whose calls work fails at most once, at an entry that has attempts left. -/
theorem Drains.failures_cases {limit : Int}
    (drains : Drains (some limit) applied discarded log acts outcome remaining)
    (served : ∀ act ∈ acts, act.Served) (distinct : (log.map Entry.id).Nodup) (id : EntryId) :
    (failures id acts = 0 ∧ ∀ left ∈ remaining, left.id = id → left ∈ log) ∨
    (failures id acts = 1 ∧ ∃ entry ∈ log, entry.id = id ∧ entry.attempts < limit ∧
      ∀ left ∈ remaining, left.id = id → left.attempts = entry.attempts + 1) := by
  rcases drains.empties_or_halts served with
    ⟨clears, rfl⟩ | ⟨cleared, entry, after, first, last, error, now, rfl, rfl, clears, within,
      handles, rfl⟩
  · exact .inl ⟨clears.failures_eq, fun left member => absurd member List.not_mem_nil⟩
  · have failures_eq : failures id (first ++ (last ++
        [.store (.recordFailure entry.id) (.ok ())])) = if entry.id = id then 1 else 0 := by
      rw [failures_append, failures_append, clears.failures_eq, handles.failures_eq]
      simp [failures, Act.fails, List.countP_cons]
    rw [failures_eq]
    by_cases same : entry.id = id
    · have below : entry.attempts < limit := by simpa [exceedsLimit] using within
      refine .inr ⟨if_pos same, entry, by simp, same, below, fun left member left_id => ?_⟩
      rcases List.mem_cons.mp member with rfl | behind
      · rfl
      · rw [List.map_append, List.nodup_append, List.map_cons, List.nodup_cons] at distinct
        exact absurd (same.trans left_id.symm ▸ List.mem_map_of_mem behind) distinct.2.1.1
    · refine .inl ⟨if_neg same, fun left member left_id => ?_⟩
      rcases List.mem_cons.mp member with rfl | behind
      · exact absurd left_id same
      · simp [behind]

theorem Handles.aside {result : Except EventError Unit} (handles : Handles entry result acts) :
    ∀ act ∈ acts, act.Aside := by
  obtain ⟨plays⟩ := handles
  rw [List.forall_mem_append, List.forall_mem_cons, List.forall_mem_singleton]
  exact ⟨⟨trivial, plays.aside⟩, trivial⟩

theorem Handles.settle_mem {result : Except EventError Unit} (handles : Handles entry result acts) :
    .settle entry result ∈ acts := by
  obtain ⟨plays⟩ := handles
  exact List.mem_append_right _ (List.mem_singleton_self _)

theorem eq_of_hand_settling {handed : Entry} (settling : (Act.hand handed).Settling entry) :
    handed = entry := by
  cases settling
  rfl

/-- What a pass leaves whose calls work are the last of its entries. -/
theorem Drains.ids_suffix
    (drains : Drains limit applied discarded log acts outcome remaining)
    (served : ∀ act ∈ acts, act.Served) :
    remaining.map Entry.id <:+ log.map Entry.id := by
  rcases drains.empties_or_halts served with
    ⟨-, rfl⟩ | ⟨cleared, entry, after, _, _, _, now, rfl, -, -, -, -, rfl⟩
  · exact List.nil_suffix
  · rw [List.map_append]
    exact List.suffix_append _ _

/-- An entry that is handed to the parser while some are cleared is one of them. -/
theorem ClearsAll.mem_of_hand {handed : Entry} (clears : ClearsAll limit entries acts)
    (hands : .hand handed ∈ acts) :
    handed ∈ entries ∧ exceedsLimit limit handed = false := by
  induction clears with
  | nil => exact absurd hands List.not_mem_nil
  | @cons entry entries acts more first others ih =>
      rcases List.mem_append.mp hands with now | later
      · obtain rfl := eq_of_hand_settling (first.settling _ now)
        refine ⟨List.mem_cons_self, ?_⟩
        cases first with
        | discards exceeds => cases List.mem_singleton.mp now
        | applies within handles => exact within
      · obtain ⟨among, within⟩ := ih later
        exact ⟨List.mem_cons_of_mem _ among, within⟩

/-- An entry that is removed while some are cleared is past the limit, or was resolved. -/
theorem ClearsAll.exists_of_remove {reply : Except StoreError Unit}
    (clears : ClearsAll limit entries acts) (removes : .store (.remove id) reply ∈ acts) :
    ∃ entry ∈ entries, entry.id = id ∧
      (exceedsLimit limit entry = true ∨ .settle entry (.ok ()) ∈ acts) := by
  induction clears with
  | nil => exact absurd removes List.not_mem_nil
  | @cons entry entries acts more first others ih =>
      rcases List.mem_append.mp removes with now | later
      · cases first with
        | discards exceeds =>
            cases List.mem_singleton.mp now
            exact ⟨entry, List.mem_cons_self, rfl, .inl exceeds⟩
        | applies within handles =>
            rcases List.mem_append.mp now with before | now
            · exact (handles.aside _ before).elim
            · cases List.mem_singleton.mp now
              exact ⟨entry, List.mem_cons_self, rfl, .inr (by simp [handles.settle_mem])⟩
      · obtain ⟨entry, among, same, why⟩ := ih later
        exact ⟨entry, List.mem_cons_of_mem _ among, same, why.imp_right (List.mem_append_right _)⟩

/-- An entry that a pass hands to its parser was read by it, and is within the limit. -/
theorem Drains.mem_of_hand {handed : Entry}
    (drains : Drains limit applied discarded log acts outcome remaining)
    (served : ∀ act ∈ acts, act.Served) (hands : .hand handed ∈ acts) :
    handed ∈ log ∧ exceedsLimit limit handed = false := by
  rcases drains.empties_or_halts served with
    ⟨clears, -⟩ | ⟨cleared, entry, after, first, last, error, now, rfl, rfl, clears, within,
      handles, -⟩
  · exact clears.mem_of_hand hands
  · rcases List.mem_append.mp hands with early | late
    · obtain ⟨among, within⟩ := clears.mem_of_hand early
      exact ⟨List.mem_append_left _ among, within⟩
    · have late : .hand handed ∈ last := by simpa using late
      obtain rfl := eq_of_hand_settling (handles.settling _ late)
      exact ⟨by simp, within⟩

/-- An entry that a pass removes was read by it, and is past the limit, or was resolved. -/
theorem Drains.exists_of_remove {reply : Except StoreError Unit}
    (drains : Drains limit applied discarded log acts outcome remaining)
    (served : ∀ act ∈ acts, act.Served) (removes : .store (.remove id) reply ∈ acts) :
    ∃ entry ∈ log, entry.id = id ∧
      (exceedsLimit limit entry = true ∨ .settle entry (.ok ()) ∈ acts) := by
  rcases drains.empties_or_halts served with
    ⟨clears, -⟩ | ⟨cleared, entry, after, first, last, error, now, rfl, rfl, clears, within,
      handles, -⟩
  · exact clears.exists_of_remove removes
  · rcases List.mem_append.mp removes with early | late
    · obtain ⟨entry, among, same, why⟩ := clears.exists_of_remove early
      exact ⟨entry, List.mem_append_left _ among, same, why.imp_right (List.mem_append_left _)⟩
    · rcases List.mem_append.mp late with before | now
      · exact (handles.aside _ before).elim
      · cases List.mem_singleton.mp now

end Account

/-! ## One pass after the other -/

namespace Scene

section Rows

variable (around : Surroundings) (settings : Settings)

/-- An outbox with some entries on which no pass has begun to work. -/
def ofEntries (log : List Entry) : Scene :=
  ⟨.ofEntries log, []⟩

/-- What so many passes leave that are made one after the other. -/
def passes : Nat → Scene → Scene
  | 0, scene => scene
  | count + 1, scene => (pass around settings (passes count scene)).2

/-- A pass makes some acts, in their order. -/
def Makes (scene : Scene) (acts : List Act) : Prop :=
  (pass around settings scene).2.history = acts.reverse ++ scene.history

end Rows

/-- The account of failed attempts, when passes have worked on a log for some time. -/
structure Tried (key : LockId) (limit : Int) (log : List Entry) (scene : Scene) : Prop where
  free : scene.outbox.holder key = none
  distinct : (scene.outbox.log.map Entry.id).Nodup
  /-- The counter of an entry tells how often it could not be resolved. -/
  counted : ∀ left ∈ scene.outbox.log, ∃ entry ∈ log, entry.id = left.id ∧
    left.attempts = entry.attempts + failures left.id scene.history
  /-- An entry fails no more often than its attempts allow. -/
  bounded : ∀ entry ∈ log,
    failures entry.id scene.history ≤ (limit - entry.attempts).toNat

section Rows

variable {around : Surroundings} {settings : Settings} {limit : Int} {log : List Entry}
variable {scene : Scene}

theorem Tried.initial (distinct : (log.map Entry.id).Nodup) :
    Tried settings.lockId limit log (ofEntries log) := by
  refine ⟨rfl, distinct, fun left member => ⟨left, member, rfl, ?_⟩, fun entry _ => Nat.zero_le _⟩
  exact (Int.add_zero _).symm

/-- What a pass adds to the account of the failed attempts. -/
theorem Tried.step (tried : Tried settings.lockId limit log scene) (steady : around.Steady)
    (limited : settings.maxAttempts = some limit) (distinct : (log.map Entry.id).Nodup) :
    Tried settings.lockId limit log (pass around settings scene).2 := by
  obtain ⟨lock, acts, reply, outcome, outbox, pass_eq, drains, served, free⟩ :=
    exists_drains_pass steady tried.distinct tried.free
  rw [limited] at drains
  have failures_eq (id : EntryId) : failures id (pass around settings scene).2.history =
      failures id acts + failures id scene.history := by
    rw [pass_eq]
    simp only [failures_append, failures_reverse]
    congr 1
  have outbox_eq : (pass around settings scene).2.outbox = outbox := by rw [pass_eq]
  constructor
  · rw [outbox_eq]
    exact free
  · rw [outbox_eq]
    exact tried.distinct.sublist (drains.ids_suffix served).sublist
  · rw [outbox_eq]
    intro left member
    rw [failures_eq]
    rcases drains.failures_cases served tried.distinct left.id with
      ⟨none, kept⟩ | ⟨one, before, among, same, -, bumped⟩
    · rw [none, Nat.zero_add]
      exact tried.counted left (kept left member rfl)
    · obtain ⟨entry, first, entry_id, attempts_eq⟩ := tried.counted before among
      refine ⟨entry, first, entry_id.trans same, ?_⟩
      rw [bumped left member rfl, attempts_eq, one, same]
      push_cast
      omega
  · intro entry first
    rw [failures_eq]
    rcases drains.failures_cases served tried.distinct entry.id with
      ⟨none, -⟩ | ⟨one, before, among, same, below, -⟩
    · rw [none, Nat.zero_add]
      exact tried.bounded entry first
    · obtain ⟨entry', first', entry_id, attempts_eq⟩ := tried.counted before among
      obtain rfl := List.inj_on_of_nodup_map distinct first' first (entry_id.trans same)
      rw [same] at attempts_eq
      omega

/-- The account is kept by any number of passes. -/
theorem tried_passes (steady : around.Steady) (limited : settings.maxAttempts = some limit)
    (distinct : (log.map Entry.id).Nodup) (count : Nat) :
    Tried settings.lockId limit log (passes around settings count (ofEntries log)) := by
  induction count with
  | zero => exact .initial distinct
  | succ count ih => exact ih.step steady limited distinct

/-- Behind so many passes the outbox is empty, or they have used up as many attempts. -/
theorem passes_allowance (steady : around.Steady) (limited : settings.maxAttempts = some limit)
    (distinct : (log.map Entry.id).Nodup) (count : Nat) :
    (passes around settings count (ofEntries log)).outbox.log = [] ∨
      allowance limit (passes around settings count (ofEntries log)).outbox.log + count ≤
        allowance limit log := by
  induction count with
  | zero => exact .inr (le_refl _)
  | succ count ih =>
      have tried := tried_passes steady limited distinct count
      obtain ⟨lock, acts, reply, outcome, outbox, pass_eq, drains, served, free⟩ :=
        exists_drains_pass steady tried.distinct tried.free
      rw [limited] at drains
      have outbox_eq : (passes around settings (count + 1) (ofEntries log)).outbox = outbox := by
        rw [passes, pass_eq]
      rw [outbox_eq]
      rcases drains.allowance_lt served with gone | fewer
      · exact .inl gone
      · rcases ih with gone | enough
        · rw [gone] at fewer
          exact absurd fewer (Nat.not_lt_zero _)
        · exact .inr (by omega)

/-- The acts of a pass are those by which it takes the lock, drains its entries and leaves. -/
theorem Tried.exists_drains (tried : Tried settings.lockId limit log scene)
    (steady : around.Steady) (limited : settings.maxAttempts = some limit) {acts : List Act}
    (makes : Makes around settings scene acts) :
    ∃ lock drained reply outcome remaining,
      acts = .store (.tryLock settings.lockId) (.ok lock) ::
        .store .entries (.ok scene.outbox.log) :: drained ++
          [.store (.release (some lock)) reply] ∧
      Drains (some limit) 0 0 scene.outbox.log drained outcome remaining ∧
      ∀ act ∈ drained, act.Served := by
  obtain ⟨lock, drained, reply, outcome, outbox, pass_eq, drains, served, -⟩ :=
    exists_drains_pass steady tried.distinct tried.free
  rw [limited] at drains
  unfold Makes at makes
  rw [pass_eq] at makes
  exact ⟨lock, drained, reply, outcome, outbox.log,
    (List.reverse_injective (List.append_cancel_right makes)).symm, drains, served⟩

theorem history_suffix_pass (steady : around.Steady) (scene : Scene) :
    scene.history <:+ (pass around settings scene).2.history := by
  obtain ⟨acts, history_eq, -⟩ :=
    exists_carries_conduct steady (runPass Replay.count settings) scene
  exact ⟨acts.reverse, history_eq.symm⟩

/-- Failed attempts are not forgotten. -/
theorem failures_passes_le (steady : around.Steady) (id : EntryId) {count later : Nat}
    (order : count ≤ later) (scene : Scene) :
    failures id (passes around settings count scene).history ≤
      failures id (passes around settings later scene).history := by
  induction later, order using Nat.le_induction with
  | base => exact le_refl _
  | succ later order ih =>
      exact Nat.le_trans ih (history_suffix_pass steady _).sublist.countP_le

end Rows

/-- What a limit to attempts means for passes over a log that are made one after the other. -/
structure Limited (around : Surroundings) (settings : Settings) (limit : Int) (log : List Entry) :
    Prop where
  /-- As many passes as there are attempts left, and one more, empty the outbox. -/
  emptied : ∀ count, 1 + allowance limit log ≤ count →
    (passes around settings count (ofEntries log)).outbox.log = []
  /-- An entry is handed to the parser as it was read, and has attempts left. -/
  handed : ∀ count acts entry, Makes around settings (passes around settings count (ofEntries log))
    acts → .hand entry ∈ acts →
      entry ∈ (passes around settings count (ofEntries log)).outbox.log ∧ entry.attempts < limit
  /-- An entry that has no attempts left is never handed to the parser again. -/
  spent : ∀ count later, count ≤ later →
    ∀ entry ∈ (passes around settings count (ofEntries log)).outbox.log, limit ≤ entry.attempts →
      ∀ acts other, Makes around settings (passes around settings later (ofEntries log)) acts →
        .hand other ∈ acts → other.id ≠ entry.id
  /-- An entry fails at most as often as it had attempts left at first. -/
  failing : ∀ entry ∈ log, entry.attempts < limit → ∀ count,
    failures entry.id (passes around settings count (ofEntries log)).history ≤
      limit - entry.attempts
  /-- The counter of an entry does not go above the limit. -/
  counter : ∀ entry ∈ log, entry.attempts < limit → ∀ count,
    ∀ left ∈ (passes around settings count (ofEntries log)).outbox.log, left.id = entry.id →
      left.attempts ≤ limit
  /-- An entry that is removed without being resolved was read with a counter at the limit. -/
  discarded : ∀ count acts id reply,
    Makes around settings (passes around settings count (ofEntries log)) acts →
    .store (.remove id) reply ∈ acts →
    (∀ entry, entry.id = id → .settle entry (.ok ()) ∉ acts) →
    ∃ (entries : List Entry) (entry : Entry), .store .entries (.ok entries) ∈ acts ∧
      entry ∈ entries ∧ entry.id = id ∧ limit ≤ entry.attempts

section Rows

variable {around : Surroundings} {settings : Settings} {limit : Int} {log : List Entry}

/-- With a limit to attempts, passes empty the outbox, and no entry is tried too often. -/
theorem limited_passes (steady : around.Steady) (limited : settings.maxAttempts = some limit)
    (distinct : (log.map Entry.id).Nodup) :
    Limited around settings limit log := by
  have tried := tried_passes steady limited distinct
  have handed (count : Nat) (acts : List Act) (entry : Entry)
      (makes : Makes around settings (passes around settings count (ofEntries log)) acts)
      (hands : .hand entry ∈ acts) :
      entry ∈ (passes around settings count (ofEntries log)).outbox.log ∧
        entry.attempts < limit := by
    obtain ⟨lock, drained, reply, outcome, remaining, rfl, drains, served⟩ :=
      (tried count).exists_drains steady limited makes
    have hands : .hand entry ∈ drained := by simpa using hands
    obtain ⟨among, within⟩ := drains.mem_of_hand served hands
    exact ⟨among, by simpa [exceedsLimit] using within⟩
  constructor
  · intro count enough
    rcases passes_allowance steady limited distinct count with gone | used
    · exact gone
    · omega
  · exact handed
  · intro count later order entry left spent acts other makes hands same
    obtain ⟨among, below⟩ := handed later acts other makes hands
    obtain ⟨first, first_mem, first_id, entry_eq⟩ := (tried count).counted entry left
    obtain ⟨again, again_mem, again_id, other_eq⟩ := (tried later).counted other among
    obtain rfl := List.inj_on_of_nodup_map distinct first_mem again_mem
      (first_id.trans (same.symm.trans again_id.symm))
    have more : failures entry.id (passes around settings count (ofEntries log)).history ≤
        failures entry.id (passes around settings later (ofEntries log)).history :=
      failures_passes_le steady entry.id order (ofEntries log)
    rw [same] at other_eq
    omega
  · intro entry member below count
    have bounded := (tried count).bounded entry member
    omega
  · intro entry member below count left still same
    obtain ⟨first, first_mem, first_id, left_eq⟩ := (tried count).counted left still
    obtain rfl := List.inj_on_of_nodup_map distinct first_mem member (first_id.trans same)
    have bounded := (tried count).bounded first first_mem
    rw [← first_id] at left_eq
    omega
  · intro count acts id reply makes removes unresolved
    obtain ⟨lock, drained, reply', outcome, remaining, rfl, drains, served⟩ :=
      (tried count).exists_drains steady limited makes
    have removes : .store (.remove id) reply ∈ drained := by simpa using removes
    obtain ⟨entry, among, same, exceeds | settled⟩ := drains.exists_of_remove served removes
    · exact ⟨_, entry, by simp, among, same, by simpa [exceedsLimit] using exceeds⟩
    · exact absurd (by simp [settled]) (unresolved entry same)

end Rows

/-- Surroundings in which no call on the outbox fails, and none downstream succeeds. -/
def deaf : Surroundings where
  fault := fun _ _ => none
  answer := fun _ _ => .error (.transport "no answer")
  now := fun _ => 0

/-- Three passes discard two entries that were to be tried at most twice. -/
theorem limited_passes_of_deaf :
    deaf.Steady ∧ Limited deaf { Settings.default with maxAttempts := some 2 } 2
        [farewell, { farewell with id := ⟨1⟩, attempts := 2 }] ∧
      (passes deaf { Settings.default with maxAttempts := some 2 } 3 (ofEntries
        [farewell, { farewell with id := ⟨1⟩, attempts := 2 }])).outbox.log = [] := by
  have steady : deaf.Steady := fun _ _ => rfl
  have limited : Limited deaf { Settings.default with maxAttempts := some 2 } 2
      [farewell, { farewell with id := ⟨1⟩, attempts := 2 }] :=
    limited_passes steady rfl (by decide)
  exact ⟨steady, limited, limited.emptied 3 (by decide)⟩

end Scene

end Dispatch
end OutboxRelay
