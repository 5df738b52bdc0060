import OutboxRelay.Proofs.Dispatch.Solitary
import OutboxRelay.Proofs.Replay.Batch

/-!
# The calls of a pass

A pass is looked at from the parties that it calls: the outbox and the vulnerability database.
They may answer each call in any way.  What a pass has done when it ends is told by the acts that
are recounted of passes, of which the parties see the calls.

**Results.**
* `performs_runPass`: whatever it is told, a pass makes the calls of some acts that are recounted
  of passes.
* `Recounts.handled`: a pass is done with each entry that it hands to its parser.
* `Performance.isWhole`: what is true of a pass that was not broken off.
-/

namespace OutboxRelay
namespace Dispatch

open Store (TransactionId)

/-! ## Calls -/

/-- Whether an act is a call on the outbox or on the vulnerability database. -/
def Act.isCall : Act → Bool
  | .store .. | .consult .. => true
  | _ => false

/-- The act that is a call with its reply. -/
def Act.ofCall : (made : (interface TransactionId Downstream.interface).Call) →
    (interface TransactionId Downstream.interface).Reply made → Act
  | .inl call, reply => .store call reply
  | .inr call, reply => .consult call reply

/-- The calls among some acts. -/
def callsOf (acts : List Act) : List Act :=
  acts.filter Act.isCall

@[simp] theorem callsOf_append (acts more : List Act) :
    callsOf (acts ++ more) = callsOf acts ++ callsOf more := by
  exact List.filter_append ..

@[simp] theorem callsOf_consult (call : Downstream.Call)
    (reply : Except DownstreamError call.Answer) (acts : List Act) :
    callsOf (.consult call reply :: acts) = .consult call reply :: callsOf acts := by
  rfl

/-- A parser only makes calls. -/
theorem Plays.callsOf_eq {α : Type} {program : Replay.OnDownstream α} {asked : List Act}
    {result : α} (plays : Plays program asked result) :
    callsOf asked = asked := by
  induction plays with
  | done result => rfl
  | note record plays ih => exact ih
  | call reply plays ih => rw [callsOf_consult, ih]

/-- Of how an entry is resolved, others see the calls of the parser. -/
theorem callsOf_handled {entry : Entry} {result : Except EventError Unit} {asked : List Act}
    (plays : Plays (Replay.apply entry) asked result) :
    callsOf (.hand entry :: asked ++ [.settle entry result]) = asked := by
  have settled : callsOf [Act.settle entry result] = [] := rfl
  show callsOf (asked ++ [Act.settle entry result]) = asked
  rw [callsOf_append, plays.callsOf_eq, settled, List.append_nil]

/-! ## Passes that are told anything -/

/-- A call is one more thing that was done. -/
def performs (done : List Act) (made : (interface TransactionId Downstream.interface).Call)
    (reply : (interface TransactionId Downstream.interface).Reply made) (done' : List Act) :
    Prop :=
  done' = done ++ [.ofCall made reply]

/--
Whatever it is told, the calls of a program are those of some acts which, with its result, fulfil
a condition.
-/
def Performs {α : Type} (condition : α → List Act → Prop)
    (program : OnOutbox TransactionId Downstream.interface α) : Prop :=
  ∀ done, program.Ensures performs (fun _ => True)
    (fun result done' => ∃ acts, done' = done ++ callsOf acts ∧ condition result acts) done

namespace Performs

variable {α β : Type} {condition : α → List Act → Prop} {condition' : β → List Act → Prop}
variable {program rest : OnOutbox TransactionId Downstream.interface α} {result : α}

theorem done (holds : condition result []) : Performs condition (.done result) := by
  exact fun done => ⟨trivial, [], (List.append_nil done).symm, holds⟩

theorem note {record : Journal.Record} (performs : Performs condition rest) :
    Performs condition (.note record rest) := by
  exact performs

theorem mono {weaker : α → List Act → Prop} (performs : Performs condition program)
    (follows : ∀ result acts, condition result acts → weaker result acts) :
    Performs weaker program := by
  intro done
  refine (performs done).mono ?_
  rintro result _ ⟨acts, split, holds⟩
  exact ⟨acts, split, follows _ _ holds⟩

/-- A sequence makes the calls of its first part and then those of its second. -/
theorem bind {next : α → OnOutbox TransactionId Downstream.interface β}
    (first : Performs condition program)
    (then_performs : ∀ result acts, condition result acts →
      Performs (fun last more => condition' last (acts ++ more)) (next result)) :
    Performs condition' (program.bind next) := by
  intro done
  refine (first done).bind ?_
  rintro result _ - ⟨acts, rfl, holds⟩
  refine (then_performs result acts holds _).mono ?_
  rintro last _ ⟨more, rfl, holds⟩
  exact ⟨acts ++ more, by rw [callsOf_append, List.append_assoc], holds⟩

/-- The outbox may answer a call in any way. -/
theorem onStore {call : Outbox.Call TransactionId}
    {next : Except StoreError call.Answer → OnOutbox TransactionId Downstream.interface β}
    (replied : ∀ reply,
      Performs (fun last more => condition' last (.store call reply :: more)) (next reply)) :
    Performs condition' ((onStore call).bind next) := by
  refine fun done => ⟨trivial, ?_⟩
  rintro reply _ rfl
  refine (replied reply _).mono ?_
  rintro last _ ⟨more, rfl, holds⟩
  exact ⟨.store call reply :: more, (List.append_cons ..).symm, holds⟩

end Performs

section Passes

variable {α : Type} {settings : Settings} {limit : Option Int}

theorem performs_onSecond (program : Replay.OnDownstream α) :
    Performs (fun result acts => Plays program acts result) (Program.onSecond program) := by
  induction program with
  | done result => exact .done (.done result)
  | note record rest ih => exact .note (ih.mono fun _ _ plays => .note record plays)
  | call made rest ih =>
      refine fun done => ⟨trivial, ?_⟩
      rintro reply _ rfl
      refine (ih reply _).mono ?_
      rintro result _ ⟨asked, rfl, plays⟩
      exact ⟨.consult made reply :: asked, (List.append_cons ..).symm, .call reply plays⟩

/-- Of how an entry is resolved, others see the calls of the parser. -/
theorem performs_apply (entry : Entry) :
    Performs (fun result acts => Handles entry result acts)
      (Program.onSecond (Replay.apply entry)) := by
  intro done
  refine (performs_onSecond (Replay.apply entry) done).mono ?_
  rintro result _ ⟨asked, rfl, plays⟩
  refine ⟨.hand entry :: asked ++ [.settle entry result], ?_, .intro plays⟩
  rw [callsOf_handled plays, plays.callsOf_eq]

/-- A parser that is handed an entry counts one if it could resolve it, and else none. -/
theorem performs_parse (entry : Entry) :
    Performs (fun counted acts => ∃ result, Handles entry result acts ∧
        counted = (match result with
          | .ok () => 1
          | .error _ => 0))
      (Program.onSecond (Replay.parse [entry])) := by
  have split : (Program.onSecond (Replay.parse [entry]) :
      OnOutbox TransactionId Downstream.interface Nat) =
        (Program.onSecond (Replay.apply entry)).bind _ :=
    (congrArg Program.onSecond (Replay.parse_cons entry [])).trans
      (Program.through_bind _ (Replay.apply entry) _)
  rw [split]
  refine (performs_apply entry).bind fun result acts handles => ?_
  have counted : Handles entry result (acts ++ []) := by rwa [List.append_nil]
  cases result with
  | ok answer => exact .done ⟨_, counted, rfl⟩
  | error error => exact .note (.done ⟨_, counted, rfl⟩)

theorem performs_drainFrom (applied discarded : Nat) (entries : List Entry) :
    Performs (fun outcome acts => ∃ left,
        Drains limit applied discarded entries acts outcome left)
      (drainFrom Replay.parse limit applied discarded entries) := by
  induction entries generalizing applied discarded with
  | nil => exact .done ⟨[], .empties .nil⟩
  | cons entry rest ih =>
      rw [drainFrom]
      by_cases exceeds : exceedsLimit limit entry = true
      · rw [if_pos exceeds]
        refine .onStore fun reply => ?_
        cases reply with
        | error failure => exact .note (.done ⟨_, .first (.undiscarded exceeds failure)⟩)
        | ok answer =>
            refine .note ((ih applied (discarded + 1)).mono ?_)
            rintro outcome acts ⟨left, drains⟩
            refine ⟨left, .cons (.discards exceeds) ?_⟩
            simpa [appliedOf, discardedOf, exceeds] using drains
      · have within : exceedsLimit limit entry = false := eq_false_of_ne_true exceeds
        rw [if_neg exceeds]
        refine (performs_parse entry).bind ?_
        rintro counted handled ⟨result, handles, rfl⟩
        cases result with
        | error error =>
            refine .onStore fun reply => ?_
            cases reply with
            | error failure => exact .note (.done ⟨_, .first (.uncounted within handles failure)⟩)
            | ok answer => exact .done ⟨_, .first (.unresolved within handles 0)⟩
        | ok answer =>
            refine .onStore fun reply => ?_
            cases reply with
            | error failure => exact .note (.done ⟨_, .first (.unremoved within handles failure)⟩)
            | ok answer =>
                refine (ih (applied + 1) discarded).mono ?_
                rintro outcome acts ⟨left, drains⟩
                refine ⟨left, ?_⟩
                rw [List.append_cons]
                refine .cons (.applies within handles) ?_
                simpa [appliedOf, discardedOf, within] using drains

/-- With its lock a pass reads the entries and drains them, or cannot read them. -/
theorem performs_drain :
    Performs (fun outcome acts =>
        (∃ failure, acts = [.store .entries (.error failure)] ∧ outcome = .storeFailed 0) ∨
          ∃ log more left, acts = .store .entries (.ok log) :: more ∧
            Drains limit 0 0 log more outcome left)
      (drain Replay.parse limit) := by
  refine .onStore fun reply => ?_
  cases reply with
  | error failure => exact .note (.done (.inl ⟨failure, rfl, rfl⟩))
  | ok log =>
      refine (performs_drainFrom 0 0 log).mono ?_
      rintro outcome acts ⟨left, drains⟩
      exact .inr ⟨log, acts, left, rfl, drains⟩

/-- A lock is released by one call, whether or not it can be. -/
theorem performs_release (lock : Lock TransactionId) :
    Performs (fun _ acts => ∃ reply, acts = [.store (.release (some lock)) reply])
      (release lock) := by
  refine .onStore fun reply => ?_
  cases reply with
  | ok answer => exact .done ⟨_, rfl⟩
  | error failure => exact .note (.done ⟨_, rfl⟩)

theorem performs_reportDrained (outcome : Outcome) :
    Performs (fun _ acts => acts = []) (reportDrained outcome) := by
  cases outcome with
  | drained applied discarded =>
      rw [reportDrained]
      split
      · exact .note (.done rfl)
      · exact .done rfl
  | _ => exact .done rfl

/-- Some acts are recounted of a pass with an outcome. -/
def Recounted (settings : Settings) (outcome : Outcome) (acts : List Act) : Prop :=
  ∃ log left, Recounts settings log acts outcome left

/-- Whatever a pass is told, its calls are those of acts that are recounted of passes. -/
theorem performs_runPass : Performs (Recounted settings) (runPass Replay.parse settings) := by
  refine .onStore fun reply => ?_
  cases reply with
  | error failure => exact .note (.done ⟨[], [], .lockUnavailable failure⟩)
  | ok lock =>
      cases acquired : Lock.acquired lock with
      | false =>
          simp only [acquired, Bool.false_eq_true, if_false]
          refine (performs_release lock).bind ?_
          rintro - _ ⟨reply, rfl⟩
          exact .note (.done ⟨[], [], .contended acquired reply⟩)
      | true =>
          simp only [acquired, if_true]
          refine performs_drain.bind fun outcome acts drained => ?_
          refine (performs_release lock).bind ?_
          rintro - _ ⟨reply, rfl⟩
          refine (performs_reportDrained outcome).bind ?_
          rintro - _ rfl
          refine .done ?_
          rcases drained with ⟨failure, rfl, rfl⟩ | ⟨log, more, left, rfl, drains⟩
          · exact ⟨[], [], .unread acquired failure reply⟩
          · exact ⟨log, left, .settled acquired drains reply⟩

end Passes

/-! ## Entries that were handed over -/

section Handled

variable {settings : Settings} {limit : Option Int} {applied discarded : Nat}
variable {entry other left : Entry} {entries log remaining : List Entry}
variable {acts more : List Act} {outcome : Outcome}

/-- The call by which a pass is done with an entry that its parser has resolved, or has not. -/
def closing (entry : Entry) : Except EventError Unit → Outbox.Call TransactionId
  | .ok () => .remove entry.id
  | .error _ => .recordFailure entry.id

/--
An entry was handed to the parser, which came to a result, and then its removal or its failed
attempt was asked of the outbox.
-/
def Handled (entry : Entry) (acts : List Act) : Prop :=
  ∃ before handled result reply after, Handles entry result handled ∧
    acts = before ++ (handled ++ .store (closing entry result) reply :: after)

theorem Handled.append_left (handled : Handled entry more) (acts : List Act) :
    Handled entry (acts ++ more) := by
  obtain ⟨before, block, result, reply, after, handles, rfl⟩ := handled
  exact ⟨acts ++ before, block, result, reply, after, handles, (List.append_assoc ..).symm⟩

theorem Handled.append_right (handled : Handled entry acts) (more : List Act) :
    Handled entry (acts ++ more) := by
  obtain ⟨before, block, result, reply, after, handles, rfl⟩ := handled
  exact ⟨before, block, result, reply, after ++ more, handles, by simp⟩

/-- Only the entry that is resolved is handed over. -/
theorem Handles.eq_of_hand {result : Except EventError Unit} (handles : Handles entry result acts)
    (member : .hand other ∈ acts) :
    other = entry := by
  have settling := handles.settling _ member
  cases settling
  rfl

/-- A pass that has had an entry resolved is done with it by one more call. -/
theorem Handles.handled {result : Except EventError Unit} (handles : Handles entry result acts)
    (reply : Except StoreError (closing entry result).Answer)
    (member : .hand other ∈ acts ++ [.store (closing entry result) reply]) :
    Handled other (acts ++ [.store (closing entry result) reply]) := by
  obtain rfl : other = entry := by
    rcases List.mem_append.mp member with member | member
    · exact handles.eq_of_hand member
    · cases List.mem_singleton.mp member
  exact ⟨[], acts, result, reply, [], handles, rfl⟩

theorem Clears.handled (clears : Clears limit entry acts) (member : .hand other ∈ acts) :
    Handled other acts := by
  cases clears with
  | discards exceeds => cases List.mem_singleton.mp member
  | applies within handles => exact handles.handled (.ok ()) member

theorem ClearsAll.handled (clears : ClearsAll limit entries acts)
    (member : .hand other ∈ acts) :
    Handled other acts := by
  induction clears with
  | nil => cases member
  | cons first others ih =>
      rcases List.mem_append.mp member with member | member
      · exact (first.handled member).append_right _
      · exact (ih member).append_left _

theorem Stops.handled (stops : Stops limit applied entry acts outcome left)
    (member : .hand other ∈ acts) :
    Handled other acts := by
  cases stops with
  | undiscarded exceeds failure => cases List.mem_singleton.mp member
  | unresolved within handles now => exact handles.handled (.ok ()) member
  | uncounted within handles failure => exact handles.handled (.error failure) member
  | unremoved within handles failure => exact handles.handled (.error failure) member

theorem Drains.handled (drains : Drains limit applied discarded log acts outcome remaining)
    (member : .hand other ∈ acts) :
    Handled other acts := by
  cases drains with
  | empties clears => exact clears.handled member
  | stops split clears stuck =>
      rcases List.mem_append.mp member with member | member
      · exact (clears.handled member).append_right _
      · exact (stuck.handled member).append_left _

/-- A pass asks for no lock but its own. -/
theorem Recounts.lockId_eq {key : LockId} {reply : Except StoreError (Lock TransactionId)}
    (recounts : Recounts settings log acts outcome remaining)
    (member : .store (.tryLock key) reply ∈ acts) :
    key = settings.lockId := by
  cases recounts with
  | lockUnavailable failure =>
      cases List.mem_singleton.mp member
      rfl
  | contended acquired reply =>
      rcases member with _ | ⟨_, _ | ⟨_, ⟨⟩⟩⟩
      rfl
  | unread acquired failure reply =>
      rcases member with _ | ⟨_, _ | ⟨_, _ | ⟨_, ⟨⟩⟩⟩⟩
      rfl
  | settled acquired drains reply =>
      rcases member with _ | ⟨_, _ | ⟨_, member⟩⟩
      · rfl
      rcases List.mem_append.mp member with member | last
      · obtain ⟨reached, -, settling⟩ := drains.settling
        obtain ⟨entry, -, settling⟩ := settling _ member
        cases settling
      · cases List.mem_singleton.mp last

/-- A pass is done with each entry that it has handed to its parser. -/
theorem Recounts.handled (recounts : Recounts settings log acts outcome remaining)
    (member : .hand other ∈ acts) :
    Handled other acts := by
  cases recounts with
  | lockUnavailable failure => simp at member
  | contended acquired reply => simp at member
  | unread acquired failure reply => simp at member
  | settled acquired drains reply =>
      have among := member
      simp only [List.cons_append, List.mem_cons, List.mem_append, reduceCtorEq, List.not_mem_nil,
        false_or, or_false] at among
      exact ((drains.handled among).append_left [_, _]).append_right _

end Handled

/-! ## Whole passes -/

/-- What a pass has done from its begin to its end. -/
structure Performance where
  acts : List Act
  outcome : Outcome

namespace Performance

/-- The calls of a pass, each with its reply. -/
def calls (performance : Performance) : List Act :=
  callsOf performance.acts

/-- What is true of a pass that was not broken off. -/
structure IsWhole (settings : Settings) (performance : Performance) : Prop where
  recounted : Recounted settings performance.outcome performance.acts
  /-- The lock that it was told of is released by one call, which is its last one. -/
  released : ∀ key lock, .store (.tryLock key) (.ok lock) ∈ performance.acts →
    ∃ earlier reply,
      performance.acts = earlier ++ [.store (.release (some lock)) reply] ∧
        ∀ act ∈ earlier, ¬ act.IsRelease
  /-- It is done with each entry that it has handed to its parser. -/
  handled : ∀ entry, .hand entry ∈ performance.acts → Handled entry performance.acts

/-- A pass whose acts are recounted of passes was not broken off. -/
theorem isWhole {settings : Settings} {performance : Performance}
    (recounted : Recounted settings performance.outcome performance.acts) :
    performance.IsWhole settings := by
  obtain ⟨log, left, recounts⟩ := id recounted
  refine ⟨recounted, fun key lock told => ?_, fun entry member => recounts.handled member⟩
  rw [recounts.lockId_eq told] at told
  exact recounts.released told

end Performance

end Dispatch
end OutboxRelay
