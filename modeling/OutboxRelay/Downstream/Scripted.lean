import OutboxRelay.Downstream

/-!
# A scripted vulnerability database

The database answers from a script: some kinds of calls fail, for ever or so many
times, and a lookup finds the scripted targets with exactly the identifier.  Every call
is remembered.
-/

namespace OutboxRelay
namespace Downstream

/-- The kinds of calls. -/
inductive Kind
  | createTarget
  | deleteTag
  | deleteTargetTag
  | targets
  | updateFinding
  deriving DecidableEq, Repr

/-- The kind of a call. -/
def Call.kind : Call → Kind
  | createTarget .. => .createTarget
  | deleteTag .. => .deleteTag
  | deleteTargetTag .. => .deleteTargetTag
  | targets _ => .targets
  | updateFinding .. => .updateFinding

/-- A scripted failure: it hits so many more calls, or all. -/
structure Failing where
  kind : Kind
  error : DownstreamError
  times : Option Nat
  deriving DecidableEq, Repr

/-- The script, the delay of each answer in milliseconds, and the calls, the last one first. -/
structure Scripted where
  known : List Target
  failing : List Failing
  delay : Nat
  made : List Call
  deriving DecidableEq, Repr

namespace Scripted

/-- A database that knows nothing and answers at once. -/
def blank : Scripted :=
  ⟨[], [], 0, []⟩

/-- Lets no call of a kind fail. -/
def recover (db : Scripted) (kind : Kind) : Scripted :=
  { db with failing := db.failing.filter fun failing => failing.kind ≠ kind }

/-- Lets the next calls of a kind fail, in place of what was scripted for the kind. -/
def fail (db : Scripted) (failing : Failing) : Scripted :=
  let db := db.recover failing.kind
  { db with failing := failing :: db.failing }

/-- The failure that hits a call of a kind now. -/
def failure? (db : Scripted) (kind : Kind) : Option DownstreamError :=
  (db.failing.find? fun failing =>
    failing.kind = kind && failing.times ≠ some 0).map Failing.error

/-- One scripted failure behind a call of a kind. -/
def Failing.spend (kind : Kind) (failing : Failing) : Failing :=
  if failing.kind = kind then
    { failing with times := failing.times.map (· - 1) }
  else
    failing

/-- The answer to a call that does not fail. -/
def success (db : Scripted) : (call : Call) → call.Answer
  | .createTarget identifier tags =>
      (⟨identifier, identifier, tags⟩ : Target)
  | .deleteTag .. => ()
  | .deleteTargetTag .. => ()
  | .targets identifier =>
      db.known.filter fun target => target.identifier = identifier
  | .updateFinding .. => ()

/-- Answers a call. -/
def serve (db : Scripted) (call : Call) :
    Except DownstreamError call.Answer × Scripted :=
  let reply : Except DownstreamError call.Answer :=
    match db.failure? call.kind with
    | some error => .error error
    | none => .ok (db.success call)
  (reply, { db with
    failing := db.failing.map (Failing.spend call.kind)
    made := call :: db.made })

/-- The calls since they were last asked for, in order. -/
def takeCalls (db : Scripted) : List Call × Scripted :=
  (db.made.reverse, { db with made := [] })

end Scripted
end Downstream
end OutboxRelay
