import OutboxRelay.Http.Exchange

/-!
# A scripted web

The web answers from a script, one reaction to each request, and remembers the requests
that reached it.  It may be out of reach altogether.
-/

namespace OutboxRelay
namespace Http

/-- What happens to a request that reaches the web. -/
inductive Reaction
  /-- A response, of which the body may be cut short. -/
  | respond (received : Received)
  | close
  /-- Nothing is ever answered. -/
  | stall
  deriving DecidableEq, Repr

/-- The script, whether the web can be reached, and the requests, the last one first. -/
structure Scripted where
  reactions : List Reaction
  reachable : Bool
  seen : List Request
  deriving DecidableEq, Repr

namespace Scripted

/-- A web without a script. -/
def blank (reachable : Bool) : Scripted :=
  ⟨[], reachable, []⟩

/-- What becomes visible of a reaction. -/
def visible : Reaction → Option Received
  | .respond received => some received
  | .close => none
  | .stall => none

/-- Reacts to a request; when the script is used up, connections are closed. -/
def serve (web : Scripted) (request : Request) : Option Received × Scripted :=
  if web.reachable then
    let web := { web with seen := request :: web.seen }
    match web.reactions with
    | [] => (none, web)
    | reaction :: reactions =>
        (visible reaction, { web with reactions := reactions })
  else
    (none, web)

/-- The requests since they were last asked for, in order. -/
def takeSeen (web : Scripted) : List Request × Scripted :=
  (web.seen.reverse, { web with seen := [] })

end Scripted
end Http
end OutboxRelay
