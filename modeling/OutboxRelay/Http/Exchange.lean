import OutboxRelay.Http.Message
import OutboxRelay.Program

/-!
# Exchanges

An exchange is a request and what comes of it: a response, of which the body may have
been cut short, or nothing, when the connection was not made, was closed, or stayed
silent for too long.
-/

namespace OutboxRelay
namespace Http

/-- A response as it was received. -/
structure Received where
  response : Response
  complete : Bool
  deriving DecidableEq, Repr

/-- A web as a party that programs call. -/
def interface : Interface where
  Call := Request
  Reply := fun _ => Option Received

/-- A program that makes exchanges. -/
abbrev OnWeb := Program interface

/-- What comes of a request. -/
def exchange (request : Request) : OnWeb (Option Received) :=
  Program.ask (I := interface) request

end Http
end OutboxRelay
