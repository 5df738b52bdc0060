import OutboxRelay.Json.Fault

/-!
# Failures

Three parties can fail: the vulnerability database downstream, the store that holds
the outbox, and the replay of an entry, which may fail because of either the entry or
the downstream database.
-/

namespace OutboxRelay

/-- What the downstream database, or the way to it, reports. -/
inductive DownstreamError
  | notFound
  | forbidden
  | status (code : Nat) (body : String)
  | transport (reason : String)
  deriving DecidableEq, Repr

namespace DownstreamError

/-- The wording of a downstream failure. -/
def message : DownstreamError → String
  | notFound => "not found"
  | forbidden => "forbidden"
  | status code body => "unexpected status " ++ toString code ++ ": " ++ body
  | transport reason => "transport: " ++ reason

/-- Whether the thing addressed is not there. -/
def isNotFound : DownstreamError → Bool
  | notFound => true
  | _ => false

/-- Whether the thing addressed is out of the caller's reach. -/
def isForbidden : DownstreamError → Bool
  | forbidden => true
  | _ => false

end DownstreamError

/-- Why the store's database did not answer. -/
inductive DatabaseError
  | unreachable (reason : String)
  | poolTimedOut
  | poolClosed
  | rowNotFound
  | invalidData (text : String)
  | columnNotFound (text : String)
  | rejected (text : String)
  deriving DecidableEq, Repr

/-- The wording of a database failure. -/
def DatabaseError.message : DatabaseError → String
  | unreachable reason => "error communicating with database: " ++ reason
  | poolTimedOut => "pool timed out while waiting for an open connection"
  | poolClosed => "attempted to acquire a connection on a closed pool"
  | rowNotFound =>
      "no rows returned by a query that expected to return at least one row"
  | invalidData text => "encountered unexpected or invalid data: " ++ text
  | columnNotFound text => "no column found for name: " ++ text
  | rejected text => "error returned from database: " ++ text

/-- Why a call on the store failed. -/
inductive StoreError
  | validation (reason : String)
  | database (error : DatabaseError)
  | serialization (error : Json.Error)
  deriving DecidableEq, Repr

/-- The wording of a store failure. -/
def StoreError.message : StoreError → String
  | validation reason => "validation: " ++ reason
  | database error => "database: " ++ error.message
  | serialization error => "serialization: " ++ error.message

/-- Why an entry could not be resolved. -/
inductive EventError
  | decode (error : Json.Error)
  | unsupportedAction (tag : String)
  | unsupportedVersion (tag : String) (version : Int)
  | downstream (error : DownstreamError)
  | targetNotUnique (identifier : String) (count : Nat)
  deriving DecidableEq, Repr

/-- The wording of the reason. -/
def EventError.message : EventError → String
  | decode error => "payload decode: " ++ error.message
  | unsupportedAction tag => "unsupported action: " ++ tag
  | unsupportedVersion tag version =>
      "unsupported payload version " ++ toString version ++ " for action " ++ tag
  | downstream error => "downstream: " ++ error.message
  | targetNotUnique identifier count =>
      "target " ++ identifier ++ " is not unique (" ++ toString count ++
        " matches)"

end OutboxRelay
