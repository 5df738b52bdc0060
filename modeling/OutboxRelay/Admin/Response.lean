import OutboxRelay.Event.Payload
import OutboxRelay.Failure
import OutboxRelay.Http.Message
import OutboxRelay.Journal
import OutboxRelay.Uuid.Json

/-!
# Answers to an administrator

An answer is a JSON value, a plain text, or nothing but a status.  A failure of the
store is told to the caller only as far as the caller is to blame; the rest goes to
the journal.
-/

namespace OutboxRelay
namespace Admin

open Http (Response Status)
open Json (Value)

/-- An answer without content. -/
def bare (status : Status) : Response :=
  ⟨status, [], []⟩

/-- An answer with a text. -/
def plain (status : Status) (text : String) : Response :=
  ⟨status, [⟨"content-type", "text/plain; charset=utf-8"⟩], Utf8.encode text⟩

/-- An answer with a JSON value. -/
def json (status : Status) (value : Value) : Response :=
  ⟨status, [⟨"content-type", "application/json"⟩], value.encode⟩

/-- The answer that tells of a failure. -/
def failureBody (code message : String) : Value :=
  .object [("error_code", .text code), ("message", .text message)]

/-- The answer when the caller is not to blame. -/
def internalError : Response :=
  json 500 (failureBody "internal_error" "internal error")

/-- The answer to a failure of the store. -/
def ofFailure : StoreError → Response
  | .validation reason => json 422 (failureBody "validation_error" reason)
  | .database _ => internalError
  | .serialization _ => internalError

/-- What the journal is told of a failure of the store. -/
def failureRecord? : StoreError → Option Journal.Record
  | .validation _ => none
  | .database error => some ⟨.error, "database error: " ++ error.message, []⟩
  | .serialization error => some ⟨.error, "serialization error: " ++ error.message, []⟩

/-- The failure when an event was submitted that can never be replayed. -/
def refusal (error : EventError) : StoreError :=
  .validation error.message

/-- What is answered when an entry was appended. -/
def appendedBody (id : EntryId) : Value :=
  .object [("id", id.toJson)]

/-- What is answered when so many entries were dropped. -/
def deletedBody (deleted : Nat) : Value :=
  .object [("deleted", .integer deleted)]

end Admin
end OutboxRelay
