/-!
# The journal

What happens is recorded for an operator.  A record has a level, a message, and fields
that hold texts or numbers.
-/

namespace OutboxRelay
namespace Journal

/-- The levels of a record, the gravest one first. -/
inductive Level
  | error
  | warn
  | info
  | debug
  deriving DecidableEq, Repr

/-- The content of a field. -/
inductive Datum
  | text (value : String)
  | number (value : Int)
  deriving DecidableEq, Repr

/-- A record of the journal. -/
structure Record where
  level : Level
  message : String
  fields : List (String × Datum)
  deriving DecidableEq, Repr

/-- A record of one component. -/
def Record.of (component : String) (level : Level) (message : String)
    (fields : List (String × Datum)) : Record :=
  ⟨level, message, ("component", .text component) :: fields⟩

end Journal
end OutboxRelay
