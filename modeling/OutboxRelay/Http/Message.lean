import OutboxRelay.Url.Basic

/-!
# HTTP messages

A request names a method and a URL, a response has a status, and both may carry fields
and a body.
-/

namespace OutboxRelay
namespace Http

/-- The method of a request. -/
inductive Method
  | get
  | head
  | post
  | patch
  | delete
  | other (name : String)
  deriving DecidableEq, Repr

namespace Method

/-- The name of a method. -/
def name : Method → String
  | get => "GET"
  | head => "HEAD"
  | post => "POST"
  | patch => "PATCH"
  | delete => "DELETE"
  | other name => name

/-- The methods that have a constructor of their own. -/
def common : List Method :=
  [get, head, post, patch, delete]

/-- The method with a name. -/
def ofName (name : String) : Method :=
  (common.find? fun method => method.name == name).getD (other name)

end Method

/-- A field of a message, its name in lower case. -/
structure Field where
  name : String
  value : String
  deriving DecidableEq, Repr

/-- The content of the first field with a name. -/
def Field.lookup (name : String) (fields : List Field) : Option String :=
  (fields.find? fun field => field.name == name).map Field.value

/-- A request. -/
structure Request where
  method : Method
  url : Url
  fields : List Field
  body : Bytes
  deriving DecidableEq, Repr

/-- The status of an answer, such as 200. -/
abbrev Status := Nat

/-- Whether a status tells of success. -/
def Status.isSuccess (status : Status) : Bool :=
  200 ≤ status && status < 300

/-- A response. -/
structure Response where
  status : Status
  fields : List Field
  body : Bytes
  deriving DecidableEq, Repr

end Http
end OutboxRelay
