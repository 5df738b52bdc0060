import OutboxRelay.Http.Exchange
import OutboxRelay.Json.Value
import OutboxRelay.Text.Base64
import OutboxRelay.Url.Parser

/-!
# A client

A client builds a request step by step and sends it.  It follows redirections, as long
as there are not too many of them.

**Rules.**

* The first fault in building a request is the one that is reported.
* Name and password of a URL turn into the first authorization of a request.
* A redirection keeps method and body, or turns the request into one that only gets.
* An authorization is not passed on to another host.
-/

namespace OutboxRelay
namespace Http

/-- Why a request came to nothing. -/
inductive ClientError
  | unsuitableField
  /-- A URL does not lead to a web server. -/
  | unsuitableUrl (url : String)
  | noResponse (url : String)
  | tooManyRedirections (url : String)
  /-- A body was cut short or is not of the wanted shape. -/
  | undecodableBody
  deriving DecidableEq, Repr

/-- The wording of the reason. -/
def ClientError.message : ClientError → String
  | unsuitableField => "builder error"
  | unsuitableUrl url => "builder error for url (" ++ url ++ ")"
  | noResponse url => "error sending request for url (" ++ url ++ ")"
  | tooManyRedirections url => "error following redirect for url (" ++ url ++ ")"
  | undecodableBody => "error decoding response body"

/-! ## Building a request -/

/-- Whether a character may stand in a field. -/
def isFieldChar (c : Char) : Bool :=
  c = '\t' || (0x20 ≤ c.toNat && c.toNat ≠ 0x7F)

namespace Request

/-- Adds a field. -/
def addField (request : Request) (name value : String) : Request :=
  { request with fields := request.fields ++ [⟨name, value⟩] }

/-- The authorization that stands for a name and a password. -/
def basicAuthorization (name : String) (password : Option String) : String :=
  "Basic " ++
    String.ofList (Base64.encode (Utf8.encode (name ++ ":" ++ password.getD "")))

/-- Moves name and password from the URL to a field, if the name is well formed. -/
def liftUserInfo (request : Request) : Request :=
  match Percent.decode? request.url.username with
  | none => request
  | some name =>
      let password := request.url.password.bind Percent.decode?
      if name = "" ∧ password = none then
        request
      else
        { request with url := request.url.withoutUserInfo }.addField "authorization"
          (basicAuthorization name password)

/-- Starts a request, which has to lead to a host. -/
def start (method : Method) (url : Url) : Except ClientError Request :=
  if url.hasHost then
    .ok (liftUserInfo ⟨method, url, [], []⟩)
  else
    .error (.unsuitableUrl url.text)

/-- Authorizes a request. -/
def authorize (request : Request) (value : String) : Except ClientError Request :=
  if value.toList.all isFieldChar then .ok (request.addField "authorization" value)
  else .error .unsuitableField

/-- Adds a pair to the query of a request. -/
def withPair (request : Request) (name value : String) : Request :=
  { request with url := request.url.withPair name value }

/-- Gives a request a JSON value as its body. -/
def withJson (request : Request) (value : Json.Value) : Request :=
  { request.addField "content-type" "application/json" with body := value.encode }

/-- A request that only gets, in place of another one. -/
def asGet (request : Request) : Request :=
  { request with
    method := .get
    fields := request.fields.filter fun field => field.name ≠ "content-type"
    body := [] }

/-- The request to another URL; a different host does not learn of the authorization. -/
def redirectedTo (request : Request) (url : Url) : Request :=
  let same := url.host = request.url.host ∧
    url.effectivePort? = request.url.effectivePort?
  { request with
    url := url
    fields := if same then request.fields
      else request.fields.filter fun field => field.name ≠ "authorization" }

end Request

/-! ## Redirections -/

/-- Whether a URL leads to a web server. -/
def isWebUrl (url : Url) : Bool :=
  url.scheme = "http" || url.scheme = "https"

/-- The most octets of the text of a URL that is sent. -/
def longestUrl : Nat := 65534

/-- Whether a request to a URL can be sent: all its characters have to be fit for a host. -/
def isSendable (url : Url) : Bool :=
  isWebUrl url && !url.hostText.toList.any (Percent.among "\"<>\\^`\x7b|\x7d") &&
    url.text.utf8ByteSize ≤ longestUrl

/-- The request that a status asks for in place of another one, if it redirects. -/
def redirection? (request : Request) (status : Status) : Option Request :=
  if status = 301 ∨ status = 302 then
    some (if request.method = .post then request.asGet else request)
  else if status = 303 then
    some (if request.method = .get ∨ request.method = .head then request
      else request.asGet)
  else if status = 307 ∨ status = 308 then
    some request
  else
    none

/-- The request that a response redirects to, if it tells where to go. -/
def nextRequest? (request : Request) (response : Response) : Option Request := do
  let next ← redirection? request response.status
  let place ← Field.lookup "location" response.fields
  let url ← (request.url.join place).toOption
  return next.redirectedTo url

/-- How many redirections are followed. -/
def redirectionLimit : Nat := 10

/-- The outcome of a request of which so many redirections are followed. -/
def follow (first : Url) : Nat → Request → OnWeb (Except ClientError Received)
  | hops, request => do
      match ← exchange request with
      | none => return .error (.noResponse first.text)
      | some received =>
          match nextRequest? request received.response with
          | none => return .ok received
          | some next =>
              match hops with
              | 0 => return .error (.tooManyRedirections request.url.textBeforeFragment)
              | hops + 1 =>
                  if isSendable next.url then follow first hops next
                  else return .error (.unsuitableUrl next.url.text)

/-- Sends a request. -/
def send (request : Request) : OnWeb (Except ClientError Received) :=
  if isSendable request.url then follow request.url redirectionLimit request
  else return .error (.unsuitableUrl request.url.text)

end Http
end OutboxRelay
