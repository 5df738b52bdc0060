import OutboxRelay.Dispatch.Pass
import OutboxRelay.Net.SocketAddress
import OutboxRelay.Text.Quoted
import OutboxRelay.Url.Parser

/-!
# Configuration

The configuration is read from named texts, such as the variables of an environment.
Two of them have to be there; every other one has a default.

**Results.** `ofLookup` reads the variables in a fixed order and reports the first one
that is missing or unsuitable.
-/

namespace OutboxRelay

/-- Why there is no configuration. -/
inductive ConfigError
  | missing (key : String)
  | invalid (key value reason : String)
  deriving DecidableEq, Repr

/-- The wording of the reason. -/
def ConfigError.message : ConfigError → String
  | missing key => key ++ " must be set"
  | invalid key value reason =>
      key ++ ": invalid value " ++ Text.quoted value ++ ": " ++ reason

/-- The configuration; the timeout of a call downstream is in seconds. -/
structure Config where
  databaseUrl : String
  listenAddress : Net.SocketAddress
  downstreamUrl : Url
  downstreamTimeout : Nat
  dispatch : Dispatch.Settings
  deriving DecidableEq, Repr

namespace Config

open Number (IntegerRange)

/-- Where a text for a key comes from, if there is one. -/
abbrev Lookup := String → Option String

/-- The text for a key, which has to be there. -/
def required (lookup : Lookup) (key : String) : Except ConfigError String :=
  match lookup key with
  | some text => .ok text
  | none => .error (.missing key)

/-- The value of the text for a key. -/
def parsed {α : Type} (key text : String) (parse : String → Except String α) :
    Except ConfigError α :=
  match parse text with
  | .ok value => .ok value
  | .error reason => .error (.invalid key text reason)

/-- The value for a key, if there is a text for it. -/
def optional {α : Type} (lookup : Lookup) (key : String)
    (parse : String → Except String α) : Except ConfigError (Option α) :=
  match lookup key with
  | none => .ok none
  | some text => (parsed key text parse).map some

/-- The value for a key, or a default. -/
def withDefault {α : Type} (lookup : Lookup) (key : String)
    (parse : String → Except String α) (absent : α) : Except ConfigError α :=
  (optional lookup key parse).map fun value => value.getD absent

/-- Reads a URL. -/
def url (text : String) : Except String Url :=
  (Url.parse text).mapError UrlFault.message

/-- Reads a socket address. -/
def address (text : String) : Except String Net.SocketAddress :=
  match Net.SocketAddress.parse? text with
  | some address => .ok address
  | none => .error "invalid socket address syntax"

/-- Reads an integer of a range. -/
def integer (range : IntegerRange) (text : String) : Except String Int :=
  (range.parse text).mapError Number.IntegerFault.message

/-- Reads an integer of sixty-four bits that is not negative. -/
def natural (text : String) : Except String Nat :=
  (integer (.unsigned 64) text).map Int.toNat

/-- The address that is listened on by default: port 3000 of every interface. -/
def defaultAddress : Net.SocketAddress :=
  .v4 (.ofOctets [0, 0, 0, 0]) 3000

/-- The timeout of a call downstream by default, in seconds. -/
def defaultTimeout : Nat := 30

/-- A limit of attempts, which has to allow for one. -/
def attemptLimit (limit : Option Int) : Except ConfigError (Option Int) :=
  match limit with
  | none => .ok none
  | some limit =>
      if limit < 1 then
        .error (.invalid "OUTBOX_MAX_ATTEMPTS" (toString limit) "must be at least 1")
      else
        .ok (some limit)

/-- Reads the configuration. -/
def ofLookup (lookup : Lookup) : Except ConfigError Config := do
  let absent := Dispatch.Settings.default
  let databaseUrl ← required lookup "DATABASE_URL"
  let downstreamText ← required lookup "VULNDB_URL"
  let downstreamUrl ← parsed "VULNDB_URL" downstreamText url
  let listenAddress ← withDefault lookup "LISTEN_ADDR" address defaultAddress
  let downstreamTimeout ←
    withDefault lookup "VULNDB_TIMEOUT_SECS" natural defaultTimeout
  let lockId ← withDefault lookup "OUTBOX_LOCK_ID" (integer (.signed 64)) absent.lockId
  let startupDelay ←
    withDefault lookup "OUTBOX_STARTUP_DELAY_MS" natural absent.startupDelay
  let retryDelay ←
    withDefault lookup "OUTBOX_RETRY_DELAY_MS" natural absent.retryDelay
  let limit ← optional lookup "OUTBOX_MAX_ATTEMPTS" (integer (.signed 32))
  let maxAttempts ← attemptLimit limit
  return ⟨databaseUrl, listenAddress, downstreamUrl, downstreamTimeout,
    ⟨lockId, startupDelay, retryDelay, maxAttempts⟩⟩

end Config
end OutboxRelay
