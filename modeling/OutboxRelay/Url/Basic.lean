import OutboxRelay.Url.Host

/-!
# URLs

A URL is kept in parts, each in the form in which it is printed: what must not stand
for itself in a part is percent-encoded there.

**Rules.**

* A special scheme has a default port, which is left out, and a path that is never
  empty.
* A path is a row of segments, each with a slash in front, or a text as it stands.
* Without a host, a path that starts with an empty segment has a fence in front, since
  the two slashes would announce a host.
-/

namespace OutboxRelay

/-- The path of a URL. -/
inductive UrlPath
  | rooted (segments : List String)
  | rootless (text : String)
  deriving DecidableEq, Repr

/-- The text of a path. -/
def UrlPath.text : UrlPath → String
  | rooted segments => String.join (segments.map fun segment => "/" ++ segment)
  | rootless text => text

/-- Whether a path starts with an empty segment that others follow. -/
def UrlPath.startsEmpty : UrlPath → Bool
  | rooted ("" :: _ :: _) => true
  | _ => false

/-- A URL.  The fence in front of the path is put up when the URL is read. -/
structure Url where
  scheme : String
  username : String
  password : Option String
  host : Option Host
  port : Option Nat
  isFenced : Bool
  path : UrlPath
  query : Option String
  fragment : Option String
  deriving DecidableEq, Repr

namespace Url

/-- The default port of each special scheme that has one. -/
def defaultPorts : List (String × Nat) :=
  [("http", 80), ("https", 443), ("ws", 80), ("wss", 443), ("ftp", 21)]

/-- The default port of a scheme. -/
def defaultPort? (scheme : String) : Option Nat :=
  defaultPorts.lookup scheme

/-- Whether a scheme is special. -/
def isSpecial (scheme : String) : Bool :=
  scheme = "file" || (defaultPort? scheme).isSome

/-- The name and the password in front of a host. -/
def userInfoText (url : Url) : String :=
  let password := match url.password with
    | none => ""
    | some password => ":" ++ password
  if url.username = "" ∧ url.password = none then ""
  else url.username ++ password ++ "@"

/-- A mark and what follows it, if anything does. -/
def marked (mark : String) : Option String → String
  | none => ""
  | some text => mark ++ text

/-- The part of the text between scheme and path. -/
def authorityText (url : Url) : String :=
  match url.host with
  | some host =>
      "//" ++ url.userInfoText ++ host.text ++ marked ":" (url.port.map toString)
  | none => if url.isFenced then "/." else ""

/-- The text of a URL without its fragment. -/
def textBeforeFragment (url : Url) : String :=
  url.scheme ++ ":" ++ url.authorityText ++ url.path.text ++ marked "?" url.query

/-- The text of a URL. -/
def text (url : Url) : String :=
  url.textBeforeFragment ++ marked "#" url.fragment

/-- Whether a URL has a host that is not empty. -/
def hasHost (url : Url) : Bool :=
  url.host.any Host.isPresent

/-- The port that a URL leads to. -/
def effectivePort? (url : Url) : Option Nat :=
  url.port <|> defaultPort? url.scheme

/-- The host and port of a URL, as a server sees them. -/
def hostText (url : Url) : String :=
  (match url.host with
    | none => ""
    | some host => host.text) ++ marked ":" (url.port.map toString)

/-- Whether a character is dropped wherever it stands in a text. -/
def isDropped (c : Char) : Bool :=
  c = '\t' || c = '\n' || c = '\r'

/-- The characters that are not dropped. -/
def kept (chars : List Char) : List Char :=
  chars.filter fun c => !isDropped c

/-! ## Segments -/

/-- Whether a segment stands for the place where it is. -/
def isSingleDot (segment : String) : Bool :=
  segment.toLower = "." || segment.toLower = "%2e"

/-- Whether a segment stands for the place one level up. -/
def isDoubleDot (segment : String) : Bool :=
  ["..", ".%2e", "%2e.", "%2e%2e"].contains segment.toLower

/-- Whether a segment names a drive: a letter, and a colon or a bar. -/
def isDrive (segment : String) : Bool :=
  match segment.toList with
  | [letter, mark] => letter.isAlpha && (mark = ':' || mark = '|')
  | _ => false

/-- The segments one level up, unless the last one names a drive. -/
def shorten (segments : List String) : List String :=
  if segments.getLast?.any isDrive then segments else segments.dropLast

/-- The segments after one more step along a path. -/
def walk (isLast : Bool) (segments : List String) (segment : String) : List String :=
  let closed (segments : List String) : List String :=
    if isLast then segments ++ [""] else segments
  if isDoubleDot segment then closed (shorten segments)
  else if isSingleDot segment then closed segments
  else segments ++ [segment]

/-- The segments after all steps along a path. -/
def walkAll (segments : List String) : List String → List String
  | [] => segments
  | [last] => walk true segments last
  | step :: steps => walkAll (walk false segments step) steps

/-! ## Additions -/

/-- A single segment in its encoded form. -/
def encodedSegment (scheme text : String) : String :=
  let part := if isSpecial scheme then Percent.specialSegment else Percent.segment
  String.ofList (Percent.encode part (kept text.toList))

/-- The segments with one more behind them; a lone empty segment makes room for it. -/
def appendSegment (segments : List String) (segment : String) : List String :=
  (if segments = [""] then [] else segments) ++ [segment]

/--
The segments with one more behind them, as long as the text is not one of the names for
a place.  A text that turns into such a name when it is encoded leads there.
-/
def extendBy (scheme : String) (segments : List String) (text : String) : List String :=
  let segment := encodedSegment scheme text
  if text = "." ∨ text = ".." then segments
  else if isDoubleDot segment then shorten segments ++ [""]
  else if isSingleDot segment then appendSegment segments ""
  else appendSegment segments segment

/-- The segments without an empty one at the end, which may not be the only one. -/
def withoutEmptyEnd (segments : List String) : List String :=
  if 1 < segments.length ∧ segments.getLast? = some "" then segments.dropLast
  else segments

/-- A URL with more segments, if its path has segments at all. -/
def extend? (url : Url) (texts : List String) : Option Url :=
  match url.path with
  | .rooted segments =>
      let segments := texts.foldl (extendBy url.scheme) (withoutEmptyEnd segments)
      some { url with path := .rooted segments }
  | .rootless _ => none

/-- A URL whose query has one more pair. -/
def withPair (url : Url) (name value : String) : Url :=
  let pair := Percent.encodeForm name ++ "=" ++ Percent.encodeForm value
  let query := match url.query with
    | none => pair
    | some "" => pair
    | some query => query ++ "&" ++ pair
  { url with query := some query }

/-- A URL without name and password. -/
def withoutUserInfo (url : Url) : Url :=
  { url with username := "", password := none }

end Url
end OutboxRelay
