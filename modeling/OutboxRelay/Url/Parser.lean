import OutboxRelay.Url.FilePath

/-!
# Reading URLs

A URL is read from its text, or from a text that is relative to another URL.

**Algorithm.**

1. Controls and blanks around the text and line breaks inside it are dropped.
2. The fragment and the query are split off.
3. What stands in front of them has a scheme, and perhaps an authority, and a path
   that is walked segment by segment.
-/

namespace OutboxRelay
namespace Url

/-- A row of characters without those at its ends that meet a condition. -/
def trimmed (condition : Char → Bool) (chars : List Char) : List Char :=
  ((chars.dropWhile condition).reverse.dropWhile condition).reverse

/-- The characters of a text between the controls and blanks around it. -/
def inner (text : String) : List Char :=
  trimmed (fun c => c.toNat ≤ 0x20) text.toList

/-- The characters of a text that count. -/
def relevant (text : String) : List Char :=
  kept (inner text)

/-- What stands in front of a mark and, if it is there, what stands behind it. -/
def splitAt (mark : Char) (chars : List Char) : List Char × Option (List Char) :=
  match chars.dropWhile (· ≠ mark) with
  | [] => (chars, none)
  | _ :: behind => (chars.takeWhile (· ≠ mark), some behind)

/-- Whether a character may stand in a scheme behind its first letter. -/
def isSchemeChar (c : Char) : Bool :=
  c.isAlphanum || c = '+' || c = '-' || c = '.'

/-- The scheme in front of a colon, and what stands behind it. -/
def takeScheme? (chars : List Char) : Option (String × List Char) :=
  match chars with
  | first :: _ =>
      let scheme := chars.takeWhile isSchemeChar
      match chars.dropWhile isSchemeChar with
      | ':' :: rest =>
          if first.isAlpha then some (String.ofList (scheme.map Char.toLower), rest)
          else none
      | _ => none
  | [] => none

/-- Whether a character separates the segments of a path. -/
def isSlash (special : Bool) (c : Char) : Bool :=
  c = '/' || (special && c = '\\')

/-! ## Authorities -/

/-- The last sign in a row that ends a name or password, and what stands around it. -/
def splitUserInfo (authority : List Char) : Option (List Char) × List Char :=
  if authority.contains '@' then
    let host := (authority.reverse.takeWhile (· ≠ '@')).reverse
    (some (authority.take (authority.length - host.length - 1)), host)
  else
    (none, authority)

/-- An encoded name or password. -/
def encodedUserInfo (chars : List Char) : String :=
  String.ofList (Percent.encode Percent.userInfo chars)

/-- The name and the password, which counts only if it is not empty. -/
def userInfo (chars : List Char) : String × Option String :=
  let (name, password) := splitAt ':' chars
  (encodedUserInfo name, (password.filter (· ≠ [])).map encodedUserInfo)

/-- The characters of a host, which ends at a colon outside of brackets. -/
def hostChars : Bool → List Char → List Char
  | _, [] => []
  | inside, c :: rest =>
      if c = ':' ∧ !inside then []
      else c :: hostChars ((inside || c = '[') && c ≠ ']') rest

/-- A port of five digits or less within range, and what stands behind it. -/
def portFrom : Nat → List Char → Except UrlFault (Nat × List Char)
  | port, [] => .ok (port, [])
  | port, c :: rest =>
      match Number.decimalDigit? c with
      | some digit =>
          let port := port * 10 + digit
          if 65535 < port then .error .invalidPort else portFrom port rest
      | none => if c = '\\' then .ok (port, c :: rest) else .error .invalidPort

/-- The port behind a host, unless it is the default one, and what stands behind it. -/
def readPort (scheme : String) (chars : List Char) :
    Except UrlFault (Option Nat × List Char) :=
  match chars with
  | ':' :: digits => do
      let (port, behind) ← portFrom 0 digits
      let hasDigits := behind.length < digits.length
      if hasDigits ∧ defaultPort? scheme ≠ some port then
        return (some port, behind)
      else
        return (none, behind)
  | _ => .ok (none, chars)

/-- The host of a scheme. -/
def parseHost (scheme : String) (chars : List Char) : Except UrlFault Host :=
  if isSpecial scheme then
    if chars = [] then .error .emptyHost else Host.parse chars
  else
    Host.parseAsIs chars

/-- What stands between the two slashes and the path. -/
structure Authority where
  username : String
  password : Option String
  host : Host
  port : Option Nat

/-- Reads an authority, and what is left of it for the path. -/
def readAuthority (scheme : String) (chars : List Char) (isClosed : Bool) :
    Except UrlFault (Authority × List Char) := do
  let (info, hostAndPort) := splitUserInfo chars
  if info = some [] ∧ hostAndPort = [] ∧ isClosed then
    throw .emptyHost
  let (username, password) := userInfo (info.getD [])
  let name := hostChars false hostAndPort
  let host ← parseHost scheme name
  let behind := hostAndPort.drop name.length
  if !host.isPresent ∧ behind.head? = some ':' then
    throw .emptyHost
  let (port, behind) ← readPort scheme behind
  if !host.isPresent ∧ (username ≠ "" ∨ password ≠ none) then
    throw .emptyHost
  return (⟨username, password, host, port⟩, behind)

/-! ## Paths -/

/-- The segments of a row of characters, encoded as they stand in a path. -/
def encodedSegments (special : Bool) (chars : List Char) : List String :=
  (chars.splitOnP (isSlash special)).map fun segment =>
    String.ofList (Percent.encode Percent.path segment)

/-- The segments of a path that starts with some segments already. -/
def segmentsFrom (scheme : String) (segments : List String) (chars : List Char) :
    List String :=
  if scheme = "file" then (FilePath.along segments chars).segments
  else walkAll segments (encodedSegments (isSpecial scheme) chars)

/-- The path behind an authority. -/
def rootedPath (scheme : String) (chars : List Char) : UrlPath :=
  match chars with
  | [] => .rooted (if isSpecial scheme then [""] else [])
  | c :: rest =>
      .rooted (segmentsFrom scheme []
        (if isSlash (isSpecial scheme) c then rest else chars))

/-! ## Whole texts -/

/-- The query and the fragment of a text, and what stands in front of them. -/
structure Split where
  body : List Char
  query : Option (List Char)
  fragment : Option (List Char)

/-- Splits the query and the fragment off. -/
def split (chars : List Char) : Split :=
  let (front, fragment) := splitAt '#' chars
  let (body, query) := splitAt '?' front
  ⟨body, query, fragment⟩

/-- An encoded query. -/
def encodedQuery (scheme : String) (chars : List Char) : String :=
  let part := if isSpecial scheme then Percent.specialQuery else Percent.query
  String.ofList (Percent.encode part (kept chars))

/-- An encoded fragment. -/
def encodedFragment (chars : List Char) : String :=
  String.ofList (Percent.encode Percent.fragment (kept chars))

/-- A URL with another path. -/
def withPath (url : Url) (path : UrlPath) : Url :=
  { url with path := path, isFenced := path.startsEmpty }

/-- A URL without authority. -/
def bare (scheme : String) (path : UrlPath) : Url :=
  ⟨scheme, "", none, none, none, path.startsEmpty, path, none, none⟩

/-- A URL with the query and the fragment of a split text. -/
def withEnds (url : Url) (parts : Split) : Url :=
  { url with
    query := parts.query.map (encodedQuery url.scheme)
    fragment := parts.fragment.map encodedFragment }

/-- Reads what stands behind the slashes in front of an authority. -/
def afterSlashes (scheme : String) (chars : List Char) (isClosed : Bool) :
    Except UrlFault Url := do
  let isEnd := isSlash (isSpecial scheme)
  let front := chars.takeWhile fun c => !isEnd c
  let path := chars.dropWhile fun c => !isEnd c
  let (found, behind) ← readAuthority scheme front (isClosed || path ≠ [])
  return { bare scheme (rootedPath scheme (behind ++ path)) with
    username := found.username
    password := found.password
    host := some found.host
    port := found.port }

/-- What stands behind a slash in front, line breaks before it aside. -/
def behindSlash? (chars : List Char) : Option (List Char) :=
  match chars.dropWhile isDropped with
  | c :: rest => if FilePath.isSlash c then some rest else none
  | [] => none

/-- The URL of a file on a host, which a drive makes void. -/
def fileUrl (host : Host) (path : FilePath) : Url :=
  { bare "file" path.urlPath with
    host := some (if path.hasDrive then .domain "" else host) }

/--
Reads the URL of a file behind its colon.  Where the host is left out, the slash of the
path sets an empty segment off, so that no drive follows it.
-/
def parseFile (chars : List Char) : Except UrlFault Url :=
  match behindSlash? chars with
  | none => .ok (fileUrl (.domain "") (.along [] chars))
  | some path =>
      match behindSlash? path with
      | none => .ok (fileUrl (.domain "") (.along [] path))
      | some rest =>
          let name := kept (rest.takeWhile fun c => !FilePath.isSlash c)
          let path := (rest.dropWhile fun c => !FilePath.isSlash c).drop 1
          if name = [] then
            .ok (fileUrl (.domain "") (.along [""] path))
          else if isDrive (String.ofList name) then
            .ok (fileUrl (.domain "") (.along [] rest))
          else do
            let host ← Host.parse name
            if host = .domain "localhost" then
              return fileUrl (.domain "") (.along [""] path)
            else
              return fileUrl host (.along [] path)

/-- Reads what stands behind the scheme of a URL. -/
def parseBody (scheme : String) (chars : List Char) (isClosed : Bool) :
    Except UrlFault Url :=
  if scheme = "file" then
    parseFile chars
  else if isSpecial scheme then
    afterSlashes scheme (chars.dropWhile (isSlash true)) isClosed
  else
    match chars with
    | '/' :: '/' :: rest => afterSlashes scheme rest isClosed
    | '/' :: rest => .ok (bare scheme (.rooted (segmentsFrom scheme [] rest)))
    | _ =>
        .ok (bare scheme
          (.rootless (String.ofList (Percent.encode Percent.controls chars))))

/-- Reads a URL with its scheme. -/
def parseAbsolute (scheme : String) (chars : List Char) : Except UrlFault Url := do
  let parts := split chars
  let isClosed := parts.query.isSome || parts.fragment.isSome
  let url ← parseBody scheme parts.body isClosed
  return url.withEnds parts

/-- The URL that a text denotes; line breaks count for files only. -/
def parse (text : String) : Except UrlFault Url :=
  match takeScheme? (relevant text) with
  | some ("file", _) =>
      parseAbsolute "file" (((inner text).dropWhile (· ≠ ':')).drop 1)
  | some (scheme, rest) => parseAbsolute scheme rest
  | none => .error .relativeWithoutBase

/-- How many slashes stand at the start of a row. -/
def slashes (special : Bool) (chars : List Char) : Nat :=
  (chars.takeWhile (isSlash special)).length

/-- The URL that a text without scheme denotes relative to another one. -/
def joinRelative (base : Url) (chars : List Char) : Except UrlFault Url := do
  let special := isSpecial base.scheme
  let parts := split chars
  match base.path with
  | .rootless _ =>
      if chars.head? = some '#' then
        return { base with fragment := parts.fragment.map encodedFragment }
      else
        throw .relativeToRootless
  | .rooted segments =>
      if parts.body = [] then
        let query :=
          match parts.query with
          | none => base.query
          | some query => some (encodedQuery base.scheme query)
        return { base with
          query := query, fragment := parts.fragment.map encodedFragment }
      else if 2 ≤ slashes special parts.body then
        parseAbsolute base.scheme chars
      else if slashes special parts.body = 1 then
        let path := segmentsFrom base.scheme [] (parts.body.drop 1)
        return (base.withPath (.rooted path)).withEnds parts
      else
        let stays := base.scheme = "file" && segments.getLast?.any isDrive
        let start := if stays then segments else segments.dropLast
        let path := segmentsFrom base.scheme start parts.body
        return (base.withPath (.rooted path)).withEnds parts

/-- The URL that a text denotes relative to another one. -/
def join (base : Url) (text : String) : Except UrlFault Url :=
  let chars := relevant text
  match takeScheme? chars with
  | some (scheme, rest) =>
      if isSpecial scheme ∧ scheme = base.scheme ∧ slashes true rest < 2 then
        joinRelative base rest
      else
        parseAbsolute scheme rest
  | none => joinRelative base chars

end Url
end OutboxRelay
