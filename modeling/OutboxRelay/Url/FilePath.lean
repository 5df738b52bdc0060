import OutboxRelay.Url.Basic

/-!
# Paths of files

The path of a file may start with a drive, which is written as a letter and a colon.
A bar in place of the colon is understood.  A drive belongs to no host, so that a path
with a drive makes the host of its URL void.

A line break behind the colon of a drive ends its segment, if more characters follow.
-/

namespace OutboxRelay
namespace Url

/-- The segments walked so far, and whether the first one was found to be a drive. -/
structure FilePath where
  segments : List String
  hasDrive : Bool
  deriving DecidableEq, Repr

namespace FilePath

/-- Whether a character separates the segments of the path of a file. -/
def isSlash (c : Char) : Bool :=
  c = '/' || c = '\\'

/-- A segment in its encoded form. -/
def encoded (chars : List Char) : String :=
  String.ofList (Percent.encode Percent.path (kept chars))

/-- The name of a drive with its colon. -/
def driveName (segment : String) : String :=
  String.ofList (segment.toList.take 1 ++ [':'])

/-- A drive with a line break behind it, and the characters behind the break. -/
def brokenDrive? (chars : List Char) : Option (String × List Char) :=
  match kept (chars.takeWhile (· ≠ ':')), chars.dropWhile (· ≠ ':') with
  | [letter], ':' :: behind =>
      if letter.isAlpha && behind.head?.any isDropped && kept behind ≠ [] then
        some (String.ofList [letter, ':'], kept behind)
      else
        none
  | _, _ => none

/-- The path after a step that is its first one with a name. -/
def enter (chars : List Char) : FilePath :=
  match brokenDrive? chars with
  | some (drive, behind) => ⟨[drive, encoded behind], false⟩
  | none =>
      let segment := encoded chars
      if isDrive segment then ⟨[driveName segment], true⟩ else ⟨[segment], false⟩

/-- The path after one more step. -/
def step (isLast : Bool) (path : FilePath) (chars : List Char) : FilePath :=
  let segment := encoded chars
  if path.segments = [] ∧ !isDoubleDot segment ∧ !isSingleDot segment then
    let entered := enter chars
    { entered with hasDrive := path.hasDrive || entered.hasDrive }
  else
    { path with segments := walk isLast path.segments segment }

/-- The path after all steps. -/
def stepAll (path : FilePath) : List (List Char) → FilePath
  | [] => path
  | [last] => step true path last
  | chars :: steps => stepAll (step false path chars) steps

/-- The path along some characters, which starts with some segments already. -/
def along (segments : List String) (chars : List Char) : FilePath :=
  stepAll ⟨segments, false⟩ (chars.splitOnP isSlash)

/-- The path without the empty segments at its start. -/
def urlPath (path : FilePath) : UrlPath :=
  match path.segments.dropWhile (· = "") with
  | [] => .rooted [""]
  | segments => .rooted segments

end FilePath
end Url
end OutboxRelay
