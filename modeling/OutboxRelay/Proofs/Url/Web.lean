import OutboxRelay.Proofs.Json.Reading
import OutboxRelay.Proofs.Url.Segment
import OutboxRelay.Url.Parser

/-!
# URLs of the web

A URL that leads to a web server always has a path of segments.  Its text tells the segments
behind a given start.

**Results.**
* `exists_rooted_of_parse`: the path of a URL of the web that was read is a row of segments.
* `hasHost_of_parse`: such a URL leads to a host.
* `eq_of_text_eq`: URLs that differ in their last segments only differ in their texts.
-/

namespace OutboxRelay

/-! ## Hosts that are read -/

theorem Host.isPresent_of_ofName {name : String} {host : Host} (read : ofName name = .ok host) :
    host.isPresent = true := by
  unfold ofName at read
  split at read
  case isTrue => cases read
  case isFalse named =>
  split at read
  · obtain ⟨address, -, rfl⟩ := Json.exists_of_map read
    rfl
  · cases read
    exact decide_eq_true named

theorem Host.isPresent_of_ipv6 {chars : List Char} {host : Host} (read : ipv6 chars = .ok host) :
    host.isPresent = true := by
  unfold ipv6 at read
  dsimp only at read
  split at read
  · cases read
    rfl
  · cases read

/-- The host of a special scheme is not empty. -/
theorem Host.isPresent_of_parse {chars : List Char} {host : Host}
    (read : Host.parse chars = .ok host) : host.isPresent = true := by
  unfold Host.parse at read
  split at read
  · unfold bracketed at read
    split at read
    · exact isPresent_of_ipv6 read
    · cases read
  · split at read
    · exact isPresent_of_ofName read
    · cases read

namespace Url

/-! ## Paths that are read -/

section Reading

variable {scheme : String} {chars : List Char} {isClosed : Bool} {url : Url}

/-- Whether a scheme is one of the web. -/
def IsWebScheme (scheme : String) : Prop :=
  scheme = "http" ∨ scheme = "https"

theorem isSpecial_of_isWebScheme {scheme : String} (web : IsWebScheme scheme) :
    isSpecial scheme = true := by
  rcases web with h | h <;> rw [h] <;> decide

theorem exists_rootedPath (scheme : String) (chars : List Char) :
    ∃ segments, rootedPath scheme chars = .rooted segments := by
  cases chars with
  | nil => exact ⟨_, rfl⟩
  | cons c rest => exact ⟨_, rfl⟩

theorem scheme_of_parseFile (read : parseFile chars = .ok url) : url.scheme = "file" := by
  unfold parseFile at read
  split at read
  · cases read
    rfl
  split at read
  · cases read
    rfl
  dsimp only at read
  split at read
  · cases read
    rfl
  split at read
  · cases read
    rfl
  · obtain ⟨host, -, read⟩ := Json.exists_ok_of_bind read
    split at read <;>
      · cases read
        rfl

theorem exists_rooted_of_afterSlashes (read : afterSlashes scheme chars isClosed = .ok url) :
    url.scheme = scheme ∧ ∃ segments, url.path = .rooted segments := by
  unfold afterSlashes at read
  obtain ⟨found, -, read⟩ := Json.exists_ok_of_bind read
  cases read
  exact ⟨rfl, exists_rootedPath scheme _⟩

/-- A URL of the web is read behind the slashes of its authority. -/
theorem exists_rooted_of_parseBody (read : parseBody scheme chars isClosed = .ok url)
    (web : IsWebScheme url.scheme) : ∃ segments, url.path = .rooted segments := by
  have special : isSpecial url.scheme = true := by rcases web with h | h <;> rw [h] <;> decide
  unfold parseBody at read
  split at read
  · rw [IsWebScheme, scheme_of_parseFile read] at web
    exact absurd web (by decide)
  split at read
  · exact (exists_rooted_of_afterSlashes read).2
  · rename_i not_special
    split at read
    · exact (exists_rooted_of_afterSlashes read).2
    · cases read
      exact absurd special not_special
    · cases read
      exact absurd special not_special

theorem exists_rooted_of_parseAbsolute (read : parseAbsolute scheme chars = .ok url)
    (web : IsWebScheme url.scheme) : ∃ segments, url.path = .rooted segments := by
  obtain ⟨found, body_read, read⟩ := Json.exists_ok_of_bind read
  cases read
  obtain ⟨segments, path_eq⟩ := exists_rooted_of_parseBody body_read web
  exact ⟨segments, path_eq⟩

/-- The path of a URL of the web that was read is a row of segments. -/
theorem exists_rooted_of_parse {text : String} (read : parse text = .ok url)
    (web : IsWebScheme url.scheme) : ∃ segments, url.path = .rooted segments := by
  unfold parse at read
  split at read
  · exact exists_rooted_of_parseAbsolute read web
  · exact exists_rooted_of_parseAbsolute read web
  · cases read

/-! ### Authorities -/

theorem isPresent_of_readAuthority {found : Authority} {behind : List Char}
    (special : isSpecial scheme = true)
    (read : readAuthority scheme chars isClosed = .ok (found, behind)) :
    found.host.isPresent = true := by
  unfold readAuthority at read
  dsimp only at read
  split at read
  case isTrue => cases read
  case isFalse =>
    obtain ⟨host, host_read, read⟩ := Json.exists_ok_of_bind read
    have present : host.isPresent = true := by
      rw [parseHost, if_pos special] at host_read
      split at host_read
      · cases host_read
      · exact Host.isPresent_of_parse host_read
    split at read
    case isTrue => cases read
    case isFalse =>
      obtain ⟨port, -, read⟩ := Json.exists_ok_of_bind read
      split at read
      · cases read
      · cases read
        exact present

theorem hasHost_of_afterSlashes (special : isSpecial scheme = true)
    (read : afterSlashes scheme chars isClosed = .ok url) : url.hasHost = true := by
  unfold afterSlashes at read
  obtain ⟨⟨found, behind⟩, found_read, read⟩ := Json.exists_ok_of_bind read
  cases read
  exact isPresent_of_readAuthority special found_read

theorem hasHost_of_parseBody (read : parseBody scheme chars isClosed = .ok url)
    (web : IsWebScheme url.scheme) : url.hasHost = true := by
  have special : isSpecial url.scheme = true := isSpecial_of_isWebScheme web
  unfold parseBody at read
  split at read
  · rw [IsWebScheme, scheme_of_parseFile read] at web
    exact absurd web (by decide)
  split at read
  · rename_i own_special
    exact hasHost_of_afterSlashes own_special read
  · rename_i not_special
    split at read
    · rw [(exists_rooted_of_afterSlashes read).1] at special
      exact absurd special not_special
    · cases read
      exact absurd special not_special
    · cases read
      exact absurd special not_special

/-- A URL of the web that was read leads to a host. -/
theorem hasHost_of_parse {text : String} (read : parse text = .ok url)
    (web : IsWebScheme url.scheme) : url.hasHost = true := by
  have absolute (scheme : String) (chars : List Char)
      (read : parseAbsolute scheme chars = .ok url) : url.hasHost = true := by
    obtain ⟨found, body_read, read⟩ := Json.exists_ok_of_bind read
    cases read
    have hosted : found.hasHost = true := hasHost_of_parseBody body_read web
    exact hosted
  unfold parse at read
  split at read
  · exact absolute _ _ read
  · exact absolute _ _ read
  · cases read

end Reading

/-! ## Paths that are written -/

section Writing

/-- Segments as they are written, each with a slash in front. -/
def written (segments : List String) : List Char :=
  segments.flatMap fun segment => '/' :: segment.toList

theorem toList_text_rooted (segments : List String) :
    (UrlPath.rooted segments).text.toList = written segments := by
  simp only [UrlPath.text, written]
  induction segments with
  | nil => rfl
  | cons segment segments ih => simp [ih]

/-- A segment without slashes is what is written up to the next slash. -/
theorem takeWhile_written {segment : String} (whole : '/' ∉ segment.toList)
    (segments : List String) :
    (segment.toList ++ written segments).takeWhile (· ≠ '/') = segment.toList := by
  rw [List.takeWhile_append_of_pos]
  · cases segments with
    | nil => simp [written]
    | cons next segments => simp [written]
  · intro c among
    have other : c ≠ '/' := by
      rintro rfl
      exact whole among
    simpa using other

/-- Segments without slashes are told by what is written. -/
theorem eq_of_written_eq {segments others : List String}
    (whole : ∀ segment ∈ segments, '/' ∉ segment.toList)
    (others_whole : ∀ segment ∈ others, '/' ∉ segment.toList)
    (same : written segments = written others) : segments = others := by
  induction segments generalizing others with
  | nil =>
      cases others with
      | nil => rfl
      | cons other others => simp [written] at same
  | cons segment segments ih =>
      cases others with
      | nil => simp [written] at same
      | cons other others =>
          have behind : segment.toList ++ written segments = other.toList ++ written others := by
            simpa [written] using same
          have first := takeWhile_written (whole segment (by simp)) segments
          rw [behind, takeWhile_written (others_whole other (by simp))] at first
          obtain rfl : other = segment := String.toList_inj.mp first
          rw [ih (fun next among => whole next (by simp [among]))
            (fun next among => others_whole next (by simp [among]))
            (List.append_cancel_left behind)]

/-- URLs that differ in the segments behind a common start differ in their texts. -/
theorem eq_of_text_eq {base : Url} {front segments others : List String}
    (whole : ∀ segment ∈ segments, '/' ∉ segment.toList)
    (others_whole : ∀ segment ∈ others, '/' ∉ segment.toList)
    (same : { base with path := .rooted (front ++ segments) }.text =
      { base with path := .rooted (front ++ others) }.text) : segments = others := by
  refine eq_of_written_eq whole others_whole ?_
  have text_eq (path : List String) : { base with path := .rooted path }.text.toList =
      (base.scheme ++ ":" ++ base.authorityText).toList ++
        (written path ++ (marked "?" base.query ++ marked "#" base.fragment).toList) := by
    rw [← toList_text_rooted]
    simp only [text, textBeforeFragment, String.toList_append, List.append_assoc]
    rfl
  have chars_eq := congrArg String.toList same
  rw [text_eq, text_eq] at chars_eq
  have paths_eq := List.append_cancel_right (List.append_cancel_left chars_eq)
  simp only [written, List.flatMap_append] at paths_eq
  exact List.append_cancel_left paths_eq

end Writing

end Url
end OutboxRelay
