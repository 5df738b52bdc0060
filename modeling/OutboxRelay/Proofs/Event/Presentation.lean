import OutboxRelay.Proofs.Event.Payload
import OutboxRelay.Proofs.Json.Presentation

/-!
# Presentations of events

A payload may show its event in many ways: with the members of each object in any order, with
members that nobody asks for, with any escapes and blanks, and with or without a member for absent
notes.

**Rules.**
* What is decoded depends on the declared members only.
* A required member that is missing, a declared one that is repeated, in the payload or in an asset
  or a team inside it, and anything behind the payload make it unreadable.

**Results.** `Event.presented` says what is decoded of every payload that shows an event, and of
every one that is spoiled.
-/

namespace OutboxRelay

open Json (Blank Meanings Quotation Row ShowsInteger ShowsNotes ShowsText Showings Tree)
open Json (shownRow_cons shows_of_shownRow showsInteger_tree showsText_tree)

/-! ## Teams and assets -/

namespace Team

/-- Whether a tree shows a team. -/
def Shows (team : Team) : Tree → Prop :=
  Json.Shows record.fields (ShowsText, ShowsText, ()) (team.id, team.tag, ())

/-- How an object for a team is spoiled. -/
def Spoils : Tree → Tree → Prop :=
  Json.Spoils record.fields fun _ _ _ => False

theorem denote_of_shows {team : Team} {tree : Tree} (shows : team.Shows tree) (depth : Nat) :
    record.denote meanings (depth + 1) tree = some team :=
  record.denote_of_shows (by decide)
    ⟨fun _ => ShowsText.textOf?_eq, fun _ => ShowsText.textOf?_eq, trivial⟩ shows

theorem denote_of_spoils {tree spoiled : Tree} (spoils : Spoils tree spoiled) {depth : Nat}
    (meant : (record.denote meanings depth tree).isSome) :
    record.denote meanings depth spoiled = none :=
  record.denote_of_spoils (by decide) (fun _ => ⟨nofun, nofun, trivial⟩) spoils meant

/-- The tree of a team shows it. -/
theorem shows_tree (team : Team) : team.Shows team.toJson.tree :=
  shows_of_shownRow (shownRow_cons (showsText_tree team.id)
    (shownRow_cons (showsText_tree team.tag) rfl))

end Team

namespace Asset

/-- Whether a tree shows an asset. -/
def Shows (asset : Asset) : Tree → Prop :=
  Json.Shows record.fields (ShowsText, ShowsText, Team.Shows, ())
    (asset.id, asset.identifier, asset.team, ())

/-- How an object for an asset is spoiled. -/
def Spoils : Tree → Tree → Prop :=
  Json.Spoils record.fields fun name tree spoiled => name = "team" ∧ Team.Spoils tree spoiled

theorem denote_of_shows {asset : Asset} {tree : Tree} (shows : asset.Shows tree) (depth : Nat) :
    record.denote meanings (depth + 2) tree = some asset :=
  record.denote_of_shows (by decide)
    ⟨fun _ => ShowsText.textOf?_eq, fun _ => ShowsText.textOf?_eq,
      fun _ shows => Team.denote_of_shows shows depth, trivial⟩ shows

theorem denote_of_spoils {tree spoiled : Tree} (spoils : Spoils tree spoiled) {depth : Nat}
    (meant : (record.denote meanings depth tree).isSome) :
    record.denote meanings depth spoiled = none :=
  record.denote_of_spoils (by decide) (fun _ => ⟨nofun, nofun, fun _ _ spoils =>
    Team.denote_of_spoils spoils.2, trivial⟩) spoils meant

/-- The tree of an asset shows it. -/
theorem shows_tree (asset : Asset) : asset.Shows asset.toJson.tree :=
  shows_of_shownRow (shownRow_cons (showsText_tree asset.id)
    (shownRow_cons (showsText_tree asset.identifier)
      (shownRow_cons asset.team.shows_tree rfl)))

end Asset

/-! ## Events -/

namespace Event

/-- What the fields of an event may be written as. -/
def showings : (action : Action) → Showings (record action).fields
  | .deleteTeam => (Team.Shows, ())
  | .createAsset => (Asset.Shows, ())
  | .deleteAsset => (Asset.Shows, ShowsInteger, ())
  | .updateAsset => (Asset.Shows, Asset.Shows, ShowsInteger, ())
  | .deleteAllAssets => (Team.Shows, ())
  | .findingOverwrite => (ShowsText, ShowsText, ShowsText, ShowsNotes, ())

/-- The values of the fields of an event. -/
def row : (event : Event) → Row (record event.action).fields
  | .deleteTeam team => (team, ())
  | .createAsset asset => (asset, ())
  | .deleteAsset asset duplicates => (asset, duplicates.toInt, ())
  | .updateAsset old new duplicates => (old, new, duplicates.toInt, ())
  | .deleteAllAssets team => (team, ())
  | .overwriteFinding finding =>
      (finding.findingId, finding.tag, finding.status, finding.notes, ())

/-- Whether a tree shows an event. -/
def Shows (event : Event) : Tree → Prop :=
  Json.Shows (record event.action).fields (showings event.action) event.row

/-- How the value of a member of a payload is spoiled, which is a team or an asset then. -/
inductive SpoilsPart : String → Tree → Tree → Prop
  | team {tree spoiled : Tree} (spoils : Team.Spoils tree spoiled) :
      SpoilsPart "team" tree spoiled
  | asset {name : String} {tree spoiled : Tree} (named : name ∈ ["asset", "old_asset", "new_asset"])
      (spoils : Asset.Spoils tree spoiled) : SpoilsPart name tree spoiled

/-- How a payload for an action is spoiled, or an asset or a team inside it. -/
def Spoils (action : Action) : Tree → Tree → Prop :=
  Json.Spoils (record action).fields SpoilsPart

theorem build_row (event : Event) : (record event.action).build event.row = event := by
  cases event with
  | deleteAsset asset duplicates =>
      exact congrArg (Event.deleteAsset asset) (Int64.ofInt_toInt duplicates)
  | updateAsset old new duplicates =>
      exact congrArg (Event.updateAsset old new) (Int64.ofInt_toInt duplicates)
  | _ => rfl

/-- All that the values of an event may be written as denotes them. -/
theorem mean (event : Event) :
    Showings.Mean 126 (record event.action).fields (showings event.action)
      (meanings event.action) event.row := by
  have team (team : Team) (tree : Tree) (shows : team.Shows tree) :=
    Team.denote_of_shows shows 125
  have asset (asset : Asset) (tree : Tree) (shows : asset.Shows tree) :=
    Asset.denote_of_shows shows 124
  have text (text : String) (tree : Tree) (shows : ShowsText text tree) := shows.textOf?_eq
  have integer (value : Int64) (tree : Tree) (shows : ShowsInteger value.toInt tree) :=
    shows.integerOf?_eq
  cases event with
  | deleteTeam t => exact ⟨team t, trivial⟩
  | createAsset a => exact ⟨asset a, trivial⟩
  | deleteAsset a duplicates => exact ⟨asset a, integer duplicates, trivial⟩
  | updateAsset old new duplicates =>
      exact ⟨asset old, asset new, integer duplicates, trivial⟩
  | deleteAllAssets t => exact ⟨team t, trivial⟩
  | overwriteFinding finding =>
      exact ⟨text finding.findingId, text finding.tag, text finding.status,
        fun _ => ShowsNotes.optionalTextOf?_eq, trivial⟩

/-- What was spoiled inside a payload denotes nothing. -/
theorem refuse (action : Action) (depth : Nat) :
    Meanings.Refuse depth SpoilsPart (record action).fields (meanings action) := by
  have team (tree spoiled : Tree) (spoils : SpoilsPart "team" tree spoiled) :
      (Team.record.denote Team.meanings depth tree).isSome →
        Team.record.denote Team.meanings depth spoiled = none := by
    cases spoils with
    | team spoils => exact Team.denote_of_spoils spoils
    | asset named spoils => exact absurd named (by decide)
  have asset (name : String) (other : name ≠ "team") (tree spoiled : Tree)
      (spoils : SpoilsPart name tree spoiled) :
      (Asset.record.denote Asset.meanings depth tree).isSome →
        Asset.record.denote Asset.meanings depth spoiled = none := by
    cases spoils with
    | team spoils => exact absurd rfl other
    | asset named spoils => exact Asset.denote_of_spoils spoils
  have never {α : Type} (denote : Tree → Option α) (name : String)
      (other : name ∉ ["team", "asset", "old_asset", "new_asset"]) (tree spoiled : Tree)
      (spoils : SpoilsPart name tree spoiled) :
      (denote tree).isSome → denote spoiled = none := by
    cases spoils with
    | team spoils => exact absurd List.mem_cons_self other
    | asset named spoils => exact absurd (List.mem_cons_of_mem _ named) other
  cases action with
  | deleteTeam => exact ⟨team, trivial⟩
  | createAsset => exact ⟨asset "asset" (by decide), trivial⟩
  | deleteAsset =>
      exact ⟨asset "asset" (by decide), never _ "dup_assets" (by decide), trivial⟩
  | updateAsset =>
      exact ⟨asset "old_asset" (by decide), asset "new_asset" (by decide),
        never _ "dup_assets" (by decide), trivial⟩
  | deleteAllAssets => exact ⟨team, trivial⟩
  | findingOverwrite =>
      exact ⟨never _ "finding_id" (by decide), never _ "tag" (by decide),
        never _ "status" (by decide), never _ "notes" (by decide), trivial⟩

/-- The tree of an event shows it. -/
theorem shows_tree (event : Event) : event.Shows event.toJson.tree := by
  cases event with
  | deleteTeam team => exact shows_of_shownRow (shownRow_cons team.shows_tree rfl)
  | createAsset asset => exact shows_of_shownRow (shownRow_cons asset.shows_tree rfl)
  | deleteAsset asset duplicates =>
      exact shows_of_shownRow (shownRow_cons asset.shows_tree
        (shownRow_cons (showsInteger_tree duplicates) rfl))
  | updateAsset old new duplicates =>
      exact shows_of_shownRow (shownRow_cons old.shows_tree (shownRow_cons new.shows_tree
        (shownRow_cons (showsInteger_tree duplicates) rfl)))
  | deleteAllAssets team => exact shows_of_shownRow (shownRow_cons team.shows_tree rfl)
  | overwriteFinding finding =>
      obtain ⟨id, tag, status, notes⟩ := finding
      cases notes with
      | none =>
          exact shows_of_shownRow (shownRow_cons (showsText_tree id)
            (shownRow_cons (showsText_tree tag) (shownRow_cons (showsText_tree status)
              (.inr ⟨rfl, rfl⟩))))
      | some notes =>
          exact shows_of_shownRow (shownRow_cons (showsText_tree id)
            (shownRow_cons (showsText_tree tag) (shownRow_cons (showsText_tree status)
              (shownRow_cons (showsText_tree notes) rfl))))

/-! ## Payloads -/

/-- What is decoded of payloads that show an event, and of those that are spoiled. -/
structure Presented (event : Event) : Prop where
  /-- The payload that is written for an event shows it. -/
  written : event.Shows event.toJson.tree ∧ event.toJson.tree.language event.encode
  /-- Whatever shows an event is decoded as this event, with blanks around it. -/
  decoded {tree : Tree} {before octets after : Bytes} (shows : event.Shows tree)
    (text : tree.language octets) (blank_before : Blank before) (blank_after : Blank after) :
    decode event.action.tag currentVersion (before ++ (octets ++ after)) = .ok event
  /-- What shows an event and is spoiled then is unreadable. -/
  spoiled {tree spoiled : Tree} {before octets after : Bytes} (shows : event.Shows tree)
    (spoils : Spoils event.action tree spoiled) (text : spoiled.language octets)
    (blank_before : Blank before) (blank_after : Blank after) :
    ∃ error, decode event.action.tag currentVersion (before ++ (octets ++ after)) =
      .error (.decode error)
  /-- What shows an event is unreadable with anything but blanks behind it. -/
  followed {tree : Tree} {before octets after : Bytes} (shows : event.Shows tree)
    (text : tree.language octets) (blank_before : Blank before) (blank_after : Blank after)
    {b : UInt8} (solid : Json.isBlank b = false) (more : Bytes) :
    ∃ error, decode event.action.tag currentVersion
      (before ++ (octets ++ (after ++ b :: more))) = .error (.decode error)

theorem denote_of_shows {event : Event} {tree : Tree} (shows : event.Shows tree) :
    denote event.action tree = some event :=
  ((record event.action).denote_of_shows (nodup_names event.action) event.mean shows).trans
    (congrArg some event.build_row)

/-- What a record refuses is no event. -/
theorem exists_decode_error {action : Action} {payload : Bytes}
    (refused : ∃ error, (record action).decode payload = .error error) :
    ∃ error, decode action.tag currentVersion payload = .error (.decode error) := by
  obtain ⟨error, refused⟩ := refused
  exact ⟨error, by rw [decode_current, refused]; rfl⟩

/--
What is decoded of a payload depends on the members that its action declares.  Each payload that
shows an event is decoded as this event, and none is once it is spoiled.
-/
theorem presented (event : Event) : Presented event := by
  refine ⟨⟨event.shows_tree, event.language_encode⟩, ?_, ?_, ?_⟩
  · intro tree before octets after shows text blank_before blank_after
    have read := (record event.action).toOption_decode (meanings event.action) blank_before
      blank_after text
    rw [decode_current, Json.eq_ok_of_toOption (read.trans (denote_of_shows shows))]
    rfl
  · intro tree spoiled before octets after shows spoils text blank_before blank_after
    have meant : (denote event.action tree).isSome := by
      rw [denote_of_shows shows]
      rfl
    have refused := (record event.action).denote_of_spoils (nodup_names event.action)
      (refuse event.action) spoils meant
    have read := (record event.action).toOption_decode (meanings event.action) blank_before
      blank_after text
    refine exists_decode_error ?_
    cases decoded : (record event.action).decode (before ++ (octets ++ after)) with
    | error error => exact ⟨error, rfl⟩
    | ok value =>
        rw [decoded, refused] at read
        cases read
  · intro tree before octets after shows text blank_before blank_after b solid more
    obtain ⟨members, -, -, rfl, -⟩ := shows
    exact exists_decode_error ((record event.action).exists_error_of_followed
      (meanings event.action) blank_before blank_after text solid more)

/-! ## Examples -/

/-- The name of an asset with an escape for its first letter. -/
def escapedName : Quotation :=
  ⟨.unit 0x30 0x30 0x36 0x31 0x61 rfl :: (Quotation.ofString "sset").pieces⟩

/-- A string of two surrogates, which mean one character. -/
def surrogates : Quotation :=
  ⟨[.unit 0x64 0x38 0x33 0x64 0xD83D rfl, .unit 0x64 0x65 0x30 0x30 0xDE00 rfl]⟩

/-- A tree for a team, the tag in front. -/
def teamTree : Tree :=
  .object [(.ofString "tag", .text (.ofString "b")), (.ofString "id", .text (.ofString "t"))]

/-- A tree for an asset, with an empty list that nobody asks for. -/
def assetTree : Tree :=
  .object [(.ofString "team", teamTree), (.ofString "x", .list []),
    (.ofString "identifier", .text surrogates), (.ofString "id", .text (.ofString "a"))]

/-- The members of a payload in front of its asset, two of them of a name that nobody asks for. -/
def frontMembers : List (Quotation × Tree) :=
  [(.ofString "n", .null), (.ofString "dup_assets", .number (.ofInt 0)),
    (.ofString "n", .object [(.ofString "asset", .null)])]

/-- A payload whose asset stands behind all other members. -/
def oddTree : Tree :=
  .object (frontMembers ++ [(escapedName, assetTree)])

/-- The event that such a payload shows. -/
def oddEvent : Event :=
  .deleteAsset ⟨"a", "😀", ⟨"t", "b"⟩⟩ 0

theorem shows_oddTree : oddEvent.Shows oddTree := by
  have team : Team.Shows ⟨"t", "b"⟩ teamTree :=
    ⟨_, [_, _], [], rfl, .swap _ _ _,
      shownRow_cons (showsText_tree "t") (shownRow_cons (showsText_tree "b") rfl),
      List.forall_mem_nil _⟩
  have character : ShowsText "😀" (.text surrogates) :=
    ⟨surrogates, rfl, by decide +kernel⟩
  have asset : Asset.Shows ⟨"a", "😀", ⟨"t", "b"⟩⟩ assetTree := by
    refine ⟨_, [_, _, _], [(.ofString "x", .list [])], rfl, ?_, shownRow_cons (showsText_tree "a")
      (shownRow_cons character (shownRow_cons team rfl)),
      List.forall_mem_singleton.mpr ⟨"x", Quotation.text?_ofString "x", by decide⟩⟩
    exact (@List.perm_middle _ _ [_, _, _] []).trans
      (.cons _ (@List.perm_middle _ _ [_, _] []))
  have unasked : "n" ∉ (record .deleteAsset).fields.map Json.Field.name := by decide
  have named : escapedName.text? = some "asset" := by decide +kernel
  refine ⟨_, [_, _], [frontMembers[0], frontMembers[2]], rfl, ?_, .inl ⟨_, _, _, rfl, named, asset,
    shownRow_cons (showsInteger_tree 0) rfl⟩, ?_⟩
  · exact (@List.perm_middle _ _ frontMembers []).trans
      (.cons _ (@List.perm_middle _ _ [_] [_]))
  · simp only [List.forall_mem_cons]
    exact ⟨⟨"n", Quotation.text?_ofString "n", unasked⟩,
      ⟨"n", Quotation.text?_ofString "n", unasked⟩, List.forall_mem_nil _⟩

/-- A payload with its members out of order, and without its asset or with one more octet. -/
theorem presented_oddly :
    oddTree.print = Utf8.encode ("\x7b\"n\":null,\"dup_assets\":0,\"n\":\x7b\"asset\":null\x7d," ++
      "\"\\u0061sset\":\x7b\"team\":\x7b\"tag\":\"b\",\"id\":\"t\"\x7d,\"x\":[]," ++
      "\"identifier\":\"\\ud83d\\ude00\",\"id\":\"a\"\x7d\x7d") ∧
    decode "DeleteAsset" 1 (0x20 :: (oddTree.print ++ [0x0A])) = .ok oddEvent ∧
    (∃ error, decode "DeleteAsset" 1 (Tree.object frontMembers).print = .error (.decode error)) ∧
    ∃ error, decode "DeleteAsset" 1 (oddTree.print ++ [0x7D]) = .error (.decode error) := by
  have shown := presented oddEvent
  have blank : Blank [0x20] := by simp [Blank, Json.isBlank]
  have line : Blank [0x0A] := by simp [Blank, Json.isBlank]
  have named : escapedName.text? = some "asset" := by decide +kernel
  have spoils : Spoils .deleteAsset oddTree (.object (frontMembers ++ [])) :=
    .removed (.head _) rfl named
  have read := shown.decoded shows_oddTree oddTree.language_print blank line
  refine ⟨by decide +kernel, read, ?_, ?_⟩
  · have unread := shown.spoiled shows_oddTree spoils (Tree.language_print _) Json.Blank.nil
      Json.Blank.nil
    rw [List.nil_append, List.append_nil, List.append_nil] at unread
    exact unread
  · have unread := shown.followed shows_oddTree oddTree.language_print Json.Blank.nil
      Json.Blank.nil (b := 0x7D) (by decide) []
    rw [List.nil_append, List.nil_append] at unread
    exact unread

end Event

end OutboxRelay
