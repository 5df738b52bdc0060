import OutboxRelay.Proofs.Json.Object

/-!
# Presentations of records

The fields of a record may be shown by an object in many ways: its members stand in any order and
between others that no field asks for, and each value may be written in several ways.

**Rules.**
* A field that has a value of its own may be left out where it has just this value.
* An object is spoiled when a member that is required is taken out, when a declared one is
  repeated, and when the value of a declared one is spoiled itself.

**Results.**
* `Tree.language_print`: every tree has a text.
* `Record.denote_of_shows`: an object denotes the row that it shows.
* `Record.denote_of_spoils`: an object that is spoiled denotes nothing.
* `Record.exists_error_of_followed`: nothing but blanks may stand behind an object.
-/

namespace OutboxRelay
namespace Json

open Reader (Answers Reads Refuses)

/-! ## Texts of trees -/

mutual

/-- The text of a tree without any blanks. -/
def Tree.print : Tree → Bytes
  | .null => 0x6E :: nullTail
  | .boolean true => 0x74 :: trueTail
  | .boolean false => 0x66 :: falseTail
  | .number literal => literal.octets
  | .text quotation => quotation.octets
  | .list [] => [0x5B, 0x5D]
  | .list (item :: items) => 0x5B :: (item.print ++ printItems items ++ [0x5D])
  | .object [] => [0x7B, 0x7D]
  | .object ((name, value) :: members) =>
      0x7B :: (name.octets ++ 0x3A :: value.print ++ printMembers members ++ [0x7D])

/-- The texts of the items of a list, each behind a comma. -/
def printItems : List Tree → Bytes
  | [] => []
  | item :: items => 0x2C :: (item.print ++ printItems items)

/-- The texts of the members of an object, each behind a comma. -/
def printMembers : List (Quotation × Tree) → Bytes
  | [] => []
  | (name, value) :: members =>
      0x2C :: (name.octets ++ 0x3A :: value.print ++ printMembers members)

end

theorem following_printItems {items : List Tree}
    (texts : ∀ item ∈ items, item.language item.print) :
    following (itemLanguages items) (printItems items) := by
  induction items with
  | nil => exact Blank.nil
  | cons item items ih =>
      obtain ⟨first, others⟩ := List.forall_mem_cons.mp texts
      exact ⟨[], [], item.print, printItems items, rfl, Blank.nil, Blank.nil, first, ih others⟩

/-- A member is written with its name, a colon and its value. -/
theorem memberLanguage_print (name : Quotation) {value : Tree} (text : value.language value.print) :
    memberLanguage name value.language (name.octets ++ 0x3A :: value.print) :=
  ⟨[], [], value.print, rfl, Blank.nil, Blank.nil, text⟩

theorem following_printMembers {members : List (Quotation × Tree)}
    (texts : ∀ member ∈ members, member.2.language member.2.print) :
    following (memberLanguages members) (printMembers members) := by
  induction members with
  | nil => exact Blank.nil
  | cons member members ih =>
      obtain ⟨first, others⟩ := List.forall_mem_cons.mp texts
      exact ⟨[], [], _, printMembers members, rfl, Blank.nil, Blank.nil,
        memberLanguage_print member.1 first, ih others⟩

/-- Every tree has a text. -/
theorem Tree.language_print (tree : Tree) : tree.language tree.print := by
  induction tree with
  | null => rfl
  | boolean value => cases value <;> rfl
  | number literal => rfl
  | text quotation => rfl
  | list items ih =>
      cases items with
      | nil => exact ⟨[], rfl, Blank.nil⟩
      | cons item items =>
          obtain ⟨first, others⟩ := List.forall_mem_cons.mp ih
          exact ⟨item.print ++ printItems items, rfl, [], item.print, printItems items, rfl,
            Blank.nil, first, following_printItems others⟩
  | object members ih =>
      cases members with
      | nil => exact ⟨[], rfl, Blank.nil⟩
      | cons member members =>
          obtain ⟨first, others⟩ := List.forall_mem_cons.mp ih
          exact ⟨_, rfl, [], _, printMembers members, rfl, Blank.nil,
            memberLanguage_print member.1 first, following_printMembers others⟩

/-! ## Values without inner structure -/

/-- Whether a tree is a string that means a text. -/
def ShowsText (text : String) (tree : Tree) : Prop :=
  ∃ quotation, tree = .text quotation ∧ quotation.text? = some text

/-- Whether a tree is a number that means an integer. -/
def ShowsInteger (value : Int) (tree : Tree) : Prop :=
  ∃ literal, tree = .number literal ∧ literal.numeral? = some (.integer value)

/-- Whether a tree is a string that means a text, or the word null for none. -/
def ShowsNotes : Option String → Tree → Prop
  | none, tree => tree = .null
  | some notes, tree => ShowsText notes tree

theorem ShowsText.textOf?_eq {text : String} {tree : Tree} (shows : ShowsText text tree) :
    textOf? tree = some text := by
  obtain ⟨quotation, rfl, meant⟩ := shows
  exact meant

theorem ShowsInteger.integerOf?_eq {value : Int64} {tree : Tree}
    (shows : ShowsInteger value.toInt tree) : integerOf? 64 tree = some value.toInt := by
  obtain ⟨literal, rfl, meant⟩ := shows
  have least : -(1 <<< 63 : Nat) ≤ value.toInt := Int64.le_toInt value
  have greatest : value.toInt < (1 <<< 63 : Nat) := Int64.toInt_lt value
  simp only [integerOf?, meant]
  exact if_pos ⟨least, greatest⟩

theorem ShowsNotes.optionalTextOf?_eq {notes : Option String} {tree : Tree}
    (shows : ShowsNotes notes tree) : optionalTextOf? tree = some notes := by
  cases notes with
  | none =>
      obtain rfl : tree = .null := shows
      rfl
  | some notes =>
      obtain ⟨quotation, rfl, meant⟩ := shows
      exact congrArg (Option.map some) meant

/-- A text is shown by the string as which it is printed. -/
theorem showsText_tree (text : String) : ShowsText text (Value.text text).tree :=
  ⟨.ofString text, rfl, Quotation.text?_ofString text⟩

theorem showsInteger_tree (value : Int64) :
    ShowsInteger value.toInt (Value.integer value.toInt).tree := by
  have least : -(1 <<< 63 : Nat) ≤ value.toInt := Int64.le_toInt value
  have greatest : value.toInt < (1 <<< 63 : Nat) := Int64.toInt_lt value
  have word : (1 <<< 63 : Nat) ≤ wordMax := by decide
  exact ⟨.ofInt value.toInt, rfl, Literal.numeral?_ofInt least (by omega)⟩

/-! ## Members of a name -/

section Members

variable {name : String} {members others : List (Quotation × Tree)}

theorem valuesNamed_append (name : String) (members others : List (Quotation × Tree)) :
    valuesNamed name (members ++ others) = valuesNamed name members ++ valuesNamed name others := by
  simp [valuesNamed]

theorem valuesNamed_perm (perm : members.Perm others) (name : String) :
    (valuesNamed name members).Perm (valuesNamed name others) :=
  (perm.filter _).map _

theorem valuesNamed_eq_nil (other : ∀ member ∈ members, member.1.text? ≠ some name) :
    valuesNamed name members = [] := by
  rw [valuesNamed, List.map_eq_nil_iff, List.filter_eq_nil_iff]
  exact fun member among => by simpa using other member among

theorem valuesNamed_ne_nil {member : Quotation × Tree} (among : member ∈ members)
    (own : member.1.text? = some name) : valuesNamed name members ≠ [] := by
  rw [valuesNamed, Ne, List.map_eq_nil_iff, List.filter_eq_nil_iff]
  exact fun none => none member among (by simpa using own)

end Members

/-! ## Shown rows -/

/-- What the value of each field of a row may be written as. -/
def Showings : List Field → Type
  | [] => Unit
  | field :: fields => (field.Carrier → Tree → Prop) × Showings fields

/-- Whether some members show a row, in the order of its fields. -/
def ShownRow : (fields : List Field) → Showings fields → Row fields → List (Quotation × Tree) →
    Prop
  | [], _, _, kept => kept = []
  | field :: fields, (showing, showings), (value, row), kept =>
      (∃ name tree rest, kept = (name, tree) :: rest ∧ name.text? = some field.name ∧
        showing value tree ∧ ShownRow fields showings row rest) ∨
      field.absent = some value ∧ ShownRow fields showings row kept

/-- Whether all that the values of a row may be written as denotes these values. -/
def Showings.Mean (depth : Nat) : (fields : List Field) → Showings fields → Meanings fields →
    Row fields → Prop
  | [], _, _, _ => True
  | _ :: fields, (showing, showings), (meaning, meanings), (value, row) =>
      (∀ tree, showing value tree → meaning.denote depth tree = some value) ∧
        Mean depth fields showings meanings row

section Rows

variable {fields : List Field} {showings : Showings fields} {meanings : Meanings fields}
  {row : Row fields} {kept : List (Quotation × Tree)} {depth : Nat}

/-- The members that show a row have names of its fields. -/
theorem ShownRow.exists_name (shown : ShownRow fields showings row kept) :
    ∀ member ∈ kept, ∃ field ∈ fields, member.1.text? = some field.name := by
  induction fields generalizing kept with
  | nil =>
      obtain rfl : kept = [] := shown
      exact List.forall_mem_nil _
  | cons field fields ih =>
      obtain ⟨name, tree, rest, rfl, own, -, shown⟩ | ⟨-, shown⟩ := shown
      · refine List.forall_mem_cons.mpr ⟨⟨field, List.mem_cons_self, own⟩, fun member among => ?_⟩
        obtain ⟨other, declared, named⟩ := ih shown member among
        exact ⟨other, List.mem_cons_of_mem _ declared, named⟩
      · intro member among
        obtain ⟨other, declared, named⟩ := ih shown member among
        exact ⟨other, List.mem_cons_of_mem _ declared, named⟩

/-- A row is read of members that have the same values for its names as those that show it. -/
theorem rowNamed?_of_shownRow (distinct : (fields.map Field.name).Nodup)
    (mean : Showings.Mean depth fields showings meanings row)
    (shown : ShownRow fields showings row kept) {members : List (Quotation × Tree)}
    (values : ∀ field ∈ fields, (valuesNamed field.name members).Perm
      (valuesNamed field.name kept)) :
    rowNamed? depth fields meanings members = some row := by
  induction fields generalizing kept with
  | nil => rfl
  | cons field fields ih =>
      obtain ⟨apart, distinct⟩ : field.name ∉ fields.map Field.name ∧
        (fields.map Field.name).Nodup := List.nodup_cons.mp distinct
      obtain ⟨own_values, other_values⟩ := List.forall_mem_cons.mp values
      have unnamed {rest : List (Quotation × Tree)} {row : Row fields}
          {showings : Showings fields} (shown : ShownRow fields showings row rest) :
          valuesNamed field.name rest = [] := by
        refine valuesNamed_eq_nil fun member among own => ?_
        obtain ⟨other, declared, named⟩ := shown.exists_name member among
        rw [own] at named
        exact apart (List.mem_map.mpr ⟨other, declared, (Option.some.inj named).symm⟩)
      obtain ⟨name, tree, rest, rfl, own, shows, shown⟩ | ⟨absent, shown⟩ := shown
      · rw [valuesNamed_cons_of_eq own, unnamed shown] at own_values
        refine rowNamed?_cons ?_ (ih distinct mean.2 shown fun other declared => ?_)
        · rw [List.perm_singleton.mp own_values]
          exact mean.1 tree shows
        · have named : name.text? ≠ some other.name := by
            rw [own]
            intro same
            exact apart (List.mem_map.mpr ⟨other, declared, (Option.some.inj same).symm⟩)
          have kept_values := other_values other declared
          rwa [valuesNamed_cons_of_ne named] at kept_values
      · rw [unnamed shown] at own_values
        refine rowNamed?_cons ?_ (ih distinct mean.2 shown other_values)
        rw [List.perm_nil.mp own_values]
        exact absent

end Rows

/-! ## Shown records -/

/-- Whether a tree shows a row: its members are those that show the row and others, of which each
has a name that no field has, in any order. -/
def Shows (fields : List Field) (showings : Showings fields) (row : Row fields) (tree : Tree) :
    Prop :=
  ∃ members kept others, tree = .object members ∧ members.Perm (kept ++ others) ∧
    ShownRow fields showings row kept ∧
    ∀ member ∈ others, ∃ name, member.1.text? = some name ∧ name ∉ fields.map Field.name

/-- Members that show a row show it in an object of their own. -/
theorem shows_of_shownRow {fields : List Field} {showings : Showings fields} {row : Row fields}
    {kept : List (Quotation × Tree)} (shown : ShownRow fields showings row kept) :
    Shows fields showings row (.object kept) :=
  ⟨kept, kept, [], rfl, by rw [List.append_nil], shown, List.forall_mem_nil _⟩

/-- A value that is shown under the name of its field stands in front of the others. -/
theorem shownRow_cons {field : Field} {fields : List Field}
    {showing : field.Carrier → Tree → Prop} {showings : Showings fields} {value : field.Carrier}
    {row : Row fields} {tree : Tree} {kept : List (Quotation × Tree)} (shows : showing value tree)
    (shown : ShownRow fields showings row kept) :
    ShownRow (field :: fields) (showing, showings) (value, row)
      ((.ofString field.name, tree) :: kept) :=
  .inl ⟨_, tree, kept, rfl, Quotation.text?_ofString field.name, shows, shown⟩

/-- An object denotes what is built of the row that it shows. -/
theorem Record.denote_of_shows {α : Type} (record : Record α) {meanings : Meanings record.fields}
    {showings : Showings record.fields} {row : Row record.fields} {depth : Nat} {tree : Tree}
    (distinct : (record.fields.map Field.name).Nodup)
    (mean : Showings.Mean depth record.fields showings meanings row)
    (shows : Shows record.fields showings row tree) :
    record.denote meanings (depth + 1) tree = some (record.build row) := by
  obtain ⟨members, kept, others, rfl, perm, shown, undeclared⟩ := shows
  have names : ∀ member ∈ members, member.1.text?.isSome := by
    intro member among
    rcases List.mem_append.mp (perm.mem_iff.mp among) with among | among
    · obtain ⟨field, -, named⟩ := shown.exists_name member among
      rw [named]
      rfl
    · obtain ⟨name, named, -⟩ := undeclared member among
      rw [named]
      rfl
  have values : ∀ field ∈ record.fields,
      (valuesNamed field.name members).Perm (valuesNamed field.name kept) := by
    intro field declared
    have none_other : valuesNamed field.name others = [] := by
      refine valuesNamed_eq_nil fun member among own => ?_
      obtain ⟨name, named, apart⟩ := undeclared member among
      rw [own] at named
      exact apart (Option.some.inj named ▸ List.mem_map_of_mem declared)
    have both := valuesNamed_perm perm field.name
    rwa [valuesNamed_append, none_other, List.append_nil] at both
  rw [denote, slotsOf?_vacant depth record.fields distinct meanings names,
    rowNamed?_of_shownRow distinct mean shown values]
  rfl

/-! ## Spoiled records -/

/-- How an object is spoiled. -/
inductive Spoils (fields : List Field) (inner : String → Tree → Tree → Prop) : Tree → Tree → Prop
  | removed {front back : List (Quotation × Tree)} {name : Quotation} {tree : Tree} {field : Field}
      (declared : field ∈ fields) (required : field.absent = none)
      (own : name.text? = some field.name) :
      Spoils fields inner (.object (front ++ (name, tree) :: back)) (.object (front ++ back))
  | repeated {front back : List (Quotation × Tree)} {name : Quotation} {tree : Tree}
      {member : Quotation × Tree} {field : Field} (declared : field ∈ fields)
      (own : name.text? = some field.name) (present : member ∈ front ++ back)
      (same : member.1.text? = some field.name) :
      Spoils fields inner (.object (front ++ back)) (.object (front ++ (name, tree) :: back))
  | inside {front back : List (Quotation × Tree)} {name : Quotation} {tree spoiled : Tree}
      {field : Field} (declared : field ∈ fields) (own : name.text? = some field.name)
      (spoils : inner field.name tree spoiled) :
      Spoils fields inner (.object (front ++ (name, tree) :: back))
        (.object (front ++ (name, spoiled) :: back))

/-- Whether no field of a row has a value where one that it had is spoiled. -/
def Meanings.Refuse (depth : Nat) (inner : String → Tree → Tree → Prop) :
    (fields : List Field) → Meanings fields → Prop
  | [], _ => True
  | field :: fields, (meaning, meanings) =>
      (∀ tree spoiled, inner field.name tree spoiled → (meaning.denote depth tree).isSome →
        meaning.denote depth spoiled = none) ∧ Refuse depth inner fields meanings

section Spoiling

variable {fields : List Field} {meanings : Meanings fields} {depth : Nat}
  {inner : String → Tree → Tree → Prop} {front back : List (Quotation × Tree)} {name : Quotation}
  {tree spoiled : Tree}

/-- A member among others adds its value to those of its name. -/
theorem valuesNamed_between {text : String} (own : name.text? = some text)
    (front back : List (Quotation × Tree)) (tree : Tree) :
    (valuesNamed text (front ++ (name, tree) :: back)).Perm
      (tree :: valuesNamed text (front ++ back)) := by
  have moved := valuesNamed_perm (@List.perm_middle _ (name, tree) front back) text
  rwa [valuesNamed_cons_of_eq own] at moved

theorem valueOf?_eq_none {field : Field} (meaning : Meaning field) (depth : Nat) {trees : List Tree}
    (several : 2 ≤ trees.length) : valueOf? meaning depth trees = none := by
  rcases trees with _ | ⟨first, _ | ⟨second, others⟩⟩
  · exact absurd several (Nat.not_succ_le_zero 1)
  · exact absurd several (Nat.not_succ_le_self 1)
  · rfl

/-- A member that is declared stands once at most where a row is read. -/
theorem length_le_of_rowNamed? {members : List (Quotation × Tree)} {row : Row fields}
    (read : rowNamed? depth fields meanings members = some row) :
    ∀ field ∈ fields, (valuesNamed field.name members).length ≤ 1 := by
  induction fields with
  | nil => exact List.forall_mem_nil _
  | cons field fields ih =>
      obtain ⟨meaning, meanings⟩ := meanings
      obtain ⟨value, own, read⟩ := Option.bind_eq_some_iff.mp read
      obtain ⟨others, read, -⟩ := Option.map_eq_some_iff.mp read
      refine List.forall_mem_cons.mpr ⟨?_, ih read⟩
      by_contra several
      rw [valueOf?_eq_none meaning depth (by omega)] at own
      cases own

/-- No other member has the name of a declared one where a row is read. -/
theorem valuesNamed_eq_nil_of_rowNamed? {row : Row fields}
    (read : rowNamed? depth fields meanings (front ++ (name, tree) :: back) = some row)
    {field : Field} (declared : field ∈ fields) (own : name.text? = some field.name) :
    valuesNamed field.name (front ++ back) = [] := by
  have single := length_le_of_rowNamed? read field declared
  rw [(valuesNamed_between own front back tree).length_eq, List.length_cons] at single
  exact List.length_eq_zero_iff.mp (by omega)

/-- Where the value of a declared member is spoiled there is no row. -/
theorem rowNamed?_of_inside (refuse : Meanings.Refuse depth inner fields meanings)
    {row : Row fields}
    (read : rowNamed? depth fields meanings (front ++ (name, tree) :: back) = some row)
    {field : Field} (declared : field ∈ fields) (own : name.text? = some field.name)
    (spoils : inner field.name tree spoiled) :
    rowNamed? depth fields meanings (front ++ (name, spoiled) :: back) = none := by
  have no_other := valuesNamed_eq_nil_of_rowNamed? read declared own
  have alone (tree : Tree) : valuesNamed field.name (front ++ (name, tree) :: back) = [tree] := by
    have moved := valuesNamed_between own front back tree
    rw [no_other] at moved
    exact List.perm_singleton.mp moved
  induction fields with
  | nil => cases declared
  | cons first fields ih =>
      obtain ⟨meaning, meanings⟩ := meanings
      obtain ⟨value, value_read, read⟩ := Option.bind_eq_some_iff.mp read
      obtain ⟨others, others_read, -⟩ := Option.map_eq_some_iff.mp read
      rw [rowNamed?]
      by_cases same : first.name = field.name
      · rw [same, alone] at value_read
        have meant : (meaning.denote depth tree).isSome :=
          Option.isSome_iff_exists.mpr ⟨_, value_read⟩
        have refused := refuse.1 tree spoiled (same ▸ spoils) meant
        rw [same, alone]
        exact congrArg (Option.bind · _) refused
      · have declared : field ∈ fields :=
          (List.mem_cons.mp declared).resolve_left fun eq => same (congrArg Field.name eq).symm
        rw [ih refuse.2 others_read declared]
        cases valueOf? meaning depth (valuesNamed first.name (front ++ (name, spoiled) :: back)) <;>
          rfl

end Spoiling

namespace Record

variable {α : Type} (record : Record α) {meanings : Meanings record.fields} {depth : Nat}
  {members : List (Quotation × Tree)}

/-- An object that denotes something has a row. -/
theorem exists_row_of_denote (distinct : (record.fields.map Field.name).Nodup) {a : α}
    (meant : record.denote meanings (depth + 1) (.object members) = some a) :
    ∃ row, rowNamed? depth record.fields meanings members = some row := by
  have names : ∀ member ∈ members, member.1.text?.isSome := by
    by_contra unnamed
    push Not at unnamed
    obtain ⟨member, among, unnamed⟩ := unnamed
    rw [denote, slotsOf?_eq_none depth record.fields meanings _
      ⟨member, among, by simpa using unnamed⟩] at meant
    cases meant
  rw [denote, slotsOf?_vacant depth record.fields distinct meanings names] at meant
  obtain ⟨row, read, -⟩ := Option.map_eq_some_iff.mp meant
  exact ⟨row, read⟩

theorem denote_eq_none_of_rowNamed? (distinct : (record.fields.map Field.name).Nodup)
    (unread : rowNamed? depth record.fields meanings members = none) :
    record.denote meanings (depth + 1) (.object members) = none := by
  cases meant : record.denote meanings (depth + 1) (.object members) with
  | none => rfl
  | some a =>
      obtain ⟨row, read⟩ := record.exists_row_of_denote distinct meant
      rw [unread] at read
      cases read

/-- An object that denoted something denotes nothing any more when it is spoiled. -/
theorem denote_of_spoils (distinct : (record.fields.map Field.name).Nodup)
    {inner : String → Tree → Tree → Prop}
    (refuse : ∀ depth, Meanings.Refuse depth inner record.fields meanings) {tree spoiled : Tree}
    (spoils : Spoils record.fields inner tree spoiled)
    (meant : (record.denote meanings depth tree).isSome) :
    record.denote meanings depth spoiled = none := by
  obtain ⟨a, meant⟩ := Option.isSome_iff_exists.mp meant
  cases depth with
  | zero => cases meant
  | succ depth =>
      cases spoils with
      | removed declared required own =>
          obtain ⟨row, read⟩ := record.exists_row_of_denote distinct meant
          have no_other := valuesNamed_eq_nil_of_rowNamed? read declared own
          exact record.denote_eq_none_of_rowNamed? distinct
            (rowNamed?_eq_none declared required no_other)
      | repeated declared own present same =>
          refine record.denote_eq_none_of_rowNamed? distinct ?_
          by_contra read
          obtain ⟨row, read⟩ := Option.ne_none_iff_exists'.mp read
          exact valuesNamed_ne_nil present same (valuesNamed_eq_nil_of_rowNamed? read declared own)
      | inside declared own spoils =>
          obtain ⟨row, read⟩ := record.exists_row_of_denote distinct meant
          exact record.denote_eq_none_of_rowNamed? distinct
            (rowNamed?_of_inside (refuse depth) read declared own spoils)

/-! ## What stands behind an object -/

/-- An object is read whatever stands behind it. -/
theorem answers_read_object (record : Record α) (meanings : Meanings record.fields) (depth : Nat)
    {before octets : Bytes} (blank : Blank before) (text : (Tree.object members).language octets)
    (rest : Bytes) :
    Answers (record.read (depth + 1)) (before ++ (octets ++ rest))
      (record.denote meanings (depth + 1) (.object members)) rest := by
  obtain ⟨inner, rfl, row⟩ := text
  rw [List.cons_append, List.append_assoc]
  refine (Reader.reads_firstOctet blank (by decide) _).before ?_
  rw [if_neg (by decide), if_pos rfl]
  exact (Reader.reads_advance _ _).before (answers_object record meanings depth members row rest)

/-- Nothing but blanks may stand behind an object. -/
theorem exists_error_of_followed (record : Record α) (meanings : Meanings record.fields)
    {before octets after : Bytes} (blank_before : Blank before) (blank_after : Blank after)
    (text : (Tree.object members).language octets) {b : UInt8} (solid : isBlank b = false)
    (more : Bytes) :
    ∃ error, record.decode (before ++ (octets ++ (after ++ b :: more))) = .error error := by
  have answered : Answers (record.read depthLimit) (before ++ (octets ++ (after ++ b :: more)))
      (record.denote meanings depthLimit (.object members)) (after ++ b :: more) :=
    answers_read_object record meanings 126 blank_before text _
  have refused : Refuses (Reader.whole (record.read depthLimit))
      (before ++ (octets ++ (after ++ b :: more))) := by
    cases meant : record.denote meanings depthLimit (.object members) with
    | none =>
        rw [meant] at answered
        exact Refuses.bind answered
    | some a =>
        rw [meant] at answered
        exact Reads.bind_refuses answered ((Reader.reads_blanks blank_after
          (Solid.cons solid more)).bind_refuses ((Reader.reads_peek _).bind_refuses
            (Reader.refuses_failingAhead _ _)))
  obtain ⟨fault, failed⟩ := refused 0
  exact ⟨_, by rw [decode, Reader.decode, Cursor.start, failed]⟩

end Record

end Json
end OutboxRelay
