import OutboxRelay.Proofs.Json.Accepted
import OutboxRelay.Proofs.Json.Record

/-!
# Parts of texts

The text of a field stands in the text of a record: as the value of the member of its
name, or as the item at its position.

**Method.** A row of items stays one when an item is held fast at the octets that stand
for it, and when an item is given more ways to be written.
-/

namespace OutboxRelay
namespace Json

/-! ## Rows -/

theorem following_replace {item other : Language} (h : ∀ octets, item octets → other octets)
    {items others : List Language} {inner : Bytes}
    (hrow : following (items ++ item :: others) inner) :
    following (items ++ other :: others) inner := by
  induction items generalizing inner with
  | nil =>
      obtain ⟨after, before, octets, left, heq, hafter, hbefore, hoctets, hleft⟩ := hrow
      exact ⟨after, before, octets, left, heq, hafter, hbefore, h _ hoctets, hleft⟩
  | cons first items ih =>
      obtain ⟨after, before, octets, left, heq, hafter, hbefore, hoctets, hleft⟩ := hrow
      exact ⟨after, before, octets, left, heq, hafter, hbefore, hoctets, ih hleft⟩

/-- A row is one as well when one of its items can be written in more ways. -/
theorem row_replace {item other : Language} (h : ∀ octets, item octets → other octets)
    {items others : List Language} {inner : Bytes} (hrow : row (items ++ item :: others) inner) :
    row (items ++ other :: others) inner := by
  cases items with
  | nil =>
      obtain ⟨before, octets, left, heq, hbefore, hoctets, hleft⟩ := hrow
      exact ⟨before, octets, left, heq, hbefore, h _ hoctets, hleft⟩
  | cons first items =>
      obtain ⟨before, octets, left, heq, hbefore, hoctets, hleft⟩ := hrow
      exact ⟨before, octets, left, heq, hbefore, hoctets, following_replace h hleft⟩

theorem exists_following {item : Language} {items others : List Language} {inner : Bytes}
    (h : following (items ++ item :: others) inner) :
    ∃ octets, item octets ∧ following (items ++ (· = octets) :: others) inner := by
  induction items generalizing inner with
  | nil =>
      obtain ⟨after, before, octets, left, heq, hafter, hbefore, hoctets, hleft⟩ := h
      exact ⟨octets, hoctets, after, before, octets, left, heq, hafter, hbefore, rfl, hleft⟩
  | cons first items ih =>
      obtain ⟨after, before, octets, left, heq, hafter, hbefore, hoctets, hleft⟩ := h
      obtain ⟨found, hfound, hleft⟩ := ih hleft
      exact ⟨found, hfound, after, before, octets, left, heq, hafter, hbefore, hoctets, hleft⟩

/-- An item of a row stands for some octets of it. -/
theorem exists_row {item : Language} {items others : List Language} {inner : Bytes}
    (h : row (items ++ item :: others) inner) :
    ∃ octets, item octets ∧ row (items ++ (· = octets) :: others) inner := by
  cases items with
  | nil =>
      obtain ⟨before, octets, left, heq, hbefore, hoctets, hleft⟩ := h
      exact ⟨octets, hoctets, before, octets, left, heq, hbefore, rfl, hleft⟩
  | cons first items =>
      obtain ⟨before, octets, left, heq, hbefore, hoctets, hleft⟩ := h
      obtain ⟨found, hfound, hleft⟩ := exists_following hleft
      exact ⟨found, hfound, before, octets, left, heq, hbefore, hoctets, hleft⟩

/-! ## Fields -/

/-- Whether some octets are a text of an object in which a text is the value of a name. -/
def MemberText (name : String) (octets text : Bytes) : Prop :=
  ∃ before q after, Quotation.text? q = some name ∧
    bracketed 0x7B 0x7D
      (memberLanguages before ++ memberLanguage q (· = text) :: memberLanguages after) octets

/-- Whether some octets are a text of a list in which a text is the item at a position. -/
def ItemText (position : Nat) (octets text : Bytes) : Prop :=
  ∃ before after : List Tree, before.length = position ∧
    bracketed 0x5B 0x5D (itemLanguages before ++ (· = text) :: itemLanguages after) octets

/--
Whether some bytes are the text of a record, with blanks around it, in which a text is that
of the field with a name and a position.
-/
def FieldText (name : String) (position : Nat) (bytes text : Bytes) : Prop :=
  (∃ part, Tree.language part text) ∧
    ∃ before octets after, bytes = before ++ (octets ++ after) ∧ Blank before ∧ Blank after ∧
      (MemberText name octets text ∨ ItemText position octets text)

/-- Whether a tree is a part of another one, under a name or at a position. -/
def Tree.IsField (name : String) (position : Nat) (part tree : Tree) : Prop :=
  (∃ before q after, Quotation.text? q = some name ∧ tree = .object (before ++ (q, part) :: after)) ∨
    ∃ before after : List Tree, before.length = position ∧ tree = .list (before ++ part :: after)

section Fields

variable {name : String} {position : Nat} {octets text : Bytes}

/-- The text of a field is a text of a part of the tree. -/
theorem Tree.exists_isField {part : Tree} (hpart : part.language text)
    (h : MemberText name octets text ∨ ItemText position octets text) :
    ∃ tree, Tree.language tree octets ∧ part.IsField name position tree := by
  rcases h with ⟨before, q, after, hname, inner, hoctets, hrow⟩ |
      ⟨before, after, hposition, inner, hoctets, hrow⟩
  · have hmember (octets : Bytes) (h : memberLanguage q (· = text) octets) :
        memberLanguage q part.language octets := by
      obtain ⟨after, before, inner, heq, hafter, hbefore, rfl⟩ := h
      exact ⟨after, before, inner, heq, hafter, hbefore, hpart⟩
    refine ⟨.object (before ++ (q, part) :: after), ⟨inner, hoctets, ?_⟩,
      .inl ⟨before, q, after, hname, rfl⟩⟩
    rw [memberLanguages_eq_map, List.map_append, ← memberLanguages_eq_map, List.map_cons,
      ← memberLanguages_eq_map]
    exact row_replace hmember hrow
  · refine ⟨.list (before ++ part :: after), ⟨inner, hoctets, ?_⟩,
      .inr ⟨before, after, hposition, rfl⟩⟩
    rw [itemLanguages_eq_map, List.map_append, ← itemLanguages_eq_map, List.map_cons,
      ← itemLanguages_eq_map]
    exact row_replace (fun octets h => h ▸ hpart) hrow

/-- A part of a tree has a text in every text of the tree. -/
theorem Tree.IsField.exists_text {part tree : Tree} (h : part.IsField name position tree)
    (htree : tree.language octets) :
    ∃ text, part.language text ∧ (MemberText name octets text ∨ ItemText position octets text) := by
  rcases h with ⟨before, q, after, hname, rfl⟩ | ⟨before, after, hposition, rfl⟩
  · obtain ⟨inner, hoctets, hrow⟩ := htree
    rw [memberLanguages_eq_map, List.map_append, ← memberLanguages_eq_map, List.map_cons,
      ← memberLanguages_eq_map] at hrow
    obtain ⟨member, ⟨between, behind, text, hmember, hbetween, hbehind, htext⟩, hrow⟩ :=
      exists_row hrow
    refine ⟨text, htext, .inl ⟨before, q, after, hname, inner, hoctets, ?_⟩⟩
    exact row_replace
      (fun octets h => ⟨between, behind, text, h.trans hmember, hbetween, hbehind, rfl⟩) hrow
  · obtain ⟨inner, hoctets, hrow⟩ := htree
    rw [itemLanguages_eq_map, List.map_append, ← itemLanguages_eq_map, List.map_cons,
      ← itemLanguages_eq_map] at hrow
    obtain ⟨text, htext, hrow⟩ := exists_row hrow
    exact ⟨text, htext, .inr ⟨before, after, hposition, inner, hoctets, hrow⟩⟩

end Fields

/-! ## Records -/

/-- What a record denotes at an object comes of a row, member by member. -/
theorem Record.exists_of_denote_object {α : Type} {record : Record α}
    {meanings : Meanings record.fields} (hnames : (record.fields.map Field.name).Nodup)
    {depth : Nat} {members : List (Quotation × Tree)} {a : α}
    (h : record.denote meanings (depth + 1) (.object members) = some a) :
    ∃ row, rowNamed? depth record.fields meanings members = some row ∧ record.build row = a := by
  have htexts : ∀ member ∈ members, member.1.text?.isSome := by
    intro member hmember
    rw [Option.isSome_iff_ne_none]
    intro hnone
    simp [denote, slotsOf?_eq_none depth record.fields meanings _ ⟨member, hmember, hnone⟩] at h
  rw [denote, slotsOf?_vacant depth record.fields hnames meanings htexts] at h
  exact Option.map_eq_some_iff.mp h

section Rows

variable {field : Field} {fields : List Field} {meaning : Meaning field}
  {meanings : Meanings fields} {depth : Nat}

/-- A row has the value of its first field, and the others. -/
theorem of_rowNamed?_cons {members : List (Quotation × Tree)} {row : Row (field :: fields)}
    (h : rowNamed? depth (field :: fields) (meaning, meanings) members = some row) :
    valueOf? meaning depth (valuesNamed field.name members) = some row.1 ∧
      rowNamed? depth fields meanings members = some row.2 := by
  obtain ⟨value, hvalue, h⟩ := Option.bind_eq_some_iff.mp h
  obtain ⟨others, hothers, rfl⟩ := Option.map_eq_some_iff.mp h
  exact ⟨hvalue, hothers⟩

theorem of_rowOfTrees?_cons {tree : Tree} {trees : List Tree} {row : Row (field :: fields)}
    (h : rowOfTrees? depth (field :: fields) (meaning, meanings) (tree :: trees) = some row) :
    meaning.denote depth tree = some row.1 ∧
      rowOfTrees? depth fields meanings trees = some row.2 := by
  obtain ⟨value, hvalue, h⟩ := Option.bind_eq_some_iff.mp h
  obtain ⟨others, hothers, rfl⟩ := Option.map_eq_some_iff.mp h
  exact ⟨hvalue, hothers⟩

/-- A field that has to be present has a member. -/
theorem exists_of_valueOf? (habsent : field.absent = none) {members : List (Quotation × Tree)}
    {value : field.Carrier}
    (h : valueOf? meaning depth (valuesNamed field.name members) = some value) :
    ∃ before q part after, Quotation.text? q = some field.name ∧
      members = before ++ (q, part) :: after := by
  have hne : valuesNamed field.name members ≠ [] := by
    intro hnil
    simp [hnil, valueOf?, habsent] at h
  obtain ⟨part, hpart⟩ := List.exists_mem_of_ne_nil _ hne
  obtain ⟨⟨q, tree⟩, hmember, -⟩ := List.mem_map.mp hpart
  obtain ⟨hmember, hname⟩ := List.mem_filter.mp hmember
  obtain ⟨before, after, hmembers⟩ := List.append_of_mem hmember
  exact ⟨before, q, tree, after, by simpa using hname, hmembers⟩

/-- The value of a field is what a member of its name denotes. -/
theorem denote_of_valueOf? {before after : List (Quotation × Tree)} {q : Quotation} {part : Tree}
    (hname : q.text? = some field.name) {value : field.Carrier}
    (h : valueOf? meaning depth (valuesNamed field.name (before ++ (q, part) :: after)) =
      some value) : meaning.denote depth part = some value := by
  have hvalues : valuesNamed field.name (before ++ (q, part) :: after) =
      valuesNamed field.name before ++ part :: valuesNamed field.name after := by
    simp [valuesNamed, hname]
  rw [hvalues] at h
  generalize valuesNamed field.name before = front at h
  generalize valuesNamed field.name after = behind at h
  cases front with
  | nil =>
      cases behind with
      | nil => exact h
      | cons => simp [valueOf?] at h
  | cons first front => cases front <;> simp [valueOf?] at h

end Rows

end Json
end OutboxRelay
