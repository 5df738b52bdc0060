import OutboxRelay.Proofs.Json.Float
import OutboxRelay.Proofs.Json.Members
import OutboxRelay.Proofs.Json.Object
import OutboxRelay.Proofs.Json.Value

/-!
# What printing leaves as it was

A value that was read of a text is printed in a form of its own: members are ordered by
name, a name that stands twice keeps its last value, and strings and numbers are spelled
anew.  What a record denotes is not changed by that.

**Method.** Strings and integers are checked one by one.  A record looks at the items of
a list in their order, and at the members of an object by their names, of which each has
to stand once; both ways of looking see in the printed form what they saw before.
-/

namespace OutboxRelay
namespace Json

/-- Whether what a tree denotes is denoted as well by the tree of the value that was read. -/
def Lasting {α : Type} (denote : Tree → Option α) : Prop :=
  ∀ depth tree value, tree.value? depth = some value → ∀ a, denote tree = some a →
    denote value.tree = some a

/-! ## Values without inner structure -/

theorem Tree.value?_text (depth : Nat) (quotation : Quotation) :
    (Tree.text quotation).value? depth = quotation.text?.map Value.text := by
  cases depth <;> rfl

theorem Tree.value?_number (depth : Nat) (literal : Literal) :
    (Tree.number literal).value? depth = literal.numeral?.map Numeral.value := by
  cases depth <;> rfl

theorem Tree.value?_null (depth : Nat) : Tree.null.value? depth = some .null := by
  cases depth <;> rfl

theorem lasting_text : Lasting textOf? := by
  intro depth tree value hvalue text htext
  cases tree with
  | text quotation =>
      have hquotation : quotation.text? = some text := htext
      rw [Tree.value?_text, hquotation] at hvalue
      obtain rfl : Value.text text = value := Option.some.inj hvalue
      exact Quotation.text?_ofString text
  | _ => simp [textOf?] at htext

theorem lasting_optionalText : Lasting optionalTextOf? := by
  intro depth tree value hvalue text? htext
  cases tree with
  | null =>
      rw [Tree.value?_null] at hvalue
      obtain rfl : Value.null = value := Option.some.inj hvalue
      exact htext
  | text quotation =>
      obtain ⟨text, hquotation, rfl⟩ : ∃ text, quotation.text? = some text ∧ some text = text? :=
        Option.map_eq_some_iff.mp htext
      rw [Tree.value?_text, hquotation] at hvalue
      obtain rfl : Value.text text = value := Option.some.inj hvalue
      exact congrArg (Option.map some) (Quotation.text?_ofString text)
  | _ => simp [optionalTextOf?, textOf?] at htext

/-- An integer of at most sixty-four bits is spelled so that it is read again. -/
theorem lasting_integer {bits : Nat} (hbits : bits ≤ 64) : Lasting (integerOf? bits) := by
  intro depth tree value hvalue i hi
  cases tree with
  | number literal =>
      simp only [integerOf?] at hi
      split at hi
      · rename_i read hnumeral
        obtain ⟨hrange, hread⟩ := Option.ite_none_right_eq_some.mp hi
        obtain rfl : read = i := Option.some.inj hread
        rw [Tree.value?_number, hnumeral] at hvalue
        obtain rfl : Value.integer read = value := Option.some.inj hvalue
        have hbound : 1 <<< (bits - 1) ≤ 1 <<< 63 := by
          rw [Nat.one_shiftLeft, Nat.one_shiftLeft]
          exact Nat.pow_le_pow_right (by decide) (by omega)
        have hword : 1 <<< 63 ≤ wordMax := by decide
        have hagain : (Literal.ofInt read).numeral? = some (.integer read) :=
          Literal.numeral?_ofInt (by omega) (by omega)
        simp only [Value.tree, integerOf?, hagain]
        exact if_pos hrange
      · simp at hi
  | _ => simp [integerOf?] at hi

/-! ## Rows -/

theorem forall_of_itemValues? {α : Type} {denote : Tree → Option α} {P : α → Prop}
    (h : ∀ tree a, denote tree = some a → P a) {items : List Tree} {values : List α}
    (hvalues : itemValues? denote items = some values) : ∀ value ∈ values, P value := by
  induction items generalizing values with
  | nil =>
      obtain rfl : [] = values := Option.some.inj hvalues
      simp
  | cons item items ih =>
      obtain ⟨value, hvalue, hmore⟩ := Option.bind_eq_some_iff.mp hvalues
      obtain ⟨others, hothers, rfl⟩ := Option.map_eq_some_iff.mp hmore
      exact List.forall_mem_cons.mpr ⟨h item value hvalue, ih hothers⟩

theorem forall_of_memberValues? {α : Type} {denote : Tree → Option α} {P : α → Prop}
    (h : ∀ tree a, denote tree = some a → P a) {members : List (Quotation × Tree)}
    {values : List (String × α)} (hvalues : memberValues? denote members = some values) :
    ∀ value ∈ values, P value.2 := by
  induction members generalizing values with
  | nil =>
      obtain rfl : [] = values := Option.some.inj hvalues
      simp
  | cons member members ih =>
      obtain ⟨text, htext, hmore⟩ := Option.bind_eq_some_iff.mp hvalues
      obtain ⟨value, hvalue, hmore⟩ := Option.bind_eq_some_iff.mp hmore
      obtain ⟨others, hothers, rfl⟩ := Option.map_eq_some_iff.mp hmore
      exact List.forall_mem_cons.mpr ⟨h member.2 value hvalue, ih hothers⟩

/-- Whether what a field denotes lasts. -/
def Meaning.Lasts {field : Field} (meaning : Meaning field) : Prop :=
  ∀ depth, Lasting (meaning.denote depth)

/-- Whether what each field of a row denotes lasts. -/
def Meanings.Last : (fields : List Field) → Meanings fields → Prop
  | [], _ => True
  | _ :: fields, (meaning, meanings) => meaning.Lasts ∧ Meanings.Last fields meanings

theorem length_itemValues? {depth : Nat} {items : List Tree} {values : List Value}
    (h : itemValues? (Tree.value? depth) items = some values) : values.length = items.length := by
  induction items generalizing values with
  | nil =>
      obtain rfl : [] = values := Option.some.inj h
      rfl
  | cons item items ih =>
      obtain ⟨value, -, h⟩ := Option.bind_eq_some_iff.mp h
      obtain ⟨values, hvalues, rfl⟩ := Option.map_eq_some_iff.mp h
      simp [ih hvalues]

theorem length_itemTrees (values : List Value) :
    (Value.itemTrees values).length = values.length := by
  induction values with
  | nil => rfl
  | cons value values ih => simp [Value.itemTrees, ih]

/-- The row of a list lasts, position by position. -/
theorem rowOfTrees?_itemTrees {depth inner : Nat} {fields : List Field}
    {meanings : Meanings fields} (hlast : Meanings.Last fields meanings) {items : List Tree}
    {values : List Value} (hvalues : itemValues? (Tree.value? inner) items = some values)
    {row : Row fields} (hrow : rowOfTrees? depth fields meanings items = some row) :
    rowOfTrees? depth fields meanings (Value.itemTrees values) = some row := by
  induction fields generalizing items values with
  | nil => exact hrow
  | cons field fields ih =>
      obtain ⟨meaning, meanings⟩ := meanings
      obtain ⟨hmeaning, hmeanings⟩ := hlast
      cases items with
      | nil =>
          obtain rfl : [] = values := Option.some.inj hvalues
          exact hrow
      | cons item items =>
          obtain ⟨value, hvalue, hmore⟩ := Option.bind_eq_some_iff.mp hvalues
          obtain ⟨others, hothers, rfl⟩ := Option.map_eq_some_iff.mp hmore
          obtain ⟨a, ha, hmore⟩ := Option.bind_eq_some_iff.mp hrow
          obtain ⟨left, hleft, rfl⟩ := Option.map_eq_some_iff.mp hmore
          rw [Value.itemTrees, rowOfTrees?, hmeaning depth inner item value hvalue a ha,
            ih hmeanings hothers hleft]
          rfl

theorem isSome_text?_of_memberValues? {α : Type} {denote : Tree → Option α}
    {members : List (Quotation × Tree)} {values : List (String × α)}
    (h : memberValues? denote members = some values) :
    ∀ member ∈ members, member.1.text?.isSome := by
  induction members generalizing values with
  | nil => simp
  | cons member members ih =>
      obtain ⟨text, htext, h⟩ := Option.bind_eq_some_iff.mp h
      obtain ⟨value, -, h⟩ := Option.bind_eq_some_iff.mp h
      obtain ⟨values, hvalues, rfl⟩ := Option.map_eq_some_iff.mp h
      exact List.forall_mem_cons.mpr ⟨by simp [htext], ih hvalues⟩

/-- The members of a name were read of the trees of that name. -/
theorem forall₂_membersNamed {depth : Nat} {members : List (Quotation × Tree)}
    {values : List (String × Value)}
    (h : memberValues? (Tree.value? depth) members = some values) (name : String) :
    List.Forall₂ (fun tree member => tree.value? depth = some member.2)
      (valuesNamed name members) (membersNamed name values) := by
  induction members generalizing values with
  | nil =>
      obtain rfl : [] = values := Option.some.inj h
      exact .nil
  | cons member members ih =>
      obtain ⟨text, htext, h⟩ := Option.bind_eq_some_iff.mp h
      obtain ⟨value, hvalue, h⟩ := Option.bind_eq_some_iff.mp h
      obtain ⟨values, hvalues, rfl⟩ := Option.map_eq_some_iff.mp h
      by_cases hname : text = name
      · subst hname
        rw [valuesNamed_cons_of_eq htext, membersNamed, List.filter_cons_of_pos (by simp)]
        exact .cons hvalue (ih hvalues)
      · rw [valuesNamed_cons_of_ne (by simpa [htext] using hname), membersNamed,
          List.filter_cons_of_neg (by simpa using hname)]
        exact ih hvalues

/-- The value of a field lasts: the one member of its name is the last one of its name. -/
theorem valueOf?_normalMembers {depth inner : Nat} {field : Field} {meaning : Meaning field}
    (hlasts : meaning.Lasts) {members : List (Quotation × Tree)}
    {values : List (String × Value)}
    (hvalues : memberValues? (Tree.value? inner) members = some values) {a : field.Carrier}
    (ha : valueOf? meaning depth (valuesNamed field.name members) = some a) :
    valueOf? meaning depth
      (valuesNamed field.name (Value.memberTrees (normalMembers values))) = some a := by
  have hnamed := forall₂_membersNamed hvalues field.name
  have hnormal := membersNamed_normalMembers values field.name
  rw [valuesNamed_memberTrees]
  change valueOf? meaning depth ((membersNamed field.name (normalMembers values)).map
    fun member => member.2.tree) = some a
  rw [hnormal]
  generalize valuesNamed field.name members = trees at hnamed ha
  generalize membersNamed field.name values = named at hnamed
  cases hnamed with
  | nil => exact ha
  | @cons tree member trees others hvalue hothers =>
      cases hothers with
      | nil => exact hlasts depth inner tree member.2 hvalue a ha
      | cons => simp [valueOf?] at ha

theorem rowNamed?_normalMembers {depth inner : Nat} {fields : List Field}
    {meanings : Meanings fields} (hlast : Meanings.Last fields meanings)
    {members : List (Quotation × Tree)} {values : List (String × Value)}
    (hvalues : memberValues? (Tree.value? inner) members = some values) {row : Row fields}
    (hrow : rowNamed? depth fields meanings members = some row) :
    rowNamed? depth fields meanings (Value.memberTrees (normalMembers values)) = some row := by
  induction fields with
  | nil => exact hrow
  | cons field fields ih =>
      obtain ⟨meaning, meanings⟩ := meanings
      obtain ⟨hmeaning, hmeanings⟩ := hlast
      obtain ⟨a, ha, hrow⟩ := Option.bind_eq_some_iff.mp hrow
      obtain ⟨others, hothers, rfl⟩ := Option.map_eq_some_iff.mp hrow
      exact rowNamed?_cons (valueOf?_normalMembers hmeaning hvalues ha) (ih hmeanings hothers)

/-! ## Records -/

/-- What a record denotes lasts, if what its fields denote does. -/
theorem Record.lasting {α : Type} (record : Record α) {meanings : Meanings record.fields}
    (hnames : (record.fields.map Field.name).Nodup)
    (hlast : Meanings.Last record.fields meanings) (depth : Nat) :
    Lasting (record.denote meanings depth) := by
  intro inner tree value hvalue a ha
  cases depth with
  | zero => simp [denote] at ha
  | succ depth =>
      cases tree with
      | list items =>
          cases inner with
          | zero => simp [Tree.value?, Tree.simple?] at hvalue
          | succ inner =>
              obtain ⟨values, hvalues, rfl⟩ := Option.map_eq_some_iff.mp hvalue
              obtain ⟨hlength, hbuilt⟩ := Option.ite_none_right_eq_some.mp ha
              obtain ⟨row, hrow, rfl⟩ := Option.map_eq_some_iff.mp hbuilt
              rw [Value.tree, denote, length_itemTrees, length_itemValues? hvalues,
                if_pos hlength, rowOfTrees?_itemTrees hlast hvalues hrow]
              rfl
      | object members =>
          cases inner with
          | zero => simp [Tree.value?, Tree.simple?] at hvalue
          | succ inner =>
              obtain ⟨values, hvalues, rfl⟩ := Option.map_eq_some_iff.mp hvalue
              rw [denote, slotsOf?_vacant depth record.fields hnames meanings
                (isSome_text?_of_memberValues? hvalues)] at ha
              obtain ⟨row, hrow, rfl⟩ := Option.map_eq_some_iff.mp ha
              rw [Value.ofMembers_eq, record.denote_object meanings hnames,
                rowNamed?_normalMembers hlast hvalues hrow]
              rfl
      | _ => simp [denote] at ha

/-! ## The printed form -/

theorem Tree.isShort_of_simple? {tree : Tree} {value : Value} (h : tree.simple? = some value) :
    ∀ x ∈ value.floats, x.magnitude.IsShort := by
  cases tree with
  | number literal =>
      obtain ⟨numeral, hnumeral, rfl⟩ := Option.map_eq_some_iff.mp h
      cases numeral with
      | integer i => simp [Numeral.value, Value.floats]
      | float x => simpa [Numeral.value, Value.floats] using Literal.isShort_of_numeral? hnumeral
  | text quotation =>
      obtain ⟨text, -, rfl⟩ := Option.map_eq_some_iff.mp h
      simp [Value.floats]
  | null =>
      obtain rfl := Option.some.inj h
      simp [Value.floats]
  | boolean b =>
      obtain rfl := Option.some.inj h
      simp [Value.floats]
  | _ => simp [Tree.simple?] at h

/-- All floating numbers that were read have short significands. -/
theorem Tree.isShort_of_value? {depth : Nat} {tree : Tree} {value : Value}
    (h : tree.value? depth = some value) : ∀ x ∈ value.floats, x.magnitude.IsShort := by
  induction depth generalizing tree value with
  | zero =>
      have hsimple : tree.simple? = some value := by cases tree <;> exact h
      exact Tree.isShort_of_simple? hsimple
  | succ depth ih =>
      have hparts : ∀ tree value, Tree.value? depth tree = some value →
          ∀ x ∈ value.floats, x.magnitude.IsShort := fun tree value => ih
      cases tree with
      | list items =>
          obtain ⟨values, hvalues, rfl⟩ := Option.map_eq_some_iff.mp h
          intro x hx
          obtain ⟨item, hitem, hx⟩ := Value.mem_itemFloats.mp hx
          exact forall_of_itemValues? hparts hvalues item hitem x hx
      | object members =>
          obtain ⟨values, hvalues, rfl⟩ := Option.map_eq_some_iff.mp h
          intro x hx
          obtain ⟨member, hmember, hx⟩ := Value.mem_memberFloats.mp hx
          exact forall_of_memberValues? hparts hvalues member
            (mem_of_mem_normalMembers hmember) x hx
      | _ => exact Tree.isShort_of_simple? h

/-- A value that was read of a text is printed as a text of its own tree. -/
theorem Tree.language_of_value? {depth : Nat} {tree : Tree} {value : Value}
    (h : tree.value? depth = some value) : value.tree.language value.encode :=
  value.language_tree fun x hx => isPrintable_of_isShort (Tree.isShort_of_value? h x hx)

end Json
end OutboxRelay
