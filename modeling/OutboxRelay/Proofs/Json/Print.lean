import OutboxRelay.Proofs.Json.Decimal
import OutboxRelay.Proofs.Json.Escaping

/-!
# Printing values

The printed form of a value is a text of a tree, the one that describes the value.

**Method.** Strings and integers have trees of their own.  A floating number has the
number as which it is printed, provided that its printed form is one; the floating
numbers of a value are listed, so that this can be asked of each.
-/

namespace OutboxRelay
namespace Json

open Number (Binary64)

/-! ## The tree of a value -/

/-- Whether the printed form of a floating number is a number. -/
def IsPrintable (x : Binary64) : Prop :=
  ∃ literal : Literal, literal.octets = Utf8.encode (x.text floatLayout)

open Classical in
/-- The number as which a floating number is printed. -/
noncomputable def Literal.ofFloat (x : Binary64) : Literal :=
  if h : IsPrintable x then h.choose else ofInt 0

theorem Literal.octets_ofFloat {x : Binary64} (h : IsPrintable x) :
    (Literal.ofFloat x).octets = Utf8.encode (x.text floatLayout) := by
  rw [ofFloat, dif_pos h]
  exact h.choose_spec

namespace Value

mutual

/-- The tree that describes a value. -/
noncomputable def tree : Value → Tree
  | null => .null
  | boolean value => .boolean value
  | integer value => .number (.ofInt value)
  | float value => .number (.ofFloat value)
  | text value => .text (.ofString value)
  | list items => .list (itemTrees items)
  | object members => .object (memberTrees members)

/-- The trees of the items of a list. -/
noncomputable def itemTrees : List Value → List Tree
  | [] => []
  | item :: items => item.tree :: itemTrees items

/-- The trees of the members of an object, with their names. -/
noncomputable def memberTrees : List (String × Value) → List (Quotation × Tree)
  | [] => []
  | (name, value) :: members => (.ofString name, value.tree) :: memberTrees members

end

mutual

/-- The floating numbers inside a value. -/
def floats : Value → List Binary64
  | float value => [value]
  | list items => itemFloats items
  | object members => memberFloats members
  | _ => []

/-- The floating numbers inside the items of a list. -/
def itemFloats : List Value → List Binary64
  | [] => []
  | item :: items => item.floats ++ itemFloats items

/-- The floating numbers inside the members of an object. -/
def memberFloats : List (String × Value) → List Binary64
  | [] => []
  | (_, value) :: members => value.floats ++ memberFloats members

end

/-- What holds of a value whenever it holds of its parts holds of every value. -/
@[elab_as_elim, induction_eliminator]
theorem induction {motive : Value → Prop} (null : motive .null)
    (boolean : ∀ value, motive (.boolean value)) (integer : ∀ value, motive (.integer value))
    (float : ∀ value, motive (.float value)) (text : ∀ value, motive (.text value))
    (list : ∀ items, (∀ item ∈ items, motive item) → motive (.list items))
    (object : ∀ members, (∀ member ∈ members, motive member.2) → motive (.object members))
    (value : Value) : motive value :=
  @Value.rec motive (fun items => ∀ item ∈ items, motive item)
    (fun members => ∀ member ∈ members, motive member.2) (fun member => motive member.2)
    null boolean integer float text list object
    (by simp) (fun _ _ first others => List.forall_mem_cons.mpr ⟨first, others⟩)
    (by simp) (fun _ _ first others => List.forall_mem_cons.mpr ⟨first, others⟩)
    (fun _ _ value => value) value

theorem mem_itemFloats {items : List Value} {x : Binary64} :
    x ∈ itemFloats items ↔ ∃ item ∈ items, x ∈ item.floats := by
  induction items with
  | nil => simp [itemFloats]
  | cons item items ih => simp [itemFloats, ih]

theorem mem_memberFloats {members : List (String × Value)} {x : Binary64} :
    x ∈ memberFloats members ↔ ∃ member ∈ members, x ∈ member.2.floats := by
  induction members with
  | nil => simp [memberFloats]
  | cons member members ih => simp [memberFloats, ih]

end Value

/-! ## Printed rows -/

/-- Texts with commas between them are a row. -/
theorem row_commaSeparated {items : List Language} {texts : List String}
    (h : List.Forall₂ (fun item text => item (Utf8.encode text)) items texts) :
    row items (Utf8.encode (commaSeparated texts)) := by
  have key (item : Language) (items : List Language) (text : String) (texts : List String)
      (h : List.Forall₂ (fun item text => item (Utf8.encode text)) items texts) :
      ∃ others, Utf8.encode (commaSeparated (text :: texts)) = Utf8.encode text ++ others ∧
        following items others := by
    induction h generalizing text with
    | nil => exact ⟨[], by simp [commaSeparated], Blank.nil⟩
    | @cons item next items texts hnext hothers ih =>
        obtain ⟨others, hencode, hfollowing⟩ := ih next
        refine ⟨0x2C :: (Utf8.encode next ++ others), ?_, [], [], Utf8.encode next, others, rfl,
          Blank.nil, Blank.nil, hnext, hfollowing⟩
        rw [commaSeparated] at hencode ⊢
        rw [String.intercalate_cons_cons, Utf8.encode_append, hencode, Utf8.encode_append,
          List.append_assoc]
        rfl
  cases h with
  | nil => exact Blank.nil
  | @cons item text items texts hitem hothers =>
      obtain ⟨others, hencode, hfollowing⟩ := key item items text texts hothers
      exact ⟨[], Utf8.encode text, others, hencode, Blank.nil, hitem, hfollowing⟩

/-! ## Printed values -/

namespace Value

theorem forall₂_printItems {items : List Value}
    (h : ∀ item ∈ items, item.tree.language item.encode) :
    List.Forall₂ (fun item text => item (Utf8.encode text)) (itemLanguages (itemTrees items))
      (printItems items) := by
  induction items with
  | nil => exact .nil
  | cons item items ih =>
      obtain ⟨hitem, hitems⟩ := List.forall_mem_cons.mp h
      exact .cons hitem (ih hitems)

theorem forall₂_printMembers {members : List (String × Value)}
    (h : ∀ member ∈ members, member.2.tree.language member.2.encode) :
    List.Forall₂ (fun item text => item (Utf8.encode text))
      (memberLanguages (memberTrees members)) (printMembers members) := by
  induction members with
  | nil => exact .nil
  | cons member members ih =>
      obtain ⟨hmember, hmembers⟩ := List.forall_mem_cons.mp h
      refine .cons ⟨[], [], member.2.encode, ?_, Blank.nil, Blank.nil, hmember⟩ (ih hmembers)
      rw [Utf8.encode_append, Utf8.encode_append, Quotation.octets_ofString, List.append_assoc]
      rfl

/-- The printed form of a value is a text of its tree. -/
theorem language_tree (value : Value) (h : ∀ x ∈ value.floats, IsPrintable x) :
    value.tree.language value.encode := by
  induction value with
  | null => rfl
  | boolean value => cases value <;> rfl
  | integer value => exact (Literal.octets_ofInt value).symm
  | float value => exact (Literal.octets_ofFloat (h value (by simp [floats]))).symm
  | text value => exact (Quotation.octets_ofString value).symm
  | list items ih =>
      have hitems : ∀ item ∈ items, item.tree.language item.encode := fun item hitem =>
        ih item hitem fun x hx => h x (mem_itemFloats.mpr ⟨item, hitem, hx⟩)
      refine ⟨_, ?_, row_commaSeparated (forall₂_printItems hitems)⟩
      simp only [encode, print, Utf8.encode_append]
      rfl
  | object members ih =>
      have hmembers : ∀ member ∈ members, member.2.tree.language member.2.encode :=
        fun member hmember =>
          ih member hmember fun x hx => h x (mem_memberFloats.mpr ⟨member, hmember, hx⟩)
      refine ⟨_, ?_, row_commaSeparated (forall₂_printMembers hmembers)⟩
      simp only [encode, print, Utf8.encode_append]
      rfl

end Value

end Json
end OutboxRelay
