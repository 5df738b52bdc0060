import OutboxRelay.Proofs.Json.Print
import OutboxRelay.Proofs.Json.Record

/-!
# Reading objects that are printed

A record is read of the printed form of an object by the names of its members.  A field
that finds the one member of its name has its value, and a required field that finds
none refuses the whole.

**Method.** The row of a record is put together field by field, so that a proof about
one kind of record has the shape of its fields.
-/

namespace OutboxRelay
namespace Json

/-! ## What the usual fields denote -/

/-- A required string denotes the text that a tree is. -/
def Meaning.text (name : String) : Meaning (Field.text name) :=
  ⟨fun _ => textOf?, fun _ => denotes_text⟩

/-- A required integer denotes the integer that a tree is. -/
def Meaning.integer (name : String) (bits : Nat) : Meaning (Field.integer name bits) :=
  ⟨fun _ => integerOf? bits, fun _ => denotes_integer bits⟩

/-- A required record denotes what the record does. -/
def Meaning.record {α : Type} (name : String) (record : Record α)
    (meanings : Meanings record.fields) : Meaning (Field.required name record.read) :=
  ⟨record.denote meanings, record.denotes meanings⟩

/-! ## Rows of printed objects -/

variable {α : Type} {depth : Nat} {members : List (String × Value)}

theorem isSome_text?_memberTrees (members : List (String × Value)) :
    ∀ member ∈ Value.memberTrees members, member.1.text?.isSome := by
  induction members with
  | nil => simp [Value.memberTrees]
  | cons member members ih => simpa [Value.memberTrees] using ih

/-- The members of a name have that name in the value, too. -/
theorem valuesNamed_memberTrees (name : String) (members : List (String × Value)) :
    valuesNamed name (Value.memberTrees members) =
      (members.filter fun member => member.1 = name).map fun member => member.2.tree := by
  induction members with
  | nil => rfl
  | cons member members ih =>
      obtain ⟨other, value⟩ := member
      by_cases h : other = name
      · subst h
        simpa [Value.memberTrees, valuesNamed] using ih
      · simpa [Value.memberTrees, valuesNamed, h] using ih

/-- What a record denotes at an object that is printed. -/
theorem Record.denote_object (record : Record α) (meanings : Meanings record.fields)
    (h : (record.fields.map Field.name).Nodup) (depth : Nat) (members : List (String × Value)) :
    record.denote meanings (depth + 1) (Value.object members).tree =
      (rowNamed? depth record.fields meanings (Value.memberTrees members)).map record.build := by
  rw [Value.tree, Record.denote, slotsOf?_vacant depth record.fields h meanings
    (isSome_text?_memberTrees members)]

theorem rowNamed?_cons {field : Field} {fields : List Field} {meaning : Meaning field}
    {meanings : Meanings fields} {trees : List (Quotation × Tree)} {value : field.Carrier}
    {row : Row fields}
    (hvalue : valueOf? meaning depth (valuesNamed field.name trees) = some value)
    (hrow : rowNamed? depth fields meanings trees = some row) :
    rowNamed? depth (field :: fields) (meaning, meanings) trees = some (value, row) := by
  rw [rowNamed?, hvalue, hrow]
  rfl

/-- Without a member that is required there is no row. -/
theorem rowNamed?_eq_none {fields : List Field} {meanings : Meanings fields}
    {trees : List (Quotation × Tree)} {field : Field} (hfield : field ∈ fields)
    (habsent : field.absent = none) (h : valuesNamed field.name trees = []) :
    rowNamed? depth fields meanings trees = none := by
  induction fields with
  | nil => simp at hfield
  | cons first fields ih =>
      obtain ⟨meaning, meanings⟩ := meanings
      rw [rowNamed?]
      rcases List.mem_cons.mp hfield with rfl | hfield
      · rw [h, valueOf?, habsent]
        rfl
      · rw [ih hfield]
        cases valueOf? meaning depth (valuesNamed first.name trees) <;> rfl

section Fields

variable {name : String}

theorem valueOf?_text {text : String}
    (h : (members.filter fun member => member.1 = name) = [(name, .text text)]) :
    valueOf? (.text name) depth (valuesNamed name (Value.memberTrees members)) = some text := by
  rw [valuesNamed_memberTrees, h]
  exact Quotation.text?_ofString text

theorem valueOf?_integer {value : Int64}
    (h : (members.filter fun member => member.1 = name) = [(name, .integer value.toInt)]) :
    valueOf? (.integer name 64) depth (valuesNamed name (Value.memberTrees members)) =
      some value.toInt := by
  have least : -(1 <<< 63 : Nat) ≤ value.toInt := Int64.le_toInt value
  have greatest : value.toInt < (1 <<< 63 : Nat) := Int64.toInt_lt value
  have hword : (1 <<< 63 : Nat) ≤ wordMax := by decide
  have hnumeral := Literal.numeral?_ofInt least (by omega)
  rw [valuesNamed_memberTrees, h]
  simp only [List.map_cons, List.map_nil, valueOf?, Meaning.integer, Value.tree, integerOf?,
    hnumeral]
  exact if_pos ⟨least, greatest⟩

theorem valueOf?_record {record : Record α} {meanings : Meanings record.fields} {value : Value}
    (h : (members.filter fun member => member.1 = name) = [(name, value)]) {a : α}
    (hvalue : record.denote meanings depth value.tree = some a) :
    valueOf? (.record name record meanings) depth (valuesNamed name (Value.memberTrees members)) =
      some a := by
  rw [valuesNamed_memberTrees, h]
  exact hvalue

end Fields

end Json
end OutboxRelay
