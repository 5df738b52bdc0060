import OutboxRelay.Proofs.Json.Reading

/-!
# Trees and their texts

A tree is a JSON value as it is written: a string with its escapes, a number with its
digits, and an object with its members in their order, repeated names included.

**Rules.**

* A string may hold any octets but marks, backslashes and controls, and any escapes.
* A number starts with a single zero or with another digit.
* Blanks may stand around the brackets, the commas and the colons.

What a string or a number means is what a lexer reads of it alone, and need not exist.
-/

namespace OutboxRelay
namespace Json

/-! ## Strings -/

/-- The value of four digits in base sixteen. -/
def hexValue? (p q r s : UInt8) : Option Nat := do
  let p ← hexDigit? p
  let q ← hexDigit? q
  let r ← hexDigit? r
  let s ← hexDigit? s
  return ((p * 16 + q) * 16 + r) * 16 + s

/-- A piece of a string: an octet that stands for itself, or an escape. -/
inductive Piece
  | plain (octet : UInt8) (h : octet ≠ 0x22 ∧ octet ≠ 0x5C ∧ ¬octet < 0x20)
  | letter (octet meant : UInt8) (h : letterEscape? octet = some meant)
  | unit (p q r s : UInt8) (value : Nat) (h : hexValue? p q r s = some value)

/-- The octets of a piece. -/
def Piece.octets : Piece → Bytes
  | plain octet _ => [octet]
  | letter octet _ _ => [0x5C, octet]
  | unit p q r s _ _ => [0x5C, 0x75, p, q, r, s]

/-- The octets that some pieces stand for, if surrogates come in pairs. -/
def meantOctets? : List Piece → Option Bytes
  | [] => some []
  | .plain octet _ :: pieces => (meantOctets? pieces).map ([octet] ++ ·)
  | .letter _ meant _ :: pieces => (meantOctets? pieces).map ([meant] ++ ·)
  | .unit _ _ _ _ leading _ :: pieces =>
      if isTrailing leading then none
      else if isLeading leading then
        match pieces with
        | .unit _ _ _ _ trailing _ :: pieces =>
            if isTrailing trailing then
              (meantOctets? pieces).map
                (String.utf8EncodeChar (Char.ofNat (pairValue leading trailing)) ++ ·)
            else none
        | _ => none
      else
        (meantOctets? pieces).map (String.utf8EncodeChar (Char.ofNat leading) ++ ·)

/-- A string as it is written. -/
structure Quotation where
  pieces : List Piece

namespace Quotation

/-- The octets between the marks. -/
def inner (q : Quotation) : Bytes :=
  q.pieces.flatMap Piece.octets

/-- The octets of a string. -/
def octets (q : Quotation) : Bytes :=
  0x22 :: (q.inner ++ [0x22])

/-- The text that a string means, if there is one. -/
def text? (q : Quotation) : Option String :=
  (meantOctets? q.pieces).bind Utf8.decode?

end Quotation

/-! ## Numbers -/

/-- A row of digits, at least one. -/
structure Digits where
  octets : Bytes
  digits : ∀ b ∈ octets, isDigit b = true
  nonempty : octets ≠ []

/-- An exponent as it is written. -/
structure Exponent where
  mark : UInt8
  isMark : mark = 0x65 ∨ mark = 0x45
  sign : Option UInt8
  isSign : ∀ b ∈ sign, b = 0x2B ∨ b = 0x2D
  digits : Digits

/-- The octets of an exponent. -/
def Exponent.octets (x : Exponent) : Bytes :=
  x.mark :: (x.sign.toList ++ x.digits.octets)

/-- A number as it is written. -/
structure Literal where
  negative : Bool
  whole : Digits
  /-- No digit stands behind a zero in front. -/
  first : whole.octets.head? = some 0x30 → whole.octets = [0x30]
  fraction : Option Digits
  exponent : Option Exponent

namespace Literal

/-- The octets of the digits behind the point, with it. -/
def fractionOctets (x : Literal) : Bytes :=
  match x.fraction with
  | some digits => 0x2E :: digits.octets
  | none => []

/-- The octets of the exponent. -/
def exponentOctets (x : Literal) : Bytes :=
  match x.exponent with
  | some exponent => exponent.octets
  | none => []

/-- The octets behind the sign. -/
def unsignedOctets (x : Literal) : Bytes :=
  x.whole.octets ++ (x.fractionOctets ++ x.exponentOctets)

/-- The octets of a number. -/
def octets (x : Literal) : Bytes :=
  if x.negative then 0x2D :: x.unsignedOctets else x.unsignedOctets

/-- What a number means, if it is within range. -/
def numeral? (x : Literal) : Option Numeral :=
  (number (Cursor.start x.octets)).toOption.map Prod.fst

end Literal

/-! ## Trees -/

/-- A value as it is written. -/
inductive Tree
  | null
  | boolean (value : Bool)
  | number (literal : Literal)
  | text (quotation : Quotation)
  | list (items : List Tree)
  | object (members : List (Quotation × Tree))

/-- What holds of a tree whenever it holds of its parts holds of every tree. -/
@[elab_as_elim, induction_eliminator]
theorem Tree.induction {motive : Tree → Prop} (null : motive .null)
    (boolean : ∀ value, motive (.boolean value)) (number : ∀ literal, motive (.number literal))
    (text : ∀ quotation, motive (.text quotation))
    (list : ∀ items, (∀ item ∈ items, motive item) → motive (.list items))
    (object : ∀ members, (∀ member ∈ members, motive member.2) → motive (.object members))
    (tree : Tree) : motive tree :=
  @Tree.rec motive (fun items => ∀ item ∈ items, motive item)
    (fun members => ∀ member ∈ members, motive member.2) (fun member => motive member.2)
    null boolean number text list object
    (by simp) (fun _ _ first others => List.forall_mem_cons.mpr ⟨first, others⟩)
    (by simp) (fun _ _ first others => List.forall_mem_cons.mpr ⟨first, others⟩)
    (fun _ _ value => value) tree

/-- The texts that may stand for something. -/
abbrev Language := Bytes → Prop

/-- What may stand behind an item: the other items, each behind a comma. -/
def following : List Language → Language
  | [], octets => Blank octets
  | item :: items, octets =>
      ∃ after before inner others,
        octets = after ++ 0x2C :: (before ++ (inner ++ others)) ∧
        Blank after ∧ Blank before ∧ item inner ∧ following items others

/-- Items with commas between them. -/
def row : List Language → Language
  | [], octets => Blank octets
  | item :: items, octets =>
      ∃ before inner others,
        octets = before ++ (inner ++ others) ∧
        Blank before ∧ item inner ∧ following items others

/-- Items in brackets. -/
def bracketed (opening closing : UInt8) (items : List Language) : Language :=
  fun octets => ∃ inner, octets = opening :: (inner ++ [closing]) ∧ row items inner

/-- A member of an object: its name, a colon, and its value. -/
def memberLanguage (name : Quotation) (value : Language) : Language :=
  fun octets =>
    ∃ after before inner,
      octets = name.octets ++ (after ++ 0x3A :: (before ++ inner)) ∧
      Blank after ∧ Blank before ∧ value inner

mutual

/-- The texts of a tree. -/
def Tree.language : Tree → Language
  | .null => (· = 0x6E :: nullTail)
  | .boolean true => (· = 0x74 :: trueTail)
  | .boolean false => (· = 0x66 :: falseTail)
  | .number literal => (· = literal.octets)
  | .text quotation => (· = quotation.octets)
  | .list items => bracketed 0x5B 0x5D (itemLanguages items)
  | .object members => bracketed 0x7B 0x7D (memberLanguages members)

/-- The texts of each item of a list. -/
def itemLanguages : List Tree → List Language
  | [] => []
  | item :: items => item.language :: itemLanguages items

/-- The texts of each member of an object. -/
def memberLanguages : List (Quotation × Tree) → List Language
  | [] => []
  | (name, value) :: members =>
      memberLanguage name value.language :: memberLanguages members

end

theorem itemLanguages_eq_map (items : List Tree) :
    itemLanguages items = items.map Tree.language := by
  induction items with
  | nil => rfl
  | cons item items ih => rw [itemLanguages, ih, List.map_cons]

theorem memberLanguages_eq_map (members : List (Quotation × Tree)) :
    memberLanguages members =
      members.map fun member => memberLanguage member.1 member.2.language := by
  induction members with
  | nil => rfl
  | cons member members ih => rw [memberLanguages, ih, List.map_cons]

end Json
end OutboxRelay
