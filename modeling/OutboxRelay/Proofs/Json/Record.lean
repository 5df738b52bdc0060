import OutboxRelay.Json.Record
import OutboxRelay.Proofs.Json.Row
import OutboxRelay.Proofs.Json.Skip

/-!
# Reading records

A record is read of every text of a tree as what its fields denote there: of a list by
position, and of an object by name.

**Method.** What a field denotes is given with the field.  A member fills the slot of
its name and leaves the others alone; after all members, each slot holds what the one
member of its name denotes, and two members of one name are refused.
-/

namespace OutboxRelay
namespace Json

open Reader (Reads Refuses Answers AnswersLeaving)

/-- What a field denotes at each depth. -/
structure Meaning (field : Field) where
  denote : Nat → Tree → Option field.Carrier
  denotes : ∀ depth, Denotes (field.read depth) (denote depth)

/-- What each field of a row denotes. -/
def Meanings : List Field → Type
  | [] => Unit
  | field :: fields => Meaning field × Meanings fields

/-! ## Lists -/

/-- The row of a list, by position; what is missing at its end may have a value of its own. -/
def rowOfTrees? (depth : Nat) :
    (fields : List Field) → Meanings fields → List Tree → Option (Row fields)
  | [], _, _ => some ()
  | field :: fields, (_, meanings), [] =>
      field.absent.bind fun value =>
        (rowOfTrees? depth fields meanings []).map fun row => (value, row)
  | _ :: fields, (meaning, meanings), tree :: trees =>
      (meaning.denote depth tree).bind fun value =>
        (rowOfTrees? depth fields meanings trees).map fun row => (value, row)

/-- A row is read of the first items of a list, one for each field. -/
theorem answers_rowOfItems (title : String) (total depth : Nat) (fields : List Field)
    (meanings : Meanings fields) (position : Nat) (trees : List Tree) (others rest : Bytes)
    (h : Remaining (position == 0) (itemLanguages trees) others) :
    AnswersLeaving (Record.rowOfItems title total depth fields position) (others ++ 0x5D :: rest)
      (rowOfTrees? depth fields meanings trees) fun left => ∃ others',
        left = others' ++ 0x5D :: rest ∧ Remaining (position + fields.length == 0)
          (itemLanguages (trees.drop fields.length)) others' := by
  induction fields generalizing position trees others with
  | nil => exact ⟨_, ⟨others, rfl, h⟩, Reads.pure () _⟩
  | cons field fields ih =>
      obtain ⟨meaning, meanings⟩ := meanings
      rw [Record.rowOfItems, List.length_cons, ← Nat.add_assoc, Nat.add_right_comm]
      cases trees with
      | nil =>
          refine (reads_moreItems_nil h rest).before_leaving ?_
          have hothers := ih meanings (position + 1) [] [] Remaining.nil
          simp only [Bool.false_eq_true, if_false]
          rw [rowOfTrees?]
          cases field.absent with
          | none => exact Refuses.bind fun offset => ⟨_, rfl⟩
          | some value =>
              refine (Reads.pure value _).before_leaving ?_
              rw [List.drop_nil] at hothers ⊢
              exact hothers.map fun row => (value, row)
      | cons tree trees =>
          obtain ⟨octets, others, htree, hothers, hmore⟩ := exists_reads_moreItems h rest
          refine hmore.before_leaving ?_
          have stops := stops_of_following hothers (.inl rfl) rest
          have hvalue := (meaning.denotes depth).inside (.index position) tree octets htree []
            Blank.nil _ stops
          simp only [if_true]
          exact hvalue.bind_leaving fun value _ =>
            (ih meanings (position + 1) trees others hothers).map fun row => (value, row)

/-! ## Objects -/

/-- What a member does to the slots: it fills the one of its name, which has to be vacant. -/
def fill? (depth : Nat) :
    (fields : List Field) → Meanings fields → Slots fields → String → Tree →
      Option (Slots fields)
  | [], _, slots, _, _ => some slots
  | field :: fields, (meaning, meanings), (slot, slots), name, tree =>
      if field.name = name then
        match slot with
        | some _ => none
        | none => (meaning.denote depth tree).map fun value => (some value, slots)
      else (fill? depth fields meanings slots name tree).map fun slots => (slot, slots)

/-- The slots after the members of an object. -/
def slotsOf? (depth : Nat) (fields : List Field) (meanings : Meanings fields) :
    Slots fields → List (Quotation × Tree) → Option (Slots fields)
  | slots, [] => some slots
  | slots, (name, tree) :: members =>
      name.text?.bind fun name =>
        (fill? depth fields meanings slots name tree).bind fun slots =>
          slotsOf? depth fields meanings slots members

/-- How a member is used is what it does to the slots. -/
theorem use_spec (depth : Nat) (fields : List Field) (meanings : Meanings fields)
    (slots : Slots fields) (name : String) :
    match Slots.use fields slots name with
    | .unknown => ∀ tree, fill? depth fields meanings slots name tree = some slots
    | .taken => ∀ tree, fill? depth fields meanings slots name tree = none
    | .fills read => Denotes (read depth) (fill? depth fields meanings slots name) := by
  induction fields with
  | nil => exact fun tree => rfl
  | cons field fields ih =>
      obtain ⟨meaning, meanings⟩ := meanings
      obtain ⟨slot, slots⟩ := slots
      have ih := ih meanings slots
      by_cases hname : field.name = name
      · cases slot with
        | some value =>
            simp only [Slots.use, hname, if_true]
            exact fun tree => by simp only [fill?, hname, if_true]
        | none =>
            have hfill : fill? depth (field :: fields) (meaning, meanings) (none, slots) name =
                fun tree => (meaning.denote depth tree).map fun value => (some value, slots) := by
              funext tree
              simp only [fill?, hname, if_true]
              rfl
            simp only [Slots.use, hname, if_true, hfill]
            exact (meaning.denotes depth).map fun value => (some value, slots)
      · have hfill (tree : Tree) : fill? depth (field :: fields) (meaning, meanings)
            (slot, slots) name tree =
            (fill? depth fields meanings slots name tree).map fun slots => (slot, slots) := by
          simp only [fill?, hname, if_false]
          rfl
        simp only [Slots.use, hname, if_false]
        cases huse : Slots.use fields slots name with
        | unknown =>
            simp only [huse] at ih ⊢
            exact fun tree => by rw [hfill, ih]; rfl
        | taken =>
            simp only [huse] at ih ⊢
            exact fun tree => by rw [hfill, ih]; rfl
        | fills read =>
            simp only [huse] at ih ⊢
            rw [funext hfill]
            exact ih.map fun slots => (slot, slots)

/-- The members of an object fill the slots up to its closing bracket. -/
theorem answers_slotsFrom (depth : Nat) (fields : List Field) (meanings : Meanings fields)
    (members : List (Quotation × Tree)) (rounds : Nat) (hrounds : members.length < rounds)
    (first : Bool) (slots : Slots fields) (others rest : Bytes)
    (h : Remaining first (memberLanguages members) others) :
    Answers (Record.slotsFrom fields depth rounds first slots) (others ++ 0x7D :: rest)
      (slotsOf? depth fields meanings slots members) (0x7D :: rest) := by
  induction members generalizing rounds first slots others with
  | nil =>
      obtain ⟨rounds, rfl⟩ := Nat.exists_eq_add_one_of_ne_zero (Nat.ne_of_gt hrounds)
      exact (reads_memberName?_nil h rest).bind (Reads.pure slots _)
  | cons member members ih =>
      obtain ⟨name, value⟩ := member
      obtain ⟨rounds, rfl⟩ := Nat.exists_eq_add_one_of_ne_zero (Nat.ne_zero_of_lt hrounds)
      obtain ⟨after, before, octets, others, hafter, hbefore, hvalue, hothers, hname⟩ :=
        exists_answers_memberName? h rest
      have stops := stops_of_following hothers (.inr rfl) rest
      rw [Record.slotsFrom, slotsOf?]
      cases htext : name.text? with
      | none =>
          rw [htext] at hname
          exact Refuses.bind hname
      | some text =>
          rw [htext] at hname
          refine Reads.before hname ?_
          have hrounds : members.length < rounds := by simpa using hrounds
          have huse := use_spec depth fields meanings slots text
          have hrest (slots : Slots fields) := ih rounds hrounds false slots others hothers
          simp only [Option.bind_some]
          cases hcase : Slots.use fields slots text with
          | unknown =>
              simp only [hcase] at huse ⊢
              rw [huse, Option.bind_some]
              have hskip : Denotes (Reader.passing skipValue) fun _ => some () :=
                fun tree octets htree before hbefore rest stops =>
                  (passes_skipValue htree hbefore stops).reads
              exact Reads.before (hskip.memberValue text hvalue hafter hbefore stops)
                (hrest slots)
          | taken =>
              simp only [hcase] at huse ⊢
              rw [huse]
              exact fun offset => ⟨_, rfl⟩
          | fills read =>
              simp only [hcase] at huse ⊢
              exact (huse.memberValue text hvalue hafter hbefore stops).bind
                fun slots _ => hrest slots

/-! ## Members by name -/

/-- The values of the members of a name. -/
def valuesNamed (name : String) (members : List (Quotation × Tree)) : List Tree :=
  (members.filter fun member => member.1.text? = some name).map Prod.snd

theorem valuesNamed_cons_of_eq {name : String} {member : Quotation × Tree}
    (h : member.1.text? = some name) (members : List (Quotation × Tree)) :
    valuesNamed name (member :: members) = member.2 :: valuesNamed name members := by
  simp [valuesNamed, h]

theorem valuesNamed_cons_of_ne {name : String} {member : Quotation × Tree}
    (h : member.1.text? ≠ some name) (members : List (Quotation × Tree)) :
    valuesNamed name (member :: members) = valuesNamed name members := by
  simp [valuesNamed, h]

/-- What a field denotes at the members of its name: it has one value at most. -/
def valueOf? {field : Field} (meaning : Meaning field) (depth : Nat) :
    List Tree → Option field.Carrier
  | [] => field.absent
  | [tree] => meaning.denote depth tree
  | _ => none

/-- The row of an object, by name. -/
def rowNamed? (depth : Nat) :
    (fields : List Field) → Meanings fields → List (Quotation × Tree) → Option (Row fields)
  | [], _, _ => some ()
  | field :: fields, (meaning, meanings), members =>
      (valueOf? meaning depth (valuesNamed field.name members)).bind fun value =>
        (rowNamed? depth fields meanings members).map fun row => (value, row)

/-- The slot of one field after the members of an object. -/
def slotOf? {field : Field} (meaning : Meaning field) (depth : Nat) :
    Option field.Carrier → List (Quotation × Tree) → Option (Option field.Carrier)
  | slot, [] => some slot
  | slot, (name, tree) :: members =>
      name.text?.bind fun name =>
        if field.name = name then
          match slot with
          | some _ => none
          | none => (meaning.denote depth tree).bind fun value =>
              slotOf? meaning depth (some value) members
        else slotOf? meaning depth slot members

/-- A member of another name leaves the slots alone. -/
theorem fill?_of_not_mem (depth : Nat) (fields : List Field) (meanings : Meanings fields)
    (slots : Slots fields) {name : String} (h : name ∉ fields.map Field.name) (tree : Tree) :
    fill? depth fields meanings slots name tree = some slots := by
  induction fields with
  | nil => rfl
  | cons field fields ih =>
      obtain ⟨hne, hfields⟩ : field.name ≠ name ∧ name ∉ fields.map Field.name := by
        simpa [eq_comm] using h
      obtain ⟨meaning, meanings⟩ := meanings
      obtain ⟨slot, slots⟩ := slots
      simp only [fill?, hne, if_false, ih meanings slots hfields]
      rfl

/-- The slots of the first field and of the others are filled apart. -/
theorem slotsOf?_cons (depth : Nat) {field : Field} {fields : List Field}
    (h : field.name ∉ fields.map Field.name) (meaning : Meaning field)
    (meanings : Meanings fields) (members : List (Quotation × Tree))
    (slot : Option field.Carrier) (slots : Slots fields) :
    slotsOf? depth (field :: fields) (meaning, meanings) (slot, slots) members =
      (slotOf? meaning depth slot members).bind fun slot =>
        (slotsOf? depth fields meanings slots members).map fun slots => (slot, slots) := by
  induction members generalizing slot slots with
  | nil => rfl
  | cons member members ih =>
      obtain ⟨name, tree⟩ := member
      simp only [slotsOf?, slotOf?]
      cases name.text? with
      | none => rfl
      | some name =>
          simp only [Option.bind_some]
          by_cases hname : field.name = name
          · subst hname
            rw [fill?_of_not_mem depth fields meanings slots h]
            cases slot with
            | some value =>
                have hfill : fill? depth (field :: fields) (meaning, meanings)
                    (some value, slots) field.name tree = none := by
                  simp only [fill?, if_true]
                simp only [hfill, if_true]
                rfl
            | none =>
                have hfill : fill? depth (field :: fields) (meaning, meanings)
                    (none, slots) field.name tree =
                    (meaning.denote depth tree).map fun value => (some value, slots) := by
                  simp only [fill?, if_true]
                  rfl
                simp only [hfill, if_true]
                cases meaning.denote depth tree with
                | none => rfl
                | some value => exact ih (some value) slots
          · have hfill : fill? depth (field :: fields) (meaning, meanings) (slot, slots) name tree =
                (fill? depth fields meanings slots name tree).map fun slots => (slot, slots) := by
              simp only [fill?, hname, if_false]
              rfl
            simp only [hfill, hname, if_false]
            cases fill? depth fields meanings slots name tree with
            | none => cases slotOf? meaning depth slot members <;> rfl
            | some slots' => exact ih slot slots'

section Named

variable {field : Field} (meaning : Meaning field) (depth : Nat)
  {members : List (Quotation × Tree)}

/-- A slot that is filled stays as it is, if no other member has its name. -/
theorem slotOf?_some (hnames : ∀ member ∈ members, member.1.text?.isSome)
    (value : field.Carrier) :
    slotOf? meaning depth (some value) members =
      if valuesNamed field.name members = [] then some (some value) else none := by
  induction members with
  | nil => rfl
  | cons member members ih =>
      obtain ⟨⟨text, htext⟩, hnames⟩ :
          (∃ text, member.1.text? = some text) ∧ ∀ member ∈ members, member.1.text?.isSome := by
        simpa [Option.isSome_iff_exists] using hnames
      by_cases hname : field.name = text
      · rw [valuesNamed_cons_of_eq (by rw [htext, hname])]
        simp [slotOf?, htext, hname]
      · rw [valuesNamed_cons_of_ne (by rw [htext]; simpa using Ne.symm hname)]
        simpa [slotOf?, htext, hname] using ih hnames

/-- A vacant slot takes what the one member of its name denotes. -/
theorem slotOf?_none (hnames : ∀ member ∈ members, member.1.text?.isSome) :
    ((slotOf? meaning depth none members).bind fun slot => slot <|> field.absent) =
      valueOf? meaning depth (valuesNamed field.name members) := by
  induction members with
  | nil => simp [slotOf?, valuesNamed, valueOf?]
  | cons member members ih =>
      obtain ⟨⟨text, htext⟩, hnames⟩ :
          (∃ text, member.1.text? = some text) ∧ ∀ member ∈ members, member.1.text?.isSome := by
        simpa [Option.isSome_iff_exists] using hnames
      by_cases hname : field.name = text
      · rw [valuesNamed_cons_of_eq (by rw [htext, hname])]
        simp only [slotOf?, htext, Option.bind_some, hname, if_true]
        cases hvalue : meaning.denote depth member.2 with
        | none => cases valuesNamed text members <;> simp [valueOf?, hvalue]
        | some value =>
            rw [Option.bind_some, slotOf?_some meaning depth hnames, hname]
            cases valuesNamed text members <;> simp [valueOf?, hvalue]
      · rw [valuesNamed_cons_of_ne (by rw [htext]; simpa using Ne.symm hname)]
        simpa [slotOf?, htext, hname] using ih hnames

end Named

/-- The values of all slots are those of the first one and of the others. -/
theorem toOption_complete {field : Field} {fields : List Field} (slot : Option field.Carrier)
    (slots : Slots fields) :
    (Slots.complete (field :: fields) (slot, slots)).toOption =
      (slot <|> field.absent).bind fun value =>
        (Slots.complete fields slots).toOption.map fun row => (value, row) := by
  rw [Slots.complete]
  generalize (slot <|> field.absent) = chosen
  cases chosen with
  | none => rfl
  | some value => cases Slots.complete fields slots <;> rfl

/-- The slots after all members hold the row of the object. -/
theorem slotsOf?_vacant (depth : Nat) (fields : List Field)
    (hfields : (fields.map Field.name).Nodup) (meanings : Meanings fields)
    {members : List (Quotation × Tree)} (hnames : ∀ member ∈ members, member.1.text?.isSome) :
    ((slotsOf? depth fields meanings (Slots.vacant fields) members).bind fun slots =>
      (Slots.complete fields slots).toOption) = rowNamed? depth fields meanings members := by
  induction fields with
  | nil =>
      have hslots (slots : Slots []) : slotsOf? depth [] meanings slots members = some slots := by
        induction members generalizing slots with
        | nil => rfl
        | cons member members ih =>
            obtain ⟨⟨text, htext⟩, hnames⟩ : (∃ text, member.1.text? = some text) ∧
                ∀ member ∈ members, member.1.text?.isSome := by
              simpa [Option.isSome_iff_exists] using hnames
            rw [slotsOf?, htext, Option.bind_some, fill?, Option.bind_some, ih hnames]
      rw [hslots]
      rfl
  | cons field fields ih =>
      obtain ⟨hfield, hfields⟩ : field.name ∉ fields.map Field.name ∧
          (fields.map Field.name).Nodup := List.nodup_cons.mp hfields
      obtain ⟨meaning, meanings⟩ := meanings
      rw [Slots.vacant, slotsOf?_cons depth hfield, rowNamed?, ← slotOf?_none meaning depth hnames,
        ← ih hfields meanings]
      cases slotOf? meaning depth none members with
      | none => rfl
      | some slot =>
          cases slotsOf? depth fields meanings (Slots.vacant fields) members with
          | none =>
              simp only [Option.bind_some]
              generalize (slot <|> field.absent) = chosen
              cases chosen <;> rfl
          | some slots => exact toOption_complete slot slots

/-- An object with a name that is no text has no slots. -/
theorem slotsOf?_eq_none (depth : Nat) (fields : List Field) (meanings : Meanings fields)
    (slots : Slots fields) {members : List (Quotation × Tree)}
    (h : ∃ member ∈ members, member.1.text? = none) :
    slotsOf? depth fields meanings slots members = none := by
  induction members generalizing slots with
  | nil => simp at h
  | cons member members ih =>
      obtain ⟨name, tree⟩ := member
      rw [slotsOf?]
      cases htext : name.text? with
      | none => rfl
      | some text =>
          have hmembers : ∃ member ∈ members, member.1.text? = none := by
            simpa [htext] using h
          rw [Option.bind_some]
          cases fill? depth fields meanings slots text tree with
          | none => rfl
          | some slots => exact ih slots hmembers

/-! ## Records -/

namespace Record

variable {α : Type}

/-- What a record denotes: what its fields denote in a list or in an object. -/
def denote (record : Record α) (meanings : Meanings record.fields) : Nat → Tree → Option α
  | depth + 1, .list items =>
      if items.length ≤ record.fields.length then
        (rowOfTrees? depth record.fields meanings items).map record.build
      else none
  | depth + 1, .object members =>
      ((slotsOf? depth record.fields meanings (Slots.vacant record.fields) members).bind
        fun slots => (Slots.complete record.fields slots).toOption).map record.build
  | _, _ => none

/-- The row of the values of all slots, at the end of an object. -/
def completing (fields : List Field) (slots : Slots fields) : Reader (Row fields) :=
  fun behind =>
    match Slots.complete fields slots with
    | .ok row => .ok (row, behind)
    | .error name => .error ((Reader.objectEnd behind).fault (.missingField name))

theorem answers_completing (fields : List Field) (slots : Slots fields) (input : Bytes) :
    Answers (completing fields slots) input (Slots.complete fields slots).toOption input := by
  cases h : Slots.complete fields slots with
  | error name => exact fun offset => ⟨_, by simp only [completing, h]; rfl⟩
  | ok row => exact fun offset => ⟨offset, by simp only [completing, h]⟩

section Reading

variable (record : Record α) (meanings : Meanings record.fields) (depth : Nat)

/-- A record in the form of a list. -/
theorem answers_list (items : List Tree) {inner : Bytes} (h : row (itemLanguages items) inner)
    (rest : Bytes) :
    Answers (do
      let row ← rowOfItems record.title record.fields.length depth record.fields 0
      Reader.closeList
      return record.build row) (inner ++ 0x5D :: rest)
      (record.denote meanings (depth + 1) (.list items)) rest := by
  have hrow := answers_rowOfItems record.title record.fields.length depth record.fields meanings 0
    items inner rest h
  rw [denote]
  cases hfields : rowOfTrees? depth record.fields meanings items with
  | none =>
      rw [hfields] at hrow
      split <;> exact Refuses.bind hrow
  | some fields =>
      rw [hfields] at hrow
      obtain ⟨-, ⟨others, rfl, hothers⟩, hread⟩ := hrow
      by_cases hlength : items.length ≤ record.fields.length
      · rw [if_pos hlength]
        rw [List.drop_eq_nil_of_le hlength] at hothers
        exact hread.bind ((reads_closeList hothers.blank rest).bind (Reads.pure _ rest))
      · rw [if_neg hlength]
        obtain ⟨item, items', hdrop⟩ : ∃ item items', items.drop record.fields.length =
            item :: items' :=
          List.exists_cons_of_ne_nil fun hnil => hlength (List.drop_eq_nil_iff.mp hnil)
        rw [hdrop] at hothers
        exact hread.bind_refuses (Refuses.bind (refuses_closeList hothers rest))

/-- A record in the form of an object. -/
theorem answers_object (members : List (Quotation × Tree)) {inner : Bytes}
    (h : Json.row (memberLanguages members) inner) (rest : Bytes) :
    Answers (do
      let row ← rowOfMembers record.fields depth
      Reader.closeObject
      return record.build row) (inner ++ 0x7D :: rest)
      (record.denote meanings (depth + 1) (.object members)) rest := by
  have hlength : members.length < (inner ++ 0x7D :: rest).length + 1 := by
    have hmembers := Remaining.length_le (show Remaining true _ _ from h)
    rw [memberLanguages_eq_map, List.length_map] at hmembers
    simp only [List.length_append, List.length_cons]
    omega
  have hslots := answers_slotsFrom depth record.fields meanings members _ hlength true
    (Slots.vacant record.fields) inner rest h
  have hrow : Answers (rowOfMembers record.fields depth) (inner ++ 0x7D :: rest)
      ((slotsOf? depth record.fields meanings (Slots.vacant record.fields) members).bind
        fun slots => (Slots.complete record.fields slots).toOption) (0x7D :: rest) := by
    have hboth := hslots.bind fun slots _ =>
      answers_completing record.fields slots (0x7D :: rest)
    exact Answers.of_step (fun offset => ⟨offset, rfl⟩) hboth
  rw [denote]
  exact hrow.bind_map fun fields =>
    (reads_closeObject rest).bind (Reads.pure (record.build fields) rest)

/-- A record is read of every text of a tree as what it denotes there. -/
theorem denotes : Denotes (record.read depth) (record.denote meanings depth) := by
  refine denotes_of_firstOctet fun tree b more htree opens rest stops => ?_
  by_cases hlist : b = 0x5B
  · obtain ⟨items, rfl⟩ := opens.exists_list hlist
    obtain ⟨inner, hinner, h⟩ := htree
    have hmore : more = inner ++ [0x5D] := (List.cons.inj hinner).2
    rw [if_pos hlist, hmore, List.append_assoc]
    cases depth with
    | zero => exact Reader.refuses_failingAhead _ _
    | succ depth =>
        exact (Reader.reads_advance _ _).before (answers_list record meanings depth items h rest)
  by_cases hobject : b = 0x7B
  · obtain ⟨members, rfl⟩ := opens.exists_object hobject
    obtain ⟨inner, hinner, h⟩ := htree
    have hmore : more = inner ++ [0x7D] := (List.cons.inj hinner).2
    rw [if_neg hlist, if_pos hobject, hmore, List.append_assoc]
    cases depth with
    | zero => exact Reader.refuses_failingAhead _ _
    | succ depth =>
        exact (Reader.reads_advance _ _).before
          (answers_object record meanings depth members h rest)
  · have hnone : record.denote meanings depth tree = none := by
      cases tree with
      | list items => exact absurd opens hlist
      | object members => exact absurd opens hobject
      | _ => cases depth <;> rfl
    rw [if_neg hlist, if_neg hobject, hnone]
    exact answers_refusing _ _ _

end Reading

/-- A record is decoded of a text of a tree, with blanks around it, as what it denotes there. -/
theorem toOption_decode (record : Record α) (meanings : Meanings record.fields) {tree : Tree}
    {before octets after : Bytes} (hbefore : Blank before) (hafter : Blank after)
    (htree : tree.language octets) :
    (record.decode (before ++ (octets ++ after))).toOption =
      record.denote meanings depthLimit tree :=
  (record.denotes meanings depthLimit tree octets htree before hbefore after hafter.stops).decode
    hafter

end Record

end Json
end OutboxRelay
