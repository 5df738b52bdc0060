import OutboxRelay.Proofs.Json.Row

/-!
# Reading values of any kind

A value of any kind is read of every text of a tree that opens no more brackets inside
each other than it may, and whose strings and numbers mean something.

**Method.** The items of a list and the members of an object are read by loops that
gather values in reverse.  Each loop answers what its reader denotes of every item, put
behind what was gathered before.
-/

namespace OutboxRelay
namespace Json

open Reader (Reads Refuses Answers)

/-! ## What trees denote -/

/-- A number as a value. -/
def Numeral.value : Numeral → Value
  | .integer value => .integer value
  | .float value => .float value

/-- The value that a tree without brackets denotes. -/
def Tree.simple? : Tree → Option Value
  | .null => some .null
  | .boolean value => some (.boolean value)
  | .number literal => literal.numeral?.map Numeral.value
  | .text quotation => quotation.text?.map .text
  | .list _ => none
  | .object _ => none

section Rows

variable {α : Type} (denote : Tree → Option α)

/-- What every item of a list denotes. -/
def itemValues? : List Tree → Option (List α)
  | [] => some []
  | item :: items =>
      (denote item).bind fun value => (itemValues? items).map fun values => value :: values

/-- What every member of an object denotes, with its name. -/
def memberValues? : List (Quotation × Tree) → Option (List (String × α))
  | [] => some []
  | (name, tree) :: members =>
      name.text?.bind fun name =>
        (denote tree).bind fun value =>
          (memberValues? members).map fun values => (name, value) :: values

end Rows

/-- The value that a tree denotes, if it opens no more than so many brackets inside each other. -/
def Tree.value? : Nat → Tree → Option Value
  | depth + 1, .list items => (itemValues? (value? depth) items).map .list
  | depth + 1, .object members => (memberValues? (value? depth) members).map .ofMembers
  | _, tree => tree.simple?

/-! ## Loops -/

section Loops

variable {α : Type} {reader : Reader α} {denote : Tree → Option α}

/-- The items of a list are read up to its closing bracket. -/
theorem answers_itemsFrom (h : Denotes reader denote) (items : List Tree) (rounds : Nat)
    (hrounds : items.length < rounds) (position : Nat) (read : List α) (others rest : Bytes)
    (hrow : Remaining (position == 0) (itemLanguages items) others) :
    Answers (Reader.itemsFrom reader rounds position read) (others ++ 0x5D :: rest)
      ((itemValues? denote items).map (read.reverse ++ ·)) (0x5D :: rest) := by
  induction items generalizing rounds position read others with
  | nil =>
      obtain ⟨rounds, rfl⟩ := Nat.exists_eq_add_one_of_ne_zero (Nat.ne_of_gt hrounds)
      rw [itemValues?, Option.map_some, List.append_nil]
      exact (reads_moreItems_nil hrow rest).bind (Reads.pure read.reverse _)
  | cons item items ih =>
      obtain ⟨rounds, rfl⟩ := Nat.exists_eq_add_one_of_ne_zero (Nat.ne_zero_of_lt hrounds)
      have hrounds : items.length < rounds := by simpa using hrounds
      obtain ⟨octets, others, hitem, hothers, hmore⟩ := exists_reads_moreItems hrow rest
      have hvalue := (h.inside (.index position)) item octets hitem [] Blank.nil _
        (stops_of_following hothers (.inl rfl) rest)
      have hboth := hvalue.bind fun value _ =>
        ih rounds hrounds (position + 1) (value :: read) others hothers
      have hvalues : (itemValues? denote (item :: items)).map (read.reverse ++ ·) =
          (denote item).bind fun value =>
            (itemValues? denote items).map ((value :: read).reverse ++ ·) := by
        simp [itemValues?, Option.map_bind, Function.comp_def]
      rw [Reader.itemsFrom, hvalues]
      exact hmore.before hboth

/-- The members of an object are read up to its closing bracket. -/
theorem answers_membersFrom (h : Denotes reader denote) (members : List (Quotation × Tree))
    (rounds : Nat) (hrounds : members.length < rounds) (first : Bool)
    (read : List (String × α)) (others rest : Bytes)
    (hrow : Remaining first (memberLanguages members) others) :
    Answers (Reader.membersFrom reader rounds first read) (others ++ 0x7D :: rest)
      ((memberValues? denote members).map (read.reverse ++ ·)) (0x7D :: rest) := by
  induction members generalizing rounds first read others with
  | nil =>
      obtain ⟨rounds, rfl⟩ := Nat.exists_eq_add_one_of_ne_zero (Nat.ne_of_gt hrounds)
      rw [memberValues?, Option.map_some, List.append_nil]
      exact (reads_memberName?_nil hrow rest).bind (Reads.pure read.reverse _)
  | cons member members ih =>
      obtain ⟨name, tree⟩ := member
      obtain ⟨rounds, rfl⟩ := Nat.exists_eq_add_one_of_ne_zero (Nat.ne_zero_of_lt hrounds)
      have hrounds : members.length < rounds := by simpa using hrounds
      obtain ⟨after, before, octets, others, hafter, hbefore, hvalue, hothers, hname⟩ :=
        exists_answers_memberName? hrow rest
      rw [Reader.membersFrom]
      cases htext : name.text? with
      | none =>
          rw [htext] at hname
          simp only [memberValues?, htext, Option.bind_none, Option.map_none]
          exact Refuses.bind hname
      | some text =>
          rw [htext] at hname
          have hmember := h.memberValue text hvalue hafter hbefore
            (stops_of_following hothers (.inr rfl) rest)
          have hboth := hmember.bind fun value _ =>
            ih rounds hrounds false ((text, value) :: read) others hothers
          have hvalues : (memberValues? denote ((name, tree) :: members)).map (read.reverse ++ ·) =
              (denote tree).bind fun value =>
                (memberValues? denote members).map (((text, value) :: read).reverse ++ ·) := by
            simp [memberValues?, htext, Option.map_bind, Function.comp_def]
          rw [hvalues]
          exact Reads.before hname hboth

/-- The items of a list are read of every row of them. -/
theorem answers_items (h : Denotes reader denote) {items : List Tree} {inner : Bytes}
    (hrow : row (itemLanguages items) inner) (rest : Bytes) :
    Answers (Reader.items reader) (inner ++ 0x5D :: rest) (itemValues? denote items)
      (0x5D :: rest) := by
  have hlength : items.length < (inner ++ 0x5D :: rest).length + 1 := by
    have hitems := Remaining.length_le (show Remaining true _ _ from hrow)
    rw [itemLanguages_eq_map, List.length_map] at hitems
    simp only [List.length_append, List.length_cons]
    omega
  have hread := answers_itemsFrom h items _ hlength 0 [] inner rest hrow
  simp only [List.reverse_nil, List.nil_append, Option.map_id'] at hread
  exact Answers.of_step (fun offset => ⟨offset, rfl⟩) hread

/-- The members of an object are read of every row of them. -/
theorem answers_members (h : Denotes reader denote) {members : List (Quotation × Tree)}
    {inner : Bytes} (hrow : row (memberLanguages members) inner) (rest : Bytes) :
    Answers (Reader.members reader) (inner ++ 0x7D :: rest) (memberValues? denote members)
      (0x7D :: rest) := by
  have hlength : members.length < (inner ++ 0x7D :: rest).length + 1 := by
    have hmembers := Remaining.length_le (show Remaining true _ _ from hrow)
    rw [memberLanguages_eq_map, List.length_map] at hmembers
    simp only [List.length_append, List.length_cons]
    omega
  have hread := answers_membersFrom h members _ hlength true [] inner rest hrow
  simp only [List.reverse_nil, List.nil_append, Option.map_id'] at hread
  exact Answers.of_step (fun offset => ⟨offset, rfl⟩) hread

end Loops

/-! ## Values -/

/-- A value without brackets is read behind its first octet, which is known. -/
theorem answers_simple {tree : Tree} {b : UInt8} {more : Bytes} (h : tree.language (b :: more))
    (opens : tree.Opens b) (hlist : b ≠ 0x5B) (hobject : b ≠ 0x7B) {rest : Bytes}
    (stops : Stops rest) :
    Answers (Reader.simple b) (b :: (more ++ rest)) tree.simple? rest := by
  have hword (tail : Bytes) (value : Value) (hmore : more = tail) :
      Reads (do Reader.advance; Reader.passing (word tail); return value)
        (b :: (more ++ rest)) value rest := by
    rw [hmore]
    exact (Reader.reads_advance b _).bind
      ((Reader.reads_word tail rest).bind (Reads.pure value rest))
  cases tree with
  | null =>
      obtain rfl : b = 0x6E := opens
      exact hword nullTail .null (List.cons.inj h).2
  | boolean value =>
      cases value with
      | true =>
          obtain rfl : b = 0x74 := opens
          exact hword trueTail (.boolean true) (List.cons.inj h).2
      | false =>
          obtain rfl : b = 0x66 := opens
          exact hword falseTail (.boolean false) (List.cons.inj h).2
  | number literal =>
      have hnumber := answers_number literal stops
      rw [← (show b :: more = literal.octets from h), List.cons_append] at hnumber
      have hb : (b = 0x2D || isDigit b) = true := by simpa [Tree.Opens] using opens
      have hn : b ≠ 0x6E := by rintro rfl; simp [isDigit] at hb
      have ht : b ≠ 0x74 := by rintro rfl; simp [isDigit] at hb
      have hf : b ≠ 0x66 := by rintro rfl; simp [isDigit] at hb
      simp only [Reader.simple, hn, ht, hf, if_false, hb, if_true, Tree.simple?]
      refine hnumber.bind_map fun numeral => ?_
      cases numeral <;> exact Reads.pure _ rest
  | text quotation =>
      obtain rfl : b = 0x22 := opens
      have hmore : more = quotation.inner ++ [0x22] := (List.cons.inj h).2
      rw [hmore, List.append_assoc]
      exact (Reader.reads_advance 0x22 _).before
        ((answers_stringTail quotation rest).map Value.text)
  | list items => exact absurd opens hlist
  | object members => exact absurd opens hobject

/-- A value of any kind is read as what the tree denotes. -/
theorem denotes_value (depth : Nat) : Denotes (Reader.value depth) (Tree.value? depth) := by
  induction depth with
  | zero =>
      refine denotes_of_firstOctet fun tree b more htree opens rest stops => ?_
      by_cases hlist : b = 0x5B
      · obtain ⟨items, rfl⟩ := opens.exists_list hlist
        rw [if_pos (by simp [hlist])]
        exact Reader.refuses_failingAhead _ _
      by_cases hobject : b = 0x7B
      · obtain ⟨members, rfl⟩ := opens.exists_object hobject
        rw [if_pos (by simp [hobject])]
        exact Reader.refuses_failingAhead _ _
      rw [if_neg (by simp [hlist, hobject])]
      exact answers_simple htree opens hlist hobject stops
  | succ depth ih =>
      refine denotes_of_firstOctet fun tree b more htree opens rest stops => ?_
      by_cases hlist : b = 0x5B
      · obtain ⟨items, rfl⟩ := opens.exists_list hlist
        obtain ⟨inner, hinner, hrow⟩ := htree
        have hmore : more = inner ++ [0x5D] := (List.cons.inj hinner).2
        rw [if_pos hlist, hmore, List.append_assoc, Tree.value?]
        refine (Reader.reads_advance _ _).before ?_
        exact (answers_items ih hrow rest).bind_map fun values =>
          (reads_closeList Blank.nil rest).bind (Reads.pure (Value.list values) rest)
      by_cases hobject : b = 0x7B
      · obtain ⟨members, rfl⟩ := opens.exists_object hobject
        obtain ⟨inner, hinner, hrow⟩ := htree
        have hmore : more = inner ++ [0x7D] := (List.cons.inj hinner).2
        rw [if_neg hlist, if_pos hobject, hmore, List.append_assoc, Tree.value?]
        refine (Reader.reads_advance _ _).before ?_
        exact (answers_members ih hrow rest).bind_map fun values =>
          (reads_closeObject rest).bind (Reads.pure (Value.ofMembers values) rest)
      rw [if_neg hlist, if_neg hobject]
      have hsimple : Tree.value? (depth + 1) tree = tree.simple? := by
        cases tree with
        | list items => exact absurd opens hlist
        | object members => exact absurd opens hobject
        | _ => rfl
      rw [hsimple]
      exact answers_simple htree opens hlist hobject stops

end Json
end OutboxRelay
