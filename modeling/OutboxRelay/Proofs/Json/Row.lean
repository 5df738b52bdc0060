import OutboxRelay.Proofs.Json.Denotation

/-!
# Reading rows

The items of a list and the members of an object are read one after the other.  What is
left of a row is empty, or it leads to its next item behind a comma; only the first item
has none.

**Method.** One lemma says what the look at the next item does at the end of a row, and
one what it does before an item.
-/

namespace OutboxRelay
namespace Json

open Reader (Reads Refuses Answers)

/-- What is left of a row of items, of which the first one may be still to come. -/
def Remaining (first : Bool) (items : List Language) (others : Bytes) : Prop :=
  if first then row items others else following items others

/-- At its end, a row is blank. -/
theorem Remaining.blank {first : Bool} {others : Bytes} (h : Remaining first [] others) :
    Blank others := by
  cases first <;> exact h

/-- Nothing is left at the end of a row. -/
theorem Remaining.nil : Remaining false [] [] :=
  Blank.nil

/-- Each item that is left stands for an octet, but perhaps the first one. -/
theorem Remaining.length_le {first : Bool} {items : List Language} {others : Bytes}
    (h : Remaining first items others) : items.length ≤ others.length + 1 := by
  have key (items : List Language) (others : Bytes) (h : following items others) :
      items.length ≤ others.length := by
    induction items generalizing others with
    | nil => simp
    | cons item items ih =>
        obtain ⟨after, before, inner, others, rfl, -, -, -, h⟩ := h
        have := ih others h
        simp only [List.length_append, List.length_cons]
        omega
  cases first with
  | false => exact Nat.le_succ_of_le (key items others h)
  | true =>
      cases items with
      | nil => simp
      | cons item items =>
          obtain ⟨before, inner, others, rfl, -, -, h⟩ := h
          have := key items others h
          simp only [List.length_append, List.length_cons]
          omega

/-! ## Lists -/

section Lists

variable {first : Bool} {items : List Tree} {others : Bytes}

/-- At the end of a list there is no more item. -/
theorem reads_moreItems_nil (h : Remaining first [] others) (rest : Bytes) :
    Reads (Reader.moreItems first) (others ++ 0x5D :: rest) false (0x5D :: rest) := by
  refine (Reader.reads_blanks h.blank (Solid.cons (by decide) rest)).bind
    ((Reader.reads_peek _).bind ?_)
  simp only [List.head?_cons, if_true]
  exact Reads.pure false _

/-- Before an item of a list there is one more. -/
theorem exists_reads_moreItems {item : Tree}
    (h : Remaining first (itemLanguages (item :: items)) others) (rest : Bytes) :
    ∃ octets others', item.language octets ∧ Remaining false (itemLanguages items) others' ∧
      Reads (Reader.moreItems first) (others ++ 0x5D :: rest) true
        (octets ++ (others' ++ 0x5D :: rest)) := by
  cases first with
  | true =>
      obtain ⟨before, octets, others, rfl, hbefore, hitem, hothers⟩ := h
      refine ⟨octets, others, hitem, hothers, ?_⟩
      obtain ⟨b, more, rfl, opens⟩ := Tree.exists_opens hitem
      obtain ⟨hb, hclosing, -⟩ := opens.solid
      rw [List.append_assoc, List.append_assoc]
      refine (Reader.reads_blanks hbefore (Solid.cons hb _)).bind
        ((Reader.reads_peek _).bind ?_)
      simp only [List.cons_append, List.head?_cons, hclosing, if_false, if_true]
      exact Reads.pure true _
  | false =>
      obtain ⟨after, before, octets, others, rfl, hafter, hbefore, hitem, hothers⟩ := h
      refine ⟨octets, others, hitem, hothers, ?_⟩
      obtain ⟨b, more, rfl, opens⟩ := Tree.exists_opens hitem
      obtain ⟨hb, hclosing, -⟩ := opens.solid
      rw [List.append_assoc, List.cons_append, List.append_assoc, List.append_assoc]
      refine (Reader.reads_blanks hafter (Solid.cons (by decide) _)).bind
        ((Reader.reads_peek _).bind ?_)
      simp only [List.head?_cons, show (0x2C : UInt8) ≠ 0x5D by decide, if_false, if_true,
        Bool.false_eq_true]
      refine (Reader.reads_advance _ _).bind
        ((Reader.reads_blanks hbefore (Solid.cons hb _)).bind ((Reader.reads_peek _).bind ?_))
      simp only [List.cons_append, List.head?_cons, hclosing, if_false]
      exact Reads.pure true _

/-- A list is closed at its end. -/
theorem reads_closeList (h : Blank others) (rest : Bytes) :
    Reads Reader.closeList (others ++ 0x5D :: rest) () rest := by
  refine (Reader.reads_blanks h (Solid.cons (by decide) rest)).bind
    ((Reader.reads_peek _).bind ?_)
  simp only [List.head?_cons, if_true]
  exact Reader.reads_advance _ _

/-- A list is not closed before anything else than its bracket, be it a comma. -/
theorem refuses_closeList_of_ne (h : Blank others) {b : UInt8} (hb : isBlank b = false)
    (hclosing : b ≠ 0x5D) (input : Bytes) :
    Refuses Reader.closeList (others ++ b :: input) := by
  refine (Reader.reads_blanks h (Solid.cons hb input)).bind_refuses
    ((Reader.reads_peek _).bind_refuses ?_)
  simp only [List.head?_cons, hclosing, if_false]
  split
  · obtain ⟨before, rest, rfl, hbefore, hrest⟩ := exists_blank_append input
    refine (Reader.reads_advance _ _).bind_refuses ((Reader.reads_blanks hbefore hrest).bind_refuses
      ((Reader.reads_peek _).bind_refuses ?_))
    split <;> exact Reader.refuses_failingAhead _ _
  · exact Reader.refuses_failingAhead _ _

/-- A list is not closed before an item. -/
theorem refuses_closeList {item : Tree}
    (h : Remaining first (itemLanguages (item :: items)) others) (rest : Bytes) :
    Refuses Reader.closeList (others ++ 0x5D :: rest) := by
  cases first with
  | true =>
      obtain ⟨before, octets, others, rfl, hbefore, hitem, -⟩ := h
      obtain ⟨b, more, rfl, opens⟩ := Tree.exists_opens hitem
      rw [List.append_assoc, List.cons_append, List.cons_append]
      exact refuses_closeList_of_ne hbefore opens.solid.1 opens.solid.2.1 _
  | false =>
      obtain ⟨after, before, octets, others, rfl, hafter, -⟩ := h
      rw [List.append_assoc, List.cons_append]
      exact refuses_closeList_of_ne hafter (by decide) (by decide) _

end Lists

/-! ## Objects -/

section Objects

variable {first : Bool} {members : List (Quotation × Tree)} {others : Bytes}

/-- At the end of an object there is no more name. -/
theorem reads_memberName?_nil (h : Remaining first [] others) (rest : Bytes) :
    Reads (Reader.memberName? first) (others ++ 0x7D :: rest) none (0x7D :: rest) := by
  have hmore : Reads (Reader.moreMembers first) (others ++ 0x7D :: rest) false
      (0x7D :: rest) := by
    refine (Reader.reads_blanks h.blank (Solid.cons (by decide) rest)).bind
      ((Reader.reads_peek _).bind ?_)
    simp only [List.head?_cons, if_true]
    exact Reads.pure false _
  have hname : Answers (do
      if ← Reader.moreMembers first then
        Reader.advance
        return some (← (stringTail : Reader String))
      else
        return none) (others ++ 0x7D :: rest) (some none) (0x7D :: rest) :=
    hmore.bind (Reads.pure none _)
  exact hname.inside .unnamed

/-- Before a member of an object there is its name, and behind the name its value. -/
theorem exists_answers_memberName? {name : Quotation} {value : Tree}
    (h : Remaining first (memberLanguages ((name, value) :: members)) others) (rest : Bytes) :
    ∃ after before octets others', Blank after ∧ Blank before ∧ value.language octets ∧
      Remaining false (memberLanguages members) others' ∧
      Answers (Reader.memberName? first) (others ++ 0x7D :: rest) (name.text?.map some)
        (after ++ 0x3A :: (before ++ (octets ++ (others' ++ 0x7D :: rest)))) := by
  have hname (input : Bytes) (behind : Bytes)
      (h : Reads (Reader.moreMembers first) input true
        (0x22 :: (name.inner ++ 0x22 :: behind))) :
      Answers (Reader.memberName? first) input (name.text?.map some) behind := by
    refine Answers.inside (h.before ?_) .unnamed
    simp only [if_true]
    exact (Reader.reads_advance _ _).before ((answers_stringTail name behind).map some)
  cases first with
  | true =>
      obtain ⟨before, -, others, rfl, hbefore, ⟨after, between, octets, rfl, hafter, hbetween,
        hvalue⟩, hothers⟩ := h
      refine ⟨after, between, octets, others, hafter, hbetween, hvalue, hothers, hname _ _ ?_⟩
      simp only [Quotation.octets, List.append_assoc, List.cons_append, List.nil_append]
      refine (Reader.reads_blanks hbefore (Solid.cons (by decide) _)).bind
        ((Reader.reads_peek _).bind ?_)
      simp only [List.head?_cons, show (0x22 : UInt8) ≠ 0x7D by decide, if_false, if_true]
      exact Reads.pure true _
  | false =>
      obtain ⟨behind, before, -, others, rfl, hbehind, hbefore, ⟨after, between, octets, rfl,
        hafter, hbetween, hvalue⟩, hothers⟩ := h
      refine ⟨after, between, octets, others, hafter, hbetween, hvalue, hothers, hname _ _ ?_⟩
      simp only [Quotation.octets, List.append_assoc, List.cons_append, List.nil_append]
      refine (Reader.reads_blanks hbehind (Solid.cons (by decide) _)).bind
        ((Reader.reads_peek _).bind ?_)
      simp only [List.head?_cons, show (0x2C : UInt8) ≠ 0x7D by decide, if_false, if_true,
        Bool.false_eq_true]
      refine (Reader.reads_advance _ _).bind ((Reader.reads_blanks hbefore
        (Solid.cons (by decide) _)).bind ((Reader.reads_peek _).bind ?_))
      simp only [List.head?_cons, if_true]
      exact Reads.pure true _

/-- The value of a member is read behind the colon. -/
theorem Denotes.memberValue {α : Type} {reader : Reader α} {denote : Tree → Option α}
    (h : Denotes reader denote) (name : String) {value : Tree} {octets : Bytes}
    (hvalue : value.language octets) {after before rest : Bytes} (hafter : Blank after)
    (hbefore : Blank before) (stops : Stops rest) :
    Answers (Reader.memberValue name reader) (after ++ 0x3A :: (before ++ (octets ++ rest)))
      (denote value) rest := by
  have hcolon : Reads Reader.colon (after ++ 0x3A :: (before ++ (octets ++ rest))) ()
      (before ++ (octets ++ rest)) := by
    refine (Reader.reads_blanks hafter (Solid.cons (by decide) _)).bind
      ((Reader.reads_peek _).bind ?_)
    simp only [List.head?_cons, if_true]
    exact Reader.reads_advance _ _
  exact hcolon.before ((h.inside (.member name)) value octets hvalue before hbefore rest stops)

/-- An object is closed at its end. -/
theorem reads_closeObject (rest : Bytes) :
    Reads Reader.closeObject (0x7D :: rest) () rest := by
  refine (Reader.reads_blanks Blank.nil (Solid.cons (by decide) rest)).bind
    ((Reader.reads_peek _).bind ?_)
  simp only [List.head?_cons, if_true]
  exact Reader.reads_advance _ _

end Objects

end Json
end OutboxRelay
