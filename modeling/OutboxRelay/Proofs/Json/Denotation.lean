import OutboxRelay.Proofs.Json.Literal
import OutboxRelay.Proofs.Json.Quotation

/-!
# What readers read of trees

A reader denotes a function of trees if, of every text of a tree, it reads the value of
the function there, or refuses where there is none.  A text may have blanks before it.

**Method.** The first octet decides which branch a reader takes.  A branch that wants
another kind of tree refuses whatever stands there.
-/

namespace OutboxRelay
namespace Json

open Reader (Reads Refuses Answers)

variable {α β : Type}

/-- Whether a reader reads of each text of a tree what a function says. -/
def Denotes (reader : Reader α) (denote : Tree → Option α) : Prop :=
  ∀ tree octets, tree.language octets → ∀ before, Blank before → ∀ rest, Stops rest →
    Answers reader (before ++ (octets ++ rest)) (denote tree) rest

/-- A step on the way changes faults only. -/
theorem Denotes.inside {reader : Reader α} {denote : Tree → Option α}
    (h : Denotes reader denote) (step : Step) : Denotes (Reader.inside step reader) denote :=
  fun tree octets htree before hbefore rest stops =>
    (h tree octets htree before hbefore rest stops).inside step

/-- What is made of a value that was read. -/
theorem Denotes.map {reader : Reader α} {denote : Tree → Option α} (h : Denotes reader denote)
    (f : α → β) : Denotes (do return f (← reader)) fun tree => (denote tree).map f :=
  fun tree octets htree before hbefore rest stops =>
    (h tree octets htree before hbefore rest stops).map f

/-- A reader that looks at the first octet first. -/
theorem denotes_of_firstOctet {next : UInt8 → Reader α} {denote : Tree → Option α}
    (h : ∀ tree b more, tree.language (b :: more) → tree.Opens b → ∀ rest, Stops rest →
      Answers (next b) (b :: (more ++ rest)) (denote tree) rest) :
    Denotes (Reader.firstOctet >>= next) denote := by
  intro tree octets htree before hbefore rest stops
  obtain ⟨b, more, rfl, opens⟩ := Tree.exists_opens htree
  rw [List.cons_append]
  exact (Reader.reads_firstOctet hbefore opens.solid.1 (more ++ rest)).before
    (h tree b more htree opens rest stops)

/-- A branch is answered by none if another kind of tree was wanted. -/
theorem answers_refusing (wanted : Wanted) (input rest : Bytes) :
    Answers (Reader.refusing wanted : Reader α) input none rest :=
  Reader.refuses_refusing wanted input

/-! ## Kinds of trees -/

namespace Tree

variable {tree : Tree} {b : UInt8}

theorem Opens.eq_null (h : tree.Opens b) (hb : b = 0x6E) : tree = .null := by
  subst hb
  cases tree with
  | null => rfl
  | boolean value => cases value <;> simp [Opens] at h
  | number literal => simp [Opens, isDigit] at h
  | _ => simp [Opens] at h

theorem Opens.exists_text (h : tree.Opens b) (hb : b = 0x22) : ∃ q, tree = .text q := by
  subst hb
  cases tree with
  | text quotation => exact ⟨quotation, rfl⟩
  | boolean value => cases value <;> simp [Opens] at h
  | number literal => simp [Opens, isDigit] at h
  | _ => simp [Opens] at h

theorem Opens.exists_list (h : tree.Opens b) (hb : b = 0x5B) : ∃ items, tree = .list items := by
  subst hb
  cases tree with
  | list items => exact ⟨items, rfl⟩
  | boolean value => cases value <;> simp [Opens] at h
  | number literal => simp [Opens, isDigit] at h
  | _ => simp [Opens] at h

theorem Opens.exists_object (h : tree.Opens b) (hb : b = 0x7B) :
    ∃ members, tree = .object members := by
  subst hb
  cases tree with
  | object members => exact ⟨members, rfl⟩
  | boolean value => cases value <;> simp [Opens] at h
  | number literal => simp [Opens, isDigit] at h
  | _ => simp [Opens] at h

theorem Opens.exists_number (h : tree.Opens b) (hb : (b = 0x2D || isDigit b) = true) :
    ∃ literal, tree = .number literal := by
  cases tree with
  | number literal => exact ⟨literal, rfl⟩
  | boolean value => cases value <;> obtain rfl : b = _ := h <;> simp [isDigit] at hb
  | _ => obtain rfl : b = _ := h; simp [isDigit] at hb

end Tree

/-! ## Values without inner structure -/

/-- The text that a tree is. -/
def textOf? : Tree → Option String
  | .text quotation => quotation.text?
  | _ => none

/-- The text that a tree is, or nothing for the word null. -/
def optionalTextOf? : Tree → Option (Option String)
  | .null => some none
  | tree => (textOf? tree).map some

/-- The integer of so many bits that a tree is. -/
def integerOf? (bits : Nat) : Tree → Option Int
  | .number literal =>
      match literal.numeral? with
      | some (.integer value) =>
          if -(1 <<< (bits - 1) : Nat) ≤ value ∧ value < (1 <<< (bits - 1) : Nat) then
            some value
          else none
      | _ => none
  | _ => none

theorem denotes_text : Denotes Reader.text textOf? := by
  refine denotes_of_firstOctet fun tree b more htree opens rest stops => ?_
  by_cases hb : b = 0x22
  · obtain ⟨q, rfl⟩ := opens.exists_text hb
    have hmore : more = q.inner ++ [0x22] := (List.cons.inj htree).2
    rw [if_pos hb, hmore, List.append_assoc]
    exact Answers.of_step (fun offset => ⟨offset + 1, rfl⟩) (answers_stringTail q rest)
  · have hnone : textOf? tree = none := by
      cases tree with
      | text quotation => exact absurd opens hb
      | _ => rfl
    rw [if_neg hb, hnone]
    exact answers_refusing _ _ _

theorem denotes_optionalText : Denotes Reader.optionalText optionalTextOf? := by
  intro tree octets htree before hbefore rest stops
  obtain ⟨b, more, rfl, opens⟩ := Tree.exists_opens htree
  have hblanks := Reader.reads_blanks hbefore (Solid.cons opens.solid.1 (more ++ rest))
  refine hblanks.before ((Reader.reads_peek _).before ?_)
  by_cases hb : b = 0x6E
  · obtain rfl := opens.eq_null hb
    have hmore : more = nullTail := (List.cons.inj htree).2
    rw [if_pos (by simp [hb]), hmore]
    exact (Reader.reads_advance b _).bind
      ((Reader.reads_word nullTail rest).bind (Reads.pure none rest))
  · have hsome : optionalTextOf? tree = (textOf? tree).map some := by
      cases tree with
      | null => exact absurd opens hb
      | _ => rfl
    rw [if_neg (by simpa using hb), hsome]
    exact (denotes_text tree _ htree [] Blank.nil rest stops).map some

theorem denotes_integer (bits : Nat) : Denotes (Reader.integer bits) (integerOf? bits) := by
  refine denotes_of_firstOctet fun tree b more htree opens rest stops => ?_
  by_cases hb : (b = 0x2D || isDigit b) = true
  · obtain ⟨literal, rfl⟩ := opens.exists_number hb
    have hnumber := answers_number literal stops
    rw [← (show b :: more = literal.octets from htree), List.cons_append] at hnumber
    rw [if_pos hb, integerOf?]
    cases hmeant : literal.numeral? with
    | none =>
        rw [hmeant] at hnumber
        exact Refuses.bind hnumber
    | some numeral =>
        rw [hmeant] at hnumber
        refine Reads.before hnumber ?_
        cases numeral with
        | float value => exact Reader.refuses_failing _ _
        | integer value =>
            simp only
            split
            · exact Reads.pure value rest
            · exact Reader.refuses_failing _ _
  · have hnone : integerOf? bits tree = none := by
      cases tree with
      | number literal => exact absurd (by simpa [Tree.Opens] using opens) hb
      | _ => rfl
    rw [if_neg hb, hnone]
    exact answers_refusing _ _ _

end Json
end OutboxRelay
