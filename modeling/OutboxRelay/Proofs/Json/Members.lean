import OutboxRelay.Json.Value
import Mathlib.Data.String.Basic

/-!
# Members ordered by name

An object that was read holds each name once: the member that was read last.

**Method.** Behind a member all names are greater.  A name that is put into its place is
therefore not found once more behind that place.
-/

namespace OutboxRelay
namespace Json

/-- Whether members are ordered by name, each name standing once. -/
def ByName (members : List (String × Value)) : Prop :=
  members.Pairwise fun first second => first.1 < second.1

/-- The members of a name. -/
def membersNamed (name : String) (members : List (String × Value)) : List (String × Value) :=
  members.filter fun member => member.1 = name

theorem nameBefore_iff {a b : String} : nameBefore a b = true ↔ a < b :=
  decide_eq_true_iff

section Insertion

variable {members : List (String × Value)} {name : String} {value : Value}

theorem mem_insertMember {member : String × Value}
    (h : member ∈ insertMember name value members) :
    member = (name, value) ∨ member ∈ members := by
  induction members with
  | nil => exact .inl (by simpa [insertMember] using h)
  | cons first members ih =>
      rw [insertMember] at h
      split at h
      · rcases List.mem_cons.mp h with h | h
        · exact .inl h
        · exact .inr (by simp [h])
      split at h
      · rcases List.mem_cons.mp h with h | h
        · exact .inl h
        · exact .inr h
      · rcases List.mem_cons.mp h with rfl | h
        · exact .inr (by simp)
        · rcases ih h with h | h
          · exact .inl h
          · exact .inr (by simp [h])

theorem ByName.insertMember (h : ByName members) (name : String) (value : Value) :
    ByName (insertMember name value members) := by
  induction members with
  | nil => simp [Json.insertMember, ByName]
  | cons first members ih =>
      obtain ⟨hfirst, hmembers⟩ := List.pairwise_cons.mp h
      rw [Json.insertMember]
      split
      · rename_i heq
        subst heq
        exact List.pairwise_cons.mpr ⟨hfirst, hmembers⟩
      split
      · rename_i hbefore
        have hlt : name < first.1 := nameBefore_iff.mp hbefore
        refine List.pairwise_cons.mpr ⟨fun member hmember => ?_, h⟩
        rcases List.mem_cons.mp hmember with rfl | hmember
        · exact hlt
        · exact lt_trans hlt (hfirst member hmember)
      · rename_i hne hbefore
        have hle : first.1 ≤ name := not_lt.mp fun hlt => hbefore (nameBefore_iff.mpr hlt)
        have hlt : first.1 < name := lt_of_le_of_ne hle (Ne.symm hne)
        refine List.pairwise_cons.mpr ⟨fun member hmember => ?_, ih hmembers⟩
        rcases mem_insertMember hmember with rfl | hmember
        · exact hlt
        · exact hfirst member hmember

/-- No member of a name stands among members of greater names. -/
theorem membersNamed_eq_nil (h : ∀ member ∈ members, name < member.1) :
    membersNamed name members = [] := by
  refine List.filter_eq_nil_iff.mpr fun member hmember => ?_
  simpa using (h member hmember).ne'

/-- A name has the member that was put in, and any other name has what it had. -/
theorem membersNamed_insertMember (h : ByName members) (other : String) :
    membersNamed other (insertMember name value members) =
      if name = other then [(name, value)] else membersNamed other members := by
  induction members with
  | nil => by_cases hother : name = other <;> simp [insertMember, membersNamed, hother]
  | cons first members ih =>
      obtain ⟨hfirst, hmembers⟩ := List.pairwise_cons.mp h
      rw [insertMember]
      split
      · rename_i heq
        subst heq
        by_cases hother : first.1 = other
        · have hnil := membersNamed_eq_nil hfirst
          rw [hother] at hnil
          simp only [membersNamed] at hnil ⊢
          simp [hother, hnil]
        · simp [membersNamed, hother]
      split
      · rename_i hne hbefore
        have hlt : name < first.1 := nameBefore_iff.mp hbefore
        by_cases hother : name = other
        · have hnil : membersNamed name (first :: members) = [] :=
            membersNamed_eq_nil fun member hmember => by
              rcases List.mem_cons.mp hmember with rfl | hmember
              · exact hlt
              · exact lt_trans hlt (hfirst member hmember)
          rw [hother] at hnil
          simp only [membersNamed] at hnil ⊢
          rw [List.filter_cons_of_pos (by simpa using hother), hnil, if_pos hother]
        · simp [membersNamed, hother]
      · rename_i hne hbefore
        have hmore := ih hmembers
        simp only [membersNamed] at hmore ⊢
        by_cases hother : name = other
        · have hne' : first.1 ≠ other := fun heq => hne (hother.trans heq.symm)
          rw [List.filter_cons_of_neg (by simpa using hne'), hmore, if_pos hother, if_pos hother]
        · simp [hmore, hother, List.filter_cons]

end Insertion

/-! ## All members -/

/-- The members of an object as they are printed. -/
def normalMembers (members : List (String × Value)) : List (String × Value) :=
  members.foldl (fun object (name, value) => insertMember name value object) []

theorem Value.ofMembers_eq (members : List (String × Value)) :
    Value.ofMembers members = .object (normalMembers members) :=
  rfl

theorem membersNamed_foldl (members : List (String × Value)) {object : List (String × Value)}
    (h : ByName object) (name : String) :
    membersNamed name (members.foldl (fun object (name, value) =>
        insertMember name value object) object) =
      match (membersNamed name members).getLast? with
      | some member => [member]
      | none => membersNamed name object := by
  induction members generalizing object with
  | nil => rfl
  | cons member members ih =>
      obtain ⟨other, value⟩ := member
      rw [List.foldl_cons, ih (h.insertMember other value), membersNamed_insertMember h name]
      by_cases hother : other = name
      · subst hother
        simp only [membersNamed, decide_true, List.filter_cons_of_pos, if_true,
          List.getLast?_cons]
        cases (members.filter fun member => member.1 = other).getLast? <;> rfl
      · simp [membersNamed, hother]

/-- A name has the member that was read last. -/
theorem membersNamed_normalMembers (members : List (String × Value)) (name : String) :
    membersNamed name (normalMembers members) = (membersNamed name members).getLast?.toList := by
  rw [normalMembers, membersNamed_foldl members List.Pairwise.nil]
  cases (membersNamed name members).getLast? <;> rfl

theorem mem_of_mem_foldl (members : List (String × Value)) {object : List (String × Value)}
    {member : String × Value}
    (h : member ∈ members.foldl (fun object (name, value) =>
      insertMember name value object) object) : member ∈ object ∨ member ∈ members := by
  induction members generalizing object with
  | nil => exact .inl h
  | cons first members ih =>
      rcases ih h with h | h
      · rcases mem_insertMember h with rfl | h
        · exact .inr (by simp)
        · exact .inl h
      · exact .inr (by simp [h])

/-- No member is printed that was not read. -/
theorem mem_of_mem_normalMembers {members : List (String × Value)} {member : String × Value}
    (h : member ∈ normalMembers members) : member ∈ members := by
  simpa using mem_of_mem_foldl members h

end Json
end OutboxRelay
