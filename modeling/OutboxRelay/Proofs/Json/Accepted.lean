import OutboxRelay.Json.Record
import OutboxRelay.Proofs.Json.Skipped

/-!
# Records that were read

A text of which a record is read is a text of a tree, whatever stands there beside the
fields of the record.

**Method.** A member that no field asks for is skipped, and any other one is read by its
field.  In a list, each field takes an item as long as there are items.
-/

namespace OutboxRelay
namespace Json

open Reader

/-- Whether each field of a row reads nothing but texts of trees. -/
def SoundFields (fields : List Field) : Prop :=
  ∀ field ∈ fields, ∀ depth, Sound (field.read depth)

section Fields

variable {fields : List Field} {depth : Nat} {c c' : Cursor}

/-- A member that fills a slot is read by a field. -/
theorem SoundFields.use (h : SoundFields fields) {slots : Slots fields} {name : String}
    {read : Nat → Reader (Slots fields)} (huse : Slots.use fields slots name = .fills read) :
    Sound (read depth) := by
  induction fields with
  | nil => simp [Slots.use] at huse
  | cons field fields ih =>
      obtain ⟨hfield, hfields⟩ := List.forall_mem_cons.mp h
      obtain ⟨slot, slots⟩ := slots
      simp only [Slots.use] at huse
      split at huse
      · split at huse
        · simp at huse
        · obtain rfl := Slots.Use.fills.inj huse
          exact (hfield depth).map _
      · split at huse
        · simp at huse
        · simp at huse
        · rename_i read' hothers
          obtain rfl := Slots.Use.fills.inj huse
          exact (ih hfields hothers).map _

/-- The members of an object are read up to its bracket. -/
theorem passesMembers_of_slotsFrom (hsound : SoundFields fields) {rounds : Nat} {first : Bool}
    {slots slots' : Slots fields}
    (h : Record.slotsFrom fields depth rounds first slots c = .ok (slots', c')) :
    PassesMembers first c c' := by
  induction rounds generalizing first slots c with
  | zero => exact absurd h failing_ne_ok
  | succ rounds ih =>
      obtain ⟨name?, middle, hname, h⟩ := exists_of_bind h
      have hwhich := exists_of_memberName? hname
      cases name? with
      | none =>
          obtain ⟨-, rfl⟩ := of_pure h
          obtain ⟨before, rest, hbefore, hblank, hrest⟩ := hwhich
          exact passesMembers_of_blank hbefore hblank hrest
      | some name =>
          obtain ⟨lead, q, hlead, hleads⟩ := hwhich
          cases huse : Slots.use fields slots name with
          | unknown =>
              simp only [huse] at h
              obtain ⟨u, behind, hvalue, h⟩ := exists_of_bind h
              exact (ih h).cons hlead hleads sound_skipValue hvalue
          | taken =>
              simp only [huse] at h
              cases h
          | fills read =>
              simp only [huse] at h
              obtain ⟨slots, behind, hvalue, h⟩ := exists_of_bind h
              exact (ih h).cons hlead hleads (hsound.use huse) hvalue

/-- Where a bracket closes, nothing of a row is left. -/
theorem eq_nil_of_following {items : List Language} {inner rest others : Bytes}
    (h : following items inner) (heq : 0x5D :: rest = inner ++ others) : inner = [] := by
  cases inner with
  | nil => rfl
  | cons b more =>
      obtain rfl : 0x5D = b := (List.cons.inj heq).1
      cases items with
      | nil => exact absurd (h 0x5D (by simp)) (by decide)
      | cons item items =>
          obtain ⟨after, before, octets, left, hmore, hafter, -⟩ := h
          cases after with
          | nil => exact absurd (List.cons.inj hmore).1 (by decide)
          | cons d after =>
              obtain rfl : 0x5D = d := (List.cons.inj hmore).1
              exact absurd (hafter 0x5D (by simp)) (by decide)

/-- A row is read of the items of a list, and then the list is closed. -/
theorem exists_of_rowOfItems (hsound : SoundFields fields) {title : String} {total position : Nat}
    {row : Row fields} {u : Unit} {c'' : Cursor}
    (h : Record.rowOfItems title total depth fields position c = .ok (row, c'))
    (hclose : closeList c' = .ok (u, c'')) :
    ∃ trees inner, c.rest = inner ++ 0x5D :: c''.rest ∧
      Remaining (position == 0) (itemLanguages trees) inner := by
  induction fields generalizing position c with
  | nil =>
      obtain ⟨-, rfl⟩ := of_pure h
      obtain ⟨before, hbefore, hblank⟩ := exists_of_closeList hclose
      refine ⟨[], before, hbefore, ?_⟩
      cases (position == 0) <;> exact hblank
  | cons field fields ih =>
      obtain ⟨hfield, hfields⟩ := List.forall_mem_cons.mp hsound
      obtain ⟨more, middle, hmore, h⟩ := exists_of_bind h
      obtain ⟨lead, hlead, hwhich⟩ := exists_of_moreItems hmore
      -- what the other fields read is what is left of the row behind the first value
      have hothers {value : field.Carrier} {behind : Cursor}
          (h : (do
            let row ← Record.rowOfItems title total depth fields (position + 1)
            return (value, row) : Reader (Row (field :: fields))) behind = .ok (row, c')) :
          ∃ trees inner, behind.rest = inner ++ 0x5D :: c''.rest ∧
            Remaining false (itemLanguages trees) inner := by
        obtain ⟨others, last, hrow, h⟩ := exists_of_bind h
        obtain ⟨-, rfl⟩ := of_pure h
        exact ih hfields hrow
      cases more with
      | true =>
          obtain ⟨value, behind, hvalue, h⟩ := exists_of_bind h
          obtain ⟨before, octets, tree, hoctets, hbefore, htree⟩ :=
            (hfield depth).inside _ middle value behind hvalue
          obtain ⟨trees, inner, hinner, hrow⟩ := hothers h
          refine ⟨tree :: trees, _, ?_, Leads.remaining hwhich hbefore htree hrow⟩
          rw [hlead, hoctets, hinner]
          simp
      | false =>
          obtain ⟨hblank, rest, hrest⟩ := hwhich
          have hend : ∃ trees inner, middle.rest = inner ++ 0x5D :: c''.rest ∧
              Remaining false (itemLanguages trees) inner := by
            cases habsent : field.absent with
            | none =>
                simp only [habsent] at h
                cases h
            | some value =>
                simp only [habsent] at h
                exact hothers h
          obtain ⟨trees, inner, hinner, hrow⟩ := hend
          obtain rfl := eq_nil_of_following hrow (hrest.symm.trans hinner)
          refine ⟨[], lead, by rw [hlead, hinner]; rfl, ?_⟩
          cases (position == 0) <;> exact hblank

end Fields

/-- A record whose fields read nothing but texts of trees does so, too. -/
theorem Record.sound {α : Type} {record : Record α} (hsound : SoundFields record.fields)
    (depth : Nat) : Sound (record.read depth) := by
  refine sound_of_firstOctet fun b more c a c' hrest h => ?_
  split at h
  · rename_i hb
    cases depth with
    | zero => exact absurd h failingAhead_ne_ok
    | succ depth =>
        obtain ⟨u, middle, hadvance, h⟩ := exists_of_bind h
        obtain rfl := of_advance hadvance
        obtain ⟨row, behind, hrow, h⟩ := exists_of_bind h
        obtain ⟨u', last, hclose, h⟩ := exists_of_bind h
        obtain ⟨-, rfl⟩ := of_pure h
        obtain ⟨trees, inner, hinner, hitems⟩ := exists_of_rowOfItems hsound hrow hclose
        rw [rest_skip hrest] at hinner
        exact exists_list (hb ▸ hrest) hinner hitems
  split at h
  · rename_i hb
    cases depth with
    | zero => exact absurd h failingAhead_ne_ok
    | succ depth =>
        obtain ⟨u, middle, hadvance, h⟩ := exists_of_bind h
        obtain rfl := of_advance hadvance
        obtain ⟨row, behind, hrow, h⟩ := exists_of_bind h
        obtain ⟨u', last, hclose, h⟩ := exists_of_bind h
        obtain ⟨-, rfl⟩ := of_pure h
        obtain ⟨⟨slots, filled⟩, hslots, hrow⟩ := exists_ok_of_bind hrow
        obtain ⟨members, inner, rest, hinner, hfilled, hmembers⟩ :=
          passesMembers_of_slotsFrom hsound hslots
        have hbehind : filled = behind := by
          simp only at hrow
          split at hrow
          · exact (Prod.mk.inj (Except.ok.inj hrow)).2
          · cases hrow
        subst hbehind
        rw [rest_skip hrest, ← rest_of_closeObject hfilled hclose] at hinner
        exact exists_object (hb ▸ hrest) hinner hmembers
  · exact absurd h refusing_ne_ok

/-- What is decoded is a text of a tree with blanks around it. -/
theorem Sound.exists_of_decode {α : Type} {reader : Reader α} (hsound : Sound reader)
    {bytes : Bytes} {a : α} (h : Reader.decode reader bytes = .ok a) :
    ∃ before octets after tree, bytes = before ++ (octets ++ after) ∧ Blank before ∧
      Blank after ∧ Tree.language tree octets := by
  rw [Reader.decode] at h
  split at h
  · rename_i value last hwhole
    obtain ⟨a, behind, hread, hwhole⟩ := exists_of_bind hwhole
    obtain ⟨u, end', hblanks, hwhole⟩ := exists_of_bind hwhole
    obtain ⟨after, hafter, hblank⟩ := of_blanks hblanks
    obtain ⟨b?, c', hpeek, hwhole⟩ := exists_of_bind hwhole
    obtain ⟨hhead, rfl⟩ := of_peek hpeek
    obtain ⟨before, octets, tree, hoctets, hbefore, htree⟩ := hsound _ a behind hread
    cases b? with
    | none =>
        have hnil := List.head?_eq_none_iff.mp hhead.symm
        rw [hafter, hnil, List.append_nil] at hoctets
        exact ⟨before, octets, after, tree, hoctets, hbefore, hblank, htree⟩
    | some b => exact absurd hwhole failingAhead_ne_ok
  · simp at h

end Json
end OutboxRelay
