import OutboxRelay.Proofs.Json.Skip
import OutboxRelay.Proofs.Json.Sound

/-!
# Values that were skipped

Whatever is skipped without a fault is a text of some tree, however deep its brackets.

**Method.** The invariant speaks of the octets that are left.  Behind a value they complete
the innermost open bracket, and behind that bracket the one around it, so that a run that
comes to an end has passed texts of trees and nothing else.
-/

namespace OutboxRelay
namespace Json

/-! ## Brackets -/

namespace Bracket

/-- What can stand inside a bracket, from its first item on or behind another one. -/
def Holds (first : Bool) : Bracket → Bytes → Prop
  | list, inner => ∃ trees, Remaining first (itemLanguages trees) inner
  | object, inner => ∃ members, Remaining first (memberLanguages members) inner

/-- What stands in front of a value inside a bracket. -/
def Key : Bracket → Bytes → Prop
  | list, octets => octets = []
  | object, octets =>
      ∃ before q after, octets = before ++ (Quotation.octets q ++ (after ++ [0x3A])) ∧
        Blank before ∧ Blank after

theorem holds_of_blank {inner : Bytes} (h : Blank inner) (first : Bool) (bracket : Bracket) :
    bracket.Holds first inner := by
  cases bracket <;> cases first <;> exact ⟨[], h⟩

/-- A value stands inside a bracket behind what leads to it and its key. -/
theorem Holds.cons {bracket : Bracket} {first : Bool} {lead key before octets others : Bytes}
    {tree : Tree} (hothers : bracket.Holds false others) (hlead : Leads first lead)
    (hkey : bracket.Key key) (hbefore : Blank before) (htree : tree.language octets) :
    bracket.Holds first (lead ++ (key ++ (before ++ (octets ++ others)))) := by
  cases bracket with
  | list =>
      obtain ⟨trees, hothers⟩ := hothers
      obtain rfl : key = [] := hkey
      have hrow := hlead.remaining hbefore htree hothers
      exact ⟨tree :: trees, hrow⟩
  | object =>
      obtain ⟨members, hothers⟩ := hothers
      obtain ⟨between, q, after, rfl, hbetween, hafter⟩ := hkey
      have hrow := hlead.member q hbetween hafter hbefore htree hothers
      refine ⟨(q, tree) :: members, ?_⟩
      simpa using hrow

/-- What stands inside brackets makes up a tree. -/
theorem Holds.exists_tree {bracket : Bracket} {inner : Bytes} (h : bracket.Holds true inner) :
    ∃ tree, Tree.language tree (bracket.opening :: (inner ++ [bracket.closing])) := by
  cases bracket with
  | list =>
      obtain ⟨trees, h⟩ := h
      exact ⟨.list trees, inner, rfl, h⟩
  | object =>
      obtain ⟨members, h⟩ := h
      exact ⟨.object members, inner, rfl, h⟩

end Bracket

/-- Whether octets complete what stands inside open brackets and leave a rest. -/
def Completes (first : Bool) : List Bracket → Bytes → Bytes → Prop
  | [], input, rest => input = rest
  | bracket :: outer, input, rest =>
      ∃ inner middle, input = inner ++ bracket.closing :: middle ∧
        bracket.Holds first inner ∧ Completes false outer middle rest

/-! ## Steps -/

section Steps

variable {s s' : Skipping}

/-- A word is passed where its first octet was seen. -/
theorem exists_of_word {brackets : List Bracket} {c : Cursor} {b : UInt8} {more tail : Bytes}
    (hrest : c.rest = b :: more)
    (h : (fun behind => (⟨brackets, .separated, behind⟩ : Skipping)) <$>
      word tail (c.skip 1) = .ok s') :
    c.rest = b :: tail ++ s'.cursor.rest ∧ s'.brackets = brackets ∧ s'.expects = .separated := by
  obtain ⟨behind, hword, rfl⟩ := exists_of_map h
  have hmore := rest_of_word hword
  rw [Reader.rest_skip hrest] at hmore
  rw [hrest, hmore]
  exact ⟨rfl, rfl, rfl⟩

/-- A value without brackets is passed, or a bracket is opened. -/
theorem exists_of_value (h : s.value = .ok s') :
    ∃ before, Blank before ∧
      ((∃ octets tree, s.cursor.rest = before ++ (octets ++ s'.cursor.rest) ∧
          Tree.language tree octets ∧ s'.brackets = s.brackets ∧ s'.expects = .separated) ∨
        ∃ bracket, s.cursor.rest = before ++ Bracket.opening bracket :: s'.cursor.rest ∧
          s'.brackets = bracket :: s.brackets ∧ s'.expects = .opened) := by
  obtain ⟨before, hbefore, hblank⟩ := exists_of_skipBlanks s.cursor
  refine ⟨before, hblank, ?_⟩
  unfold Skipping.value at h
  generalize s.cursor.skipBlanks = c at hbefore h
  simp only at h
  split at h
  · simp at h
  rename_i b more hrest
  have hword (tail : Bytes) (tree : Tree) (htree : tree.language (b :: tail))
      (h : (fun behind => (⟨s.brackets, .separated, behind⟩ : Skipping)) <$>
        word tail (c.skip 1) = .ok s') :
      ∃ octets tree, s.cursor.rest = before ++ (octets ++ s'.cursor.rest) ∧
        Tree.language tree octets ∧ s'.brackets = s.brackets ∧ s'.expects = .separated := by
    obtain ⟨htail, hbrackets, hexpects⟩ := exists_of_word hrest h
    exact ⟨b :: tail, tree, by rw [hbefore, htail], htree, hbrackets, hexpects⟩
  split at h
  · rename_i hb
    exact .inl (hword nullTail .null (by rw [hb]; rfl) h)
  split at h
  · rename_i hb
    exact .inl (hword trueTail (.boolean true) (by rw [hb]; rfl) h)
  split at h
  · rename_i hb
    exact .inl (hword falseTail (.boolean false) (by rw [hb]; rfl) h)
  split at h
  · rename_i hb
    obtain ⟨behind, hnumber, rfl⟩ := exists_of_map h
    obtain ⟨literal, hnegative, hliteral⟩ := exists_of_skipNumber true hnumber
    rw [Reader.rest_skip hrest] at hliteral
    refine .inl ⟨literal.octets, .number literal, ?_, rfl, rfl, rfl⟩
    rw [Literal.octets, if_pos hnegative, hbefore, hrest, hb, hliteral]
    rfl
  split at h
  · obtain ⟨behind, hnumber, rfl⟩ := exists_of_map h
    obtain ⟨literal, hnegative, hliteral⟩ := exists_of_skipNumber false hnumber
    refine .inl ⟨literal.octets, .number literal, ?_, rfl, rfl, rfl⟩
    rw [Literal.octets, if_neg (by simp [hnegative]), hbefore, hliteral]
  split at h
  · rename_i hb
    obtain ⟨behind, hstring, rfl⟩ := exists_of_map h
    obtain ⟨q, hq⟩ := exists_of_skipStringFrom hstring
    refine .inl ⟨q.octets, .text q, ?_, rfl, rfl, rfl⟩
    rw [hbefore, hrest, hb, hq]
    simp [Quotation.octets]
  split at h
  · rename_i hb
    obtain rfl := Except.ok.inj h
    exact .inr ⟨.list, by rw [hbefore, hrest, hb]; simp [Cursor.skip, hrest, Bracket.opening],
      rfl, rfl⟩
  split at h
  · rename_i hb
    obtain rfl := Except.ok.inj h
    exact .inr ⟨.object, by rw [hbefore, hrest, hb]; simp [Cursor.skip, hrest, Bracket.opening],
      rfl, rfl⟩
  · simp at h

/-- The way to a value leads over its key. -/
theorem exists_of_skipKey {bracket : Bracket} {c c' : Cursor} (h : skipKey bracket c = .ok c') :
    ∃ key, c.rest = key ++ c'.rest ∧ bracket.Key key := by
  cases bracket with
  | list =>
      obtain rfl := Except.ok.inj h
      exact ⟨[], rfl, rfl⟩
  | object =>
      obtain ⟨before, hbefore, hblank⟩ := exists_of_skipBlanks c
      simp only [skipKey] at h
      generalize c.skipBlanks = name at hbefore h
      split at h
      · simp at h
      rename_i b more hrest
      split at h
      · simp at h
      rename_i hmark
      obtain ⟨behind, hstring, h⟩ := exists_ok_of_bind h
      obtain ⟨q, hq⟩ := exists_of_skipStringFrom hstring
      obtain ⟨after, hafter, hblank'⟩ := exists_of_skipBlanks behind
      generalize behind.skipBlanks = colon at hafter h
      split at h
      · cases h
      rename_i d others hcolon
      split at h
      · rename_i hd
        obtain rfl := Except.ok.inj h
        have hb : b = 0x22 := by simpa using hmark
        refine ⟨_, ?_, before, q, after, rfl, hblank, hblank'⟩
        rw [hbefore, hrest, hb, hq, hafter, hcolon, hd]
        simp [Quotation.octets, Cursor.skip, hcolon]
      · cases h

/-- A bracket is closed, or the way to its next value is gone. -/
theorem exists_of_follow {bracket : Bracket} {outer : List Bracket}
    (h : s.follow bracket outer = .ok s') :
    (∃ before, s.cursor.rest = before ++ bracket.closing :: s'.cursor.rest ∧ Blank before ∧
        s'.brackets = outer ∧ s'.expects = .separated) ∨
      ∃ lead key, s.cursor.rest = lead ++ (key ++ s'.cursor.rest) ∧
        Leads (s.expects == .opened) lead ∧ bracket.Key key ∧
        s'.brackets = s.brackets ∧ s'.expects = .value := by
  obtain ⟨before, hbefore, hblank⟩ := exists_of_skipBlanks s.cursor
  unfold Skipping.follow at h
  generalize s.cursor.skipBlanks = c at hbefore h
  simp only at h
  split at h
  · cases h
  rename_i b more hrest
  split at h
  · rename_i hb
    obtain rfl := Except.ok.inj h
    refine .inl ⟨before, ?_, hblank, rfl, rfl⟩
    rw [hbefore, hrest, hb]
    simp [Cursor.skip, hrest]
  split at h
  · rename_i hopened
    obtain ⟨c', hkey, h⟩ := exists_ok_of_bind h
    obtain rfl := Except.ok.inj h
    obtain ⟨key, hkey, hkeyed⟩ := exists_of_skipKey hkey
    exact .inr ⟨before, key, by rw [hbefore, hkey], by simpa [Leads, hopened] using hblank,
      hkeyed, rfl, rfl⟩
  split at h
  · rename_i hseparated hcomma
    obtain ⟨c', hkey, h⟩ := exists_ok_of_bind h
    obtain rfl := Except.ok.inj h
    obtain ⟨key, hkey, hkeyed⟩ := exists_of_skipKey hkey
    rw [Reader.rest_skip hrest] at hkey
    refine .inr ⟨before ++ [0x2C], key, ?_, ?_, hkeyed, rfl, rfl⟩
    · rw [hbefore, hrest, hcomma, hkey]
      simp
    · have hnot : (s.expects == .opened) = false := by simpa using hseparated
      rw [hnot]
      exact ⟨before, [], rfl, hblank, Blank.nil⟩
  · cases h

end Steps

/-! ## Runs -/

/-- Whether what is left of a skipping completes its brackets, up to a rest. -/
def Skipping.Owes (s : Skipping) (rest : Bytes) : Prop :=
  match s.expects with
  | .value => ∃ before octets tree after, s.cursor.rest = before ++ (octets ++ after) ∧
      Blank before ∧ Tree.language tree octets ∧ Completes false s.brackets after rest
  | .opened => Completes true s.brackets s.cursor.rest rest
  | .separated => Completes false s.brackets s.cursor.rest rest

section Runs

variable {s s' : Skipping} {rest : Bytes}

/-- A value that is expected is passed at once, or its bracket is completed later. -/
theorem owes_of_value (hexpects : s.expects = .value) (h : s.value = .ok s')
    (hthen : s'.Owes rest) : s.Owes rest := by
  obtain ⟨next, expected, behind⟩ := s'
  obtain ⟨before, hblank, ⟨octets, tree, hrest, htree, rfl, rfl⟩ | ⟨bracket, hrest, rfl, rfl⟩⟩ :=
    exists_of_value h
  · rw [Skipping.Owes, hexpects]
    exact ⟨before, octets, tree, behind.rest, hrest, hblank, htree, hthen⟩
  · obtain ⟨inner, middle, hinner, hholds, houter⟩ := hthen
    obtain ⟨tree, htree⟩ := hholds.exists_tree
    rw [Skipping.Owes, hexpects]
    refine ⟨before, _, tree, middle, ?_, hblank, htree, houter⟩
    simp only at hrest hinner
    rw [hrest, hinner]
    simp

/-- Behind a value or an opening bracket, the innermost bracket goes on or is closed. -/
theorem completes_of_follow {bracket : Bracket} {outer : List Bracket}
    (hbrackets : s.brackets = bracket :: outer) (h : s.follow bracket outer = .ok s')
    (hthen : s'.Owes rest) :
    Completes (s.expects == .opened) s.brackets s.cursor.rest rest := by
  obtain ⟨next, expected, behind⟩ := s'
  rw [hbrackets]
  rcases exists_of_follow h with ⟨before, hrest, hblank, rfl, rfl⟩ |
      ⟨lead, key, hrest, hleads, hkey, rfl, rfl⟩
  · exact ⟨before, behind.rest, hrest, Bracket.holds_of_blank hblank _ bracket, hthen⟩
  · obtain ⟨before, octets, tree, after, hvalue, hbefore, htree, hcompletes⟩ := hthen
    rw [hbrackets] at hcompletes
    obtain ⟨inner, middle, hinner, hholds, houter⟩ := hcompletes
    refine ⟨_, middle, ?_, hholds.cons hleads hkey hbefore htree, houter⟩
    simp only at hrest hvalue
    rw [hrest, hvalue, hinner]
    simp

/-- What is left when a run comes to its end has completed all brackets. -/
theorem owes_of_finish {rounds : Nat} {c' : Cursor} (h : Skipping.finish rounds s = .ok c') :
    s.Owes c'.rest := by
  induction rounds generalizing s with
  | zero => simp [Skipping.finish] at h
  | succ rounds ih =>
      obtain ⟨brackets, expects, cursor⟩ := s
      cases expects with
      | value =>
          simp only [Skipping.finish] at h
          split at h
          · rename_i s' hvalue
            exact owes_of_value rfl hvalue (ih h)
          · simp at h
      | opened =>
          cases brackets with
          | nil =>
              obtain rfl := Except.ok.inj h
              rfl
          | cons bracket outer =>
              simp only [Skipping.finish] at h
              split at h
              · rename_i s' hnext
                exact completes_of_follow rfl hnext (ih h)
              · simp at h
      | separated =>
          cases brackets with
          | nil =>
              obtain rfl := Except.ok.inj h
              rfl
          | cons bracket outer =>
              simp only [Skipping.finish] at h
              split at h
              · rename_i s' hnext
                exact completes_of_follow rfl hnext (ih h)
              · simp at h

end Runs

theorem sound_skipValue : Sound (Reader.passing skipValue) := by
  intro c u c' h
  obtain ⟨before, octets, tree, after, hrest, hbefore, htree, rfl⟩ :=
    owes_of_finish (Reader.of_passing h)
  exact ⟨before, octets, tree, hrest, hbefore, htree⟩

end Json
end OutboxRelay
