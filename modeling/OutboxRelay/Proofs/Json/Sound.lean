import OutboxRelay.Proofs.Json.Lexeme
import OutboxRelay.Proofs.Json.Row

/-!
# Texts that were read

Whatever a reader reads without a fault is a text of some tree, with blanks before it.

**Method.** A sequence without a fault has none in its parts.  The loops over the items
of a list and the members of an object put together the row that they have passed, item
by item from its end.
-/

namespace OutboxRelay
namespace Json

variable {α β : Type}

/-- Whether a reader reads nothing but texts of trees. -/
def Sound (reader : Reader α) : Prop :=
  ∀ c a c', reader c = .ok (a, c') → ∃ before octets tree,
    c.rest = before ++ (octets ++ c'.rest) ∧ Blank before ∧ Tree.language tree octets

/-! ## Elementary readers -/

namespace Reader

variable {c c' : Cursor}

theorem exists_of_bind {reader : Reader α} {next : α → Reader β} {b : β}
    (h : (reader >>= next) c = .ok (b, c')) :
    ∃ a middle, reader c = .ok (a, middle) ∧ next a middle = .ok (b, c') := by
  obtain ⟨⟨a, middle⟩, hfirst, hnext⟩ := exists_ok_of_bind h
  exact ⟨a, middle, hfirst, hnext⟩

theorem ok_of_inside {step : Step} {reader : Reader α} {a : α}
    (h : inside step reader c = .ok (a, c')) : reader c = .ok (a, c') :=
  eq_ok_of_mapError h

theorem refusing_ne_ok {wanted : Wanted} {a : α} :
    (refusing wanted : Reader α) c ≠ .ok (a, c') := by
  intro h
  simp only [refusing] at h
  split at h <;> simp at h

theorem failingAhead_ne_ok {cause : Cause} {a : α} :
    (failingAhead cause : Reader α) c ≠ .ok (a, c') := by
  simp [failingAhead]

theorem failing_ne_ok {cause : Cause} {a : α} :
    (failing cause : Reader α) c ≠ .ok (a, c') := by
  simp [failing]

theorem of_blanks {u : Unit} (h : blanks c = .ok (u, c')) :
    ∃ before, c.rest = before ++ c'.rest ∧ Blank before := by
  obtain ⟨-, rfl⟩ := Prod.mk.inj (Except.ok.inj h)
  exact exists_of_skipBlanks c

theorem of_peek {b? : Option UInt8} (h : peek c = .ok (b?, c')) : b? = c.rest.head? ∧ c' = c := by
  obtain ⟨rfl, rfl⟩ := Prod.mk.inj (Except.ok.inj h)
  exact ⟨rfl, rfl⟩

theorem of_advance {u : Unit} (h : advance c = .ok (u, c')) : c' = c.skip 1 := by
  obtain ⟨-, rfl⟩ := Prod.mk.inj (Except.ok.inj h)
  rfl

theorem of_pure {a b : α} (h : (pure a : Reader α) c = .ok (b, c')) : a = b ∧ c = c' :=
  Prod.mk.inj (Except.ok.inj h)

theorem of_passing {lexeme : Cursor → Except Fault Cursor} {u : Unit}
    (h : passing lexeme c = .ok (u, c')) : lexeme c = .ok c' := by
  rw [passing] at h
  cases hlexeme : lexeme c with
  | error fault => simp [hlexeme, Except.map] at h
  | ok behind => simpa [hlexeme, Except.map] using h

theorem rest_skip {b : UInt8} {more : Bytes} (h : c.rest = b :: more) : (c.skip 1).rest = more := by
  simp [Cursor.skip, h]

/-- What looks past blanks at the next octet, and fails if there is none. -/
theorem exists_of_ahead {next : Option UInt8 → Reader α} {a : α}
    (h : (do blanks; next (← peek)) c = .ok (a, c'))
    (ends : ∀ middle, next none middle ≠ .ok (a, c')) :
    ∃ before b more middle, c.rest = before ++ middle.rest ∧ Blank before ∧
      middle.rest = b :: more ∧ next (some b) middle = .ok (a, c') := by
  obtain ⟨u, middle, hblanks, h⟩ := exists_of_bind h
  obtain ⟨before, hbefore, hblank⟩ := of_blanks hblanks
  obtain ⟨b?, middle', hpeek, h⟩ := exists_of_bind h
  obtain ⟨hhead, rfl⟩ := of_peek hpeek
  cases b? with
  | none => exact absurd h (ends _)
  | some b =>
      obtain ⟨more, hmore⟩ := List.head?_eq_some_iff.mp hhead.symm
      exact ⟨before, b, more, _, hbefore, hblank, hmore, h⟩

/-- The first octet stands behind blanks and is not consumed. -/
theorem of_firstOctet {b : UInt8} (h : firstOctet c = .ok (b, c')) :
    ∃ before more, c.rest = before ++ c'.rest ∧ Blank before ∧ c'.rest = b :: more := by
  obtain ⟨before, d, more, middle, hbefore, hblank, hmore, h⟩ :=
    exists_of_ahead h fun _ => failingAhead_ne_ok
  obtain ⟨rfl, rfl⟩ := of_pure h
  exact ⟨before, more, hbefore, hblank, hmore⟩

end Reader

open Reader

/-! ## Values without inner structure -/

/-- A reader that looks at the first octet first. -/
theorem sound_of_firstOctet {next : UInt8 → Reader α}
    (h : ∀ b more c a c', c.rest = b :: more → next b c = .ok (a, c') →
      ∃ octets tree, c.rest = octets ++ c'.rest ∧ Tree.language tree octets) :
    Sound (firstOctet >>= next) := by
  intro c a c' hread
  obtain ⟨b, middle, hfirst, hnext⟩ := exists_of_bind hread
  obtain ⟨before, more, hbefore, hblank, hmore⟩ := of_firstOctet hfirst
  obtain ⟨octets, tree, hoctets, htree⟩ := h b more middle a c' hmore hnext
  exact ⟨before, octets, tree, by rw [hbefore, hoctets], hblank, htree⟩

theorem Sound.inside {reader : Reader α} (h : Sound reader) (step : Step) :
    Sound (Reader.inside step reader) :=
  fun c a c' hread => h c a c' (ok_of_inside hread)

theorem Sound.map {reader : Reader α} (h : Sound reader) (f : α → β) :
    Sound (do return f (← reader)) := by
  intro c b c' hread
  obtain ⟨a, middle, hfirst, hpure⟩ := exists_of_bind hread
  obtain ⟨-, rfl⟩ := of_pure hpure
  exact h c a middle hfirst

theorem sound_text : Sound Reader.text := by
  refine sound_of_firstOctet fun b more c a c' hrest h => ?_
  split at h
  · rename_i hb
    obtain ⟨q, hq⟩ := exists_of_stringTail h
    rw [rest_skip hrest] at hq
    exact ⟨q.octets, .text q, by rw [hrest, hb, hq]; simp [Quotation.octets], rfl⟩
  · exact absurd h refusing_ne_ok

theorem sound_integer (bits : Nat) : Sound (Reader.integer bits) := by
  refine sound_of_firstOctet fun b more c a c' hrest h => ?_
  split at h
  · obtain ⟨numeral, middle, hnumber, h⟩ := exists_of_bind h
    obtain ⟨literal, hliteral⟩ := exists_of_number hnumber
    have hmiddle : middle = c' := by
      cases numeral with
      | integer value =>
          simp only at h
          split at h
          · exact (of_pure h).2
          · exact absurd h failing_ne_ok
      | float value => exact absurd h failing_ne_ok
    exact ⟨literal.octets, .number literal, hmiddle ▸ hliteral, rfl⟩
  · exact absurd h refusing_ne_ok

/-- A word is read behind its first octet. -/
theorem rest_of_wordBranch {tail more : Bytes} {a a' : α} {b : UInt8} {c c' : Cursor}
    (hrest : c.rest = b :: more)
    (h : (do Reader.advance; passing (word tail); return a : Reader α) c = .ok (a', c')) :
    c.rest = (b :: tail) ++ c'.rest := by
  obtain ⟨u, middle, hadvance, h⟩ := exists_of_bind h
  obtain rfl := of_advance hadvance
  obtain ⟨u', behind, hword, h⟩ := exists_of_bind h
  obtain ⟨-, rfl⟩ := of_pure h
  rw [hrest, ← rest_skip hrest, rest_of_word (of_passing hword)]
  rfl

theorem exists_of_simple {b : UInt8} {more : Bytes} {a : Value} {c c' : Cursor}
    (hrest : c.rest = b :: more) (h : simple b c = .ok (a, c')) :
    ∃ octets tree, c.rest = octets ++ c'.rest ∧ Tree.language tree octets := by
  unfold simple at h
  split at h
  · rename_i hb
    exact ⟨b :: nullTail, .null, rest_of_wordBranch hrest h, by rw [hb]; rfl⟩
  split at h
  · rename_i hb
    exact ⟨b :: trueTail, .boolean true, rest_of_wordBranch hrest h, by rw [hb]; rfl⟩
  split at h
  · rename_i hb
    exact ⟨b :: falseTail, .boolean false, rest_of_wordBranch hrest h, by rw [hb]; rfl⟩
  split at h
  · obtain ⟨numeral, middle, hnumber, h⟩ := exists_of_bind h
    obtain ⟨literal, hliteral⟩ := exists_of_number hnumber
    have hmiddle : middle = c' := by cases numeral <;> exact (of_pure h).2
    exact ⟨literal.octets, .number literal, hmiddle ▸ hliteral, rfl⟩
  split at h
  · rename_i hb
    obtain ⟨u, middle, hadvance, h⟩ := exists_of_bind h
    obtain rfl := of_advance hadvance
    obtain ⟨text, behind, htext, h⟩ := exists_of_bind h
    obtain ⟨-, rfl⟩ := of_pure h
    obtain ⟨q, hq⟩ := exists_of_stringTail htext
    rw [rest_skip hrest] at hq
    exact ⟨q.octets, .text q, by rw [hrest, hb, hq]; simp [Quotation.octets], rfl⟩
  · exact absurd h failingAhead_ne_ok

/-! ## Rows -/

/-- What leads to an item: blanks, and a comma unless the item is the first one. -/
def Leads (first : Bool) (lead : Bytes) : Prop :=
  if first then Blank lead
  else ∃ after before, lead = after ++ 0x2C :: before ∧ Blank after ∧ Blank before

theorem Leads.remaining {first : Bool} {lead before octets others : Bytes} {item : Language}
    {items : List Language} (h : Leads first lead) (hbefore : Blank before) (hitem : item octets)
    (hothers : Remaining false items others) :
    Remaining first (item :: items) (lead ++ (before ++ (octets ++ others))) := by
  cases first with
  | true =>
      exact ⟨lead ++ before, octets, others, by simp, Blank.append h hbefore, hitem, hothers⟩
  | false =>
      obtain ⟨after, between, rfl, hafter, hbetween⟩ := h
      exact ⟨after, between ++ before, octets, others, by simp, hafter,
        hbetween.append hbefore, hitem, hothers⟩

/-- A member stands in front of the others behind what leads to it. -/
theorem Leads.member {first : Bool} {lead between after before octets others : Bytes}
    {tree : Tree} {members : List (Quotation × Tree)} (h : Leads first lead) (q : Quotation)
    (hbetween : Blank between) (hafter : Blank after) (hbefore : Blank before)
    (htree : tree.language octets) (hothers : Remaining false (memberLanguages members) others) :
    Remaining first (memberLanguages ((q, tree) :: members))
      (lead ++ (between ++ (q.octets ++ (after ++ 0x3A :: (before ++ (octets ++ others)))))) := by
  have hmember : memberLanguage q tree.language
      (q.octets ++ (after ++ 0x3A :: (before ++ octets))) :=
    ⟨after, before, octets, rfl, hafter, hbefore, htree⟩
  rw [memberLanguages]
  simpa using h.remaining hbetween hmember hothers

section Looks

variable {first : Bool} {c c' : Cursor}

/-- Before an item there is what leads to it, and at the end there is the bracket. -/
theorem exists_of_moreItems {more : Bool} (h : moreItems first c = .ok (more, c')) :
    ∃ lead, c.rest = lead ++ c'.rest ∧
      if more then Leads first lead else Blank lead ∧ ∃ rest, c'.rest = 0x5D :: rest := by
  obtain ⟨before, b, rest, middle, hbefore, hblank, hrest, h⟩ :=
    exists_of_ahead h fun _ => failingAhead_ne_ok
  simp only at h
  split at h
  · rename_i hb
    obtain ⟨rfl, rfl⟩ := of_pure h
    exact ⟨before, hbefore, hblank, rest, hb ▸ hrest⟩
  split at h
  · rename_i hfirst
    obtain ⟨rfl, rfl⟩ := of_pure h
    exact ⟨before, hbefore, by simpa [Leads, hfirst] using hblank⟩
  split at h
  · rename_i hfirst hcomma
    obtain ⟨u, behind, hadvance, h⟩ := exists_of_bind h
    obtain rfl := of_advance hadvance
    obtain ⟨after, d, others, behind, hafter, hblank', -, h⟩ :=
      exists_of_ahead h fun _ => failingAhead_ne_ok
    simp only at h
    split at h
    · exact absurd h failingAhead_ne_ok
    obtain ⟨rfl, rfl⟩ := of_pure h
    refine ⟨before ++ 0x2C :: after, ?_, ?_⟩
    · rw [hbefore, hrest, hcomma, ← rest_skip hrest, hafter]
      simp
    · simpa [Leads, hfirst] using ⟨before, after, rfl, hblank, hblank'⟩
  · exact absurd h failingAhead_ne_ok

/-- Before a name there is what leads to it, and at the end there is the bracket. -/
theorem exists_of_moreMembers {more : Bool} (h : moreMembers first c = .ok (more, c')) :
    ∃ lead rest, c.rest = lead ++ c'.rest ∧
      if more then Leads first lead ∧ c'.rest = 0x22 :: rest
      else Blank lead ∧ c'.rest = 0x7D :: rest := by
  obtain ⟨before, b, rest, middle, hbefore, hblank, hrest, h⟩ :=
    exists_of_ahead h fun _ => failingAhead_ne_ok
  simp only at h
  split at h
  · rename_i hb
    obtain ⟨rfl, rfl⟩ := of_pure h
    exact ⟨before, rest, hbefore, hblank, hb ▸ hrest⟩
  split at h
  · rename_i hfirst
    split at h
    · rename_i hmark
      obtain ⟨rfl, rfl⟩ := of_pure h
      exact ⟨before, rest, hbefore, by simpa [Leads, hfirst] using hblank, hmark ▸ hrest⟩
    · exact absurd h failingAhead_ne_ok
  split at h
  · rename_i hfirst hcomma
    obtain ⟨u, behind, hadvance, h⟩ := exists_of_bind h
    obtain rfl := of_advance hadvance
    obtain ⟨after, d, others, behind, hafter, hblank', hothers, h⟩ :=
      exists_of_ahead h fun _ => failingAhead_ne_ok
    simp only at h
    split at h
    · rename_i hmark
      obtain ⟨rfl, rfl⟩ := of_pure h
      refine ⟨before ++ 0x2C :: after, others, ?_, ?_, hmark ▸ hothers⟩
      · rw [hbefore, hrest, hcomma, ← rest_skip hrest, hafter]
        simp
      · simpa [Leads, hfirst] using ⟨before, after, rfl, hblank, hblank'⟩
    split at h <;> exact absurd h failingAhead_ne_ok
  · exact absurd h failingAhead_ne_ok

/-- The name of a member is read behind what leads to it. -/
theorem exists_of_memberName? {name? : Option String} (h : memberName? first c = .ok (name?, c')) :
    match name? with
    | some _ => ∃ lead q, c.rest = lead ++ (Quotation.octets q ++ c'.rest) ∧ Leads first lead
    | none =>
        ∃ before rest, c.rest = before ++ c'.rest ∧ Blank before ∧ c'.rest = 0x7D :: rest := by
  obtain ⟨more, middle, hmore, h⟩ := exists_of_bind (ok_of_inside h)
  obtain ⟨lead, rest, hlead, hrest⟩ := exists_of_moreMembers hmore
  cases more with
  | false =>
      obtain ⟨rfl, rfl⟩ := of_pure h
      exact ⟨lead, rest, hlead, hrest.1, hrest.2⟩
  | true =>
      obtain ⟨u, behind, hadvance, h⟩ := exists_of_bind h
      obtain rfl := of_advance hadvance
      obtain ⟨text, behind, htext, h⟩ := exists_of_bind h
      obtain ⟨rfl, rfl⟩ := of_pure h
      obtain ⟨q, hq⟩ := exists_of_stringTail htext
      rw [rest_skip hrest.2] at hq
      exact ⟨lead, q, by rw [hlead, hrest.2, hq]; simp [Quotation.octets], hrest.1⟩

/-- The value of a member is read behind the colon. -/
theorem Sound.memberValue {reader : Reader α} (hsound : Sound reader) {name : String} {a : α}
    (h : Reader.memberValue name reader c = .ok (a, c')) :
    ∃ after before octets tree, c.rest = after ++ 0x3A :: (before ++ (octets ++ c'.rest)) ∧
      Blank after ∧ Blank before ∧ Tree.language tree octets := by
  obtain ⟨u, middle, hcolon, h⟩ := exists_of_bind h
  obtain ⟨before, octets, tree, hoctets, hbefore, htree⟩ := hsound.inside _ middle a c' h
  obtain ⟨after, b, rest, behind, hafter, hblank, hrest, hcolon⟩ :=
    exists_of_ahead hcolon fun _ => failingAhead_ne_ok
  simp only at hcolon
  split at hcolon
  · rename_i hb
    obtain rfl := of_advance hcolon
    rw [rest_skip hrest] at hoctets
    exact ⟨after, before, octets, tree, by rw [hafter, hrest, hb, hoctets], hblank, hbefore,
      htree⟩
  · exact absurd hcolon failingAhead_ne_ok

theorem exists_of_closeList {u : Unit} (h : closeList c = .ok (u, c')) :
    ∃ before, c.rest = before ++ 0x5D :: c'.rest ∧ Blank before := by
  obtain ⟨before, b, rest, middle, hbefore, hblank, hrest, h⟩ :=
    exists_of_ahead h fun _ => failingAhead_ne_ok
  simp only at h
  split at h
  · rename_i hb
    obtain rfl := of_advance h
    exact ⟨before, by rw [hbefore, rest_skip hrest, hrest, hb], hblank⟩
  split at h
  · -- behind a comma there is a fault, whatever stands there
    obtain ⟨u, behind, -, h⟩ := exists_of_bind h
    obtain ⟨u', behind', -, h⟩ := exists_of_bind h
    obtain ⟨d?, behind'', -, h⟩ := exists_of_bind h
    split at h <;> exact absurd h failingAhead_ne_ok
  · exact absurd h failingAhead_ne_ok

theorem rest_of_closeList {rest : Bytes} {u : Unit} (hrest : c.rest = 0x5D :: rest)
    (h : closeList c = .ok (u, c')) : c'.rest = rest := by
  obtain ⟨offset, octets⟩ := c
  subst hrest
  obtain ⟨-, rfl⟩ := Prod.mk.inj (Except.ok.inj h)
  rfl

theorem rest_of_closeObject {rest : Bytes} {u : Unit} (hrest : c.rest = 0x7D :: rest)
    (h : closeObject c = .ok (u, c')) : c'.rest = rest := by
  obtain ⟨offset, octets⟩ := c
  subst hrest
  obtain ⟨-, rfl⟩ := Prod.mk.inj (Except.ok.inj h)
  rfl

end Looks

/-! ## Loops -/

section Loops

variable {reader : Reader α} {c c' : Cursor}

/-- The items of a list are read up to its bracket. -/
theorem exists_of_itemsFrom (hsound : Sound reader) {rounds position : Nat} {read values : List α}
    (h : itemsFrom reader rounds position read c = .ok (values, c')) :
    ∃ trees inner rest, c.rest = inner ++ 0x5D :: rest ∧ c'.rest = 0x5D :: rest ∧
      Remaining (position == 0) (itemLanguages trees) inner := by
  induction rounds generalizing position read c with
  | zero => exact absurd h failing_ne_ok
  | succ rounds ih =>
      obtain ⟨more, middle, hmore, h⟩ := exists_of_bind h
      obtain ⟨lead, hlead, hwhich⟩ := exists_of_moreItems hmore
      cases more with
      | false =>
          obtain ⟨-, rfl⟩ := of_pure h
          obtain ⟨hblank, rest, hrest⟩ := hwhich
          refine ⟨[], lead, rest, by rw [hlead, hrest], hrest, ?_⟩
          cases (position == 0) <;> exact hblank
      | true =>
          obtain ⟨value, behind, hvalue, h⟩ := exists_of_bind h
          obtain ⟨before, octets, tree, hoctets, hbefore, htree⟩ :=
            hsound.inside _ middle value behind hvalue
          obtain ⟨trees, inner, rest, hinner, hrest, hothers⟩ := ih h
          refine ⟨tree :: trees, lead ++ (before ++ (octets ++ inner)), rest, ?_, hrest,
            Leads.remaining hwhich hbefore htree hothers⟩
          rw [hlead, hoctets, hinner]
          simp

/-- Between two cursors stand members, or what is left of them, up to the bracket. -/
def PassesMembers (first : Bool) (c c' : Cursor) : Prop :=
  ∃ members inner rest, c.rest = inner ++ 0x7D :: rest ∧ c'.rest = 0x7D :: rest ∧
    Remaining first (memberLanguages members) inner

theorem passesMembers_of_blank {first : Bool} {before rest : Bytes}
    (hbefore : c.rest = before ++ c'.rest) (hblank : Blank before)
    (hrest : c'.rest = 0x7D :: rest) : PassesMembers first c c' := by
  refine ⟨[], before, rest, by rw [hbefore, hrest], hrest, ?_⟩
  cases first <;> exact hblank

/-- A member whose value is read stands in front of the others. -/
theorem PassesMembers.cons {first : Bool} {lead : Bytes} {q : Quotation} {name : String} {a : α}
    {middle behind : Cursor} (hothers : PassesMembers false behind c')
    (hlead : c.rest = lead ++ (q.octets ++ middle.rest)) (hleads : Leads first lead)
    (hsound : Sound reader) (hvalue : memberValue name reader middle = .ok (a, behind)) :
    PassesMembers first c c' := by
  obtain ⟨after, before, octets, tree, hoctets, hafter, hbefore, htree⟩ :=
    hsound.memberValue hvalue
  obtain ⟨members, inner, rest, hinner, hrest, hothers⟩ := hothers
  refine ⟨(q, tree) :: members, _, rest, ?_, hrest,
    hleads.member q Blank.nil hafter hbefore htree hothers⟩
  rw [hlead, hoctets, hinner]
  simp

/-- The members of an object are read up to its bracket. -/
theorem passesMembers_of_membersFrom (hsound : Sound reader) {rounds : Nat} {first : Bool}
    {read values : List (String × α)}
    (h : membersFrom reader rounds first read c = .ok (values, c')) :
    PassesMembers first c c' := by
  induction rounds generalizing first read c with
  | zero => exact absurd h failing_ne_ok
  | succ rounds ih =>
      obtain ⟨name?, middle, hname, h⟩ := exists_of_bind h
      have hwhich := exists_of_memberName? hname
      cases name? with
      | none =>
          obtain ⟨-, rfl⟩ := of_pure h
          obtain ⟨before, rest, hbefore, hblank, hrest⟩ := hwhich
          exact passesMembers_of_blank hbefore hblank hrest
      | some name =>
          obtain ⟨lead, q, hlead, hleads⟩ := hwhich
          obtain ⟨value, behind, hvalue, h⟩ := exists_of_bind h
          exact (ih h).cons hlead hleads hsound hvalue

end Loops

/-- What stands in brackets is a list. -/
theorem exists_list {c c' : Cursor} {more inner : Bytes} {trees : List Tree}
    (hrest : c.rest = 0x5B :: more) (hmore : more = inner ++ 0x5D :: c'.rest)
    (hrow : row (itemLanguages trees) inner) :
    ∃ octets tree, c.rest = octets ++ c'.rest ∧ Tree.language tree octets :=
  ⟨0x5B :: (inner ++ [0x5D]), .list trees, by rw [hrest, hmore]; simp, inner, rfl, hrow⟩

/-- What stands in braces is an object. -/
theorem exists_object {c c' : Cursor} {more inner : Bytes} {members : List (Quotation × Tree)}
    (hrest : c.rest = 0x7B :: more) (hmore : more = inner ++ 0x7D :: c'.rest)
    (hrow : row (memberLanguages members) inner) :
    ∃ octets tree, c.rest = octets ++ c'.rest ∧ Tree.language tree octets :=
  ⟨0x7B :: (inner ++ [0x7D]), .object members, by rw [hrest, hmore]; simp, inner, rfl, hrow⟩

theorem sound_value (depth : Nat) : Sound (Reader.value depth) := by
  induction depth with
  | zero =>
      refine sound_of_firstOctet fun b more c a c' hrest h => ?_
      split at h
      · exact absurd h failingAhead_ne_ok
      · exact exists_of_simple hrest h
  | succ depth ih =>
      refine sound_of_firstOctet fun b more c a c' hrest h => ?_
      split at h
      · rename_i hb
        obtain ⟨u, middle, hadvance, h⟩ := exists_of_bind h
        obtain rfl := of_advance hadvance
        obtain ⟨values, behind, hitems, h⟩ := exists_of_bind h
        obtain ⟨trees, inner, rest, hinner, hbehind, hrow⟩ := exists_of_itemsFrom ih hitems
        obtain ⟨u', last, hclose, h⟩ := exists_of_bind h
        obtain ⟨-, rfl⟩ := of_pure h
        rw [rest_skip hrest, ← rest_of_closeList hbehind hclose] at hinner
        exact exists_list (hb ▸ hrest) hinner hrow
      split at h
      · rename_i hb
        obtain ⟨u, middle, hadvance, h⟩ := exists_of_bind h
        obtain rfl := of_advance hadvance
        obtain ⟨pairs, behind, hmembers, h⟩ := exists_of_bind h
        obtain ⟨members, inner, rest, hinner, hbehind, hrow⟩ :=
          passesMembers_of_membersFrom ih hmembers
        obtain ⟨u', last, hclose, h⟩ := exists_of_bind h
        obtain ⟨-, rfl⟩ := of_pure h
        rw [rest_skip hrest, ← rest_of_closeObject hbehind hclose] at hinner
        exact exists_object (hb ▸ hrest) hinner hrow
      · exact exists_of_simple hrest h

end Json
end OutboxRelay
