import OutboxRelay.Proofs.Text.Percent
import OutboxRelay.Url.Basic

/-!
# Segments behind a path

A text that is added to a path becomes a segment that stands for the text, unless it is a name
for a place or has characters that are dropped.  Such a text adds no segment, or one that stands
for something else, and it may take the segment before away.

**Method.**  A text adds one segment at most.  So a path that has grown by as many segments as
there were texts has kept all that was there.

**Results.**
* `standsFor_addedSegment_iff`: just a plain text adds a segment that stands for it.
* `addresses_iff`: a path has a segment for each text just when all of them are plain.
-/

namespace OutboxRelay
namespace Url

/-- Whether a text is no name for a place, and none of its characters is dropped. -/
def IsPlain (text : String) : Prop :=
  text ≠ "." ∧ text ≠ ".." ∧ ∀ c ∈ text.toList, isDropped c = false

instance (text : String) : Decidable (IsPlain text) :=
  have : Decidable (∀ c ∈ text.toList, isDropped c = false) := List.decidableBAll _ text.toList
  inferInstanceAs (Decidable (_ ∧ _ ∧ ∀ c ∈ text.toList, isDropped c = false))

/-! ## Names for places -/

section Dots

variable {segment : String}

theorem toNat_toLower (c : Char) :
    c.toLower = c ∨ (65 ≤ c.toNat ∧ c.toLower.toNat = c.toNat + 32) := by
  unfold Char.toLower
  split
  · rename_i range
    have least : 65 ≤ c.val.toNat := UInt32.le_iff_toNat_le.mp range.1
    have most : c.val.toNat ≤ 90 := UInt32.le_iff_toNat_le.mp range.2
    refine .inr ⟨least, ?_⟩
    change (c.val + 32).toNat = c.val.toNat + 32
    rw [UInt32.toNat_add]
    change (c.val.toNat + 32) % 2 ^ 32 = _
    omega
  · exact .inl rfl

/-- A character that is no letter in lower case comes from itself only. -/
theorem eq_of_toLower {c d : Char} (h : c.toLower = d) (bound : d.toNat < 97) : c = d := by
  rcases toNat_toLower c with same | ⟨least, raised⟩
  · exact same.symm.trans h
  · rw [h] at raised
    omega

theorem eq_or_eq_of_toLower {c : Char} (h : c.toLower = 'e') : c = 'e' ∨ c = 'E' := by
  rcases toNat_toLower c with same | ⟨-, raised⟩
  · exact .inl (same.symm.trans h)
  · rw [h] at raised
    change 101 = c.toNat + 32 at raised
    exact .inr (Char.toNat_inj.mp (by change c.toNat = 69; omega))

/-- The ways to write a dot. -/
def dots : List (List Char) :=
  [['.'], ['%', '2', 'e'], ['%', '2', 'E']]

/-- The ways to write a dot in lower case. -/
def lowerDots : List (List Char) :=
  [['.'], ['%', '2', 'e']]

/-- Characters that are a dot in lower case, and others behind them. -/
theorem exists_dot {chars more : List Char} {dot : List Char} (among : dot ∈ lowerDots)
    (h : chars.map Char.toLower = dot ++ more) :
    ∃ first ∈ dots, ∃ rest, chars = first ++ rest ∧ rest.map Char.toLower = more := by
  obtain ⟨first, rest, rfl, first_eq, rest_eq⟩ := List.map_eq_append_iff.mp h
  refine ⟨first, ?_, rest, rfl, rest_eq⟩
  rcases List.mem_pair.mp among with rfl | rfl
  · obtain ⟨c, rfl, lower⟩ := List.map_eq_singleton_iff.mp first_eq
    simp [dots, eq_of_toLower lower (by decide)]
  · obtain ⟨a, first, rfl, a_lower, first_eq⟩ := List.map_eq_cons_iff.mp first_eq
    obtain ⟨b, first, rfl, b_lower, first_eq⟩ := List.map_eq_cons_iff.mp first_eq
    obtain ⟨c, rfl, c_lower⟩ := List.map_eq_singleton_iff.mp first_eq
    have a_eq := eq_of_toLower a_lower (by decide)
    have b_eq := eq_of_toLower b_lower (by decide)
    rcases eq_or_eq_of_toLower c_lower with c_eq | c_eq <;> simp [dots, a_eq, b_eq, c_eq]

/-- However a dot is written, it is read as a dot. -/
theorem decode_dot {dot : List Char} (among : dot ∈ dots) (rest : Bytes) :
    Percent.decode (dot.flatMap String.utf8EncodeChar ++ rest) = 0x2e :: Percent.decode rest := by
  have cases : dot = ['.'] ∨ dot = ['%', '2', 'e'] ∨ dot = ['%', '2', 'E'] := by
    simpa [dots] using among
  rcases cases with rfl | rfl | rfl
  · exact Percent.decode_cons (by decide) rest
  · change Percent.decode (0x25 :: 0x32 :: 0x65 :: rest) = _
    rw [Percent.decode]
    rfl
  · change Percent.decode (0x25 :: 0x32 :: 0x45 :: rest) = _
    rw [Percent.decode]
    rfl

/-- Characters that are dots in lower case are read as that many dots. -/
theorem decode_dots {row : List (List Char)} (among : ∀ dot ∈ row, dot ∈ lowerDots)
    {chars : List Char} (h : chars.map Char.toLower = row.flatten) :
    Percent.decode (chars.flatMap String.utf8EncodeChar) = List.replicate row.length 0x2e := by
  induction row generalizing chars with
  | nil =>
      obtain rfl := List.map_eq_nil_iff.mp h
      rw [List.flatMap_nil, Percent.decode]
      rfl
  | cons dot row ih =>
      obtain ⟨first, written, rest, rfl, rest_eq⟩ := exists_dot (among dot (by simp)) h
      rw [List.flatMap_append, decode_dot written,
        ih (fun other within => among other (by simp [within])) rest_eq]
      rfl

theorem decode?_dots (row : List (List Char)) (among : ∀ dot ∈ row, dot ∈ lowerDots)
    (lower : segment.toLower = String.ofList row.flatten) :
    Percent.decode? segment = Utf8.decode? (List.replicate row.length 0x2e) := by
  have chars_eq : segment.toList.map Char.toLower = row.flatten := by
    rw [← String.toList_ofList (l := row.flatten), ← lower]
    exact (String.toList_map (f := Char.toLower) (s := segment)).symm
  rw [Percent.decode?, ← String.ofList_toList (s := segment), Utf8.encode_ofList,
    decode_dots among chars_eq]

/-- A name for the place where it is stands for a dot. -/
theorem decode?_of_isSingleDot (h : isSingleDot segment = true) :
    Percent.decode? segment = some "." := by
  have one : Utf8.decode? [0x2e] = some "." := by decide +kernel
  simp only [isSingleDot, Bool.or_eq_true, decide_eq_true_eq] at h
  rcases h with h | h
  · exact (decode?_dots [['.']] (by decide) h).trans one
  · exact (decode?_dots [['%', '2', 'e']] (by decide) h).trans one

/-- A name for the place one level up stands for two dots. -/
theorem decode?_of_isDoubleDot (h : isDoubleDot segment = true) :
    Percent.decode? segment = some ".." := by
  have two : Utf8.decode? [0x2e, 0x2e] = some ".." := by decide +kernel
  simp only [isDoubleDot, List.contains_iff_mem, List.mem_cons, List.not_mem_nil, or_false] at h
  rcases h with h | h | h | h
  · exact (decode?_dots [['.'], ['.']] (by decide) h).trans two
  · exact (decode?_dots [['.'], ['%', '2', 'e']] (by decide) h).trans two
  · exact (decode?_dots [['%', '2', 'e'], ['.']] (by decide) h).trans two
  · exact (decode?_dots [['%', '2', 'e'], ['%', '2', 'e']] (by decide) h).trans two

end Dots

/-! ## One text -/

section Texts

variable (scheme : String) {text : String}

/-- An encoded segment stands for the characters that are kept. -/
theorem decode?_encodedSegment (text : String) :
    Percent.decode? (encodedSegment scheme text) = some (String.ofList (kept text.toList)) := by
  unfold encodedSegment
  split
  · exact Percent.decode?_ofList_encode Percent.reversible_specialSegment _
  · exact Percent.decode?_ofList_encode Percent.reversible_segment _

/-- What a text adds to a path, if it adds anything: a name for a place adds nothing of its own. -/
def addedSegment (scheme text : String) : String :=
  let segment := encodedSegment scheme text
  if isDoubleDot segment || isSingleDot segment then "" else segment

theorem kept_of_isPlain (plain : IsPlain text) : kept text.toList = text.toList :=
  List.filter_eq_self.mpr fun c among => by simp [plain.2.2 c among]

/-- A plain text is read back from its encoded form. -/
theorem decode?_of_isPlain (plain : IsPlain text) :
    Percent.decode? (encodedSegment scheme text) = some text := by
  rw [decode?_encodedSegment, kept_of_isPlain plain, String.ofList_toList]

/-- A plain text does not turn into a name for a place. -/
theorem no_dots_of_isPlain (plain : IsPlain text) :
    isDoubleDot (encodedSegment scheme text) = false ∧
      isSingleDot (encodedSegment scheme text) = false := by
  have read := decode?_of_isPlain scheme plain
  constructor
  · refine Bool.eq_false_iff.mpr fun double => plain.2.1 ?_
    exact Option.some.inj (read.symm.trans (decode?_of_isDoubleDot double))
  · refine Bool.eq_false_iff.mpr fun single => plain.1 ?_
    exact Option.some.inj (read.symm.trans (decode?_of_isSingleDot single))

theorem addedSegment_of_isPlain (plain : IsPlain text) :
    addedSegment scheme text = encodedSegment scheme text := by
  simp [addedSegment, no_dots_of_isPlain scheme plain]

theorem encodedSegment_dot : encodedSegment scheme "." = "." := by
  unfold encodedSegment
  split <;> decide +kernel

theorem encodedSegment_dots : encodedSegment scheme ".." = ".." := by
  unfold encodedSegment
  split <;> decide +kernel

/-- Just a plain text is read back from the segment that it adds. -/
theorem decode?_addedSegment_iff (text : String) :
    Percent.decode? (addedSegment scheme text) = some text ↔ IsPlain text := by
  constructor
  · intro read
    unfold addedSegment at read
    dsimp only at read
    split at read
    · have empty : Percent.decode? "" = some "" := by decide +kernel
      obtain rfl : "" = text := Option.some.inj (empty.symm.trans read)
      decide
    · rename_i no_dots
      have same : String.ofList (kept text.toList) = text :=
        Option.some.inj ((decode?_encodedSegment scheme text).symm.trans read)
      have all_kept : kept text.toList = text.toList := by
        rw [← String.toList_ofList (l := kept text.toList), same]
      refine ⟨?_, ?_, fun c among => ?_⟩
      · rintro rfl
        exact no_dots (by rw [encodedSegment_dot]; decide +kernel)
      · rintro rfl
        exact no_dots (by rw [encodedSegment_dots]; decide +kernel)
      · simpa using List.filter_eq_self.mp all_kept c among
  · intro plain
    rw [addedSegment_of_isPlain scheme plain, decode?_of_isPlain scheme plain]

/-- The characters that end a segment in the text of a URL. -/
def separators : List Char :=
  ['/', '?', '#']

theorem separators_addedSegment (text : String) :
    ∀ c ∈ (addedSegment scheme text).toList, c ∉ separators := by
  have all : ∀ c ∈ separators, Percent.segment c = true ∧ Percent.specialSegment c = true ∧
      c ≠ '%' ∧ ∀ n < 16, c ≠ Percent.digit n := by
    simp only [separators, List.forall_mem_cons]
    exact ⟨by decide, by decide, by decide, by simp⟩
  intro c among separates
  obtain ⟨segment_in, special_in, sign, digits⟩ := all c separates
  unfold addedSegment at among
  dsimp only at among
  split at among
  · simp at among
  · unfold encodedSegment at among
    rw [String.toList_ofList] at among
    split at among
    · exact Percent.not_mem_encode special_in sign digits _ among
    · exact Percent.not_mem_encode segment_in sign digits _ among

/-- Whether a segment stands for a text, and is a single segment wherever it is written. -/
def StandsFor (segment text : String) : Prop :=
  Percent.decode? segment = some text ∧ ∀ c ∈ segment.toList, c ∉ separators

/-- Just a plain text adds a segment that stands for it. -/
theorem standsFor_addedSegment_iff (text : String) :
    StandsFor (addedSegment scheme text) text ↔ IsPlain text := by
  rw [StandsFor, and_iff_left (separators_addedSegment scheme text), decode?_addedSegment_iff]

end Texts

/-! ## Steps -/

section Steps

variable {scheme text : String} {segments texts : List String}

theorem length_appendSegment_le (segments : List String) (segment : String) :
    (appendSegment segments segment).length ≤ segments.length + 1 := by
  unfold appendSegment
  split <;> simp

/-- One level up is a segment less, unless there is none or the last one is a drive. -/
theorem shorten_cases (segments : List String) :
    shorten segments = segments ∨ (shorten segments).length + 1 ≤ segments.length := by
  unfold shorten
  split
  · exact .inl rfl
  · cases segments with
    | nil => exact .inl rfl
    | cons first rest => exact .inr (by simp)

/-- A text adds one segment at most. -/
theorem length_extendBy_le (scheme : String) (segments : List String) (text : String) :
    (extendBy scheme segments text).length ≤ segments.length + 1 := by
  unfold extendBy
  dsimp only
  split
  · omega
  split
  · simp only [List.length_append, List.length_singleton]
    rcases shorten_cases segments with same | shorter
    · rw [same]
    · omega
  split <;> exact length_appendSegment_le _ _

theorem length_foldl_extendBy_le (scheme : String) (segments texts : List String) :
    (texts.foldl (extendBy scheme) segments).length ≤ segments.length + texts.length := by
  induction texts generalizing segments with
  | nil => simp
  | cons text texts ih =>
      have once := length_extendBy_le scheme segments text
      have others := ih (extendBy scheme segments text)
      simp only [List.foldl_cons, List.length_cons]
      omega

theorem extendBy_of_isPlain (plain : IsPlain text) :
    extendBy scheme segments text = appendSegment segments (encodedSegment scheme text) := by
  obtain ⟨double, single⟩ := no_dots_of_isPlain scheme plain
  simp [extendBy, plain.1, plain.2.1, double, single]

/-- A text adds its segment, or none at all. -/
theorem extendBy_cases (scheme text : String) (proper : segments ≠ [""]) :
    extendBy scheme segments text = segments ++ [addedSegment scheme text] ∨
      (extendBy scheme segments text).length ≤ segments.length ∧ ¬IsPlain text := by
  by_cases plain : IsPlain text
  · left
    rw [extendBy_of_isPlain plain, addedSegment_of_isPlain scheme plain]
    simp [appendSegment, proper]
  · unfold extendBy addedSegment
    dsimp only
    split
    · exact .inr ⟨le_refl _, plain⟩
    cases double : isDoubleDot (encodedSegment scheme text) with
    | true =>
        -- A drive is not left, nor is the root.
        rcases shorten_cases segments with kept_eq | shorter
        · exact .inl (by simp [kept_eq])
        · exact .inr ⟨by simpa using shorter, plain⟩
    | false =>
        left
        cases single : isSingleDot (encodedSegment scheme text) <;> simp [appendSegment, proper]

/-- Texts add their segments, or fewer. -/
theorem foldl_extendBy_cases (scheme : String) (nonempty : segments ≠ [])
    (proper : segments ≠ [""]) (texts : List String) :
    texts.foldl (extendBy scheme) segments = segments ++ texts.map (addedSegment scheme) ∨
      (texts.foldl (extendBy scheme) segments).length < segments.length + texts.length ∧
        ∃ text ∈ texts, ¬IsPlain text := by
  induction texts generalizing segments with
  | nil => exact .inl (by simp)
  | cons text texts ih =>
      rw [List.foldl_cons]
      rcases extendBy_cases scheme text proper with added | ⟨shorter, strange⟩
      · have longer : segments ++ [addedSegment scheme text] ≠ [""] := by
          simpa [List.append_eq_singleton_iff] using fun empty => absurd empty nonempty
        rw [added]
        rcases ih (by simp) longer with all | ⟨fewer, other, among, strange⟩
        · exact .inl (by simp [all])
        · refine .inr ⟨?_, other, List.mem_cons_of_mem _ among, strange⟩
          simp only [List.length_append, List.length_cons, List.length_nil] at fewer ⊢
          omega
      · have others := length_foldl_extendBy_le scheme (extendBy scheme segments text) texts
        refine .inr ⟨?_, text, List.mem_cons_self .., strange⟩
        simp only [List.length_cons]
        omega

end Steps

/-! ## Paths -/

section Paths

variable {scheme first : String} {segments rest : List String}

/-- The segments of a path, less an empty one at the end. -/
def lessEmptyEnd (segments : List String) : List String :=
  if segments.getLast? = some "" then segments.dropLast else segments

/-- Whether a path has a segment for each text behind others, and no more than these. -/
def Addresses (segments texts path : List String) : Prop :=
  ∃ more, path = lessEmptyEnd segments ++ more ∧ List.Forall₂ StandsFor more texts

theorem Addresses.length_eq {texts path : List String} (h : Addresses segments texts path) :
    path.length = (lessEmptyEnd segments).length + texts.length := by
  obtain ⟨more, rfl, read⟩ := h
  rw [List.length_append, read.length_eq]

theorem forall₂_addedSegment_iff (scheme : String) (texts : List String) :
    List.Forall₂ StandsFor (texts.map (addedSegment scheme)) texts ↔
      ∀ text ∈ texts, IsPlain text := by
  simp only [List.forall₂_map_left_iff, List.forall₂_same, standsFor_addedSegment_iff]

/-- Plain texts are told by the segments that they add. -/
theorem eq_of_map_addedSegment_eq (scheme : String) {texts others : List String}
    (plain : ∀ text ∈ texts, IsPlain text) (others_plain : ∀ text ∈ others, IsPlain text)
    (same : texts.map (addedSegment scheme) = others.map (addedSegment scheme)) :
    texts = others := by
  have read {texts : List String} (plain : ∀ text ∈ texts, IsPlain text) :
      (texts.map (addedSegment scheme)).map Percent.decode? = texts.map some := by
    rw [List.map_map]
    exact List.map_congr_left fun text among =>
      (decode?_addedSegment_iff scheme text).mpr (plain text among)
  have texts_eq := congrArg (List.map Percent.decode?) same
  rw [read plain, read others_plain] at texts_eq
  exact List.map_injective_iff.mpr (Option.some_injective _) texts_eq

/-- The segments that stay in front of a text; it takes the place of two empty ones. -/
def front (segments : List String) : List String :=
  if segments = ["", ""] then [] else lessEmptyEnd segments

theorem extendBy_withoutEmptyEnd (scheme : String) (segments : List String)
    (plain : IsPlain first) :
    extendBy scheme (withoutEmptyEnd segments) first =
      front segments ++ [addedSegment scheme first] := by
  rw [extendBy_of_isPlain plain, addedSegment_of_isPlain scheme plain]
  by_cases ends : segments.getLast? = some ""
  · obtain ⟨others, rfl⟩ := List.getLast?_eq_some_iff.mp ends
    have less_eq : lessEmptyEnd (others ++ [""]) = others := by simp [lessEmptyEnd]
    have alone_iff : others ++ [""] = ["", ""] ↔ others = [""] := by
      rw [show ["", ""] = [""] ++ [""] from rfl, List.append_left_inj]
    rw [front, less_eq]
    cases others with
    | nil => rfl
    | cons top others =>
        have stays : withoutEmptyEnd (top :: others ++ [""]) = top :: others := by
          unfold withoutEmptyEnd
          rw [if_pos ⟨by simp, ends⟩, List.dropLast_concat]
        simp only [stays, appendSegment, alone_iff]
  · have other : segments ≠ ["", ""] := by
      rintro rfl
      exact ends rfl
    have more : segments ≠ [""] := by
      rintro rfl
      exact ends rfl
    simp [front, withoutEmptyEnd, lessEmptyEnd, appendSegment, ends, other, more]

theorem addedSegment_ne_empty (scheme : String) (plain : IsPlain first) (named : first ≠ "") :
    addedSegment scheme first ≠ "" := by
  intro empty
  have read := (decode?_addedSegment_iff scheme first).mpr plain
  have none : Percent.decode? "" = some "" := by decide +kernel
  rw [empty, none] at read
  exact named (Option.some.inj read).symm

/-- Behind a plain text that is not empty, texts add their segments, or fewer. -/
theorem foldl_withoutEmptyEnd_cases (scheme : String) (segments : List String)
    (plain : IsPlain first) (named : first ≠ "") (rest : List String) :
    (first :: rest).foldl (extendBy scheme) (withoutEmptyEnd segments) =
        front segments ++ (first :: rest).map (addedSegment scheme) ∨
      ((first :: rest).foldl (extendBy scheme) (withoutEmptyEnd segments)).length <
          (front segments).length + (first :: rest).length ∧
        ∃ text ∈ rest, ¬IsPlain text := by
  have proper : front segments ++ [addedSegment scheme first] ≠ [""] := by
    simp [List.append_eq_singleton_iff, addedSegment_ne_empty scheme plain named]
  rw [List.foldl_cons, extendBy_withoutEmptyEnd scheme segments plain]
  rcases foldl_extendBy_cases scheme (by simp) proper rest with all | ⟨fewer, strange⟩
  · exact .inl (by rw [all, List.append_assoc]; rfl)
  · refine .inr ⟨?_, strange⟩
    simp only [List.length_append, List.length_cons, List.length_nil] at fewer ⊢
    omega

/-- Plain texts add a segment each. -/
theorem foldl_withoutEmptyEnd (scheme : String) (segments : List String) (named : first ≠ "")
    (plain : ∀ text ∈ first :: rest, IsPlain text) :
    (first :: rest).foldl (extendBy scheme) (withoutEmptyEnd segments) =
      front segments ++ (first :: rest).map (addedSegment scheme) := by
  rw [List.forall_mem_cons] at plain
  rcases foldl_withoutEmptyEnd_cases scheme segments plain.1 named rest with
    all | ⟨-, text, among, strange⟩
  · exact all
  · exact absurd (plain.2 text among) strange

/--
A path that is extended by texts has a segment for each just when all of them are plain, and no
empty segment stands alone in front of them.
-/
theorem addresses_iff (scheme : String) (segments : List String) (plain : IsPlain first)
    (named : first ≠ "") (rest : List String) :
    Addresses segments (first :: rest)
        ((first :: rest).foldl (extendBy scheme) (withoutEmptyEnd segments)) ↔
      segments ≠ ["", ""] ∧ ∀ text ∈ first :: rest, IsPlain text := by
  have added := foldl_withoutEmptyEnd_cases scheme segments plain named rest
  constructor
  · -- A path that is long enough has kept the segments in front, and has all that are added.
    intro addresses
    have long := addresses.length_eq
    obtain ⟨more, path_eq, read⟩ := addresses
    have whole : segments ≠ ["", ""] := by
      rintro rfl
      have sizes : (front ["", ""]).length = 0 ∧ (lessEmptyEnd ["", ""]).length = 1 :=
        ⟨rfl, rfl⟩
      rcases added with all | ⟨fewer, -⟩
      · rw [all, List.length_append, List.length_map] at long
        omega
      · omega
    rw [front, if_neg whole] at added
    refine ⟨whole, (forall₂_addedSegment_iff scheme _).mp ?_⟩
    rcases added with all | ⟨fewer, -⟩
    · exact List.append_cancel_left (all.symm.trans path_eq) ▸ read
    · omega
  · rintro ⟨whole, all_plain⟩
    refine ⟨_, ?_, (forall₂_addedSegment_iff scheme _).mpr all_plain⟩
    rw [foldl_withoutEmptyEnd scheme segments named all_plain, front, if_neg whole]

end Paths

end Url
end OutboxRelay
