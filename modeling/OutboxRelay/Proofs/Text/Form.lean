import OutboxRelay.Proofs.Text.Percent
import OutboxRelay.Url.Basic

/-!
# Reading forms

A query is a form: pieces with ampersands between them, each a name and a value with a sign of
equality between them.

**Rules.**
* An empty piece counts for nothing, and a piece without a sign of equality has an empty value.
* A plus sign is a blank, and octets may be percent-encoded.  What is no text then is replaced.

**Results.**
* `formText_encodeForm`: a text that was encoded for a form is read back.
* `pairs_withPair`: a pair that is added to a query is read behind all others.
-/

namespace OutboxRelay
namespace Percent

/-! ## What forms tell -/

/-- A character of a form, in which blanks have a sign of their own. -/
def blanked (c : Char) : Char :=
  if c = '+' then ' ' else c

/-- The text of a name or a value in a form. -/
def formText (chars : List Char) : String :=
  Utf8.decodeLossy (decode (Utf8.encode (String.ofList (chars.map blanked))))

/-- The name and the value of a piece. -/
def formPair (piece : List Char) : String × String :=
  (formText (piece.takeWhile (· ≠ '=')), formText ((piece.dropWhile (· ≠ '=')).drop 1))

/-- The pairs that a form tells, in order. -/
def formPairs (form : String) : List (String × String) :=
  ((form.toList.splitOn '&').filter (· ≠ [])).map formPair

/-! ## Texts -/

/-- The characters that stand for themselves in a form are letters, digits and four signs. -/
theorem reversible_form : Part.Reversible form where
  percent := by decide
  ascii {c} plain := by
    have small {last : Char} (within : c.val ≤ last.val) (low : last.toNat < 0x80) :
        c.toNat < 0x80 :=
      (UInt32.le_iff_toNat_le.mp within).trans_lt low
    have shown : (c.isUpper || c.isLower || c.isDigit || among "*-._" c) = true :=
      (Bool.not_eq_false' _).mp plain
    simp only [Bool.or_eq_true] at shown
    rcases shown with ((upper | lower) | digit) | sign
    · exact small (of_decide_eq_true upper).2 (by decide)
    · exact small (of_decide_eq_true (Bool.and_eq_true_iff.mp lower).2) (by decide)
    · exact small (of_decide_eq_true (Bool.and_eq_true_iff.mp digit).2) (by decide)
    · have listed : c ∈ ['*', '-', '.', '_'] := List.elem_iff.mp sign
      have below : ∀ sign ∈ ['*', '-', '.', '_'], sign.toNat < 0x80 := by simp
      exact below c listed

/-- A sign that is encoded in a form does not stand in what was encoded. -/
theorem not_mem_encodeFormChar {d : Char} (encoded : form d = true) (sign : d ≠ '%')
    (plus : d ≠ '+') (digits : ∀ n < 16, d ≠ digit n) (c : Char) : d ∉ encodeFormChar c := by
  unfold encodeFormChar
  split
  · simpa using plus
  · have apart := not_mem_encode encoded sign digits [c]
    simpa [encode] using apart

/-- An encoded character stands for its own octets. -/
theorem decode_encodeFormChar (c : Char) (rest : Bytes) :
    decode (((encodeFormChar c).map blanked).flatMap String.utf8EncodeChar ++ rest) =
      String.utf8EncodeChar c ++ decode rest := by
  by_cases blank : c = ' '
  · subst blank
    exact decode_cons (by decide) rest
  · have apart : '+' ∉ encodeChar form c := by
      simpa [encode] using not_mem_encode (d := '+') (by decide) (by decide) (by decide) [c]
    have kept : (encodeChar form c).map blanked = encodeChar form c := by
      refine (List.map_congr_left fun d among => if_neg ?_).trans (List.map_id _)
      rintro rfl
      exact apart among
    rw [encodeFormChar, if_neg blank, kept]
    exact decode_encodeChar reversible_form c rest

/-- A text that was encoded for a form is read back. -/
theorem formText_encodeForm (text : String) : formText (encodeForm text).toList = text := by
  have octets (characters : List Char) :
      decode (((characters.flatMap encodeFormChar).map blanked).flatMap String.utf8EncodeChar) =
        characters.flatMap String.utf8EncodeChar := by
    induction characters with
    | nil => simp [decode]
    | cons c characters ih =>
        simp only [List.flatMap_cons, List.map_append, List.flatMap_append]
        rw [decode_encodeFormChar, ih]
  rw [formText, encodeForm, String.toList_ofList, Utf8.encode_ofList, octets]
  exact Utf8.decodeLossy_encode text

/-! ## Pairs -/

/-- The characters of a pair that is written. -/
def writtenPair (name value : String) : List Char :=
  (encodeForm name).toList ++ '=' :: (encodeForm value).toList

theorem not_mem_encodeForm {d : Char} (encoded : form d = true) (sign : d ≠ '%')
    (plus : d ≠ '+') (digits : ∀ n < 16, d ≠ digit n) (text : String) :
    d ∉ (encodeForm text).toList := by
  rw [encodeForm, String.toList_ofList]
  intro among
  obtain ⟨c, -, inside⟩ := List.mem_flatMap.mp among
  exact not_mem_encodeFormChar encoded sign plus digits c inside

theorem formPair_writtenPair (name value : String) :
    formPair (writtenPair name value) = (name, value) := by
  have plain : ∀ c ∈ (encodeForm name).toList, decide (c ≠ '=') = true := by
    intro c among
    refine decide_eq_true ?_
    rintro rfl
    exact not_mem_encodeForm (by decide) (by decide) (by decide) (by decide) name among
  rw [formPair, writtenPair, List.takeWhile_append_of_pos plain, List.dropWhile_append_of_pos plain]
  simp [formText_encodeForm]

theorem formPairs_append (form more : String) :
    formPairs (form ++ "&" ++ more) = formPairs form ++ formPairs more := by
  have chars_eq : (form ++ "&" ++ more).toList = form.toList ++ '&' :: more.toList := by simp
  rw [formPairs, chars_eq, List.splitOn_append_cons_self, List.filter_append, List.map_append]
  rfl

/-- A pair that is written alone is read alone. -/
theorem formPairs_writtenPair (name value : String) :
    formPairs (encodeForm name ++ "=" ++ encodeForm value) = [(name, value)] := by
  have chars_eq : (encodeForm name ++ "=" ++ encodeForm value).toList =
      writtenPair name value := by simp [writtenPair]
  have whole : '&' ∉ writtenPair name value := by
    have apart := not_mem_encodeForm (d := '&') (by decide) (by decide) (by decide) (by decide)
    simp [writtenPair, apart]
  have nonempty : writtenPair name value ≠ [] := by simp [writtenPair]
  rw [formPairs, chars_eq, List.splitOn_eq_singleton whole,
    List.filter_cons_of_pos (by simpa using nonempty)]
  exact congrArg (fun pair => [pair]) (formPair_writtenPair name value)

end Percent

namespace Url

/-- The pairs that the query of a URL tells. -/
def pairs (url : Url) : List (String × String) :=
  Percent.formPairs (url.query.getD "")

/-- A pair that is added to a query is read behind all others. -/
theorem pairs_withPair (url : Url) (name value : String) :
    (url.withPair name value).pairs = url.pairs ++ [(name, value)] := by
  have alone := Percent.formPairs_writtenPair name value
  unfold withPair pairs
  dsimp only
  split
  · rename_i no_query
    rw [no_query]
    exact alone
  · rename_i empty_query
    rw [empty_query]
    exact alone
  · rename_i query _ some_query
    rw [some_query]
    exact (Percent.formPairs_append query _).trans (congrArg (_ ++ ·) alone)

end Url

end OutboxRelay
