import OutboxRelay.Proofs.Json.Print
import OutboxRelay.Proofs.Number.Shortest

/-!
# Printing floating numbers

The printed form of a floating number that was read is a number as it may be written.

**Method.** A decimal is laid out in one of four ways, and in each of them its digits are
cut into the whole part and the fraction.  No zero stands in front of other digits, since
the search for the decimal ends with digits wherever zeros would be put behind them.
-/

namespace OutboxRelay
namespace Json

open Number (Binary64 Decimal Layout Magnitude)

/-! ## Digits -/

/-- A row of digits from characters. -/
def Digits.ofCharacters (characters : List Char) (h : ∀ c ∈ characters, c.isDigit = true)
    (nonempty : characters ≠ []) : Digits where
  octets := characters.flatMap String.utf8EncodeChar
  digits := isDigit_of_mem_characters h
  nonempty := by
    obtain ⟨c, others, rfl⟩ := List.exists_cons_of_ne_nil nonempty
    obtain ⟨b, hencode, -⟩ := exists_digitOctet (h c (by simp))
    simp [hencode]

/-! ## Layouts -/

/-- An exponent as it is printed. -/
def Exponent.ofInt (power : Int) : Exponent where
  mark := 0x65
  isMark := .inl rfl
  sign := some (if power < 0 then 0x2D else 0x2B)
  isSign := by
    intro sign hsign
    obtain rfl := Option.some.inj hsign
    split <;> simp
  digits := .ofNat power.natAbs

theorem Exponent.octets_ofInt (power : Int) :
    (Exponent.ofInt power).octets =
      Utf8.encode ((if power < 0 then "e-" else "e+") ++ toString power.natAbs) := by
  rw [Utf8.encode_append, show toString power.natAbs = power.natAbs.repr from rfl, encode_repr]
  simp only [octets, ofInt, Digits.ofNat]
  split <;> rfl

namespace Literal

section Layouts

variable (negative : Bool) {characters : List Char}

/-- A number with an exponent has its first digit in front of the point. -/
theorem exists_withExponent (h : ∀ c ∈ characters, c.isDigit = true) (nonempty : characters ≠ [])
    (power : Int) :
    ∃ literal : Literal, literal.negative = negative ∧
      literal.unsignedOctets = Utf8.encode (Decimal.withExponent characters power) := by
  obtain ⟨c, others, rfl⟩ := List.exists_cons_of_ne_nil nonempty
  obtain ⟨hc, hothers⟩ := List.forall_mem_cons.mp h
  obtain ⟨b, hb, -⟩ := exists_digitOctet hc
  let whole : Digits := .ofCharacters [c] (by simpa using hc) (by simp)
  have hwhole : whole.octets = [b] := by simp [whole, Digits.ofCharacters, hb]
  have hfirst : whole.octets.head? = some 0x30 → whole.octets = [0x30] := by
    rw [hwhole]
    simp
  have hencode : Utf8.encode c.toString = [b] := by simp [Char.toString, Utf8.encode, hb]
  cases others with
  | nil =>
      refine ⟨⟨negative, whole, hfirst, none, some (.ofInt power)⟩, rfl, ?_⟩
      simp only [unsignedOctets, fractionOctets, exponentOctets, List.nil_append, hwhole,
        Exponent.octets_ofInt, Decimal.withExponent, Utf8.encode_append, hencode]
  | cons d others =>
      let fraction : Digits := .ofCharacters (d :: others) hothers (by simp)
      refine ⟨⟨negative, whole, hfirst, some fraction, some (.ofInt power)⟩, rfl, ?_⟩
      simp only [unsignedOctets, fractionOctets, exponentOctets, hwhole, fraction,
        Digits.ofCharacters, Exponent.octets_ofInt, Decimal.withExponent, Utf8.encode_append,
        Utf8.encode_ofList, hencode, List.append_assoc]
      rfl

/-- A number without an exponent, of digits in front of the point and digits behind it. -/
theorem exists_withPoint {fraction : List Char} (h : ∀ c ∈ characters, c.isDigit = true)
    (nonempty : characters ≠ []) (hfraction : ∀ c ∈ fraction, c.isDigit = true)
    (hne : fraction ≠ []) (hfirst : characters.head? = some '0' → characters = ['0']) :
    ∃ literal : Literal, literal.negative = negative ∧
      literal.unsignedOctets =
        Utf8.encode (String.ofList characters ++ "." ++ String.ofList fraction) := by
  let whole : Digits := .ofCharacters characters h nonempty
  have hzero : whole.octets.head? = some 0x30 → whole.octets = [0x30] := by
    intro hhead
    obtain ⟨c, others, rfl⟩ := List.exists_cons_of_ne_nil nonempty
    obtain ⟨b, hb, -, hc⟩ := exists_digitOctet (h c (by simp))
    obtain rfl := hc (by simpa [whole, Digits.ofCharacters, hb] using hhead)
    simp only [whole, Digits.ofCharacters, hfirst rfl]
    rfl
  refine ⟨⟨negative, whole, hzero, some (.ofCharacters fraction hfraction hne), none⟩, rfl, ?_⟩
  simp only [unsignedOctets, fractionOctets, exponentOctets, whole, Digits.ofCharacters,
    Utf8.encode_append, Utf8.encode_ofList, List.append_assoc, List.append_nil]
  rfl

theorem isDigit_of_zeros (n : Nat) : ∀ c ∈ List.replicate n '0', c.isDigit = true := by
  intro c hc
  rw [List.eq_of_mem_replicate hc]
  decide

/-- Zeros are put behind the digits, but none behind a zero. -/
theorem exists_padded (h : ∀ c ∈ characters, c.isDigit = true) (nonempty : characters ≠ [])
    (count : Nat) (hfirst : characters.head? = some '0' → characters = ['0'] ∧ count = 0) :
    ∃ literal : Literal, literal.negative = negative ∧
      literal.unsignedOctets =
        Utf8.encode (String.ofList characters ++ Decimal.zeros count ++ ".0") := by
  have hwhole : (characters ++ List.replicate count '0').head? = some '0' →
      characters ++ List.replicate count '0' = ['0'] := by
    intro hhead
    rw [List.head?_append_of_ne_nil _ nonempty] at hhead
    obtain ⟨rfl, rfl⟩ := hfirst hhead
    rfl
  obtain ⟨literal, hnegative, hoctets⟩ := exists_withPoint negative
    (List.forall_mem_append.mpr ⟨h, isDigit_of_zeros count⟩)
    (List.append_ne_nil_of_left_ne_nil nonempty _) (isDigit_of_zeros 1) (by simp) hwhole
  refine ⟨literal, hnegative, hoctets.trans ?_⟩
  simp only [Utf8.encode_append, Utf8.encode_ofList, Decimal.zeros, List.flatMap_append,
    List.append_assoc]
  rfl

/-- The point stands among the digits, and zero has only one. -/
theorem exists_parted (h : ∀ c ∈ characters, c.isDigit = true) {place : Nat} (hpos : 0 < place)
    (hlt : place < characters.length)
    (hfirst : characters.head? = some '0' → characters = ['0']) :
    ∃ literal : Literal, literal.negative = negative ∧
      literal.unsignedOctets = Utf8.encode
        (String.ofList (characters.take place) ++ "." ++
          String.ofList (characters.drop place)) := by
  have hdrop : characters.drop place ≠ [] := by
    rw [Ne, List.drop_eq_nil_iff]
    omega
  have htake : characters.take place ≠ [] := by
    rw [Ne, List.take_eq_nil_iff, ← List.length_eq_zero_iff]
    omega
  refine exists_withPoint negative (fun c hc => h c (List.mem_of_mem_take hc)) htake
    (fun c hc => h c (List.mem_of_mem_drop hc)) hdrop fun hhead => ?_
  rw [List.head?_take, if_neg (by omega)] at hhead
  rw [hfirst hhead, List.length_singleton] at hlt
  omega

/-- Zeros are put in front of the digits. -/
theorem exists_led (h : ∀ c ∈ characters, c.isDigit = true) (nonempty : characters ≠ [])
    (count : Nat) :
    ∃ literal : Literal, literal.negative = negative ∧
      literal.unsignedOctets =
        Utf8.encode ("0." ++ Decimal.zeros count ++ String.ofList characters) := by
  obtain ⟨literal, hnegative, hoctets⟩ := exists_withPoint negative (isDigit_of_zeros 1) (by simp)
    (List.forall_mem_append.mpr ⟨isDigit_of_zeros count, h⟩)
    (List.append_ne_nil_of_right_ne_nil _ nonempty) (fun _ => rfl)
  refine ⟨literal, hnegative, hoctets.trans ?_⟩
  simp only [Utf8.encode_append, Utf8.encode_ofList, Decimal.zeros, List.flatMap_append,
    List.append_assoc]
  rfl

end Layouts

/-- The text of a decimal is a number, unless it is a row of zeros. -/
theorem exists_text (negative : Bool) (layout : Layout) (x : Decimal)
    (h : x.digits = 0 → x.exponent ≤ 0 ∨ layout.placesRight ≤ x.exponent) :
    ∃ literal : Literal, literal.negative = negative ∧
      literal.unsignedOctets = Utf8.encode (x.text layout) := by
  have hcharacters : (toString x.digits).toList = Nat.toDigits 10 x.digits := by
    simp [toString, Nat.repr]
  have hdigits : ∀ c ∈ Nat.toDigits 10 x.digits, c.isDigit = true :=
    fun c hc => isDigit_of_mem_toDigits hc
  have hnonempty : Nat.toDigits 10 x.digits ≠ [] := Nat.toDigits_ne_nil
  -- only the digits of zero start with a zero
  have hfirst (hhead : (Nat.toDigits 10 x.digits).head? = some '0') :
      x.digits = 0 ∧ Nat.toDigits 10 x.digits = ['0'] := by
    have hx : x.digits = 0 := by
      by_contra hx
      exact Number.head?_toDigits_ne hx hhead
    exact ⟨hx, by rw [hx]; rfl⟩
  simp only [Decimal.text, hcharacters]
  generalize Nat.toDigits 10 x.digits = characters at *
  have hlength : 0 < characters.length := List.length_pos_iff.mpr hnonempty
  split
  · refine exists_padded negative hdigits hnonempty _ fun hhead => ⟨(hfirst hhead).2, ?_⟩
    have := h (hfirst hhead).1
    omega
  split
  · exact exists_parted negative hdigits (by omega) (by omega) fun hhead => (hfirst hhead).2
  split
  · exact exists_led negative hdigits hnonempty _
  · exact exists_withExponent negative hdigits hnonempty _

end Literal

/-- A floating number with a short significand is printed as a number. -/
theorem isPrintable_of_isShort {x : Binary64} (h : x.magnitude.IsShort) : IsPrintable x := by
  obtain ⟨literal, hnegative, hoctets⟩ := Literal.exists_text x.negative floatLayout
    x.magnitude.shortest (Magnitude.exponent_shortest h)
  refine ⟨literal, ?_⟩
  rw [Literal.octets, hnegative, hoctets, Binary64.text, Utf8.encode_append]
  cases x.negative <;> rfl

/-! ## Floating numbers that are read -/

/-- Whether a floating number that was read, if it is one, has a short significand. -/
def ReadsShort (result : Except Fault (Numeral × Cursor)) : Prop :=
  ∀ value behind, result = .ok (.float value, behind) → value.magnitude.IsShort

theorem ReadsShort.error (fault : Fault) : ReadsShort (.error fault) := by
  simp [ReadsShort]

section Numbers

variable (negative : Bool) (significand : Nat) (exponent : Int) (c : Cursor)

theorem readsShort_scaled : ReadsShort (scaled negative significand exponent c) := by
  intro value behind h
  simp only [scaled] at h
  split at h
  · rename_i magnitude hmagnitude
    obtain ⟨rfl, -⟩ : ⟨negative, magnitude⟩ = value ∧ c = behind := by simpa using h
    exact Magnitude.isShort_ofDecimal? hmagnitude
  · simp at h

theorem readsShort_zero : ReadsShort (.ok (.float ⟨negative, Magnitude.zero⟩, c)) := by
  intro value behind h
  obtain ⟨rfl, -⟩ : ⟨negative, Magnitude.zero⟩ = value ∧ c = behind := by simpa using h
  exact Magnitude.isShort_zero

theorem readsShort_exponentTail : ReadsShort (exponentTail negative significand exponent c) := by
  simp only [exponentTail]
  -- whatever the sign, the branches end with a fault, a decimal or zero
  repeat' split
  all_goals
    first
    | exact .error _
    | exact readsShort_scaled _ _ _ _
    | exact readsShort_zero _ _

theorem readsShort_fractionTail : ReadsShort (fractionTail negative significand exponent c) := by
  simp only [fractionTail]
  split
  · split <;> exact .error _
  split
  · split
    · exact readsShort_exponentTail _ _ _ _
    · exact readsShort_scaled _ _ _ _
  · exact readsShort_scaled _ _ _ _

theorem readsShort_wholeTail (dropped : Nat) :
    ReadsShort (wholeTail negative significand dropped c) := by
  have hplain : ReadsShort (if dropped = 0 then .ok (wholeNumeral negative significand, c)
      else scaled negative significand dropped c) := by
    split
    · intro value behind h
      have hvalue : wholeNumeral negative significand = .float value :=
        (Prod.mk.inj (Except.ok.inj h)).1
      simp only [wholeNumeral] at hvalue
      split at hvalue
      · simp at hvalue
      split at hvalue
      · obtain rfl := Numeral.float.inj hvalue
        exact Magnitude.isShort_nearest _ _
      · simp at hvalue
    · exact readsShort_scaled _ _ _ _
  simp only [wholeTail]
  split
  · split
    · exact readsShort_fractionTail _ _ _ _
    split
    · exact readsShort_exponentTail _ _ _ _
    · exact hplain
  · exact hplain

theorem readsShort_unsignedNumber : ReadsShort (unsignedNumber negative c) := by
  simp only [unsignedNumber]
  split
  · exact .error _
  split
  · split
    · split
      · exact .error _
      · exact readsShort_wholeTail _ _ _ _
    · exact readsShort_wholeTail _ _ _ _
  split
  · exact readsShort_wholeTail _ _ _ _
  · exact .error _

end Numbers

/-- A number that means a floating number means one with a short significand. -/
theorem Literal.isShort_of_numeral? {literal : Literal} {value : Binary64}
    (h : literal.numeral? = some (.float value)) : value.magnitude.IsShort := by
  have hnumber (c : Cursor) : ReadsShort (number c) := by
    simp only [number]
    split
    · split <;> exact readsShort_unsignedNumber _ _
    · exact readsShort_unsignedNumber _ _
  rw [numeral?] at h
  cases hread : number (Cursor.start literal.octets) with
  | error fault => simp [hread, Except.toOption] at h
  | ok found =>
      obtain ⟨numeral, behind⟩ := found
      obtain rfl : numeral = .float value := by simpa [hread, Except.toOption] using h
      exact hnumber _ value behind hread

end Json
end OutboxRelay
