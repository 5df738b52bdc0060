import OutboxRelay.Proofs.Json.Literal
import OutboxRelay.Proofs.Number.Digits
import OutboxRelay.Proofs.Text.Utf8

/-!
# Printing integers

The printed form of an integer is a number as it may be written, and it means that
integer as long as it fits into sixty-four bits.

**Method.** A decimal of several digits is the decimal of all but the last one, and the
last one.  The reader takes the digits from the front, so what it has read of all but
the last digit is known by induction.
-/

namespace OutboxRelay
namespace Json

/-! ## Digits -/

/-- A decimal digit as an octet. -/
def digitOctet (n : Nat) : UInt8 :=
  UInt8.ofNat (48 + n)

theorem toNat_digitOctet {n : Nat} (h : n < 10) : (digitOctet n).toNat = 48 + n := by
  simp only [digitOctet, UInt8.toNat_ofNat']
  omega

theorem isDigit_digitOctet {n : Nat} (h : n < 10) : isDigit (digitOctet n) = true := by
  simp only [isDigit, Bool.and_eq_true, decide_eq_true_eq, UInt8.le_iff_toNat_le,
    toNat_digitOctet h]
  exact ⟨Nat.le_add_right 48 n, by change 48 + n ≤ 57; omega⟩

theorem digitValue_digitOctet {n : Nat} (h : n < 10) : digitValue (digitOctet n) = n := by
  rw [digitValue, toNat_digitOctet h]
  omega

theorem utf8EncodeChar_digitChar {n : Nat} (h : n < 10) :
    String.utf8EncodeChar (Nat.digitChar n) = [digitOctet n] := by
  have key : ∀ n < 10, String.utf8EncodeChar (Nat.digitChar n) = [digitOctet n] := by
    decide
  exact key n h

/-- A character that is a digit is one octet, which is a digit. -/
theorem exists_digitOctet {c : Char} (h : c.isDigit = true) :
    ∃ b, String.utf8EncodeChar c = [b] ∧ isDigit b = true ∧ (b = 0x30 → c = '0') := by
  obtain ⟨n, hn, rfl⟩ := Number.exists_digitChar h
  refine ⟨digitOctet n, utf8EncodeChar_digitChar hn, isDigit_digitOctet hn, fun hzero => ?_⟩
  have hvalue := congrArg UInt8.toNat hzero
  rw [toNat_digitOctet hn] at hvalue
  obtain rfl : n = 0 := by simpa using hvalue
  rfl

/-- Characters that are digits have octets that are digits. -/
theorem isDigit_of_mem_characters {characters : List Char}
    (h : ∀ c ∈ characters, c.isDigit = true) :
    ∀ b ∈ characters.flatMap String.utf8EncodeChar, isDigit b = true := by
  intro b hb
  obtain ⟨c, hc, hb⟩ := List.mem_flatMap.mp hb
  obtain ⟨b', hencode, hdigit, -⟩ := exists_digitOctet (h c hc)
  rw [hencode, List.mem_singleton] at hb
  exact hb ▸ hdigit

theorem isDigit_of_mem_toDigits {n : Nat} {c : Char} (h : c ∈ Nat.toDigits 10 n) :
    c.isDigit = true :=
  Nat.isDigit_of_mem_toDigits (by decide) (by decide) h

/-- The octets of the decimal of a natural number. -/
def decimalOctets (n : Nat) : Bytes :=
  (Nat.toDigits 10 n).flatMap String.utf8EncodeChar

theorem decimalOctets_of_lt {n : Nat} (h : n < 10) : decimalOctets n = [digitOctet n] := by
  simp [decimalOctets, Nat.toDigits_of_lt_base h, utf8EncodeChar_digitChar h]

theorem decimalOctets_of_le {n : Nat} (h : 10 ≤ n) :
    decimalOctets n = decimalOctets (n / 10) ++ [digitOctet (n % 10)] := by
  rw [decimalOctets, Nat.toDigits_of_base_le (by decide) h, List.flatMap_append]
  simp [decimalOctets, utf8EncodeChar_digitChar (Nat.mod_lt n (by decide : 0 < 10))]

/-- A natural number is printed as its decimal. -/
theorem encode_repr (n : Nat) : Utf8.encode n.repr = decimalOctets n := by
  simp [Nat.repr, decimalOctets]

theorem isDigit_of_mem_decimalOctets (n : Nat) : ∀ b ∈ decimalOctets n, isDigit b = true :=
  isDigit_of_mem_characters fun _ => isDigit_of_mem_toDigits

theorem decimalOctets_ne_nil (n : Nat) : decimalOctets n ≠ [] := by
  by_cases hn : n < 10
  · simp [decimalOctets_of_lt hn]
  · simp [decimalOctets_of_le (Nat.le_of_not_lt hn)]

/-- Only the decimal of zero starts with a zero. -/
theorem head?_decimalOctets_ne {n : Nat} (h : n ≠ 0) :
    (decimalOctets n).head? ≠ some 0x30 := by
  obtain ⟨c, others, hdigits⟩ : ∃ c others, Nat.toDigits 10 n = c :: others :=
    List.exists_cons_of_ne_nil Nat.toDigits_ne_nil
  obtain ⟨b, hencode, -, hzero⟩ :=
    exists_digitOctet (isDigit_of_mem_toDigits (hdigits ▸ List.mem_cons_self))
  have hhead : (decimalOctets n).head? = some b := by simp [decimalOctets, hdigits, hencode]
  rw [hhead, ne_eq, Option.some_inj]
  intro hb
  exact Number.head?_toDigits_ne h (by rw [hdigits, List.head?_cons, hzero hb])

/-- No digit stands behind a zero in front. -/
theorem decimalOctets_of_head? {n : Nat} (h : (decimalOctets n).head? = some 0x30) :
    decimalOctets n = [0x30] := by
  by_cases hn : n = 0
  · subst hn
    rfl
  · exact absurd h (head?_decimalOctets_ne hn)

/-- The digits of a natural number. -/
def Digits.ofNat (n : Nat) : Digits :=
  ⟨decimalOctets n, isDigit_of_mem_decimalOctets n, decimalOctets_ne_nil n⟩

/-! ## What is read of digits -/

/-- The last digit is read behind all others. -/
theorem wholeDigits_append {significand grown : Nat} {octets : Bytes}
    (h : wholeDigits significand octets = (grown, 0)) (more : Bytes) :
    wholeDigits significand (octets ++ more) = wholeDigits grown more := by
  induction octets generalizing significand with
  | nil =>
      obtain rfl : significand = grown := by simpa [wholeDigits] using h
      rfl
  | cons b octets ih =>
      simp only [wholeDigits, List.cons_append] at h ⊢
      split at h
      · rename_i hle
        rw [if_pos hle]
        exact ih h
      · simp at h

/-- The digits of a number that fits into a word are read as that number. -/
theorem wholeDigits_decimalOctets {n : Nat} (h : n ≤ wordMax) :
    wholeDigits 0 (decimalOctets n) = (n, 0) := by
  induction n using Nat.strongRecOn with
  | ind n ih =>
      by_cases hn : n < 10
      · simp [decimalOctets_of_lt hn, wholeDigits, digitValue_digitOctet hn, h]
      · have hdiv := ih (n / 10) (by omega) (by omega)
        have hmod : n % 10 < 10 := Nat.mod_lt n (by decide)
        rw [decimalOctets_of_le (Nat.le_of_not_lt hn), wholeDigits_append hdiv]
        simp only [wholeDigits, digitValue_digitOctet hmod]
        have hsum : n / 10 * 10 + n % 10 = n := by omega
        rw [hsum, if_pos h]

/-! ## Integers -/

namespace Literal

/-- The number with which a natural number is printed, perhaps behind a minus sign. -/
def ofNat (negative : Bool) (n : Nat) : Literal where
  negative := negative
  whole := Digits.ofNat n
  first := decimalOctets_of_head?
  fraction := none
  exponent := none

/-- The number with which an integer is printed. -/
def ofInt (value : Int) : Literal :=
  ofNat (value < 0) value.natAbs

theorem octets_ofNat (negative : Bool) (n : Nat) :
    (ofNat negative n).octets =
      if negative then 0x2D :: decimalOctets n else decimalOctets n := by
  simp [octets, unsignedOctets, fractionOctets, exponentOctets, ofNat, Digits.ofNat]

/-- An integer is printed as a number. -/
theorem octets_ofInt (value : Int) : (ofInt value).octets = Utf8.encode (toString value) := by
  rw [Int.toString_eq_repr, Int.repr_eq_if, ofInt, octets_ofNat]
  by_cases h : 0 ≤ value
  · have hnegative : ¬value < 0 := by omega
    have habs : value.natAbs = value.toNat := by omega
    rw [if_pos h, encode_repr, habs]
    simp [hnegative]
  · have hnegative : value < 0 := by omega
    have habs : value.natAbs = (-value).toNat := by omega
    rw [if_neg h, Utf8.encode_append, encode_repr, habs]
    simp only [hnegative, decide_true, if_true]
    rfl

/-- The digits of a number that fits into a word are read to their end. -/
theorem unsignedNumber_decimalOctets (negative : Bool) {n : Nat} (h : n ≤ wordMax)
    (offset : Nat) :
    ∃ behind, unsignedNumber negative ⟨offset, decimalOctets n⟩ =
      .ok (wholeNumeral negative n, behind) := by
  by_cases hn : n = 0
  · subst hn
    exact ⟨_, rfl⟩
  · obtain ⟨b, more, hoctets⟩ := List.exists_cons_of_ne_nil (decimalOctets_ne_nil n)
    have hzero : b ≠ 0x30 := by
      have := head?_decimalOctets_ne hn
      simpa [hoctets] using this
    have hdigit : isDigit b = true := isDigit_of_mem_decimalOctets n b (by simp [hoctets])
    have htake : (decimalOctets n).takeWhile isDigit = decimalOctets n := by
      have h := (Digits.ofNat n).takeWhile_append Stops.nil.noDigit
      rwa [List.append_nil] at h
    have hwhole := wholeDigits_decimalOctets h
    rw [hoctets] at htake hwhole ⊢
    refine ⟨⟨offset + (b :: more).length, []⟩, ?_⟩
    simp only [unsignedNumber, hzero, if_false, hdigit, if_true, htake, hwhole, Cursor.skip,
      List.drop_length, wholeTail]

/-- A number without point and exponent that fits into a word. -/
theorem numeral?_ofNat (negative : Bool) {n : Nat} (h : n ≤ wordMax) :
    (ofNat negative n).numeral? = some (wholeNumeral negative n) := by
  rw [numeral?, octets_ofNat]
  cases negative with
  | true =>
      obtain ⟨behind, hread⟩ := unsignedNumber_decimalOctets true h 1
      simp only [if_true, Cursor.start, number, Cursor.skip, List.drop_succ_cons,
        List.drop_zero, Nat.zero_add, hread]
      rfl
  | false =>
      obtain ⟨behind, hread⟩ := unsignedNumber_decimalOctets false h 0
      obtain ⟨b, more, hoctets⟩ := List.exists_cons_of_ne_nil (decimalOctets_ne_nil n)
      have hdigit : isDigit b = true := isDigit_of_mem_decimalOctets n b (by simp [hoctets])
      rw [hoctets] at hread ⊢
      simp only [Bool.false_eq_true, if_false, Cursor.start, number, (ne_of_isDigit hdigit).2.1,
        hread]
      rfl

/-- The number with which an integer is printed means that integer. -/
theorem numeral?_ofInt {value : Int} (least : -(1 <<< 63 : Nat) ≤ value)
    (greatest : value ≤ wordMax) : (ofInt value).numeral? = some (.integer value) := by
  have hleast : (1 <<< 63 : Nat) ≤ wordMax := by decide
  rw [ofInt, numeral?_ofNat _ (by omega)]
  by_cases h : value < 0
  · have hrange : ¬(value.natAbs = 0 ∨ 1 <<< 63 < value.natAbs) := by omega
    simp only [h, decide_true, wholeNumeral, Bool.not_true, Bool.false_eq_true, if_false, hrange]
    congr 2
    omega
  · simp only [h, decide_false, wholeNumeral, Bool.not_false, if_true]
    congr 2
    omega

end Literal

end Json
end OutboxRelay
