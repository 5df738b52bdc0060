import OutboxRelay.Proofs.Text.Utf8
import OutboxRelay.Text.Percent

/-!
# Reading percent-encoded text

What was percent-encoded is read back, as long as the percent sign itself is encoded, and all
that takes more than one octet.

**Results.**
* `decode?_ofList_encode`: an encoded text stands for the text that was encoded.
* `not_mem_encode`: a character that is encoded in a part does not stand in it.
-/

namespace OutboxRelay
namespace Percent

variable {part : Part}

/-- Whether a text that is encoded in a part can be read back. -/
structure Part.Reversible (part : Part) : Prop where
  percent : part '%' = true
  ascii {c : Char} (plain : part c = false) : c.toNat < 0x80

/-! ## Octets -/

/-- A digit in base sixteen is one octet, and is read as its value. -/
theorem exists_digit (n : Nat) :
    ∃ b, String.utf8EncodeChar (digit n) = [b] ∧ digitValue? b = some (n % 16) := by
  have all : ∀ n < 16, ∃ b ∈ String.utf8EncodeChar (digit n),
      String.utf8EncodeChar (digit n) = [b] ∧ digitValue? b = some n := by
    decide
  have same : digit (n % 16) = digit n := by simp [digit]
  obtain ⟨b, -, found⟩ := all (n % 16) (Nat.mod_lt n (by decide))
  exact ⟨b, same ▸ found⟩

/-- An encoded octet stands for itself. -/
theorem decode_encodeOctet (b : UInt8) (rest : Bytes) :
    decode ((encodeOctet b).flatMap String.utf8EncodeChar ++ rest) = b :: decode rest := by
  obtain ⟨x, x_eq, x_value⟩ := exists_digit (b.toNat / 16)
  obtain ⟨y, y_eq, y_value⟩ := exists_digit b.toNat
  have sign : String.utf8EncodeChar '%' = [0x25] := by decide
  have octets_eq : (encodeOctet b).flatMap String.utf8EncodeChar = [0x25, x, y] := by
    simp [encodeOctet, sign, x_eq, y_eq]
  have value_eq : UInt8.ofNat (b.toNat / 16 % 16 * 16 + b.toNat % 16) = b := by
    have bound := b.toNat_lt
    refine UInt8.toNat_inj.mp ?_
    rw [UInt8.toNat_ofNat']
    omega
  rw [octets_eq]
  change decode (0x25 :: x :: y :: rest) = b :: decode rest
  rw [decode, x_value, y_value]
  simp only [value_eq]

theorem decode_octets (octets rest : Bytes) :
    decode ((octets.flatMap encodeOctet).flatMap String.utf8EncodeChar ++ rest) =
      octets ++ decode rest := by
  induction octets with
  | nil => rfl
  | cons b octets ih =>
      simp only [List.flatMap_cons, List.flatMap_append, List.append_assoc, List.cons_append]
      rw [decode_encodeOctet, ih]

/-- An octet that is no percent sign stands for itself. -/
theorem decode_cons {b : UInt8} (h : b ≠ 0x25) (rest : Bytes) :
    decode (b :: rest) = b :: decode rest := by
  rw [decode]
  rintro x y more same -
  exact h same

/-! ## Characters -/

/-- An encoded character stands for its own octets. -/
theorem decode_encodeChar (reversible : part.Reversible) (c : Char) (rest : Bytes) :
    decode ((encodeChar part c).flatMap String.utf8EncodeChar ++ rest) =
      String.utf8EncodeChar c ++ decode rest := by
  cases encoded : part c with
  | true => simp only [encodeChar, encoded, if_true, decode_octets]
  | false =>
      have ascii := reversible.ascii encoded
      have octet_eq : String.utf8EncodeChar c = [UInt8.ofNat c.toNat] := by
        have value_eq : c.val.toNat = c.toNat := rfl
        have small : c.toNat ≤ 127 := by omega
        simp [String.utf8EncodeChar, value_eq, small]
      have octet_ne : UInt8.ofNat c.toNat ≠ 0x25 := by
        intro same
        have number_eq : c.toNat = '%'.toNat := by
          have numbers := congrArg UInt8.toNat same
          rw [UInt8.toNat_ofNat'] at numbers
          change c.toNat % 256 = 37 at numbers
          change c.toNat = 37
          omega
        obtain rfl : c = '%' := Char.toNat_inj.mp number_eq
        exact absurd reversible.percent (by simp [encoded])
      simp [encodeChar, encoded, octet_eq, decode_cons octet_ne]

theorem decode_flatMap_encode (reversible : part.Reversible) (characters : List Char) :
    decode ((encode part characters).flatMap String.utf8EncodeChar) =
      characters.flatMap String.utf8EncodeChar := by
  induction characters with
  | nil => simp [encode, decode]
  | cons c characters ih =>
      unfold encode at ih ⊢
      simp only [List.flatMap_cons, List.flatMap_append]
      rw [decode_encodeChar reversible, ih]

/-- An encoded text stands for the text that was encoded. -/
theorem decode?_ofList_encode (reversible : part.Reversible) (characters : List Char) :
    decode? (String.ofList (encode part characters)) = some (String.ofList characters) := by
  rw [decode?, Utf8.encode_ofList, decode_flatMap_encode reversible, ← Utf8.encode_ofList,
    Utf8.decode?_encode]

/-- A character that is encoded in a part does not stand in it. -/
theorem not_mem_encode {d : Char} (encoded : part d = true) (sign : d ≠ '%')
    (digits : ∀ n < 16, d ≠ digit n) (characters : List Char) : d ∉ encode part characters := by
  intro among
  obtain ⟨c, -, inside⟩ := List.mem_flatMap.mp among
  unfold encodeChar at inside
  split at inside
  · obtain ⟨b, -, written⟩ := List.mem_flatMap.mp inside
    have other (n : Nat) : d ≠ digit n := by
      have same : digit (n % 16) = digit n := by simp [digit]
      exact same ▸ digits (n % 16) (Nat.mod_lt n (by decide))
    simp [encodeOctet, sign, other] at written
  · obtain rfl := List.mem_singleton.mp inside
    exact absurd encoded ‹_›

/-! ## Segments -/

theorem reversible_segment : Part.Reversible segment where
  percent := by decide
  ascii {c} plain := by
    by_contra h
    simp [segment, path, fragment, controls] at plain
    omega

theorem reversible_specialSegment : Part.Reversible specialSegment where
  percent := by decide
  ascii {c} plain := by
    refine reversible_segment.ascii (c := c) ?_
    simp only [specialSegment, Bool.or_eq_false_iff] at plain
    exact plain.1

end Percent
end OutboxRelay
