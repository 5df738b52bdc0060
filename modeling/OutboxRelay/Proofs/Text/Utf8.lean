import Mathlib.Tactic
import OutboxRelay.Text.Utf8

/-!
# Encoding and decoding texts

A text is decoded from its octets.

**Method.** The first character is split off its own octets and whatever follows them.
Each length of a character is a case of its own, in which the payload bits are put
together again by arithmetic.
-/

namespace OutboxRelay
namespace Utf8

/-! ## Texts as rows of octets -/

@[simp] theorem encode_append (a b : String) : encode (a ++ b) = encode a ++ encode b := by
  simp [encode]

@[simp] theorem encode_ofList (characters : List Char) :
    encode (String.ofList characters) = characters.flatMap String.utf8EncodeChar := by
  simp [encode]

/-! ## One character -/

/-- The number of a character below the surrogates or behind them. -/
theorem isValidChar_toNat (c : Char) : c.toNat.isValidChar :=
  c.valid

/-- The payload bits of a continuation octet that was made from them. -/
theorem tail?_ofNat (n : Nat) : tail? (UInt8.ofNat (n % 64 + 128)) = some (n % 64) := by
  have hn : (UInt8.ofNat (n % 64 + 128)).toNat = n % 64 + 128 := by
    simp only [UInt8.toNat_ofNat']
    omega
  rw [tail?, hn, if_pos (by omega)]
  simp

/-- The scalar value of a character is that character. -/
theorem scalar?_toNat {least n : Nat} {c : Char} (hn : n = c.toNat) (hc : least ≤ n) :
    scalar? least n = some c := by
  subst hn
  rw [scalar?, if_pos ⟨hc, isValidChar_toNat c⟩, Char.ofNat_toNat]

/-- The first character of its own octets and any others. -/
theorem next?_utf8EncodeChar (c : Char) (rest : Bytes) :
    next? (String.utf8EncodeChar c ++ rest) = some (c, rest) := by
  have hc : c.toNat < 0x110000 := by
    rcases isValidChar_toNat c with h | h <;> omega
  have hv : c.val.toNat = c.toNat := rfl
  unfold String.utf8EncodeChar
  simp only [hv]
  by_cases h1 : c.toNat ≤ 127
  · have hn : (UInt8.ofNat c.toNat).toNat = c.toNat := by
      simp only [UInt8.toNat_ofNat']
      omega
    simp only [h1, if_true, List.cons_append, List.nil_append, next?, hn]
    rw [if_pos (by omega), Char.ofNat_toNat]
  by_cases h2 : c.toNat ≤ 2047
  · have hn : (UInt8.ofNat (c.toNat / 64 % 32 + 192)).toNat = c.toNat / 64 + 192 := by
      simp only [UInt8.toNat_ofNat']
      omega
    simp only [h1, h2, if_true, if_false, List.cons_append, List.nil_append, next?, hn]
    rw [if_neg (by omega), if_neg (by omega), if_pos (by omega), tail?_ofNat,
      Option.bind_eq_bind, Option.bind_some, scalar?_toNat (c := c) (by omega) (by omega)]
    rfl
  by_cases h3 : c.toNat ≤ 65535
  · have hn : (UInt8.ofNat (c.toNat / 4096 % 16 + 224)).toNat = c.toNat / 4096 + 224 := by
      simp only [UInt8.toNat_ofNat']
      omega
    simp only [h1, h2, h3, if_true, if_false, List.cons_append, List.nil_append, next?, hn]
    rw [if_neg (by omega), if_neg (by omega), if_neg (by omega), if_pos (by omega),
      tail?_ofNat, tail?_ofNat]
    simp only [Option.bind_eq_bind, Option.bind_some]
    rw [scalar?_toNat (c := c) (by omega) (by omega)]
    rfl
  · have hn : (UInt8.ofNat (c.toNat / 262144 % 8 + 240)).toNat = c.toNat / 262144 + 240 := by
      simp only [UInt8.toNat_ofNat']
      omega
    simp only [h1, h2, h3, if_false, List.cons_append, List.nil_append, next?, hn]
    rw [if_neg (by omega), if_neg (by omega), if_neg (by omega), if_neg (by omega),
      if_pos (by omega), tail?_ofNat, tail?_ofNat, tail?_ofNat]
    simp only [Option.bind_eq_bind, Option.bind_some]
    rw [scalar?_toNat (c := c) (by omega) (by omega)]
    rfl

/-! ## Whole texts -/

/-- Decoding splits the first character off. -/
theorem decodeFrom_of_next? {read : List Char} {bytes rest : Bytes} {c : Char}
    (h : next? bytes = some (c, rest)) :
    decodeFrom read bytes = decodeFrom (c :: read) rest := by
  rw [decodeFrom]
  split
  · rename_i h'
    obtain ⟨rfl, rfl⟩ : _ = _ ∧ _ = _ := by simpa [h] using h'
    rfl
  · rename_i h'
    simp [h] at h'

/-- The characters of the octets of some characters. -/
theorem decodeFrom_flatMap (characters read : List Char) :
    decodeFrom read (characters.flatMap String.utf8EncodeChar) =
      some (read.reverse ++ characters) := by
  induction characters generalizing read with
  | nil => simp [decodeFrom, next?]
  | cons c characters ih =>
      rw [List.flatMap_cons, decodeFrom_of_next? (next?_utf8EncodeChar c _), ih]
      simp

/-- A text is decoded from its octets. -/
@[simp] theorem decode?_encode (text : String) : decode? (encode text) = some text := by
  simp [decode?, encode, decodeFrom_flatMap]

theorem decodeLossyFrom_of_next? {read : List Char} {bytes rest : Bytes} {c : Char}
    (h : next? bytes = some (c, rest)) :
    decodeLossyFrom read bytes = decodeLossyFrom (c :: read) rest := by
  rw [decodeLossyFrom]
  split
  · rename_i h'
    obtain ⟨rfl, rfl⟩ : _ = _ ∧ _ = _ := by simpa [h] using h'
    rfl
  · rename_i h'
    simp [h] at h'

theorem decodeLossyFrom_flatMap (characters read : List Char) :
    decodeLossyFrom read (characters.flatMap String.utf8EncodeChar) =
      read.reverse ++ characters := by
  induction characters generalizing read with
  | nil => simp [decodeLossyFrom, next?]
  | cons c characters ih =>
      rw [List.flatMap_cons, decodeLossyFrom_of_next? (next?_utf8EncodeChar c _), ih]
      simp

/-- In the octets of a text nothing is replaced. -/
@[simp] theorem decodeLossy_encode (text : String) : decodeLossy (encode text) = text := by
  simp [decodeLossy, encode, decodeLossyFrom_flatMap]

end Utf8
end OutboxRelay
