import OutboxRelay.Json.Value
import OutboxRelay.Proofs.Json.Grammar
import OutboxRelay.Proofs.Text.Utf8

/-!
# Printing strings

The printed form of a text is a string as it may be written, and it means that text.

**Method.** The pieces of a string are those of its characters: a letter escape, an
escape by number, or the octets of the character.
-/

namespace OutboxRelay
namespace Json

/-! ## Plain characters -/

/-- An octet stands for itself unless it is a mark, a backslash or a control. -/
theorem ordinary_of_toNat {b : UInt8} (h : 0x20 ≤ b.toNat ∧ b.toNat ≠ 0x22 ∧ b.toNat ≠ 0x5C) :
    b ≠ 0x22 ∧ b ≠ 0x5C ∧ ¬b < 0x20 := by
  refine ⟨?_, ?_, ?_⟩
  · rintro rfl
    exact h.2.1 rfl
  · rintro rfl
    exact h.2.2 rfl
  · rw [UInt8.lt_iff_toNat_lt]
    exact Nat.not_lt.mpr h.1

/-- The octets of a character stand for themselves unless it is escaped. -/
theorem ordinary_of_mem {c : Char} (hmark : c ≠ '"') (hbackslash : c ≠ '\\')
    (hcontrol : ¬c.toNat < 0x20) (b : UInt8) (h : b ∈ String.utf8EncodeChar c) :
    b ≠ 0x22 ∧ b ≠ 0x5C ∧ ¬b < 0x20 := by
  apply ordinary_of_toNat
  have hmark : c.toNat ≠ 0x22 := fun h => hmark (Char.toNat_inj.mp h)
  have hbackslash : c.toNat ≠ 0x5C := fun h => hbackslash (Char.toNat_inj.mp h)
  have hv : c.val.toNat = c.toNat := rfl
  unfold String.utf8EncodeChar at h
  simp only [hv] at h
  split at h
  · obtain rfl : b = _ := by simpa using h
    simp only [UInt8.toNat_ofNat']
    omega
  split at h
  · simp only [List.mem_cons, List.not_mem_nil, or_false] at h
    rcases h with rfl | rfl <;> simp only [UInt8.toNat_ofNat'] <;> omega
  split at h
  · simp only [List.mem_cons, List.not_mem_nil, or_false] at h
    rcases h with rfl | rfl | rfl <;> simp only [UInt8.toNat_ofNat'] <;> omega
  · simp only [List.mem_cons, List.not_mem_nil, or_false] at h
    rcases h with rfl | rfl | rfl | rfl <;> simp only [UInt8.toNat_ofNat'] <;> omega

/-- Octets as pieces that stand for themselves. -/
def plainPieces (octets : Bytes) (h : ∀ b ∈ octets, b ≠ 0x22 ∧ b ≠ 0x5C ∧ ¬b < 0x20) :
    List Piece :=
  octets.pmap Piece.plain h

theorem flatMap_plainPieces (octets : Bytes)
    (h : ∀ b ∈ octets, b ≠ 0x22 ∧ b ≠ 0x5C ∧ ¬b < 0x20) :
    (plainPieces octets h).flatMap Piece.octets = octets := by
  induction octets with
  | nil => rfl
  | cons b octets ih =>
      have ih := ih fun c hc => h c (by simp [hc])
      simpa [plainPieces, Piece.octets] using ih

theorem meantOctets?_plainPieces (octets : Bytes)
    (h : ∀ b ∈ octets, b ≠ 0x22 ∧ b ≠ 0x5C ∧ ¬b < 0x20) (pieces : List Piece) :
    meantOctets? (plainPieces octets h ++ pieces) = (meantOctets? pieces).map (octets ++ ·) := by
  induction octets with
  | nil => simp [plainPieces]
  | cons b octets ih =>
      have ih := ih fun c hc => h c (by simp [hc])
      simp only [plainPieces, List.pmap_cons, List.cons_append, meantOctets?] at ih ⊢
      rw [ih]
      cases meantOctets? pieces <;> rfl

/-! ## Escaped characters -/

/-- The digit for four bits of a control, as an octet. -/
def hexOctet (n : Nat) : UInt8 :=
  UInt8.ofNat (hexCharacter n).toNat

theorem hexValue?_control {n : Nat} (h : n < 0x20) :
    hexValue? 0x30 0x30 (hexOctet (n / 16)) (hexOctet n) = some n := by
  have key : ∀ n < 0x20, hexValue? 0x30 0x30 (hexOctet (n / 16)) (hexOctet n) = some n := by
    decide
  exact key n h

theorem utf8EncodeChar_hexCharacter (n : Nat) :
    String.utf8EncodeChar (hexCharacter n) = [hexOctet n] := by
  have key : ∀ n < 16, String.utf8EncodeChar (Nat.digitChar n) =
      [UInt8.ofNat (Nat.digitChar n).toNat] := by
    decide
  exact key (n % 16) (Nat.mod_lt n (by decide))

/-- The pieces of a character. -/
def characterPieces (c : Char) : List Piece :=
  if hmark : c = '"' then [.letter 0x22 0x22 rfl]
  else if hbackslash : c = '\\' then [.letter 0x5C 0x5C rfl]
  else if c = '\x08' then [.letter 0x62 0x08 rfl]
  else if c = '\x0c' then [.letter 0x66 0x0C rfl]
  else if c = '\n' then [.letter 0x6E 0x0A rfl]
  else if c = '\r' then [.letter 0x72 0x0D rfl]
  else if c = '\t' then [.letter 0x74 0x09 rfl]
  else if hcontrol : c.toNat < 0x20 then
    [.unit 0x30 0x30 (hexOctet (c.toNat / 16)) (hexOctet c.toNat) c.toNat
      (hexValue?_control hcontrol)]
  else
    plainPieces (String.utf8EncodeChar c) (ordinary_of_mem hmark hbackslash hcontrol)

/-- A control that is escaped by number means itself. -/
theorem meantOctets?_control {c : Char} (h : c.toNat < 0x20) {p q r s : UInt8}
    (value : hexValue? p q r s = some c.toNat) (pieces : List Piece) :
    meantOctets? (.unit p q r s c.toNat value :: pieces) =
      (meantOctets? pieces).map (String.utf8EncodeChar c ++ ·) := by
  have trailing : isTrailing c.toNat = false := by
    simp only [isTrailing, Bool.and_eq_false_iff, decide_eq_false_iff_not]
    omega
  have leading : isLeading c.toNat = false := by
    simp only [isLeading, Bool.and_eq_false_iff, decide_eq_false_iff_not]
    omega
  rw [meantOctets?.eq_def]
  simp only [trailing, leading, Bool.false_eq_true, if_false, Char.ofNat_toNat]

/-- The pieces of a character are those with which it is printed, and mean it. -/
theorem characterPieces_spec (c : Char) :
    (characterPieces c).flatMap Piece.octets =
        (escapedCharacter c).flatMap String.utf8EncodeChar ∧
      ∀ pieces, meantOctets? (characterPieces c ++ pieces) =
        (meantOctets? pieces).map (String.utf8EncodeChar c ++ ·) := by
  unfold characterPieces escapedCharacter
  by_cases hmark : c = '"'
  · subst hmark
    exact ⟨rfl, fun _ => rfl⟩
  by_cases hbackslash : c = '\\'
  · subst hbackslash
    exact ⟨rfl, fun _ => rfl⟩
  by_cases hb : c = '\x08'
  · subst hb
    exact ⟨rfl, fun _ => rfl⟩
  by_cases hf : c = '\x0c'
  · subst hf
    exact ⟨rfl, fun _ => rfl⟩
  by_cases hn : c = '\n'
  · subst hn
    exact ⟨rfl, fun _ => rfl⟩
  by_cases hr : c = '\r'
  · subst hr
    exact ⟨rfl, fun _ => rfl⟩
  by_cases ht : c = '\t'
  · subst ht
    exact ⟨rfl, fun _ => rfl⟩
  by_cases hcontrol : c.toNat < 0x20
  · simp only [hmark, hbackslash, hb, hf, hn, hr, ht, hcontrol, if_false, if_true, dif_neg,
      dif_pos, not_false_eq_true]
    refine ⟨?_, meantOctets?_control hcontrol _⟩
    simp only [List.flatMap_cons, List.flatMap_nil, Piece.octets, utf8EncodeChar_hexCharacter]
    rfl
  · simp only [hmark, hbackslash, hb, hf, hn, hr, ht, hcontrol, if_false, dif_neg,
      not_false_eq_true]
    refine ⟨?_, meantOctets?_plainPieces _ _⟩
    simp [flatMap_plainPieces]

/-! ## Texts -/

/-- The string with which a text is printed. -/
def Quotation.ofString (text : String) : Quotation :=
  ⟨text.toList.flatMap characterPieces⟩

theorem Quotation.inner_ofString (text : String) :
    (Quotation.ofString text).inner =
      (text.toList.flatMap escapedCharacter).flatMap String.utf8EncodeChar := by
  simp only [Quotation.inner, Quotation.ofString, List.flatMap_assoc]
  exact List.flatMap_congr fun c _ => (characterPieces_spec c).1

/-- A text is printed as a string. -/
theorem Quotation.octets_ofString (text : String) :
    (Quotation.ofString text).octets = Utf8.encode (printText text) := by
  rw [Quotation.octets, Quotation.inner_ofString, printText]
  simp only [Utf8.encode_append, Utf8.encode_ofList]
  rfl

/-- The string with which a text is printed means that text. -/
@[simp] theorem Quotation.text?_ofString (text : String) :
    (Quotation.ofString text).text? = some text := by
  have hmeant (characters : List Char) : meantOctets? (characters.flatMap characterPieces) =
      some (characters.flatMap String.utf8EncodeChar) := by
    induction characters with
    | nil => rfl
    | cons c characters ih =>
        rw [List.flatMap_cons, (characterPieces_spec c).2, ih]
        rfl
  rw [Quotation.text?, Quotation.ofString, hmeant]
  exact Utf8.decode?_encode text

end Json
end OutboxRelay
