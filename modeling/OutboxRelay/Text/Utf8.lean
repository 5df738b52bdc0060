/-!
# UTF-8 text in byte strings

Byte strings are lists of octets.  This module splits the first character off a
byte string, decodes a whole byte string when it is well formed, and decodes any
byte string when ill-formed parts may be replaced.

**Rules.**

* `next?` accepts exactly the shortest form of a Unicode scalar value.
* `decode?` is defined on a byte string exactly when it is a run of such forms.
* `decodeLossy` replaces each maximal ill-formed part by one U+FFFD.
-/

namespace OutboxRelay

/-- A byte string. -/
abbrev Bytes := List UInt8

namespace Utf8

/-- The octets of a text. -/
def encode (text : String) : Bytes :=
  text.toList.flatMap String.utf8EncodeChar

/-- The six payload bits of a continuation octet. -/
def tail? (b : UInt8) : Option Nat :=
  if 0x80 ≤ b.toNat ∧ b.toNat ≤ 0xBF then
    some (b.toNat - 0x80)
  else
    none

/-- The scalar value `n`, provided that no shorter form could have held it. -/
def scalar? (least n : Nat) : Option Char :=
  if least ≤ n ∧ n.isValidChar then
    some (Char.ofNat n)
  else
    none

/-- The first character of a byte string, and what follows it. -/
def next? : Bytes → Option (Char × Bytes)
  | [] => none
  | b :: rest =>
      if b.toNat < 0x80 then
        some (Char.ofNat b.toNat, rest)
      else if b.toNat < 0xC2 then
        none
      else if b.toNat < 0xE0 then
        match rest with
        | c :: rest => do
            let x ← tail? c
            let char ← scalar? 0x80 ((b.toNat - 0xC0) * 0x40 + x)
            return (char, rest)
        | _ => none
      else if b.toNat < 0xF0 then
        match rest with
        | c :: d :: rest => do
            let x ← tail? c
            let y ← tail? d
            let char ← scalar? 0x800
              (((b.toNat - 0xE0) * 0x40 + x) * 0x40 + y)
            return (char, rest)
        | _ => none
      else if b.toNat < 0xF5 then
        match rest with
        | c :: d :: e :: rest => do
            let x ← tail? c
            let y ← tail? d
            let z ← tail? e
            let char ← scalar? 0x10000
              ((((b.toNat - 0xF0) * 0x40 + x) * 0x40 + y) * 0x40 + z)
            return (char, rest)
        | _ => none
      else
        none

/-- Splitting a character off leaves a shorter byte string. -/
theorem length_lt_of_next? {bytes rest : Bytes} {c : Char}
    (h : next? bytes = some (c, rest)) :
    rest.length < bytes.length := by
  cases bytes with
  | nil => simp [next?] at h
  | cons b tail =>
      simp only [next?] at h
      split at h
      · simp only [Option.some.injEq, Prod.mk.injEq] at h
        simp [h.2]
      · split at h
        · simp at h
        · split at h
          · split at h
            · simp only [Option.bind_eq_bind, Option.bind_eq_some_iff] at h
              obtain ⟨_, _, _, _, h⟩ := h
              simp only [Option.pure_def, Option.some.injEq, Prod.mk.injEq] at h
              simp only [List.length_cons, h.2]
              omega
            · simp at h
          · split at h
            · split at h
              · simp only [Option.bind_eq_bind, Option.bind_eq_some_iff] at h
                obtain ⟨_, _, _, _, _, _, h⟩ := h
                simp only [Option.pure_def, Option.some.injEq, Prod.mk.injEq] at h
                simp only [List.length_cons, h.2]
                omega
              · simp at h
            · split at h
              · split at h
                · simp only [Option.bind_eq_bind, Option.bind_eq_some_iff] at h
                  obtain ⟨_, _, _, _, _, _, _, _, h⟩ := h
                  simp only [Option.pure_def, Option.some.injEq, Prod.mk.injEq] at h
                  simp only [List.length_cons, h.2]
                  omega
                · simp at h
              · simp at h

/-- The characters of a well-formed byte string, after those already read. -/
def decodeFrom (read : List Char) (bytes : Bytes) : Option (List Char) :=
  match h : next? bytes with
  | some (c, rest) =>
      have := length_lt_of_next? h
      decodeFrom (c :: read) rest
  | none => if bytes.isEmpty then some read.reverse else none
termination_by bytes.length

/-- The text that a byte string encodes, if it is well formed. -/
def decode? (bytes : Bytes) : Option String :=
  (decodeFrom [] bytes).map String.ofList

/-- So many octets and those of the well-formed beginning of a byte string. -/
def validLengthFrom (count : Nat) (bytes : Bytes) : Nat :=
  match h : next? bytes with
  | some (c, rest) =>
      have := length_lt_of_next? h
      validLengthFrom (count + c.utf8Size) rest
  | none => count
termination_by bytes.length

/-- How many octets at the start of a byte string are well formed. -/
def validLength (bytes : Bytes) : Nat :=
  validLengthFrom 0 bytes

/-- Octets that may follow the first octet `b` of a character of several octets. -/
def follows (b c : UInt8) : Bool :=
  if b = 0xE0 then 0xA0 ≤ c && c ≤ 0xBF
  else if b = 0xED then 0x80 ≤ c && c ≤ 0x9F
  else if b = 0xF0 then 0x90 ≤ c && c ≤ 0xBF
  else if b = 0xF4 then 0x80 ≤ c && c ≤ 0x8F
  else 0x80 ≤ c && c ≤ 0xBF

/-- Whether an octet continues a character. -/
def isTail (c : UInt8) : Bool :=
  0x80 ≤ c && c ≤ 0xBF

/--
How many octets at the start of an ill-formed byte string are replaced together:
the longest beginning of some character, and at least one octet.
-/
def brokenLength : Bytes → Nat
  | b :: c :: rest =>
      if b < 0xC2 || 0xF4 < b || !follows b c then 1
      else if b < 0xE0 then 1
      else if b < 0xF0 then 2
      else
        match rest with
        | d :: _ => if isTail d then 3 else 2
        | [] => 2
  | _ => 1

/-- At least one octet is replaced. -/
theorem brokenLength_pos (bytes : Bytes) : 0 < brokenLength bytes := by
  unfold brokenLength
  split
  · split
    · omega
    · split
      · omega
      · split
        · omega
        · split
          · split <;> omega
          · omega
  · omega

/-- The characters of a byte string with ill-formed parts replaced. -/
def decodeLossyFrom (read : List Char) (bytes : Bytes) : List Char :=
  match h : next? bytes with
  | some (c, rest) =>
      have := length_lt_of_next? h
      decodeLossyFrom (c :: read) rest
  | none =>
      match bytes with
      | [] => read.reverse
      | b :: rest =>
          have := brokenLength_pos (b :: rest)
          decodeLossyFrom ('\uFFFD' :: read)
            ((b :: rest).drop (brokenLength (b :: rest)))
termination_by bytes.length
decreasing_by
  · assumption
  · simp only [List.length_drop, List.length_cons]
    omega

/-- The text of a byte string with ill-formed parts replaced. -/
def decodeLossy (bytes : Bytes) : String :=
  String.ofList (decodeLossyFrom [] bytes)

end Utf8
end OutboxRelay
