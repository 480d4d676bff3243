import Mathlib.Data.List.Basic

/-!
# Decoding UTF-8

The decoder of the encoding standard: it never fails, and every byte that cannot belong to a
character, and every character that breaks off, yields a replacement character.

* `decodeUtf8_encode`: what was encoded is decoded again.
-/

namespace Lib

/-- What stands for what cannot be decoded. -/
def replacementChar : Char := '\uFFFD'

/-- A character whose bytes have been read in part: how many are missing, its value so far, and the
bounds of the next byte. -/
structure PartialChar where
  needed : Nat
  value : Nat
  lower : Nat
  upper : Nat

/-- What a byte is at the beginning of a character. -/
inductive LeadByte where
  | char (c : Char)
  | first (part : PartialChar)
  | invalid

/-- The lead bytes. The bounds of the second byte exclude what is too long, what is a surrogate and
what is beyond the last character. -/
def leadByte (b : Nat) : LeadByte :=
  if b ≤ 0x7f then .char (Char.ofNat b)
  else if 0xc2 ≤ b ∧ b ≤ 0xdf then .first ⟨1, b - 0xc0, 0x80, 0xbf⟩
  else if 0xe0 ≤ b ∧ b ≤ 0xef then
    .first ⟨2, b - 0xe0, if b = 0xe0 then 0xa0 else 0x80, if b = 0xed then 0x9f else 0xbf⟩
  else if 0xf0 ≤ b ∧ b ≤ 0xf4 then
    .first ⟨3, b - 0xf0, if b = 0xf0 then 0x90 else 0x80, if b = 0xf4 then 0x8f else 0xbf⟩
  else .invalid

/-- Decode with a character begun, or none. -/
def decodeFrom : Option PartialChar → List UInt8 → List Char
  | none, [] => []
  | some _, [] => [replacementChar]
  | none, b :: bytes =>
    match leadByte b.toNat with
    | .char c => c :: decodeFrom none bytes
    | .first part => decodeFrom (some part) bytes
    | .invalid => replacementChar :: decodeFrom none bytes
  | some part, b :: bytes =>
    if part.lower ≤ b.toNat ∧ b.toNat ≤ part.upper then
      if part.needed ≤ 1 then
        Char.ofNat (part.value * 64 + (b.toNat - 0x80)) :: decodeFrom none bytes
      else
        decodeFrom
          (some ⟨part.needed - 1, part.value * 64 + (b.toNat - 0x80), 0x80, 0xbf⟩) bytes
    else
      -- the character breaks off, and the byte is read as a lead byte
      replacementChar ::
        match leadByte b.toNat with
        | .char c => c :: decodeFrom none bytes
        | .first part => decodeFrom (some part) bytes
        | .invalid => replacementChar :: decodeFrom none bytes

def decodeUtf8 (bytes : List UInt8) : List Char :=
  decodeFrom none bytes

def encodeUtf8 (chars : List Char) : List UInt8 :=
  chars.flatMap String.utf8EncodeChar

/-! ### Reading a character -/

section Read

variable {b : Nat} {part : PartialChar} {bytes : List UInt8}

private theorem toNat_ofNat (hb : b < 256) : (UInt8.ofNat b).toNat = b := by
  rw [UInt8.toNat_ofNat']
  exact Nat.mod_eq_of_lt hb

theorem decodeFrom_lead (hb : b < 256) (hlead : leadByte b = .first part) :
    decodeFrom none (UInt8.ofNat b :: bytes) = decodeFrom (some part) bytes := by
  rw [decodeFrom, toNat_ofNat hb, hlead]

/-- A byte within the bounds that is not the last one. -/
theorem decodeFrom_more {n value lower upper : Nat} (hb : b < 256) (hlower : lower ≤ b)
    (hupper : b ≤ upper) :
    decodeFrom (some ⟨n + 2, value, lower, upper⟩) (UInt8.ofNat b :: bytes) =
      decodeFrom (some ⟨n + 1, value * 64 + (b - 0x80), 0x80, 0xbf⟩) bytes := by
  rw [decodeFrom, toNat_ofNat hb, if_pos ⟨hlower, hupper⟩, if_neg (by simp)]
  rfl

theorem decodeFrom_last {value lower upper : Nat} (hb : b < 256) (hlower : lower ≤ b)
    (hupper : b ≤ upper) :
    decodeFrom (some ⟨1, value, lower, upper⟩) (UInt8.ofNat b :: bytes) =
      Char.ofNat (value * 64 + (b - 0x80)) :: decodeFrom none bytes := by
  rw [decodeFrom, toNat_ofNat hb, if_pos ⟨hlower, hupper⟩, if_pos (Nat.le_refl 1)]

/-- The bounds of a byte that continues a character. -/
def IsTail (b : Nat) : Prop :=
  0x80 ≤ b ∧ b ≤ 0xbf

theorem IsTail.lt (h : IsTail b) : b < 256 :=
  Nat.lt_of_le_of_lt h.2 (by decide)

theorem decodeFrom_two {a : Nat} (ha : 0xc2 ≤ a ∧ a ≤ 0xdf) (hb : IsTail b) :
    decodeFrom none (UInt8.ofNat a :: UInt8.ofNat b :: bytes) =
      Char.ofNat ((a - 0xc0) * 64 + (b - 0x80)) :: decodeFrom none bytes := by
  have hlead : leadByte a = .first ⟨1, a - 0xc0, 0x80, 0xbf⟩ := by
    unfold leadByte
    rw [if_neg (by omega), if_pos ha]
  rw [decodeFrom_lead (by omega) hlead, decodeFrom_last hb.lt hb.1 hb.2]

theorem decodeFrom_three {a c : Nat} (ha : 0xe0 ≤ a ∧ a ≤ 0xef) (hb : IsTail b)
    (hlower : a = 0xe0 → 0xa0 ≤ b) (hupper : a = 0xed → b ≤ 0x9f) (hc : IsTail c) :
    decodeFrom none (UInt8.ofNat a :: UInt8.ofNat b :: UInt8.ofNat c :: bytes) =
      Char.ofNat (((a - 0xe0) * 64 + (b - 0x80)) * 64 + (c - 0x80)) :: decodeFrom none bytes := by
  have hlead : leadByte a =
      .first ⟨2, a - 0xe0, if a = 0xe0 then 0xa0 else 0x80, if a = 0xed then 0x9f else 0xbf⟩ := by
    unfold leadByte
    rw [if_neg (by omega), if_neg (by omega), if_pos ha]
  -- the first continuation byte is bounded: no overlong form, no surrogate
  have hlower' : (if a = 0xe0 then 0xa0 else 0x80) ≤ b := by
    split
    · next heq => exact hlower heq
    · exact hb.1
  have hupper' : b ≤ if a = 0xed then 0x9f else 0xbf := by
    split
    · next heq => exact hupper heq
    · exact hb.2
  rw [decodeFrom_lead (by omega) hlead, decodeFrom_more hb.lt hlower' hupper',
    decodeFrom_last hc.lt hc.1 hc.2]

theorem decodeFrom_four {a c d : Nat} (ha : 0xf0 ≤ a ∧ a ≤ 0xf4) (hb : IsTail b)
    (hlower : a = 0xf0 → 0x90 ≤ b) (hupper : a = 0xf4 → b ≤ 0x8f) (hc : IsTail c)
    (hd : IsTail d) :
    decodeFrom none
        (UInt8.ofNat a :: UInt8.ofNat b :: UInt8.ofNat c :: UInt8.ofNat d :: bytes) =
      Char.ofNat ((((a - 0xf0) * 64 + (b - 0x80)) * 64 + (c - 0x80)) * 64 + (d - 0x80)) ::
        decodeFrom none bytes := by
  have hlead : leadByte a =
      .first ⟨3, a - 0xf0, if a = 0xf0 then 0x90 else 0x80, if a = 0xf4 then 0x8f else 0xbf⟩ := by
    unfold leadByte
    rw [if_neg (by omega), if_neg (by omega), if_neg (by omega), if_pos ha]
  -- no overlong form, and nothing beyond the last code point
  have hlower' : (if a = 0xf0 then 0x90 else 0x80) ≤ b := by
    split
    · next heq => exact hlower heq
    · exact hb.1
  have hupper' : b ≤ if a = 0xf4 then 0x8f else 0xbf := by
    split
    · next heq => exact hupper heq
    · exact hb.2
  rw [decodeFrom_lead (by omega) hlead, decodeFrom_more hb.lt hlower' hupper',
    decodeFrom_more hc.lt hc.1 hc.2, decodeFrom_last hd.lt hd.1 hd.2]

end Read

/-- A character is not a surrogate. -/
theorem toNat_not_surrogate (c : Char) :
    c.toNat < 0xd800 ∨ (0xdfff < c.toNat ∧ c.toNat < 0x110000) :=
  c.valid

/-- **An encoded character is read whole.** -/
theorem decodeFrom_encodeChar (c : Char) (bytes : List UInt8) :
    decodeFrom none (String.utf8EncodeChar c ++ bytes) = c :: decodeFrom none bytes := by
  have hvalid := toNat_not_surrogate c
  have hchar : Char.ofNat c.toNat = c := Char.ofNat_toNat c
  have hv : c.val.toNat = c.toNat := rfl
  unfold String.utf8EncodeChar
  rw [hv]
  generalize c.toNat = v at hvalid hchar ⊢
  dsimp only
  -- the four lengths of an encoding, by the code point
  by_cases h₁ : v ≤ 0x7f
  · rw [if_pos h₁, List.singleton_append, decodeFrom, toNat_ofNat (by omega), leadByte, if_pos h₁]
    dsimp only
    rw [hchar]
  · rw [if_neg h₁]
    by_cases h₂ : v ≤ 0x7ff
    · rw [if_pos h₂]
      show decodeFrom none (UInt8.ofNat _ :: UInt8.ofNat _ :: bytes) = _
      rw [decodeFrom_two ⟨by omega, by omega⟩ ⟨by omega, by omega⟩,
        show (v / 64 % 0x20 + 0xc0 - 0xc0) * 64 + (v % 0x40 + 0x80 - 0x80) = v by omega, hchar]
    · rw [if_neg h₂]
      by_cases h₃ : v ≤ 0xffff
      · rw [if_pos h₃]
        show decodeFrom none (UInt8.ofNat _ :: UInt8.ofNat _ :: UInt8.ofNat _ :: bytes) = _
        rw [decodeFrom_three ⟨by omega, by omega⟩ ⟨by omega, by omega⟩ (by omega) (by omega)
          ⟨by omega, by omega⟩, show ((v / 4096 % 0x10 + 0xe0 - 0xe0) * 64 +
            (v / 64 % 0x40 + 0x80 - 0x80)) * 64 + (v % 0x40 + 0x80 - 0x80) = v by omega, hchar]
      · rw [if_neg h₃]
        show decodeFrom none
          (UInt8.ofNat _ :: UInt8.ofNat _ :: UInt8.ofNat _ :: UInt8.ofNat _ :: bytes) = _
        rw [decodeFrom_four ⟨by omega, by omega⟩ ⟨by omega, by omega⟩ (by omega) (by omega)
          ⟨by omega, by omega⟩ ⟨by omega, by omega⟩,
          show (((v / 262144 % 0x8 + 0xf0 - 0xf0) * 64 + (v / 4096 % 0x40 + 0x80 - 0x80)) * 64 +
            (v / 64 % 0x40 + 0x80 - 0x80)) * 64 + (v % 0x40 + 0x80 - 0x80) = v by omega, hchar]

/-- **What was encoded is decoded again.** -/
theorem decodeUtf8_encode (chars : List Char) : decodeUtf8 (encodeUtf8 chars) = chars := by
  unfold decodeUtf8 encodeUtf8
  induction chars with
  | nil => rfl
  | cons c chars ih => rw [List.flatMap_cons, decodeFrom_encodeChar, ih]

theorem encodeUtf8_injective : Function.Injective encodeUtf8 :=
  Function.LeftInverse.injective decodeUtf8_encode

theorem encodeUtf8_append (chars chars' : List Char) :
    encodeUtf8 (chars ++ chars') = encodeUtf8 chars ++ encodeUtf8 chars' :=
  List.flatMap_append

theorem encodeUtf8_ascii {chars : List Char} (h : ∀ c ∈ chars, c.toNat ≤ 0x7f) :
    encodeUtf8 chars = chars.map fun c => UInt8.ofNat c.toNat := by
  unfold encodeUtf8
  induction chars with
  | nil => rfl
  | cons c chars ih =>
    have hone : String.utf8EncodeChar c = [UInt8.ofNat c.toNat] := by
      unfold String.utf8EncodeChar
      dsimp only
      rw [show c.val.toNat = c.toNat from rfl, if_pos (h c List.mem_cons_self)]
    rw [List.flatMap_cons, List.map_cons, hone,
      ih fun c' hmem => h c' (List.mem_cons_of_mem _ hmem)]
    rfl

/-- A character in two pieces is lost. -/
example : decodeUtf8 [0xc3] ++ decodeUtf8 [0xa9] = [replacementChar, replacementChar] := by
  decide

/-! ### Decoding a whole text -/

def byteOrderMark : Char := '\uFEFF'

/-- `new TextDecoder().decode(data)`: a byte order mark at the beginning is left out. -/
def textDecode (data : List UInt8) : List Char :=
  match decodeUtf8 data with
  | [] => []
  | c :: chars => if c = byteOrderMark then chars else c :: chars

/-- Whole characters are decoded but for a byte order mark. -/
theorem textDecode_encode (chars : List Char) :
    textDecode (encodeUtf8 chars) = chars ∨
      (∃ rest, chars = byteOrderMark :: rest ∧ textDecode (encodeUtf8 chars) = rest) := by
  unfold textDecode
  rw [decodeUtf8_encode]
  cases chars with
  | nil => exact Or.inl rfl
  | cons c rest =>
    dsimp only
    split
    · next heq => exact Or.inr ⟨rest, by rw [heq], rfl⟩
    · exact Or.inl rfl

/-- A text that does not begin with a byte order mark is decoded as it is. -/
theorem textDecode_encode_of_head {chars : List Char} (h : chars.head? ≠ some byteOrderMark) :
    textDecode (encodeUtf8 chars) = chars := by
  rcases textDecode_encode chars with hall | ⟨rest, rfl, -⟩
  · exact hall
  · exact absurd rfl h

end Lib
