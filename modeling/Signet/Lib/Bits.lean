import Mathlib.Data.List.Induction
import Mathlib.Algebra.Order.Ring.Nat

/-!
# Numbers and bytes as lists of bits

Bits are listed with the most significant one first.

* `natToBits_bitsToNat`, `bitsToNat_natToBits`: bits of a width and the numbers below its power of
  two.
* `bitsOf_getElem?`: where a bit of a list of bytes lies.
* `bitsOf_injective`: the bits determine the bytes.
* `flatMap_range_pieces`: a list cut into pieces of one length.
-/

namespace Lib

/-- The number that the bits spell. -/
def bitsToNat (bits : List Bool) : Nat :=
  bits.foldl (fun n bit => 2 * n + bit.toNat) 0

/-- The last `width` bits of a number. -/
def natToBits (width n : Nat) : List Bool :=
  (List.range width).map fun i => n.testBit (width - 1 - i)

def bitsOf (bytes : List UInt8) : List Bool :=
  bytes.flatMap fun byte => natToBits 8 byte.toNat

@[simp] theorem bitsToNat_nil : bitsToNat [] = 0 := rfl

/-- One bit more. -/
theorem bitsToNat_append_singleton (bits : List Bool) (bit : Bool) :
    bitsToNat (bits ++ [bit]) = 2 * bitsToNat bits + bit.toNat := by
  unfold bitsToNat
  rw [List.foldl_append]
  rfl

theorem bitsToNat_lt (bits : List Bool) : bitsToNat bits < 2 ^ bits.length := by
  induction bits using List.reverseRecOn with
  | nil => decide
  | append_singleton bits bit ih =>
    rw [bitsToNat_append_singleton, List.length_append, List.length_singleton, pow_succ]
    have hbit : bit.toNat < 2 := Bool.toNat_lt bit
    omega

@[simp] theorem length_natToBits (width n : Nat) : (natToBits width n).length = width := by
  unfold natToBits
  rw [List.length_map, List.length_range]

theorem natToBits_succ (width n : Nat) :
    natToBits (width + 1) n = natToBits width (n / 2) ++ [n.testBit 0] := by
  unfold natToBits
  rw [List.range_succ, List.map_append]
  congr 1
  · refine List.map_congr_left fun i hi => ?_
    have hlt : i < width := List.mem_range.1 hi
    have hpos : width + 1 - 1 - i = width - 1 - i + 1 := by omega
    rw [hpos, Nat.testBit_succ]
  · rw [List.map_singleton, Nat.add_sub_cancel, Nat.sub_self]

theorem natToBits_bitsToNat (bits : List Bool) : natToBits bits.length (bitsToNat bits) = bits := by
  induction bits using List.reverseRecOn with
  | nil => rfl
  | append_singleton bits bit ih =>
    have hbit : bit.toNat < 2 := Bool.toNat_lt bit
    -- the last bit is the parity, the others are the bits of the half
    have hhalf : (2 * bitsToNat bits + bit.toNat) / 2 = bitsToNat bits := by omega
    have hlast : (2 * bitsToNat bits + bit.toNat).testBit 0 = bit := by
      rw [Nat.testBit_zero]
      have hmod : (2 * bitsToNat bits + bit.toNat) % 2 = bit.toNat := by omega
      rw [hmod]
      cases bit <;> rfl
    rw [List.length_append, List.length_singleton, natToBits_succ, bitsToNat_append_singleton,
      hhalf, hlast, ih]

theorem bitsToNat_natToBits {width n : Nat} (h : n < 2 ^ width) :
    bitsToNat (natToBits width n) = n := by
  induction width generalizing n with
  | zero =>
    have hzero : n = 0 := by simpa using h
    rw [hzero]
    rfl
  | succ width ih =>
    have hhalf : n / 2 < 2 ^ width := by
      rw [pow_succ] at h
      omega
    rw [natToBits_succ, bitsToNat_append_singleton, ih hhalf, Nat.testBit_zero]
    have hbit : (decide (n % 2 = 1)).toNat = n % 2 := by
      rcases Nat.mod_two_eq_zero_or_one n with hzero | hone
      · rw [hzero]
        rfl
      · rw [hone]
        rfl
    rw [hbit]
    omega

@[simp] theorem length_bitsOf (bytes : List UInt8) : (bitsOf bytes).length = 8 * bytes.length := by
  induction bytes with
  | nil => rfl
  | cons byte bytes ih =>
    show (natToBits 8 byte.toNat ++ bitsOf bytes).length = _
    rw [List.length_append, length_natToBits, ih, List.length_cons]
    omega

@[simp] theorem bitsOf_append (bytes bytes' : List UInt8) :
    bitsOf (bytes ++ bytes') = bitsOf bytes ++ bitsOf bytes' :=
  List.flatMap_append

/-- **The bit at a position** is the bit of weight `7 - p % 8` of the byte `p / 8`. -/
theorem bitsOf_getElem? (bytes : List UInt8) (p : Nat) :
    (bitsOf bytes)[p]? = bytes[p / 8]?.map fun byte => byte.toNat.testBit (7 - p % 8) := by
  induction bytes generalizing p with
  | nil => rfl
  | cons byte bytes ih =>
    have hlength : (natToBits 8 byte.toNat).length = 8 := length_natToBits _ _
    show (natToBits 8 byte.toNat ++ bitsOf bytes)[p]? = _
    -- the position lies in the first byte, or in one behind it
    rcases Nat.lt_or_ge p 8 with hlt | hge
    · have hdiv : p / 8 = 0 := Nat.div_eq_of_lt hlt
      have hmod : p % 8 = p := Nat.mod_eq_of_lt hlt
      rw [List.getElem?_append_left (by omega), hdiv, hmod]
      unfold natToBits
      rw [List.getElem?_map, List.getElem?_range hlt]
      rfl
    · -- a later byte
      have hdiv : p / 8 = (p - 8) / 8 + 1 := by omega
      have hmod : p % 8 = (p - 8) % 8 := by omega
      rw [List.getElem?_append_right (by omega), hlength, ih, hdiv, hmod, List.getElem?_cons_succ]

/-- **The bits determine the bytes.** -/
theorem bitsOf_injective : Function.Injective bitsOf := by
  intro bytes bytes' h
  induction bytes generalizing bytes' with
  | nil =>
    have hlength := congrArg List.length h
    rw [length_bitsOf, length_bitsOf] at hlength
    have hnil : bytes'.length = 0 := by
      rw [List.length_nil] at hlength
      omega
    exact (List.length_eq_zero_iff.1 hnil).symm
  | cons byte bytes ih =>
    cases bytes' with
    | nil =>
      have hlength := congrArg List.length h
      rw [length_bitsOf, length_bitsOf] at hlength
      cases hlength
    | cons byte' bytes' =>
      -- a byte is eight bits, so the bits of the first bytes agree
      have hsplit : natToBits 8 byte.toNat ++ bitsOf bytes =
          natToBits 8 byte'.toNat ++ bitsOf bytes' := h
      obtain ⟨hhead, htail⟩ := List.append_inj hsplit (by rw [length_natToBits, length_natToBits])
      have hbyte : byte.toNat = byte'.toNat := by
        rw [← bitsToNat_natToBits (n := byte.toNat) (UInt8.toNat_lt byte), hhead,
          bitsToNat_natToBits (UInt8.toNat_lt byte')]
      rw [UInt8.toNat_inj.1 hbyte, ih htail]

/-- Consecutive pieces of one length make up the beginning of the list. -/
theorem flatMap_range_pieces {α : Type} (l : List α) (size n : Nat) :
    (List.range n).flatMap (fun i => (l.drop (i * size)).take size) = l.take (n * size) := by
  induction n with
  | zero => rw [Nat.zero_mul, List.take_zero, List.range_zero, List.flatMap_nil]
  | succ n ih =>
    rw [List.range_succ, List.flatMap_append, ih, List.flatMap_singleton, Nat.succ_mul,
      List.take_add]

end Lib
