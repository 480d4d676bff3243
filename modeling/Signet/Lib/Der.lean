import Mathlib.Algebra.Group.Nat.Defs
import Mathlib.Data.Nat.Log
import Mathlib.Tactic.Common

/-!
# Numbers as bytes, and DER elements

* `fixedBytes`: a number in big-endian order, in a given number of bytes.
* `minBytes`: in as many bytes as it needs.
* `tlv`: a DER element with its length in short or long form.
* `derInteger`: a natural number as a DER INTEGER, with a sign byte where it needs one.
-/

namespace Lib

/-- The last `width` bytes of a number, most significant first. -/
def fixedBytes : Nat → Nat → List UInt8
  | 0, _ => []
  | width + 1, n => fixedBytes width (n / 256) ++ [.ofNat n]

/-- How many bytes a number needs. -/
def byteLength (n : Nat) : Nat :=
  if n = 0 then 0 else Nat.log 256 n + 1

/-- A number in as many bytes as it needs. -/
def minBytes (n : Nat) : List UInt8 :=
  fixedBytes (byteLength n) n

@[simp] theorem length_fixedBytes (width n : Nat) : (fixedBytes width n).length = width := by
  induction width generalizing n with
  | zero => rfl
  | succ width ih => rw [fixedBytes, List.length_append, ih, List.length_singleton]

@[simp] theorem length_minBytes (n : Nat) : (minBytes n).length = byteLength n :=
  length_fixedBytes _ _

/-- The first byte apart. -/
theorem fixedBytes_succ (width n : Nat) :
    fixedBytes (width + 1) n = .ofNat (n / 256 ^ width) :: fixedBytes width n := by
  induction width generalizing n with
  | zero =>
    rw [Nat.pow_zero, Nat.div_one]
    rfl
  | succ width ih =>
    rw [fixedBytes, ih, List.cons_append, Nat.div_div_eq_div_mul, ← Nat.pow_succ']
    rfl

theorem fixedBytes_add {width n : Nat} (h : n < 256 ^ width) (k : Nat) :
    fixedBytes (k + width) n = List.replicate k 0 ++ fixedBytes width n := by
  induction k with
  | zero => rw [Nat.zero_add, List.replicate_zero, List.nil_append]
  | succ k ih =>
    have hlt : n < 256 ^ (k + width) :=
      lt_of_lt_of_le h (Nat.pow_le_pow_right (by decide) (Nat.le_add_left _ _))
    rw [Nat.add_right_comm, fixedBytes_succ, Nat.div_eq_of_lt hlt, ih]
    rfl

theorem lt_pow_byteLength (n : Nat) : n < 256 ^ byteLength n := by
  unfold byteLength
  split
  · next hzero =>
    rw [hzero]
    decide
  · exact Nat.lt_pow_succ_log_self (by decide) n

theorem byteLength_le {n width : Nat} (h : n < 256 ^ width) : byteLength n ≤ width := by
  unfold byteLength
  split
  · exact Nat.zero_le _
  · next hzero => exact Nat.log_lt_of_lt_pow hzero h

theorem byteLength_eq {n width : Nat} (hle : 256 ^ width ≤ n) (hlt : n < 256 ^ (width + 1)) :
    byteLength n = width + 1 := by
  have hzero : n ≠ 0 := by
    rintro rfl
    exact absurd hle (not_le.2 (Nat.pow_pos (by decide)))
  unfold byteLength
  rw [if_neg hzero, (Nat.log_eq_iff (Or.inr ⟨by decide, hzero⟩)).2 ⟨hle, hlt⟩]

theorem byteLength_pos {n : Nat} (h : 0 < n) : 0 < byteLength n := by
  unfold byteLength
  rw [if_neg (Nat.ne_of_gt h)]
  exact Nat.succ_pos _

theorem fixedBytes_eq_minBytes {n width : Nat} (h : n < 256 ^ width) :
    fixedBytes width n = List.replicate (width - byteLength n) 0 ++ minBytes n := by
  rw [minBytes, ← fixedBytes_add (lt_pow_byteLength n), Nat.sub_add_cancel (byteLength_le h)]

/-! ### Elements -/

/-- A length, in short or long form. -/
def derLength (n : Nat) : List UInt8 :=
  if n < 128 then [.ofNat n] else .ofNat (128 + byteLength n) :: minBytes n

/-- An element: its tag, its length and its content. -/
def tlv (tag : UInt8) (content : List UInt8) : List UInt8 :=
  tag :: (derLength content.length ++ content)

theorem derLength_short {n : Nat} (h : n < 128) : derLength n = [.ofNat n] :=
  if_pos h

/-- The content of an INTEGER: a byte more where the first bit would be taken for a sign. -/
def integerContent (n : Nat) : List UInt8 :=
  if 128 ≤ n / 256 ^ (byteLength n - 1) then 0 :: minBytes n else minBytes n

/-- A natural number as an INTEGER. -/
def derInteger (n : Nat) : List UInt8 :=
  tlv 0x02 (integerContent n)

/-- The content is the number with zeros before it, or one zero too many. -/
theorem integerContent_cases {n width : Nat} (h : n < 256 ^ width) :
    ((integerContent n).length ≤ width ∧ fixedBytes width n =
        List.replicate (width - (integerContent n).length) 0 ++ integerContent n) ∨
      ((integerContent n).length = width + 1 ∧ integerContent n = 0 :: fixedBytes width n) := by
  have hle := byteLength_le h
  unfold integerContent
  split
  · rw [List.length_cons, length_minBytes]
    -- a leading zero keeps the sign: it fits in the width, or is the one byte beyond it
    rcases Nat.lt_or_eq_of_le hle with hlt | heq
    · refine Or.inl ⟨hlt, ?_⟩
      have hsucc : width - byteLength n = width - (byteLength n + 1) + 1 := by omega
      rw [fixedBytes_eq_minBytes h, hsucc, List.replicate_succ', List.append_assoc,
        List.singleton_append]
    · refine Or.inr ⟨by rw [heq], ?_⟩
      rw [minBytes, heq]
  · rw [length_minBytes]
    exact Or.inl ⟨hle, fixedBytes_eq_minBytes h⟩

/-- A number whose first bit is not set in the bytes it needs. -/
theorem integerContent_length_eq {n width : Nat} (hle : 256 ^ width ≤ n)
    (hlt : n < 128 * 256 ^ width) : (integerContent n).length = width + 1 := by
  have hbytes : byteLength n = width + 1 := by
    refine byteLength_eq hle (lt_of_lt_of_le hlt ?_)
    rw [Nat.pow_succ, Nat.mul_comm]
    exact Nat.mul_le_mul_left _ (by decide)
  -- the first byte is below 128, so no zero is put in front
  have hsign : ¬ 128 ≤ n / 256 ^ (byteLength n - 1) := by
    rw [hbytes, Nat.add_sub_cancel]
    exact Nat.not_le.2 (Nat.div_lt_of_lt_mul (by rw [Nat.mul_comm]; exact hlt))
  unfold integerContent
  rw [if_neg hsign, length_minBytes, hbytes]

theorem integerContent_length_pos {n : Nat} (h : 0 < n) : 0 < (integerContent n).length := by
  have hpos := byteLength_pos h
  unfold integerContent
  split
  · exact Nat.succ_pos _
  · rw [length_minBytes]
    exact hpos

end Lib
