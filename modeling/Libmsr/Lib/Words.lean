/-
  Libmsr.Lib.Words

  Facts about fixed-width words that register arithmetic needs: truncation
  undoes sign extension, a non-negative `int` keeps its value when it is
  widened, the halves of a 64-bit word, and fields packed by shifts and ors.
-/
import Mathlib.Data.Nat.Basic
import Mathlib.Tactic.Ring

namespace Words

/-- Truncating a sign-extended word gives the word back. -/
theorem setWidth_signExtend (x : BitVec 32) : (x.signExtend 64).setWidth 32 = x := by
  apply BitVec.eq_of_getLsbD_eq
  intro i hi
  simp only [BitVec.getLsbD_setWidth, BitVec.getLsbD_signExtend, hi, decide_true, Bool.true_and,
    if_true]
  simp only [Nat.lt_trans hi (by omega : 32 < 64), decide_true, Bool.true_and]

/-- Subtracting an `int` and converting back. -/
theorem setWidth_sub_signExtend (y : BitVec 64) (x : BitVec 32) :
    (y - x.signExtend 64).setWidth 32 = y.setWidth 32 - x := by
  rw [BitVec.sub_eq_add_neg, BitVec.setWidth_add _ _ (by omega),
    BitVec.setWidth_neg_of_le (by omega), setWidth_signExtend, ← BitVec.sub_eq_add_neg]

/-- A word with a clear sign bit keeps its value under sign extension. -/
theorem toNat_signExtend_of_lt (x : BitVec 32) (h : x.toNat < 2 ^ 31) :
    (x.signExtend 64).toNat = x.toNat := by
  have hmsb : x.msb = false := by
    rw [BitVec.msb_eq_decide]
    simp only [decide_eq_false_iff_not, Nat.not_le]
    exact h
  rw [BitVec.toNat_signExtend, hmsb, BitVec.toNat_setWidth, if_neg (by decide)]
  omega

/-- A word with its sign bit set becomes huge when it is widened to an unsigned
    type. -/
theorem le_toNat_signExtend_of_le (x : BitVec 32) (h : 2 ^ 31 ≤ x.toNat) :
    2 ^ 31 ≤ (x.signExtend 64).toNat := by
  have hmsb : x.msb = true := by
    rw [BitVec.msb_eq_decide]
    exact decide_eq_true h
  rw [BitVec.toNat_signExtend, hmsb, BitVec.toNat_setWidth, if_pos rfl]
  omega

theorem setWidth_ofNat (n : Nat) : (BitVec.ofNat 64 n).setWidth 32 = BitVec.ofNat 32 n := by
  apply BitVec.eq_of_toNat_eq
  rw [BitVec.toNat_setWidth, BitVec.toNat_ofNat, BitVec.toNat_ofNat]
  omega

theorem signExtend_eq_ofNat (x : BitVec 32) (h : x.toNat < 2 ^ 31) :
    x.signExtend 64 = BitVec.ofNat 64 x.toNat := by
  apply BitVec.eq_of_toNat_eq
  rw [toNat_signExtend_of_lt x h, BitVec.toNat_ofNat]
  omega

/-! ## Single bits -/

/-- Masking with one bit tests it. -/
theorem and_twoPow_ne_zero {n : Nat} (x : BitVec n) {i : Nat} (hi : i < n) :
    x &&& BitVec.twoPow n i ≠ 0 ↔ x.getLsbD i = true := by
  have hne : BitVec.twoPow n i ≠ 0 := by
    intro h
    have hbit := congrArg (fun y => BitVec.getLsbD y i) h
    simp [hi] at hbit
  rw [BitVec.and_twoPow]
  cases x.getLsbD i with
  | false => simp
  | true => simpa using hne

/-- A small word has no high bits. -/
theorem getLsbD_of_toNat_lt {n : Nat} {x : BitVec n} {k i : Nat} (h : x.toNat < 2 ^ k)
    (hi : k ≤ i) : x.getLsbD i = false := by
  rw [← BitVec.testBit_toNat]
  exact Nat.testBit_lt_two_pow (h.trans_le (Nat.pow_le_pow_right Nat.two_pos hi))

/-! ## Halves of a 64-bit word -/

/-- Bits 31:0. -/
def low (x : BitVec 64) : BitVec 32 := x.setWidth 32

theorem low_toNat (x : BitVec 64) : (low x).toNat = x.toNat % 2 ^ 32 := BitVec.toNat_setWidth ..

/-- Bits 63:32. -/
def high (x : BitVec 64) : BitVec 32 := (x >>> 32).setWidth 32

theorem high_toNat (x : BitVec 64) : (high x).toNat = x.toNat / 2 ^ 32 := by
  rw [high, BitVec.toNat_setWidth, BitVec.toNat_ushiftRight, Nat.shiftRight_eq_div_pow]
  have hlt := x.isLt
  omega

@[simp] theorem low_zero : low 0 = 0 := rfl

@[simp] theorem high_zero : high 0 = 0 := rfl

@[simp] theorem low_or (x y : BitVec 64) : low (x ||| y) = low x ||| low y := BitVec.setWidth_or

@[simp] theorem high_or (x y : BitVec 64) : high (x ||| y) = high x ||| high y := by
  rw [high, BitVec.ushiftRight_or_distrib, BitVec.setWidth_or]
  rfl

theorem low_shiftLeft (x : BitVec 64) (k : Nat) : low (x <<< k) = low x <<< k :=
  BitVec.setWidth_shiftLeft_of_le (by omega)

/-- Shifted by at least 32, a word leaves its low half empty. -/
theorem low_shiftLeft_add (x : BitVec 64) (k : Nat) : low (x <<< (k + 32)) = 0 := by
  apply BitVec.eq_of_getLsbD_eq
  intro i hi
  have hlt : i < k + 32 := by omega
  rw [low, BitVec.getLsbD_setWidth, BitVec.getLsbD_shiftLeft]
  simp [hlt]

/-- The high half of a word shifted by at least 32 is its low half shifted by
    the rest. -/
theorem high_shiftLeft_add (x : BitVec 64) (k : Nat) : high (x <<< (k + 32)) = low x <<< k := by
  apply BitVec.eq_of_getLsbD_eq
  intro i hi
  have h64 : 32 + i < 64 := by omega
  have hlt : 32 + i < k + 32 ↔ i < k := by omega
  have hsub : 32 + i - (k + 32) = i - k := by omega
  have hsmall : i - k < 32 := by omega
  simp only [high, low, BitVec.getLsbD_setWidth, BitVec.getLsbD_ushiftRight,
    BitVec.getLsbD_shiftLeft, hi, h64, hlt, hsub, hsmall, decide_true, Bool.true_and]

/-- A word below `2 ^ 32` has an empty high half. -/
theorem high_of_lt {x : BitVec 64} (h : x.toNat < 2 ^ 32) : high x = 0 := by
  apply BitVec.eq_of_toNat_eq
  rw [high, BitVec.toNat_setWidth, BitVec.toNat_ushiftRight, Nat.shiftRight_eq_div_pow,
    Nat.div_eq_of_lt h]
  rfl

/-- The low mask keeps the low half and clears the high one. -/
theorem low_and_low_mask (x : BitVec 64) : low (x &&& 0x00000000FFFFFFFF) = low x := by
  rw [low, BitVec.setWidth_and]
  exact BitVec.and_allOnes

theorem high_and_low_mask (x : BitVec 64) : high (x &&& 0x00000000FFFFFFFF) = 0 := by
  rw [high, BitVec.ushiftRight_and_distrib, BitVec.setWidth_and]
  exact BitVec.and_zero

/-- The high mask keeps the high half and clears the low one. -/
theorem low_and_high_mask (x : BitVec 64) : low (x &&& 0xFFFFFFFF00000000) = 0 := by
  rw [low, BitVec.setWidth_and]
  exact BitVec.and_zero

theorem high_and_high_mask (x : BitVec 64) : high (x &&& 0xFFFFFFFF00000000) = high x := by
  rw [high, BitVec.ushiftRight_and_distrib, BitVec.setWidth_and]
  exact BitVec.and_allOnes

/-! ## Bits of one word among those of another -/

/-- Or-ing in a word changes nothing exactly when its bits are set already. -/
theorem or_eq_left_iff {n : Nat} (x y : BitVec n) :
    x ||| y = x ↔ ∀ i, y.getLsbD i = true → x.getLsbD i = true := by
  constructor
  · intro h i hy
    have hi := congrArg (fun z => z.getLsbD i) h
    simp only [BitVec.getLsbD_or, hy, Bool.or_true] at hi
    exact hi.symm
  · intro h
    apply BitVec.eq_of_getLsbD_eq
    intro i _
    rw [BitVec.getLsbD_or]
    cases hy : y.getLsbD i with
    | false => exact Bool.or_false _
    | true => rw [h i hy, Bool.or_true]

/-! ## Fields -/

/-- A field put above the bits of a smaller word adds up. -/
theorem toNat_or_shiftLeft {n : Nat} (x y : BitVec n) {k : Nat} (hx : x.toNat < 2 ^ k)
    (hk : k ≤ n) : (x ||| y <<< k).toNat = x.toNat + y.toNat % 2 ^ (n - k) * 2 ^ k := by
  have hmod : y.toNat <<< k % 2 ^ n = 2 ^ k * (y.toNat % 2 ^ (n - k)) := by
    have hsplit : (2 : Nat) ^ n = 2 ^ k * 2 ^ (n - k) := by
      rw [← Nat.pow_add, Nat.add_sub_cancel' hk]
    rw [Nat.shiftLeft_eq, Nat.mul_comm, hsplit, Nat.mul_mod_mul_left]
  rw [BitVec.toNat_or, BitVec.toNat_shiftLeft, hmod, Nat.or_comm,
    ← Nat.two_pow_add_eq_or_of_lt hx]
  ring

end Words
