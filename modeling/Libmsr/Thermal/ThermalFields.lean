/-
  Libmsr.Thermal.ThermalFields

  The expressions of the thermal functions as operations on fields: `MASK_VAL`
  fetches one, and clearing bits and or-ing a shifted `int` replaces one.
-/
import Libmsr.Lib.BitFields
import Libmsr.Rapl.UnitsSpec
import Libmsr.Thermal.Thermal

namespace Libmsr

open BitFields

/-! ## MASK_VAL -/

/-- A field decodes to `v` if it holds `v`. -/
theorem intField_eq_iff {x : Word} {v : BitVec 32} {m n : Nat} (hmn : n ≤ m) (hm : m < n + 32) :
    intField x m n = v ↔ (BitField.mk n (m + 1 - n)).get x = v.setWidth 64 :=
  maskVal_setWidth_eq_iff hmn hm (by decide)

/-- A one-bit field. -/
theorem intField_bit (x : Word) {n : Nat} (hn : n < 64) :
    intField x n n = BitVec.ofNat 32 (x.getLsbD n).toNat := by
  apply BitVec.eq_of_toNat_eq
  rw [intField, BitVec.toNat_setWidth, maskVal_toNat x (Nat.le_refl n) hn, Nat.sub_self,
    BitVec.toNat_ofNat, ← BitVec.testBit_toNat, Nat.testBit_eq_decide_div_mod_eq]
  rcases Nat.mod_two_eq_zero_or_one (x.toNat / 2 ^ n) with h | h <;> simp [h]

/-! ## Clearing bits and or-ing a value -/

/-- `~(mask<<n)` of an `int`, widened. -/
theorem signExtend_not_mask {n c : Nat} (h : n + c ≤ 31) :
    (~~~ (BitField.mk n c).mask 32).signExtend 64 = ~~~ (BitField.mk n c).mask 64 := by
  apply BitVec.eq_of_getLsbD_eq
  intro i hi
  have hmsb : (~~~ (BitField.mk n c).mask 32).msb = true := by
    have hout : ¬ (BitField.mk n c).Mem 31 := fun hmem => by
      have hlt : 31 < n + c := hmem.2
      omega
    rw [BitVec.msb_eq_getLsbD_last, BitVec.getLsbD_not, BitField.getLsbD_mask _ (by omega)]
    simp [hout]
  rw [BitVec.getLsbD_signExtend, BitVec.getLsbD_not, BitVec.getLsbD_not, hmsb,
    BitField.getLsbD_mask _ hi]
  by_cases hlow : i < 32
  · rw [BitField.getLsbD_mask _ hlow]
    simp [hi, hlow]
  · -- above the `int` only copies of its sign bit
    have hout : ¬ (BitField.mk n c).Mem i := fun hmem => by
      have hlt : i < n + c := hmem.2
      omega
    simp [hi, hlow, hout]

/-- A small `int` shifted left, widened. -/
theorem signExtend_shiftLeft {v : BitVec 32} {j k : Nat} (hv : v.toNat < 2 ^ j)
    (h : k + j ≤ 31) : (v <<< k).signExtend 64 = v.setWidth 64 <<< k := by
  apply BitVec.eq_of_toNat_eq
  have hprod : v.toNat * 2 ^ k < 2 ^ 31 := by
    calc v.toNat * 2 ^ k < 2 ^ j * 2 ^ k := Nat.mul_lt_mul_of_pos_right hv (Nat.two_pow_pos k)
      _ = 2 ^ (k + j) := by rw [← Nat.pow_add, Nat.add_comm]
      _ ≤ 2 ^ 31 := Nat.pow_le_pow_right Nat.two_pos h
  have hshift : (v <<< k).toNat = v.toNat * 2 ^ k := by
    rw [BitVec.toNat_shiftLeft, Nat.shiftLeft_eq, Nat.mod_eq_of_lt (by omega)]
  have hvlt := v.isLt
  rw [Words.toNat_signExtend_of_lt _ (hshift ▸ hprod), hshift, BitVec.toNat_shiftLeft,
    Nat.shiftLeft_eq, BitVec.toNat_setWidth, Nat.mod_eq_of_lt (by omega : v.toNat < 2 ^ 64),
    Nat.mod_eq_of_lt (by omega)]

section Replace

variable {x : Word} {mask v : BitVec 32} {n c j k : Nat}

/-- `(x & (~(mask<<n))) | (val << k)` with all `int`s widened. -/
theorem replaceBits_eq (hmask : mask = (BitVec.allOnes c).setWidth 32) (hn : n + c ≤ 31)
    (hv : v.toNat < 2 ^ j) (hk : k + j ≤ 31) :
    replaceBits x mask n v k = (x &&& ~~~ (BitField.mk n c).mask 64) ||| (v.setWidth 64 <<< k) := by
  have hshift : mask <<< n = (BitField.mk n c).mask 32 := by rw [hmask, BitField.mask]
  rw [replaceBits, hshift, signExtend_not_mask hn, signExtend_shiftLeft hv hk]

theorem toNat_setWidth_lt (hv : v.toNat < 2 ^ j) : (v.setWidth 64).toNat < 2 ^ j := by
  have hvlt := v.isLt
  rw [BitVec.toNat_setWidth, Nat.mod_eq_of_lt (by omega)]
  exact hv

/-- With only the first `c` bits of the field cleared. -/
theorem replaceBits_narrow (hmask : mask = (BitVec.allOnes c).setWidth 32) (hc : c ≤ j)
    (hn : n + j ≤ 31) (hv : v.toNat < 2 ^ j) :
    replaceBits x mask n v n = (BitField.mk n j).put x
      (v.setWidth 64 ||| ((BitField.mk n j).get x &&& ~~~ (BitField.mk 0 c).mask 64)) := by
  rw [replaceBits_eq hmask (by omega) hv hn]
  exact BitField.clear_or hc x (toNat_setWidth_lt hv)

/-- One bit cleared, and one bit or-ed in at a place of its own. -/
theorem getLsbD_replaceBits_bit (hn : n < 31) (hk : k < 31) (hv : v.toNat < 2) {i : Nat}
    (hi : i < 64) : (replaceBits x 1 n v k).getLsbD i =
      ((x.getLsbD i && !decide (i = n)) || (decide (i = k) && v.getLsbD 0)) := by
  have hv' : v.toNat < 2 ^ 1 := by omega
  have hmask : (1 : BitVec 32) = (BitVec.allOnes 1).setWidth 32 := rfl
  rw [replaceBits_eq hmask (by omega) hv' (by omega), BitVec.getLsbD_or,
    BitVec.getLsbD_and, BitVec.getLsbD_not, BitField.getLsbD_mask _ hi, BitVec.getLsbD_shiftLeft,
    BitVec.getLsbD_setWidth]
  have hmem : (BitField.mk n 1).Mem i ↔ i = n := by
    show n ≤ i ∧ i < n + 1 ↔ i = n
    omega
  rcases Nat.lt_trichotomy i k with hlt | rfl | hgt
  · simp [hi, hmem, hlt, Nat.ne_of_lt hlt]
  · simp [hi, hmem]
  · have hzero : v.getLsbD (i - k) = false := Words.getLsbD_of_toNat_lt hv' (by omega)
    simp [hi, hmem, hzero, Nat.ne_of_gt hgt]

end Replace

end Libmsr
