/-
  Libmsr.Rapl.UnitsSpec

  The units as powers of two, and what the two encodings of `translate` that
  set limits compute.

  - `ofMsr_seconds`, `ofMsr_watts`, `ofMsr_joules`: the units from the fields of
    MSR_RAPL_POWER_UNIT.
  - `toU64_spec`, `secondsToBits_spec`: when the conversions are defined, and
    their values.
  - `secondsToBits_real`: over the reals the time field is the one given by
    `Real.logb 2`.
-/
import Libmsr.Lib.BitFields
import Libmsr.Rapl.Units
import Mathlib.Algebra.Order.Floor.Semiring

namespace Libmsr

/-! ## Bit fields -/

/-- `MASK_VAL(x,m,n)` fetches the field of bits `m:n`. -/
theorem maskVal_eq_get (x : Word) {m n k : Nat} (hk : m + 1 = n + k) (hpos : 0 < k) :
    maskVal x m n = (BitFields.BitField.mk n k).get x := by
  have hwidth : m - n + 1 = k := by omega
  rw [maskVal, maskRange, hwidth, ← BitFields.BitField.mask_eq_shift_sub]
  exact BitFields.BitField.and_mask_shift (.mk n k) x

/-- The same as a number. -/
theorem maskVal_toNat (x : Word) {m n : Nat} (hmn : n ≤ m) (hm : m < 64) :
    (maskVal x m n).toNat = x.toNat / 2 ^ n % 2 ^ (m - n + 1) := by
  have hfits : (BitFields.BitField.mk n (m - n + 1)).width ≤ 64 := by
    show m - n + 1 ≤ 64
    omega
  rw [maskVal_eq_get x (k := m - n + 1) (by omega) (by omega),
    BitFields.BitField.toNat_get hfits]

/-- In a narrower type that is wide enough for the field. -/
theorem maskVal_setWidth_eq_iff {w : Nat} {x : Word} {v : BitVec w} {m n : Nat} (hmn : n ≤ m)
    (hw : m < n + w) (hw64 : w ≤ 64) :
    (maskVal x m n).setWidth w = v ↔
      (BitFields.BitField.mk n (m + 1 - n)).get x = v.setWidth 64 := by
  rw [maskVal_eq_get x (k := m + 1 - n) (by omega) (by omega)]
  constructor
  · rintro rfl
    have hwidth : m + 1 - n ≤ w := by omega
    have hfits : (BitFields.BitField.mk n (m + 1 - n)).width ≤ 64 := hwidth.trans hw64
    have hlt : x.toNat / 2 ^ n % 2 ^ (m + 1 - n) < 2 ^ w :=
      (Nat.mod_lt _ (Nat.two_pow_pos _)).trans_le (Nat.pow_le_pow_right Nat.two_pos hwidth)
    apply BitVec.eq_of_toNat_eq
    rw [BitVec.toNat_setWidth, BitVec.toNat_setWidth, BitFields.BitField.toNat_get hfits]
    show x.toNat / 2 ^ n % 2 ^ (m + 1 - n) =
      x.toNat / 2 ^ n % 2 ^ (m + 1 - n) % 2 ^ w % 2 ^ 64
    rw [Nat.mod_eq_of_lt hlt,
      Nat.mod_eq_of_lt (hlt.trans_le (Nat.pow_le_pow_right Nat.two_pos hw64))]
  · intro h
    rw [h, BitVec.setWidth_setWidth_of_le _ hw64, BitVec.setWidth_eq]

theorem maskVal_zero (m n : Nat) : maskVal 0 m n = 0 := by
  simp [maskVal]

/-! ## Units -/

/-- Bits 19:16 of MSR_RAPL_POWER_UNIT. -/
def timeUnit (raw : Word) : Nat := raw.toNat / 2 ^ 16 % 2 ^ 4

/-- Bits 12:8 of MSR_RAPL_POWER_UNIT. -/
def energyUnit (raw : Word) : Nat := raw.toNat / 2 ^ 8 % 2 ^ 5

/-- Bits 3:0 of MSR_RAPL_POWER_UNIT. -/
def powerUnit (raw : Word) : Nat := raw.toNat / 2 ^ 0 % 2 ^ 4

section Units

variable {K : Type} [Field K] (raw : Word)

theorem ofMsr_seconds : (RaplUnits.ofMsr raw : RaplUnits K).seconds = 2 ^ timeUnit raw := by
  have hfield : (maskVal raw 19 16).toNat = timeUnit raw :=
    maskVal_toNat raw (by omega) (by omega)
  have hlt : timeUnit raw < 31 := by
    unfold timeUnit
    omega
  show ((intShiftOne (maskVal raw 19 16).toNat : Int) : K) = _
  rw [hfield, intShiftOne_of_lt hlt, Int.cast_pow, Int.cast_ofNat]

theorem ofMsr_watts : (RaplUnits.ofMsr raw : RaplUnits K).watts = 1 / 2 ^ powerUnit raw := by
  have hfield : (maskVal raw 3 0).toNat = powerUnit raw :=
    maskVal_toNat raw (by omega) (by omega)
  have hlt : powerUnit raw < 31 := by
    unfold powerUnit
    omega
  show 1 / ((intShiftOne (maskVal raw 3 0).toNat : Int) : K) = _
  rw [hfield, intShiftOne_of_lt hlt, Int.cast_pow, Int.cast_ofNat]

/-- The energy unit is `2 ^ ESU`, except that `1 << 31` is negative. -/
theorem ofMsr_joules : (RaplUnits.ofMsr raw : RaplUnits K).joules =
    if energyUnit raw = 31 then -2 ^ 31 else 2 ^ energyUnit raw := by
  have hfield : (maskVal raw 12 8).toNat = energyUnit raw :=
    maskVal_toNat raw (by omega) (by omega)
  show ((intShiftOne (maskVal raw 12 8).toNat : Int) : K) = _
  rw [hfield]
  by_cases h31 : energyUnit raw = 31
  · rw [if_pos h31, h31, intShiftOne_31, Int.cast_neg, Int.cast_pow, Int.cast_ofNat]
  · have hlt : energyUnit raw < 31 := by
      unfold energyUnit at *
      omega
    rw [if_neg h31, intShiftOne_of_lt hlt, Int.cast_pow, Int.cast_ofNat]

end Units

/-! ## Conversions to integers -/

section Conversions

variable {K : Type} [Field K] [LinearOrder K] [IsStrictOrderedRing K] [FloorRing K]

/-- A value below `2 ^ 64` is truncated. -/
theorem toU64_spec {x : K} (h0 : 0 ≤ x) (h : x < 2 ^ 64) :
    ∃ w, toU64 x = some w ∧ w.toNat = ⌊x⌋₊ := by
  have hdef : -1 < x ∧ x < 2 ^ 64 := ⟨lt_of_lt_of_le neg_one_lt_zero h0, h⟩
  refine ⟨BitVec.ofNat 64 ⌊x⌋₊, by rw [toU64, if_pos hdef], ?_⟩
  have hfloor : ⌊x⌋₊ < 2 ^ 64 := by
    rw [Nat.floor_lt h0, Nat.cast_pow, Nat.cast_ofNat]
    exact h
  rw [BitVec.toNat_ofNat, Nat.mod_eq_of_lt hfloor]

theorem toU64_zero : toU64 (0 : K) = some 0 := by
  obtain ⟨w, hw, hnat⟩ := toU64_spec (le_refl (0 : K)) (pow_pos two_pos 64)
  rw [Nat.floor_zero] at hnat
  rw [hw, BitVec.eq_of_toNat_eq (y := 0) hnat]

omit [IsStrictOrderedRing K] in
/-- A larger one has no defined conversion. -/
theorem toU64_none {x : K} (h : ¬ x < 2 ^ 64) : toU64 x = none := by
  rw [toU64, if_neg fun hdef => h hdef.2]

omit [IsStrictOrderedRing K] in
theorem timevalZ_lt (x : K) : (timevalZ x).toNat < 4 := by
  unfold timevalZ
  split
  · decide
  · split
    · decide
    · split <;> decide

/-- The time field of a window of `x` units is defined for `1/2 < x`; it fits in
    `k ≥ 7` bits exactly when `x` is below `2 ^ 2 ^ k`. -/
theorem secondsToBits_spec {x : K} (h0 : 1 / 2 < x) {n : Nat} (hn : 0 < n) (hn64 : n ≤ 2 ^ 64)
    (h : x < 2 ^ n) :
    ∃ w, secondsToBits x = some w ∧
      ∀ k, 7 ≤ k → (w.toNat < 2 ^ k ↔ x < 2 ^ 2 ^ k) := by
  have hpos : 0 < x := lt_trans one_half_pos h0
  have htrunc : Log2.trunc x < n := (Log2.trunc_lt_iff hpos hn).mpr h
  have hdef : 1 / 2 < x ∧ Log2.trunc x < 2 ^ 64 := ⟨h0, by omega⟩
  refine ⟨_, by rw [secondsToBits, if_pos hdef], fun k hk => ?_⟩
  have hz := timevalZ_lt x
  have hpow : 2 ^ 7 ≤ 2 ^ k := Nat.pow_le_pow_right (by omega) hk
  have hzk : (timevalZ x <<< 5).toNat < 2 ^ k := by
    rw [BitVec.toNat_shiftLeft, Nat.shiftLeft_eq]
    omega
  rw [BitVec.toNat_or, BitVec.toNat_ofNat, Nat.mod_eq_of_lt hdef.2,
    ← Log2.trunc_lt_iff hpos (Nat.two_pow_pos k)]
  constructor
  · intro hor
    exact lt_of_le_of_lt Nat.left_le_or hor
  · intro hlt
    exact Nat.or_lt_two_pow hlt hzk

/-- One time unit is encoded as zero. -/
theorem secondsToBits_one : secondsToBits (1 : K) = some 0 := by
  have htrunc : Log2.trunc (1 : K) = 0 := by
    rw [Log2.trunc, Int.log_one_right, Int.toNat_zero]
  have hfrac : ∀ p q, ¬ Log2.FracGt (1 : K) p q := by
    intro p q
    rw [Log2.FracGt, htrunc, one_pow, not_lt, Nat.one_le_cast]
    exact Nat.one_le_two_pow
  have hz : timevalZ (1 : K) = 0 := by
    simp only [timevalZ, hfrac, false_and, if_false]
  rw [secondsToBits, if_pos ⟨one_half_lt_one, by rw [htrunc]; decide⟩, htrunc, hz]
  rfl

omit [IsStrictOrderedRing K] in
/-- A window of at most half a time unit has no defined conversion. -/
theorem secondsToBits_none {x : K} (h : ¬ 1 / 2 < x) : secondsToBits x = none := by
  rw [secondsToBits, if_neg fun hdef => h hdef.1]

end Conversions

/-- Over the reals the time field is what the source computes with `log2`: its
    truncation, and a multiplier chosen from the remainder. -/
theorem secondsToBits_real {x : ℝ} (h0 : 1 / 2 < x) (h : Log2.trunc x < 2 ^ 64) :
    ∃ y : Nat, (y : ℤ) = max ⌊Real.logb 2 x⌋ 0 ∧
      secondsToBits x = some (BitVec.ofNat 64 y |||
        ((if 0.15 < Real.logb 2 x - y ∧ Real.logb 2 x - y ≤ 0.45 then 1
          else if 0.45 < Real.logb 2 x - y ∧ Real.logb 2 x - y ≤ 0.7 then 2
          else if 0.7 < Real.logb 2 x - y then 3 else 0 : Word) <<< 5)) := by
  have hpos : 0 < x := lt_trans one_half_pos h0
  have h15 : Log2.FracGt x 3 20 ↔ 0.15 < Real.logb 2 x - Log2.trunc x :=
    (Log2.fracGt_real hpos (by omega)).trans (by norm_num)
  have h45 : Log2.FracGt x 9 20 ↔ 0.45 < Real.logb 2 x - Log2.trunc x :=
    (Log2.fracGt_real hpos (by omega)).trans (by norm_num)
  have h70 : Log2.FracGt x 7 10 ↔ 0.7 < Real.logb 2 x - Log2.trunc x :=
    (Log2.fracGt_real hpos (by omega)).trans (by norm_num)
  refine ⟨Log2.trunc x, Log2.trunc_real hpos, ?_⟩
  rw [secondsToBits, if_pos ⟨h0, h⟩]
  simp only [timevalZ, h15, h45, h70, not_lt]

end Libmsr
