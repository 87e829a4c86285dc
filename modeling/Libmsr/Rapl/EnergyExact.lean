/-
  Libmsr.Rapl.EnergyExact

  Energy deltas between two readings, against the energy counted.

  The counters show the number of energy units modulo `2 ^ 32`.  Between two
  polls without wraparound the deltas are the energy counted in between.  At a
  wraparound the package delta is one unit short, since UINT_MAX is added where
  `2 ^ 32` is missing, and the DRAM delta is off by about `2 ^ 32` joules, since
  UINT_MAX is added to joules.
-/
import Libmsr.Lib.WrapCounter
import Libmsr.Rapl.EnergyPoll

namespace Libmsr

open WrapCounter

section EnergyExact

variable {K : Type} [Field K]

/-! ## Units -/

section Units

variable {raw : Word}

theorem unitsPerJoule_of_ne (h : energyUnit raw ≠ 31) :
    (unitsPerJoule raw : K) = 2 ^ energyUnit raw := by
  rw [unitsPerJoule, ofMsr_joules, if_neg h]

theorem unitsPerJoule_of_eq (h : energyUnit raw = 31) : (unitsPerJoule raw : K) = -2 ^ 31 := by
  rw [unitsPerJoule, ofMsr_joules, if_pos h]

/-- The DRAM energy units in a joule: 65536 on the models with a fixed unit,
    `2 ^ ESU` on the others. -/
def dramUnit (model : Nat) (raw : Word) : Nat :=
  if fixedDramUnit model then 65536 else 2 ^ energyUnit raw

theorem dramUnit_pos (model : Nat) (raw : Word) : 0 < dramUnit model raw := by
  unfold dramUnit
  split
  · decide
  · exact Nat.two_pow_pos _

theorem dramUnitsPerJoule_eq {model : Nat} (h : fixedDramUnit model = true ∨ energyUnit raw ≠ 31) :
    (dramUnitsPerJoule model raw : K) = (dramUnit model raw : K) := by
  unfold dramUnitsPerJoule dramUnit
  by_cases hfixed : fixedDramUnit model = true
  · rw [if_pos hfixed, if_pos hfixed, Nat.cast_ofNat]
  · rw [if_neg hfixed, if_neg hfixed, unitsPerJoule_of_ne (h.resolve_left hfixed), Nat.cast_pow,
      Nat.cast_ofNat]

end Units

/-! ## One delta -/

/-- The word an energy counter shows after `total` units. -/
def counterWord (total : Nat) : Word := BitVec.ofNat 64 (reading 32 total)

theorem counterWord_toNat (total : Nat) : (counterWord total).toNat = reading 32 total := by
  have hlt := reading_lt 32 total
  rw [counterWord, BitVec.toNat_ofNat, Nat.mod_eq_of_lt (by omega)]

/-- When the package delta from `total` to `total'` is exact: there was no
    wraparound, and the unit is not the one that `1 << 31` gives. -/
def PkgExact (raw : Word) (total total' : Nat) : Prop :=
  ¬ Wrapped 32 total total' ∧ (energyUnit raw ≠ 31 ∨ total' = total)

/-- When the DRAM delta from `total` to `total'` is exact.  With a negative unit
    it is the decreasing readings that look like an increase, and they are
    right when they are half the range apart. -/
def DramExact (model : Nat) (raw : Word) (total total' : Nat) : Prop :=
  if fixedDramUnit model = true ∨ energyUnit raw ≠ 31 then ¬ Wrapped 32 total total'
  else total' = total ∨ Wrapped 32 total total' ∧ total' - total = 2 ^ 31

section OneDelta

variable {total total' : Nat} (hle : total ≤ total') (hadv : total' - total < 2 ^ 32)
include hle hadv

/-- Without wraparound the joules differ by the advance. -/
theorem joules_sub_of_not_wrapped (unit : K) (h : ¬ Wrapped 32 total total') :
    ((counterWord total').toNat : K) / unit - ((counterWord total).toNat : K) / unit =
      ((total' - total : Nat) : K) / unit := by
  have hnew := reading_of_not_wrapped hle hadv h
  rw [counterWord_toNat, counterWord_toNat, ← sub_div, ← hnew, Nat.cast_add, add_sub_cancel_left]

/-- With wraparound `2 ^ 32` units are missing. -/
theorem joules_sub_of_wrapped (unit : K) (h : Wrapped 32 total total') :
    ((counterWord total').toNat : K) / unit - ((counterWord total).toNat : K) / unit =
      (((total' - total : Nat) : K) - 2 ^ 32) / unit := by
  have hnew := congrArg (Nat.cast (R := K)) (reading_of_wrapped hle hadv h)
  rw [Nat.cast_add, Nat.cast_add, Nat.cast_pow, Nat.cast_ofNat] at hnew
  rw [counterWord_toNat, counterWord_toNat, ← sub_div]
  congr 1
  linear_combination -hnew

/-- Without wraparound the package delta is the advance. -/
theorem pkgDeltaJoules_not_wrapped (unit : K) (h : ¬ Wrapped 32 total total') :
    pkgDeltaJoules unit (counterWord total) (counterWord total') =
      ((total' - total : Nat) : K) / unit := by
  have hcmp : ¬ (counterWord total').toNat < (counterWord total).toNat := by
    rw [counterWord_toNat, counterWord_toNat]
    exact h
  rw [pkgDeltaJoules, if_neg hcmp, joules_sub_of_not_wrapped hle hadv unit h]

/-- With wraparound it is one unit short. -/
theorem pkgDeltaJoules_wrapped (unit : K) (h : Wrapped 32 total total') :
    pkgDeltaJoules unit (counterWord total) (counterWord total') =
      (((total' - total : Nat) : K) - 1) / unit := by
  have hnew := reading_of_wrapped hle hadv h
  have hlt := reading_lt 32 total
  unfold Wrapped at h
  have hbits : (counterWord total' + BitVec.ofNat 64 maxJoules - counterWord total).toNat + 1 =
      total' - total := by
    rw [BitVec.toNat_sub, BitVec.toNat_add, BitVec.toNat_ofNat, counterWord_toNat,
      counterWord_toNat, maxJoules]
    omega
  rw [pkgDeltaJoules, counterWord_toNat, counterWord_toNat, if_pos h, ← hbits, Nat.cast_add,
    Nat.cast_one, add_sub_cancel_right]

variable [LinearOrder K] [IsStrictOrderedRing K]

/-- **One package delta** is the energy counted if and only if it is `PkgExact`. -/
theorem pkgDeltaJoules_exact_iff (raw : Word) :
    pkgDeltaJoules (unitsPerJoule raw : K) (counterWord total) (counterWord total') =
      ((total' - total : Nat) : K) / 2 ^ energyUnit raw ↔ PkgExact raw total total' := by
  have hpow : (2 : K) ^ energyUnit raw ≠ 0 := pow_ne_zero _ two_ne_zero
  by_cases hwrap : Wrapped 32 total total'
  · rw [pkgDeltaJoules_wrapped hle hadv _ hwrap]
    refine iff_of_false ?_ fun h => h.1 hwrap
    by_cases h31 : energyUnit raw = 31
    · -- the negative unit would need a count of one half
      rw [unitsPerJoule_of_eq h31, h31, div_neg, ← neg_div, div_left_inj' (by norm_num)]
      intro heq
      have hhalf : ((2 * (total' - total) : Nat) : K) = ((1 : Nat) : K) := by
        rw [Nat.cast_mul, Nat.cast_ofNat, Nat.cast_one]
        linear_combination -heq
      have := Nat.cast_injective hhalf
      omega
    · -- a positive unit would need 0 = 1
      rw [unitsPerJoule_of_ne h31, div_left_inj' hpow]
      intro heq
      exact one_ne_zero (sub_eq_self.mp heq)
  · rw [pkgDeltaJoules_not_wrapped hle hadv _ hwrap]
    by_cases h31 : energyUnit raw = 31
    · rw [unitsPerJoule_of_eq h31, h31, div_neg, neg_eq_self, div_eq_zero_iff, Nat.cast_eq_zero]
      unfold PkgExact
      have hne : ¬ (2 : K) ^ 31 = 0 := by norm_num
      simp only [hwrap, hne, h31, not_false_eq_true, true_and, or_false, ne_eq, not_true_eq_false,
        false_or]
      omega
    · rw [unitsPerJoule_of_ne h31]
      exact iff_of_true rfl ⟨hwrap, Or.inl h31⟩

/-- A DRAM delta in positive units is exact without wraparound, and off by about
    `2 ^ 32` joules with it. -/
theorem dramDeltaJoules_natUnit {m : Nat} (hm : 0 < m) :
    dramDeltaJoules (m : K) (counterWord total) (counterWord total') =
      ((total' - total : Nat) : K) / m ↔ ¬ Wrapped 32 total total' := by
  have hmK : (0 : K) < m := Nat.cast_pos.mpr hm
  have hcmp : ((counterWord total').toNat : K) / m - ((counterWord total).toNat : K) / m < 0 ↔
      Wrapped 32 total total' := by
    rw [sub_neg, div_lt_div_iff_of_pos_right hmK, Nat.cast_lt, counterWord_toNat,
      counterWord_toNat]
    exact Iff.rfl
  by_cases hwrap : Wrapped 32 total total'
  · refine iff_of_false ?_ fun h => h hwrap
    have hsub := joules_sub_of_wrapped hle hadv (m : K) hwrap
    rw [dramDeltaJoules, if_pos (hcmp.mpr hwrap), add_sub_right_comm, hsub]
    intro heq
    -- UINT_MAX joules would have to be `2 ^ 32` units
    have hunits : ((maxJoules * m : Nat) : K) = ((2 ^ 32 : Nat) : K) := by
      rw [← sub_eq_zero, ← mul_right_inj' (inv_ne_zero hmK.ne'), mul_zero]
      have hdiv := sub_eq_zero.mpr heq
      push_cast at hdiv ⊢
      field_simp at hdiv ⊢
      linear_combination hdiv
    have hnat := Nat.cast_injective hunits
    rw [maxJoules] at hnat
    omega
  · refine iff_of_true ?_ hwrap
    rw [dramDeltaJoules, if_neg (mt hcmp.mp hwrap), joules_sub_of_not_wrapped hle hadv _ hwrap]

/-- In units of `-2 ^ 31` decreasing readings pass for increasing joules. -/
theorem dramDeltaJoules_negUnit_wrapped (hwrap : Wrapped 32 total total') :
    dramDeltaJoules (-2 ^ 31 : K) (counterWord total) (counterWord total') =
      ((total' - total : Nat) : K) / 2 ^ 31 ↔ total' - total = 2 ^ 31 := by
  have hpow : (0 : K) < 2 ^ 31 := by norm_num
  have hadvK : ((total' - total : Nat) : K) < 2 ^ 32 := by
    rw [← Nat.cast_ofNat, ← Nat.cast_pow, Nat.cast_lt]
    exact hadv
  have hpos : ¬ (((total' - total : Nat) : K) - 2 ^ 32) / -2 ^ 31 < 0 := by
    rw [not_lt, div_neg, neg_nonneg]
    exact div_nonpos_of_nonpos_of_nonneg (by linarith) hpow.le
  rw [dramDeltaJoules, joules_sub_of_wrapped hle hadv _ hwrap, if_neg hpos, div_neg, ← neg_div,
    div_left_inj' hpow.ne', neg_sub]
  constructor
  · -- what is missing to `2 ^ 32` has to be what was counted
    intro heq
    have hnat : ((2 * (total' - total) : Nat) : K) = ((2 ^ 32 : Nat) : K) := by
      push_cast
      linear_combination -heq
    have := Nat.cast_injective hnat
    omega
  · intro heq
    rw [heq]
    norm_num

/-- And increasing readings look like wraparound: only no advance is exact. -/
theorem dramDeltaJoules_negUnit_not_wrapped (hwrap : ¬ Wrapped 32 total total') :
    dramDeltaJoules (-2 ^ 31 : K) (counterWord total) (counterWord total') =
      ((total' - total : Nat) : K) / 2 ^ 31 ↔ total' = total := by
  have hpow : (0 : K) < 2 ^ 31 := by norm_num
  have hsub := joules_sub_of_not_wrapped hle hadv (-2 ^ 31 : K) hwrap
  rcases Nat.eq_zero_or_pos (total' - total) with hzero | hpos
  · rw [dramDeltaJoules, hsub, hzero]
    simp only [Nat.cast_zero, zero_div, lt_irrefl, if_false, true_iff]
    omega
  · refine iff_of_false ?_ (by omega)
    have hposK : (0 : K) < ((total' - total : Nat) : K) := Nat.cast_pos.mpr hpos
    have hneg : ((total' - total : Nat) : K) / -2 ^ 31 < 0 := by
      rw [div_neg, neg_lt_zero]
      exact div_pos hposK hpow
    rw [dramDeltaJoules, add_sub_right_comm, hsub, if_pos hneg, div_neg]
    intro heq
    -- twice the advance would be UINT_MAX times `2 ^ 31`
    have hnat : ((2 * (total' - total) : Nat) : K) = ((maxJoules * 2 ^ 31 : Nat) : K) := by
      rw [eq_div_iff hpow.ne', add_mul, neg_mul, div_mul_cancel₀ _ hpow.ne'] at heq
      push_cast
      linear_combination -heq
    have := Nat.cast_injective hnat
    rw [maxJoules] at this
    omega

/-- A DRAM delta in units of `-2 ^ 31`: increasing readings look like
    wraparound, decreasing ones do not. -/
theorem dramDeltaJoules_negUnit :
    dramDeltaJoules (-2 ^ 31 : K) (counterWord total) (counterWord total') =
      ((total' - total : Nat) : K) / 2 ^ 31 ↔
      total' = total ∨ Wrapped 32 total total' ∧ total' - total = 2 ^ 31 := by
  by_cases hwrap : Wrapped 32 total total'
  · have hne : total' ≠ total := by
      rintro rfl
      exact lt_irrefl _ hwrap
    rw [dramDeltaJoules_negUnit_wrapped hle hadv hwrap]
    simp only [hwrap, hne, true_and, false_or]
  · rw [dramDeltaJoules_negUnit_not_wrapped hle hadv hwrap]
    simp only [hwrap, false_and, or_false]

/-- **One DRAM delta** is the energy counted if and only if it is `DramExact`. -/
theorem dramDeltaJoules_exact_iff (model : Nat) (raw : Word) :
    dramDeltaJoules (dramUnitsPerJoule model raw : K) (counterWord total) (counterWord total') =
      ((total' - total : Nat) : K) / dramUnit model raw ↔ DramExact model raw total total' := by
  unfold DramExact
  by_cases hunit : fixedDramUnit model = true ∨ energyUnit raw ≠ 31
  · rw [dramUnitsPerJoule_eq hunit, if_pos hunit]
    exact dramDeltaJoules_natUnit hle hadv (dramUnit_pos model raw)
  · have hfixed : ¬ fixedDramUnit model = true := fun h => hunit (Or.inl h)
    have h31 : energyUnit raw = 31 := by
      by_contra h
      exact hunit (Or.inr h)
    have hdram : ((dramUnit model raw : Nat) : K) = 2 ^ 31 := by
      rw [dramUnit, if_neg hfixed, h31, Nat.cast_pow, Nat.cast_ofNat]
    rw [if_neg hunit, dramUnitsPerJoule, if_neg hfixed, unitsPerJoule_of_eq h31, hdram]
    exact dramDeltaJoules_negUnit hle hadv

end OneDelta

end EnergyExact

end Libmsr
