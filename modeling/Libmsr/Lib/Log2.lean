/-
  Libmsr.Lib.Log2

  The base-2 logarithm of a positive number as programs use it: its integer
  part, truncated toward zero, and comparisons of the rest with a fraction.
  Both are decided by comparing powers, so they compute over any ordered field
  with a floor, and over the reals they are the same questions about
  `Real.logb 2`.
-/
import Mathlib.Analysis.SpecialFunctions.Log.Base
import Mathlib.Data.Int.Log

namespace Log2

variable {K : Type*} [Field K] [LinearOrder K] [IsStrictOrderedRing K] [FloorRing K]

/-- The integer part of the logarithm of `x`, truncated toward zero; meant for
    `1/2 < x`, where the logarithm is above -1. -/
def trunc (x : K) : Nat := (Int.log 2 x).toNat

/-- The logarithm of `x` exceeds its integer part by more than `p / q`. -/
def FracGt (x : K) (p q : Nat) : Prop := (2 ^ (trunc x * q + p) : Nat) < x ^ q

instance (x : K) (p q : Nat) : Decidable (FracGt x p q) := inferInstanceAs (Decidable (_ < _))

/-- The integer part is below `n` exactly when the number is below `2 ^ n`. -/
theorem trunc_lt_iff {x : K} (hx : 0 < x) {n : Nat} (hn : 0 < n) :
    trunc x < n ↔ x < 2 ^ n := by
  have hlog : Int.log 2 x < (n : Int) ↔ x < ((2 : Nat) : K) ^ (n : Int) :=
    (Int.lt_zpow_iff_log_lt Nat.one_lt_two hx).symm
  rw [zpow_natCast, Nat.cast_ofNat] at hlog
  rw [← hlog, trunc]
  omega

/-! ## Mantissa

  From 1 on, a number is a power of two times a mantissa in `[1, 2)`. -/

theorem two_pow_trunc_le {x : K} (hx : 1 ≤ x) : 2 ^ trunc x ≤ x := by
  rcases Nat.eq_zero_or_pos (trunc x) with hzero | hpos
  · rwa [hzero, pow_zero]
  · by_contra hlt
    exact absurd ((trunc_lt_iff (zero_lt_one.trans_le hx) hpos).mpr (not_le.mp hlt))
      (lt_irrefl _)

theorem lt_two_pow_trunc {x : K} (hx : 0 < x) : x < 2 ^ (trunc x + 1) :=
  (trunc_lt_iff hx (Nat.succ_pos _)).mp (Nat.lt_succ_self _)

/-- The integer part is the exponent of the power of two below. -/
theorem trunc_eq {x : K} {n : Nat} (hle : 2 ^ n ≤ x) (hlt : x < 2 ^ (n + 1)) : trunc x = n := by
  have hpos : 0 < x := (pow_pos two_pos n).trans_le hle
  have hupper : trunc x < n + 1 := (trunc_lt_iff hpos (Nat.succ_pos n)).mpr hlt
  have hlower : ¬ trunc x < n := fun h =>
    absurd ((trunc_lt_iff hpos (Nat.zero_lt_of_lt h)).mp h) (not_lt.mpr hle)
  omega

theorem trunc_mono {x y : K} (hx : 1 ≤ x) (hxy : x ≤ y) : trunc x ≤ trunc y := by
  by_contra hlt
  have hpow : (2 : K) ^ (trunc y + 1) ≤ 2 ^ trunc x :=
    pow_le_pow_right₀ one_le_two (not_le.mp hlt)
  have hy := lt_two_pow_trunc (zero_lt_one.trans_le (hx.trans hxy))
  exact absurd ((hpow.trans (two_pow_trunc_le hx)).trans hxy) (not_le.mpr hy)

/-- The factor beside the power of two. -/
def mantissa (x : K) : K := x / ((2 : Nat) : K) ^ trunc x

omit [IsStrictOrderedRing K] in
theorem mantissa_eq (x : K) : mantissa x = x / 2 ^ trunc x := by
  rw [mantissa, Nat.cast_ofNat]

theorem mantissa_mul (x : K) : mantissa x * 2 ^ trunc x = x := by
  rw [mantissa_eq]
  exact div_mul_cancel₀ x (pow_ne_zero _ two_ne_zero)

theorem one_le_mantissa {x : K} (hx : 1 ≤ x) : 1 ≤ mantissa x := by
  rw [mantissa_eq, one_le_div (pow_pos two_pos _)]
  exact two_pow_trunc_le hx

theorem mantissa_lt_two {x : K} (hx : 0 < x) : mantissa x < 2 := by
  rw [mantissa_eq, div_lt_iff₀ (pow_pos two_pos _), ← pow_succ']
  exact lt_two_pow_trunc hx

/-- A mantissa and an exponent are those of their product. -/
theorem trunc_mul {m : K} (h1 : 1 ≤ m) (h2 : m < 2) (n : Nat) : trunc (m * 2 ^ n) = n := by
  have hpow : (0 : K) < 2 ^ n := pow_pos two_pos n
  apply trunc_eq
  · exact le_mul_of_one_le_left hpow.le h1
  · rw [pow_succ']
    exact mul_lt_mul_of_pos_right h2 hpow

theorem mantissa_mul_pow {m : K} (h1 : 1 ≤ m) (h2 : m < 2) (n : Nat) :
    mantissa (m * 2 ^ n) = m := by
  rw [mantissa_eq, trunc_mul h1 h2]
  exact mul_div_cancel_right₀ m (pow_ne_zero n two_ne_zero)

/-- The comparison of the fractional part is one of the mantissa. -/
theorem fracGt_iff_mantissa (x : K) (p q : Nat) : FracGt x p q ↔ 2 ^ p < mantissa x ^ q := by
  have hpow : (0 : K) < 2 ^ (trunc x * q) := pow_pos two_pos _
  have hx : x ^ q = 2 ^ (trunc x * q) * mantissa x ^ q := by
    conv_lhs => rw [← mantissa_mul x, mul_pow, ← pow_mul, mul_comm]
  rw [FracGt, Nat.cast_pow, Nat.cast_ofNat, hx, pow_add]
  exact mul_lt_mul_iff_right₀ hpow

/-! ## Over the reals -/

/-- The floor of the logarithm, or 0 where that is negative. -/
theorem trunc_real {x : ℝ} (hx : 0 < x) : (trunc x : ℤ) = max ⌊Real.logb 2 x⌋ 0 := by
  have hfloor : ⌊Real.logb ((2 : Nat) : ℝ) x⌋ = Int.log 2 x := Real.floor_logb_natCast hx.le
  rw [Nat.cast_ofNat] at hfloor
  rw [hfloor, trunc, Int.ofNat_toNat]

/-- The comparison of the fractional part. -/
theorem fracGt_real {x : ℝ} (hx : 0 < x) {p q : Nat} (hq : 0 < q) :
    FracGt x p q ↔ (p : ℝ) / q < Real.logb 2 x - trunc x := by
  have hq' : (0 : ℝ) < q := Nat.cast_pos.mpr hq
  have hpow : FracGt x p q ↔ ((trunc x * q + p : Nat) : ℝ) < q * Real.logb 2 x := by
    rw [FracGt, Nat.cast_pow, Nat.cast_ofNat,
      ← Real.logb_lt_logb_iff one_lt_two (by positivity) (by positivity), Real.logb_pow,
      Real.logb_pow, Real.logb_self_eq_one one_lt_two, mul_one]
  rw [hpow, div_lt_iff₀ hq', Nat.cast_add, Nat.cast_mul]
  constructor
  · intro h
    linarith
  · intro h
    linarith

end Log2
