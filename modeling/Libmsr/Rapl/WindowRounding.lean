/-
  Libmsr.Rapl.WindowRounding

  What `translate` (src/msr_rapl.c) makes of a time window when it is encoded with
  SECONDS_TO_BITS_STD and decoded with BITS_TO_SECONDS_STD, without rounding errors
  of the arithmetic.

  The encoding keeps the exponent of the window and rounds its mantissa to a quarter
  step.  The comparisons of the logarithm with 0.15, 0.45 and 0.7 are comparisons of
  powers of the mantissa: `quarters` counts those it passes.  Over the reals they are
  the comparisons that the source makes (`secondsToBits_real`).
-/
import Libmsr.Rapl.UnitsSpec

namespace Libmsr

open Log2

section Rounding

variable {K : Type} [Field K] [LinearOrder K] [IsStrictOrderedRing K]

/-! ## Quarter steps -/

/-- The thresholds below a mantissa: its logarithm is above 0.15, 0.45 and 0.7. -/
def quarters (m : K) : Nat :=
  (if ((2 ^ 3 : Nat) : K) < m ^ 20 then 1 else 0) +
    (if ((2 ^ 9 : Nat) : K) < m ^ 20 then 1 else 0) +
    (if ((2 ^ 7 : Nat) : K) < m ^ 10 then 1 else 0)

omit [IsStrictOrderedRing K] in
theorem quarters_eq (m : K) : quarters m = (if 2 ^ 3 < m ^ 20 then 1 else 0) +
    (if 2 ^ 9 < m ^ 20 then 1 else 0) + (if 2 ^ 7 < m ^ 10 then 1 else 0) := by
  simp only [quarters, Nat.cast_pow, Nat.cast_ofNat]

/-- The mantissa that is decoded. -/
def quarterStep (z : Nat) : K := 1 + 1 / ((4 : Nat) : K) * (z : K)

omit [LinearOrder K] [IsStrictOrderedRing K] in
theorem quarterStep_eq (z : Nat) : (quarterStep z : K) = 1 + 1 / 4 * (z : K) := by
  rw [quarterStep, Nat.cast_ofNat]

omit [IsStrictOrderedRing K] in
theorem quarters_le (m : K) : quarters m ≤ 3 := by
  unfold quarters
  split <;> split <;> split <;> omega

theorem quarters_mono {m m' : K} (hm : 0 ≤ m) (hle : m ≤ m') : quarters m ≤ quarters m' := by
  have hpass : ∀ (c : K) (n : Nat),
      (if c < m ^ n then 1 else 0 : Nat) ≤ if c < m' ^ n then 1 else 0 := by
    intro c n
    by_cases h : c < m ^ n
    · rw [if_pos h, if_pos (h.trans_le (pow_le_pow_left₀ hm hle n))]
    · rw [if_neg h]
      exact Nat.zero_le _
  exact Nat.add_le_add (Nat.add_le_add (hpass _ 20) (hpass _ 20)) (hpass _ 10)

/-- A threshold that is passed is a lower bound, and one that is not an upper bound. -/
theorem above_of_pow {m c : K} (hm : 0 ≤ m) {n : Nat} {p : K} (h : p < m ^ n) (hc : c ^ n ≤ p) :
    c < m :=
  lt_of_pow_lt_pow_left₀ n hm (hc.trans_lt h)

theorem below_of_pow {m c : K} (hc0 : 0 ≤ c) {n : Nat} {p : K} (h : ¬ p < m ^ n)
    (hc : p < c ^ n) : m < c :=
  lt_of_pow_lt_pow_left₀ n hc0 ((not_lt.mp h).trans_lt hc)

/-- The thresholds are in order, so the last one passed is the count. -/
theorem quarters_cases (m : K) :
    (quarters m = 0 ∧ ¬ 2 ^ 3 < m ^ 20 ∧ ¬ 2 ^ 9 < m ^ 20 ∧ ¬ 2 ^ 7 < m ^ 10) ∨
    (quarters m = 1 ∧ 2 ^ 3 < m ^ 20 ∧ ¬ 2 ^ 9 < m ^ 20 ∧ ¬ 2 ^ 7 < m ^ 10) ∨
    (quarters m = 2 ∧ 2 ^ 3 < m ^ 20 ∧ 2 ^ 9 < m ^ 20 ∧ ¬ 2 ^ 7 < m ^ 10) ∨
    (quarters m = 3 ∧ 2 ^ 3 < m ^ 20 ∧ 2 ^ 9 < m ^ 20 ∧ 2 ^ 7 < m ^ 10) := by
  have hlow : 2 ^ 9 < m ^ 20 → 2 ^ 3 < m ^ 20 := fun h => lt_trans (by norm_num) h
  have hhigh : 2 ^ 7 < m ^ 10 → 2 ^ 9 < m ^ 20 := by
    intro h
    calc (2 : K) ^ 9 < (2 ^ 7) ^ 2 := by norm_num
      _ < (m ^ 10) ^ 2 := pow_lt_pow_left₀ h (by norm_num) two_ne_zero
      _ = m ^ 20 := by ring
  by_cases h7 : 2 ^ 7 < m ^ 10
  · have h9 := hhigh h7
    refine Or.inr (Or.inr (Or.inr ⟨?_, hlow h9, h9, h7⟩))
    rw [quarters_eq, if_pos (hlow h9), if_pos h9, if_pos h7]
  · by_cases h9 : 2 ^ 9 < m ^ 20
    · refine Or.inr (Or.inr (Or.inl ⟨?_, hlow h9, h9, h7⟩))
      rw [quarters_eq, if_pos (hlow h9), if_pos h9, if_neg h7]
    · by_cases h3 : 2 ^ 3 < m ^ 20
      · refine Or.inr (Or.inl ⟨?_, h3, h9, h7⟩)
        rw [quarters_eq, if_pos h3, if_neg h9, if_neg h7]
      · refine Or.inl ⟨?_, h3, h9, h7⟩
        rw [quarters_eq, if_neg h3, if_neg h9, if_neg h7]

/-- Every mantissa is within 13 percent of its step. -/
theorem quarters_near {m : K} (h1 : 1 ≤ m) (h2 : m < 2) :
    87 / 100 * m ≤ quarterStep (quarters m) ∧ quarterStep (quarters m) ≤ 113 / 100 * m := by
  have hm : 0 ≤ m := zero_le_one.trans h1
  rcases quarters_cases m with ⟨hz, h3, -⟩ | ⟨hz, h3, h9, -⟩ | ⟨hz, -, h9, h7⟩ | ⟨hz, -, -, h7⟩
  · -- rounded down to 1
    have hbelow : m < 100 / 87 := below_of_pow (by norm_num) h3 (by norm_num)
    rw [hz]
    constructor
    · calc 87 / 100 * m ≤ 1 := by linarith
        _ = quarterStep 0 := by norm_num [quarterStep_eq]
    · calc (quarterStep 0 : K) = 1 := by norm_num [quarterStep_eq]
        _ ≤ 113 / 100 * m := by linarith
  · -- the largest error is here: just above `2 ^ 0.15`, 5/4 is 12.7 percent more
    have habove : 125 / 113 < m := above_of_pow hm h3 (by norm_num)
    have hbelow : m < 125 / 87 := below_of_pow (by norm_num) h9 (by norm_num)
    rw [hz]
    constructor
    · calc 87 / 100 * m ≤ 5 / 4 := by linarith
        _ = quarterStep 1 := by norm_num [quarterStep_eq]
    · calc (quarterStep 1 : K) = 5 / 4 := by norm_num [quarterStep_eq]
        _ ≤ 113 / 100 * m := by linarith
  · have habove : 150 / 113 < m := above_of_pow hm h9 (by norm_num)
    have hbelow : m < 150 / 87 := below_of_pow (by norm_num) h7 (by norm_num)
    rw [hz]
    constructor
    · calc 87 / 100 * m ≤ 3 / 2 := by linarith
        _ = quarterStep 2 := by norm_num [quarterStep_eq]
    · calc (quarterStep 2 : K) = 3 / 2 := by norm_num [quarterStep_eq]
        _ ≤ 113 / 100 * m := by linarith
  · -- no upper threshold, but the mantissa is below 2
    have habove : 175 / 113 < m := above_of_pow hm h7 (by norm_num)
    rw [hz]
    constructor
    · calc 87 / 100 * m ≤ 7 / 4 := by linarith
        _ = quarterStep 3 := by norm_num [quarterStep_eq]
    · calc (quarterStep 3 : K) = 7 / 4 := by norm_num [quarterStep_eq]
        _ ≤ 113 / 100 * m := by linarith

/-- A step is its own. -/
theorem quarters_quarterStep {z : Nat} (hz : z ≤ 3) : quarters (quarterStep z : K) = z := by
  have hsteps : ∀ z ∈ [0, 1, 2, 3], quarters (quarterStep z : K) = z := by
    intro z hmem
    fin_cases hmem <;> norm_num [quarters_eq, quarterStep_eq]
  refine hsteps z ?_
  simp only [List.mem_cons, List.not_mem_nil, or_false]
  omega

theorem one_le_quarterStep (z : Nat) : (1 : K) ≤ quarterStep z := by
  rw [quarterStep_eq]
  exact le_add_of_nonneg_right (mul_nonneg (by norm_num) (Nat.cast_nonneg z))

theorem quarterStep_mono {z z' : Nat} (h : z ≤ z') : (quarterStep z : K) ≤ quarterStep z' := by
  have hcast : (z : K) ≤ z' := Nat.cast_le.mpr h
  rw [quarterStep_eq, quarterStep_eq]
  exact add_le_add_right (mul_le_mul_of_nonneg_left hcast (by norm_num)) 1

theorem quarterStep_lt_two {z : Nat} (h : z ≤ 3) : (quarterStep z : K) < 2 := by
  refine (quarterStep_mono h).trans_lt ?_
  norm_num [quarterStep_eq]

/-! ## Rounding a number of time units -/

variable [FloorRing K]

/-- What `x` time units become. -/
def roundedUnits (x : K) : K := quarterStep (quarters (mantissa x)) * ((2 : Nat) : K) ^ trunc x

omit [IsStrictOrderedRing K] in
theorem roundedUnits_eq (x : K) :
    roundedUnits x = quarterStep (quarters (mantissa x)) * 2 ^ trunc x := by
  rw [roundedUnits, Nat.cast_ofNat]

theorem roundedUnits_near {x : K} (hx : 1 ≤ x) :
    87 / 100 * x ≤ roundedUnits x ∧ roundedUnits x ≤ 113 / 100 * x := by
  obtain ⟨hbelow, habove⟩ :=
    quarters_near (one_le_mantissa hx) (mantissa_lt_two (zero_lt_one.trans_le hx))
  have hpow : (0 : K) ≤ 2 ^ trunc x := pow_nonneg zero_le_two _
  constructor
  · calc 87 / 100 * x = 87 / 100 * mantissa x * 2 ^ trunc x := by rw [mul_assoc, mantissa_mul]
      _ ≤ roundedUnits x := mul_le_mul_of_nonneg_right hbelow hpow
  · calc roundedUnits x ≤ 113 / 100 * mantissa x * 2 ^ trunc x :=
          mul_le_mul_of_nonneg_right habove hpow
      _ = 113 / 100 * x := by rw [mul_assoc, mantissa_mul]

/-- Numbers of different exponents keep them, the others have their mantissas rounded. -/
theorem roundedUnits_mono {x y : K} (hx : 1 ≤ x) (hxy : x ≤ y) :
    roundedUnits x ≤ roundedUnits y := by
  rcases (trunc_mono hx hxy).lt_or_eq with hlt | heq
  · -- a step is below 2, so rounding stays below the next power of two
    have hpow : (0 : K) < 2 ^ trunc x := pow_pos two_pos _
    calc roundedUnits x ≤ 2 * 2 ^ trunc x :=
          mul_le_mul_of_nonneg_right (quarterStep_lt_two (quarters_le _)).le hpow.le
      _ = 2 ^ (trunc x + 1) := (pow_succ' 2 _).symm
      _ ≤ 2 ^ trunc y := pow_le_pow_right₀ one_le_two hlt
      _ ≤ roundedUnits y := le_mul_of_one_le_left (pow_nonneg zero_le_two _) (one_le_quarterStep _)
  · have hmantissa : mantissa x ≤ mantissa y := by
      rw [mantissa_eq, mantissa_eq, heq]
      exact div_le_div_of_nonneg_right hxy (pow_nonneg zero_le_two _)
    have hsteps := quarters_mono (zero_le_one.trans (one_le_mantissa hx)) hmantissa
    rw [roundedUnits_eq, roundedUnits_eq, heq]
    exact mul_le_mul_of_nonneg_right (quarterStep_mono hsteps) (pow_nonneg zero_le_two _)

theorem trunc_roundedUnits (x : K) : trunc (roundedUnits x) = trunc x :=
  trunc_mul (one_le_quarterStep _) (quarterStep_lt_two (quarters_le _)) _

theorem quarters_roundedUnits (x : K) :
    quarters (mantissa (roundedUnits x)) = quarters (mantissa x) := by
  rw [roundedUnits_eq, mantissa_mul_pow (one_le_quarterStep _) (quarterStep_lt_two (quarters_le _)),
    quarters_quarterStep (quarters_le _)]

/-! ## The field -/

omit [IsStrictOrderedRing K] [FloorRing K] [Field K] [LinearOrder K] in
/-- `timeval_y | (timeval_z << 5)`. -/
theorem timeField_toNat {y z : Nat} (hy : y < 32) (hz : z ≤ 3) :
    (BitVec.ofNat 64 y ||| BitVec.ofNat 64 z <<< 5).toNat = y + z * 2 ^ 5 := by
  have hy64 : (BitVec.ofNat 64 y).toNat = y := by
    rw [BitVec.toNat_ofNat]
    omega
  have hz64 : (BitVec.ofNat 64 z).toNat = z := by
    rw [BitVec.toNat_ofNat]
    omega
  have hlow : (BitVec.ofNat 64 y).toNat < 2 ^ 5 := by
    rw [hy64]
    exact hy
  rw [Words.toNat_or_shiftLeft _ _ hlow (by omega), hy64, hz64, Nat.mod_eq_of_lt (by omega)]

/-- The multiplier counts the thresholds. -/
theorem timevalZ_eq (x : K) : timevalZ x = BitVec.ofNat 64 (quarters (mantissa x)) := by
  rw [timevalZ]
  simp only [fracGt_iff_mantissa]
  rcases quarters_cases (mantissa x) with ⟨hz, h3, h9, h7⟩ | ⟨hz, h3, h9, h7⟩ |
    ⟨hz, h3, h9, h7⟩ | ⟨hz, h3, h9, h7⟩
  · rw [if_neg fun h => h3 h.1, if_neg fun h => h9 h.1, if_neg h7, hz]
    rfl
  · rw [if_pos ⟨h3, h9⟩, hz]
    rfl
  · rw [if_neg fun h => h.2 h9, if_pos ⟨h9, h7⟩, hz]
    rfl
  · rw [if_neg fun h => h.2 h9, if_neg fun h => h.2 h7, if_pos h7, hz]
    rfl

/-- The field of `x` time units. -/
def unitsField (x : K) : Word :=
  BitVec.ofNat 64 (trunc x) ||| BitVec.ofNat 64 (quarters (mantissa x)) <<< 5

/-- What was rounded has the field it was rounded to. -/
theorem unitsField_roundedUnits (x : K) : unitsField (roundedUnits x) = unitsField x := by
  rw [unitsField, trunc_roundedUnits, quarters_roundedUnits]
  rfl

theorem one_le_roundedUnits (x : K) : 1 ≤ roundedUnits x :=
  one_le_mul_of_one_le_of_one_le (one_le_quarterStep _) (one_le_pow₀ one_le_two)

section Field

variable {x : K} (hx : 1 ≤ x) (hlt : x < 2 ^ 32)
include hx hlt

theorem trunc_lt_32 : trunc x < 32 :=
  (trunc_lt_iff (zero_lt_one.trans_le hx) (by omega)).mpr hlt

theorem secondsToBits_eq : secondsToBits x = some (unitsField x) := by
  have htrunc := trunc_lt_32 hx hlt
  have hhalf : 1 / 2 < x := one_half_lt_one.trans_le hx
  rw [secondsToBits, if_pos ⟨hhalf, by omega⟩, timevalZ_eq]
  rfl

theorem unitsField_toNat :
    (unitsField x).toNat = trunc x + quarters (mantissa x) * 2 ^ 5 :=
  timeField_toNat (trunc_lt_32 hx hlt) (quarters_le _)

theorem unitsField_lt : (unitsField x).toNat < 2 ^ 7 := by
  have htrunc := trunc_lt_32 hx hlt
  have hz := quarters_le (mantissa x)
  rw [unitsField_toNat hx hlt]
  omega

/-- `bits & 0x1F` is the exponent. -/
theorem unitsField_y : (unitsField x &&& 0x1F).toNat = trunc x := by
  have htrunc := trunc_lt_32 hx hlt
  have hmask : (unitsField x &&& 0x1F).toNat = (unitsField x).toNat % 2 ^ 5 := by
    rw [BitVec.toNat_and]
    exact Nat.and_two_pow_sub_one_eq_mod _ 5
  rw [hmask, unitsField_toNat hx hlt]
  omega

/-- `(bits & 0x60) >> 5` is the multiplier. -/
theorem unitsField_z : ((unitsField x &&& 0x60) >>> 5).toNat = quarters (mantissa x) := by
  have htrunc := trunc_lt_32 hx hlt
  have hz := quarters_le (mantissa x)
  have hget : (unitsField x &&& 0x60) >>> 5 = (BitFields.BitField.mk 5 2).get (unitsField x) :=
    BitFields.BitField.and_mask_shift (.mk 5 2) (unitsField x)
  have hmask : ((unitsField x &&& 0x60) >>> 5).toNat = (unitsField x).toNat / 2 ^ 5 % 2 ^ 2 := by
    rw [hget, BitFields.BitField.toNat_get (by decide)]
  rw [hmask, unitsField_toNat hx hlt]
  omega

theorem roundedUnits_lt : roundedUnits x < 2 ^ 32 := by
  have htrunc := trunc_lt_32 hx hlt
  have hexp : trunc (roundedUnits x) < 32 := by rwa [trunc_roundedUnits]
  have hpos : (0 : K) < roundedUnits x :=
    mul_pos (zero_lt_one.trans_le (one_le_quarterStep _)) (pow_pos two_pos _)
  exact (trunc_lt_iff hpos (by omega)).mp hexp

end Field

end Rounding

/-! ## Windows -/

section Windows

/-- Encoded, a window of `s` seconds is the field `bits`; decoded, the field is `d`
    seconds, within 13 percent, which are encoded as the same field of at most 7 bits. -/
structure WindowRounded (model : Nat) (ru : List (RaplUnits ℝ)) (socket : Nat) (s : ℝ)
    (bits : Word) (d : ℝ) : Prop where
  encoded : ∀ b, translate model ru socket b s .secondsToBitsStd = some (0, bits, s)
  decoded : ∀ u, translate model ru socket bits u .bitsToSecondsStd = some (0, bits, d)
  near : |d - s| ≤ 13 / 100 * s
  fits : bits.toNat < 2 ^ 7
  again : ∀ b, translate model ru socket b d .secondsToBitsStd = some (0, bits, d)

variable {model : Nat} {ru : List (RaplUnits ℝ)} {socket : Nat} {u : RaplUnits ℝ} {unit : Nat}

/-- Encoding is about the number of time units. -/
theorem translate_encode (hu : ru[socket]? = some u) {s : ℝ} (h1 : 1 ≤ s * u.seconds)
    (hlt : s * u.seconds < 2 ^ 32) (b : Word) :
    translate model ru socket b s .secondsToBitsStd =
      some (0, unitsField (s * u.seconds), s) := by
  simp only [translate, hu, secondsToBits_eq h1 hlt, Option.bind_eq_bind, Option.bind_some]

/-- Decoding gives the rounded number of time units. -/
theorem translate_decode (hu : ru[socket]? = some u) {x : ℝ} (h1 : 1 ≤ x) (hlt : x < 2 ^ 32)
    (v : ℝ) : translate model ru socket (unitsField x) v .bitsToSecondsStd =
      some (0, unitsField x, roundedUnits x / u.seconds) := by
  simp only [translate, hu, unitsField_y h1 hlt, unitsField_z h1 hlt, Option.bind_eq_bind,
    Option.bind_some]
  rfl

theorem windowRounded (hu : ru[socket]? = some u) (hunit : u.seconds = 2 ^ unit) {s : ℝ}
    (h1 : 1 ≤ s * 2 ^ unit) (hlt : s * 2 ^ unit < 2 ^ 32) :
    WindowRounded model ru socket s (unitsField (s * 2 ^ unit))
      (roundedUnits (s * 2 ^ unit) / 2 ^ unit) := by
  have hpow : (0 : ℝ) < 2 ^ unit := pow_pos two_pos unit
  have hback : roundedUnits (s * 2 ^ unit) / 2 ^ unit * 2 ^ unit = roundedUnits (s * 2 ^ unit) :=
    div_mul_cancel₀ _ hpow.ne'
  obtain ⟨hbelow, habove⟩ := roundedUnits_near h1
  refine ⟨fun b => ?_, fun v => ?_, ?_, unitsField_lt h1 hlt, fun b => ?_⟩
  · rw [translate_encode hu (hunit ▸ h1) (hunit ▸ hlt), hunit]
  · rw [translate_decode hu h1 hlt, hunit]
  · have hlow : 87 / 100 * s ≤ roundedUnits (s * 2 ^ unit) / 2 ^ unit := by
      rw [le_div_iff₀ hpow, mul_assoc]
      exact hbelow
    have hhigh : roundedUnits (s * 2 ^ unit) / 2 ^ unit ≤ 113 / 100 * s := by
      rw [div_le_iff₀ hpow, mul_assoc]
      exact habove
    rw [abs_le]
    constructor <;> linarith
  · -- the decoded window is the rounded number of units again
    have hunits : roundedUnits (s * 2 ^ unit) / 2 ^ unit * u.seconds =
        roundedUnits (s * 2 ^ unit) := hunit ▸ hback
    have hone : 1 ≤ roundedUnits (s * 2 ^ unit) / 2 ^ unit * u.seconds := by
      rw [hunits]
      exact one_le_roundedUnits _
    have hfit : roundedUnits (s * 2 ^ unit) / 2 ^ unit * u.seconds < 2 ^ 32 := by
      rw [hunits]
      exact roundedUnits_lt h1 hlt
    rw [translate_encode hu hone hfit, hunits, unitsField_roundedUnits]

/-- **Time windows.**  From one time unit to below `2 ^ 32` of them, a window is encoded in
    7 bits, decoded within 13 percent of itself, a longer one not to less, and what was
    decoded is encoded as the same bits again. -/
theorem windows_rounded (hu : ru[socket]? = some u) (hunit : u.seconds = 2 ^ unit) {s s' : ℝ}
    (h1 : 1 ≤ s * 2 ^ unit) (hle : s * 2 ^ unit ≤ s' * 2 ^ unit)
    (hlt : s' * 2 ^ unit < 2 ^ 32) :
    ∃ bits d bits' d', WindowRounded model ru socket s bits d ∧
      WindowRounded model ru socket s' bits' d' ∧ d ≤ d' := by
  refine ⟨_, _, _, _, windowRounded hu hunit h1 (hle.trans_lt hlt),
    windowRounded hu hunit (h1.trans hle) hlt, ?_⟩
  exact div_le_div_of_nonneg_right (roundedUnits_mono h1 hle) (pow_nonneg zero_le_two _)

/-- One second and two, in units of 976 microseconds. -/
theorem windows_rounded_milliseconds :
    ∃ bits d bits' d', WindowRounded 0x2D [RaplUnits.ofMsr 0xA1003] 0 1 bits d ∧
      WindowRounded 0x2D [RaplUnits.ofMsr 0xA1003] 0 2 bits' d' ∧ d ≤ d' := by
  have hunit : (RaplUnits.ofMsr 0xA1003 : RaplUnits ℝ).seconds = 2 ^ 10 := ofMsr_seconds 0xA1003
  exact windows_rounded rfl hunit (by norm_num) (by norm_num) (by norm_num)

end Windows

end Libmsr
