/-
  Libmsr.Rapl.LimitPairs

  Limits over one second, `set_pkg_rapl_limit` with both limits and
  `set_dram_rapl_limit`.  With both limits nothing is kept of the register, so the
  word that is written depends on the two structs alone.

  - `pairWord`: that word; `composedWord_pair` is its connection to the general
    case.
  - `setPkgRaplLimit_pair`: limits given by values that fit their fields.
  - `setPkgRaplLimit_again`: structs that hold bits are written as they are.
  - `setPkgRaplLimit_upperRefused`: an upper limit that is too large.
  - `setDramRaplLimit_value`: a DRAM limit given by values that fit.
-/
import Libmsr.Rapl.LimitRoundTrip

namespace Libmsr

/-! ## Windows of a second -/

section Windows

variable {K : Type} [Field K] [LinearOrder K] [IsStrictOrderedRing K] [FloorRing K]

/-- A window of a power of two time units is encoded as its exponent. -/
theorem secondsToBits_two_pow {n : Nat} (hn : n < 2 ^ 64) :
    secondsToBits (2 ^ n : K) = some (BitVec.ofNat 64 n) := by
  have htrunc : Log2.trunc (2 ^ n : K) = n := by
    have h := Log2.trunc_mul (le_refl (1 : K)) one_lt_two n
    rwa [one_mul] at h
  have hmantissa : Log2.mantissa (2 ^ n : K) = 1 := by
    have h := Log2.mantissa_mul_pow (le_refl (1 : K)) one_lt_two n
    rwa [one_mul] at h
  have hfrac : ∀ p q, ¬ Log2.FracGt (2 ^ n : K) p q := by
    intro p q
    rw [Log2.fracGt_iff_mantissa, hmantissa, one_pow, not_lt]
    exact one_le_pow₀ one_le_two
  have hz : timevalZ (2 ^ n : K) = 0 := by
    simp only [timevalZ, hfrac, false_and, if_false]
  have hhalf : 1 / 2 < (2 ^ n : K) := one_half_lt_one.trans_le (one_le_pow₀ one_le_two)
  rw [secondsToBits, if_pos ⟨hhalf, by rw [htrunc]; exact hn⟩, htrunc, hz]
  simp

theorem timeUnit_lt (raw : Word) : timeUnit raw < 16 := by
  unfold timeUnit
  omega

/-- A limit over one second: the window is the time unit's exponent. -/
theorem secondsToBits_oneSecond {raw time : Word} {limit : RaplLimit K} (hsec : limit.seconds = 1)
    (htime : secondsToBits (limit.timeUnits raw) = some time) : time.toNat = timeUnit raw := by
  have hlt := timeUnit_lt raw
  rw [RaplLimit.timeUnits_eq, hsec, one_mul, secondsToBits_two_pow (by omega)] at htime
  rw [← Option.some.inj htime, BitVec.toNat_ofNat, Nat.mod_eq_of_lt (by omega)]

/-- Limits over one second that can be encoded. -/
theorem RaplLimit.WattsFit.fitsLower {limit : RaplLimit K} {raw : Word} (h : limit.WattsFit raw)
    (hsec : limit.seconds = 1) : limit.FitsLower raw := by
  have htime : limit.timeUnits raw = 2 ^ timeUnit raw := by
    rw [RaplLimit.timeUnits_eq, hsec, one_mul]
  have hlt := timeUnit_lt raw
  refine ⟨h, ?_, ?_⟩
  · rw [htime]
    exact one_le_pow₀ one_le_two
  · rw [htime]
    exact pow_lt_pow_right₀ one_lt_two (by omega)

end Windows

section Pairs

variable {K : Type}

/-- The word of two limits. -/
def pairWord (l₁ l₂ : RaplLimit K) : Word := enabled1 (some l₁) ||| enabled2 (some l₂)

theorem composedWord_pair (h : Host) (cpu : Nat) (a b l₁ l₂ : RaplLimit K) :
    composedWord h cpu (some a) (some b) (some l₁) (some l₂) = pairWord l₁ l₂ := by
  have hkept : keptHalf (currentValue h cpu msrPkgPowerLimit) (some a) (some b) = 0#64 := rfl
  rw [composedWord, hkept, BitVec.zero_or, pairWord]

theorem pairWord_congr {l₁ l₂ l₁' l₂' : RaplLimit K} (h₁ : l₁'.bits = l₁.bits)
    (h₂ : l₂'.bits = l₂.bits) : pairWord l₁' l₂' = pairWord l₁ l₂ := by
  simp only [pairWord, enabled1, enabled2, h₁, h₂]

variable [Field K] [LinearOrder K] [IsStrictOrderedRing K] [FloorRing K] {R : RaplSetup K}
  {h : Host} {socket : BitVec 32} {raw : Word}

/-- A pair of limits that was written: the structs as the call leaves them, and the
    machine. -/
structure PairSet (R : RaplSetup K) (h : Host) (socket : BitVec 32) (e₁ e₂ : RaplLimit K)
    (r : PkgLimitResult K) : Prop where
  rc : r.rc = 0
  limit1 : r.limit1 = some e₁
  limit2 : r.limit2 = some e₂
  regs : r.host.regs = (h.setReg (socketCpu R socket) msrPkgPowerLimit (pairWord e₁ e₂)).regs
  writes : r.host.writes =
    h.writes ++ [.write (socketCpu R socket) msrPkgPowerLimit (pairWord e₁ e₂)]
  same : h.SameDevices r.host

variable (hinit : Initialised R h socket raw) (hflag : announces R.flags pkgPowerLimit = true)
  (hok : h.failsWrite (socketCpu R socket) msrPkgPowerLimit = false)
include hinit hflag

omit [IsStrictOrderedRing K] in
include hok in
/-- Two limits that were encoded are written. -/
theorem setPkgRaplLimit_encoded {l₁ l₂ e₁ e₂ : RaplLimit K}
    (hcalc₁ : calcRaplLimit R socket.toNat l₁ 0 = some (0, e₁))
    (hcalc₂ : calcRaplLimit R socket.toNat l₂ 32 = some (0, e₂)) :
    ∃ r, setPkgRaplLimit R h socket (some l₁) (some l₂) = some r ∧
      PairSet R h socket e₁ e₂ r := by
  have hpkg : calcPkgRaplLimit R socket.toNat (some l₁) (some l₂) =
      some (0, some e₁, some e₂) := by
    simp only [calcPkgRaplLimit_eq, calcGivenLimit, hcalc₁, hcalc₂, Option.map_some,
      Option.bind_some, ne_eq, not_true_eq_false, if_false]
  obtain ⟨r, hset, hlim₁, hlim₂, hrc, hregs, hwrites, hsame⟩ :=
    setPkgRaplLimit_written hinit hflag rfl hpkg
  rw [composedWord_pair] at hregs hwrites
  rw [hok, if_neg Bool.false_ne_true] at hregs
  refine ⟨r, hset, hrc.mpr ⟨fun hreads => ?_, hok⟩, hlim₁, hlim₂, hregs, hwrites, hsame⟩
  -- with both limits the register is not read
  exact absurd hreads (by simp [readsCurrent])

include hok in
/-- **Both limits by value.** -/
theorem setPkgRaplLimit_pair {l₁ l₂ : RaplLimit K} (hfit₁ : l₁.FitsLower raw)
    (hfit₂ : l₂.FitsUpper raw) :
    ∃ r e₁ e₂ time, setPkgRaplLimit R h socket (some l₁) (some l₂) = some r ∧
      PairSet R h socket e₁ e₂ r ∧ secondsToBits (l₁.timeUnits raw) = some time ∧
      CarriesLimits (pairWord e₁ e₂) ⌊l₁.wattUnits raw⌋₊ time.toNat ⌊l₂.wattUnits raw⌋₊
        ⌊l₂.seconds⌋₊ ∧
      (0 < ⌊l₁.wattUnits raw⌋₊ → e₁.bits ≠ 0) ∧ (0 < ⌊l₂.seconds⌋₊ → e₂.bits ≠ 0) := by
  obtain ⟨watts₁, time₁, hfields₁, hwatts₁, htime₁, ht₁⟩ := hfit₁.fields
  obtain ⟨watts₂, time₂, hfields₂, hwatts₂, htime₂, ht₂⟩ := hfit₂.fields
  have hfloor₁ := hfit₁.floor_le
  have hfloor₂ := hfit₂.floor_le
  have hcalc₁ := calcRaplLimit_values hinit.units l₁ hfit₁.bits 0
  have hcalc₂ := calcRaplLimit_values hinit.units l₂ hfit₂.bits 32
  rw [hfields₁, Option.map_some] at hcalc₁
  rw [hfields₂, Option.map_some] at hcalc₂
  obtain ⟨r, hset, hr⟩ := setPkgRaplLimit_encoded hinit hflag hok hcalc₁ hcalc₂
  have hcarries := composedWord_carries h (socketCpu R socket) l₁ l₂ watts₁ time₁ watts₂ time₂
    (by omega) ht₁ (by omega) ht₂
  rw [composedWord_pair, hwatts₁, hwatts₂, htime₂] at hcarries
  refine ⟨r, _, _, time₁, hset, hr, htime₁, hcarries, fun hpos hzero => ?_, fun hpos hzero => ?_⟩
  · -- the watts are the lowest bits of limit 1
    have hw : watts₁ = 0 := by
      have hor := (BitVec.or_eq_zero_iff.mp hzero).1
      rwa [Nat.add_zero, BitVec.shiftLeft_zero] at hor
    rw [← hwatts₁, hw] at hpos
    exact absurd hpos (by decide)
  · -- the time of limit 2 is not shifted out
    have hor := congrArg BitVec.toNat (BitVec.or_eq_zero_iff.mp hzero).2
    rw [BitVec.toNat_shiftLeft, Nat.shiftLeft_eq, BitVec.toNat_ofNat] at hor
    omega

omit [IsStrictOrderedRing K] in
include hok in
/-- **Both limits by bits** are written as they are. -/
theorem setPkgRaplLimit_again {l₁ l₂ : RaplLimit K} (hbits₁ : l₁.bits ≠ 0) (hbits₂ : l₂.bits ≠ 0) :
    ∃ r, setPkgRaplLimit R h socket (some l₁) (some l₂) = some r ∧
      PairSet R h socket (decodedLimit (.ofMsr raw) l₁.bits 0)
        (decodedLimit (.ofMsr raw) l₂.bits 32) r ∧
      pairWord (decodedLimit (.ofMsr raw : RaplUnits K) l₁.bits 0)
        (decodedLimit (.ofMsr raw) l₂.bits 32) = pairWord l₁ l₂ := by
  obtain ⟨r, hset, hr⟩ := setPkgRaplLimit_encoded hinit hflag hok
    (calcRaplLimit_raw hinit.units l₁ hbits₁ 0) (calcRaplLimit_raw hinit.units l₂ hbits₂ 32)
  exact ⟨r, hset, hr, pairWord_congr rfl rfl⟩

/-- **An upper limit that is too large** refuses both, and nothing is accessed. -/
theorem setPkgRaplLimit_upperRefused {l₁ l₂ : RaplLimit K} (hfit₁ : l₁.FitsLower raw)
    (hbits₂ : l₂.bits = 0) (hseconds : 0 ≤ l₂.seconds ∧ l₂.seconds < 2 ^ 64)
    (hlarge : 2 ^ 15 ≤ l₂.wattUnits raw) (hlt : l₂.wattUnits raw < 2 ^ 64) :
    ∃ r, setPkgRaplLimit R h socket (some l₁) (some l₂) = some r ∧ r.rc = -1 ∧ r.host = h := by
  obtain ⟨watts₁, time₁, hfields₁, -⟩ := hfit₁.fields
  have hcalc₁ := calcRaplLimit_values hinit.units l₁ hfit₁.bits 0
  have hcalc₂ := calcRaplLimit_values hinit.units l₂ hbits₂ 32
  obtain ⟨time₂, htime₂, -⟩ := toU64_spec hseconds.1 hseconds.2
  have hnonneg : 0 ≤ l₂.wattUnits raw := (pow_nonneg zero_le_two 15).trans hlarge
  obtain ⟨watts₂, hwatts₂, hnat⟩ := toU64_spec hnonneg hlt
  have hfields₂ : limitFields (.ofMsr raw) 32 l₂ = some none := by
    have hge : watts₂.toNat ≥ 2 ^ 15 := by
      rw [hnat]
      exact Nat.le_floor (by exact_mod_cast hlarge)
    rw [limitFields, timeField, if_pos (le_refl 32), htime₂, ofMsr_watts, one_div, div_inv_eq_mul,
      ← l₂.wattUnits_eq, hwatts₂]
    simp only [Option.bind_eq_bind, Option.bind_some, if_pos hge]
  rw [hfields₁, Option.map_some] at hcalc₁
  rw [hfields₂, Option.map_some] at hcalc₂
  obtain ⟨r₁, r₂, hset⟩ : ∃ r₁ r₂,
      setPkgRaplLimit R h socket (some l₁) (some l₂) = some ⟨-1, r₁, r₂, h⟩ := by
    simp only [setPkgRaplLimit, hflag, if_true, grabOtherLimit, Option.isNone_some,
      Bool.false_eq_true, if_false, calcPkgRaplLimit_eq, calcGivenLimit, hcalc₁, hcalc₂,
      Option.map_some, Option.bind_eq_bind, Option.bind_some, ne_eq, not_true_eq_false]
    exact ⟨_, _, rfl⟩
  exact ⟨_, hset, rfl, rfl⟩

end Pairs

/-- The fields determine the word. -/
theorem CarriesLimits.unique {w w' : Word} {watts1 time1 watts2 time2 : Nat}
    (h : CarriesLimits w watts1 time1 watts2 time2)
    (h' : CarriesLimits w' watts1 time1 watts2 time2) : w = w' := by
  have hmod := h.toNat_mod.trans h'.toNat_mod.symm
  have hdiv := h.toNat_div.trans h'.toNat_div.symm
  apply BitVec.eq_of_toNat_eq
  omega

/-! ## The DRAM limit -/

/-- The word of a DRAM limit: power, enable bit, window. -/
def dramWord (watts time : Nat) : Word := BitVec.ofNat 64 (watts + 2 ^ 15 + time * 2 ^ 17)

/-- The bits of an encoded limit with the enable bit. -/
theorem dramWord_eq {watts : Word} (time : Word) (hw : watts.toNat < 2 ^ 15) :
    watts <<< (0 + 0) ||| time <<< (17 + 0) ||| (1 : Word) <<< 15 =
      dramWord watts.toNat time.toNat := by
  have henable : (watts ||| (1 : Word) <<< 15).toNat = watts.toNat + 2 ^ 15 :=
    Words.toNat_or_shiftLeft _ _ hw (by omega)
  have hswap : watts <<< (0 + 0) ||| time <<< (17 + 0) ||| (1 : Word) <<< 15 =
      (watts ||| (1 : Word) <<< 15) ||| time <<< 17 := by
    rw [BitVec.or_assoc, BitVec.or_comm (time <<< (17 + 0)), ← BitVec.or_assoc]
    simp
  apply BitVec.eq_of_toNat_eq
  rw [hswap, Words.toNat_or_shiftLeft _ _ (k := 17) (by omega) (by omega), henable, dramWord,
    BitVec.toNat_ofNat]
  omega

section Dram

variable {K : Type} [Field K] [LinearOrder K] [IsStrictOrderedRing K] [FloorRing K]
  {R : RaplSetup K} {h : Host} {socket : BitVec 32} {raw : Word}

/-- **The DRAM limit by value.** -/
theorem setDramRaplLimit_value (hinit : Initialised R h socket raw)
    (hflag : announces R.flags dramPowerLimit = true)
    (hok : h.failsWrite (socketCpu R socket) msrDramPowerLimit = false) {l : RaplLimit K}
    (hfit : l.FitsLower raw) :
    ∃ r time, setDramRaplLimit R h socket (some l) = some r ∧ r.rc = 0 ∧
      secondsToBits (l.timeUnits raw) = some time ∧
      r.host.regs = (h.setReg (socketCpu R socket) msrDramPowerLimit
        (dramWord ⌊l.wattUnits raw⌋₊ time.toNat)).regs ∧ h.SameDevices r.host := by
  obtain ⟨watts, time, hfields, hwatts, htime, -⟩ := hfit.fields
  have hfloor := hfit.floor_le
  have hcalc : calcStdRaplLimit R socket.toNat l =
      some (0, { l with bits := watts <<< (0 + 0) ||| time <<< (17 + 0) }) := by
    rw [calcStdRaplLimit, calcRaplLimit_values hinit.units l hfit.bits, hfields, Option.map_some]
  have hword : watts <<< (0 + 0) ||| time <<< (17 + 0) ||| (1 : Word) <<< 15 =
      dramWord watts.toNat time.toNat := dramWord_eq time (by omega)
  have hwrite := hinit.write hinit.ready msrDramPowerLimit (dramWord watts.toNat time.toNat)
  rw [hok, if_neg Bool.false_ne_true] at hwrite
  rw [← hwatts]
  have hset : setDramRaplLimit R h socket (some l) = some
      ⟨0, some { l with bits := watts <<< (0 + 0) ||| time <<< (17 + 0) },
        (h.setReg (socketCpu R socket) msrDramPowerLimit (dramWord watts.toNat time.toNat)).log
          (.write (socketCpu R socket) msrDramPowerLimit (dramWord watts.toNat time.toNat))⟩ := by
    simp only [setDramRaplLimit, hflag, if_true, hcalc, Option.bind_eq_bind, Option.bind_some,
      ne_eq, not_true_eq_false, if_false, hword, hwrite]
  exact ⟨_, time, hset, rfl, htime, rfl, ((Host.SameDevices.refl h).setReg _ _ _).log _⟩

end Dram

/-- Two sockets of one core, with the flags and units of `oneSocket`. -/
def twoSocketRapl : RaplSetup ℚ where
  cfg := ⟨1, 1, 2⟩
  topo := ⟨[some ⟨0, 0, 0, 0, 0⟩, some ⟨1, 1, 0, 1, 1⟩], false⟩
  model := 0x2D
  flags := 0x7FF
  ru := [.ofMsr 0xA1003, .ofMsr 0xA1003]

end Libmsr
