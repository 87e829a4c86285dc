/-
  Libmsr.Rapl.LimitRoundTrip

  Setting package limits, getting them back and setting what was got.

  For limits whose fields can hold them the word that is written carries all
  four fields untouched, so the getter decodes them, and the structs it fills are
  a fixpoint: set again they compose the same word.
-/
import Libmsr.Rapl.LimitGet

namespace Libmsr

/-! ## Fields of a composed word -/

/-- The word carries these fields, with both limits enabled and clamped. -/
structure CarriesLimits (w : Word) (watts1 time1 watts2 time2 : Nat) : Prop where
  watts1_lt : watts1 < 2 ^ 15
  time1_lt : time1 < 2 ^ 7
  watts2_lt : watts2 < 2 ^ 15
  time2_lt : time2 < 2 ^ 7
  low : (Words.low w).toNat = watts1 + 3 * 2 ^ 15 + time1 * 2 ^ 17
  high : (Words.high w).toNat = watts2 + 3 * 2 ^ 15 + time2 * 2 ^ 17

namespace CarriesLimits

variable {w : Word} {watts1 time1 watts2 time2 : Nat}
  (h : CarriesLimits w watts1 time1 watts2 time2)
include h

theorem toNat_mod : w.toNat % 2 ^ 32 = watts1 + 3 * 2 ^ 15 + time1 * 2 ^ 17 := by
  rw [← Words.low_toNat]
  exact h.low

theorem toNat_div : w.toNat / 2 ^ 32 = watts2 + 3 * 2 ^ 15 + time2 * 2 ^ 17 := by
  rw [← Words.high_toNat]
  exact h.high

theorem ne_zero : w ≠ 0 := by
  rintro rfl
  have hlow := h.toNat_mod
  have hzero : (0 : Word).toNat = 0 := rfl
  omega

/-- `MASK_VAL` finds each field again. -/
theorem fields : (maskVal w 14 0).toNat = watts1 ∧ (maskVal w 23 17).toNat = time1 ∧
    (maskVal w 46 32).toNat = watts2 ∧ (maskVal w 55 49).toNat = time2 := by
  have hmod := h.toNat_mod
  have hdiv := h.toNat_div
  obtain ⟨hw1, ht1, hw2, ht2, -, -⟩ := h
  rw [maskVal_toNat w (by omega) (by omega), maskVal_toNat w (by omega) (by omega),
    maskVal_toNat w (by omega) (by omega), maskVal_toNat w (by omega) (by omega)]
  refine ⟨?_, ?_, ?_, ?_⟩ <;> omega

end CarriesLimits

section RoundTrip

variable {K : Type} [Field K] [LinearOrder K] [IsStrictOrderedRing K] [FloorRing K]

/-! ## Limits the fields can hold -/

/-- A limit given by watts that fit 15 bits. -/
structure RaplLimit.WattsFit (limit : RaplLimit K) (raw : Word) : Prop where
  bits : limit.bits = 0
  nonneg : 0 ≤ limit.watts
  floor_le : ⌊limit.wattUnits raw⌋₊ ≤ 32767

/-- A lower limit whose window is from one time unit up to `2 ^ 32` of them. -/
structure RaplLimit.FitsLower (limit : RaplLimit K) (raw : Word) : Prop extends
    limit.WattsFit raw where
  one_le : 1 ≤ limit.timeUnits raw
  lt : limit.timeUnits raw < 2 ^ 32

/-- An upper limit whose seconds fit 7 bits. -/
structure RaplLimit.FitsUpper (limit : RaplLimit K) (raw : Word) : Prop extends
    limit.WattsFit raw where
  seconds_nonneg : 0 ≤ limit.seconds
  lt : limit.seconds < 128

/-- The watts field is the watts in units, rounded down. -/
theorem RaplLimit.WattsFit.watts_field {limit : RaplLimit K} {raw : Word}
    (h : limit.WattsFit raw) :
    ∃ watts, toU64 (limit.watts / (RaplUnits.ofMsr raw : RaplUnits K).watts) = some watts ∧
      watts.toNat = ⌊limit.wattUnits raw⌋₊ := by
  have hnonneg : 0 ≤ limit.wattUnits raw := mul_nonneg h.nonneg (Nat.cast_nonneg _)
  have hlt : limit.wattUnits raw < 2 ^ 64 := by
    have hsmall : limit.wattUnits raw < ((32768 : Nat) : K) :=
      (Nat.floor_lt hnonneg).mp (Nat.lt_succ_of_le h.floor_le)
    refine hsmall.trans ?_
    norm_num
  rw [ofMsr_watts, one_div, div_inv_eq_mul, ← limit.wattUnits_eq]
  exact toU64_spec hnonneg hlt

/-- The fields of a lower limit. -/
theorem RaplLimit.FitsLower.fields {limit : RaplLimit K} {raw : Word} (h : limit.FitsLower raw) :
    ∃ watts time, limitFields (.ofMsr raw) 0 limit = some (some (watts, time)) ∧
      watts.toNat = ⌊limit.wattUnits raw⌋₊ ∧
      secondsToBits (limit.timeUnits raw) = some time ∧ time.toNat < 2 ^ 7 := by
  obtain ⟨watts, hwatts, hnat⟩ := h.watts_field
  have hhalf : 1 / 2 < limit.timeUnits raw := one_half_lt_one.trans_le h.one_le
  obtain ⟨time, htime, hfit⟩ := secondsToBits_spec hhalf (by omega) (by norm_num) h.lt
  refine ⟨watts, time, ?_, hnat, htime, (hfit 7 (le_refl 7)).mpr ?_⟩
  · rw [limitFields, timeField, if_neg (by omega), ofMsr_seconds, ← limit.timeUnits_eq,
      htime, hwatts]
    have hfloor := h.floor_le
    simp only [Option.bind_eq_bind, Option.bind_some]
    rw [if_neg (by omega)]
  · exact h.lt.trans (pow_lt_pow_right₀ one_lt_two (by norm_num))

/-- The fields of an upper limit. -/
theorem RaplLimit.FitsUpper.fields {limit : RaplLimit K} {raw : Word} (h : limit.FitsUpper raw) :
    ∃ watts time, limitFields (.ofMsr raw) 32 limit = some (some (watts, time)) ∧
      watts.toNat = ⌊limit.wattUnits raw⌋₊ ∧ time.toNat = ⌊limit.seconds⌋₊ ∧
      time.toNat < 2 ^ 7 := by
  obtain ⟨watts, hwatts, hnat⟩ := h.watts_field
  have hlt : limit.seconds < 2 ^ 64 := h.lt.trans (by norm_num)
  obtain ⟨time, htime, hsec⟩ := toU64_spec h.seconds_nonneg hlt
  refine ⟨watts, time, ?_, hnat, hsec, ?_⟩
  · rw [limitFields, timeField, if_pos (le_refl 32), htime, hwatts]
    have hfloor := h.floor_le
    simp only [Option.bind_eq_bind, Option.bind_some]
    rw [if_neg (by omega)]
  · rw [hsec, Nat.floor_lt h.seconds_nonneg]
    exact_mod_cast h.lt

/-! ## The composed word -/

section Composed

omit [LinearOrder K] [IsStrictOrderedRing K] [FloorRing K] [Field K]

/-- The fields of the two limits arrive in the word. -/
theorem composedWord_carries (h : Host) (cpu : Nat) (limit1 limit2 : RaplLimit K)
    (watts1 time1 watts2 time2 : Word) (hw1 : watts1.toNat < 2 ^ 15) (ht1 : time1.toNat < 2 ^ 7)
    (hw2 : watts2.toNat < 2 ^ 15) (ht2 : time2.toNat < 2 ^ 7) :
    CarriesLimits (composedWord h cpu (some limit1) (some limit2)
        (some { limit1 with bits := watts1 <<< (0 + 0) ||| time1 <<< (17 + 0) })
        (some { limit2 with bits := watts2 <<< (0 + 32) ||| time2 <<< (17 + 32) }))
      watts1.toNat time1.toNat watts2.toNat time2.toNat := by
  have hsmall : ∀ (x : Word) {k : Nat}, k ≤ 32 → x.toNat < 2 ^ k →
      (Words.low x).toNat = x.toNat := by
    intro x k hk hx
    have hpow : 2 ^ k ≤ 2 ^ 32 := Nat.pow_le_pow_right Nat.two_pos hk
    rw [Words.low_toNat, Nat.mod_eq_of_lt (by omega)]
  -- each half holds its own limit alone
  have hlow : Words.low (composedWord h cpu (some limit1) (some limit2)
      (some { limit1 with bits := watts1 <<< (0 + 0) ||| time1 <<< (17 + 0) })
      (some { limit2 with bits := watts2 <<< (0 + 32) ||| time2 <<< (17 + 32) })) =
        Words.low watts1 ||| Words.low time1 <<< 17 ||| BitVec.ofNat 32 3 <<< 15 := by
    rw [composedWord, Words.low_or, Words.low_or, low_keptHalf, low_enabled1, low_enabled2,
      low_packed, Option.isNone_some, if_neg Bool.false_ne_true, Words.low_or, Words.low_shiftLeft,
      Words.low_shiftLeft, BitVec.or_assoc (Words.low watts1 <<< (0 + 0) ||| _)]
    simp
  have hhigh : Words.high (composedWord h cpu (some limit1) (some limit2)
      (some { limit1 with bits := watts1 <<< (0 + 0) ||| time1 <<< (17 + 0) })
      (some { limit2 with bits := watts2 <<< (0 + 32) ||| time2 <<< (17 + 32) })) =
        Words.low watts2 ||| Words.low time2 <<< 17 ||| BitVec.ofNat 32 3 <<< 15 := by
    rw [composedWord, Words.high_or, Words.high_or, high_keptHalf _ _ (Or.inl rfl), high_enabled1,
      high_enabled2, high_packed hw1 (by omega), Option.isNone_some, if_neg Bool.false_ne_true,
      Words.high_or, Words.high_shiftLeft_add, Words.high_shiftLeft_add,
      BitVec.or_assoc (Words.low watts2 <<< 0 ||| _)]
    simp
  refine ⟨hw1, ht1, hw2, ht2, ?_, ?_⟩
  · rw [hlow, packed_toNat _ _ (by rw [hsmall _ (by omega) hw1]; exact hw1) (by omega),
      hsmall _ (by omega) hw1, hsmall _ (by omega) ht1, Nat.mod_eq_of_lt (by omega)]
  · rw [hhigh, packed_toNat _ _ (by rw [hsmall _ (by omega) hw2]; exact hw2) (by omega),
      hsmall _ (by omega) hw2, hsmall _ (by omega) ht2, Nat.mod_eq_of_lt (by omega)]

/-- Structs that both hold the composed word compose it again. -/
theorem composedWord_setBack (h h' : Host) (cpu : Nat) (limit1 limit2 l₁ l₂ d₁ d₂ : RaplLimit K)
    (h1 : d₁.bits = composedWord h cpu (some limit1) (some limit2) (some l₁) (some l₂))
    (h2 : d₂.bits = d₁.bits) :
    composedWord h' cpu (some d₁) (some d₂) (some d₁) (some d₂) = d₁.bits := by
  have hword : composedWord h' cpu (some d₁) (some d₂) (some d₁) (some d₂) =
      0 ||| (d₁.bits ||| (1 : Word) <<< 15 ||| (1 : Word) <<< 16) |||
        (d₁.bits ||| (1 : Word) <<< 47 ||| (1 : Word) <<< 48) := by
    rw [composedWord, enabled1, enabled2, h2]
    rfl
  have hbits : d₁.bits = 0 ||| (l₁.bits ||| (1 : Word) <<< 15 ||| (1 : Word) <<< 16) |||
      (l₂.bits ||| (1 : Word) <<< 47 ||| (1 : Word) <<< 48) := h1
  rw [hword, hbits]
  apply BitVec.eq_of_getLsbD_eq
  intro i _
  simp only [BitVec.getLsbD_or]
  -- the enable and clamp bits are in the word already
  generalize BitVec.getLsbD ((1 : Word) <<< 15) i = b15
  generalize BitVec.getLsbD ((1 : Word) <<< 16) i = b16
  generalize BitVec.getLsbD ((1 : Word) <<< 47) i = b47
  generalize BitVec.getLsbD ((1 : Word) <<< 48) i = b48
  cases b15 <;> cases b16 <;> cases b47 <;> cases b48 <;> simp

end Composed

/-! ## Set, get, set -/

/-- Rounding down to whole units loses less than one unit. -/
theorem RaplLimit.WattsFit.quantised {limit : RaplLimit K} {raw : Word} (h : limit.WattsFit raw)
    {d : K} (hd : d = (⌊limit.wattUnits raw⌋₊ : K) * (RaplUnits.ofMsr raw : RaplUnits K).watts) :
    d ≤ limit.watts ∧ limit.watts < d + 1 / 2 ^ powerUnit raw := by
  have hnonneg : 0 ≤ limit.wattUnits raw := mul_nonneg h.nonneg (Nat.cast_nonneg _)
  have hunit : (0 : K) < 2 ^ powerUnit raw := pow_pos two_pos _
  have hle := Nat.floor_le hnonneg
  have hlt := Nat.lt_floor_add_one (limit.wattUnits raw)
  rw [hd, ofMsr_watts, mul_one_div, ← add_div, div_le_iff₀ hunit, lt_div_iff₀ hunit,
    ← limit.wattUnits_eq]
  exact ⟨hle, hlt⟩

/-- The structs `d₁` and `d₂` are what a getter may return after these limits
    were set. -/
structure ReadsBack (raw : Word) (limit1 limit2 d₁ d₂ : RaplLimit K) : Prop where
  watts1 : d₁.watts ≤ limit1.watts ∧ limit1.watts < d₁.watts + 1 / 2 ^ powerUnit raw
  watts2 : d₂.watts ≤ limit2.watts ∧ limit2.watts < d₂.watts + 1 / 2 ^ powerUnit raw
  seconds1 : ∃ time, secondsToBits (limit1.timeUnits raw) = some time ∧
    d₁.seconds = timeWindow (.ofMsr raw) time
  seconds2 : d₂.seconds = (⌊limit2.seconds⌋₊ : K)

/-- Decoding a word that carries the fields of the limits. -/
theorem CarriesLimits.readsBack {w raw watts1 time1 watts2 time2 : Word}
    (h : CarriesLimits w watts1.toNat time1.toNat watts2.toNat time2.toNat)
    {limit1 limit2 : RaplLimit K} (hfit1 : limit1.WattsFit raw) (hfit2 : limit2.WattsFit raw)
    (hwatts1 : watts1.toNat = ⌊limit1.wattUnits raw⌋₊)
    (hwatts2 : watts2.toNat = ⌊limit2.wattUnits raw⌋₊)
    (htime1 : secondsToBits (limit1.timeUnits raw) = some time1)
    (htime2 : time2.toNat = ⌊limit2.seconds⌋₊) :
    ReadsBack raw limit1 limit2 (decodedLimit (.ofMsr raw) w 0)
      (decodedLimit (.ofMsr raw) w 32) := by
  obtain ⟨hw1, ht1, hw2, ht2⟩ := h.fields
  refine ⟨hfit1.quantised ?_, hfit2.quantised ?_, ⟨time1, htime1, ?_⟩, ?_⟩
  · show ((maskVal w 14 0).toNat : K) * _ = _
    rw [hw1, hwatts1]
  · show ((maskVal w 46 32).toNat : K) * _ = _
    rw [hw2, hwatts2]
  · show timeWindow _ (maskVal w 23 17) = _
    rw [BitVec.eq_of_toNat_eq ht1]
  · show ((maskVal w 55 49).toNat : K) = _
    rw [ht2, htime2]

variable {R : RaplSetup K} {h : Host} {socket : BitVec 32} {raw : Word}

omit [IsStrictOrderedRing K] in
/-- A register that can be read and is not zero is decoded into both structs. -/
theorem getPkgRaplLimit_decodes (hinit : Initialised R h socket raw)
    (hflag : announces R.flags pkgPowerLimit = true)
    (hok : h.fails (socketCpu R socket) msrPkgPowerLimit = false)
    (hne : h.regs (socketCpu R socket) msrPkgPowerLimit ≠ 0) (limit1 limit2 : RaplLimit K) :
    ∃ h', getPkgRaplLimit R h socket (some limit1) (some limit2) = some
        ⟨0, some (decodedLimit (.ofMsr raw) (h.regs (socketCpu R socket) msrPkgPowerLimit) 0),
          some (decodedLimit (.ofMsr raw) (h.regs (socketCpu R socket) msrPkgPowerLimit) 32), h'⟩ ∧
      h.SameDevices h' ∧ h'.regs = h.regs := by
  obtain ⟨h', hget, hsame, hregs⟩ := getPkgRaplLimit_eq hinit hflag (some limit1) (some limit2)
  refine ⟨h', ?_, hsame, hregs⟩
  have hraw := fun (l : RaplLimit K) => calcRaplLimit_raw hinit.units
    { l with bits := h.regs (socketCpu R socket) msrPkgPowerLimit } hne
  rw [hget]
  simp only [hok, Bool.false_eq_true, if_false, Option.map_some, calcPkgRaplLimit_eq,
    calcGivenLimit, hraw, Option.bind_some, ne_eq, not_true_eq_false]

/-- **Round trip.**  Limits that fit are set, read back rounded down, and
    setting what was read back writes the identical word. -/
theorem setGetSet_roundTrip (hinit : Initialised R h socket raw)
    (hflag : announces R.flags pkgPowerLimit = true)
    (hread : h.fails (socketCpu R socket) msrPkgPowerLimit = false)
    (hwrite : h.failsWrite (socketCpu R socket) msrPkgPowerLimit = false)
    {limit1 limit2 : RaplLimit K} (hfit1 : limit1.FitsLower raw) (hfit2 : limit2.FitsUpper raw)
    (old1 old2 : RaplLimit K) :
    ∃ r w, setPkgRaplLimit R h socket (some limit1) (some limit2) = some r ∧ r.rc = 0 ∧
      r.host.writes = h.writes ++ [.write (socketCpu R socket) msrPkgPowerLimit w] ∧
      ∃ g d₁ d₂, getPkgRaplLimit R r.host socket (some old1) (some old2) = some g ∧ g.rc = 0 ∧
        g.limit1 = some d₁ ∧ g.limit2 = some d₂ ∧ ReadsBack raw limit1 limit2 d₁ d₂ ∧
        ∃ r', setPkgRaplLimit R g.host socket (some d₁) (some d₂) = some r' ∧ r'.rc = 0 ∧
          r'.host.writes =
            g.host.writes ++ [.write (socketCpu R socket) msrPkgPowerLimit w] := by
  obtain ⟨watts1, time1, hfields1, hwatts1, htime1, ht1⟩ := hfit1.fields
  obtain ⟨watts2, time2, hfields2, hwatts2, htime2, ht2⟩ := hfit2.fields
  have hfloor1 := hfit1.floor_le
  have hfloor2 := hfit2.floor_le
  -- set
  have hcalc1 := calcRaplLimit_values hinit.units limit1 hfit1.bits 0
  have hcalc2 := calcRaplLimit_values hinit.units limit2 hfit2.bits 32
  rw [hfields1, Option.map_some] at hcalc1
  rw [hfields2, Option.map_some] at hcalc2
  have hpkg : calcPkgRaplLimit R socket.toNat (some limit1) (some limit2) = some (0,
      some { limit1 with bits := watts1 <<< (0 + 0) ||| time1 <<< (17 + 0) },
      some { limit2 with bits := watts2 <<< (0 + 32) ||| time2 <<< (17 + 32) }) := by
    simp only [calcPkgRaplLimit_eq, calcGivenLimit, hcalc1, hcalc2, Option.map_some,
      Option.bind_some, ne_eq, not_true_eq_false, if_false]
  obtain ⟨r, hset, -, -, hrc, hregs, hwrites, hsame⟩ :=
    setPkgRaplLimit_written hinit hflag rfl hpkg
  have hcarries := composedWord_carries h (socketCpu R socket) limit1 limit2 watts1 time1 watts2
    time2 (by omega) ht1 (by omega) ht2
  generalize hw : composedWord h (socketCpu R socket) (some limit1) (some limit2) _ _ = w
    at hregs hwrites hcarries
  refine ⟨r, w, hset, hrc.mpr ⟨fun _ => hread, hwrite⟩, hwrites, ?_⟩
  -- get
  have hinit' := hinit.of_sameDevices hsame
  have hval : r.host.regs (socketCpu R socket) msrPkgPowerLimit = w := by
    rw [hregs, hwrite, if_neg Bool.false_ne_true, Host.setReg_self]
  obtain ⟨h', hget, hsame', -⟩ := getPkgRaplLimit_decodes hinit' hflag
    (by rw [hsame.fails, hread]) (by rw [hval]; exact hcarries.ne_zero) old1 old2
  rw [hval] at hget
  refine ⟨_, _, _, hget, rfl, rfl, rfl, hcarries.readsBack hfit1.toWattsFit hfit2.toWattsFit hwatts1
    hwatts2 htime1 htime2, ?_⟩
  -- set what was got
  have hback : calcPkgRaplLimit R socket.toNat (some (decodedLimit (.ofMsr raw) w 0))
      (some (decodedLimit (.ofMsr raw) w 32)) = some (0, some (decodedLimit (.ofMsr raw) w 0),
        some (decodedLimit (.ofMsr raw) w 32)) := by
    have hraw := fun offset => calcRaplLimit_raw hinit.units
      (decodedLimit (.ofMsr raw) w offset) hcarries.ne_zero offset
    simp only [calcPkgRaplLimit_eq, calcGivenLimit, hraw, Option.map_some, Option.bind_some, ne_eq,
      not_true_eq_false, if_false]
    rfl
  obtain ⟨r', hset', -, -, hrc', -, hwrites', -⟩ :=
    setPkgRaplLimit_written (hinit'.of_sameDevices hsame') hflag rfl hback
  refine ⟨r', hset', hrc'.mpr ⟨fun _ => ?_, ?_⟩, ?_⟩
  · show h'.fails _ _ = false
    rw [hsame'.fails, hsame.fails, hread]
  · show h'.failsWrite _ _ = false
    rw [hsame'.failsWrite, hsame.failsWrite, hwrite]
  · rw [hwrites', composedWord_setBack h _ _ limit1 limit2 _ _ (decodedLimit (.ofMsr raw) w 0)
      (decodedLimit (.ofMsr raw) w 32) hw.symm rfl]
    rfl

end RoundTrip

/-- 100 watts over one second, as either limit, make the round trip. -/
theorem hundredWatts_roundTrip :
    ∃ r w, setPkgRaplLimit oneSocket (.opened 1) 0 (some ⟨0, 100, 1⟩) (some ⟨0, 100, 1⟩) = some r ∧
      r.rc = 0 ∧ r.host.writes = (Host.opened 1).writes ++
        [.write (socketCpu oneSocket 0) msrPkgPowerLimit w] ∧
      ∃ g d₁ d₂, getPkgRaplLimit oneSocket r.host 0 (some ⟨0, 0, 0⟩) (some ⟨0, 0, 0⟩) = some g ∧
        g.rc = 0 ∧ g.limit1 = some d₁ ∧ g.limit2 = some d₂ ∧
        ReadsBack 0xA1003 ⟨0, 100, 1⟩ ⟨0, 100, 1⟩ d₁ d₂ ∧
        ∃ r', setPkgRaplLimit oneSocket g.host 0 (some d₁) (some d₂) = some r' ∧ r'.rc = 0 ∧
          r'.host.writes = g.host.writes ++
            [.write (socketCpu oneSocket 0) msrPkgPowerLimit w] := by
  have hPU : powerUnit 0xA1003 = 3 := by decide
  have hTU : timeUnit 0xA1003 = 10 := by decide
  have hwatts : (⟨0, 100, 1⟩ : RaplLimit ℚ).WattsFit 0xA1003 := by
    refine ⟨rfl, by norm_num, ?_⟩
    have hunits : (⟨0, 100, 1⟩ : RaplLimit ℚ).wattUnits 0xA1003 = 800 := by
      rw [RaplLimit.wattUnits, hPU]
      norm_num
    rw [hunits, Nat.floor_ofNat]
    decide
  have htime : (⟨0, 100, 1⟩ : RaplLimit ℚ).timeUnits 0xA1003 = 1024 := by
    rw [RaplLimit.timeUnits, hTU]
    norm_num
  exact setGetSet_roundTrip oneSocket_initialised (by decide) (by decide) (by decide)
    ⟨hwatts, by rw [htime]; norm_num, by rw [htime]; norm_num⟩ ⟨hwatts, by norm_num, by norm_num⟩
    ⟨0, 0, 0⟩ ⟨0, 0, 0⟩

end Libmsr
