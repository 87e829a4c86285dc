/-
  Libmsr.Rapl.LimitEncoding

  Which words the set functions write for limits given as values.

  `calc_rapl_bits` checks the watts against their 15 bits but not the seconds
  against their 7: that check is commented out.  A time window too long for its
  field spills into the bits above it, the lock bit among them.  The theorem
  says exactly for which limits that, or an undefined conversion, is avoided.
-/
import Libmsr.Rapl.LimitsSpec

namespace Libmsr

/-! ## Packed fields -/

/-- One half of a power limit register: the watts field, the enable bit and the
    clamp bit above it as one field, and the time field. -/
def limitHalf (watts enables time : Nat) : BitVec 32 :=
  BitVec.ofNat 32 (watts + enables * 2 ^ 15 + time * 2 ^ 17)

/-- Shifted and or-ed together, the fields fill the half up to what the time
    field loses above bit 31. -/
theorem packed_toNat (watts time : BitVec 32) {enables : Nat} (hw : watts.toNat < 2 ^ 15)
    (he : enables < 4) :
    (watts ||| time <<< 17 ||| BitVec.ofNat 32 enables <<< 15).toNat =
      watts.toNat + enables * 2 ^ 15 + time.toNat % 2 ^ 15 * 2 ^ 17 := by
  have hsmall : (BitVec.ofNat 32 enables).toNat % 2 ^ (32 - 15) = enables := by
    rw [BitVec.toNat_ofNat]
    omega
  have hlow := Words.toNat_or_shiftLeft watts (BitVec.ofNat 32 enables) hw (by omega)
  rw [hsmall] at hlow
  have hlt : (watts ||| BitVec.ofNat 32 enables <<< 15).toNat < 2 ^ 17 := by
    rw [hlow]
    omega
  have hfull := Words.toNat_or_shiftLeft (watts ||| BitVec.ofNat 32 enables <<< 15) time hlt
    (by omega)
  rw [hlow] at hfull
  have hor : watts ||| time <<< 17 ||| BitVec.ofNat 32 enables <<< 15 =
      watts ||| BitVec.ofNat 32 enables <<< 15 ||| time <<< 17 := by
    rw [BitVec.or_assoc, BitVec.or_comm (time <<< 17), ← BitVec.or_assoc]
  rw [hor, hfull]

theorem limitHalf_toNat {watts enables time : Nat} (hw : watts < 2 ^ 15) (he : enables < 4)
    (ht : time < 2 ^ 7) :
    (limitHalf watts enables time).toNat = watts + enables * 2 ^ 15 + time * 2 ^ 17 := by
  rw [limitHalf, BitVec.toNat_ofNat, Nat.mod_eq_of_lt]
  omega

/-- A packed half has the shape of `limitHalf` for some 7-bit time field exactly
    when bits 14:7 of the time field that was shifted in are clear. -/
theorem packed_eq_limitHalf_iff (watts time : BitVec 32) {enables : Nat} (hw : watts.toNat < 2 ^ 15)
    (he : enables < 4) :
    (∃ t, t < 2 ^ 7 ∧ watts ||| time <<< 17 ||| BitVec.ofNat 32 enables <<< 15 =
        limitHalf watts.toNat enables t) ↔
      time.toNat % 2 ^ 15 < 2 ^ 7 := by
  have hpacked := packed_toNat watts time hw he
  constructor
  · rintro ⟨t, ht, heq⟩
    have hnat := congrArg BitVec.toNat heq
    rw [hpacked, limitHalf_toNat hw he ht] at hnat
    omega
  · intro ht
    refine ⟨time.toNat % 2 ^ 15, ht, ?_⟩
    apply BitVec.eq_of_toNat_eq
    rw [hpacked, limitHalf_toNat hw he ht]

/-- The packed fields of the lower limit leave the high half clear. -/
theorem high_packed {watts time : Word} (hwatts : watts.toNat < 2 ^ 15)
    (htime : time.toNat < 2 ^ 15) : Words.high (watts <<< (0 + 0) ||| time <<< (17 + 0)) = 0 := by
  have htop : (time <<< (17 + 0)).toNat < 2 ^ 32 := by
    rw [BitVec.toNat_shiftLeft, Nat.shiftLeft_eq]
    omega
  rw [Words.high_or, BitVec.shiftLeft_zero, Words.high_of_lt (by omega), Words.high_of_lt htop]
  rfl

/-- Those of the upper limit leave the low half clear. -/
theorem low_packed (watts time : Word) :
    Words.low (watts <<< (0 + 32) ||| time <<< (17 + 32)) = 0 := by
  rw [Words.low_or, Words.low_shiftLeft_add, Words.low_shiftLeft_add]
  rfl

/-! ## Limits given as values -/

section Encoding

variable {K : Type} [Field K] [LinearOrder K] [IsStrictOrderedRing K] [FloorRing K]

/-- A limit given as human values: no raw bits, and the values are finite and
    not negative. -/
structure RaplLimit.ByValue (limit : RaplLimit K) : Prop where
  bits : limit.bits = 0
  watts : 0 ≤ limit.watts
  seconds : 0 ≤ limit.seconds
  finite : limit.seconds < 2 ^ 1024

/-- The watts in units of `1 / 2 ^ PU`. -/
def RaplLimit.wattUnits (limit : RaplLimit K) (raw : Word) : K :=
  limit.watts * (2 ^ powerUnit raw : Nat)

/-- The seconds in units of `1 / 2 ^ TU`. -/
def RaplLimit.timeUnits (limit : RaplLimit K) (raw : Word) : K :=
  limit.seconds * (2 ^ timeUnit raw : Nat)

/-- Both conversions to `uint64_t` are defined.  The second package limit
    converts the seconds themselves, the others their logarithm. -/
def RaplLimit.Converts (limit : RaplLimit K) (raw : Word) (offset : Nat) : Prop :=
  limit.wattUnits raw < (2 ^ 64 : Nat) ∧
    if offset ≥ 32 then limit.seconds < (2 ^ 64 : Nat) else 1 / (2 : Nat) < limit.timeUnits raw

/-- The watts are refused. -/
def RaplLimit.TooLarge (limit : RaplLimit K) (raw : Word) : Prop :=
  (2 ^ 15 : Nat) ≤ limit.wattUnits raw

/-- The time window fits its 7 bits; of the second package limit's seconds only
    the bits that stay within the register count. -/
def RaplLimit.TimeFits (limit : RaplLimit K) (raw : Word) (offset : Nat) : Prop :=
  if offset ≥ 32 then ⌊limit.seconds⌋₊ % 2 ^ 15 < 2 ^ 7 else limit.timeUnits raw < (2 ^ 2 ^ 7 : Nat)

section Powers

variable (limit : RaplLimit K) (raw : Word) (offset : Nat)

omit [LinearOrder K] [IsStrictOrderedRing K] [FloorRing K] in
theorem RaplLimit.wattUnits_eq : limit.wattUnits raw = limit.watts * 2 ^ powerUnit raw := by
  rw [wattUnits, Nat.cast_pow, Nat.cast_ofNat]

omit [LinearOrder K] [IsStrictOrderedRing K] [FloorRing K] in
theorem RaplLimit.timeUnits_eq : limit.timeUnits raw = limit.seconds * 2 ^ timeUnit raw := by
  rw [timeUnits, Nat.cast_pow, Nat.cast_ofNat]

omit [IsStrictOrderedRing K] [FloorRing K] in
theorem RaplLimit.converts_iff : limit.Converts raw offset ↔ limit.wattUnits raw < 2 ^ 64 ∧
    if offset ≥ 32 then limit.seconds < 2 ^ 64 else 1 / 2 < limit.timeUnits raw := by
  simp only [Converts, Nat.cast_pow, Nat.cast_ofNat]

omit [IsStrictOrderedRing K] in
theorem RaplLimit.timeFits_iff : limit.TimeFits raw offset ↔
    if offset ≥ 32 then ⌊limit.seconds⌋₊ % 2 ^ 15 < 2 ^ 7 else limit.timeUnits raw < 2 ^ 2 ^ 7 := by
  simp only [TimeFits, Nat.cast_pow, Nat.cast_ofNat]

end Powers

omit [FloorRing K] in
theorem RaplLimit.ByValue.wattUnits_nonneg {limit : RaplLimit K} (h : limit.ByValue) (raw : Word) :
    0 ≤ limit.wattUnits raw :=
  mul_nonneg h.watts (Nat.cast_nonneg _)

/-- A finite `double` is below `2 ^ 1024`, which bounds the window in time units
    by `2 ^ 1039`. -/
theorem RaplLimit.timeUnits_lt {limit : RaplLimit K} (h : limit.seconds < 2 ^ 1024) (raw : Word) :
    limit.timeUnits raw < 2 ^ 1039 := by
  have hunit : (2 : K) ^ timeUnit raw ≤ 2 ^ 15 :=
    pow_le_pow_right₀ one_le_two (by unfold timeUnit; omega)
  calc limit.timeUnits raw = limit.seconds * 2 ^ timeUnit raw := limit.timeUnits_eq raw
    _ < 2 ^ 1024 * 2 ^ timeUnit raw := mul_lt_mul_of_pos_right h (pow_pos two_pos _)
    _ ≤ 2 ^ 1024 * 2 ^ 15 := mul_le_mul_of_nonneg_left hunit (pow_nonneg zero_le_two _)
    _ = 2 ^ 1039 := (pow_add 2 1024 15).symm

/-- The time field of the lower limit and of DRAM has at most 15 bits. -/
theorem secondsToBits_timeUnits {limit : RaplLimit K} (hfin : limit.seconds < 2 ^ 1024)
    {raw : Word} (h : 1 / 2 < limit.timeUnits raw) :
    ∃ time, secondsToBits (limit.timeUnits raw) = some time ∧ time.toNat < 2 ^ 15 ∧
      (time.toNat < 2 ^ 7 ↔ limit.timeUnits raw < 2 ^ 2 ^ 7) := by
  have hbound := RaplLimit.timeUnits_lt hfin raw
  obtain ⟨time, htime, hfit⟩ := secondsToBits_spec h (by omega) (by norm_num) hbound
  refine ⟨time, htime, (hfit 15 (by omega)).mpr ?_, hfit 7 (by omega)⟩
  exact hbound.trans_le (pow_le_pow_right₀ one_le_two (by norm_num))

/-- What `calc_rapl_bits` makes of the seconds. -/
theorem timeField_spec {limit : RaplLimit K} (hval : limit.ByValue) (raw : Word) (offset : Nat)
    (h : if offset ≥ 32 then limit.seconds < 2 ^ 64 else 1 / 2 < limit.timeUnits raw) :
    ∃ time, timeField (.ofMsr raw) offset limit.seconds = some time ∧
      (time.toNat % 2 ^ 15 < 2 ^ 7 ↔ limit.TimeFits raw offset) ∧
      (offset < 32 → time.toNat < 2 ^ 15) := by
  by_cases hoff : offset ≥ 32
  · rw [if_pos hoff] at h
    obtain ⟨time, htime, hnat⟩ := toU64_spec hval.seconds h
    refine ⟨time, by rw [timeField, if_pos hoff, htime], ?_, fun hlt => absurd hoff (by omega)⟩
    rw [limit.timeFits_iff, if_pos hoff, hnat]
  · rw [if_neg hoff] at h
    obtain ⟨time, htime, h15, hfit⟩ := secondsToBits_timeUnits hval.finite h
    refine ⟨time, ?_, ?_, fun _ => h15⟩
    · rw [timeField, if_neg hoff, ofMsr_seconds, ← limit.timeUnits_eq]
      exact htime
    · rw [limit.timeFits_iff, if_neg hoff, Nat.mod_eq_of_lt h15]
      exact hfit

/-- Half a register that holds the watts as `⌊watts / unit⌋` in bits 14:0, the
    bits `enables` from bit 15 on, a 7-bit time field in bits 23:17, and
    nothing else. -/
def HalfEncodes (raw : Word) (enables : Nat) (limit : RaplLimit K) (half : BitVec 32) : Prop :=
  ⌊limit.wattUnits raw⌋₊ < 2 ^ 15 ∧
    ∃ t, t < 2 ^ 7 ∧ half = limitHalf ⌊limit.wattUnits raw⌋₊ enables t

/-- Half a register as `calc_rapl_bits` fills it. -/
def HalfPacked (raw : Word) (offset : Nat) (limit : RaplLimit K) (half : BitVec 32) : Prop :=
  ∃ watts time : BitVec 32, half = watts ||| time <<< 17 ∧
    watts.toNat = ⌊limit.wattUnits raw⌋₊ ∧ watts.toNat < 2 ^ 15 ∧
    (time.toNat % 2 ^ 15 < 2 ^ 7 ↔ limit.TimeFits raw offset)

omit [IsStrictOrderedRing K] in
/-- Enabled, a packed half holds the two fields and nothing else exactly when the
    time fits. -/
theorem HalfPacked.encodes_iff {raw : Word} {offset : Nat} {limit : RaplLimit K}
    {half : BitVec 32} (h : HalfPacked raw offset limit half) {enables : Nat} (he : enables < 4) :
    HalfEncodes raw enables limit (half ||| BitVec.ofNat 32 enables <<< 15) ↔
      limit.TimeFits raw offset := by
  obtain ⟨watts, time, rfl, hwatts, hlt, htime⟩ := h
  rw [HalfEncodes, ← hwatts, and_iff_right hlt, packed_eq_limitHalf_iff watts time hlt he, htime]

omit [IsStrictOrderedRing K] in
/-- The fields computed as 64-bit words, taken into the half. -/
theorem halfPacked_low {raw : Word} {offset : Nat} {limit : RaplLimit K} {watts time : Word}
    (hwatts : watts.toNat = ⌊limit.wattUnits raw⌋₊) (hlt : watts.toNat < 2 ^ 15)
    (htime : time.toNat % 2 ^ 15 < 2 ^ 7 ↔ limit.TimeFits raw offset) :
    HalfPacked raw offset limit (Words.low watts ||| Words.low time <<< 17) := by
  have hlow : (Words.low watts).toNat = watts.toNat := by
    rw [Words.low_toNat]
    omega
  refine ⟨Words.low watts, Words.low time, rfl, hlow.trans hwatts, by omega, ?_⟩
  rw [← htime, Words.low_toNat, Nat.mod_mod_of_dvd _ (by omega)]

/-- The three outcomes of encoding a limit given as values: a conversion is
    undefined, the watts are refused, or the fields are packed into the half at
    `offset` and the other half stays clear. -/
theorem calcRaplLimit_byValue {R : RaplSetup K} {socket : Nat} {raw : Word}
    (hru : R.ru[socket]? = some (.ofMsr raw)) {limit : RaplLimit K} (hval : limit.ByValue)
    {offset : Nat} (hoff : offset = 0 ∨ offset = 32) :
    (¬ limit.Converts raw offset ∧ calcRaplLimit R socket limit offset = none) ∨
    (limit.Converts raw offset ∧ limit.TooLarge raw ∧
      calcRaplLimit R socket limit offset = some (-1, limit)) ∨
    (limit.Converts raw offset ∧ ¬ limit.TooLarge raw ∧
      ∃ l, calcRaplLimit R socket limit offset = some (0, l) ∧
        (offset = 0 → HalfPacked raw 0 limit (Words.low l.bits) ∧ Words.high l.bits = 0) ∧
        (offset = 32 → HalfPacked raw 32 limit (Words.high l.bits) ∧ Words.low l.bits = 0)) := by
  have hcalc := calcRaplLimit_values hru _ hval.bits offset
  have hunits : limit.watts / (RaplUnits.ofMsr raw : RaplUnits K).watts = limit.wattUnits raw := by
    rw [ofMsr_watts, one_div, div_inv_eq_mul, limit.wattUnits_eq]
  by_cases hconv : limit.Converts raw offset
  · right
    obtain ⟨hwattsDef, htimeDef⟩ := (limit.converts_iff raw offset).mp hconv
    obtain ⟨time, htime, hfit, hsmall⟩ := timeField_spec hval raw offset htimeDef
    obtain ⟨watts, hwatts, hnat⟩ := toU64_spec (hval.wattUnits_nonneg raw) hwattsDef
    have hlarge : watts.toNat ≥ 2 ^ 15 ↔ limit.TooLarge raw := by
      rw [hnat, RaplLimit.TooLarge, ge_iff_le, Nat.le_floor_iff (hval.wattUnits_nonneg raw)]
    simp only [limitFields, htime, hunits, hwatts, Option.bind_eq_bind, Option.bind_some] at hcalc
    by_cases htoo : limit.TooLarge raw
    · left
      rw [if_pos (hlarge.mpr htoo)] at hcalc
      exact ⟨hconv, htoo, hcalc⟩
    · right
      rw [if_neg (mt hlarge.mp htoo)] at hcalc
      have h15 : watts.toNat < 2 ^ 15 := Nat.lt_of_not_le (mt hlarge.mp htoo)
      refine ⟨hconv, htoo, _, hcalc, ?_, ?_⟩
      · rintro rfl
        constructor
        · show HalfPacked raw 0 limit (Words.low (watts <<< 0 ||| time <<< 17))
          rw [Words.low_or, Words.low_shiftLeft, Words.low_shiftLeft, BitVec.shiftLeft_zero]
          exact halfPacked_low hnat h15 hfit
        · exact high_packed h15 (hsmall (by omega))
      · rintro rfl
        constructor
        · show HalfPacked raw 32 limit (Words.high (watts <<< (0 + 32) ||| time <<< (17 + 32)))
          rw [Words.high_or, Words.high_shiftLeft_add, Words.high_shiftLeft_add,
            BitVec.shiftLeft_zero]
          exact halfPacked_low hnat h15 hfit
        · exact low_packed watts time
  · left
    refine ⟨hconv, ?_⟩
    rw [hcalc, limitFields, hunits]
    rcases not_and_or.mp (mt (limit.converts_iff raw offset).mpr hconv) with hwatts | htime
    · rw [toU64_none hwatts]
      cases timeField (RaplUnits.ofMsr raw : RaplUnits K) offset limit.seconds <;> rfl
    · have hnone : timeField (RaplUnits.ofMsr raw : RaplUnits K) offset limit.seconds = none := by
        by_cases hge : offset ≥ 32
        · rw [if_pos hge] at htime
          rw [timeField, if_pos hge, toU64_none htime]
        · rw [if_neg hge] at htime
          rw [timeField, if_neg hge, ofMsr_seconds, ← limit.timeUnits_eq]
          exact secondsToBits_none htime
      rw [hnone]
      rfl

/-! ## Set calls -/

/-- The word encodes the limits that are given, each in its half. -/
def PkgEncodes (raw : Word) (limit1 limit2 : Option (RaplLimit K)) (w : Word) : Prop :=
  (∀ l, limit1 = some l → HalfEncodes raw 3 l (Words.low w)) ∧
    ∀ l, limit2 = some l → HalfEncodes raw 3 l (Words.high w)

omit [IsStrictOrderedRing K] in
theorem pkgEncodes_limit1 {raw : Word} {l : RaplLimit K} {w : Word} :
    PkgEncodes raw (some l) none w ↔ HalfEncodes raw 3 l (Words.low w) := by
  simp only [PkgEncodes, Option.some.injEq, forall_eq', reduceCtorEq, false_implies, implies_true,
    and_true]

omit [IsStrictOrderedRing K] in
theorem pkgEncodes_limit2 {raw : Word} {l : RaplLimit K} {w : Word} :
    PkgEncodes raw none (some l) w ↔ HalfEncodes raw 3 l (Words.high w) := by
  simp only [PkgEncodes, Option.some.injEq, forall_eq', reduceCtorEq, false_implies, implies_true,
    true_and]

omit [IsStrictOrderedRing K] in
theorem pkgEncodes_both {raw : Word} {l₁ l₂ : RaplLimit K} {w : Word} :
    PkgEncodes raw (some l₁) (some l₂) w ↔
      HalfEncodes raw 3 l₁ (Words.low w) ∧ HalfEncodes raw 3 l₂ (Words.high w) := by
  simp only [PkgEncodes, Option.some.injEq, forall_eq']

/-- `set_pkg_rapl_limit` returns -1 and writes nothing, or writes a word that
    encodes the limits. -/
def PkgWellEncoded (R : RaplSetup K) (h : Host) (socket : BitVec 32) (raw : Word)
    (limit1 limit2 : Option (RaplLimit K)) : Prop :=
  ∃ r, setPkgRaplLimit R h socket limit1 limit2 = some r ∧
    (r.rc = -1 ∧ r.host.writes = h.writes ∨
      ∃ w, r.host.writes = h.writes ++ [.write (socketCpu R socket) msrPkgPowerLimit w] ∧
        PkgEncodes raw limit1 limit2 w)

/-- `set_dram_rapl_limit` returns -1 and writes nothing, or writes a word that
    encodes the limit and has no other bit. -/
def DramWellEncoded (R : RaplSetup K) (h : Host) (socket : BitVec 32) (raw : Word)
    (limit : RaplLimit K) : Prop :=
  ∃ r, setDramRaplLimit R h socket (some limit) = some r ∧
    (r.rc = -1 ∧ r.host.writes = h.writes ∨
      ∃ w, r.host.writes = h.writes ++ [.write (socketCpu R socket) msrDramPowerLimit w] ∧
        HalfEncodes raw 1 limit (Words.low w) ∧ Words.high w = 0)

/-- The conversions are defined, and the time fits unless the watts are refused. -/
def RaplLimit.Encodable (limit : RaplLimit K) (raw : Word) (offset : Nat) : Prop :=
  limit.Converts raw offset ∧ (limit.TooLarge raw ∨ limit.TimeFits raw offset)

/-- The same for the limits of a package request.  The second is not looked at
    when the first is refused, and refusing the second refuses both. -/
def PkgEncodable (raw : Word) : Option (RaplLimit K) → Option (RaplLimit K) → Prop
  | none, none => True
  | some l, none => l.Encodable raw 0
  | none, some l => l.Encodable raw 32
  | some l₁, some l₂ =>
    l₁.Converts raw 0 ∧ (l₁.TooLarge raw ∨
      l₂.Converts raw 32 ∧ (l₂.TooLarge raw ∨ l₁.TimeFits raw 0 ∧ l₂.TimeFits raw 32))

section SetEncoding

variable {R : RaplSetup K} {h : Host} {socket : BitVec 32} {raw : Word}

/-- **DRAM limits.** -/
theorem dramWellEncoded_iff (hinit : Initialised R h socket raw) {limit : RaplLimit K}
    (hval : limit.ByValue) :
    DramWellEncoded R h socket raw limit ↔
      (announces R.flags dramPowerLimit = true → limit.Encodable raw 0) := by
  cases hflag : announces R.flags dramPowerLimit with
  | false =>
    refine iff_of_true ⟨⟨-1, some limit, h⟩, ?_, Or.inl ⟨rfl, rfl⟩⟩ (by simp)
    simp only [setDramRaplLimit, hflag, Bool.false_eq_true, if_false]
  | true =>
    rw [forall_prop_of_true rfl]
    rcases calcRaplLimit_byValue hinit.units hval (Or.inl rfl) with
      ⟨hconv, hcalc⟩ | ⟨hconv, hlarge, hcalc⟩ | ⟨hconv, hlarge, l, hcalc, hpacked, -⟩
    · refine iff_of_false ?_ fun henc => hconv henc.1
      rintro ⟨r, hset, -⟩
      rw [setDramRaplLimit_none hflag hcalc] at hset
      contradiction
    · refine iff_of_true ⟨_, setDramRaplLimit_refused hflag (by omega) hcalc, Or.inl ⟨rfl, rfl⟩⟩ ?_
      exact ⟨hconv, Or.inl hlarge⟩
    · obtain ⟨hhalf, hzero⟩ := hpacked rfl
      obtain ⟨r, hset, -, -, hwrites⟩ := setDramRaplLimit_written hflag hinit hcalc
      have hlow : Words.low (l.bits ||| (1 : Word) <<< 15) =
          Words.low l.bits ||| BitVec.ofNat 32 1 <<< 15 := by
        rw [Words.low_or, Words.low_shiftLeft]
        rfl
      have hhigh : Words.high (l.bits ||| (1 : Word) <<< 15) = 0 := by
        rw [Words.high_or, hzero, Words.high_of_lt (by decide)]
        rfl
      have hshape := hhalf.encodes_iff (by omega : 1 < 4)
      constructor
      · rintro ⟨r', hset', hout⟩
        obtain rfl := Option.some.inj (hset.symm.trans hset')
        rw [hwrites] at hout
        rcases hout with ⟨-, hsame⟩ | ⟨w, hw, hencodes, -⟩
        · simp at hsame
        · obtain rfl : l.bits ||| (1 : Word) <<< 15 = w := by simpa using hw
          rw [hlow, hshape] at hencodes
          exact ⟨hconv, Or.inr hencodes⟩
      · rintro ⟨-, htoo | hfits⟩
        · exact absurd htoo hlarge
        · refine ⟨r, hset, Or.inr ⟨_, hwrites, ?_, hhigh⟩⟩
          rw [hlow, hshape]
          exact hfits

section Outcomes

variable {limit1 limit2 : Option (RaplLimit K)} (hflag : announces R.flags pkgPowerLimit = true)
include hflag

omit [IsStrictOrderedRing K] in
theorem not_pkgWellEncoded (hcalc : calcPkgRaplLimit R socket.toNat limit1 limit2 = none) :
    ¬ PkgWellEncoded R h socket raw limit1 limit2 := by
  rintro ⟨r, hset, -⟩
  rw [setPkgRaplLimit_none hflag hcalc] at hset
  contradiction

omit [IsStrictOrderedRing K] in
theorem pkgWellEncoded_refused (hinit : Initialised R h socket raw) {rc : Int}
    {l₁ l₂ : Option (RaplLimit K)} (hrc : rc ≠ 0)
    (hcalc : calcPkgRaplLimit R socket.toNat limit1 limit2 = some (rc, l₁, l₂)) :
    PkgWellEncoded R h socket raw limit1 limit2 := by
  obtain ⟨r, hset, hfail, -, -, -, hwrites⟩ := setPkgRaplLimit_refused hinit hflag hrc hcalc
  exact ⟨r, hset, Or.inl ⟨hfail, hwrites⟩⟩

omit [IsStrictOrderedRing K] in
theorem pkgWellEncoded_written (hinit : Initialised R h socket raw)
    {l₁ l₂ : Option (RaplLimit K)} (hreq : (l₁.isSome || l₂.isSome) = true)
    (hcalc : calcPkgRaplLimit R socket.toNat limit1 limit2 = some (0, l₁, l₂)) :
    PkgWellEncoded R h socket raw limit1 limit2 ↔
      PkgEncodes raw limit1 limit2
        (keptHalf (currentValue h (socketCpu R socket) msrPkgPowerLimit) limit1 limit2 |||
          enabled1 l₁ ||| enabled2 l₂) := by
  obtain ⟨r, hset, -, -, -, -, hwrites, -⟩ := setPkgRaplLimit_written hinit hflag hreq hcalc
  rw [composedWord] at hwrites
  constructor
  · rintro ⟨r', hset', hout⟩
    obtain rfl := Option.some.inj (hset.symm.trans hset')
    rw [hwrites] at hout
    rcases hout with ⟨-, hsame⟩ | ⟨w, hw, hencodes⟩
    · simp at hsame
    · have hword := List.append_cancel_left hw
      injection hword with haccess
      injection haccess with _ _ hval
      rw [hval]
      exact hencodes
  · intro hencodes
    exact ⟨r, hset, Or.inr ⟨_, hwrites, hencodes⟩⟩

end Outcomes

omit [IsStrictOrderedRing K] in
/-- The low half written for limit 1, if limit 2 has no bits there. -/
theorem low_encodes_iff {limit1 l : RaplLimit K}
    (hpacked : HalfPacked raw 0 limit1 (Words.low l.bits)) {l₂ : Option (RaplLimit K)}
    (h2 : Words.low (enabled2 l₂) = 0) (current : Word) (limit2 : Option (RaplLimit K)) :
    HalfEncodes raw 3 limit1 (Words.low
        (keptHalf current (some limit1) limit2 ||| enabled1 (some l) ||| enabled2 l₂)) ↔
      limit1.TimeFits raw 0 := by
  have hlow : Words.low (keptHalf current (some limit1) limit2 ||| enabled1 (some l) |||
      enabled2 l₂) = Words.low l.bits ||| BitVec.ofNat 32 3 <<< 15 := by
    rw [Words.low_or, Words.low_or, low_keptHalf, low_enabled1, h2, Option.isNone_some,
      if_neg Bool.false_ne_true, BitVec.or_assoc (Words.low l.bits)]
    simp
  rw [hlow]
  exact hpacked.encodes_iff (by omega)

omit [IsStrictOrderedRing K] in
/-- The high half written for limit 2, if limit 1 has no bits there. -/
theorem high_encodes_iff {limit2 l : RaplLimit K}
    (hpacked : HalfPacked raw 32 limit2 (Words.high l.bits))
    (l₁ : Option (RaplLimit K)) (h1 : Words.high (enabled1 l₁) = 0) (current : Word)
    (limit1 : Option (RaplLimit K)) :
    HalfEncodes raw 3 limit2 (Words.high
        (keptHalf current limit1 (some limit2) ||| enabled1 l₁ ||| enabled2 (some l))) ↔
      limit2.TimeFits raw 32 := by
  have hhigh : Words.high (keptHalf current limit1 (some limit2) ||| enabled1 l₁ |||
      enabled2 (some l)) = Words.high l.bits ||| BitVec.ofNat 32 3 <<< 15 := by
    rw [Words.high_or, Words.high_or, high_keptHalf current _ (Or.inr rfl), high_enabled2, h1,
      Option.isNone_some, if_neg Bool.false_ne_true, BitVec.or_assoc (Words.high l.bits)]
    simp
  rw [hhigh]
  exact hpacked.encodes_iff (by omega)

section Requests

variable (hinit : Initialised R h socket raw) (hflag : announces R.flags pkgPowerLimit = true)
include hinit hflag

/-- A request for limit 1 alone: one case for each outcome of its encoding. -/
theorem pkgWellEncoded_limit1 {limit1 : RaplLimit K} (hval1 : limit1.ByValue) :
    PkgWellEncoded R h socket raw (some limit1) none ↔ PkgEncodable raw (some limit1) none := by
  rcases calcRaplLimit_byValue hinit.units hval1 (Or.inl rfl) with
    ⟨hconv, hcalc⟩ | ⟨hconv, hlarge, hcalc⟩ | ⟨hconv, hlarge, l₁, hcalc, hpacked, -⟩
  · have hpkg : calcPkgRaplLimit R socket.toNat (some limit1) none = none := by
      simp [calcPkgRaplLimit, hcalc]
    exact iff_of_false (not_pkgWellEncoded hflag hpkg) fun henc => hconv henc.1
  · have hpkg : calcPkgRaplLimit R socket.toNat (some limit1) none =
        some (-1, some limit1, none) := by
      simp [calcPkgRaplLimit, hcalc]
    exact iff_of_true (pkgWellEncoded_refused hflag hinit (by omega) hpkg) ⟨hconv, Or.inl hlarge⟩
  · have hpkg : calcPkgRaplLimit R socket.toNat (some limit1) none =
        some (0, some l₁, none) := by
      simp [calcPkgRaplLimit, hcalc]
    rw [pkgWellEncoded_written hflag hinit rfl hpkg]
    have hlow := low_encodes_iff (hpacked rfl).1 low_enabled2_none
      (currentValue h (socketCpu R socket) msrPkgPowerLimit) none
    rw [pkgEncodes_limit1, hlow]
    exact ⟨fun hfits => ⟨hconv, Or.inr hfits⟩, fun henc => henc.2.resolve_left hlarge⟩

/-- A request for limit 2 alone. -/
theorem pkgWellEncoded_limit2 {limit2 : RaplLimit K} (hval2 : limit2.ByValue) :
    PkgWellEncoded R h socket raw none (some limit2) ↔ PkgEncodable raw none (some limit2) := by
  rcases calcRaplLimit_byValue hinit.units hval2 (Or.inr rfl) with
    ⟨hconv, hcalc⟩ | ⟨hconv, hlarge, hcalc⟩ | ⟨hconv, hlarge, l₂, hcalc, -, hpacked⟩
  · have hpkg : calcPkgRaplLimit R socket.toNat none (some limit2) = none := by
      simp [calcPkgRaplLimit, hcalc]
    exact iff_of_false (not_pkgWellEncoded hflag hpkg) fun henc => hconv henc.1
  · have hpkg : calcPkgRaplLimit R socket.toNat none (some limit2) =
        some (-1, none, some limit2) := by
      simp [calcPkgRaplLimit, hcalc]
    exact iff_of_true (pkgWellEncoded_refused hflag hinit (by omega) hpkg) ⟨hconv, Or.inl hlarge⟩
  · have hpkg : calcPkgRaplLimit R socket.toNat none (some limit2) =
        some (0, none, some l₂) := by
      simp [calcPkgRaplLimit, hcalc]
    rw [pkgWellEncoded_written hflag hinit rfl hpkg]
    have hhigh := high_encodes_iff (hpacked rfl).1 none high_enabled1_none
      (currentValue h (socketCpu R socket) msrPkgPowerLimit) none
    rw [pkgEncodes_limit2, hhigh]
    exact ⟨fun hfits => ⟨hconv, Or.inr hfits⟩, fun henc => henc.2.resolve_left hlarge⟩

/-- A request for both: limit 2 is encoded only when limit 1 was. -/
theorem pkgWellEncoded_both {limit1 limit2 : RaplLimit K} (hval1 : limit1.ByValue)
    (hval2 : limit2.ByValue) :
    PkgWellEncoded R h socket raw (some limit1) (some limit2) ↔
      PkgEncodable raw (some limit1) (some limit2) := by
  rcases calcRaplLimit_byValue hinit.units hval1 (Or.inl rfl) with
    ⟨hconv1, hcalc1⟩ | ⟨hconv1, hlarge1, hcalc1⟩ | ⟨hconv1, hlarge1, l₁, hcalc1, hpacked1, -⟩
  · have hpkg : calcPkgRaplLimit R socket.toNat (some limit1) (some limit2) = none := by
      simp [calcPkgRaplLimit, hcalc1]
    exact iff_of_false (not_pkgWellEncoded hflag hpkg) fun henc => hconv1 henc.1
  · have hpkg : calcPkgRaplLimit R socket.toNat (some limit1) (some limit2) =
        some (-1, some limit1, some limit2) := by
      simp [calcPkgRaplLimit, hcalc1]
    exact iff_of_true (pkgWellEncoded_refused hflag hinit (by omega) hpkg)
      ⟨hconv1, Or.inl hlarge1⟩
  · obtain ⟨hhalf1, hzero1⟩ := hpacked1 rfl
    rcases calcRaplLimit_byValue hinit.units hval2 (Or.inr rfl) with
      ⟨hconv2, hcalc2⟩ | ⟨hconv2, hlarge2, hcalc2⟩ | ⟨hconv2, hlarge2, l₂, hcalc2, -, hpacked2⟩
    · have hpkg : calcPkgRaplLimit R socket.toNat (some limit1) (some limit2) = none := by
        simp [calcPkgRaplLimit, hcalc1, hcalc2]
      refine iff_of_false (not_pkgWellEncoded hflag hpkg) ?_
      simp [PkgEncodable, hconv2, hlarge1]
    · have hpkg : calcPkgRaplLimit R socket.toNat (some limit1) (some limit2) =
          some (-1, some l₁, some limit2) := by
        simp [calcPkgRaplLimit, hcalc1, hcalc2]
      refine iff_of_true (pkgWellEncoded_refused hflag hinit (by omega) hpkg) ?_
      simp [PkgEncodable, hconv1, hconv2, hlarge2]
    · have hpkg : calcPkgRaplLimit R socket.toNat (some limit1) (some limit2) =
          some (0, some l₁, some l₂) := by
        simp [calcPkgRaplLimit, hcalc1, hcalc2]
      obtain ⟨hhalf2, hzero2⟩ := hpacked2 rfl
      rw [pkgWellEncoded_written hflag hinit rfl hpkg]
      -- each limit's bits stay out of the other's half
      have hlow := low_encodes_iff hhalf1 ((low_enabled2 l₂).trans hzero2)
        (currentValue h (socketCpu R socket) msrPkgPowerLimit) (some limit2)
      have hhigh := high_encodes_iff hhalf2 _ ((high_enabled1 l₁).trans hzero1)
        (currentValue h (socketCpu R socket) msrPkgPowerLimit) (some limit1)
      rw [pkgEncodes_both, hlow, hhigh]
      simp only [PkgEncodable, hconv1, hlarge1, hconv2, hlarge2, true_and, false_or]

end Requests

/-- **Package limits.** -/
theorem pkgWellEncoded_iff (hinit : Initialised R h socket raw)
    {limit1 limit2 : Option (RaplLimit K)} (hreq : (limit1.isSome || limit2.isSome) = true)
    (hval1 : ∀ l, limit1 = some l → l.ByValue) (hval2 : ∀ l, limit2 = some l → l.ByValue) :
    PkgWellEncoded R h socket raw limit1 limit2 ↔
      (announces R.flags pkgPowerLimit = true → PkgEncodable raw limit1 limit2) := by
  cases hflag : announces R.flags pkgPowerLimit with
  | false =>
    refine iff_of_true ⟨⟨-1, limit1, limit2, h⟩, ?_, Or.inl ⟨rfl, rfl⟩⟩ (by simp)
    simp only [setPkgRaplLimit, hflag, Bool.false_eq_true, if_false]
  | true =>
    rw [forall_prop_of_true rfl]
    cases limit1 with
    | none =>
      cases limit2 with
      | none => simp at hreq
      | some limit2 => exact pkgWellEncoded_limit2 hinit hflag (hval2 _ rfl)
    | some limit1 =>
      cases limit2 with
      | none => exact pkgWellEncoded_limit1 hinit hflag (hval1 _ rfl)
      | some limit2 => exact pkgWellEncoded_both hinit hflag (hval1 _ rfl) (hval2 _ rfl)

/-- **Exact encoding of limits given as values.**  A package request and a DRAM
    limit are refused, or written as a word that holds watts and time in their fields
    and no other bit but the enables, if and only if the register is missing or the
    request is encodable. -/
theorem wellEncoded_iff (hinit : Initialised R h socket raw) :
    (∀ limit1 limit2 : Option (RaplLimit K), (limit1.isSome || limit2.isSome) = true →
      (∀ l, limit1 = some l → l.ByValue) → (∀ l, limit2 = some l → l.ByValue) →
      (PkgWellEncoded R h socket raw limit1 limit2 ↔
        (announces R.flags pkgPowerLimit = true → PkgEncodable raw limit1 limit2))) ∧
    ∀ limit : RaplLimit K, limit.ByValue →
      (DramWellEncoded R h socket raw limit ↔
        (announces R.flags dramPowerLimit = true → limit.Encodable raw 0)) :=
  ⟨fun _ _ hreq hval1 hval2 => pkgWellEncoded_iff hinit hreq hval1 hval2,
    fun _ hval => dramWellEncoded_iff hinit hval⟩

end SetEncoding

end Encoding

/-! ## One socket -/

/-- One socket of one core with the flags of model 0x2D and the units the source
    gives as the default. -/
def oneSocket : RaplSetup ℚ where
  cfg := ⟨1, 1, 1⟩
  topo := ⟨[some ⟨0, 0, 0, 0, 0⟩], false⟩
  model := 0x2D
  flags := 0x7FF
  ru := [.ofMsr 0xA1003]

theorem oneSocket_units : oneSocket.ru[0]? = some (.ofMsr 0xA1003) := rfl

theorem oneSocket_initialised : Initialised oneSocket (.opened 1) 0 0xA1003 :=
  ⟨by decide, Host.opened_ready 1, by decide, oneSocket_units⟩

/-- 100 watts over one second. -/
theorem hundredWatts_byValue : (⟨0, 100, 1⟩ : RaplLimit ℚ).ByValue :=
  ⟨rfl, by norm_num, by norm_num, one_lt_pow₀ one_lt_two (by omega)⟩

/-- 100 watts over one second can be set as any limit. -/
theorem hundredWatts_wellEncoded :
    PkgWellEncoded oneSocket (.opened 1) 0 0xA1003 (some ⟨0, 100, 1⟩) (some ⟨0, 100, 1⟩) ∧
      DramWellEncoded oneSocket (.opened 1) 0 0xA1003 ⟨0, 100, 1⟩ := by
  have hPU : powerUnit 0xA1003 = 3 := by decide
  have hTU : timeUnit 0xA1003 = 10 := by decide
  have hwatts : (⟨0, 100, 1⟩ : RaplLimit ℚ).wattUnits 0xA1003 < 2 ^ 64 := by
    rw [RaplLimit.wattUnits, hPU]
    norm_num
  have hfits : ∀ offset, (⟨0, 100, 1⟩ : RaplLimit ℚ).TimeFits 0xA1003 offset := by
    intro offset
    unfold RaplLimit.TimeFits RaplLimit.timeUnits
    rw [hTU]
    split <;> norm_num
  have hconv : ∀ offset, (⟨0, 100, 1⟩ : RaplLimit ℚ).Converts 0xA1003 offset := by
    intro offset
    refine ⟨hwatts, ?_⟩
    unfold RaplLimit.timeUnits
    rw [hTU]
    split <;> norm_num
  obtain ⟨hpkg, hdram⟩ := wellEncoded_iff oneSocket_initialised
  constructor
  · rw [hpkg _ _ rfl (by rintro l ⟨⟩; exact hundredWatts_byValue)
      (by rintro l ⟨⟩; exact hundredWatts_byValue)]
    exact fun _ => ⟨hconv 0, Or.inr ⟨hconv 32, Or.inr ⟨hfits 0, hfits 32⟩⟩⟩
  · rw [hdram _ hundredWatts_byValue]
    exact fun _ => ⟨hconv 0, Or.inr (hfits 0)⟩

/-- 100 watts over 16384 seconds as the second limit: the call succeeds and the
    word it writes has the lock bit 63 set. -/
theorem longWindow_locks :
    (⟨0, 100, 16384⟩ : RaplLimit ℚ).ByValue ∧
      ¬ PkgWellEncoded oneSocket (.opened 1) 0 0xA1003 none (some ⟨0, 100, 16384⟩) ∧
      ∃ r w, setPkgRaplLimit oneSocket (.opened 1) 0 none (some ⟨0, 100, 16384⟩) = some r ∧
        r.rc = 0 ∧ r.host.writes = [.write 0 msrPkgPowerLimit w] ∧ w.getLsbD 63 = true := by
  have hval : (⟨0, 100, 16384⟩ : RaplLimit ℚ).ByValue := by
    refine ⟨rfl, by norm_num, by norm_num, ?_⟩
    have hpow : (16384 : ℚ) = 2 ^ 14 := by norm_num
    show (16384 : ℚ) < 2 ^ 1024
    rw [hpow]
    exact pow_lt_pow_right₀ one_lt_two (by omega)
  obtain ⟨time, htime, htime'⟩ := toU64_spec (x := (16384 : ℚ)) (by norm_num) (by norm_num)
  obtain ⟨watts, hwatts, hwatts'⟩ := toU64_spec (x := (800 : ℚ)) (by norm_num) (by norm_num)
  rw [Nat.floor_ofNat] at htime' hwatts'
  obtain rfl : time = 16384 := BitVec.eq_of_toNat_eq htime'
  obtain rfl : watts = 800 := BitVec.eq_of_toNat_eq hwatts'
  have hunits : (100 : ℚ) / (RaplUnits.ofMsr 0xA1003 : RaplUnits ℚ).watts = 800 := by
    have hPU : powerUnit 0xA1003 = 3 := by decide
    rw [ofMsr_watts, hPU]
    norm_num
  have hfields : limitFields (RaplUnits.ofMsr 0xA1003) 32 (⟨0, 100, 16384⟩ : RaplLimit ℚ) =
      some (some (800, 16384)) := by
    rw [limitFields, timeField, if_pos (le_refl 32), hunits, htime, hwatts]
    rfl
  have hcalc := calcRaplLimit_values oneSocket_units ⟨0, 100, 16384⟩ rfl 32
  rw [hfields] at hcalc
  have hpkg : calcPkgRaplLimit oneSocket 0 none (some ⟨0, 100, 16384⟩) =
      some (0, none, some ⟨800 <<< 32 ||| 16384 <<< 49, 100, 16384⟩) := by
    simp only [calcPkgRaplLimit, hcalc, Option.bind_eq_bind, Option.bind_some, Option.map_some,
      ne_eq, not_true_eq_false, if_false]
    rfl
  obtain ⟨r, hset, -, -, hrc, -, hwrites, -⟩ := setPkgRaplLimit_written oneSocket_initialised
    (by decide) rfl hpkg
  have hnot : ¬ (⟨0, 100, 16384⟩ : RaplLimit ℚ).Encodable 0xA1003 32 := by
    have hPU : powerUnit 0xA1003 = 3 := by decide
    rintro ⟨-, hlarge | hfits⟩
    · rw [RaplLimit.TooLarge, RaplLimit.wattUnits, hPU] at hlarge
      norm_num at hlarge
    · rw [RaplLimit.TimeFits, if_pos (le_refl 32), Nat.floor_ofNat] at hfits
      exact absurd hfits (by omega)
  refine ⟨hval, ?_, r, _, hset, hrc.mpr (by decide), hwrites, ?_⟩
  · rw [pkgWellEncoded_iff oneSocket_initialised rfl (by rintro l ⟨⟩) (by rintro l ⟨⟩; exact hval)]
    exact fun henc => hnot (henc (by decide))
  · decide

end Libmsr
