/-
  Libmsr.Rapl.LimitHalves

  Which half of MSR_PKG_POWER_LIMIT each limit of `set_pkg_rapl_limit` decides.

  Limits given as raw bits are or-ed into the word without masking, so their
  bits in the other half reach the register, unless that half has them anyway.
-/
import Libmsr.Rapl.LimitOutcomes

namespace Libmsr

section LimitHalves

variable {K : Type} [Field K] [LinearOrder K] [IsStrictOrderedRing K] [FloorRing K]

/-- The low half limit 1 asks for: its own with the enable and clamp bits, or
    the current one if the limit is NULL. -/
def ownLow (u : RaplUnits K) (current : Word) : Option (RaplLimit K) → BitVec 32
  | none => Words.low current
  | some l => Words.low (l.ownBits u 0) ||| ((1 : BitVec 32) <<< 15) ||| ((1 : BitVec 32) <<< 16)

/-- The high half limit 2 asks for. -/
def ownHigh (u : RaplUnits K) (current : Word) : Option (RaplLimit K) → BitVec 32
  | none => Words.high current
  | some l => Words.high (l.ownBits u 32) ||| ((1 : BitVec 32) <<< 15) ||| ((1 : BitVec 32) <<< 16)

/-- A limit that was encoded has the bits it stands for. -/
theorem calcRaplLimit_bits {R : RaplSetup K} {socket : Nat} {u : RaplUnits K}
    (hru : R.ru[socket]? = some u) {limit l : RaplLimit K} {offset : Nat}
    (h : calcRaplLimit R socket limit offset = some (0, l)) : l.bits = limit.ownBits u offset := by
  by_cases hbits : limit.bits = 0
  · rw [calcRaplLimit_values hru _ hbits] at h
    rw [RaplLimit.ownBits, if_neg (not_not.mpr hbits)]
    rcases hfields : limitFields u offset limit with _ | _ | ⟨watts, time⟩
    · rw [hfields] at h
      simp at h
    · rw [hfields] at h
      simp at h
    · rw [hfields] at h
      simp only [Option.map_some, Option.some.injEq, Prod.mk.injEq, true_and] at h
      rw [← h]
  · rw [calcRaplLimit_raw hru _ hbits offset] at h
    simp only [Option.some.injEq, Prod.mk.injEq, true_and] at h
    rw [← h, RaplLimit.ownBits, if_pos hbits]
    rfl

/-- Fields the values convert to stay in the half at their offset. -/
theorem high_ownBits {limit : RaplLimit K} (hbits : limit.bits = 0)
    (hfin : limit.seconds < 2 ^ 1024) (raw : Word) :
    Words.high (limit.ownBits (.ofMsr raw) 0) = 0 := by
  rw [RaplLimit.ownBits, if_neg (not_not.mpr hbits)]
  rcases hfields : limitFields (RaplUnits.ofMsr raw) 0 limit with _ | _ | ⟨watts, time⟩
  · exact Words.high_of_lt (by decide)
  · exact Words.high_of_lt (by decide)
  · obtain ⟨htime, hwatts⟩ := limitFields_some hfields
    rw [timeField, if_neg (by omega), ofMsr_seconds, ← limit.timeUnits_eq] at htime
    by_cases hhalf : 1 / 2 < limit.timeUnits raw
    · obtain ⟨time', htime', h15, -⟩ := secondsToBits_timeUnits hfin hhalf
      obtain rfl := Option.some.inj (htime'.symm.trans htime)
      exact high_packed hwatts h15
    · rw [secondsToBits_none hhalf] at htime
      contradiction

omit [IsStrictOrderedRing K] in
theorem low_ownBits {limit : RaplLimit K} (hbits : limit.bits = 0) (u : RaplUnits K) :
    Words.low (limit.ownBits u 32) = 0 := by
  rw [RaplLimit.ownBits, if_neg (not_not.mpr hbits)]
  rcases limitFields u 32 limit with _ | _ | ⟨watts, time⟩
  · rfl
  · rfl
  · exact low_packed watts time

/-! ## The written word -/

/-- Bits that reach the word unmasked. -/
def rawBits : Option (RaplLimit K) → Word
  | none => 0
  | some l => l.bits

omit [IsStrictOrderedRing K] in
/-- A successful `calc_pkg_rapl_limit` encoded both limits. -/
theorem calcPkgRaplLimit_zero {R : RaplSetup K} {socket : Nat}
    {limit1 limit2 l₁ l₂ : Option (RaplLimit K)}
    (h : calcPkgRaplLimit R socket limit1 limit2 = some (0, l₁, l₂)) :
    calcGivenLimit R socket 0 limit1 = some (0, l₁) ∧
      calcGivenLimit R socket 32 limit2 = some (0, l₂) := by
  rw [calcPkgRaplLimit_eq, Option.bind_eq_some_iff] at h
  obtain ⟨⟨rc1, l₁'⟩, h1, h⟩ := h
  by_cases hrc1 : rc1 = 0
  · rw [if_neg (not_not.mpr hrc1), Option.bind_eq_some_iff] at h
    obtain ⟨⟨rc2, l₂'⟩, h2, h⟩ := h
    by_cases hrc2 : rc2 = 0
    · rw [if_neg (not_not.mpr hrc2)] at h
      simp only [Option.some.injEq, Prod.mk.injEq, true_and] at h
      obtain ⟨rfl, rfl⟩ := h
      rw [h1, h2, hrc1, hrc2]
      exact ⟨rfl, rfl⟩
    · rw [if_pos hrc2] at h
      simp at h
  · rw [if_pos hrc1] at h
    simp at h

section Word

variable {R : RaplSetup K} {socket : Nat} {raw : Word}
  (hru : R.ru[socket]? = some (.ofMsr raw)) (current : Word)
include hru

/-- What limit 1 adds to the word: in the low half its own, in the high half raw
    bits only. -/
theorem enabled1_halves {limit1 l₁ : Option (RaplLimit K)}
    (hfin : ∀ l, limit1 = some l → l.seconds < 2 ^ 1024)
    (h : calcGivenLimit R socket 0 limit1 = some (0, l₁)) :
    (if limit1.isNone then Words.low current else 0) ||| Words.low (enabled1 l₁) =
        ownLow (.ofMsr raw) current limit1 ∧
      Words.high (enabled1 l₁) = Words.high (rawBits limit1) := by
  cases limit1 with
  | none =>
    obtain rfl : none = l₁ := by simpa [calcGivenLimit] using h
    exact ⟨BitVec.or_zero, rfl⟩
  | some limit =>
    obtain ⟨⟨rc, l⟩, hcalc, heq⟩ := Option.map_eq_some_iff.mp h
    simp only [Prod.mk.injEq] at heq
    obtain ⟨rfl, rfl⟩ := heq
    rw [low_enabled1, high_enabled1, calcRaplLimit_bits hru hcalc]
    refine ⟨BitVec.zero_or, ?_⟩
    by_cases hbits : limit.bits = 0
    · rw [high_ownBits hbits (hfin limit rfl), rawBits, hbits, Words.high_zero]
    · rw [RaplLimit.ownBits, if_pos hbits, rawBits]

/-- What limit 2 adds to the word. -/
theorem enabled2_halves {limit2 l₂ : Option (RaplLimit K)}
    (h : calcGivenLimit R socket 32 limit2 = some (0, l₂)) :
    (if limit2.isNone then Words.high current else 0) ||| Words.high (enabled2 l₂) =
        ownHigh (.ofMsr raw) current limit2 ∧
      Words.low (enabled2 l₂) = Words.low (rawBits limit2) := by
  cases limit2 with
  | none =>
    obtain rfl : none = l₂ := by simpa [calcGivenLimit] using h
    refine ⟨?_, rfl⟩
    show Words.high current ||| Words.high 0 = Words.high current
    rw [Words.high_zero]
    exact BitVec.or_zero
  | some limit =>
    obtain ⟨⟨rc, l⟩, hcalc, heq⟩ := Option.map_eq_some_iff.mp h
    simp only [Prod.mk.injEq] at heq
    obtain ⟨rfl, rfl⟩ := heq
    rw [high_enabled2, low_enabled2, calcRaplLimit_bits hru hcalc]
    refine ⟨BitVec.zero_or, ?_⟩
    by_cases hbits : limit.bits = 0
    · rw [low_ownBits hbits, rawBits, hbits, Words.low_zero]
    · rw [RaplLimit.ownBits, if_pos hbits, rawBits]

end Word

/-- Each half of the word is decided by its own limit. -/
def HalvesOwned (u : RaplUnits K) (current : Word) (limit1 limit2 : Option (RaplLimit K))
    (w : Word) : Prop :=
  Words.low w = ownLow u current limit1 ∧ Words.high w = ownHigh u current limit2

/-- The raw bits that either limit has in the other's half are set in what that
    half is to hold anyway. -/
def HalvesApart (u : RaplUnits K) (current : Word) (limit1 limit2 : Option (RaplLimit K)) : Prop :=
  (∀ i, (Words.low (rawBits limit2)).getLsbD i = true →
    (ownLow u current limit1).getLsbD i = true) ∧
  ∀ i, (Words.high (rawBits limit1)).getLsbD i = true →
    (ownHigh u current limit2).getLsbD i = true

/-- `set_pkg_rapl_limit` has an outcome, and if it returns 0, each half of the word
    it has written is decided by its own limit.  Without limits nothing is written. -/
def PkgHalvesOwned (R : RaplSetup K) (h : Host) (socket : BitVec 32) (raw : Word)
    (limit1 limit2 : Option (RaplLimit K)) : Prop :=
  ∃ r, setPkgRaplLimit R h socket limit1 limit2 = some r ∧ (r.rc = 0 →
    limit1 = none ∧ limit2 = none ∧ r.host.writes = h.writes ∨
    ∃ w, r.host.writes = h.writes ++ [.write (socketCpu R socket) msrPkgPowerLimit w] ∧
      HalvesOwned (.ofMsr raw) (h.regs (socketCpu R socket) msrPkgPowerLimit) limit1 limit2 w)

/-- Where the register is announced, the conversions are defined, and a request that
    nothing stops keeps its raw bits apart. -/
def PkgKeepsApart (R : RaplSetup K) (h : Host) (socket : BitVec 32) (raw : Word)
    (limit1 limit2 : Option (RaplLimit K)) : Prop :=
  announces R.flags pkgPowerLimit = true → PkgDefined raw limit1 limit2 ∧
    (PkgAccepted R h socket raw limit1 limit2 →
      HalvesApart (.ofMsr raw) (h.regs (socketCpu R socket) msrPkgPowerLimit) limit1 limit2)

section Ownership

variable {R : RaplSetup K} {h : Host} {socket : BitVec 32} {raw : Word}
  (hinit : Initialised R h socket raw) {limit1 limit2 : Option (RaplLimit K)}
include hinit

/-- The word that is written for two encoded limits: each half is its own limit or-ed
    with the raw bits that the other has there. -/
theorem composedWord_owned_iff {l₁ l₂ : Option (RaplLimit K)}
    (hreq : (limit1.isSome || limit2.isSome) = true)
    (hfin : ∀ l, limit1 = some l → l.seconds < 2 ^ 1024)
    (hread : readsCurrent limit1 limit2 = true →
      h.fails (socketCpu R socket) msrPkgPowerLimit = false)
    (hcalc : calcPkgRaplLimit R socket.toNat limit1 limit2 = some (0, l₁, l₂)) :
    HalvesOwned (.ofMsr raw) (h.regs (socketCpu R socket) msrPkgPowerLimit) limit1 limit2
        (composedWord h (socketCpu R socket) limit1 limit2 l₁ l₂) ↔
      HalvesApart (.ofMsr raw) (h.regs (socketCpu R socket) msrPkgPowerLimit) limit1 limit2 := by
  obtain ⟨h1, h2⟩ := calcPkgRaplLimit_zero hcalc
  rw [composedWord, keptHalf_currentValue hread]
  generalize h.regs (socketCpu R socket) msrPkgPowerLimit = current
  obtain ⟨hown1, hstray1⟩ := enabled1_halves hinit.units current hfin h1
  obtain ⟨hown2, hstray2⟩ := enabled2_halves hinit.units current h2
  -- each half: what its own limit decides, and the raw bits of the other
  have hlow : Words.low (keptHalf current limit1 limit2 ||| enabled1 l₁ ||| enabled2 l₂) =
      ownLow (.ofMsr raw) current limit1 ||| Words.low (rawBits limit2) := by
    rw [Words.low_or, Words.low_or, low_keptHalf, hown1, hstray2]
  have hhigh : Words.high (keptHalf current limit1 limit2 ||| enabled1 l₁ ||| enabled2 l₂) =
      ownHigh (.ofMsr raw) current limit2 ||| Words.high (rawBits limit1) := by
    have hsome : limit1.isSome ∨ limit2.isSome := by simpa using hreq
    rw [Words.high_or, Words.high_or, high_keptHalf current _ hsome, BitVec.or_assoc,
      BitVec.or_comm (Words.high (enabled1 l₁)), ← BitVec.or_assoc, hown2, hstray1]
  rw [HalvesOwned, HalvesApart, hlow, hhigh, Words.or_eq_left_iff, Words.or_eq_left_iff]

/-- A request that was encoded. -/
theorem pkgHalvesOwned_encoded (hflag : announces R.flags pkgPowerLimit = true)
    {l₁ l₂ : Option (RaplLimit K)}
    (hreq : (limit1.isSome || limit2.isSome) = true)
    (hfin : ∀ l, limit1 = some l → l.seconds < 2 ^ 1024)
    (hcalc : calcPkgRaplLimit R socket.toNat limit1 limit2 = some (0, l₁, l₂)) :
    PkgHalvesOwned R h socket raw limit1 limit2 ↔
      (¬ ReadLost R h socket limit1 limit2 →
        h.failsWrite (socketCpu R socket) msrPkgPowerLimit = false →
        HalvesApart (.ofMsr raw) (h.regs (socketCpu R socket) msrPkgPowerLimit) limit1 limit2) := by
  obtain ⟨h1, h2⟩ := calcPkgRaplLimit_zero hcalc
  have hreq' : (l₁.isSome || l₂.isSome) = true := by
    rw [← hreq, calcGivenLimit_isSome h1, calcGivenLimit_isSome h2]
  obtain ⟨r, hset, -, -, hrc, -, hwrites, -⟩ := setPkgRaplLimit_written hinit hflag hreq' hcalc
  rw [← not_readLost_iff] at hrc
  constructor
  · rintro ⟨r', hset', hown⟩ hread hwrite
    obtain rfl := Option.some.inj (hset.symm.trans hset')
    rcases hown (hrc.mpr ⟨hread, hwrite⟩) with ⟨rfl, rfl, -⟩ | ⟨w, hw, howned⟩
    · contradiction
    · obtain rfl : composedWord h (socketCpu R socket) limit1 limit2 l₁ l₂ = w := by
        rw [hwrites] at hw
        simpa using hw
      exact (composedWord_owned_iff hinit hreq hfin (not_readLost_iff.mp hread) hcalc).mp
        howned
  · intro hapart
    refine ⟨r, hset, fun hzero => Or.inr ⟨_, hwrites, ?_⟩⟩
    obtain ⟨hread, hwrite⟩ := hrc.mp hzero
    rw [composedWord_owned_iff hinit hreq hfin (not_readLost_iff.mp hread) hcalc]
    exact hapart hread hwrite

end Ownership

omit [IsStrictOrderedRing K] in
theorem halvesApart_none (u : RaplUnits K) (current : Word) : HalvesApart u current none none := by
  constructor
  · intro i hi
    rw [rawBits, Words.low_zero] at hi
    simp at hi
  · intro i hi
    rw [rawBits, Words.high_zero] at hi
    simp at hi

/-- **Exact ownership of the halves.**  A call has an outcome and, when it returns 0,
    has written a word each half of which is decided by its own limit, if and only if
    its conversions are defined and, unless it is stopped, its raw bits stay apart. -/
theorem setPkgRaplLimit_halvesOwned_iff {R : RaplSetup K} {h : Host} {socket : BitVec 32}
    {raw : Word} (hinit : Initialised R h socket raw) {limit1 limit2 : Option (RaplLimit K)}
    (hfin : ∀ l, limit1 = some l → l.seconds < 2 ^ 1024) :
    PkgHalvesOwned R h socket raw limit1 limit2 ↔
      PkgKeepsApart R h socket raw limit1 limit2 := by
  cases hflag : announces R.flags pkgPowerLimit with
  | false =>
    -- the call returns -1 at once, and nothing is required
    refine iff_of_true ⟨⟨-1, limit1, limit2, h⟩, ?_, fun hrc => absurd hrc ?_⟩ ?_
    · rw [setPkgRaplLimit, hflag, if_neg Bool.false_ne_true]
    · show (-1 : Int) ≠ 0
      omega
    · intro htrue
      rw [hflag] at htrue
      contradiction
  | true =>
    rw [PkgKeepsApart, forall_prop_of_true hflag, ← calcPkgRaplLimit_isSome_iff hinit.units]
    rcases hcalc : calcPkgRaplLimit R socket.toNat limit1 limit2 with _ | ⟨rc, l₁, l₂⟩
    · -- a conversion is undefined, so there is no outcome
      refine iff_of_false ?_ fun hdef => Bool.false_ne_true hdef.1
      rintro ⟨r, hset, -⟩
      rw [setPkgRaplLimit_none hflag hcalc] at hset
      contradiction
    · rw [Option.isSome_some, eq_self, true_and]
      have hrefused : rc ≠ 0 → PkgHalvesOwned R h socket raw limit1 limit2 := by
        intro hrc
        obtain ⟨r, hset, hfail, -⟩ := setPkgRaplLimit_refused hinit hflag hrc hcalc
        exact ⟨r, hset, fun hzero => absurd (hfail.symm.trans hzero) (by decide)⟩
      rcases calcPkgRaplLimit_outcome hinit.units hcalc with
        ⟨href1, rfl, -⟩ | ⟨href1, -, ⟨href2, rfl, -⟩ | ⟨href2, rfl, -⟩⟩
      · exact iff_of_true (hrefused (by decide)) fun hacc => absurd href1 hacc.first
      · exact iff_of_true (hrefused (by decide)) fun hacc => absurd href2 hacc.second
      · cases hreq : (limit1.isSome || limit2.isSome) with
        | true =>
          rw [pkgHalvesOwned_encoded hinit hflag hreq hfin hcalc]
          exact ⟨fun hapart hacc => hapart hacc.read hacc.write,
            fun hapart hread hwrite => hapart ⟨href1, href2, hread, hwrite⟩⟩
        | false =>
          -- nothing is asked for
          rw [Bool.or_eq_false_iff, Option.isSome_eq_false_iff, Option.isNone_iff_eq_none,
            Option.isSome_eq_false_iff, Option.isNone_iff_eq_none] at hreq
          obtain ⟨rfl, rfl⟩ := hreq
          obtain ⟨r, hset, -, -, -, hwrites⟩ := setPkgRaplLimit_empty hinit hflag
          exact iff_of_true ⟨r, hset, fun _ => Or.inl ⟨rfl, rfl, hwrites⟩⟩
            fun _ => halvesApart_none _ _

/-! ## Stored words -/

omit [IsStrictOrderedRing K] in
/-- Set back while the register holds the word they were read from, the stored
    words stay apart, also if only one of them is given. -/
theorem stored_halvesApart (u : RaplUnits K) {val : Word} (hval : val ≠ 0)
    {limit1 limit2 : Option (RaplLimit K)} (h1 : ∀ l, limit1 = some l → l.bits = val)
    (h2 : ∀ l, limit2 = some l → l.bits = val) : HalvesApart u val limit1 limit2 := by
  have hraw : ∀ limit : Option (RaplLimit K), (∀ l, limit = some l → l.bits = val) →
      rawBits limit = 0 ∨ rawBits limit = val := by
    intro limit hlimit
    cases limit with
    | none => exact Or.inl rfl
    | some l => exact Or.inr (hlimit l rfl)
  constructor
  · intro i hi
    rcases hraw limit2 h2 with h0 | hv
    · rw [h0, Words.low_zero] at hi
      simp at hi
    · rw [hv] at hi
      cases limit1 with
      | none => exact hi
      | some l =>
        rw [ownLow, RaplLimit.ownBits, h1 l rfl, if_pos hval]
        simp only [BitVec.getLsbD_or, hi, Bool.true_or]
  · intro i hi
    rcases hraw limit1 h1 with h0 | hv
    · rw [h0, Words.high_zero] at hi
      simp at hi
    · rw [hv] at hi
      cases limit2 with
      | none => exact hi
      | some l =>
        rw [ownHigh, RaplLimit.ownBits, h2 l rfl, if_pos hval]
        simp only [BitVec.getLsbD_or, hi, Bool.true_or]

end LimitHalves

/-! ## One socket -/

/-- A word as `get_pkg_rapl_limit` stores it into both structs: 100 watts,
    enabled, in either half. -/
def storedLimit : RaplLimit ℚ := ⟨0x0000832000008320, 100, 1⟩

/-- Its encoding by `calc_pkg_rapl_limit` keeps the bits. -/
theorem calcRaplLimit_storedLimit (offset : Nat) :
    ∃ watts seconds, calcRaplLimit oneSocket 0 storedLimit offset =
      some (0, ⟨0x0000832000008320, watts, seconds⟩) :=
  ⟨_, _, calcRaplLimit_raw oneSocket_units storedLimit (by decide) offset⟩

/-- Raw bits need no conversion. -/
theorem storedLimit_defined (raw : Word) (offset : Nat) : storedLimit.Defined raw offset :=
  fun hbits => absurd hbits (by decide)

/-- With both structs of the stored word, each half is decided by its own limit. -/
theorem storedLimits_halvesOwned : PkgHalvesOwned oneSocket (.opened 1) 0 0xA1003
    (some storedLimit) (some storedLimit) := by
  have hfin : ∀ l, some storedLimit = some l → l.seconds < 2 ^ 1024 := by
    rintro l ⟨⟩
    exact one_lt_pow₀ one_lt_two (by omega)
  rw [setPkgRaplLimit_halvesOwned_iff oneSocket_initialised hfin]
  refine fun _ => ⟨⟨?_, fun _ => ?_⟩, fun _ => ⟨?_, ?_⟩⟩
  · rintro l ⟨⟩
    exact storedLimit_defined _ _
  · rintro l ⟨⟩
    exact storedLimit_defined _ _
  · rw [← Words.or_eq_left_iff]
    decide
  · rw [← Words.or_eq_left_iff]
    decide

/-- With limit 1 NULL, the low half of the second struct reaches the register:
    limit 1 was off and is now 100 watts. -/
theorem storedLimit_enables_limit1 :
    ∃ r w, setPkgRaplLimit oneSocket (.opened 1) 0 none (some storedLimit) = some r ∧
      r.rc = 0 ∧ r.host.writes = [.write 0 msrPkgPowerLimit w] ∧
      Words.low ((Host.opened 1).regs 0 msrPkgPowerLimit) = 0 ∧ Words.low w = 0x8320 := by
  obtain ⟨watts, seconds, h2⟩ := calcRaplLimit_storedLimit 32
  have hpkg : calcPkgRaplLimit oneSocket 0 none (some storedLimit) =
      some (0, none, some ⟨0x0000832000008320, watts, seconds⟩) := by
    rw [calcPkgRaplLimit_eq, calcGivenLimit, calcGivenLimit, h2]
    rfl
  obtain ⟨r, hset, -, -, hrc, -, hwrites, -⟩ := setPkgRaplLimit_written oneSocket_initialised
    (by decide) rfl hpkg
  refine ⟨r, _, hset, hrc.mpr (by decide), hwrites, rfl, ?_⟩
  have hcurrent : currentValue (.opened 1) (socketCpu oneSocket 0) msrPkgPowerLimit = 0 := by decide
  rw [composedWord, Words.low_or, Words.low_or, low_keptHalf, low_enabled2, hcurrent]
  show Words.low 0 ||| Words.low 0 ||| Words.low 0x0000832000008320 = 0x8320
  decide

end Libmsr
