/-
  Libmsr.Rapl.LimitGet

  Reading power limits back.

  `get_pkg_rapl_limit` and `get_dram_rapl_limit` store the register in the
  caller's struct and then call the same `calc_*` function as the setters, which
  takes zero bits for "encode the values".  A register that reads 0 therefore
  leaves what the struct held before, encoded.  The return code of the read is
  dropped, so a failed read ends in 0 as well.
-/
import Libmsr.Rapl.LimitHalves

namespace Libmsr

section LimitGet

variable {K : Type} [Field K] [LinearOrder K] [IsStrictOrderedRing K] [FloorRing K]

/-! ## Decoding zero -/

/-- The struct already holds the values that zero stands for: no watts, and the
    shortest time window. -/
def RaplLimit.HoldsZero (limit : RaplLimit K) (u : RaplUnits K) (offset : Nat) : Prop :=
  limit.watts = 0 ∧ limit.seconds = decodedSeconds u 0 offset

omit [LinearOrder K] [IsStrictOrderedRing K] [FloorRing K] in
theorem decodedWatts_zero (u : RaplUnits K) (offset : Nat) : decodedWatts u 0 offset = 0 := by
  rw [decodedWatts, maskVal_zero]
  exact (congrArg (· * u.watts) Nat.cast_zero).trans (zero_mul _)

omit [LinearOrder K] [IsStrictOrderedRing K] [FloorRing K] in
/-- The lower limit's window of a zero register is one time unit. -/
theorem decodedSeconds_zero_lower (raw : Word) :
    decodedSeconds (.ofMsr raw : RaplUnits K) 0 0 = 1 / 2 ^ timeUnit raw := by
  rw [decodedSeconds, maskVal_zero, if_pos (by omega), timeWindow_eq, ofMsr_seconds]
  simp

omit [LinearOrder K] [IsStrictOrderedRing K] [FloorRing K] in
theorem decodedSeconds_zero_upper (u : RaplUnits K) : decodedSeconds u 0 32 = 0 := by
  rw [decodedSeconds, maskVal_zero, if_neg (by omega)]
  exact Nat.cast_zero

/-- The values zero stands for are encoded as zero. -/
theorem limitFields_holdsZero {raw : Word} {offset : Nat} (hoff : offset = 0 ∨ offset = 32)
    {limit : RaplLimit K} (hzero : limit.HoldsZero (.ofMsr raw) offset) :
    limitFields (.ofMsr raw) offset limit = some (some (0, 0)) := by
  have htime : timeField (.ofMsr raw) offset limit.seconds = some 0 := by
    rcases hoff with rfl | rfl
    · have hunit : (2 : K) ^ timeUnit raw ≠ 0 := pow_ne_zero _ two_ne_zero
      rw [timeField, if_neg (by omega), hzero.2, decodedSeconds_zero_lower, ofMsr_seconds,
        one_div, inv_mul_cancel₀ hunit]
      exact secondsToBits_one
    · rw [timeField, if_pos (le_refl 32), hzero.2, decodedSeconds_zero_upper]
      exact toU64_zero
  rw [limitFields, htime, hzero.1, zero_div, toU64_zero]
  rfl

/-! ## One struct -/

section OneStruct

variable {R : RaplSetup K} {socket : Nat} {raw : Word}
  (hru : R.ru[socket]? = some (.ofMsr raw)) {offset : Nat}
include hru

/-- A register value that is not zero is decoded; zero is, if the struct holds
    what it stands for. -/
theorem calcRaplLimit_fetched (hoff : offset = 0 ∨ offset = 32) {l : RaplLimit K} {val : Word}
    (h : val ≠ 0 ∨ l.HoldsZero (.ofMsr raw) offset) :
    calcRaplLimit R socket { l with bits := val } offset =
      some (0, decodedLimit (.ofMsr raw) val offset) := by
  by_cases hval : val = 0
  · subst hval
    have hzero := h.resolve_left (not_not.mpr rfl)
    have hfields : limitFields (.ofMsr raw) offset { l with bits := 0 } = some (some (0, 0)) :=
      limitFields_holdsZero hoff hzero
    rw [calcRaplLimit_values hru _ rfl, hfields, decodedLimit, decodedWatts_zero, ← hzero.1,
      ← hzero.2]
    simp
  · exact calcRaplLimit_raw hru { l with bits := val } hval offset

/-- Encoding never touches the watts and the seconds, so from a zero register
    they are decoded only if they were there before. -/
theorem fetched_of_calcRaplLimit {l : RaplLimit K} {val : Word} {rc : Int}
    (h : calcRaplLimit R socket { l with bits := val } offset =
      some (rc, decodedLimit (.ofMsr raw) val offset)) :
    val ≠ 0 ∨ l.HoldsZero (.ofMsr raw) offset := by
  by_cases hval : val = 0
  · subst hval
    right
    rw [calcRaplLimit_values hru _ rfl, Option.map_eq_some_iff] at h
    obtain ⟨fields, -, heq⟩ := h
    have hwatts := congrArg (fun r => r.2.watts) heq
    have hseconds := congrArg (fun r => r.2.seconds) heq
    have hzero : decodedWatts (.ofMsr raw : RaplUnits K) 0 offset = 0 := decodedWatts_zero _ _
    cases fields with
    | none => exact ⟨hwatts.trans hzero, hseconds⟩
    | some fields => exact ⟨hwatts.trans hzero, hseconds⟩
  · exact Or.inl hval

/-- The same for a struct that may be NULL. -/
theorem calcGivenLimit_fetched (hoff : offset = 0 ∨ offset = 32) {limit : Option (RaplLimit K)}
    {val : Word} (h : val ≠ 0 ∨ ∀ l, limit = some l → l.HoldsZero (.ofMsr raw) offset) :
    calcGivenLimit R socket offset (limit.map fun l => { l with bits := val }) =
      some (0, limit.map fun _ => decodedLimit (.ofMsr raw) val offset) := by
  cases limit with
  | none => rfl
  | some l =>
    have hl := calcRaplLimit_fetched hru hoff (h.imp_right fun hall => hall l rfl)
    simp only [Option.map_some, calcGivenLimit, hl]

theorem fetched_of_calcGivenLimit {limit : Option (RaplLimit K)} {val : Word} {rc : Int}
    (h : calcGivenLimit R socket offset (limit.map fun l => { l with bits := val }) =
      some (rc, limit.map fun _ => decodedLimit (.ofMsr raw) val offset)) :
    val ≠ 0 ∨ ∀ l, limit = some l → l.HoldsZero (.ofMsr raw) offset := by
  cases limit with
  | none => exact Or.inr fun l hl => absurd hl (by simp)
  | some l =>
    obtain ⟨r, hr, heq⟩ := Option.map_eq_some_iff.mp h
    simp only [Option.map_some, Prod.mk.injEq, Option.some.injEq] at heq
    have hcalc : calcRaplLimit R socket { l with bits := val } offset =
        some (r.1, decodedLimit (.ofMsr raw) val offset) := by
      rw [hr, ← heq.2]
    refine (fetched_of_calcRaplLimit hru hcalc).imp_right fun hzero l' hl' => ?_
    obtain rfl := Option.some.inj hl'
    exact hzero

end OneStruct

/-! ## The getters -/

section Getters

variable (R : RaplSetup K) (h : Host) (socket : BitVec 32) (raw : Word)

/-- The call reads the package limit register. -/
def PkgReads (limit1 limit2 : Option (RaplLimit K)) : Prop :=
  announces R.flags pkgPowerLimit = true ∧ (limit1.isSome || limit2.isSome) = true

/-- If `get_pkg_rapl_limit` reads the register, then after a read that succeeds
    every struct is the decoding of the register alone, and after one that fails
    the call does not return 0. -/
def PkgGetExact (limit1 limit2 : Option (RaplLimit K)) : Prop :=
  PkgReads R limit1 limit2 → ∃ r, getPkgRaplLimit R h socket limit1 limit2 = some r ∧
    (h.fails (socketCpu R socket) msrPkgPowerLimit = false →
      r.limit1 = limit1.map (fun _ => decodedLimit (.ofMsr raw)
        (h.regs (socketCpu R socket) msrPkgPowerLimit) 0) ∧
      r.limit2 = limit2.map fun _ => decodedLimit (.ofMsr raw)
        (h.regs (socketCpu R socket) msrPkgPowerLimit) 32) ∧
    (h.fails (socketCpu R socket) msrPkgPowerLimit = true → r.rc ≠ 0)

/-- The same of `get_dram_rapl_limit`. -/
def DramGetExact (limit : Option (RaplLimit K)) : Prop :=
  announces R.flags dramPowerLimit = true ∧ limit.isSome = true →
    ∃ r, getDramRaplLimit R h socket limit = some r ∧
    (h.fails (socketCpu R socket) msrDramPowerLimit = false →
      r.limit = limit.map fun _ => decodedLimit (.ofMsr raw)
        (h.regs (socketCpu R socket) msrDramPowerLimit) 0) ∧
    (h.fails (socketCpu R socket) msrDramPowerLimit = true → r.rc ≠ 0)

/-- The register can be read, and it is not zero unless every struct holds
    what zero stands for. -/
def Fetchable (raw val : Word) (limit1 limit2 : Option (RaplLimit K)) : Prop :=
  val ≠ 0 ∨ (∀ l, limit1 = some l → l.HoldsZero (.ofMsr raw) 0) ∧
    ∀ l, limit2 = some l → l.HoldsZero (.ofMsr raw) 32

variable {R h socket raw} (hinit : Initialised R h socket raw)
include hinit

omit [LinearOrder K] [IsStrictOrderedRing K] [FloorRing K] in
/-- A struct that is not NULL gets the register, if the read succeeds. -/
theorem readLimitBits_spec {h' : Host} (hsame : h.SameDevices h') (hregs : h'.regs = h.regs)
    (limit : Option (RaplLimit K)) :
    ∃ h'', readLimitBits R h' socket limit =
        (if h.fails (socketCpu R socket) msrPkgPowerLimit then limit
          else limit.map fun l => { l with
            bits := h.regs (socketCpu R socket) msrPkgPowerLimit }, h'') ∧
      h.SameDevices h'' ∧ h''.regs = h.regs := by
  cases limit with
  | none => exact ⟨h', by simp [readLimitBits], hsame, hregs⟩
  | some l =>
    refine ⟨_, ?_, hsame.log (.read (socketCpu R socket) msrPkgPowerLimit), hregs⟩
    rw [readLimitBits, (hinit.of_sameDevices hsame).read, hsame.fails, hregs]
    cases h.fails (socketCpu R socket) msrPkgPowerLimit <;> rfl

omit [IsStrictOrderedRing K] in
/-- `get_pkg_rapl_limit` is `calc_pkg_rapl_limit` on the fetched structs, and
    returns 0. -/
theorem getPkgRaplLimit_eq (hflag : announces R.flags pkgPowerLimit = true)
    (limit1 limit2 : Option (RaplLimit K)) :
    ∃ h', getPkgRaplLimit R h socket limit1 limit2 =
      (calcPkgRaplLimit R socket.toNat
        (if h.fails (socketCpu R socket) msrPkgPowerLimit then limit1
          else limit1.map fun l => { l with bits := h.regs (socketCpu R socket) msrPkgPowerLimit })
        (if h.fails (socketCpu R socket) msrPkgPowerLimit then limit2
          else limit2.map fun l => { l with
            bits := h.regs (socketCpu R socket) msrPkgPowerLimit })).map
        (fun r => ⟨0, r.2.1, r.2.2, h'⟩) ∧ h.SameDevices h' ∧ h'.regs = h.regs := by
  obtain ⟨h₁, hread1, hsame1, hregs1⟩ := readLimitBits_spec hinit (.refl h) rfl limit1
  obtain ⟨h₂, hread2, hsame2, hregs2⟩ := readLimitBits_spec hinit hsame1 hregs1 limit2
  refine ⟨h₂, ?_, hsame2, hregs2⟩
  simp only [getPkgRaplLimit, hflag, if_true, hread1, hread2, Option.bind_eq_bind]
  cases calcPkgRaplLimit R socket.toNat _ _ <;> rfl

/-- **Package getter.** -/
theorem pkgGetExact_iff (limit1 limit2 : Option (RaplLimit K)) :
    PkgGetExact R h socket raw limit1 limit2 ↔
      (PkgReads R limit1 limit2 → h.fails (socketCpu R socket) msrPkgPowerLimit = false ∧
        Fetchable raw (h.regs (socketCpu R socket) msrPkgPowerLimit) limit1 limit2) := by
  refine imp_congr_right fun hreads => ?_
  obtain ⟨h', hget, -⟩ := getPkgRaplLimit_eq hinit hreads.1 limit1 limit2
  cases hfail : h.fails (socketCpu R socket) msrPkgPowerLimit with
  | true =>
    refine iff_of_false ?_ (by simp)
    rintro ⟨r, hr, -, hrc⟩
    rw [hget, Option.map_eq_some_iff] at hr
    obtain ⟨_, -, rfl⟩ := hr
    exact hrc rfl rfl
  | false =>
    generalize h.regs (socketCpu R socket) msrPkgPowerLimit = val at hget ⊢
    simp only [hfail, Bool.false_eq_true, if_false, calcPkgRaplLimit_eq] at hget
    simp only [forall_true_left, false_implies, and_true, true_and, Bool.false_eq_true]
    constructor
    · rintro ⟨r, hr, hlimit1, hlimit2⟩
      rw [hget, Option.map_eq_some_iff] at hr
      obtain ⟨x, hx, rfl⟩ := hr
      obtain ⟨⟨rc1, l₁⟩, hcalc1, hx⟩ := Option.bind_eq_some_iff.mp hx
      -- limit 1 is encoded first, and nothing after it touches its struct
      have hl₁ : x.2.1 = l₁ := by
        split at hx
        · rw [← Option.some.inj hx]
        · obtain ⟨r2, -, hx⟩ := Option.bind_eq_some_iff.mp hx
          split at hx <;> rw [← Option.some.inj hx]
      obtain rfl : l₁ = _ := hl₁.symm.trans hlimit1
      -- limit 1 was fetched exactly, so its encoding returned 0 and limit 2 is next
      have hzero1 := fetched_of_calcGivenLimit hinit.units hcalc1
      obtain ⟨rfl, -⟩ := Prod.mk.inj (Option.some.inj
        (hcalc1.symm.trans (calcGivenLimit_fetched hinit.units (Or.inl rfl) hzero1)))
      rw [if_neg (by simp)] at hx
      obtain ⟨⟨rc2, l₂⟩, hcalc2, hx⟩ := Option.bind_eq_some_iff.mp hx
      have hl₂ : x.2.2 = l₂ := by
        split at hx <;> rw [← Option.some.inj hx]
      obtain rfl : l₂ = _ := hl₂.symm.trans hlimit2
      have hzero2 := fetched_of_calcGivenLimit hinit.units hcalc2
      exact or_and_left.mpr ⟨hzero1, hzero2⟩
    · intro hfetch
      obtain ⟨hzero1, hzero2⟩ := or_and_left.mp hfetch
      rw [calcGivenLimit_fetched hinit.units (Or.inl rfl) hzero1, Option.bind_some,
        if_neg (by simp), calcGivenLimit_fetched hinit.units (Or.inr rfl) hzero2, Option.bind_some,
        if_neg (by simp)] at hget
      exact ⟨_, hget, rfl, rfl⟩

omit [IsStrictOrderedRing K] in
/-- `get_dram_rapl_limit` is `calc_std_rapl_limit` on the fetched struct, and
    returns 0. -/
theorem getDramRaplLimit_eq (hflag : announces R.flags dramPowerLimit = true)
    (hok : h.fails (socketCpu R socket) msrDramPowerLimit = false) (l : RaplLimit K) :
    getDramRaplLimit R h socket (some l) =
      (calcRaplLimit R socket.toNat
        { l with bits := h.regs (socketCpu R socket) msrDramPowerLimit } 0).map fun r =>
          ⟨0, some r.2, h.log (.read (socketCpu R socket) msrDramPowerLimit)⟩ := by
  have hread := hinit.read msrDramPowerLimit l.bits
  rw [hok, if_neg Bool.false_ne_true] at hread
  simp only [getDramRaplLimit, hflag, if_true, hread, calcStdRaplLimit, Option.bind_eq_bind]
  cases calcRaplLimit R socket.toNat _ 0 <;> rfl

/-- **DRAM getter.** -/
theorem dramGetExact_iff (limit : Option (RaplLimit K)) :
    DramGetExact R h socket raw limit ↔
      (announces R.flags dramPowerLimit = true ∧ limit.isSome = true →
        h.fails (socketCpu R socket) msrDramPowerLimit = false ∧
          Fetchable raw (h.regs (socketCpu R socket) msrDramPowerLimit) limit none) := by
  refine imp_congr_right fun hreads => ?_
  obtain ⟨l, rfl⟩ := Option.isSome_iff_exists.mp hreads.2
  cases hfail : h.fails (socketCpu R socket) msrDramPowerLimit with
  | true =>
    refine iff_of_false ?_ (by simp)
    rintro ⟨r, hr, -, hrc⟩
    simp only [getDramRaplLimit, hreads.1, if_true, Option.bind_eq_bind,
      Option.bind_eq_some_iff] at hr
    obtain ⟨_, -, hr⟩ := hr
    rw [← Option.some.inj hr] at hrc
    exact hrc rfl rfl
  | false =>
    have hget := getDramRaplLimit_eq hinit hreads.1 hfail l
    generalize h.regs (socketCpu R socket) msrDramPowerLimit = val at hget ⊢
    have hzero : Fetchable raw val (some l) none ↔ val ≠ 0 ∨ l.HoldsZero (.ofMsr raw) 0 := by
      simp [Fetchable]
    simp only [forall_true_left, false_implies, and_true, true_and, Bool.false_eq_true, hget, hzero]
    constructor
    · rintro ⟨r, hr, hlimit⟩
      obtain ⟨x, hx, rfl⟩ := Option.map_eq_some_iff.mp hr
      obtain ⟨rc, l'⟩ := x
      obtain rfl : l' = _ := Option.some.inj hlimit
      exact fetched_of_calcRaplLimit hinit.units hx
    · intro hfetch
      rw [calcRaplLimit_fetched hinit.units (Or.inl rfl) hfetch]
      exact ⟨_, rfl, rfl⟩

/-- **Exact behaviour of the getters.**  They leave the decoding of the register
    alone, and report a failed read, if and only if the read succeeds and the
    register is not zero or the structs hold what zero stands for. -/
theorem getExact_iff :
    (∀ limit1 limit2 : Option (RaplLimit K), PkgGetExact R h socket raw limit1 limit2 ↔
      (PkgReads R limit1 limit2 → h.fails (socketCpu R socket) msrPkgPowerLimit = false ∧
        Fetchable raw (h.regs (socketCpu R socket) msrPkgPowerLimit) limit1 limit2)) ∧
    ∀ limit : Option (RaplLimit K), DramGetExact R h socket raw limit ↔
      (announces R.flags dramPowerLimit = true ∧ limit.isSome = true →
        h.fails (socketCpu R socket) msrDramPowerLimit = false ∧
          Fetchable raw (h.regs (socketCpu R socket) msrDramPowerLimit) limit none) :=
  ⟨pkgGetExact_iff hinit, dramGetExact_iff hinit⟩

end Getters

end LimitGet

/-! ## One socket -/

/-- The socket with 100 watts in both halves of both registers. -/
def hundredWattHost : Host := { Host.opened 1 with regs := fun _ _ => 0x0000832000008320 }

theorem hundredWattHost_initialised : Initialised oneSocket hundredWattHost 0 0xA1003 :=
  ⟨by decide, ⟨(Host.opened_ready 1).length, (Host.opened_ready 1).entry⟩, by decide,
    oneSocket_units⟩

/-- A register that is not zero is read back, whatever the structs hold. -/
theorem hundredWatts_getExact :
    (∀ limit1 limit2 : Option (RaplLimit ℚ),
      PkgGetExact oneSocket hundredWattHost 0 0xA1003 limit1 limit2) ∧
    ∀ limit : Option (RaplLimit ℚ), DramGetExact oneSocket hundredWattHost 0 0xA1003 limit := by
  obtain ⟨hpkg, hdram⟩ := getExact_iff (K := ℚ) hundredWattHost_initialised
  constructor
  · intro limit1 limit2
    rw [hpkg]
    exact fun _ => ⟨rfl, Or.inl (by decide)⟩
  · intro limit
    rw [hdram]
    exact fun _ => ⟨rfl, Or.inl (by decide)⟩

/-- From a register that reads 0 a struct with 100 watts is not decoded, and a
    read that fails is not reported. -/
theorem zeroRegister_not_decoded :
    ¬ PkgGetExact oneSocket (.opened 1) 0 0xA1003 (some ⟨0, 100, 1⟩) none ∧
      ¬ PkgGetExact oneSocket { Host.opened 1 with fails := fun _ _ => true } 0 0xA1003
        (some ⟨0, 100, 1⟩) none := by
  have hreads : PkgReads oneSocket (some (⟨0, 100, 1⟩ : RaplLimit ℚ)) none := ⟨by decide, rfl⟩
  have hfailing : Initialised oneSocket { Host.opened 1 with fails := fun _ _ => true } 0 0xA1003 :=
    ⟨by decide, ⟨(Host.opened_ready 1).length, (Host.opened_ready 1).entry⟩, by decide,
      oneSocket_units⟩
  constructor
  · rw [pkgGetExact_iff oneSocket_initialised]
    intro hcond
    rcases (hcond hreads).2 with hval | ⟨hzero, -⟩
    · exact hval rfl
    · exact absurd (hzero _ rfl).1 (by norm_num)
  · rw [pkgGetExact_iff hfailing]
    intro hcond
    exact absurd (hcond hreads).1 (by decide)

end Libmsr
