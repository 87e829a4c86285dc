/-
  Libmsr.Rapl.LimitsSpec

  Spec lemmas for setting power limits: what encoding one limit yields, and
  which word the set functions write for the limits `calc_pkg_rapl_limit` and
  `calc_std_rapl_limit` return.
-/
import Libmsr.Core.DeviceSpec
import Libmsr.Rapl.Limits
import Libmsr.Rapl.UnitsSpec

namespace Libmsr

/-! ## Writes that reached a device -/

def Access.isWrite : Access → Bool
  | .read .. => false
  | .write .. => true

/-- The writes among the issued accesses. -/
def Host.writes (h : Host) : List Access := h.issued.filter Access.isWrite

@[simp] theorem Host.writes_log_read (h : Host) (cpu msr : Nat) :
    (h.log (.read cpu msr)).writes = h.writes := by
  simp [Host.writes, Access.isWrite]

@[simp] theorem Host.writes_log_write (h : Host) (cpu msr : Nat) (val : Word) :
    (h.log (.write cpu msr val)).writes = h.writes ++ [.write cpu msr val] := by
  simp [Host.writes, Access.isWrite]

@[simp] theorem Host.writes_setReg (h : Host) (cpu msr : Nat) (val : Word) :
    (h.setReg cpu msr val).writes = h.writes := rfl

section Limits

variable {K : Type} [Field K] [LinearOrder K] [IsStrictOrderedRing K] [FloorRing K]

/-- After `init_msr` and `rapl_init`: all devices are open, and the units of an
    existing socket come from the value `raw` of its MSR_RAPL_POWER_UNIT. -/
structure Initialised (R : RaplSetup K) (h : Host) (socket : BitVec 32) (raw : Word) : Prop where
  fits : R.cfg.numDevs < 2 ^ 31
  ready : h.Ready R.cfg.numDevs
  inRange : InRange R.cfg socket.toNat 0 0
  units : R.ru[socket.toNat]? = some (.ofMsr raw)

omit [LinearOrder K] [IsStrictOrderedRing K] [FloorRing K] in
theorem Initialised.of_sameDevices {R : RaplSetup K} {h h' : Host} {socket : BitVec 32} {raw : Word}
    (hinit : Initialised R h socket raw) (hsame : h.SameDevices h') : Initialised R h' socket raw :=
  ⟨hinit.fits, hsame.ready hinit.ready, hinit.inRange, hinit.units⟩

/-! ## Encoding one limit -/

/-- The time field of a limit, before it is shifted into place. -/
def timeField (u : RaplUnits K) (offset : Nat) (seconds : K) : Option Word :=
  if offset ≥ 32 then toU64 seconds else secondsToBits (seconds * u.seconds)

/-- The fields of a limit given by values: `none` where a conversion is
    undefined, `some none` where the power limit is too large. -/
def limitFields (u : RaplUnits K) (offset : Nat) (limit : RaplLimit K) :
    Option (Option (Word × Word)) := do
  let time ← timeField u offset limit.seconds
  let watts ← toU64 (limit.watts / u.watts)
  if watts.toNat ≥ 2 ^ 15 then some none else some (some (watts, time))

omit [IsStrictOrderedRing K] in
/-- Watts that are not refused have 15 bits. -/
theorem limitFields_some {u : RaplUnits K} {offset : Nat} {limit : RaplLimit K}
    {watts time : Word} (h : limitFields u offset limit = some (some (watts, time))) :
    timeField u offset limit.seconds = some time ∧ watts.toNat < 2 ^ 15 := by
  rw [limitFields] at h
  cases htime : timeField u offset limit.seconds with
  | none => simp [htime] at h
  | some time' =>
    cases hwatts : toU64 (limit.watts / u.watts) with
    | none => simp [htime, hwatts] at h
    | some watts' =>
      simp only [htime, hwatts, Option.bind_eq_bind, Option.bind_some] at h
      split at h
      · simp at h
      · simp only [Option.some.injEq, Prod.mk.injEq] at h
        obtain ⟨rfl, rfl⟩ := h
        exact ⟨rfl, by omega⟩

/-- A limit without raw bits is encoded from its fields. -/
theorem calcRaplLimit_values {R : RaplSetup K} {socket : Nat} {u : RaplUnits K}
    (hru : R.ru[socket]? = some u) (limit : RaplLimit K) (hbits : limit.bits = 0) (offset : Nat) :
    calcRaplLimit R socket limit offset =
      (limitFields u offset limit).map fun
        | none => (-1, limit)
        | some (watts, time) =>
          (0, { limit with bits := watts <<< (0 + offset) ||| time <<< (17 + offset) }) := by
  -- the source converts the time first and the watts after it
  have hcalc : calcRaplBits R socket limit offset =
      (timeField u offset limit.seconds).bind fun time =>
        (toU64 (limit.watts / u.watts)).bind fun watts =>
          if (watts.toNat : K) > (2 ^ 15 - 1 : Nat) then some (-1, limit)
          else some (0, { limit with
            bits := limit.bits ||| watts <<< (0 + offset) ||| time <<< (17 + offset) }) := by
    by_cases hoff : offset ≥ 32
    · simp only [calcRaplBits, timeField, translate, hru, if_pos hoff, Option.bind_eq_bind,
        Option.bind_some]
      cases toU64 limit.seconds with
      | none => rfl
      | some time => cases toU64 (limit.watts / u.watts) <;> rfl
    · simp only [calcRaplBits, timeField, translate, hru, if_neg hoff, Option.bind_eq_bind,
        Option.bind_some]
      cases secondsToBits (limit.seconds * u.seconds) with
      | none => rfl
      | some time => cases toU64 (limit.watts / u.watts) <;> rfl
  have hsel : calcRaplLimit R socket limit offset =
      (calcRaplBits R socket limit offset).bind fun r =>
        some (if r.1 ≠ 0 then -1 else 0, r.2) := by
    simp only [calcRaplLimit, hbits, ne_eq, not_true_eq_false, if_false, Option.bind_eq_bind]
  rw [hsel, hcalc, limitFields]
  simp only [Option.bind_eq_bind]
  cases timeField u offset limit.seconds with
  | none => rfl
  | some time =>
    cases toU64 (limit.watts / u.watts) with
    | none => rfl
    | some watts =>
      -- the comparison in `double` is the one of the integers
      have hcmp : (watts.toNat : K) > (2 ^ 15 - 1 : Nat) ↔ watts.toNat ≥ 2 ^ 15 := by
        rw [gt_iff_lt, Nat.cast_lt]
        omega
      by_cases hlarge : watts.toNat ≥ 2 ^ 15
      · simp only [Option.bind_some, if_pos hlarge, if_pos (hcmp.mpr hlarge)]
        rfl
      · simp only [Option.bind_some, if_neg hlarge, if_neg (mt hcmp.mp hlarge), hbits]
        simp

/-! ## Decoding one limit -/

/-- The watts in the field at `offset`. -/
def decodedWatts (u : RaplUnits K) (bits : Word) (offset : Nat) : K :=
  ((maskVal bits (14 + offset) (0 + offset)).toNat : K) * u.watts

/-- The time window a field with a mantissa and an exponent stands for. -/
def timeWindow (u : RaplUnits K) (field : Word) : K :=
  let timevalY : Word := field &&& 0x1F
  let timevalZ : Word := (field &&& 0x60) >>> 5
  (1 + 1 / ((4 : Nat) : K) * (timevalZ.toNat : K)) * ((2 : Nat) : K) ^ timevalY.toNat / u.seconds

omit [LinearOrder K] [IsStrictOrderedRing K] [FloorRing K] in
theorem timeWindow_eq (u : RaplUnits K) (field : Word) :
    timeWindow u field = ((1 : K) + (1 : K) / 4 * ((field &&& 0x60 : Word) >>> 5).toNat) *
      (2 : K) ^ (field &&& 0x1F : Word).toNat / u.seconds := by
  simp only [timeWindow, Nat.cast_ofNat]

/-- The seconds in the field at `offset`: a time window for the lower limit and
    for DRAM, the number itself for the upper limit. -/
def decodedSeconds (u : RaplUnits K) (bits : Word) (offset : Nat) : K :=
  let field : Word := maskVal bits (23 + offset) (17 + offset)
  if offset < 32 then timeWindow u field else (field.toNat : K)

/-- The limit a register value stands for. -/
def decodedLimit (u : RaplUnits K) (bits : Word) (offset : Nat) : RaplLimit K :=
  ⟨bits, decodedWatts u bits offset, decodedSeconds u bits offset⟩

omit [IsStrictOrderedRing K] in
/-- Raw bits stay as they are; the values are decoded from them, whatever they
    were before. -/
theorem calcRaplLimit_raw {R : RaplSetup K} {socket : Nat} {u : RaplUnits K}
    (hru : R.ru[socket]? = some u) (limit : RaplLimit K) (hbits : limit.bits ≠ 0) (offset : Nat) :
    calcRaplLimit R socket limit offset = some (0, decodedLimit u limit.bits offset) := by
  have hcalc : calcRaplFromBits R socket limit offset =
      some (0, decodedLimit u limit.bits offset) := by
    by_cases hoff : offset < 32
    · simp only [calcRaplFromBits, translate, hru, if_pos hoff, decodedLimit, decodedWatts,
        decodedSeconds, timeWindow, Option.bind_eq_bind, Option.bind_some]
      rfl
    · simp only [calcRaplFromBits, translate, hru, if_neg hoff, decodedLimit, decodedWatts,
        decodedSeconds, Option.bind_eq_bind, Option.bind_some]
      rfl
  simp only [calcRaplLimit, if_pos hbits, hcalc, Option.bind_eq_bind, Option.bind_some]
  rfl

/-! ## The word that is written -/

/-- What `set_pkg_rapl_limit` keeps of the current value. -/
def keptHalf (current : Word) (limit1 limit2 : Option (RaplLimit K)) : Word :=
  if limit1.isNone then current &&& 0x00000000FFFFFFFF
  else if limit2.isNone then current &&& 0xFFFFFFFF00000000
  else 0

/-- The bits of limit 1 with its enable and clamp bits. -/
def enabled1 : Option (RaplLimit K) → Word
  | none => 0
  | some l => l.bits ||| ((1 : Word) <<< 15) ||| ((1 : Word) <<< 16)

/-- The bits of limit 2 with its enable and clamp bits. -/
def enabled2 : Option (RaplLimit K) → Word
  | none => 0
  | some l => l.bits ||| ((1 : Word) <<< 47) ||| ((1 : Word) <<< 48)

omit [Field K] [LinearOrder K] [IsStrictOrderedRing K] [FloorRing K] in
/-- A limit that is NULL adds no bits. -/
theorem enablePkgLimits_eq (pkgLimit : Word) (limit1 limit2 : Option (RaplLimit K)) :
    enablePkgLimits pkgLimit limit1 limit2 = pkgLimit ||| enabled1 limit1 ||| enabled2 limit2 := by
  cases limit1 <;> cases limit2 <;> simp [enablePkgLimits, enabled1, enabled2]

section Halves

omit [Field K] [LinearOrder K] [IsStrictOrderedRing K] [FloorRing K]

theorem low_keptHalf (current : Word) (limit1 limit2 : Option (RaplLimit K)) :
    Words.low (keptHalf current limit1 limit2) =
      if limit1.isNone then Words.low current else 0 := by
  cases limit1 with
  | none => exact Words.low_and_low_mask current
  | some l =>
    cases limit2 with
    | none => exact Words.low_and_high_mask current
    | some l' => rfl

theorem high_keptHalf {limit1 : Option (RaplLimit K)} (current : Word)
    (limit2 : Option (RaplLimit K)) (h : limit1.isSome ∨ limit2.isSome) :
    Words.high (keptHalf current limit1 limit2) =
      if limit2.isNone then Words.high current else 0 := by
  cases limit1 with
  | none =>
    cases limit2 with
    | none => simp at h
    | some l' => exact Words.high_and_low_mask current
  | some l =>
    cases limit2 with
    | none => exact Words.high_and_high_mask current
    | some l' =>
      show Words.high 0 = 0
      decide

theorem high_enabled1_none : Words.high (enabled1 (none : Option (RaplLimit K))) = 0 := by
  show Words.high 0 = 0
  decide

theorem low_enabled2_none : Words.low (enabled2 (none : Option (RaplLimit K))) = 0 := by
  show Words.low 0 = 0
  decide

theorem low_enabled1 (l : RaplLimit K) :
    Words.low (enabled1 (some l)) =
      Words.low l.bits ||| ((1 : BitVec 32) <<< 15) ||| ((1 : BitVec 32) <<< 16) := by
  simp only [enabled1, Words.low_or, Words.low_shiftLeft]
  rfl

theorem high_enabled1 (l : RaplLimit K) :
    Words.high (enabled1 (some l)) = Words.high l.bits := by
  have h15 : Words.high ((1 : Word) <<< 15) = 0 := Words.high_of_lt (by decide)
  have h16 : Words.high ((1 : Word) <<< 16) = 0 := Words.high_of_lt (by decide)
  rw [enabled1, Words.high_or, Words.high_or, h15, h16]
  simp

theorem low_enabled2 (l : RaplLimit K) :
    Words.low (enabled2 (some l)) = Words.low l.bits := by
  have h47 : Words.low ((1 : Word) <<< 47) = 0 := Words.low_shiftLeft_add 1 15
  have h48 : Words.low ((1 : Word) <<< 48) = 0 := Words.low_shiftLeft_add 1 16
  rw [enabled2, Words.low_or, Words.low_or, h47, h48]
  simp

theorem high_enabled2 (l : RaplLimit K) :
    Words.high (enabled2 (some l)) =
      Words.high l.bits ||| ((1 : BitVec 32) <<< 15) ||| ((1 : BitVec 32) <<< 16) := by
  have h47 : Words.high ((1 : Word) <<< 47) = (1 : BitVec 32) <<< 15 :=
    Words.high_shiftLeft_add 1 15
  have h48 : Words.high ((1 : Word) <<< 48) = (1 : BitVec 32) <<< 16 :=
    Words.high_shiftLeft_add 1 16
  rw [enabled2, Words.high_or, Words.high_or, h47, h48]

end Halves

/-- The current value as the library has it: 0 where the read fails. -/
def currentValue (h : Host) (cpu msr : Nat) : Word :=
  if h.fails cpu msr then 0 else h.regs cpu msr

/-- The call has to read the current value: one limit is NULL. -/
def readsCurrent (limit1 limit2 : Option (RaplLimit K)) : Bool := limit1.isNone || limit2.isNone

omit [Field K] [LinearOrder K] [IsStrictOrderedRing K] [FloorRing K] in
/-- What is kept is kept of the register, unless the read that is needed fails. -/
theorem keptHalf_currentValue {h : Host} {cpu : Nat} {limit1 limit2 : Option (RaplLimit K)}
    (hok : readsCurrent limit1 limit2 = true → h.fails cpu msrPkgPowerLimit = false) :
    keptHalf (currentValue h cpu msrPkgPowerLimit) limit1 limit2 =
      keptHalf (h.regs cpu msrPkgPowerLimit) limit1 limit2 := by
  cases hneed : readsCurrent limit1 limit2 with
  | true => rw [currentValue, hok hneed, if_neg Bool.false_ne_true]
  | false =>
    -- with both limits nothing is kept
    rw [readsCurrent, Bool.or_eq_false_iff] at hneed
    rw [keptHalf, keptHalf, hneed.1, hneed.2]
    rfl

/-- The CPU a socket's registers are accessed on. -/
def socketCpu (R : RaplSetup K) (socket : BitVec 32) : Nat :=
  flatIndex R.cfg R.topo.discontinuousMapping socket.toNat 0 0

section Set

variable {R : RaplSetup K} {h : Host} {socket : BitVec 32} {raw : Word}
  (hinit : Initialised R h socket raw) {limit1 limit2 : Option (RaplLimit K)}
include hinit

omit [LinearOrder K] [IsStrictOrderedRing K] [FloorRing K] in
/-- A read of the socket's register reaches the socket's CPU. -/
theorem Initialised.read (msr : Nat) (val : Word) :
    readMsrByCoord R.cfg R.topo h socket 0 0 msr val =
      if h.fails (socketCpu R socket) msr then (-1, val, h.log (.read (socketCpu R socket) msr))
      else (0, h.regs (socketCpu R socket) msr, h.log (.read (socketCpu R socket) msr)) :=
  readMsrByCoord_inRange R.cfg R.topo socket 0 0 msr rfl hinit.fits hinit.ready hinit.inRange val

omit [LinearOrder K] [IsStrictOrderedRing K] [FloorRing K] in
/-- A write of the socket's register reaches the socket's CPU. -/
theorem Initialised.write {h' : Host} (hready : h'.Ready R.cfg.numDevs) (msr : Nat) (val : Word) :
    writeMsrByCoord R.cfg R.topo h' socket 0 0 msr val =
      if h'.failsWrite (socketCpu R socket) msr then
        (-1, h'.log (.write (socketCpu R socket) msr val))
      else (0, (h'.setReg (socketCpu R socket) msr val).log
        (.write (socketCpu R socket) msr val)) :=
  writeMsrByCoord_inRange R.cfg R.topo socket 0 0 msr rfl hinit.fits hready hinit.inRange val

omit [LinearOrder K] [IsStrictOrderedRing K] [FloorRing K] in
/-- Grabbing the other limit only reads; it fails exactly if it needs the current
    value and cannot read it. -/
theorem grabOtherLimit_spec (limit1 limit2 : Option (RaplLimit K)) :
    ∃ h', grabOtherLimit R h socket limit1 limit2 =
        (if readsCurrent limit1 limit2 && h.fails (socketCpu R socket) msrPkgPowerLimit then -1
          else 0,
          keptHalf (currentValue h (socketCpu R socket) msrPkgPowerLimit) limit1 limit2, h') ∧
      h.SameDevices h' ∧ h'.regs = h.regs ∧ h'.writes = h.writes := by
  have hread := hinit.read msrPkgPowerLimit 0
  have hlog := (Host.SameDevices.refl h).log (.read (socketCpu R socket) msrPkgPowerLimit)
  cases limit1 with
  | none =>
    refine ⟨_, ?_, hlog, rfl, Host.writes_log_read ..⟩
    cases hfail : h.fails (socketCpu R socket) msrPkgPowerLimit <;>
      simp only [grabOtherLimit, keptHalf, currentValue, readsCurrent, hread, hfail,
        Option.isNone_none, Bool.true_or, Bool.true_and, Bool.false_eq_true, if_true, if_false]
  | some l₁ =>
    cases limit2 with
    | none =>
      refine ⟨_, ?_, hlog, rfl, Host.writes_log_read ..⟩
      cases hfail : h.fails (socketCpu R socket) msrPkgPowerLimit <;>
        simp only [grabOtherLimit, keptHalf, currentValue, readsCurrent, hread, hfail,
          Option.isNone_none, Option.isNone_some, Bool.or_true, Bool.true_and, Bool.false_eq_true,
          if_true, if_false]
    | some l₂ => exact ⟨h, rfl, .refl h, rfl, rfl⟩

variable (hflag : announces R.flags pkgPowerLimit = true)
include hflag

omit hinit [IsStrictOrderedRing K] in
/-- An undefined conversion makes the call undefined. -/
theorem setPkgRaplLimit_none (hcalc : calcPkgRaplLimit R socket.toNat limit1 limit2 = none) :
    setPkgRaplLimit R h socket limit1 limit2 = none := by
  simp only [setPkgRaplLimit, hflag, if_true, hcalc, Option.bind_eq_bind, Option.bind_none]

omit [IsStrictOrderedRing K] in
/-- A refused limit makes the call fail without writing. -/
theorem setPkgRaplLimit_refused {rc : Int} {l₁ l₂ : Option (RaplLimit K)} (hrc : rc ≠ 0)
    (hcalc : calcPkgRaplLimit R socket.toNat limit1 limit2 = some (rc, l₁, l₂)) :
    ∃ r, setPkgRaplLimit R h socket limit1 limit2 = some r ∧ r.rc = -1 ∧ r.limit1 = l₁ ∧
      r.limit2 = l₂ ∧ r.host.regs = h.regs ∧ r.host.writes = h.writes := by
  obtain ⟨h', hgrab, -, hregs, hwrites⟩ := grabOtherLimit_spec hinit limit1 limit2
  refine ⟨⟨-1, l₁, l₂, h'⟩, ?_, rfl, rfl, rfl, hregs, hwrites⟩
  simp only [setPkgRaplLimit, hflag, if_true, hgrab, hcalc, Option.bind_eq_bind, Option.bind_some,
    if_pos hrc]

/-- The word `set_pkg_rapl_limit` composes for the limits `l₁` and `l₂` that the
    request was encoded to. -/
def composedWord (h : Host) (cpu : Nat) (limit1 limit2 l₁ l₂ : Option (RaplLimit K)) : Word :=
  keptHalf (currentValue h cpu msrPkgPowerLimit) limit1 limit2 ||| enabled1 l₁ ||| enabled2 l₂

omit [IsStrictOrderedRing K] in
/-- Otherwise the kept half and the enabled limits are written; the call
    returns 0 exactly when neither the read, if it is needed, nor the write
    fails. -/
theorem setPkgRaplLimit_written {l₁ l₂ : Option (RaplLimit K)}
    (hreq : (l₁.isSome || l₂.isSome) = true)
    (hcalc : calcPkgRaplLimit R socket.toNat limit1 limit2 = some (0, l₁, l₂)) :
    ∃ r, setPkgRaplLimit R h socket limit1 limit2 = some r ∧ r.limit1 = l₁ ∧ r.limit2 = l₂ ∧
      (r.rc = 0 ↔ (readsCurrent limit1 limit2 = true →
          h.fails (socketCpu R socket) msrPkgPowerLimit = false) ∧
        h.failsWrite (socketCpu R socket) msrPkgPowerLimit = false) ∧
      r.host.regs = (if h.failsWrite (socketCpu R socket) msrPkgPowerLimit then h.regs
        else (h.setReg (socketCpu R socket) msrPkgPowerLimit
          (composedWord h (socketCpu R socket) limit1 limit2 l₁ l₂)).regs) ∧
      r.host.writes = h.writes ++ [.write (socketCpu R socket) msrPkgPowerLimit
        (composedWord h (socketCpu R socket) limit1 limit2 l₁ l₂)] ∧ h.SameDevices r.host := by
  obtain ⟨h', hgrab, hsame, hregs, hwrites⟩ := grabOtherLimit_spec hinit limit1 limit2
  have hwrite := hinit.write (hsame.ready hinit.ready) msrPkgPowerLimit (enablePkgLimits
    (keptHalf (currentValue h (socketCpu R socket) msrPkgPowerLimit) limit1 limit2) l₁ l₂)
  rw [composedWord, ← enablePkgLimits_eq]
  -- the word and the first return code stay fixed from here on
  generalize hw : enablePkgLimits _ l₁ l₂ = w at hwrite ⊢
  generalize hret : (if readsCurrent limit1 limit2 &&
    h.fails (socketCpu R socket) msrPkgPowerLimit then (-1 : Int) else 0) = ret at hgrab
  have hset : setPkgRaplLimit R h socket limit1 limit2 = some
      ⟨ret + (writeMsrByCoord R.cfg R.topo h' socket 0 0 msrPkgPowerLimit w).1, l₁, l₂,
        (writeMsrByCoord R.cfg R.topo h' socket 0 0 msrPkgPowerLimit w).2⟩ := by
    simp only [setPkgRaplLimit, hflag, if_true, hgrab, hcalc, Option.bind_eq_bind,
      Option.bind_some, ne_eq, not_true_eq_false, if_false, hreq, hw]
  rw [hwrite, hsame.failsWrite] at hset
  refine ⟨_, hset, rfl, rfl, ?_, ?_, ?_, ?_⟩
  · -- both return codes are 0 or -1
    rw [← hret]
    cases h.failsWrite (socketCpu R socket) msrPkgPowerLimit <;>
      cases h.fails (socketCpu R socket) msrPkgPowerLimit <;>
      cases readsCurrent limit1 limit2 <;> simp
  · cases h.failsWrite (socketCpu R socket) msrPkgPowerLimit with
    | true => exact hregs
    | false => simp [Host.setReg, hregs]
  · cases h.failsWrite (socketCpu R socket) msrPkgPowerLimit <;> simp [hwrites]
  · cases h.failsWrite (socketCpu R socket) msrPkgPowerLimit with
    | true => exact hsame.log _
    | false => exact (hsame.setReg _ _ _).log _

end Set

/-! ## The DRAM limit -/

section SetDram

variable {R : RaplSetup K} {h : Host} {socket : BitVec 32} {raw : Word} {limit : RaplLimit K}
  (hflag : announces R.flags dramPowerLimit = true)
include hflag

omit [IsStrictOrderedRing K] in
theorem setDramRaplLimit_none (hcalc : calcStdRaplLimit R socket.toNat limit = none) :
    setDramRaplLimit R h socket (some limit) = none := by
  simp only [setDramRaplLimit, hflag, if_true, hcalc, Option.bind_eq_bind, Option.bind_none]

omit [IsStrictOrderedRing K] in
theorem setDramRaplLimit_refused {rc : Int} {l : RaplLimit K} (hrc : rc ≠ 0)
    (hcalc : calcStdRaplLimit R socket.toNat limit = some (rc, l)) :
    setDramRaplLimit R h socket (some limit) = some ⟨-1, some l, h⟩ := by
  simp only [setDramRaplLimit, hflag, if_true, hcalc, Option.bind_eq_bind, Option.bind_some,
    if_pos hrc]

omit [IsStrictOrderedRing K] in
/-- The bits of the limit are written with the enable bit. -/
theorem setDramRaplLimit_written (hinit : Initialised R h socket raw) {l : RaplLimit K}
    (hcalc : calcStdRaplLimit R socket.toNat limit = some (0, l)) :
    ∃ r, setDramRaplLimit R h socket (some limit) = some r ∧ r.rc = 0 ∧
      r.host.regs = (if h.failsWrite (socketCpu R socket) msrDramPowerLimit then h.regs
        else (h.setReg (socketCpu R socket) msrDramPowerLimit
          (l.bits ||| ((1 : Word) <<< 15))).regs) ∧
      r.host.writes = h.writes ++ [.write (socketCpu R socket) msrDramPowerLimit
        (l.bits ||| ((1 : Word) <<< 15))] := by
  have hwrite := hinit.write hinit.ready msrDramPowerLimit (l.bits ||| ((1 : Word) <<< 15))
  have hset : setDramRaplLimit R h socket (some limit) = some ⟨0, some l,
      (writeMsrByCoord R.cfg R.topo h socket 0 0 msrDramPowerLimit
        (l.bits ||| ((1 : Word) <<< 15))).2⟩ := by
    simp only [setDramRaplLimit, hflag, if_true, hcalc, Option.bind_eq_bind, Option.bind_some,
      ne_eq, not_true_eq_false, if_false]
  rw [hwrite] at hset
  refine ⟨_, hset, rfl, ?_, ?_⟩
  · cases h.failsWrite (socketCpu R socket) msrDramPowerLimit <;> rfl
  · cases h.failsWrite (socketCpu R socket) msrDramPowerLimit <;> simp

end SetDram

end Limits

end Libmsr
