/-
  Libmsr.Rapl.LockReads

  What `check_for_locks` sees of a limit register through the getters.

  A register that is not zero arrives as it is.  A register that reads 0 is
  encoded from what the struct held, which is what an earlier read decoded: no
  lock bit comes out of that, but the conversion of the time window is undefined
  if the window is at most half a time unit of the socket.
-/
import Libmsr.Rapl.LimitRoundTrip
import Libmsr.Rapl.Locks

namespace Libmsr

/-! ## The tests -/

theorem and_lockMask_ne_zero (x : Word) : x &&& lockMask ≠ 0 ↔ x.getLsbD 31 = true :=
  Words.and_twoPow_ne_zero x (i := 31) (by omega)

theorem and_lockMask_high_ne_zero (x : Word) :
    x &&& (lockMask <<< 32) ≠ 0 ↔ x.getLsbD 63 = true :=
  Words.and_twoPow_ne_zero x (i := 63) (by omega)

/-- Clearing one availability flag keeps the others. -/
theorem announces_clear {reg reg' : Word} (hapart : ~~~reg &&& reg' = reg') (flags : Word)
    (b : Bool) :
    announces (if b then flags &&& ~~~reg else flags) reg' = announces flags reg' := by
  cases b with
  | false => rfl
  | true =>
    rw [if_pos rfl, announces, announces, BitVec.and_assoc, hapart]

theorem announces_clear_self (flags reg : Word) (b : Bool) :
    announces (if b then flags &&& ~~~reg else flags) reg = true ↔
      announces flags reg = true ∧ ¬ b = true := by
  cases b with
  | false => simp
  | true =>
    have hzero : flags &&& ~~~reg &&& reg = 0 := by
      rw [BitVec.and_assoc, BitVec.not_and_self]
      exact BitVec.and_zero
    rw [if_pos rfl, announces, hzero]
    simp

section LockReads

variable {K : Type} [Field K] [LinearOrder K] [IsStrictOrderedRing K] [FloorRing K]

/-! ## Encoding what was decoded -/

/-- The struct holds the values a register value stands for. -/
structure RaplLimit.Holds (limit : RaplLimit K) (u : RaplUnits K) (val : Word) (offset : Nat) :
    Prop where
  watts : limit.watts = decodedWatts u val offset
  seconds : limit.seconds = decodedSeconds u val offset

omit [FloorRing K] in
theorem decodedWatts_bounds (raw val : Word) {offset : Nat} (hoff : offset = 0 ∨ offset = 32) :
    0 ≤ decodedWatts (.ofMsr raw : RaplUnits K) val offset ∧
      decodedWatts (.ofMsr raw : RaplUnits K) val offset < 2 ^ 15 := by
  have hfield : (maskVal val (14 + offset) (0 + offset)).toNat < 2 ^ 15 := by
    rcases hoff with rfl | rfl <;> rw [maskVal_toNat _ (by omega) (by omega)] <;>
      exact Nat.mod_lt _ (Nat.two_pow_pos 15)
  have hunit : (1 : K) ≤ 2 ^ powerUnit raw := one_le_pow₀ one_le_two
  rw [decodedWatts, ofMsr_watts, mul_one_div]
  refine ⟨div_nonneg (Nat.cast_nonneg _) (pow_pos two_pos _).le, ?_⟩
  refine (div_le_self (Nat.cast_nonneg _) hunit).trans_lt ?_
  have hcast : ((maskVal val (14 + offset) (0 + offset)).toNat : K) < ((2 ^ 15 : Nat) : K) :=
    Nat.cast_lt.mpr hfield
  rwa [Nat.cast_pow, Nat.cast_ofNat] at hcast

omit [FloorRing K] in
theorem timeWindow_bounds (raw field : Word) :
    0 < timeWindow (.ofMsr raw : RaplUnits K) field ∧
      timeWindow (.ofMsr raw : RaplUnits K) field < 2 ^ 33 := by
  have hy : (field &&& 0x1F : Word).toNat ≤ 31 := by
    rw [BitVec.toNat_and]
    exact Nat.and_le_right
  have hz : ((field &&& 0x60 : Word) >>> 5).toNat ≤ 3 := by
    have hand : (field &&& 0x60 : Word).toNat ≤ 96 := by
      rw [BitVec.toNat_and]
      exact Nat.and_le_right
    rw [BitVec.toNat_ushiftRight, Nat.shiftRight_eq_div_pow]
    omega
  rw [timeWindow_eq, ofMsr_seconds]
  generalize (field &&& 0x1F : Word).toNat = y at hy ⊢
  generalize ((field &&& 0x60 : Word) >>> 5).toNat = z at hz ⊢
  have hz0 : (0 : K) ≤ z := Nat.cast_nonneg z
  have hz3 : (z : K) ≤ 3 := by exact_mod_cast hz
  have hpow : (2 : K) ^ y ≤ 2 ^ 31 := pow_le_pow_right₀ one_le_two hy
  have hpow0 : (0 : K) < 2 ^ y := pow_pos two_pos _
  have hunit : (1 : K) ≤ 2 ^ timeUnit raw := one_le_pow₀ one_le_two
  constructor
  · exact div_pos (mul_pos (by linarith) hpow0) (pow_pos two_pos _)
  · refine (div_le_self (mul_nonneg (by linarith) hpow0.le) hunit).trans_lt ?_
    have hmul : (1 + 1 / 4 * (z : K)) * 2 ^ y ≤ 7 / 4 * 2 ^ 31 :=
      mul_le_mul (by linarith) hpow hpow0.le (by norm_num)
    exact hmul.trans_lt (by norm_num)

/-- The fields of values that were decoded: undefined for a lower limit whose
    window is too short, else with a time field of 7 bits. -/
theorem limitFields_held {raw raw' val : Word} {offset : Nat} (hoff : offset = 0 ∨ offset = 32)
    {l : RaplLimit K} (hl : l.Holds (.ofMsr raw') val offset)
    (hfit : offset = 0 → 1 / 2 < l.seconds * (RaplUnits.ofMsr raw : RaplUnits K).seconds) :
    ∃ fields, limitFields (.ofMsr raw) offset l = some fields ∧
      ∀ watts time, fields = some (watts, time) → offset = 0 → time.toNat < 2 ^ 7 := by
  obtain ⟨hw0, hw⟩ := decodedWatts_bounds (K := K) raw' val hoff
  rw [← hl.watts] at hw0 hw
  have hwatts : ∃ w, toU64 (l.watts / (RaplUnits.ofMsr raw : RaplUnits K).watts) = some w := by
    have hunit : (0 : K) < 2 ^ powerUnit raw := pow_pos two_pos _
    have hlt : powerUnit raw ≤ 15 := by
      unfold powerUnit
      omega
    have hpow : (2 : K) ^ powerUnit raw ≤ 2 ^ 15 := pow_le_pow_right₀ one_le_two hlt
    rw [ofMsr_watts, one_div, div_inv_eq_mul]
    obtain ⟨w, hw', -⟩ := toU64_spec (mul_nonneg hw0 hunit.le)
      ((mul_lt_mul'' hw (hpow.trans_lt (by norm_num : (2 : K) ^ 15 < 2 ^ 16)) hw0 hunit.le).trans
        (by norm_num))
    exact ⟨w, hw'⟩
  have htime : ∃ t, timeField (.ofMsr raw) offset l.seconds = some t ∧
      (offset = 0 → t.toNat < 2 ^ 7) := by
    rcases hoff with rfl | rfl
    · obtain ⟨hs0, hs⟩ := timeWindow_bounds (K := K) raw' (maskVal val (23 + 0) (17 + 0))
      have hseconds : l.seconds = timeWindow (.ofMsr raw') (maskVal val (23 + 0) (17 + 0)) :=
        hl.seconds
      have hlt : timeUnit raw ≤ 15 := by
        unfold timeUnit
        omega
      have hunits : l.seconds * (RaplUnits.ofMsr raw : RaplUnits K).seconds < 2 ^ 48 := by
        rw [ofMsr_seconds, hseconds]
        calc timeWindow (.ofMsr raw' : RaplUnits K) _ * 2 ^ timeUnit raw
            < 2 ^ 33 * 2 ^ timeUnit raw := by gcongr
          _ ≤ 2 ^ 33 * 2 ^ 15 := by gcongr; exact one_le_two
          _ = 2 ^ 48 := by norm_num
      obtain ⟨t, ht, hbits⟩ := secondsToBits_spec (hfit rfl) (by omega) (by norm_num) hunits
      refine ⟨t, ?_, fun _ => (hbits 7 (le_refl 7)).mpr (hunits.trans (by norm_num))⟩
      rw [timeField, if_neg (by omega)]
      exact ht
    · have hseconds : l.seconds = ((maskVal val 55 49).toNat : K) := hl.seconds
      have hlt : (maskVal val 55 49).toNat < 2 ^ 64 := (maskVal val 55 49).isLt
      obtain ⟨t, ht, -⟩ := toU64_spec (Nat.cast_nonneg (α := K) (maskVal val 55 49).toNat)
        (by exact_mod_cast hlt)
      refine ⟨t, ?_, fun h => absurd h (by omega)⟩
      rw [timeField, if_pos (le_refl 32), hseconds, ht]
  obtain ⟨w, hw'⟩ := hwatts
  obtain ⟨t, ht, ht7⟩ := htime
  simp only [limitFields, ht, hw', Option.bind_eq_bind, Option.bind_some]
  by_cases hlarge : w.toNat ≥ 2 ^ 15
  · rw [if_pos hlarge]
    exact ⟨none, rfl, by simp⟩
  · rw [if_neg hlarge]
    refine ⟨_, rfl, fun watts time heq hzero => ?_⟩
    obtain ⟨rfl, rfl⟩ := Prod.mk.inj (Option.some.inj heq)
    exact ht7 hzero

/-- No lock bit: neither of bits 31 and 63 in a lower limit, and not bit 31 in an
    upper one. -/
def Unlocked (bits : Word) (offset : Nat) : Prop :=
  bits.getLsbD 31 = false ∧ (offset = 0 → bits.getLsbD 63 = false)

theorem packed_unlocked {watts time : Word} {offset : Nat} (hoff : offset = 0 ∨ offset = 32)
    (hw : watts.toNat < 2 ^ 15) (ht : offset = 0 → time.toNat < 2 ^ 7) :
    Unlocked (watts <<< (0 + offset) ||| time <<< (17 + offset)) offset := by
  rcases hoff with rfl | rfl
  · have hbit : ∀ i, 24 ≤ i → (watts <<< (0 + 0) ||| time <<< (17 + 0)).getLsbD i = false := by
      intro i hi
      rw [BitVec.getLsbD_or, BitVec.getLsbD_shiftLeft, BitVec.getLsbD_shiftLeft,
        Words.getLsbD_of_toNat_lt hw (by omega), Words.getLsbD_of_toNat_lt (ht rfl) (by omega)]
      simp only [Bool.and_false, Bool.or_false]
    exact ⟨hbit 31 (by omega), fun _ => hbit 63 (by omega)⟩
  · refine ⟨?_, fun h => absurd h (by omega)⟩
    rw [BitVec.getLsbD_or, BitVec.getLsbD_shiftLeft, BitVec.getLsbD_shiftLeft]
    simp

section OneLimit

variable {R : RaplSetup K} {socket : Nat} {raw raw' val : Word}
  (hru : R.ru[socket]? = some (.ofMsr raw)) {offset : Nat} {l : RaplLimit K}
include hru

/-- Encoding decoded values over a zero register: the values stay, and no lock
    bit is set. -/
theorem calcRaplLimit_held (hoff : offset = 0 ∨ offset = 32)
    (hl : l.Holds (.ofMsr raw') val offset)
    (hfit : offset = 0 → 1 / 2 < l.seconds * (RaplUnits.ofMsr raw : RaplUnits K).seconds) :
    ∃ rc l', calcRaplLimit R socket { l with bits := 0 } offset = some (rc, l') ∧
      l'.Holds (.ofMsr raw') val offset ∧ Unlocked l'.bits offset := by
  obtain ⟨fields, hfields, htime⟩ := limitFields_held hoff (l := { l with bits := 0 })
    ⟨hl.watts, hl.seconds⟩ hfit
  rw [calcRaplLimit_values hru _ rfl, hfields]
  cases fields with
  | none =>
    exact ⟨_, _, rfl, ⟨hl.watts, hl.seconds⟩, BitVec.getLsbD_zero, fun _ => BitVec.getLsbD_zero⟩
  | some f =>
    obtain ⟨watts, time⟩ := f
    obtain ⟨-, hw⟩ := limitFields_some hfields
    exact ⟨_, _, rfl, ⟨hl.watts, hl.seconds⟩, packed_unlocked hoff hw (htime watts time rfl)⟩

/-- A window of at most half a time unit has no encoding. -/
theorem calcRaplLimit_short
    (hshort : ¬ 1 / 2 < l.seconds * (RaplUnits.ofMsr raw : RaplUnits K).seconds) :
    calcRaplLimit R socket { l with bits := 0 } 0 = none := by
  have hfields : limitFields (.ofMsr raw) 0 { l with bits := 0 } = none := by
    rw [limitFields, timeField, if_neg (by omega), secondsToBits_none hshort]
    rfl
  rw [calcRaplLimit_values hru _ rfl, hfields, Option.map_none]

end OneLimit

/-! ## Reading over what was left -/

/-- The last register value that was read and not zero, and its socket. -/
abbrev LeftOver := Option (Nat × Word)

/-- What is left after socket `i`'s register value `val`, if it was read. -/
def LeftOver.leave (left : LeftOver) (read : Prop) [Decidable read] (i : Nat) (val : Word) :
    LeftOver :=
  if read ∧ val ≠ 0 then some (i, val) else left

section Left

variable (raw : Nat → Word) (first : K)

/-- The struct holds the values of what was left; `first` is the uninitialised
    value of the seconds. -/
def HoldsLeft : LeftOver → RaplLimit K → Prop
  | none, limit => limit.seconds = first
  | some (j, val), limit => limit.Holds (.ofMsr (raw j)) val 0

variable (K) in
/-- Something was left, with a time window that can be encoded in the units of
    socket `i`. -/
def WindowFits (left : LeftOver) (i : Nat) : Prop :=
  ∃ j val, left = some (j, val) ∧
    1 / ((2 : Nat) : K) < decodedSeconds (.ofMsr (raw j) : RaplUnits K) val 0 *
      (RaplUnits.ofMsr (raw i) : RaplUnits K).seconds

variable {raw first} {R : RaplSetup K} {socket i : Nat} {left : LeftOver} {val : Word}
  {l : RaplLimit K} (hru : R.ru[socket]? = some (.ofMsr (raw i)))
include hru

/-- A struct that the register value was read into shows its lock bits, and holds
    what is left now. -/
theorem calcRaplLimit_reads (hheld : HoldsLeft raw first left l)
    (hfit : val = 0 → WindowFits K raw left i) :
    ∃ rc l', calcRaplLimit R socket { l with bits := val } 0 = some (rc, l') ∧
      HoldsLeft raw first (left.leave True i val) l' ∧
      l'.bits.getLsbD 31 = val.getLsbD 31 ∧ l'.bits.getLsbD 63 = val.getLsbD 63 := by
  by_cases hval : val = 0
  · subst hval
    obtain ⟨j, w, rfl, hwindow⟩ := hfit rfl
    rw [← hheld.seconds, Nat.cast_ofNat] at hwindow
    obtain ⟨rc, l', hcalc, hl', h31, h63⟩ :=
      calcRaplLimit_held hru (Or.inl rfl) hheld fun _ => hwindow
    refine ⟨rc, l', hcalc, ?_, ?_, ?_⟩
    · rw [LeftOver.leave, if_neg (by simp)]
      exact hl'
    · exact h31
    · exact h63 rfl
  · refine ⟨0, _, calcRaplLimit_raw hru { l with bits := val } hval 0, ?_, rfl, rfl⟩
    rw [LeftOver.leave, if_pos ⟨trivial, hval⟩]
    exact ⟨rfl, rfl⟩

/-- A zero register is not read over a window that is too short, nor over zero
    seconds. -/
theorem calcRaplLimit_unread (hheld : HoldsLeft raw 0 left l)
    (hfit : ¬ WindowFits K raw left i) : calcRaplLimit R socket { l with bits := 0 } 0 = none := by
  refine calcRaplLimit_short hru fun hwindow => ?_
  cases left with
  | none =>
    have hzero : l.seconds = 0 := hheld
    rw [hzero, zero_mul] at hwindow
    exact absurd hwindow (not_lt.mpr one_half_pos.le)
  | some last =>
    obtain ⟨j, w⟩ := last
    rw [hheld.seconds] at hwindow
    exact hfit ⟨j, w, rfl, by rwa [Nat.cast_ofNat]⟩

end Left

/-! ## The getters -/

section Getters

variable {R : RaplSetup K} {h : Host} {socket : BitVec 32} {raw : Nat → Word} {i : Nat}
  (hinit : Initialised R h socket (raw i)) {first : K} {left : LeftOver} {l₁ l₂ : RaplLimit K}
include hinit

theorem getPkgRaplLimit_reads (hflag : announces R.flags pkgPowerLimit = true)
    (hok : h.fails (socketCpu R socket) msrPkgPowerLimit = false)
    (hheld : HoldsLeft raw first left l₁)
    (hupper : left ≠ none → ∃ j val, l₂.Holds (.ofMsr (raw j)) val 32)
    (hfit : h.regs (socketCpu R socket) msrPkgPowerLimit = 0 → WindowFits K raw left i) :
    ∃ rc l₁' l₂' h', getPkgRaplLimit R h socket (some l₁) (some l₂) =
        some ⟨rc, some l₁', some l₂', h'⟩ ∧
      HoldsLeft raw first
        (left.leave True i (h.regs (socketCpu R socket) msrPkgPowerLimit)) l₁' ∧
      (∃ j val, l₂'.Holds (.ofMsr (raw j)) val 32) ∧
      l₁'.bits.getLsbD 31 = (h.regs (socketCpu R socket) msrPkgPowerLimit).getLsbD 31 ∧
      l₁'.bits.getLsbD 63 = (h.regs (socketCpu R socket) msrPkgPowerLimit).getLsbD 63 ∧
      l₂'.bits.getLsbD 31 = (h.regs (socketCpu R socket) msrPkgPowerLimit).getLsbD 31 ∧
      h.SameDevices h' ∧ h'.regs = h.regs := by
  obtain ⟨h', hget, hsame, hregs⟩ := getPkgRaplLimit_eq hinit hflag (some l₁) (some l₂)
  simp only [hok, Bool.false_eq_true, if_false, Option.map_some, calcPkgRaplLimit_eq,
    calcGivenLimit] at hget
  generalize h.regs (socketCpu R socket) msrPkgPowerLimit = val at hfit hget ⊢
  obtain ⟨rc, l₁', hcalc, hheld', h31, h63⟩ := calcRaplLimit_reads hinit.units hheld hfit
  rw [hcalc] at hget
  -- a register that is 0 has the left-over values encoded, one after the other
  by_cases hval : val = 0
  · subst hval
    obtain ⟨j, w, rfl, -⟩ := hfit rfl
    obtain ⟨j₂, w₂, hl₂⟩ := hupper (by simp)
    by_cases hrc : rc = 0
    · obtain ⟨rc', l₂', hcalc', hl₂', h31', -⟩ :=
        calcRaplLimit_held hinit.units (Or.inr rfl) hl₂ (by simp)
      rw [hcalc'] at hget
      subst hrc
      refine ⟨0, l₁', l₂', h', ?_, hheld', ⟨j₂, w₂, hl₂'⟩, h31, h63, ?_, hsame, hregs⟩
      · rw [hget]
        by_cases hrc' : rc' = 0 <;> simp [hrc']
      · exact h31'
    · -- the lower limit was refused, so the upper one is not looked at
      refine ⟨0, l₁', { l₂ with bits := 0 }, h', ?_, hheld', ⟨j₂, w₂, hl₂.watts, hl₂.seconds⟩, h31,
        h63, rfl, hsame, hregs⟩
      rw [hget]
      simp [hrc]
  · -- any other value is decoded into both structs
    have hraw := fun (l : RaplLimit K) (offset : Nat) =>
      calcRaplLimit_raw hinit.units { l with bits := val } hval offset
    rw [hraw] at hcalc
    obtain ⟨rfl, rfl⟩ := Prod.mk.inj (Option.some.inj hcalc)
    refine ⟨0, _, decodedLimit (.ofMsr (raw i)) val 32, h', ?_, hheld', ⟨i, val, rfl, rfl⟩, h31,
      h63, rfl, hsame, hregs⟩
    rw [hget]
    simp [hraw]

theorem getPkgRaplLimit_unread (hflag : announces R.flags pkgPowerLimit = true)
    (hok : h.fails (socketCpu R socket) msrPkgPowerLimit = false)
    (hheld : HoldsLeft raw 0 left l₁) (hfit : ¬ WindowFits K raw left i)
    (hzero : h.regs (socketCpu R socket) msrPkgPowerLimit = 0) :
    getPkgRaplLimit R h socket (some l₁) (some l₂) = none := by
  obtain ⟨h', hget, -⟩ := getPkgRaplLimit_eq hinit hflag (some l₁) (some l₂)
  rw [hget]
  simp only [hok, Bool.false_eq_true, if_false, Option.map_some, calcPkgRaplLimit_eq,
    calcGivenLimit, hzero, calcRaplLimit_unread hinit.units hheld hfit, Option.map_none,
    Option.bind_none]

theorem getDramRaplLimit_reads (hflag : announces R.flags dramPowerLimit = true)
    (hok : h.fails (socketCpu R socket) msrDramPowerLimit = false)
    (hheld : HoldsLeft raw first left l₁)
    (hfit : h.regs (socketCpu R socket) msrDramPowerLimit = 0 → WindowFits K raw left i) :
    ∃ rc l₁' h', getDramRaplLimit R h socket (some l₁) = some ⟨rc, some l₁', h'⟩ ∧
      HoldsLeft raw first
        (left.leave True i (h.regs (socketCpu R socket) msrDramPowerLimit)) l₁' ∧
      l₁'.bits.getLsbD 31 = (h.regs (socketCpu R socket) msrDramPowerLimit).getLsbD 31 ∧
      h.SameDevices h' ∧ h'.regs = h.regs := by
  obtain ⟨rc, l₁', hcalc, hheld', h31, -⟩ := calcRaplLimit_reads hinit.units hheld hfit
  refine ⟨0, l₁', h.log (.read (socketCpu R socket) msrDramPowerLimit), ?_, hheld', h31,
    (Host.SameDevices.refl h).log _, rfl⟩
  rw [getDramRaplLimit_eq hinit hflag hok, hcalc]
  rfl

theorem getDramRaplLimit_unread (hflag : announces R.flags dramPowerLimit = true)
    (hok : h.fails (socketCpu R socket) msrDramPowerLimit = false)
    (hheld : HoldsLeft raw 0 left l₁) (hfit : ¬ WindowFits K raw left i)
    (hzero : h.regs (socketCpu R socket) msrDramPowerLimit = 0) :
    getDramRaplLimit R h socket (some l₁) = none := by
  rw [getDramRaplLimit_eq hinit hflag hok, hzero, calcRaplLimit_unread hinit.units hheld hfit,
    Option.map_none]

omit [LinearOrder K] [IsStrictOrderedRing K] [FloorRing K] in
theorem getMaxTurboActivationRatio_reads (hflag : announces R.flags turboActivationRatio = true)
    (hok : h.fails (socketCpu R socket) msrTurboActivationRatio = false)
    (info : TurboActivationRatioData K) :
    ∃ info' h', getMaxTurboActivationRatio R h socket info = (0, info', h') ∧
      info'.bits = h.regs (socketCpu R socket) msrTurboActivationRatio ∧ h.SameDevices h' ∧
      h'.regs = h.regs := by
  have hread := hinit.read msrTurboActivationRatio info.bits
  rw [hok, if_neg Bool.false_ne_true] at hread
  refine ⟨calcMaxNonTurbo
      { info with bits := h.regs (socketCpu R socket) msrTurboActivationRatio },
    h.log (.read (socketCpu R socket) msrTurboActivationRatio), ?_, rfl,
    (Host.SameDevices.refl h).log _, rfl⟩
  rw [getMaxTurboActivationRatio, if_pos hflag, hread]

end Getters

end LockReads

end Libmsr
