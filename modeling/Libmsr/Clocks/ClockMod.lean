/-
  Libmsr.Clocks.ClockMod

  On-demand clock modulation (src/msr_clocks.c): `get_clock_mod` and
  `set_clock_mod`, and when the second sets what the first returns.

  The duty cycle is in bits 3:1, but the mask that clears it is 3, which is two
  bits.  Its highest bit is or-ed to the one the register has.
-/
import Libmsr.Core.CoordAccess
import Libmsr.Thermal.ThermalFields

namespace Libmsr

open BitFields

def ia32ClockModulation : Nat := 0x19A

/-- `struct clock_mod`. -/
structure ClockMod where
  raw : Word
  dutyCycleEnable : BitVec 32
  dutyCycle : BitVec 32
  deriving Repr, DecidableEq

/-- `get_clock_mod`. -/
def getClockMod (cfg : CoreConfig) (g : Topo) (h : Host) (socket core : BitVec 32)
    (s : ClockMod) : ClockMod × Host :=
  let (_, raw, h) := readMsrByCoord cfg g h socket core 0 ia32ClockModulation s.raw
  ({ raw := raw
     dutyCycle := intField raw 3 1
     dutyCycleEnable := intField raw 4 4 }, h)

/-- The checks of `set_clock_mod`, of two signed numbers. -/
def ClockMod.Accepted (s : ClockMod) : Prop :=
  (0 < s.dutyCycle.toInt ∧ s.dutyCycle.toInt < 8) ∧ (s.dutyCycleEnable = 0 ∨ s.dutyCycleEnable = 1)

instance (s : ClockMod) : Decidable s.Accepted :=
  inferInstanceAs (Decidable ((0 < s.dutyCycle.toInt ∧ s.dutyCycle.toInt < 8) ∧
    (s.dutyCycleEnable = 0 ∨ s.dutyCycleEnable = 1)))

/-- The word that `set_clock_mod` makes of the one it read. -/
def ClockMod.toMsr (s : ClockMod) (x : Word) : Word :=
  let x := replaceBits x 3 1 s.dutyCycle 1
  replaceBits x 1 4 s.dutyCycleEnable 4

/-- `set_clock_mod`: return code and host.  `msrVal` is what the local variable holds
    before the read. -/
def setClockMod (cfg : CoreConfig) (g : Topo) (h : Host) (socket core : BitVec 32)
    (s : ClockMod) (msrVal : Word) : Int × Host :=
  let (_, msrVal, h) := readMsrByCoord cfg g h socket core 0 ia32ClockModulation msrVal
  if s.Accepted then
    -- the return code of the write is dropped
    (0, (writeMsrByCoord cfg g h socket core 0 ia32ClockModulation (s.toMsr msrVal)).2)
  else (-1, h)

/-! ## The word that is written -/

/-- Which duty cycles and enables there are: 1 to 7, and 0 or 1. -/
structure ClockMod.Valid (s : ClockMod) : Prop where
  dutyCycle : 1 ≤ s.dutyCycle.toInt ∧ s.dutyCycle.toInt ≤ 7
  enable : s.dutyCycleEnable = 0 ∨ s.dutyCycleEnable = 1

theorem ClockMod.accepted_iff (s : ClockMod) : s.Accepted ↔ s.Valid := by
  constructor
  · rintro ⟨⟨hpos, hlt⟩, henable⟩
    exact ⟨⟨hpos, Int.le_of_lt_add_one hlt⟩, henable⟩
  · rintro ⟨⟨hpos, hle⟩, henable⟩
    exact ⟨⟨hpos, Int.lt_add_one_of_le hle⟩, henable⟩

namespace ClockMod.Valid

variable {s : ClockMod} (hs : s.Valid)
include hs

theorem toInt_eq : s.dutyCycle.toInt = s.dutyCycle.toNat := by
  obtain ⟨hpos, hle⟩ := hs.dutyCycle
  have hlt := s.dutyCycle.isLt
  rw [BitVec.toInt_eq_toNat_cond] at hpos hle ⊢
  split at hpos
  · rw [if_pos ‹_›]
  · omega

theorem dutyCycle_lt : s.dutyCycle.toNat < 2 ^ 3 := by
  have hle := hs.dutyCycle.2
  rw [hs.toInt_eq] at hle
  omega

theorem enable_lt : s.dutyCycleEnable.toNat < 2 ^ 1 := by
  rcases hs.enable with h | h <;> rw [h] <;> decide

/-- The highest bit of the duty cycle. -/
theorem getLsbD_two : s.dutyCycle.getLsbD 2 = true ↔ 4 ≤ s.dutyCycle.toInt := by
  have hlt := hs.dutyCycle_lt
  rw [hs.toInt_eq, ← BitVec.testBit_toNat, Nat.testBit_eq_decide_div_mod_eq, decide_eq_true_eq]
  omega

/-- The two lines of `set_clock_mod` change two fields.  Of the first its highest bit
    is not cleared. -/
theorem toMsr_eq (x : Word) :
    s.toMsr x = (BitField.mk 4 1).put ((BitField.mk 1 3).put x (s.dutyCycle.setWidth 64 |||
      ((BitField.mk 1 3).get x &&& ~~~ (BitField.mk 0 2).mask 64)))
      (s.dutyCycleEnable.setWidth 64) := by
  have hduty : ∀ x, replaceBits x 3 1 s.dutyCycle 1 = _ := fun x =>
    replaceBits_narrow (n := 1) (c := 2) rfl (by omega) (by omega) hs.dutyCycle_lt
  have henable : ∀ x, replaceBits x 1 4 s.dutyCycleEnable 4 =
      (x &&& ~~~ (BitField.mk 4 1).mask 64) ||| (s.dutyCycleEnable.setWidth 64 <<< 4) := fun x =>
    replaceBits_eq rfl (by omega) hs.enable_lt (by omega)
  rw [ClockMod.toMsr, hduty, henable]
  exact BitField.clear_or_put (f := ⟨4, 1⟩) _ (toNat_setWidth_lt hs.enable_lt)

/-- The enable is read back. -/
theorem enable_toMsr (x : Word) : intField (s.toMsr x) 4 4 = s.dutyCycleEnable := by
  rw [intField_eq_iff (Nat.le_refl 4) (by omega), hs.toMsr_eq]
  exact BitField.get_put_self (by decide) _ (toNat_setWidth_lt hs.enable_lt)

/-- The duty cycle is read back unless its highest bit is left over. -/
theorem dutyCycle_toMsr_iff (x : Word) :
    intField (s.toMsr x) 3 1 = s.dutyCycle ↔
      (x.getLsbD 3 = true → 4 ≤ s.dutyCycle.toInt) := by
  have hget : ((BitField.mk 1 3).get x).toNat < 2 ^ 3 := by
    rw [BitField.toNat_get (by decide)]
    exact Nat.mod_lt _ (Nat.two_pow_pos 3)
  have hlt : (s.dutyCycle.setWidth 64 |||
      ((BitField.mk 1 3).get x &&& ~~~ (BitField.mk 0 2).mask 64)).toNat < 2 ^ 3 := by
    rw [BitVec.toNat_or, BitVec.toNat_and]
    exact Nat.or_lt_two_pow (toNat_setWidth_lt hs.dutyCycle_lt) (Nat.and_le_left.trans_lt hget)
  have hdisj : (BitField.mk 1 3).Disjoint ⟨4, 1⟩ := Or.inl (Nat.le_refl 4)
  rw [intField_eq_iff (by omega) (by omega), hs.toMsr_eq]
  show (BitField.mk 1 3).get _ = _ ↔ _
  rw [BitField.get_put_disjoint hdisj, BitField.get_put_self (f := ⟨1, 3⟩) (by decide) x hlt,
    BitField.or_rest_eq_iff (by decide), ← hs.getLsbD_two]
  have hbit : (s.dutyCycle.setWidth 64).getLsbD 2 = s.dutyCycle.getLsbD 2 := by
    rw [BitVec.getLsbD_setWidth]
    rfl
  constructor
  · intro h hx
    exact hbit ▸ h 2 (Nat.le_refl 2) (by decide) hx
  · intro h b hb2 hb3 hx
    -- of three bits the mask leaves one
    obtain rfl : b = 2 := by omega
    exact hbit ▸ h hx

/-- The other bits stay. -/
theorem getLsbD_toMsr {i : Nat} (hi : i < 64) (hout : ¬ (1 ≤ i ∧ i ≤ 4)) (x : Word) :
    (s.toMsr x).getLsbD i = x.getLsbD i := by
  have hduty : ¬ (BitField.mk 1 3).Mem i := by
    show ¬ (1 ≤ i ∧ i < 4)
    omega
  have henable : ¬ (BitField.mk 4 1).Mem i := by
    show ¬ (4 ≤ i ∧ i < 5)
    omega
  rw [hs.toMsr_eq, BitField.getLsbD_put _ _ _ hi, if_neg henable, BitField.getLsbD_put _ _ _ hi,
    if_neg hduty]

end ClockMod.Valid

/-! ## Calls -/

section Calls

variable (cfg : CoreConfig) (g : Topo) (h : Host) (socket core : BitVec 32) (s : ClockMod)
  (msrVal : Word) (cpu : Nat)

/-- What `set_clock_mod` has to do: refuse exactly the invalid requests, with the
    register unchanged, and set what `get_clock_mod` then returns without changing
    the bits outside of 1 to 4. -/
def SetsClockMod : Prop :=
  let r := setClockMod cfg g h socket core s msrVal
  let old := h.regs cpu ia32ClockModulation
  let new := r.2.regs cpu ia32ClockModulation
  (r.1 = -1 ↔ ¬ s.Valid) ∧ (r.1 = -1 → new = old) ∧
    (r.1 ≠ -1 → r.1 = 0 ∧
      (∀ s', let got := (getClockMod cfg g r.2 socket core s').1
        got.dutyCycle = s.dutyCycle ∧ got.dutyCycleEnable = s.dutyCycleEnable) ∧
      ∀ i, i < 64 → ¬ (1 ≤ i ∧ i ≤ 4) → new.getLsbD i = old.getLsbD i)

variable {cfg g h socket core cpu}

theorem getClockMod_eq (hs : Serves cfg g h socket core 0 ia32ClockModulation cpu) :
    getClockMod cfg g h socket core s =
      (⟨h.regs cpu ia32ClockModulation, intField (h.regs cpu ia32ClockModulation) 4 4,
        intField (h.regs cpu ia32ClockModulation) 3 1⟩,
        h.log (.read cpu ia32ClockModulation)) := by
  rw [getClockMod, hs.read_eq]

variable {s}

theorem setClockMod_valid (hs : Serves cfg g h socket core 0 ia32ClockModulation cpu)
    (hvalid : s.Valid) :
    setClockMod cfg g h socket core s msrVal =
      (0, ((h.log (.read cpu ia32ClockModulation)).setReg cpu ia32ClockModulation
        (s.toMsr (h.regs cpu ia32ClockModulation))).log
          (.write cpu ia32ClockModulation (s.toMsr (h.regs cpu ia32ClockModulation)))) := by
  rw [setClockMod, hs.read_eq]
  show (if s.Accepted then _ else _) = _
  rw [if_pos (s.accepted_iff.mpr hvalid), (hs.log _).write_eq]

theorem setClockMod_invalid (hs : Serves cfg g h socket core 0 ia32ClockModulation cpu)
    (hinvalid : ¬ s.Valid) :
    setClockMod cfg g h socket core s msrVal = (-1, h.log (.read cpu ia32ClockModulation)) := by
  rw [setClockMod, hs.read_eq]
  show (if s.Accepted then _ else _) = _
  rw [if_neg fun h => hinvalid (s.accepted_iff.mp h)]

/-- **Clock modulation.**  `set_clock_mod` does what it has to exactly when the request
    is invalid, or the register's bit 3 is clear, or the duty cycle has this bit. -/
theorem setsClockMod_iff (hs : Serves cfg g h socket core 0 ia32ClockModulation cpu) :
    SetsClockMod cfg g h socket core s msrVal cpu ↔
      ¬ s.Valid ∨ (h.regs cpu ia32ClockModulation).getLsbD 3 = false ∨ 4 ≤ s.dutyCycle.toInt := by
  by_cases hvalid : s.Valid
  · have hduty := hvalid.dutyCycle_toMsr_iff (h.regs cpu ia32ClockModulation)
    have hget := fun s' => getClockMod_eq s' (((hs.log (.read cpu ia32ClockModulation)).setReg
      cpu ia32ClockModulation (s.toMsr (h.regs cpu ia32ClockModulation))).log
        (.write cpu ia32ClockModulation (s.toMsr (h.regs cpu ia32ClockModulation))))
    rw [SetsClockMod, setClockMod_valid msrVal hs hvalid]
    simp only [hget, Host.log_regs, Host.setReg_self, hvalid.enable_toMsr, and_true, hvalid,
      not_true_eq_false, iff_false, false_or]
    constructor
    · rintro ⟨-, -, hset⟩
      -- what is read back has bit 3 of the register among the duty cycle's
      have hread := hduty.mp ((hset (by decide)).2.1 s)
      rcases Bool.eq_false_or_eq_true ((h.regs cpu ia32ClockModulation).getLsbD 3) with h3 | h3
      · exact Or.inr (hread h3)
      · exact Or.inl h3
    · intro hcond
      refine ⟨by decide, fun hrc => absurd hrc (by decide), fun _ => ⟨trivial, fun _ => ?_, ?_⟩⟩
      · apply hduty.mpr
        intro h3
        rcases hcond with h0 | h4
        · rw [h0] at h3
          contradiction
        · exact h4
      · intro i hi hout
        exact hvalid.getLsbD_toMsr hi hout _
  · -- refused before anything is written
    refine iff_of_true ?_ (Or.inl hvalid)
    rw [SetsClockMod, setClockMod_invalid msrVal hs hvalid]
    refine ⟨iff_of_true rfl hvalid, fun _ => ?_, fun hrc => absurd rfl hrc⟩
    rw [Host.log_regs]

end Calls

/-- Two sockets of four cores: a duty cycle of 5 is set on core 2 of socket 1 while
    the register holds 0x1E. -/
theorem setsClockMod_five :
    SetsClockMod ⟨4, 1, 2⟩ ⟨[], false⟩ ((Host.opened 8).setReg 6 0x19A 0x1E) 1 2
      { raw := 0, dutyCycleEnable := 0, dutyCycle := 5 } 0 6 := by
  have hserves : Serves ⟨4, 1, 2⟩ ⟨[], false⟩ (Host.opened 8) 1 2 0 ia32ClockModulation 6 :=
    opened_serves ⟨[], false⟩ (by decide) (by decide) ia32ClockModulation
  exact (setsClockMod_iff 0 (hserves.setReg 6 0x19A 0x1E)).mpr (Or.inr (Or.inr (by decide)))

/-- A duty cycle of 1 set over one of 4 is read back as 5. -/
theorem clockMod_one_over_four :
    ¬ SetsClockMod ⟨4, 1, 2⟩ ⟨[], false⟩ ((Host.opened 8).setReg 6 0x19A 0x8) 1 2
      { raw := 0, dutyCycleEnable := 1, dutyCycle := 1 } 0 6 := by
  rintro ⟨-, -, hset⟩
  obtain ⟨-, hget, -⟩ := hset (by decide)
  exact absurd (hget ⟨0, 0, 0⟩).1 (by decide)

end Libmsr
