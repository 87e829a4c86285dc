/-
  Libmsr.Misc.MiscEnable

  The feature switches of IA32_MISC_ENABLE (src/msr_misc.c): `get_misc_enable` and
  `set_misc_enable`, and when the second sets what the first returns.

  The fields are single bits.  Of those that can be written, bit 18 is decoded and
  never encoded.
-/
import Libmsr.Core.CoordAccess
import Libmsr.Counters.CounterFields
import Libmsr.Thermal.ThermalFields

namespace Libmsr

open BitFields

def ia32MiscEnable : Nat := 0x1A0

/-- `struct misc_enable`. -/
structure MiscEnable where
  raw : Word
  fastStringEnable : BitVec 8
  autoTCCEnable : BitVec 8
  performanceMonitoring : BitVec 8
  branchTraceStorageUnavail : BitVec 8
  preciseEventBasedSamplingUnavail : BitVec 8
  TM2Enable : BitVec 8
  enhancedIntelSpeedStepTechEnable : BitVec 8
  enableMonitorFsm : BitVec 8
  limitCPUIDMaxval : BitVec 8
  xTPRMessageDisable : BitVec 8
  XDBitDisable : BitVec 8
  turboModeDisable : BitVec 8
  deriving Repr, DecidableEq

/-- `MASK_VAL`, stored in a `__u8`. -/
def byteField (x : Word) (m n : Nat) : BitVec 8 := (maskVal x m n).setWidth 8

/-- The assignments of `get_misc_enable`. -/
def MiscEnable.ofMsr (raw : Word) : MiscEnable where
  raw := raw
  fastStringEnable := byteField raw 0 0
  autoTCCEnable := byteField raw 3 3
  performanceMonitoring := byteField raw 7 7
  branchTraceStorageUnavail := byteField raw 11 11
  preciseEventBasedSamplingUnavail := byteField raw 12 12
  TM2Enable := byteField raw 13 13
  enhancedIntelSpeedStepTechEnable := byteField raw 16 16
  enableMonitorFsm := byteField raw 18 18
  limitCPUIDMaxval := byteField raw 22 22
  xTPRMessageDisable := byteField raw 23 23
  XDBitDisable := byteField raw 34 34
  turboModeDisable := byteField raw 38 38

/-- The assignments of `set_misc_enable`.  A `__u8` is promoted to `int`, the last two
    are cast to `uint64_t`. -/
def MiscEnable.toMsr (s : MiscEnable) (x : Word) : Word :=
  let x := replaceBits x 1 0 (s.fastStringEnable.setWidth 32) 0
  let x := replaceBits x 1 3 (s.autoTCCEnable.setWidth 32) 3
  let x := replaceBits x 1 13 (s.TM2Enable.setWidth 32) 13
  let x := replaceBits x 1 16 (s.enhancedIntelSpeedStepTechEnable.setWidth 32) 16
  let x := replaceBits x 1 22 (s.limitCPUIDMaxval.setWidth 32) 22
  let x := replaceBits x 1 23 (s.xTPRMessageDisable.setWidth 32) 23
  let x := replaceField x 1 34 (s.XDBitDisable.setWidth 64)
  replaceField x 1 38 (s.turboModeDisable.setWidth 64)

/-- `get_misc_enable`. -/
def getMiscEnable (cfg : CoreConfig) (g : Topo) (h : Host) (socket : BitVec 32)
    (s : MiscEnable) : MiscEnable × Host :=
  -- the return codes of the check and of the read are dropped
  let _ := socketsAssert cfg socket
  let (_, raw, h) := readMsrByCoord cfg g h socket 0 0 ia32MiscEnable s.raw
  (.ofMsr raw, h)

/-- `set_misc_enable`.  `msrVal` is what the local variable holds before the read. -/
def setMiscEnable (cfg : CoreConfig) (g : Topo) (h : Host) (socket : BitVec 32)
    (s : MiscEnable) (msrVal : Word) : Host :=
  let _ := socketsAssert cfg socket
  let (_, msrVal, h) := readMsrByCoord cfg g h socket 0 0 ia32MiscEnable msrVal
  (writeMsrByCoord cfg g h socket 0 0 ia32MiscEnable (s.toMsr msrVal)).2

/-! ## Fields -/

/-- The fields documented as R/W: their bits, and their values. -/
def MiscEnable.writable (s : MiscEnable) : List (Nat × BitVec 8) :=
  [(0, s.fastStringEnable), (3, s.autoTCCEnable), (13, s.TM2Enable),
    (16, s.enhancedIntelSpeedStepTechEnable), (18, s.enableMonitorFsm),
    (22, s.limitCPUIDMaxval), (23, s.xTPRMessageDisable), (34, s.XDBitDisable),
    (38, s.turboModeDisable)]

/-- The fields that `set_misc_enable` writes. -/
def MiscEnable.written (s : MiscEnable) : List (Nat × BitVec 8) :=
  s.writable.filter fun fv => fv.1 ≠ 18

/-- Every value is 0 or 1. -/
def MiscEnable.Binary (s : MiscEnable) : Prop := ∀ fv ∈ s.writable, fv.2.toNat < 2

instance MiscEnable.decidableBinary (s : MiscEnable) : Decidable s.Binary :=
  inferInstanceAs (Decidable (∀ fv ∈ s.writable, fv.2.toNat < 2))

/-- A one-bit field of the register. -/
def bitField (fv : Nat × BitVec 8) : BitField × Word := (⟨fv.1, 1⟩, fv.2.setWidth 64)

theorem setWidth_byte_lt {v : BitVec 8} (hv : v.toNat < 2) {w : Nat} (hw : 8 ≤ w) :
    (v.setWidth w).toNat < 2 := by
  have hle : (2 : Nat) ^ 8 ≤ 2 ^ w := Nat.pow_le_pow_right Nat.two_pos hw
  have hvlt := v.isLt
  rw [BitVec.toNat_setWidth, Nat.mod_eq_of_lt (by omega)]
  exact hv

/-- A line for a bit below the sign of an `int`. -/
theorem replaceBits_byte {v : BitVec 8} (hv : v.toNat < 2) {n : Nat} (hn : n < 31) (x : Word) :
    replaceBits x 1 n (v.setWidth 32) n = (BitField.mk n 1).put x (v.setWidth 64) := by
  have hv32 : (v.setWidth 32).toNat < 2 ^ 1 := setWidth_byte_lt hv (by decide)
  have hwide : (v.setWidth 32).setWidth 64 = v.setWidth 64 := by
    have hvlt := v.isLt
    apply BitVec.eq_of_toNat_eq
    rw [BitVec.toNat_setWidth, BitVec.toNat_setWidth, BitVec.toNat_setWidth,
      Nat.mod_eq_of_lt (by omega : v.toNat < 2 ^ 32)]
  have hmask : (1 : BitVec 32) = (BitVec.allOnes 1).setWidth 32 := rfl
  rw [replaceBits_eq hmask (by omega) hv32 (by omega), hwide]
  exact BitField.clear_or_put (f := ⟨n, 1⟩) x (setWidth_byte_lt hv (by decide))

theorem byteField_eq_iff {x : Word} {v : BitVec 8} {n : Nat} :
    byteField x n n = v ↔ (BitField.mk n 1).get x = v.setWidth 64 := by
  rw [byteField, maskVal_setWidth_eq_iff (Nat.le_refl n) (by omega) (by decide),
    Nat.add_sub_cancel_left]

/-- A byte that holds a bit. -/
theorem byteField_bit (x : Word) {n : Nat} (hn : n < 64) :
    byteField x n n = BitVec.ofNat 8 (x.getLsbD n).toNat := by
  apply BitVec.eq_of_toNat_eq
  rw [byteField, BitVec.toNat_setWidth, maskVal_toNat x (Nat.le_refl n) hn, Nat.sub_self,
    BitVec.toNat_ofNat, ← BitVec.testBit_toNat, Nat.testBit_eq_decide_div_mod_eq]
  rcases Nat.mod_two_eq_zero_or_one (x.toNat / 2 ^ n) with h | h <;> simp [h]

theorem MiscEnable.pairwise_written (s : MiscEnable) :
    (s.written.map bitField).Pairwise fun a b => a.1.Disjoint b.1 := by
  simp [MiscEnable.written, MiscEnable.writable, bitField, BitField.Disjoint]

theorem MiscEnable.ofMsr_writable_iff (s : MiscEnable) (x : Word) :
    (MiscEnable.ofMsr x).writable = s.writable ↔
      ∀ fv ∈ s.writable, byteField x fv.1 fv.1 = fv.2 := by
  simp [MiscEnable.writable, MiscEnable.ofMsr]

namespace MiscEnable.Binary

variable {s : MiscEnable} (hs : s.Binary)
include hs

theorem mem_written {fv : Nat × BitVec 8} (hfv : fv ∈ s.written) : fv.2.toNat < 2 :=
  hs fv (List.mem_of_mem_filter hfv)

theorem toMsr_eq (x : Word) : s.toMsr x = putAll x (s.written.map bitField) := by
  obtain ⟨h0, h3, h13, h16, -, h22, h23, h34, h38, -⟩ :
      s.fastStringEnable.toNat < 2 ∧ s.autoTCCEnable.toNat < 2 ∧ s.TM2Enable.toNat < 2 ∧
        s.enhancedIntelSpeedStepTechEnable.toNat < 2 ∧ s.enableMonitorFsm.toNat < 2 ∧
        s.limitCPUIDMaxval.toNat < 2 ∧ s.xTPRMessageDisable.toNat < 2 ∧
        s.XDBitDisable.toNat < 2 ∧ s.turboModeDisable.toNat < 2 ∧ True := by
    simpa [MiscEnable.Binary, MiscEnable.writable] using hs
  rw [MiscEnable.toMsr, replaceBits_byte h0 (by decide), replaceBits_byte h3 (by decide),
    replaceBits_byte h13 (by decide), replaceBits_byte h16 (by decide),
    replaceBits_byte h22 (by decide), replaceBits_byte h23 (by decide),
    replaceField_one (setWidth_byte_lt h34 (by decide)),
    replaceField_one (setWidth_byte_lt h38 (by decide))]
  rfl

/-- A bit that no line names stays. -/
theorem getLsbD_toMsr {i : Nat} (hi : i < 64) (hout : ∀ fv ∈ s.written, fv.1 ≠ i) (x : Word) :
    (s.toMsr x).getLsbD i = x.getLsbD i := by
  rw [hs.toMsr_eq]
  apply getLsbD_putAll hi
  intro a ha
  obtain ⟨fv, hfv, rfl⟩ := List.mem_map.mp ha
  rintro ⟨hle, hlt⟩
  exact hout fv hfv (Nat.le_antisymm hle (Nat.le_of_lt_succ hlt))

/-- A field that is written is read back. -/
theorem byteField_toMsr {fv : Nat × BitVec 8} (hfv : fv ∈ s.written) (hn : fv.1 < 64) (x : Word) :
    byteField (s.toMsr x) fv.1 fv.1 = fv.2 := by
  rw [byteField_eq_iff, hs.toMsr_eq]
  exact get_putAll s.pairwise_written (List.mem_map_of_mem hfv) hn
    (setWidth_byte_lt (hs.mem_written hfv) (by decide)) x

/-- What is read back is what was asked for if bit 18 was so before. -/
theorem ofMsr_toMsr_iff (x : Word) :
    (MiscEnable.ofMsr (s.toMsr x)).writable = s.writable ↔
      s.enableMonitorFsm = BitVec.ofNat 8 (x.getLsbD 18).toNat := by
  have h18 : byteField (s.toMsr x) 18 18 = BitVec.ofNat 8 (x.getLsbD 18).toNat := by
    rw [byteField_bit _ (by decide), hs.getLsbD_toMsr (by decide)]
    intro fv hfv
    exact of_decide_eq_true (List.mem_filter.mp hfv).2
  rw [MiscEnable.ofMsr_writable_iff]
  constructor
  · intro h
    have hread := h (18, s.enableMonitorFsm) (by simp [MiscEnable.writable])
    exact hread.symm.trans h18
  · intro h fv hfv
    by_cases hbit : fv.1 = 18
    · -- the only field at bit 18
      have hval : fv.2 = s.enableMonitorFsm := by
        simp only [MiscEnable.writable, List.mem_cons, List.not_mem_nil, or_false] at hfv
        rcases hfv with rfl | rfl | rfl | rfl | rfl | rfl | rfl | rfl | rfl <;> simp_all
      rw [hbit, hval, h18, h]
    · have hlt : fv.1 < 64 := by
        have hall : ∀ fv ∈ s.writable, fv.1 < 64 := by simp [MiscEnable.writable]
        exact hall fv hfv
      exact hs.byteField_toMsr (List.mem_filter.mpr ⟨hfv, decide_eq_true hbit⟩) hlt x

end MiscEnable.Binary

/-! ## Calls -/

section Calls

variable (cfg : CoreConfig) (g : Topo) (h : Host) (socket : BitVec 32) (s : MiscEnable)
  (msrVal : Word) (cpu : Nat)

/-- What `set_misc_enable` has to do: `get_misc_enable` then returns the values asked
    for in all fields documented as R/W, and every other bit stays. -/
def SetsMiscEnable : Prop :=
  let h' := setMiscEnable cfg g h socket s msrVal
  (∀ s', (getMiscEnable cfg g h' socket s').1.writable = s.writable) ∧
    ∀ i, i < 64 → (∀ fv ∈ s.writable, fv.1 ≠ i) →
      (h'.regs cpu ia32MiscEnable).getLsbD i = (h.regs cpu ia32MiscEnable).getLsbD i

variable {cfg g h socket cpu}

theorem getMiscEnable_eq (hserves : Serves cfg g h socket 0 0 ia32MiscEnable cpu) :
    (getMiscEnable cfg g h socket s).1 = .ofMsr (h.regs cpu ia32MiscEnable) := by
  rw [getMiscEnable, hserves.read_eq]

theorem setMiscEnable_eq (hserves : Serves cfg g h socket 0 0 ia32MiscEnable cpu) :
    setMiscEnable cfg g h socket s msrVal =
      ((h.log (.read cpu ia32MiscEnable)).setReg cpu ia32MiscEnable
        (s.toMsr (h.regs cpu ia32MiscEnable))).log
          (.write cpu ia32MiscEnable (s.toMsr (h.regs cpu ia32MiscEnable))) := by
  rw [setMiscEnable, hserves.read_eq]
  exact congrArg Prod.snd ((hserves.log _).write_eq _)

variable {s}

/-- **Feature switches.**  `set_misc_enable` does what it has to exactly when the value
    asked for bit 18 is the one the register has. -/
theorem setsMiscEnable_iff (hserves : Serves cfg g h socket 0 0 ia32MiscEnable cpu)
    (hs : s.Binary) :
    SetsMiscEnable cfg g h socket s msrVal cpu ↔
      s.enableMonitorFsm = BitVec.ofNat 8 ((h.regs cpu ia32MiscEnable).getLsbD 18).toNat := by
  have hget := fun s' => getMiscEnable_eq s' (((hserves.log (.read cpu ia32MiscEnable)).setReg
    cpu ia32MiscEnable (s.toMsr (h.regs cpu ia32MiscEnable))).log
      (.write cpu ia32MiscEnable (s.toMsr (h.regs cpu ia32MiscEnable))))
  rw [SetsMiscEnable, setMiscEnable_eq s msrVal hserves]
  simp only [hget, Host.log_regs, Host.setReg_self, hs.ofMsr_toMsr_iff]
  constructor
  · rintro ⟨hread, -⟩
    exact hread s
  · intro h18
    refine ⟨fun _ => h18, fun i hi hout => ?_⟩
    exact hs.getLsbD_toMsr hi (fun fv hfv => hout fv (List.mem_of_mem_filter hfv)) _

end Calls

/-- All switches on, over a register that holds bit 18. -/
theorem setsMiscEnable_on :
    SetsMiscEnable ⟨4, 1, 2⟩ ⟨[], false⟩ ((Host.opened 8).setReg 4 0x1A0 0x40000) 1
      ⟨0, 1, 1, 0, 0, 0, 1, 1, 1, 1, 1, 1, 1⟩ 0 4 := by
  have hserves : Serves ⟨4, 1, 2⟩ ⟨[], false⟩ (Host.opened 8) 1 0 0 ia32MiscEnable 4 :=
    opened_serves ⟨[], false⟩ (by decide) (by decide) ia32MiscEnable
  exact (setsMiscEnable_iff 0 (hserves.setReg 4 0x1A0 0x40000) (by decide)).mpr (by decide)

/-- MONITOR/MWAIT cannot be switched off. -/
theorem monitor_stays_on :
    (⟨0, 1, 1, 0, 0, 0, 1, 1, 0, 0, 0, 0, 0⟩ : MiscEnable).Binary ∧
      ¬ SetsMiscEnable ⟨4, 1, 2⟩ ⟨[], false⟩ ((Host.opened 8).setReg 4 0x1A0 0x40000) 1
        ⟨0, 1, 1, 0, 0, 0, 1, 1, 0, 0, 0, 0, 0⟩ 0 4 := by
  refine ⟨by decide, ?_⟩
  rintro ⟨hget, -⟩
  exact absurd (hget (.ofMsr 0)) (by decide)

end Libmsr
