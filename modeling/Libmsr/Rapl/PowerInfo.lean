/-
  Libmsr.Rapl.PowerInfo

  What the hardware says of its power: `get_rapl_power_info` (src/msr_rapl.c).
  The package and the DRAM part of `struct rapl_power_info` have the same fields,
  and are read in the same way.
-/
import Libmsr.Rapl.LimitsSpec

namespace Libmsr

def msrPkgPowerInfo : Nat := 0x614
def msrDramPowerInfo : Nat := 0x61C

def pkgPowerInfo : Word := 0x10
def dramPowerInfo : Word := 0x100

/-- One domain's part of `struct rapl_power_info`. -/
structure DomainInfo (K : Type) where
  msr : Word
  maxWindow : K
  maxPower : K
  minPower : K
  thermPower : K

/-- `struct rapl_power_info`. -/
structure RaplPowerInfo (K : Type) where
  pkg : DomainInfo K
  dram : DomainInfo K

section PowerInfo

variable {K : Type} [Field K] [LinearOrder K] [IsStrictOrderedRing K] [FloorRing K]
  (R : RaplSetup K)

/-- A block of `get_rapl_power_info`.  The return code of the read is dropped. -/
def readDomainInfo (h : Host) (socket : BitVec 32) (msr : Nat) (info : DomainInfo K) :
    Option (DomainInfo K × Host) := do
  let (_, raw, h) := readMsrByCoord R.cfg R.topo h socket 0 0 msr info.msr
  let (_, _, maxWindow) ← translate R.model R.ru socket.toNat (maskVal raw 54 48) info.maxWindow
    .bitsToSecondsStd
  let (_, _, maxPower) ← translate R.model R.ru socket.toNat (maskVal raw 46 32) info.maxPower
    .bitsToWatts
  let (_, _, minPower) ← translate R.model R.ru socket.toNat (maskVal raw 30 16) info.minPower
    .bitsToWatts
  let (_, _, thermPower) ← translate R.model R.ru socket.toNat (maskVal raw 14 0) info.thermPower
    .bitsToWatts
  some (⟨raw, maxWindow, maxPower, minPower, thermPower⟩, h)

/-- `get_rapl_power_info`, once its flags are there. -/
def getRaplPowerInfo (h : Host) (socket : BitVec 32) (info : RaplPowerInfo K) :
    Option (RaplPowerInfo K × Host) := do
  let (pkg, h) ←
    if announces R.flags pkgPowerInfo then readDomainInfo R h socket msrPkgPowerInfo info.pkg
    else some (info.pkg, h)
  let (dram, h) ←
    if announces R.flags dramPowerInfo then readDomainInfo R h socket msrDramPowerInfo info.dram
    else some (info.dram, h)
  some (⟨pkg, dram⟩, h)

/-! ## What is read -/

/-- The values a register's fields stand for. -/
def domainInfo (u : RaplUnits K) (val : Word) : DomainInfo K where
  msr := val
  maxWindow := timeWindow u (maskVal val 54 48)
  maxPower := ((maskVal val 46 32).toNat : K) * u.watts
  minPower := ((maskVal val 30 16).toNat : K) * u.watts
  thermPower := ((maskVal val 14 0).toNat : K) * u.watts

variable {R} {h : Host} {socket : BitVec 32} {raw : Word} (hinit : Initialised R h socket raw)
include hinit

omit [IsStrictOrderedRing K] in
/-- A register that can be read. -/
theorem readDomainInfo_spec {msr : Nat} (hok : h.fails (socketCpu R socket) msr = false)
    (info : DomainInfo K) :
    readDomainInfo R h socket msr info =
      some (domainInfo (.ofMsr raw) (h.regs (socketCpu R socket) msr),
        h.log (.read (socketCpu R socket) msr)) := by
  have hread := hinit.read msr info.msr
  rw [hok, if_neg Bool.false_ne_true] at hread
  simp only [readDomainInfo, hread, translate, hinit.units, Option.bind_eq_bind, Option.bind_some,
    domainInfo, timeWindow, Nat.cast_ofNat]

omit [IsStrictOrderedRing K] in
/-- Both registers that can be read. -/
theorem getRaplPowerInfo_spec (hpkg : announces R.flags pkgPowerInfo = true)
    (hdram : announces R.flags dramPowerInfo = true)
    (hpkgOk : h.fails (socketCpu R socket) msrPkgPowerInfo = false)
    (hdramOk : h.fails (socketCpu R socket) msrDramPowerInfo = false) (info : RaplPowerInfo K) :
    ∃ h', getRaplPowerInfo R h socket info = some
        (⟨domainInfo (.ofMsr raw) (h.regs (socketCpu R socket) msrPkgPowerInfo),
          domainInfo (.ofMsr raw) (h.regs (socketCpu R socket) msrDramPowerInfo)⟩, h') ∧
      h.SameDevices h' ∧ h'.regs = h.regs ∧ h'.writes = h.writes := by
  have hlog := (Host.SameDevices.refl h).log (.read (socketCpu R socket) msrPkgPowerInfo)
  have hread := readDomainInfo_spec hinit hpkgOk info.pkg
  have hread' := readDomainInfo_spec (hinit.of_sameDevices hlog) hdramOk info.dram
  refine ⟨_, ?_, hlog.log (.read (socketCpu R socket) msrDramPowerInfo), rfl, ?_⟩
  · simp only [getRaplPowerInfo, hpkg, hdram, if_true, hread, hread', Option.bind_eq_bind,
      Option.bind_some]
    rfl
  · rw [Host.writes_log_read, Host.writes_log_read]

end PowerInfo

end Libmsr
