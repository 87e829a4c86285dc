/-
  Libmsr.Misc.Residency

  The C-state residencies (src/msr_misc.c): `pkg_cres_storage` and
  `core_cres_storage` with the functions they call, `dump_pkg_cres` and
  `dump_core_cres`.

  The fields of the structs are arrays by number, the lowest C-state first.  Both
  dumps print what the registers hold.
-/
import Libmsr.Core.TableStorage

namespace Libmsr

def msrPkgC2Residency : Nat := 0x60D
def msrPkgC3Residency : Nat := 0x3F8
def msrPkgC6Residency : Nat := 0x3F9
def msrPkgC7Residency : Nat := 0x3FA

def msrCoreC3Residency : Nat := 0x3FC
def msrCoreC6Residency : Nat := 0x3FD
def msrCoreC7Residency : Nat := 0x3FE

/-- `PKG_CRES`, a batch number. -/
def pkgCresBatch : Nat := 14

/-- `CORE_CRES`, a batch number. -/
def coreCresBatch : Nat := 15

/-- The register of `pkg_c2`, `pkg_c3`, `pkg_c6` or `pkg_c7`. -/
def pkgCresMsr : Nat → Nat
  | 0 => msrPkgC2Residency
  | 1 => msrPkgC3Residency
  | 2 => msrPkgC6Residency
  | _ => msrPkgC7Residency

/-- The register of `core_c3`, `core_c6` or `core_c7`. -/
def coreCresMsr : Nat → Nat
  | 0 => msrCoreC3Residency
  | 1 => msrCoreC6Residency
  | _ => msrCoreC7Residency

/-- `num_cores`. -/
def numCores (cfg : CoreConfig) : Nat := cfg.sockets * cfg.coresPerSocket

/-! ## The functions -/

/-- `pkg_cres_storage`. -/
def pkgCresStorage (P : Platform) (w : BatchWorld) (s : TableStatics) :
    Option (BatchWorld × TableStatics) :=
  tableStorage (loadSocketBatch P.cfg P.topo) pkgCresBatch 4 P.cfg.sockets pkgCresMsr w s

/-- `core_cres_storage`. -/
def coreCresStorage (P : Platform) (w : BatchWorld) (s : TableStatics) :
    Option (BatchWorld × TableStatics) :=
  tableStorage (loadCoreBatch P.cfg P.topo) coreCresBatch 3 (numCores P.cfg) coreCresMsr w s

/-- `dump_pkg_cres`: the numbers of each line. -/
def dumpPkgCres (P : Platform) (w : BatchWorld) (s : TableStatics) :
    Option (List (List Word) × BatchWorld × TableStatics) :=
  dumpTable P (pkgCresStorage P) pkgCresBatch 4 P.cfg.sockets w s

/-- `dump_core_cres`: the numbers of each line. -/
def dumpCoreCres (P : Platform) (w : BatchWorld) (s : TableStatics) :
    Option (List (List Word) × BatchWorld × TableStatics) :=
  dumpTable P (coreCresStorage P) coreCresBatch 3 (numCores P.cfg) w s

/-! ## What they print -/

/-- Four registers of every socket, on the CPU `pick` of it. -/
def pkgCresLayout (cfg : CoreConfig) (pick : Nat → Nat) : TableLayout :=
  plainLayout 4 cfg.sockets pkgCresMsr pick

/-- Three registers of every core, on the CPU `pick` of it. -/
def coreCresLayout (cfg : CoreConfig) (pick : Nat → Nat) : TableLayout :=
  plainLayout 3 (numCores cfg) coreCresMsr pick

/-- The lines of the packages. -/
def pkgCresLines (cfg : CoreConfig) (pick : Nat → Nat) (regs : RegFile) : List (List Word) :=
  (List.range cfg.sockets).map fun socket =>
    [regs (pick socket) msrPkgC2Residency, regs (pick socket) msrPkgC3Residency,
      regs (pick socket) msrPkgC6Residency, regs (pick socket) msrPkgC7Residency]

/-- The lines of the cores. -/
def coreCresLines (cfg : CoreConfig) (pick : Nat → Nat) (regs : RegFile) : List (List Word) :=
  (List.range (numCores cfg)).map fun core =>
    [regs (pick core) msrCoreC3Residency, regs (pick core) msrCoreC6Residency,
      regs (pick core) msrCoreC7Residency]

theorem pkgCresMsr_lt (k : Nat) : pkgCresMsr k < 2 ^ 32 := by
  have h : ∀ m ∈ [msrPkgC2Residency, msrPkgC3Residency, msrPkgC6Residency, msrPkgC7Residency],
      m < 2 ^ 32 := by decide
  refine h _ ?_
  rcases k with _ | _ | _ | k <;> simp [pkgCresMsr]

theorem coreCresMsr_lt (k : Nat) : coreCresMsr k < 2 ^ 32 := by
  have h : ∀ m ∈ [msrCoreC3Residency, msrCoreC6Residency, msrCoreC7Residency], m < 2 ^ 32 := by
    decide
  refine h _ ?_
  rcases k with _ | _ | k <;> simp [coreCresMsr]

section Dumps

variable {P : Platform} {w : BatchWorld} {s : TableStatics} {pick : Nat → Nat}

/-- `dump_pkg_cres` prints the registers of each socket's CPU. -/
theorem dumpPkgCres_spec
    (hpick : Picks P.cfg P.topo HwThread.socketId P.cfg.sockets pick)
    (hsmall : 4 * P.cfg.sockets < 2 ^ 31)
    (h : TableReady (pkgCresLayout P.cfg pick) pkgCresBatch w s)
    (hreads : TableReads P (pkgCresLayout P.cfg pick) w.host) :
    ∃ w' s', dumpPkgCres P w s = some (pkgCresLines P.cfg pick w.host.regs, w', s') ∧
      TableReady (pkgCresLayout P.cfg pick) pkgCresBatch w' s' ∧ w'.host.regs = w.host.regs ∧
      WorksOn pkgCresBatch w w' := by
  obtain ⟨w', s', hdump, hrest⟩ := h.dump (loadSocketBatch_loadsRow hpick.first) hsmall hreads
  have hlines : tableLines 4 P.cfg.sockets (tableRegs w.host.regs pkgCresMsr pick) =
      pkgCresLines P.cfg pick w.host.regs :=
    tableLines_eq pkgCresMsr_lt fun t ht => hpick.fit.fits t ht
  rw [hlines] at hdump
  exact ⟨w', s', hdump, hrest⟩

/-- `dump_core_cres` prints the registers of each core's CPU. -/
theorem dumpCoreCres_spec
    (hpick : Picks P.cfg P.topo HwThread.coreId (numCores P.cfg) pick)
    (hsmall : 3 * numCores P.cfg < 2 ^ 31)
    (h : TableReady (coreCresLayout P.cfg pick) coreCresBatch w s)
    (hreads : TableReads P (coreCresLayout P.cfg pick) w.host) :
    ∃ w' s', dumpCoreCres P w s = some (coreCresLines P.cfg pick w.host.regs, w', s') ∧
      TableReady (coreCresLayout P.cfg pick) coreCresBatch w' s' ∧ w'.host.regs = w.host.regs ∧
      WorksOn coreCresBatch w w' := by
  obtain ⟨w', s', hdump, hrest⟩ := h.dump (loadCoreBatch_loadsRow hpick.first) hsmall hreads
  have hlines : tableLines 3 (numCores P.cfg) (tableRegs w.host.regs coreCresMsr pick) =
      coreCresLines P.cfg pick w.host.regs :=
    tableLines_eq coreCresMsr_lt fun t ht => hpick.fit.fits t ht
  rw [hlines] at hdump
  exact ⟨w', s', hdump, hrest⟩

end Dumps

end Libmsr
