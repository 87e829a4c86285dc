/-
  Libmsr.Counters.Pmc

  The general-purpose performance counters (src/msr_counters.c): the functions that
  load the event-select registers and the counters, `set_pmc_ctrl_flags`,
  `set_all_pmc_ctrl`, `enable_pmc`, `clear_all_pmc` and `clear_pmc`.

  The fields `perf_evtsel0` to `perf_evtsel7` and `pmc0` to `pmc7` are a function of
  the counter's number.  The static pointer and the static `avail` of a function are
  set by its first call and never change, so each call sets them here.
-/
import Libmsr.Core.RegisterTables
import Libmsr.Rapl.Units

namespace Libmsr

def ia32Perfevtsel0 : Nat := 0x186
def ia32Pmc0 : Nat := 0xC1

/-- `COUNTERS_DATA`, a batch number. -/
def countersDataBatch : Nat := 4

/-- `COUNTERS_CTRL`, a batch number. -/
def countersCtrlBatch : Nat := 5

/-- `cpuid_num_pmc`: bits 15:8 of the `rax` that CPUID leaf 0xA gives. -/
def cpuidNumPmc (rax : Word) : Nat := (maskVal rax 15 8).toNat

/-- `switch (n)` whose cases 8 to 1 fall through, case `k + 1` being about counter `k`:
    the counters in the order they are reached.  There is no default. -/
def fallThrough (n : Int) : List Nat :=
  if 1 ≤ n ∧ n ≤ 8 then (List.range n.toNat).map fun r => n.toNat - 1 - r else []

/-! ## Storage -/

/-- The batches, the host, and the statics of `perfevtsel_storage` and
    `pmc_storage`. -/
structure PmcState where
  world : BatchWorld
  evt : RegArrays
  evtInit : Bool
  pmc : RegArrays
  pmcInit : Bool

/-- Before any call. -/
def pmcStart (host : Host) : PmcState :=
  ⟨⟨.init, host⟩, fun _ => none, false, fun _ => none, false⟩

/-- What `init_perfevtsel` and `init_pmc` do with their registers and batch: return
    code, arrays and state. -/
def initCounters (P : Platform) (rax : Word) (msr : Nat → Nat) (batchnum : Nat)
    (s : RegArrays × BatchStorage) : Option (Int × RegArrays × BatchStorage) :=
  let numDevs := P.cfg.numDevs
  let avail := cpuidNumPmc rax
  if avail < 1 then some (-1, s)
  else do
    let arrays := (fallThrough avail).foldl (callocArray numDevs) s.1
    let (_, st) ← allocateBatch s.2 batchnum (avail * numDevs)
    let s ← (fallThrough avail).foldlM (loadArray (loadThreadBatch P.cfg) msr batchnum)
      (arrays, st)
    some (0, s)

/-- `init_perfevtsel`. -/
def initPerfevtsel (P : Platform) (rax : Word) (s : RegArrays × BatchStorage) :
    Option (Int × RegArrays × BatchStorage) :=
  initCounters P rax (ia32Perfevtsel0 + ·) countersCtrlBatch s

/-- `init_pmc`. -/
def initPmc (P : Platform) (rax : Word) (s : RegArrays × BatchStorage) :
    Option (Int × RegArrays × BatchStorage) :=
  initCounters P rax (ia32Pmc0 + ·) countersDataBatch s

/-- `perfevtsel_storage`. -/
def perfevtselStorage (P : Platform) (rax : Word) (s : PmcState) : Option PmcState :=
  if s.evtInit then some s
  else do
    let (_, evt, st) ← initPerfevtsel P rax (s.evt, s.world.st)
    some { s with world := { s.world with st := st }, evt := evt, evtInit := true }

/-- `pmc_storage`. -/
def pmcStorage (P : Platform) (rax : Word) (s : PmcState) : Option PmcState :=
  if s.pmcInit then some s
  else do
    let (_, pmc, st) ← initPmc P rax (s.pmc, s.world.st)
    some { s with world := { s.world with st := st }, pmc := pmc, pmcInit := true }

/-! ## Event selection -/

/-- `0UL | (cmask << 24) | (flags << 16) | (umask << 8) | eventsel`. -/
def pmcCtrlWord (cmask flags umask eventsel : Word) : Word :=
  (0 : Word) ||| (cmask <<< 24) ||| (flags <<< 16) ||| (umask <<< 8) ||| eventsel

/-- `set_pmc_ctrl_flags`. -/
def setPmcCtrlFlags (P : Platform) (rax : Word) (cmask flags umask eventsel : Word)
    (pmcnum : Int) (s : PmcState) (thread : Nat) : Option PmcState := do
  let s ← perfevtselStorage P rax s
  if 1 ≤ pmcnum ∧ pmcnum ≤ 8 then do
    -- nothing checks that there are `pmcnum` counters
    let w ← s.world.storeAt countersCtrlBatch s.evt (pmcCtrlWord cmask flags umask eventsel)
      (pmcnum.toNat - 1) thread
    some { s with world := w }
  else some s

/-- `set_all_pmc_ctrl`. -/
def setAllPmcCtrl (P : Platform) (rax : Word) (cmask flags umask eventsel : Word)
    (pmcnum : Int) (s : PmcState) : Option PmcState :=
  (List.range P.cfg.numDevs).foldlM (setPmcCtrlFlags P rax cmask flags umask eventsel pmcnum) s

/-! ## Clearing -/

/-- `*p->pmc<k>[i] = 0` for the counters that a `switch (n)` reaches. -/
def clearCounters (arrays : RegArrays) (n : Int) (w : BatchWorld) (i : Nat) : Option BatchWorld :=
  (fallThrough n).foldlM (fun w k => w.storeAt countersDataBatch arrays 0 k i) w

/-- The clearing loop of `clear_all_pmc`. -/
def clearAllLoop (P : Platform) (rax : Word) (s : PmcState) : Option BatchWorld :=
  (List.range P.cfg.numDevs).foldlM (clearCounters s.pmc (cpuidNumPmc rax)) s.world

/-- `clear_all_pmc`. -/
def clearAllPmc (P : Platform) (rax : Word) (s : PmcState) : Option PmcState := do
  let s ← pmcStorage P rax s
  let w ← clearAllLoop P rax s
  let w ← w.writeBatch P countersDataBatch
  some { s with world := w }

/-- `clear_pmc`. -/
def clearPmc (P : Platform) (rax : Word) (s : PmcState) (idx : Int) :
    Option (Int × PmcState) := do
  let s ← pmcStorage P rax s
  if idx < cpuidNumPmc rax then do
    -- `idx` is what the switch is on, and the processor
    let w ← clearCounters s.pmc idx s.world idx.toNat
    some (0, { s with world := w })
  else some (-1, s)

/-- `enable_pmc`. -/
def enablePmc (P : Platform) (rax : Word) (s : PmcState) : Option (Int × PmcState) :=
  if cpuidNumPmc rax = 0 then some (-1, s)
  else do
    let s ← perfevtselStorage P rax s
    let w ← s.world.writeBatch P countersCtrlBatch
    let s ← clearAllPmc P rax { s with world := w }
    some (0, s)

end Libmsr
