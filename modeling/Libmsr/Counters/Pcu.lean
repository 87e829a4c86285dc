/-
  Libmsr.Counters.Pcu

  The uncore PCU counters (src/msr_counters.c): the functions that load the
  event-select registers and the counters, `set_pcu_ctrl_flags`, `set_all_pcu_ctrl`,
  `enable_pcu`, `clear_all_pcu`, `clear_pcu` and `dump_unc_counter_data`.

  The fields `c0` to `c3` of both structs are a function of the counter's number.  A
  static pointer that a function sets in its first call is set by each call here.
-/
import Libmsr.Core.RegisterTables

namespace Libmsr

/-- `MSR_PCU_PMON_EVNTSEL0` and `MSR_PCU_PMON_CTR0` of the processor; the registers of
    the other counters follow. -/
structure PcuMsrs where
  evntsel0 : Nat
  ctr0 : Nat
  deriving Repr, DecidableEq

/-- The registers of the models 2D and 3E. The models 3F, 4F and 55 have theirs at 0x711
    and 0x717. -/
def pcuMsrsOld : PcuMsrs := ⟨0xC30, 0xC36⟩

/-- `UNCORE_EVTSEL`, a batch number. -/
def uncoreEvtselBatch : Nat := 16

/-- `UNCORE_COUNT`, a batch number. -/
def uncoreCountBatch : Nat := 17

/-! ## Storage -/

/-- The batches, the host, and the statics of `unc_perfevtsel_storage` and
    `unc_counters_storage`. -/
structure PcuState where
  world : BatchWorld
  uevt : RegArrays
  uevtInit : Bool
  uc : RegArrays
  ucInit : Bool

/-- Before any call. -/
def pcuStart (host : Host) : PcuState :=
  ⟨⟨.init, host⟩, fun _ => none, false, fun _ => none, false⟩

/-- What `init_unc_perfevtsel` and `init_unc_counters` do with their registers and
    batch.  Their own `init` is set together with that of the storage function. -/
def initUnc (P : Platform) (msr0 batchnum : Nat) (s : RegArrays × BatchStorage) :
    Option (RegArrays × BatchStorage) := do
  let sockets := P.cfg.sockets
  let arrays := (List.range 4).foldl (callocArray sockets) s.1
  let (_, st) ← allocateBatch s.2 batchnum (4 * sockets)
  (List.range 4).foldlM (loadArray (loadSocketBatch P.cfg P.topo) (msr0 + ·) batchnum) (arrays, st)

/-- `init_unc_perfevtsel`. -/
def initUncPerfevtsel (P : Platform) (m : PcuMsrs) (s : RegArrays × BatchStorage) :
    Option (RegArrays × BatchStorage) :=
  initUnc P m.evntsel0 uncoreEvtselBatch s

/-- `init_unc_counters`. -/
def initUncCounters (P : Platform) (m : PcuMsrs) (s : RegArrays × BatchStorage) :
    Option (RegArrays × BatchStorage) :=
  initUnc P m.ctr0 uncoreCountBatch s

/-- `unc_perfevtsel_storage`. -/
def uncPerfevtselStorage (P : Platform) (m : PcuMsrs) (s : PcuState) : Option PcuState :=
  if s.uevtInit then some s
  else do
    let (uevt, st) ← initUncPerfevtsel P m (s.uevt, s.world.st)
    some { s with world := { s.world with st := st }, uevt := uevt, uevtInit := true }

/-- `unc_counters_storage`. -/
def uncCountersStorage (P : Platform) (m : PcuMsrs) (s : PcuState) : Option PcuState :=
  if s.ucInit then some s
  else do
    let (uc, st) ← initUncCounters P m (s.uc, s.world.st)
    some { s with world := { s.world with st := st }, uc := uc, ucInit := true }

/-! ## Event selection -/

/-- `0UL | (flags << 18) | (reset << 17) | (occ << 14) | eventsel`, with the flags
    masked first. -/
def pcuCtrlWord (flags reset occ eventsel : Word) : Word :=
  let flags := flags &&& 0xDF7FFFFF -- must set bit 29 and 23 to 0
  (0 : Word) ||| (flags <<< 18) ||| (reset <<< 17) ||| (occ <<< 14) ||| eventsel

/-- `set_pcu_ctrl_flags`. -/
def setPcuCtrlFlags (P : Platform) (m : PcuMsrs) (flags reset occ eventsel : Word)
    (pcunum : Int) (s : PcuState) (socket : Nat) : Option PcuState := do
  let s ← uncPerfevtselStorage P m s
  if 1 ≤ pcunum ∧ pcunum ≤ 4 then do
    let w ← s.world.storeAt uncoreEvtselBatch s.uevt (pcuCtrlWord flags reset occ eventsel)
      (pcunum.toNat - 1) socket
    some { s with world := w }
  else some s

/-- `set_all_pcu_ctrl`. -/
def setAllPcuCtrl (P : Platform) (m : PcuMsrs) (flags reset occ eventsel : Word)
    (pcunum : Int) (s : PcuState) : Option PcuState :=
  (List.range P.cfg.sockets).foldlM (setPcuCtrlFlags P m flags reset occ eventsel pcunum) s

/-! ## Counters -/

/-- Loop body of `clear_all_pcu`. -/
def clearAllPcuBody (uc : RegArrays) (w : BatchWorld) (i : Nat) : Option BatchWorld :=
  (List.range 4).foldlM (fun w k => w.storeAt uncoreCountBatch uc 0 k i) w

/-- `clear_all_pcu`. -/
def clearAllPcu (P : Platform) (m : PcuMsrs) (s : PcuState) : Option PcuState := do
  let s ← uncCountersStorage P m s
  let w ← (List.range P.cfg.sockets).foldlM (clearAllPcuBody s.uc) s.world
  let w ← w.writeBatch P uncoreCountBatch
  some { s with world := w }

/-- `clear_pcu`. -/
def clearPcu (P : Platform) (m : PcuMsrs) (s : PcuState) (idx : Int) :
    Option (Int × PcuState) := do
  let s ← uncCountersStorage P m s
  if idx < P.cfg.sockets then do
    let c0 ← s.uc 0
    -- `uc->c0[idx] = 0` is about the pointer; a negative index is before the array
    if 0 ≤ idx ∧ idx < c0.length then
      some (0, { s with uc := Function.update s.uc 0 (some (c0.set idx.toNat none)) })
    else none
  else some (-1, s)

/-- `enable_pcu`. -/
def enablePcu (P : Platform) (m : PcuMsrs) (s : PcuState) : Option PcuState := do
  let s ← uncPerfevtselStorage P m s
  let w ← s.world.writeBatch P uncoreEvtselBatch
  clearAllPcu P m { s with world := w }

/-- `dump_unc_counter_data`: the four counters of each line. -/
def dumpUncCounterData (P : Platform) (m : PcuMsrs) (s : PcuState) :
    Option (List (List Word) × PcuState) := do
  let s ← uncCountersStorage P m s
  let lines ← (List.range P.cfg.sockets).mapM fun i =>
    (List.range 4).mapM fun k => s.world.loadAt uncoreCountBatch s.uc k i
  some (lines, s)

end Libmsr
