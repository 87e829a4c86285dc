/-
  Libmsr.Csr.ImcUnits

  The unit control of the iMC counters (src/csr_imc.c): `pmonctr_global_storage`,
  `init_pmonctr_global` and `set_pmon_unit_ctrl`, called in any order with the
  functions of the counters themselves.  Both work on the one table of CSR batches.
-/
import Libmsr.Csr.ImcCounts

namespace Libmsr

/-- `CSR_IMC_PMONUNITCTRL`. -/
def csrImcPmonunitctrl : Nat := 2

/-- `CSR_IMC_PMONUNITSTAT`. -/
def csrImcPmonunitstat : Nat := 3

/-- `CSR_PMONUNITCTRL`, the same in every platform header that has it. -/
def csrPmonunitctrl : Nat := 0xF4

/-- `CSR_PMONUNITSTAT`. -/
def csrPmonunitstat : Nat := 0xF8

/-- `struct pmonctr_global`. -/
structure PmonctrGlobal where
  unitctrl : List (Option Ptr)
  unitstatus : List (Option Ptr)
  deriving Repr, DecidableEq

/-- `pmonctr_global_storage`, on its first call. -/
def pmonctrGlobalStorage (sockets : Nat) : PmonctrGlobal :=
  ⟨List.replicate (numCtrs * sockets) none, List.replicate (numCtrs * sockets) none⟩

/-- The unit data and whether `init_pmonctr_global` was called, beside the state of the
    counters. -/
structure UnitState where
  imc : ImcState
  pgd : PmonctrGlobal
  init : Bool

/-- The state before any of the functions was called. -/
def UnitState.start (sockets : Nat) (p : CsrProcess) (regs : CsrRegister → Word) : UnitState :=
  ⟨.start sockets p regs, pmonctrGlobalStorage sockets, false⟩

/-- The same with another table. -/
def UnitState.setTable (s : UnitState) (st : CsrBatchStorage) : UnitState :=
  { s with imc := { s.imc with proc := { s.imc.proc with st := st } } }

/-- What `init_pmonctr_global` loads: both batches as writes. -/
def unitctrlLoad : ImcLoad := ⟨csrPmonunitctrl, 0, 3, csrImcPmonunitctrl⟩

def unitstatusLoad : ImcLoad := ⟨csrPmonunitstat, 0, 1, csrImcPmonunitstat⟩

/-- `init_pmonctr_global`: return code and state.  `none` when the number of pointers
    overflows an `int`. -/
def initPmonctrGlobal (h : ImcHeader) (sockets : Nat) (s : UnitState) :
    Option (Int × UnitState) :=
  if s.init then some (-1, s)
  else
    let allocated := numCtrs * sockets
    if 2 ^ 31 ≤ 2 * allocated then none
    else do
      let (_, st) ← allocateCsrBatch s.imc.proc.st csrImcPmonunitctrl allocated
      let (_, st) ← allocateCsrBatch st csrImcPmonunitstat allocated
      let (_, unitctrl, st) ← loadImcBatchForEach h sockets unitctrlLoad s.pgd.unitctrl st
      let (_, unitstatus, st) ← loadImcBatchForEach h sockets unitstatusLoad s.pgd.unitstatus st
      some (2 * allocated, { s.setTable st with pgd := ⟨unitctrl, unitstatus⟩, init := true })

/-- The arguments of `set_pmon_unit_ctrl`. -/
structure UnitControl where
  ovfEn : BitVec 32
  freezeEn : BitVec 16
  freeze : BitVec 16
  reset : BitVec 16
  resetCfg : BitVec 8
  deriving Repr, DecidableEq

/-- `setting`. -/
def UnitControl.setting (c : UnitControl) : BitVec 32 :=
  c.ovfEn <<< 17 ||| c.freezeEn.setWidth 32 <<< 16 ||| c.freeze.setWidth 32 <<< 8 |||
    c.reset.setWidth 32 <<< 1 ||| c.resetCfg.setWidth 32

/-- `*unitctrl[i] = setting` for each of the pointers. -/
def storeUnits (sockets : Nat) (setting : BitVec 32) (unitctrl : List (Option Ptr))
    (st : CsrBatchStorage) : Option CsrBatchStorage :=
  (List.range (numCtrs * sockets)).foldlM (fun st i =>
    (ptrAt unitctrl i).bind fun p =>
      st.storeData csrImcPmonunitctrl p (setting.setWidth 64)) st

/-- `do_csr_batch_op(CSR_IMC_PMONUNITCTRL)`, and what it does to the registers. -/
def doUnitControls (x : ImcExecution) (s : UnitState) : Option (Int × UnitState) :=
  let ops := s.imc.proc.ops csrImcPmonunitctrl
  (doCsrBatchOp s.imc.proc csrImcPmonunitctrl (x.ioctl ops)).map fun (r, p) =>
    (r.rc, { s with imc := if r.ioctl = none then { s.imc with proc := p } else
      { s.imc with proc := p, regs := x.registers ops s.imc.regs,
                   executed := s.imc.executed + 1 } })

/-- `set_pmon_unit_ctrl`.  It does not ask whether the units were initialised.  A
    `freeze_en` is promoted to an `int`, which the shift overflows from 2^15 on. -/
def setPmonUnitCtrl (sockets : Nat) (c : UnitControl) (x : ImcExecution) (s : UnitState) :
    Option (Int × UnitState) :=
  if 2 ^ 15 ≤ c.freezeEn.toNat then none
  else do
    let st ← storeUnits sockets c.setting s.pgd.unitctrl s.imc.proc.st
    doUnitControls x (s.setTable st)

/-- A call of the counters or of the units. -/
inductive ImcUnitCall where
  | ctr (c : ImcCtrCall)
  | init
  | set (c : UnitControl) (x : ImcExecution)

/-- The state after the call. -/
def imcUnitStep (h : ImcHeader) (sockets : Nat) (s : UnitState) : ImcUnitCall → Option UnitState
  | .ctr c => (imcCtrStep h sockets s.imc c).map fun imc => { s with imc := imc }
  | .init => (initPmonctrGlobal h sockets s).map Prod.snd
  | .set c x => (setPmonUnitCtrl sockets c x s).map Prod.snd

/-- The states that calls can lead to. -/
def UnitReachable (h : ImcHeader) (sockets : Nat) (s : UnitState) : Prop :=
  ∃ p regs calls, Runs.run (imcUnitStep h sockets) (.start sockets p regs) calls = some s

end Libmsr
