/-
  Libmsr.Csr.ImcEvents

  Configuring the iMC counters (src/csr_imc.c): `set_pmon_config`, `pmon_config`, and
  `mem_pct_rw_on_ctr`, `mem_page_empty_on_ctr` and `mem_page_miss_on_ctr`, which give
  each of their counters an event.

  Every configuration executes the batch of all counters.  What its ops do to the
  registers is up to the driver: any of the writes may fail to reach its register,
  whatever the ioctl returns.
-/
import Libmsr.Csr.ErrorReports
import Libmsr.Csr.ImcSlots
import Libmsr.Lib.Scatter

namespace Libmsr

/-! ## Events

  The same in every platform header that has them. -/

/-- `EVT_ACT_COUNT`. -/
def evtActCount : BitVec 8 := 0x01

/-- `EVT_PRE_COUNT`. -/
def evtPreCount : BitVec 8 := 0x02

/-- `EVT_CAS_COUNT`. -/
def evtCasCount : BitVec 8 := 0x04

/-- `EVT_RPQ_INSERTS`. -/
def evtRpqInserts : BitVec 8 := 0x10

/-- `EVT_WPQ_INSERTS`. -/
def evtWpqInserts : BitVec 8 := 0x20

/-- `UMASK_CAS_ALL`. -/
def umaskCasAll : BitVec 32 := 0xF

/-- `UMASK_PRE_PAGE_MISS`. -/
def umaskPrePageMiss : BitVec 32 := 0x1

/-! ## The registers -/

/-- An uncore register. -/
structure CsrRegister where
  bus : BitVec 8
  device : BitVec 8
  function : BitVec 8
  socket : BitVec 8
  offset : BitVec 16
  deriving Repr, DecidableEq

/-- The register an op is about. -/
def CsrBatchOp.register (op : CsrBatchOp) : CsrRegister :=
  ⟨op.bus, op.device, op.function, op.socket, op.offset⟩

/-- What becomes of a batch in the driver: the result of the ioctl, the error it leaves in
    each op, what it reads for one, and whether what it writes for one reaches the
    register. -/
structure ImcExecution where
  res : Int
  err : Nat → BitVec 32
  read : Nat → Word
  wrote : Nat → Bool

/-- The replies: an op that writes keeps its data. -/
def ImcExecution.ioctl (x : ImcExecution) (ops : List CsrBatchOp) : CsrIoctl where
  res := x.res
  replies := fun i => ⟨x.err i,
    (ops[i]?).elim 0 fun op => if op.isread = 0 then op.csrdata else x.read i⟩

/-- The writes that reach a register, in order. -/
def ImcExecution.writes (x : ImcExecution) (ops : List CsrBatchOp) : List (CsrRegister × Word) :=
  (List.range ops.length).filterMap fun i =>
    (ops[i]?).bind fun op =>
      if op.isread = 0 ∧ x.wrote i = true then some (op.register, op.csrdata) else none

/-- The registers after the batch. -/
def ImcExecution.registers (x : ImcExecution) (ops : List CsrBatchOp)
    (regs : CsrRegister → Word) : CsrRegister → Word :=
  Scatter.scatter regs ((x.writes ops).map Prod.fst) ((x.writes ops).map Prod.snd)

/-! ## State -/

/-- The messages that the functions print. -/
inductive ImcMessage where
  /-- `set_pmon_config(): iMC PMON config is not initialized` -/
  | configNotInitialized
  /-- `pmon_config(): iMC perfmon counter does not exist` -/
  | perfmonCounterDoesNotExist
  /-- `mem_pct_rw_on_ctr(): iMC pmon counter does not exist` -/
  | pctRwCounterDoesNotExist
  /-- `mem_pct_rw_on_ctr(): you can't count different events on the same register` -/
  | pctRwSameRegister
  /-- `mem_page_empty_on_ctr(): there are only 4 iMC performance counters` -/
  | pageEmptyOnlyFourCounters
  /-- `mem_page_emptys_on_ctr(): you can't count different events on the same register` -/
  | pageEmptySameRegister
  /-- `mem_page_miss_on_ctr(): iMC PMON counter does not exist` -/
  | pageMissCounterDoesNotExist
  /-- `mem_page_miss_on_ctr(): you can't count different events on the same register` -/
  | pageMissSameRegister
  /-- A message of `do_csr_batch_op`. -/
  | batch (text : CsrMessage)
  deriving Repr, DecidableEq

/-- The counter data, whether `init_pmon_ctrs` was called, the batches, the registers, and
    how many batches were executed. -/
structure ImcState where
  pcd : PmonctrsData
  init : Bool
  proc : CsrProcess
  regs : CsrRegister → Word
  executed : Nat

/-- The state before any of the functions was called. -/
def ImcState.start (sockets : Nat) (p : CsrProcess) (regs : CsrRegister → Word) : ImcState :=
  ⟨pmonCtrStorage sockets, false, { p with st := .init }, regs, 0⟩

/-- `|` of two return codes. -/
def intOr (a b : Int) : Int := (BitVec.ofInt 32 a ||| BitVec.ofInt 32 b).toInt

/-! ## pmon_config -/

/-- `*p = v`, where `p` points to the data of an op of batch `b`. -/
def CsrBatchStorage.storeData (st : CsrBatchStorage) (b : Nat) (p : Ptr) (v : Word) :
    Option CsrBatchStorage :=
  match (st.entry b).ops with
  | none => none
  | some a =>
    if a.id = p.id then
      match a.slots[p.slot]? with
      | none => none
      | some op => some (st.setEntry b { st.entry b with
          ops := some { a with slots := a.slots.set p.slot { op with csrdata := v } } })
    else none

/-- `set_pmon_config`.  Only the first pointer is checked. -/
def setPmonConfig (sockets : Nat) (setting : BitVec 32) (cfg : List (Option Ptr))
    (st : CsrBatchStorage) : Option (Int × List ImcMessage × CsrBatchStorage) :=
  match cfg[0]? with
  | none => none
  | some none => some (-1, [.configNotInitialized], st)
  | some (some _) =>
    ((List.range (numCtrs * sockets)).foldlM (fun st i =>
      (ptrAt cfg i).bind fun p => st.storeData csrImcEvts p (setting.setWidth 64)) st).map
        fun st => (0, [], st)

/-- `do_csr_batch_op(CSR_IMC_EVTS)`, and what it does to the registers. -/
def doImcEvents (x : ImcExecution) (s : ImcState) : Option (Int × List ImcMessage × ImcState) :=
  let ops := s.proc.ops csrImcEvts
  match doCsrBatchOp s.proc csrImcEvts (x.ioctl ops) with
  | none => none
  | some (r, p) =>
    let s := if r.ioctl = none then { s with proc := p } else
      { s with proc := p, regs := x.registers ops s.regs, executed := s.executed + 1 }
    some (r.rc, r.messages.map .batch, s)

/-- The arguments of `pmon_config`. -/
structure PmonConfig where
  threshold : BitVec 32
  ovfEn : BitVec 32
  edgeDet : BitVec 32
  umask : BitVec 32
  event : BitVec 8
  counter : Nat
  deriving Repr, DecidableEq

/-- `setting`. -/
def PmonConfig.setting (c : PmonConfig) : BitVec 32 :=
  c.threshold <<< 24 ||| 0x1 <<< 22 ||| (c.ovfEn &&& 0x1) <<< 20 ||| (c.edgeDet &&& 0x1) <<< 18 |||
    0x1 <<< 17 ||| 0x1 <<< 16 ||| c.umask <<< 8 ||| c.event.setWidth 32

/-- `pmon_config`: return code, messages and state. -/
def pmonConfig (sockets : Nat) (c : PmonConfig) (x : ImcExecution) (s : ImcState) :
    Option (Int × List ImcMessage × ImcState) :=
  match s.pcd.ctrcfg c.counter with
  | none => some (-1, [.perfmonCounterDoesNotExist], s)
  | some cfg => do
    let (ret0, texts, st) ← setPmonConfig sockets c.setting cfg s.proc.st
    -- executed whatever ret0 is
    let (ret1, texts', s) ← doImcEvents x { s with proc := { s.proc with st := st } }
    some (intOr ret0 ret1, texts ++ texts', s)

/-- `res |= pmon_config(..)` for each of the configurations; `xs j` is for batch `j`. -/
def pmonConfigs (sockets : Nat) : List PmonConfig → (Nat → ImcExecution) → ImcState →
    Option (Int × List ImcMessage × ImcState)
  | [], _, s => some (0, [], s)
  | c :: cs, xs, s => do
    let (res, texts, s) ← pmonConfig sockets c (xs 0) s
    let (rest, texts', s) ← pmonConfigs sockets cs (fun j => xs (j + 1)) s
    some (intOr res rest, texts ++ texts', s)

/-! ## The functions -/

/-- What such a function is made of: the counters it compares with 4 and what it says when
    one is above, whether it finds two the same and what it says then, and the
    configurations it makes. -/
structure EventFunction where
  checked : List Nat
  noCounter : ImcMessage
  same : Bool
  sameRegister : ImcMessage
  configs : List PmonConfig
  deriving Repr, DecidableEq

/-- A call of the function. -/
def EventFunction.call (f : EventFunction) (sockets : Nat) (xs : Nat → ImcExecution)
    (s : ImcState) : Option (Int × List ImcMessage × ImcState) :=
  if f.checked.any (4 < ·) then some (-1, [f.noCounter], s)
  else
    -- that two are the same is only reported
    let texts := if f.same then [f.sameRegister] else []
    (pmonConfigs sockets f.configs xs s).map fun (res, texts', s) => (res, texts ++ texts', s)

/-- `mem_pct_rw_on_ctr`. -/
def memPctRwOnCtr (rcounter wcounter : Nat) : EventFunction where
  checked := [rcounter, wcounter]
  noCounter := .pctRwCounterDoesNotExist
  same := rcounter == wcounter
  sameRegister := .pctRwSameRegister
  configs := [⟨0x0, 0x0, 0x0, 0x0, evtRpqInserts, rcounter⟩,
    ⟨0x0, 0x0, 0x0, 0x0, evtWpqInserts, wcounter⟩]

/-- `mem_page_empty_on_ctr`. -/
def memPageEmptyOnCtr (actCount preCount casCount : Nat) : EventFunction where
  checked := [actCount, preCount, casCount]
  noCounter := .pageEmptyOnlyFourCounters
  same := actCount == preCount || casCount == preCount || casCount == actCount
  sameRegister := .pageEmptySameRegister
  configs := [⟨0x0, 0x0, 0x0, umaskCasAll, evtCasCount, casCount⟩,
    ⟨0x0, 0x0, 0x0, 0xFF, evtActCount, actCount⟩,
    ⟨0x0, 0x0, 0x0, umaskPrePageMiss, evtPreCount, preCount⟩]

/-- `mem_page_miss_on_ctr`: `pre_count` is compared twice, `cas_count` not at all. -/
def memPageMissOnCtr (preCount casCount : Nat) : EventFunction where
  checked := [preCount, preCount]
  noCounter := .pageMissCounterDoesNotExist
  same := preCount == casCount
  sameRegister := .pageMissSameRegister
  configs := [⟨0x0, 0x0, 0x0, umaskPrePageMiss, evtPreCount, preCount⟩,
    ⟨0x0, 0x0, 0x0, umaskCasAll, evtCasCount, casCount⟩]

end Libmsr
