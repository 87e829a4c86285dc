/-
  Libmsr.Counters.FixedCounters

  The fixed-function performance counters (src/msr_counters.c): the functions that
  load their two batches, `get_fixed_ctr_ctrl`, `set_fixed_counter_ctrl`,
  `enable_fixed_counters` and `disable_fixed_counters`.

  `ctr0`, `ctr1` and `ctr2` are a function of the counter's number.
-/
import Libmsr.Core.BatchAccess
import Libmsr.Rapl.Units
import Mathlib.Data.Fin.VecNotation

namespace Libmsr

def ia32PerfGlobalCtrl : Nat := 0x38F
def ia32FixedCtrCtrl : Nat := 0x38D
def ia32FixedCtr0 : Nat := 0x309
def ia32FixedCtr1 : Nat := 0x30A
def ia32FixedCtr2 : Nat := 0x30B

/-- `FIXED_COUNTERS_DATA`, a batch number. -/
def fixedCountersDataBatch : Nat := 2

/-- `FIXED_COUNTERS_CTR_DATA`, a batch number. -/
def fixedCountersCtrDataBatch : Nat := 3

/-! ## struct fixed_counter -/

/-- The elements of the control arrays at one thread. -/
@[ext] structure CounterControl where
  enable : Word
  ringLevel : Word
  anyThread : Word
  pmi : Word
  deriving Repr, DecidableEq

/-- `struct fixed_counter`. -/
structure FixedCounter where
  control : Nat → CounterControl
  value : List (Option Ptr)

/-- `(x & ~(mask<<n)) | val << n`. -/
def replaceField (x mask : Word) (n : Nat) (val : Word) : Word :=
  (x &&& ~~~(mask <<< n)) ||| (val <<< n)

/-- The assignments of `get_fixed_ctr_ctrl` for counter `k` and one thread. -/
def CounterControl.ofMsr (k : Nat) (perfGlobalCtrl fixedCtrCtrl : Word) : CounterControl where
  enable := maskVal perfGlobalCtrl (32 + k) (32 + k)
  ringLevel := maskVal fixedCtrCtrl (4 * k + 1) (4 * k)
  anyThread := maskVal fixedCtrCtrl (4 * k + 2) (4 * k + 2)
  pmi := maskVal fixedCtrCtrl (4 * k + 3) (4 * k + 3)

/-- The assignment of `set_fixed_counter_ctrl` to `*perf_global_ctrl[i]` for
    counter `k`. -/
def CounterControl.toPerfGlobalCtrl (c : CounterControl) (k : Nat) (x : Word) : Word :=
  replaceField x 1 (32 + k) c.enable

/-- The assignments of `set_fixed_counter_ctrl` to `*fixed_ctr_ctrl[i]` for counter
    `k`. -/
def CounterControl.toFixedCtrCtrl (c : CounterControl) (k : Nat) (x : Word) : Word :=
  let x := replaceField x 3 (4 * k) c.ringLevel
  let x := replaceField x 1 (4 * k + 2) c.anyThread
  replaceField x 1 (4 * k + 3) c.pmi

/-! ## Storage -/

/-- The pointer arrays of `fixed_counter_ctrl_storage`. -/
structure CtrlPointers where
  perfGlobalCtrl : List (Option Ptr)
  fixedCtrCtrl : List (Option Ptr)

/-- The statics of `get_fixed_ctr_ctrl`, and those of `set_fixed_counter_ctrl`. -/
structure CtrlStatics where
  totalThreads : Nat
  ptrs : CtrlPointers

/-- The batches, the host, and the statics: `c0`, `c1`, `c2` and `init` of
    `fixed_counter_storage`, those of `fixed_counter_ctrl_storage`, and those of the
    functions that get and set. -/
structure CounterState where
  world : BatchWorld
  ctr : Fin 3 → FixedCounter
  init : Bool
  ctrl : CtrlPointers
  ctrlInit : Bool
  get : CtrlStatics
  set : CtrlStatics

/-- `fixed_counter_storage`, with the `init_fixed_counter`s it calls. -/
def fixedCounterStorage (P : Platform) (s : CounterState) : Option CounterState :=
  if s.init then some s
  else do
    -- three arrays of the same length
    let value : List (Option Ptr) := List.replicate P.cfg.numDevs none
    let (_, st) ← allocateBatch s.world.st fixedCountersDataBatch (3 * P.cfg.numDevs)
    let (_, value0, st) ←
      loadThreadBatch P.cfg st ia32FixedCtr0 (some value) fixedCountersDataBatch
    let (_, value1, st) ←
      loadThreadBatch P.cfg st ia32FixedCtr1 (some value) fixedCountersDataBatch
    let (_, value2, st) ←
      loadThreadBatch P.cfg st ia32FixedCtr2 (some value) fixedCountersDataBatch
    some { s with
      world := { s.world with st := st }
      ctr := ![{ s.ctr 0 with value := value0.getD [] }, { s.ctr 1 with value := value1.getD [] },
        { s.ctr 2 with value := value2.getD [] }]
      init := true }

/-- `fixed_counter_ctrl_storage`. -/
def fixedCounterCtrlStorage (P : Platform) (s : CounterState) : Option CounterState :=
  if s.ctrlInit then some s
  else do
    let ptrs : List (Option Ptr) := List.replicate P.cfg.numDevs none
    let (_, st) ← allocateBatch s.world.st fixedCountersCtrDataBatch (2 * P.cfg.numDevs)
    let (_, perf, st) ←
      loadThreadBatch P.cfg st ia32PerfGlobalCtrl (some ptrs) fixedCountersCtrDataBatch
    let (_, fixed, st) ←
      loadThreadBatch P.cfg st ia32FixedCtrCtrl (some ptrs) fixedCountersCtrDataBatch
    some { s with
      world := { s.world with st := st }
      ctrl := ⟨perf.getD [], fixed.getD []⟩
      ctrlInit := true }

/-! ## get_fixed_ctr_ctrl -/

/-- The block at the head of `get_fixed_ctr_ctrl` that runs while `totalThreads` is
    0. -/
def getStorage (P : Platform) (s : CounterState) : Option CounterState :=
  if s.get.totalThreads ≠ 0 then some s
  else do
    let s ← fixedCounterCtrlStorage P s
    some { s with get := ⟨P.cfg.numDevs, s.ctrl⟩ }

/-- One `if` of the loop of `get_fixed_ctr_ctrl`: counter `k`, thread `i`.  `none` is
    a null pointer. -/
def getCounterControl (w : BatchWorld) (ptrs : CtrlPointers) (i k : Nat) :
    Option (Nat → CounterControl) → Option (Option (Nat → CounterControl))
  | none => some none
  | some control => do
    let p ← ptrAt ptrs.perfGlobalCtrl i
    let q ← ptrAt ptrs.fixedCtrCtrl i
    let perf ← w.st.load fixedCountersCtrDataBatch p
    let fixed ← w.st.load fixedCountersCtrDataBatch q
    some (some (Function.update control i (CounterControl.ofMsr k perf fixed)))

/-- Loop body of `get_fixed_ctr_ctrl`. -/
def getFixedCtrCtrlBody (w : BatchWorld) (ptrs : CtrlPointers)
    (ctr : Fin 3 → Option (Nat → CounterControl)) (i : Nat) :
    Option (Fin 3 → Option (Nat → CounterControl)) := do
  let ctr0 ← getCounterControl w ptrs i 0 (ctr 0)
  let ctr1 ← getCounterControl w ptrs i 1 (ctr 1)
  let ctr2 ← getCounterControl w ptrs i 2 (ctr 2)
  some ![ctr0, ctr1, ctr2]

/-- `get_fixed_ctr_ctrl`. -/
def getFixedCtrCtrl (P : Platform) (s : CounterState)
    (ctr : Fin 3 → Option (Nat → CounterControl)) :
    Option (CounterState × (Fin 3 → Option (Nat → CounterControl))) := do
  let s ← getStorage P s
  let w ← s.world.readBatch P fixedCountersCtrDataBatch
  let ctr ← (List.range s.get.totalThreads).foldlM (getFixedCtrCtrlBody w s.get.ptrs) ctr
  some ({ s with world := w }, ctr)

/-! ## set_fixed_counter_ctrl -/

/-- The block at the head of `set_fixed_counter_ctrl` that runs while `totalThreads`
    is 0. -/
def setStorage (P : Platform) (s : CounterState) : Option CounterState :=
  if s.set.totalThreads ≠ 0 then some s
  else do
    let s ← fixedCounterCtrlStorage P s
    some { s with set := ⟨P.cfg.numDevs, s.ctrl⟩ }

/-- The new `*perf_global_ctrl[i]`. -/
def perfGlobalCtrlWord (c : Fin 3 → CounterControl) (x : Word) : Word :=
  let x := (c 0).toPerfGlobalCtrl 0 x
  let x := (c 1).toPerfGlobalCtrl 1 x
  (c 2).toPerfGlobalCtrl 2 x

/-- The new `*fixed_ctr_ctrl[i]`. -/
def fixedCtrCtrlWord (c : Fin 3 → CounterControl) (x : Word) : Word :=
  let x := (c 0).toFixedCtrCtrl 0 x
  let x := (c 1).toFixedCtrCtrl 1 x
  (c 2).toFixedCtrCtrl 2 x

/-- Loop body of `set_fixed_counter_ctrl`. -/
def setFixedCounterCtrlBody (ctr : Fin 3 → FixedCounter) (ptrs : CtrlPointers) (w : BatchWorld)
    (i : Nat) : Option BatchWorld := do
  -- the counters are not read first, they are only zeroed
  let w ← w.modify fixedCountersDataBatch (ctr 0).value i fun _ => 0
  let w ← w.modify fixedCountersDataBatch (ctr 1).value i fun _ => 0
  let w ← w.modify fixedCountersDataBatch (ctr 2).value i fun _ => 0
  let w ← w.modify fixedCountersCtrDataBatch ptrs.perfGlobalCtrl i
    (perfGlobalCtrlWord fun k => (ctr k).control i)
  w.modify fixedCountersCtrDataBatch ptrs.fixedCtrCtrl i
    (fixedCtrCtrlWord fun k => (ctr k).control i)

/-- `set_fixed_counter_ctrl`. -/
def setFixedCounterCtrl (P : Platform) (s : CounterState) (ctr : Fin 3 → FixedCounter) :
    Option CounterState := do
  let s ← setStorage P s
  let w ← s.world.readBatch P fixedCountersCtrDataBatch
  let w ← (List.range s.set.totalThreads).foldlM (setFixedCounterCtrlBody ctr s.set.ptrs) w
  -- the controls are written before the zeroed counters
  let w ← w.writeBatch P fixedCountersCtrDataBatch
  let w ← w.writeBatch P fixedCountersDataBatch
  some { s with world := w }

/-! ## Calls -/

/-- Fill the control arrays of the structs that `fixed_counter_storage` returns, and
    pass these to `set_fixed_counter_ctrl`. -/
def fillAndSet (P : Platform) (s : CounterState) (c : Fin 3 → Nat → CounterControl) :
    Option CounterState := do
  let s ← fixedCounterStorage P s
  let s : CounterState := { s with ctr := fun k =>
    { s.ctr k with control := fun i => if i < P.cfg.numDevs then c k i else (s.ctr k).control i } }
  setFixedCounterCtrl P s s.ctr

/-- What `enable_fixed_counters` and `disable_fixed_counters` store for a thread. -/
def switchedControl (enable : Word) : CounterControl where
  enable := enable
  ringLevel := 3
  anyThread := 1
  pmi := 0

/-- `enable_fixed_counters`.  Its `totalThreads` is always `num_devs()`. -/
def enableFixedCounters (P : Platform) (s : CounterState) : Option CounterState :=
  fillAndSet P s fun _ _ => switchedControl 1

/-- `disable_fixed_counters`. -/
def disableFixedCounters (P : Platform) (s : CounterState) : Option CounterState :=
  fillAndSet P s fun _ _ => switchedControl 0

/-- The calls.  The structs of a `set` are those of `fixed_counter_storage`, filled
    by the caller; those of a `get` are anyone's. -/
inductive CounterCall where
  | set (c : Fin 3 → Nat → CounterControl)
  | enable
  | disable
  | get (ctr : Fin 3 → Option (Nat → CounterControl))

def counterStep (P : Platform) (s : CounterState) : CounterCall → Option CounterState
  | .set c => fillAndSet P s c
  | .enable => enableFixedCounters P s
  | .disable => disableFixedCounters P s
  | .get ctr => (getFixedCtrCtrl P s ctr).map Prod.fst

end Libmsr
