/-
  Libmsr.Clocks.Turbo

  `turbo_storage`, `enable_turbo` and `disable_turbo` (src/msr_turbo.c), which
  work on the PERF_CTL batch that `perf_storage` loads.
-/
import Libmsr.Clocks.PerfState

namespace Libmsr

/-- The statics of `turbo_storage`.  `perf_ctl` is allocated and never filled. -/
structure TurboStorage where
  perfCtl : List (Option Ptr)
  init : Bool
  numDevs : Nat

/-- The statics of `enable_turbo`, and those of `disable_turbo`. -/
structure TurboStatics where
  numDevs : Nat
  val : List (Option Ptr)

/-- The batches, the host, and the statics of the functions. -/
structure TurboState where
  perf : PerfState
  storage : TurboStorage
  enable : TurboStatics
  disable : TurboStatics

/-- `turbo_storage`: what is stored through `val`, and the statics. -/
def turboStorage (P : Platform) (s : TurboStorage) : List (Option Ptr) × TurboStorage :=
  let s : TurboStorage :=
    if s.init then s
    else ⟨List.replicate P.cfg.numDevs none, true, P.cfg.numDevs⟩
  (s.perfCtl, s)

/-- The block at the head of both functions that runs while `numDevs` is 0.  The
    array they allocate is dropped for the one of `turbo_storage`. -/
def turboStatics (P : Platform) (storage : TurboStorage) (own : TurboStatics) :
    TurboStorage × TurboStatics :=
  if own.numDevs ≠ 0 then (storage, own)
  else
    let (val, storage) := turboStorage P storage
    (storage, ⟨P.cfg.numDevs, val⟩)

/-- What both functions do with the PERF_CTL batch: read it, change what each
    pointer of `val` points to, write it. -/
def turboUpdate (P : Platform) (w : BatchWorld) (own : TurboStatics) (f : Word → Word) :
    Option BatchWorld := do
  let w ← w.readBatch P perfCtlBatch
  let w ← w.modifyEach perfCtlBatch own.val own.numDevs fun _ => f
  w.writeBatch P perfCtlBatch

/-- `enable_turbo`. -/
def enableTurbo (P : Platform) (s : TurboState) : Option TurboState := do
  let (storage, own) := turboStatics P s.storage s.enable
  let w ← turboUpdate P s.perf.world own fun x => x &&& ~~~((1 : Word) <<< 32)
  some { s with perf := { s.perf with world := w }, storage := storage, enable := own }

/-- `disable_turbo`. -/
def disableTurbo (P : Platform) (s : TurboState) : Option TurboState := do
  let (storage, own) := turboStatics P s.storage s.disable
  let w ← turboUpdate P s.perf.world own fun x => x ||| ((1 : Word) <<< 32)
  some { s with perf := { s.perf with world := w }, storage := storage, disable := own }

/-- The calls that share the PERF_CTL batch. -/
inductive TurboCall where
  | enable
  | disable
  | perfStorage
  deriving Repr, DecidableEq

def turboStep (P : Platform) (s : TurboState) : TurboCall → Option TurboState
  | .enable => enableTurbo P s
  | .disable => disableTurbo P s
  | .perfStorage => (perfStorage P s.perf).map fun perf => { s with perf := perf }

end Libmsr
