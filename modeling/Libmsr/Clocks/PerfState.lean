/-
  Libmsr.Clocks.PerfState

  `perf_storage` and `set_p_state` (src/msr_clocks.c).
-/
import Libmsr.Core.BatchAccess

namespace Libmsr

def ia32PerfStatus : Nat := 0x198
def ia32PerfCtl : Nat := 0x199

/-- `PERF_DATA`, a batch number. -/
def perfDataBatch : Nat := 7

/-- `PERF_CTL`, a batch number. -/
def perfCtlBatch : Nat := 13

/-- `struct perf_data`. -/
structure PerfData where
  perfStatus : List (Option Ptr)
  perfCtl : List (Option Ptr)

/-- The batches, the host, and the statics: `d` and `procs` of `perf_storage`,
    and `procs` of `set_p_state`, whose `cd` is `&d` once it is set. -/
structure PerfState where
  world : BatchWorld
  procs : Nat
  d : PerfData
  setProcs : Nat

/-- `perf_storage`.  The arrays it allocates are the registers' own. -/
def perfStorage (P : Platform) (s : PerfState) : Option PerfState :=
  if s.procs ≠ 0 then some s
  else do
    let procs := P.cfg.sockets
    let perfStatus := List.replicate procs none
    let perfCtl := List.replicate procs none
    let (_, st) ← allocateBatch s.world.st perfDataBatch (2 * P.cfg.sockets)
    let (_, st) ← allocateBatch st perfCtlBatch (2 * P.cfg.sockets)
    let (_, perfStatus, st) ←
      loadSocketBatch P.cfg P.topo st ia32PerfStatus (some perfStatus) perfDataBatch
    let (_, perfCtl, st) ← loadSocketBatch P.cfg P.topo st ia32PerfCtl (some perfCtl) perfCtlBatch
    some { s with
      world := { s.world with st := st }
      procs := procs
      d := ⟨perfStatus.getD [], perfCtl.getD []⟩ }

/-- The block at the head of `set_p_state` that runs while `procs` is 0. -/
def setPStateStorage (P : Platform) (s : PerfState) : Option PerfState :=
  if s.setProcs ≠ 0 then some s
  else perfStorage P { s with setProcs := P.cfg.sockets }

/-- `set_p_state`.  `none` for a socket outside the array. -/
def setPState (P : Platform) (s : PerfState) (socket : BitVec 32) (pstate : Word) :
    Option PerfState := do
  let s ← setPStateStorage P s
  -- the batch is not read first: the other sockets' ops keep what they held
  let w ← s.world.modify perfCtlBatch s.d.perfCtl socket.toNat fun _ => pstate
  let w ← w.writeBatch P perfCtlBatch
  some { s with world := w }

end Libmsr
