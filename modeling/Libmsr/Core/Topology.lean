/-
  Libmsr.Core.Topology

  The machine as hwloc reports it, the thread map that `find_cpu_top` fills
  from it, and the flat CPU index `devidx` computes from a coordinate
  (src/msr_core.c).

  hwloc itself is outside the repository.  What the code asks of it is a list
  of processing units (PUs) in hwloc's own order together with the number of
  cores and sockets, so that is what `Hwloc` holds.  A result `none` stands for
  a step the C program has no defined behaviour for: a NULL object that is
  dereferenced or a store outside the allocated map.
-/
import Mathlib.Data.List.Basic
import Mathlib.Data.List.Range

namespace Libmsr

/-- `uint64_t`. -/
abbrev Word := BitVec 64

/-- One hardware thread as hwloc sees it: its OS index, the logical indices of
    the core and socket objects above it, and its rank among its siblings. -/
structure Pu where
  osIndex : Nat
  core : Nat
  socket : Nat
  siblingRank : Nat
  deriving Repr, DecidableEq

/-- The loaded hwloc topology: the PUs in hwloc's logical order and the object
    counts.  The counts are C `int`s. -/
structure Hwloc where
  pus : List Pu
  ncores : Nat
  nsockets : Nat
  deriving Repr, DecidableEq

/-- What `core_config` reports. -/
structure CoreConfig where
  coresPerSocket : Nat
  threadsPerCore : Nat
  sockets : Nat
  deriving Repr, DecidableEq

/-- `core_config`: truncated quotients of hwloc's object counts. -/
def coreConfig (hw : Hwloc) : CoreConfig where
  coresPerSocket := hw.ncores / hw.nsockets
  threadsPerCore := hw.pus.length / hw.ncores
  sockets := hw.nsockets

/-- `NUM_DEVS`, and what `num_devs` returns. -/
def CoreConfig.numDevs (cfg : CoreConfig) : Nat :=
  cfg.sockets * cfg.coresPerSocket * cfg.threadsPerCore

/-- `struct hwthread`. -/
structure HwThread where
  apicId : Nat
  threadId : Nat
  coreId : Nat
  socketId : Nat
  sibling : Nat
  deriving Repr, DecidableEq

/-- `struct topo`.  An entry `none` of the map is malloc'ed memory that has not
    been written yet. -/
structure Topo where
  threadMap : List (Option HwThread)
  discontinuousMapping : Bool
  deriving Repr, DecidableEq

/-- `g_topo_list` before the first call of `find_cpu_top`. -/
def Topo.init : Topo := ⟨[], false⟩

/-! ## find_cpu_top -/

/-- The map entry `find_cpu_top` stores for the `i`-th PU. -/
def Pu.hwThread (pu : Pu) (i : Nat) : HwThread where
  apicId := i
  threadId := pu.osIndex
  coreId := pu.core
  socketId := pu.socket
  sibling := pu.siblingRank

/-- Loop body of `find_cpu_top`: record PU number `i` under its OS index; the
    PU with OS index 1 decides the CPU ordering scheme. -/
def findCpuTopBody (hw : Hwloc) (g : Topo) (i : Nat) : Option Topo := do
  let pu ← hw.pus[i]?
  if pu.osIndex < g.threadMap.length then
    let entry := pu.hwThread i
    return {
      threadMap := g.threadMap.set pu.osIndex (some entry)
      discontinuousMapping :=
        if pu.osIndex = 1 ∧ pu.osIndex ≠ entry.coreId then true
        else g.discontinuousMapping }
  else none

/-- `find_cpu_top`: allocate the map for `nthreads` CPUs and fill it PU by PU. -/
def findCpuTop (hw : Hwloc) (g : Topo) : Option Topo :=
  let nthreads := (coreConfig hw).coresPerSocket * (coreConfig hw).threadsPerCore
    * (coreConfig hw).sockets
  (List.range nthreads).foldlM (findCpuTopBody hw)
    { g with threadMap := List.replicate nthreads none }

/-! ## devidx -/

/-- `devidx`.  The coordinates are C `int`s and are sign-extended when they meet
    the `uint64_t` counts, so all arithmetic is modulo `2 ^ 64`. -/
def devidx (cfg : CoreConfig) (g : Topo) (socket core thread : BitVec 32) : Word :=
  let numSockets := BitVec.ofNat 64 cfg.sockets
  let numCoresPerSocket := BitVec.ofNat 64 cfg.coresPerSocket
  if !g.discontinuousMapping then
    -- continuous mapping
    thread.signExtend 64 * numSockets * numCoresPerSocket
      + socket.signExtend 64 * numCoresPerSocket + core.signExtend 64
  else
    -- discontinuous mapping
    thread.signExtend 64 * numSockets * numCoresPerSocket
      + core.signExtend 64 * numSockets + socket.signExtend 64

end Libmsr
