/-
  Libmsr.Core.Device

  Register access through the descriptor table: `core_fd`, `read_msr_by_idx`,
  `write_msr_by_idx` and the two coordinate functions over them
  (src/msr_core.c).

  `Host` is the operating system and the hardware as the library sees them: the
  descriptor table, which CPU's MSR device each descriptor is open on, the
  register files, and the reads and the writes that fail.  `issued` records the
  `pread` and `pwrite` calls that reached a device, in order.
-/
import Libmsr.Core.Topology
import Mathlib.Tactic.Common

namespace Libmsr

/-- A `pread` or `pwrite` that reached a CPU's MSR device. -/
inductive Access where
  | read (cpu msr : Nat)
  | write (cpu msr : Nat) (val : Word)
  deriving Repr, DecidableEq

/-- The host: `fileDescriptors` is the array `core_fd` hands out entries of.
    `fails` is about reads, `failsWrite` about writes. -/
structure Host where
  fileDescriptors : List Int
  openOn : Int → Option Nat
  regs : Nat → Nat → Word
  fails : Nat → Nat → Bool
  failsWrite : Nat → Nat → Bool
  issued : List Access

namespace Host

/-- The register file after CPU `cpu`'s register `msr` takes the value `val`. -/
def setReg (h : Host) (cpu msr : Nat) (val : Word) : Host :=
  { h with regs := fun c r => if c = cpu ∧ r = msr then val else h.regs c r }

/-- Record an access. -/
def log (h : Host) (a : Access) : Host := { h with issued := h.issued ++ [a] }

/-- `pread` of 8 bytes at offset `msr`: `none` unless all 8 bytes arrive. -/
def pread (h : Host) (fd : Int) (msr : Nat) : Option Word × Host :=
  match h.openOn fd with
  | none => (none, h)
  | some cpu =>
    (if h.fails cpu msr then none else some (h.regs cpu msr), h.log (.read cpu msr))

/-- `pwrite` of 8 bytes at offset `msr`: `false` unless all 8 bytes are taken. -/
def pwrite (h : Host) (fd : Int) (msr : Nat) (val : Word) : Bool × Host :=
  match h.openOn fd with
  | none => (false, h)
  | some cpu =>
    if h.failsWrite cpu msr then (false, h.log (.write cpu msr val))
    else (true, (h.setReg cpu msr val).log (.write cpu msr val))

/-- After a successful `init_msr` on `n` CPUs, table entry `i` is a descriptor
    open on the MSR device of CPU `i`. -/
structure Ready (h : Host) (n : Nat) : Prop where
  length : h.fileDescriptors.length = n
  entry : ∀ i, i < n → ∃ fd, h.fileDescriptors[i]? = some fd ∧ h.openOn fd = some i

/-- A host whose `n` MSR devices are open on the descriptors from 3 on, all
    registers holding 0 and no access to them failing. -/
def opened (n : Nat) : Host where
  fileDescriptors := (List.range n).map fun i : Nat => (i : Int) + 3
  openOn fd := if 3 ≤ fd then some (fd - 3).toNat else none
  regs _ _ := 0
  fails cpu _ := n ≤ cpu
  failsWrite cpu _ := n ≤ cpu
  issued := []

theorem opened_ready (n : Nat) : (opened n).Ready n := by
  refine ⟨?_, fun i hi => ⟨(i : Int) + 3, ?_, ?_⟩⟩
  · rw [opened, List.length_map, List.length_range]
  · rw [opened, List.getElem?_map, List.getElem?_range hi, Option.map_some]
  · have h3 : (3 : Int) ≤ (i : Int) + 3 := by omega
    simp only [opened, if_pos h3]
    congr 1
    omega

end Host

/-- `core_fd`: the table entry for `dev_idx`, `none` for the NULL pointer.  The
    `int` index is compared with the `uint64_t` device count. -/
def coreFd (h : Host) (devIdx : BitVec 32) : Option Nat :=
  if (devIdx.signExtend 64).toNat < h.fileDescriptors.length then some devIdx.toNat else none

/-- `read_msr_by_idx`: return code, what `*val` holds afterwards, and the host. -/
def readMsrByIdx (h : Host) (devIdx : BitVec 32) (msr : Nat) (val : Word) : Int × Word × Host :=
  match coreFd h devIdx with
  | none => (-1, val, h)
  | some entry =>
    match h.fileDescriptors[entry]? with
    | none => (-1, val, h)
    | some fd =>
      match h.pread fd msr with
      | (none, h') => (-1, val, h')
      | (some v, h') => (0, v, h')

/-- `write_msr_by_idx`. -/
def writeMsrByIdx (h : Host) (devIdx : BitVec 32) (msr : Nat) (val : Word) : Int × Host :=
  match coreFd h devIdx with
  | none => (-1, h)
  | some entry =>
    match h.fileDescriptors[entry]? with
    | none => (-1, h)
    | some fd =>
      match h.pwrite fd msr val with
      | (false, h') => (-1, h')
      | (true, h') => (0, h')

/-- `sockets_assert`. -/
def socketsAssert (cfg : CoreConfig) (socket : BitVec 32) : Int :=
  if socket.toNat > cfg.sockets then -1 else 0

/-- `threads_assert`. -/
def threadsAssert (cfg : CoreConfig) (thread : BitVec 32) : Int :=
  if thread.toNat > cfg.threadsPerCore then -1 else 0

/-- `cores_assert`. -/
def coresAssert (cfg : CoreConfig) (core : BitVec 32) : Int :=
  if core.toNat > cfg.coresPerSocket then -1 else 0

/-- `write_msr_by_coord`. -/
def writeMsrByCoord (cfg : CoreConfig) (g : Topo) (h : Host) (socket core thread : BitVec 32)
    (msr : Nat) (val : Word) : Int × Host :=
  -- the return codes of the three checks are dropped
  let _ := socketsAssert cfg socket
  let _ := coresAssert cfg core
  let _ := threadsAssert cfg thread
  writeMsrByIdx h ((devidx cfg g socket core thread).setWidth 32) msr val

/-- `read_msr_by_coord`, for a `val` that is not NULL. -/
def readMsrByCoord (cfg : CoreConfig) (g : Topo) (h : Host) (socket core thread : BitVec 32)
    (msr : Nat) (val : Word) : Int × Word × Host :=
  let _ := socketsAssert cfg socket
  let _ := coresAssert cfg core
  let _ := threadsAssert cfg thread
  readMsrByIdx h ((devidx cfg g socket core thread).setWidth 32) msr val

end Libmsr
