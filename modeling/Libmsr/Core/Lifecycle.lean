/-
  Libmsr.Core.Lifecycle

  `init_msr`, `finalize_msr` and the descriptor table between them
  (src/msr_core.c, src/memhdlr.c).

  The lifecycle state of the library is spread over function-local statics: the
  flag of `init_msr`, the flag and the array of `core_fd`, and the list of
  arrays that the memory handler frees.  `Process` holds them beside the host.
  A result `none` stands for a step without defined behaviour: an access to the
  array after `memhdlr_finalize` freed it, or freeing it twice.
-/
import Libmsr.Core.DeviceSpec

namespace Libmsr

/-- A file `init_msr` asks for. -/
inductive DevFile where
  /-- `/dev/cpu/msr_whitelist` -/
  | whitelist
  /-- `/dev/cpu/<cpu>/msr` -/
  | msr (cpu : Nat)
  /-- `/dev/cpu/<cpu>/msr_safe` -/
  | msrSafe (cpu : Nat)
  deriving Repr, DecidableEq

/-- The CPU whose MSR device the file is. -/
def DevFile.cpu : DevFile → Option Nat
  | .whitelist => none
  | .msr cpu => some cpu
  | .msrSafe cpu => some cpu

/-- The owner's permission bits of a file. -/
structure FileMode where
  readable : Bool
  writable : Bool
  deriving Repr, DecidableEq

/-- What the operating system answers during one call of `init_msr`: the mode
    that `stat` finds and the descriptor that `open` hands out, `none` where the
    call fails.  No file is asked for twice in one call. -/
structure FileSystem where
  stat : DevFile → Option FileMode
  opens : DevFile → Option Int

/-- The local `kerneltype` of `init_msr`: 0, 1 and 3. -/
inductive KernelType where
  | msrSafe
  | msr
  | unknown
  deriving Repr, DecidableEq

/-- `stat_module`: return code, `*kerneltype` and `*dev_idx`. -/
def statModule (fs : FileSystem) (filename : DevFile) (kerneltype : KernelType) (devIdx : Int) :
    Int × KernelType × Int :=
  match kerneltype, fs.stat filename with
  | .unknown, none => (-1, .msr, devIdx)
  | .unknown, some mode =>
    if !mode.readable || !mode.writable then (-1, .msr, devIdx) else (0, .msrSafe, devIdx)
  | .msr, none => (-1, .msr, devIdx)
  -- no msr_safe module, so start over with the msr module
  | .msrSafe, none => (0, .msr, -1)
  | kt, some mode => if !mode.readable || !mode.writable then (-1, .msr, -1) else (0, kt, devIdx)

/-- The array of `core_fd`. -/
inductive Table where
  | unallocated
  | allocated
  | freed
  deriving Repr, DecidableEq

/-- The process.  `others` are the descriptors open on other files, `malloced` is
    what the array holds before it is written, and `init` is the static flag of
    `init_msr`. -/
structure Process where
  host : Host
  others : Int → Bool
  table : Table
  malloced : Nat → Int
  init : Bool

namespace Process

/-- `open`.  It hands out a descriptor that is not in use. -/
def openFile (p : Process) (fs : FileSystem) (filename : DevFile) : Int × Process :=
  match fs.opens filename with
  | none => (-1, p)
  | some fd =>
    if 0 ≤ fd ∧ p.host.openOn fd = none ∧ p.others fd = false then
      (fd, { p with host := { p.host with
        openOn := fun d => if d = fd then filename.cpu else p.host.openOn d } })
    else (-1, p)

/-- `close`.  A descriptor that is open is given up even where an error is
    reported. -/
def closeFile (p : Process) (fails : Bool) (fd : Int) : Int × Process :=
  if p.host.openOn fd = none ∧ p.others fd = false then (-1, p)
  else (if fails then -1 else 0,
    { p with
      host := { p.host with openOn := fun d => if d = fd then none else p.host.openOn d }
      others := fun d => if d = fd then false else p.others d })

/-- The first call of `core_fd` allocates the array. -/
def allocTable (numDevs : Nat) (p : Process) : Process :=
  match p.table with
  | .unallocated => { p with
      table := .allocated
      host := { p.host with fileDescriptors := (List.range numDevs).map p.malloced } }
  | _ => p

/-- `core_fd` for an index below the device count, its result dereferenced. -/
def coreFd (numDevs : Nat) (p : Process) : Option Process :=
  let p := p.allocTable numDevs
  if p.table = .freed then none else some p

/-- `*fileDescriptor = fd`. -/
def setEntry (p : Process) (devIdx : Nat) (fd : Int) : Process :=
  { p with host := { p.host with fileDescriptors := p.host.fileDescriptors.set devIdx fd } }

/-- `memhdlr_finalize`, as far as the array of `core_fd` is concerned.  The list
    of arrays is not emptied, so a second call frees it again. -/
def memhdlrFinalize (p : Process) : Option Process :=
  match p.table with
  | .unallocated => some p
  | .allocated => some { p with table := .freed }
  | .freed => none

end Process

/-! ## init_msr -/

/-- How far `kerneltype` still has to go; the loop of `init_msr` starts over only
    when it falls. -/
def KernelType.rank : KernelType → Nat
  | .msr => 0
  | .msrSafe => 1
  | .unknown => 2

theorem statModule_rank_le (fs : FileSystem) (filename : DevFile) (kt : KernelType) (devIdx : Int) :
    (statModule fs filename kt devIdx).2.1.rank ≤ kt.rank := by
  cases kt <;> cases hstat : fs.stat filename <;> simp only [statModule, hstat] <;> try split
  all_goals simp [KernelType.rank]

/-- `stat_module` asks for a new start only on the way from msr_safe to msr. -/
theorem statModule_restart {fs : FileSystem} {filename : DevFile} {kt : KernelType} {devIdx : Int}
    (hidx : 0 ≤ devIdx) (hrc : ¬ (statModule fs filename kt devIdx).1 < 0)
    (hneg : (statModule fs filename kt devIdx).2.2 < 0) :
    (statModule fs filename kt devIdx).2.1.rank < kt.rank := by
  revert hrc hneg
  cases kt <;> cases hstat : fs.stat filename <;> simp only [statModule, hstat] <;> try split
  all_goals simp [KernelType.rank]; try omega

/-- The interface of a device: by the msr_safe module, or else by the msr module. -/
def KernelType.filename (kerneltype : KernelType) (devIdx : Nat) : DevFile :=
  if kerneltype ≠ .msrSafe then .msr devIdx else .msrSafe devIdx

/-- The call of `stat_module` for a device. -/
def statDevice (fs : FileSystem) (kerneltype : KernelType) (devIdx : Nat) :
    Int × KernelType × Int :=
  statModule fs (kerneltype.filename devIdx) kerneltype devIdx

/-- The loop of `init_msr` from `dev_idx` on. -/
def initLoop (numDevs : Nat) (fs : FileSystem) (kerneltype : KernelType) (devIdx : Nat)
    (p : Process) : Option (Int × Process) :=
  if devIdx < numDevs then
    if hrc : (statDevice fs kerneltype devIdx).1 < 0 then some (-1, p)
    else if _hneg : (statDevice fs kerneltype devIdx).2.2 < 0 then
      -- `dev_idx` is -1 and the loop adds 1
      initLoop numDevs fs (statDevice fs kerneltype devIdx).2.1 0 p
    else do
      let p ← p.coreFd numDevs
      let (fd, p) := p.openFile fs (kerneltype.filename devIdx)
      let p := p.setEntry devIdx fd
      if fd = -1 then
        if hkt : (statDevice fs kerneltype devIdx).2.1 ≠ .msrSafe then some (-1, p)
        else initLoop numDevs fs .msr 0 p
      else initLoop numDevs fs (statDevice fs kerneltype devIdx).2.1 (devIdx + 1) p
  else some (0, p)
termination_by (kerneltype.rank, numDevs - devIdx)
decreasing_by
  · exact Prod.Lex.left _ _ (statModule_restart (Int.natCast_nonneg devIdx) hrc _hneg)
  · have hle : (statDevice fs kerneltype devIdx).2.1.rank ≤ kerneltype.rank :=
      statModule_rank_le fs _ kerneltype devIdx
    rw [not_not.mp hkt] at hle
    exact Prod.Lex.left _ _ hle
  · have hle : (statDevice fs kerneltype devIdx).2.1.rank ≤ kerneltype.rank :=
      statModule_rank_le fs _ kerneltype devIdx
    rcases Nat.lt_or_eq_of_le hle with hlt | heq
    · exact Prod.Lex.left _ _ hlt
    · rw [heq]
      exact Prod.Lex.right _ (by omega)

/-- `init_msr`.  (`find_cpu_top` always returns 1.) -/
def initMsr (numDevs : Nat) (fs : FileSystem) (p : Process) : Option (Int × Process) :=
  if p.init then some (0, p)
  else do
    -- the return code is dropped, and `dev_idx` is not needed for the whitelist
    let (_, kerneltype, _) := statModule fs .whitelist .unknown 0
    let (rc, p) ← initLoop numDevs fs kerneltype 0 p
    if rc ≠ 0 then some (rc, p)
    else some (0, { p with init := true })

/-! ## finalize_msr -/

/-- The loop of `finalize_msr` from `dev_idx` on; `closeFails` are the devices
    whose `close` reports an error. -/
def closeLoop (numDevs : Nat) (closeFails : Nat → Bool) (devIdx : Nat) (p : Process) :
    Option (Int × Process) :=
  if devIdx < numDevs then do
    let p ← p.coreFd numDevs
    let fd ← p.host.fileDescriptors[devIdx]?
    let (rc, p) := p.closeFile (closeFails devIdx) fd
    if rc ≠ 0 then some (-1, p)
    else closeLoop numDevs closeFails (devIdx + 1) (p.setEntry devIdx 0)
  else some (0, p)
termination_by numDevs - devIdx

/-- `finalize_msr`.  None of the static flags is reset. -/
def finalizeMsr (numDevs : Nat) (closeFails : Nat → Bool) (p : Process) :
    Option (Int × Process) := do
  let (rc, p) ← closeLoop numDevs closeFails 0 p
  if rc ≠ 0 then some (rc, p)
  else
    let p ← p.memhdlrFinalize
    some (0, p)

/-! ## Register access -/

/-- `read_msr_by_idx` in the process. -/
def Process.readMsrByIdx (numDevs : Nat) (p : Process) (devIdx : BitVec 32) (msr : Nat)
    (val : Word) : Option (Int × Process) :=
  let p := p.allocTable numDevs
  if p.table = .freed ∧ (Libmsr.coreFd p.host devIdx).isSome then none
  else
    let (rc, _, h) := Libmsr.readMsrByIdx p.host devIdx msr val
    some (rc, { p with host := h })

/-- `write_msr_by_idx` in the process. -/
def Process.writeMsrByIdx (numDevs : Nat) (p : Process) (devIdx : BitVec 32) (msr : Nat)
    (val : Word) : Option (Int × Process) :=
  let p := p.allocTable numDevs
  if p.table = .freed ∧ (Libmsr.coreFd p.host devIdx).isSome then none
  else
    let (rc, h) := Libmsr.writeMsrByIdx p.host devIdx msr val
    some (rc, { p with host := h })

/-! ## Sessions -/

/-- A call of the library. -/
inductive Call where
  | init (fs : FileSystem)
  | finalize (closeFails : Nat → Bool)
  | read (devIdx : BitVec 32) (msr : Nat) (val : Word)
  | write (devIdx : BitVec 32) (msr : Nat) (val : Word)

/-- Return code and process after a call. -/
def Call.exec (numDevs : Nat) (p : Process) : Call → Option (Int × Process)
  | .init fs => initMsr numDevs fs p
  | .finalize closeFails => finalizeMsr numDevs closeFails p
  | .read devIdx msr val => p.readMsrByIdx numDevs devIdx msr val
  | .write devIdx msr val => p.writeMsrByIdx numDevs devIdx msr val

/-- The process with what has been called so far: `initialised` if the most
    recent lifecycle call is an `init_msr` that returned 0, `finalised` if
    `finalize_msr` has been called after an `init_msr` that returned 0. -/
structure Session where
  process : Process
  initialised : Bool
  finalised : Bool

namespace Session

/-- A process that has not called the library yet, whatever else it has open. -/
def start (p : Process) : Session where
  process := { p with
    host := { p.host with fileDescriptors := [] }
    table := .unallocated
    init := false }
  initialised := false
  finalised := false

/-- One call. -/
def step (numDevs : Nat) (s : Session) (c : Call) : Option Session :=
  (c.exec numDevs s.process).map fun r =>
    match c with
    | .init _ => { s with process := r.2, initialised := r.1 = 0 }
    -- the static flag is set by an `init_msr` that returned 0
    | .finalize _ => ⟨r.2, false, s.finalised || s.process.init⟩
    | _ => { s with process := r.2 }

end Session

end Libmsr
