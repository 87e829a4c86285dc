/-
  Libmsr.Csr.CsrDevice

  The descriptor of the csr_safe module: `csr_fd`, `init_csr`, `finalize_csr` and
  `do_csr_batch_op` (src/csr_core.c).

  What the operating system answers is given with each call.  `held` is no variable of
  the code: it is the descriptor that `init_csr` opened, as long as it is open.
-/
import Libmsr.Core.Lifecycle
import Libmsr.Csr.CsrBatchRuns

namespace Libmsr

/-- The messages that the functions print. -/
inductive CsrMessage where
  /-- `init_csr(): Could not stat` -/
  | couldNotStat
  /-- `init_csr(): Incorrect permissions on csr_safe` -/
  | incorrectPermissions
  /-- `init_csr(): Unable to find csr_safe module` -/
  | unableToFindModule
  /-- `finalize_csr(): Could not close csr_fd` -/
  | couldNotClose
  /-- `do_csr_batch_op(): Using empty batch` -/
  | emptyBatch
  /-- `do_csr_batch_op(): IOctl failed, does /dev/cpu/csr_batch exist?` -/
  | ioctlFailed
  deriving Repr, DecidableEq

/-- Outcome of `stat`, and what is in the buffer then: after a failure, what was in it
    before. -/
structure StatOutcome where
  fails : Bool
  mode : FileMode
  deriving Repr, DecidableEq

/-- Outcome of `close`.  After a failure the descriptor may be open or not. -/
structure CloseOutcome where
  fails : Bool
  released : Bool
  deriving Repr, DecidableEq

/-- What the driver writes back into an op. -/
structure CsrReply where
  err : BitVec 32
  csrdata : Word
  deriving Repr, DecidableEq

/-- Outcome of the ioctl `CSRSAFE_8086_BATCH`. -/
structure CsrIoctl where
  res : Int
  replies : Nat → CsrReply

/-- The statics of the functions: `csrsafe`, the flag of `init_csr`, the descriptor that
    `do_csr_batch_op` keeps, and the batches. -/
structure CsrProcess where
  csrFd : Int
  init : Bool
  batchfd : Int
  st : CsrBatchStorage
  held : Option Int
  deriving Repr, DecidableEq

/-- Before any call. -/
def CsrProcess.start : CsrProcess := ⟨0, false, 0, .init, none⟩

/-- What a call did: its return code, the descriptor it issued an ioctl on, and its
    messages. -/
structure CsrResult where
  rc : Int
  ioctl : Option Int
  messages : List CsrMessage
  deriving Repr, DecidableEq

/-- `init_csr`.  `opened` is what `open` returns. -/
def initCsr (p : CsrProcess) (stat : StatOutcome) (opened : Int) : CsrResult × CsrProcess :=
  if !p.init then
    -- neither of these makes it return
    let noStat := if stat.fails then [.couldNotStat] else []
    let noAccess :=
      if !stat.mode.readable || !stat.mode.writable then [.incorrectPermissions] else []
    (⟨0, none, noStat ++ noAccess⟩, { p with
      init := true
      csrFd := opened
      held := if 0 ≤ opened then some opened else p.held })
  else (⟨-1, none, [.unableToFindModule]⟩, p)

/-- `finalize_csr`. -/
def finalizeCsr (p : CsrProcess) (out : CloseOutcome) : CsrResult × CsrProcess :=
  let p := if (!out.fails || out.released) && p.held = some p.csrFd then
    { p with held := none } else p
  if out.fails then (⟨-1, none, [.couldNotClose]⟩, p)
  else (⟨0, none, []⟩, { p with csrFd := 0 })

/-- The batch's array with the driver's replies in its first `n` ops. -/
def CsrOpArray.answered (a : CsrOpArray) (replies : Nat → CsrReply) (n : Nat) : CsrOpArray :=
  { a with slots := a.slots.mapIdx fun i op =>
      if i < n then { op with err := (replies i).err, csrdata := (replies i).csrdata } else op }

/-- `do_csr_batch_op`.  After a failed ioctl the ops are searched for errors to print. -/
def doCsrBatchOp (p : CsrProcess) (batchnum : Nat) (out : CsrIoctl) :
    Option (CsrResult × CsrProcess) :=
  let p := if p.batchfd = 0 then { p with batchfd := p.csrFd } else p
  let st := csrBatchStorage p.st batchnum
  let e := st.entry batchnum
  if e.numops ≤ 0 then some (⟨-1, none, [.emptyBatch]⟩, { p with st := st })
  else
    match e.ops with
    | none => none
    | some a =>
      if a.slots.length < e.numops then none
      else
        some (⟨0, some p.batchfd, if out.res < 0 then [.ioctlFailed] else []⟩, { p with
          st := st.setEntry batchnum { e with ops := some (a.answered out.replies e.numops) } })

/-- A call.  `fill` is one of the calls that fill batches. -/
inductive CsrDeviceCall where
  | init (stat : StatOutcome) (opened : Int)
  | finalize (out : CloseOutcome)
  | batchOp (batchnum : Nat) (out : CsrIoctl)
  | fill (call : CsrCall)

/-- Execute a call. -/
def CsrProcess.exec (p : CsrProcess) : CsrDeviceCall → Option (CsrResult × CsrProcess)
  | .init stat opened => some (initCsr p stat opened)
  | .finalize out => some (finalizeCsr p out)
  | .batchOp batchnum out => doCsrBatchOp p batchnum out
  | .fill call => (csrCall p.st call).map fun r => (⟨r.1, none, []⟩, { p with st := r.2.2 })

/-- The state after the call. -/
def CsrProcess.step (p : CsrProcess) (call : CsrDeviceCall) : Option CsrProcess :=
  (p.exec call).map Prod.snd

end Libmsr
