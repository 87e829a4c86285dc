/-
  Libmsr.Core.BatchOp

  Executing a batch: `do_batch_op`, its fallback `compatibility_batch`, and
  `read_batch` / `write_batch` over them (src/msr_core.c).

  The kernel's msr_batch driver is outside the repository.  `BatchDriver` is
  what the ioctl does to a list of ops: a return code, an `(err, msrdata)` reply
  for every op, and a new host.  It cannot change the other fields of an op.
-/
import Libmsr.Core.BatchStorage
import Libmsr.Core.Device

namespace Libmsr

/-- `libmsr_batch_op_type_e`. -/
inductive BatchOpType where
  | load
  | write
  | read
  deriving Repr, DecidableEq

/-- What the driver writes back into an op. -/
structure OpReply where
  err : BitVec 32
  msrdata : Word
  deriving Repr, DecidableEq

/-- The op after the driver's reply. -/
def MsrBatchOp.reply (op : MsrBatchOp) (r : OpReply) : MsrBatchOp :=
  { op with err := r.err, msrdata := r.msrdata }

/-- The ioctl `X86_IOC_MSR_BATCH`: return code, reply to op `i`, host. -/
structure BatchDriver where
  ioctl : Host → List MsrBatchOp → Int × (Nat → OpReply) × Host

/-- Outcome of executing a batch.  `handed` records the ops the ioctl was issued
    with, if it was issued. -/
structure BatchResult where
  rc : Int
  st : BatchStorage
  host : Host
  handed : Option (List MsrBatchOp)

/-! ## compatibility_batch -/

/-- Loop body of `compatibility_batch`: one op through the per-CPU devices. -/
def compatibilityOp (h : Host) (type : BatchOpType) (op : MsrBatchOp) : MsrBatchOp × Host :=
  if type = .read then
    let (_, val, h') := readMsrByIdx h (op.cpu.setWidth 32) op.msr.toNat op.msrdata
    ({ op with msrdata := val }, h')
  else
    let (_, h') := writeMsrByIdx h (op.cpu.setWidth 32) op.msr.toNat op.msrdata
    (op, h')

/-- The loop of `compatibility_batch`. -/
def compatibilityOps (type : BatchOpType) : Host → List MsrBatchOp → List MsrBatchOp × Host
  | h, [] => ([], h)
  | h, op :: ops =>
    let (op', h') := compatibilityOp h type op
    let (ops', h'') := compatibilityOps type h' ops
    (op' :: ops', h'')

/-- The batch's ops array with the first ops replaced. -/
def OpArray.overwrite (a : OpArray) (ops : List MsrBatchOp) : OpArray :=
  { a with slots := ops ++ a.slots.drop ops.length }

/-- `compatibility_batch`.  `none` when the loop leaves the array. -/
def compatibilityBatch (st : BatchStorage) (h : Host) (batchnum : Nat) (type : BatchOpType) :
    Option BatchResult :=
  let st := batchStorage st batchnum
  let e := st.entry batchnum
  if e.numops = 0 then some ⟨0, st, h, none⟩
  else
    match e.ops with
    | none => none
    | some a =>
      if a.slots.length < e.numops then none
      else
        let (ops, h') := compatibilityOps type h (a.slots.take e.numops)
        some ⟨0, st.setEntry batchnum { e with ops := some (a.overwrite ops) }, h', none⟩

/-! ## do_batch_op -/

/-- If the flag of the first op is of the opposite type, switch all flags. -/
def switchFlags (type : BatchOpType) (ops : List MsrBatchOp) : List MsrBatchOp :=
  match ops with
  | [] => []
  | op :: _ =>
    if (type = .write ∧ op.isrdmsr ≠ 0) ∨ (type = .read ∧ op.isrdmsr = 0) then
      ops.map fun op => { op with isrdmsr := if type = .read then 1 else 0 }
    else ops

/-- `do_batch_op`.  `batchfd` is the static descriptor of /dev/cpu/msr_batch
    after the attempt to open it; negative means there is no such driver. -/
def doBatchOp (drv : BatchDriver) (batchfd : Int) (st : BatchStorage) (h : Host) (batchnum : Nat)
    (type : BatchOpType) : Option BatchResult :=
  if batchfd < 0 then compatibilityBatch st h batchnum type
  else
    let st := batchStorage st batchnum
    let e := st.entry batchnum
    if e.numops ≤ 0 then some ⟨-1, st, h, none⟩
    else
      match e.ops with
      | none => none
      | some a =>
        if a.slots.length < e.numops then none
        else
          -- only the flag of the first op decides
          let ops := switchFlags type (a.slots.take e.numops)
          let (res, replies, h') := drv.ioctl h ops
          let ops' := ops.mapIdx fun i op => op.reply (replies i)
          some ⟨res, st.setEntry batchnum { e with ops := some (a.overwrite ops') }, h',
            some ops⟩

/-- `read_batch`. -/
def readBatch (drv : BatchDriver) (batchfd : Int) (st : BatchStorage) (h : Host)
    (batchnum : Nat) : Option BatchResult :=
  doBatchOp drv batchfd st h batchnum .read

/-- `write_batch`. -/
def writeBatch (drv : BatchDriver) (batchfd : Int) (st : BatchStorage) (h : Host)
    (batchnum : Nat) : Option BatchResult :=
  doBatchOp drv batchfd st h batchnum .write

end Libmsr
