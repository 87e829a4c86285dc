/-
  Libmsr.Core.BatchStorage

  The table of batches and the functions that fill it: `batch_storage`,
  `allocate_batch` and `create_batch_op` (src/msr_core.c).

  Batch numbers are the enumerators of `libmsr_data_type_e`, so they are natural
  numbers.  An allocation is named by an `id`, so that a pointer into an ops
  array (`Ptr`) keeps its meaning when the batch later gets another array.
  `calloc` is taken to succeed; the library exits the process when it does not.
-/
import Libmsr.Core.Topology
import Mathlib.Algebra.Group.Nat.Defs

namespace Libmsr

/-- `struct msr_batch_op`. -/
structure MsrBatchOp where
  cpu : BitVec 16
  isrdmsr : BitVec 16
  err : BitVec 32
  msr : BitVec 32
  msrdata : Word
  wmask : Word
  deriving Repr, DecidableEq

/-- An op of a freshly `calloc`ed array. -/
def MsrBatchOp.zero : MsrBatchOp := ⟨0, 0, 0, 0, 0, 0⟩

/-- An ops array: which allocation it is, and its contents. -/
structure OpArray where
  id : Nat
  slots : List MsrBatchOp
  deriving Repr, DecidableEq

/-- The address `&ops[slot].msrdata` in the allocation `id`. -/
structure Ptr where
  id : Nat
  slot : Nat
  deriving Repr, DecidableEq

/-- `struct msr_batch_array`; `ops = none` is the NULL pointer. -/
structure MsrBatchArray where
  numops : Nat
  ops : Option OpArray
  deriving Repr, DecidableEq

/-- An entry of a new table: no ops, no array. -/
def MsrBatchArray.empty : MsrBatchArray := ⟨0, none⟩

/-- The static variables of `batch_storage`.  `batch = none` is the NULL table
    before the first call.  `retired` holds the arrays that were replaced
    without being freed, and `nextId` names the next allocation. -/
structure BatchStorage where
  batch : Option (List MsrBatchArray)
  arrsize : Nat
  size : List Nat
  retired : List OpArray
  nextId : Nat
  deriving Repr, DecidableEq

/-- The state before any call. -/
def BatchStorage.init : BatchStorage := ⟨none, 1, [], [], 0⟩

/-- `batch_storage`: make sure the table has an entry `batchnum`. -/
def batchStorage (st : BatchStorage) (batchnum : Nat) : BatchStorage :=
  let st : BatchStorage :=
    match st.batch with
    | some _ => st
    | none =>
      let arrsize := if batchnum + 1 > st.arrsize then batchnum + 1 else st.arrsize
      { st with
        arrsize := arrsize
        size := List.replicate arrsize 0
        batch := some (List.replicate arrsize .empty) }
  if batchnum + 1 > st.arrsize then
    { st with
      arrsize := batchnum + 1
      batch := st.batch.map (· ++ List.replicate (batchnum + 1 - st.arrsize) .empty)
      size := st.size ++ List.replicate (batchnum + 1 - st.arrsize) 0 }
  else st

namespace BatchStorage

/-- `*batchsel` for batch `b`; an entry the table does not have yet is empty. -/
def entry (st : BatchStorage) (b : Nat) : MsrBatchArray :=
  ((st.batch.bind (·[b]?)).getD .empty)

/-- `*opssize` for batch `b`. -/
def capacity (st : BatchStorage) (b : Nat) : Nat := st.size[b]?.getD 0

/-- Store through the `batchsel` pointer of batch `b`. -/
def setEntry (st : BatchStorage) (b : Nat) (e : MsrBatchArray) : BatchStorage :=
  { st with batch := st.batch.map (·.set b e) }

/-- Store through the `opssize` pointer of batch `b`. -/
def setCapacity (st : BatchStorage) (b : Nat) (n : Nat) : BatchStorage :=
  { st with size := st.size.set b n }

/-- `libmsr_calloc` of `n` ops for batch `b`; an array that was there before is
    no longer owned by the batch. -/
def callocOps (st : BatchStorage) (b : Nat) (n : Nat) : BatchStorage :=
  let e := st.entry b
  let st' := st.setEntry b { e with ops := some ⟨st.nextId, List.replicate n .zero⟩ }
  { st' with
    nextId := st.nextId + 1
    retired := match e.ops with
      | none => st.retired
      | some old => st.retired ++ [old] }

end BatchStorage

/-- `allocate_batch`: return code and state.  The `size_t` size is stored in an
    `unsigned`.  The loop that clears `err` counts in an `int` from `numops` up
    to that size, which overflows from `2 ^ 31` on; its stores are to zeroed
    memory.  An array that is already there is reported, then replaced. -/
def allocateBatch (st : BatchStorage) (batchnum bsize : Nat) : Option (Int × BatchStorage) :=
  let st := batchStorage st batchnum
  let st := st.setCapacity batchnum (bsize % 2 ^ 32)
  let n := st.capacity batchnum
  if (st.entry batchnum).numops < n ∧ 2 ^ 31 ≤ n then none
  else some (0, st.callocOps batchnum n)

/-- The op `create_batch_op` leaves in a slot. -/
def MsrBatchOp.fill (op : MsrBatchOp) (msr : Nat) (cpu : Word) : MsrBatchOp :=
  { op with msr := BitVec.ofNat 32 msr, cpu := cpu.setWidth 16, isrdmsr := 1, err := 0 }

/-- `create_batch_op`: return code, what is stored through `dest`, and state.
    `none` when the op would be written through NULL or outside the array. -/
def createBatchOp (st : BatchStorage) (msr : Nat) (cpu : Word) (batchnum : Nat) :
    Option (Int × Option Ptr × BatchStorage) :=
  let st := batchStorage st batchnum
  let e := st.entry batchnum
  -- a full batch passes this test
  if e.numops > st.capacity batchnum then some (-1, none, st)
  else
    match e.ops with
    | none => none
    | some a =>
      match a.slots[e.numops]? with
      | none => none
      | some op =>
        let a' := { a with slots := a.slots.set e.numops (op.fill msr cpu) }
        some (0, some ⟨a.id, e.numops⟩,
          st.setEntry batchnum ⟨(e.numops + 1) % 2 ^ 32, some a'⟩)

end Libmsr
