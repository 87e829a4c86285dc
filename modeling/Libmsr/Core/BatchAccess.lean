/-
  Libmsr.Core.BatchAccess

  What the register modules (src/msr_clocks.c, src/msr_turbo.c, src/msr_thermal.c,
  src/msr_counters.c) do with a batch: follow the pointers that the load
  functions gave them, and hand the batch to `read_batch` and `write_batch`.
-/
import Libmsr.Core.BatchLoad
import Libmsr.Core.BatchOp

namespace Libmsr

/-- What does not change while the library runs: the machine, the thread map, the
    msr_batch driver and its descriptor. -/
structure Platform where
  cfg : CoreConfig
  topo : Topo
  drv : BatchDriver
  batchfd : Int

/-- `*p`, for a pointer into the array of batch `b`. -/
def BatchStorage.load (st : BatchStorage) (b : Nat) (p : Ptr) : Option Word :=
  (st.opAt b p).map MsrBatchOp.msrdata

/-- `*p = val`, for a pointer into the array of batch `b`. -/
def BatchStorage.store (st : BatchStorage) (b : Nat) (p : Ptr) (val : Word) :
    Option BatchStorage :=
  match (st.entry b).ops, st.opAt b p with
  | some a, some op => some (st.setEntry b { st.entry b with
      ops := some { a with slots := a.slots.set p.slot { op with msrdata := val } } })
  | _, _ => none

/-- `val[i]`: `none` outside the array, and for a pointer that was never set. -/
def ptrAt (val : List (Option Ptr)) (i : Nat) : Option Ptr := val[i]?.join

/-- The batches and the host, which every call of a register module works on. -/
structure BatchWorld where
  st : BatchStorage
  host : Host

/-- `read_batch`, its return code dropped. -/
def BatchWorld.readBatch (P : Platform) (w : BatchWorld) (batchnum : Nat) : Option BatchWorld :=
  (Libmsr.readBatch P.drv P.batchfd w.st w.host batchnum).map fun r => ⟨r.st, r.host⟩

/-- `write_batch`, its return code dropped. -/
def BatchWorld.writeBatch (P : Platform) (w : BatchWorld) (batchnum : Nat) : Option BatchWorld :=
  (Libmsr.writeBatch P.drv P.batchfd w.st w.host batchnum).map fun r => ⟨r.st, r.host⟩

/-- `*val[i] = f(*val[i])`. -/
def BatchWorld.modify (w : BatchWorld) (batchnum : Nat) (val : List (Option Ptr)) (i : Nat)
    (f : Word → Word) : Option BatchWorld := do
  let p ← ptrAt val i
  let x ← w.st.load batchnum p
  let st ← w.st.store batchnum p (f x)
  some { w with st := st }

/-- `for (i = 0; i < count; i++) *val[i] = f(i, *val[i])`, as a step on `w`. -/
def BatchWorld.modifyEach (w : BatchWorld) (batchnum : Nat) (val : List (Option Ptr))
    (count : Nat) (f : Nat → Word → Word) : Option BatchWorld :=
  (List.range count).foldlM (fun w i => w.modify batchnum val i (f i)) w

end Libmsr
