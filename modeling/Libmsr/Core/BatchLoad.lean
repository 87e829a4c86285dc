/-
  Libmsr.Core.BatchLoad

  Filling a batch for a whole machine: `load_socket_batch`, `load_core_batch`
  and `load_thread_batch` (src/msr_core.c).

  The `val` array of the caller is a list of pointers; `none` is an element that
  has not been set yet.
-/
import Libmsr.Core.BatchStorage

namespace Libmsr

/-- The caller's array `val` and the table of batches. -/
structure Loading where
  val : List (Option Ptr)
  st : BatchStorage
  deriving Repr, DecidableEq

/-- The op a pointer into the array of batch `b` points at. -/
def BatchStorage.opAt (st : BatchStorage) (b : Nat) (p : Ptr) : Option MsrBatchOp :=
  (st.entry b).ops.bind fun a => if a.id = p.id then a.slots[p.slot]? else none

/-- `create_batch_op(msr, dev_idx, &val[val_idx], batchnum)`, its return code
    dropped.  `none` when the pointer is stored outside `val`. -/
def loadOp (msr batchnum : Nat) (s : Loading) (valIdx devIdx : Nat) : Option Loading := do
  let (_, dest, st) ← createBatchOp s.st msr (BitVec.ofNat 64 devIdx) batchnum
  match dest with
  | none => some { s with st := st }
  | some p => if valIdx < s.val.length then some ⟨s.val.set valIdx (some p), st⟩ else none

/-- The inner loop: the first of the `k` CPUs from `devIdx` on whose map entry
    satisfies `p`.  The outer `none` is an entry that was never written. -/
def firstDev (g : Topo) (p : HwThread → Bool) : Nat → Nat → Option (Option Nat)
  | _, 0 => some none
  | devIdx, k + 1 =>
    match g.threadMap[devIdx]? with
    | some (some entry) => if p entry then some (some devIdx) else firstDev g p (devIdx + 1) k
    | _ => none

/-- The nested loops of `load_socket_batch` and `load_core_batch`: for each of
    the `count` indices, an op on the first CPU whose `key` is that index. -/
def loadBatchBy (cfg : CoreConfig) (g : Topo) (key : HwThread → Nat) (count msr batchnum : Nat)
    (s : Loading) : Option Loading :=
  (List.range count).foldlM (fun s valIdx => do
    match ← firstDev g (fun entry => key entry = valIdx) 0 cfg.numDevs with
    | none => some s
    | some devIdx => loadOp msr batchnum s valIdx devIdx) s

/-- `load_socket_batch`: return code, `val` and state. -/
def loadSocketBatch (cfg : CoreConfig) (g : Topo) (st : BatchStorage) (msr : Nat)
    (val : Option (List (Option Ptr))) (batchnum : Nat) :
    Option (Int × Option (List (Option Ptr)) × BatchStorage) :=
  match val with
  | none => some (-1, none, st)
  | some val => do
    let s ← loadBatchBy cfg g HwThread.socketId cfg.sockets msr batchnum ⟨val, st⟩
    some (0, some s.val, s.st)

/-- `load_core_batch`. -/
def loadCoreBatch (cfg : CoreConfig) (g : Topo) (st : BatchStorage) (msr : Nat)
    (val : Option (List (Option Ptr))) (batchnum : Nat) :
    Option (Int × Option (List (Option Ptr)) × BatchStorage) :=
  let coretotal := cfg.sockets * cfg.coresPerSocket
  match val with
  | none => some (-1, none, st)
  | some val => do
    let s ← loadBatchBy cfg g HwThread.coreId coretotal msr batchnum ⟨val, st⟩
    some (0, some s.val, s.st)

/-- `load_thread_batch`: an op on every CPU. -/
def loadThreadBatch (cfg : CoreConfig) (st : BatchStorage) (msr : Nat)
    (val : Option (List (Option Ptr))) (batchnum : Nat) :
    Option (Int × Option (List (Option Ptr)) × BatchStorage) :=
  match val with
  | none => some (-1, none, st)
  | some val => do
    let s ← (List.range cfg.numDevs).foldlM
      (fun s devIdx => loadOp msr batchnum s devIdx devIdx) ⟨val, st⟩
    some (0, some s.val, s.st)

end Libmsr
