/-
  Libmsr.Csr.CsrBatch

  Batches of accesses to uncore registers: `csr_batch_storage`,
  `allocate_csr_batch` and `create_csr_batch_op` (src/csr_core.c).

  The CSR table has the shape of the MSR table, but a new entry has the size 8 and
  no array.  A result `none` stands for a store through NULL or behind an array.
-/
import Libmsr.Core.BatchStorage
import Libmsr.Lib.GrowTable

namespace Libmsr

/-- `struct csr_batch_op`. -/
structure CsrBatchOp where
  bus : BitVec 8
  device : BitVec 8
  function : BitVec 8
  socket : BitVec 8
  offset : BitVec 16
  err : BitVec 32
  isread : BitVec 8
  csrdata : Word
  wmask : Word
  size : BitVec 8
  deriving Repr, DecidableEq

/-- An op of a freshly `calloc`ed array. -/
def CsrBatchOp.zero : CsrBatchOp := ⟨0, 0, 0, 0, 0, 0, 0, 0, 0, 0⟩

/-- An ops array: which allocation it is, and its contents. -/
structure CsrOpArray where
  id : Nat
  slots : List CsrBatchOp
  deriving Repr, DecidableEq

/-- `struct csr_batch_array`; `ops = none` is the NULL pointer. -/
structure CsrBatchArray where
  numops : Nat
  ops : Option CsrOpArray
  deriving Repr, DecidableEq

/-- An entry of a new table. -/
def CsrBatchArray.empty : CsrBatchArray := ⟨0, none⟩

/-- The size of a new entry. -/
def csrDefaultSize : Nat := 8

/-- The static variables of `csr_batch_storage`; `nextId` names the next
    allocation. -/
structure CsrBatchStorage where
  table : GrowTable CsrBatchArray
  nextId : Nat
  deriving Repr, DecidableEq

/-- The state before any call. -/
def CsrBatchStorage.init : CsrBatchStorage := ⟨.init, 0⟩

/-- `csr_batch_storage`: make sure the table has an entry `batchnum`. -/
def csrBatchStorage (st : CsrBatchStorage) (batchnum : Nat) : CsrBatchStorage :=
  { st with table := st.table.grow .empty csrDefaultSize batchnum }

namespace CsrBatchStorage

/-- `*batchsel` for batch `b`. -/
def entry (st : CsrBatchStorage) (b : Nat) : CsrBatchArray := st.table.entry .empty b

/-- `*opssize` for batch `b`. -/
def capacity (st : CsrBatchStorage) (b : Nat) : Nat := st.table.capacity csrDefaultSize b

def setEntry (st : CsrBatchStorage) (b : Nat) (e : CsrBatchArray) : CsrBatchStorage :=
  { st with table := st.table.setEntry b e }

def setCapacity (st : CsrBatchStorage) (b n : Nat) : CsrBatchStorage :=
  { st with table := st.table.setCapacity b n }

/-- `libmsr_calloc` of `n` ops for batch `b`. -/
def callocOps (st : CsrBatchStorage) (b n : Nat) : CsrBatchStorage :=
  { st.setEntry b { st.entry b with ops := some ⟨st.nextId, List.replicate n .zero⟩ } with
    nextId := st.nextId + 1 }

end CsrBatchStorage

/-- `allocate_csr_batch`: return code and state.  The `size_t` size is stored in an
    `unsigned`.  An array that is already there is reported, then replaced. -/
def allocateCsrBatch (st : CsrBatchStorage) (batchnum bsize : Nat) :
    Option (Int × CsrBatchStorage) :=
  let st := csrBatchStorage st batchnum
  let st := st.setCapacity batchnum (bsize % 2 ^ 32)
  let st := st.callocOps batchnum (st.capacity batchnum)
  -- for (op = ops; op < op + numops; op++) op->err = 0: the bound moves along
  if (st.entry batchnum).numops = 0 then some (0, st) else none

/-- What `create_csr_batch_op` is asked for. -/
structure CsrOpArgs where
  csr : Nat
  bus : BitVec 8
  device : BitVec 8
  function : BitVec 8
  socket : BitVec 8
  isread : BitVec 8
  opsize : Nat
  deriving Repr, DecidableEq

/-- The op `create_csr_batch_op` leaves in a slot. -/
def CsrBatchOp.fill (op : CsrBatchOp) (x : CsrOpArgs) : CsrBatchOp :=
  { op with
    offset := BitVec.ofNat 16 x.csr
    bus := x.bus
    device := x.device
    function := x.function
    socket := x.socket
    isread := x.isread
    err := 0
    size := BitVec.ofNat 8 x.opsize }

/-- `create_csr_batch_op`: return code, what is stored through `dest`, and state. -/
def createCsrBatchOp (st : CsrBatchStorage) (x : CsrOpArgs) (batchnum : Nat) :
    Option (Int × Option Ptr × CsrBatchStorage) :=
  let st := csrBatchStorage st batchnum
  let e := st.entry batchnum
  if e.numops ≥ st.capacity batchnum then some (-1, none, st)
  else
    match e.ops with
    | none => none
    | some a =>
      match a.slots[e.numops]? with
      | none => none
      | some op =>
        let a' := { a with slots := a.slots.set e.numops (op.fill x) }
        some (0, some ⟨a.id, e.numops⟩,
          st.setEntry batchnum ⟨(e.numops + 1) % 2 ^ 32, some a'⟩)

/-! ## Specs -/

section Spec

variable {st : CsrBatchStorage} {b : Nat}

/-- Growing the table changes no entry and no capacity. -/
theorem csrBatchStorage_spec (hs : st.table.Sized) (b : Nat) :
    (csrBatchStorage st b).table.Sized ∧ (csrBatchStorage st b).table.HasEntry b ∧
      (∀ b', (csrBatchStorage st b).entry b' = st.entry b') ∧
      (∀ b', (csrBatchStorage st b).capacity b' = st.capacity b') := by
  have hgrown := GrowTable.grow_spec CsrBatchArray.empty csrDefaultSize b hs
  exact ⟨hgrown.sized, hgrown.hasEntry, hgrown.entry, hgrown.capacity⟩

/-- State `st'` is `st` with the entry of batch `b` replaced by `e`, and its capacity by
    `n`. -/
structure CsrUpdated (st : CsrBatchStorage) (b : Nat) (e : CsrBatchArray) (n : Nat)
    (st' : CsrBatchStorage) : Prop where
  sized : st'.table.Sized
  hasEntry : st'.table.HasEntry b
  entry : st'.entry b = e
  capacity : st'.capacity b = n
  entry_ne : ∀ b', b' ≠ b → st'.entry b' = st.entry b'
  capacity_ne : ∀ b', b' ≠ b → st'.capacity b' = st.capacity b'

/-- Growing, as such an update. -/
theorem csrBatchStorage_updated (hs : st.table.Sized) (b : Nat) :
    CsrUpdated st b (st.entry b) (st.capacity b) (csrBatchStorage st b) := by
  obtain ⟨hs₁, hb₁, hent, hcap⟩ := csrBatchStorage_spec hs b
  exact ⟨hs₁, hb₁, hent b, hcap b, fun b' _ => hent b', fun b' _ => hcap b'⟩

theorem csrEntry_setEntry_self (hb : st.table.HasEntry b) (e : CsrBatchArray) :
    (st.setEntry b e).entry b = e := GrowTable.entry_setEntry_self hb e

theorem entry_callocOps (hb : st.table.HasEntry b) (n : Nat) :
    (st.callocOps b n).entry b =
      ⟨(st.entry b).numops, some ⟨st.nextId, List.replicate n .zero⟩⟩ :=
  GrowTable.entry_setEntry_self hb _

/-- With ops counted the loop runs out of the array. -/
theorem allocateCsrBatch_none (hs : st.table.Sized) (n : Nat) (hused : (st.entry b).numops ≠ 0) :
    allocateCsrBatch st b n = none := by
  obtain ⟨hs₁, hb₁, hent, -⟩ := csrBatchStorage_spec hs b
  have hb₂ : ((csrBatchStorage st b).setCapacity b (n % 2 ^ 32)).table.HasEntry b :=
    hb₁.setCapacity _ _
  have hsame : ((csrBatchStorage st b).setCapacity b (n % 2 ^ 32)).entry b = st.entry b := hent b
  simp only [allocateCsrBatch, entry_callocOps hb₂, hsame, if_neg hused]

/-- A batch without ops gets an array of the size asked for. -/
theorem allocateCsrBatch_spec (hs : st.table.Sized) (n : Nat) (h0 : (st.entry b).numops = 0) :
    ∃ st', allocateCsrBatch st b n = some (0, st') ∧
      CsrUpdated st b ⟨0, some ⟨st.nextId, List.replicate (n % 2 ^ 32) .zero⟩⟩ (n % 2 ^ 32) st' ∧
      st'.nextId = st.nextId + 1 := by
  obtain ⟨hs₁, hb₁, hent, hcap⟩ := csrBatchStorage_spec hs b
  let st₂ := (csrBatchStorage st b).setCapacity b (n % 2 ^ 32)
  have hb₂ : st₂.table.HasEntry b := hb₁.setCapacity _ _
  have hcap₂ : st₂.capacity b = n % 2 ^ 32 := GrowTable.capacity_setCapacity_self hs₁ hb₁ _
  have hnum : (st₂.entry b).numops = 0 := (congrArg CsrBatchArray.numops (hent b)).trans h0
  have hself : (st₂.callocOps b (st₂.capacity b)).entry b =
      ⟨0, some ⟨st.nextId, List.replicate (n % 2 ^ 32) .zero⟩⟩ := by
    rw [entry_callocOps hb₂, hnum, hcap₂]
    rfl
  refine ⟨st₂.callocOps b (st₂.capacity b), ?_, ⟨?_, ?_, hself, hcap₂, ?_, ?_⟩, rfl⟩
  · exact if_pos (congrArg CsrBatchArray.numops hself)
  · exact (hs₁.setCapacity _).setEntry _
  · exact hb₂.setEntry _ _
  · intro b' hne
    exact (GrowTable.entry_setEntry_of_ne hne _).trans (hent b')
  · intro b' hne
    exact (GrowTable.capacity_setCapacity_of_ne hne _).trans (hcap b')

/-- A full batch refuses an op. -/
theorem createCsrBatchOp_full (hs : st.table.Sized) (x : CsrOpArgs)
    (hfull : st.capacity b ≤ (st.entry b).numops) :
    createCsrBatchOp st x b = some (-1, none, csrBatchStorage st b) := by
  obtain ⟨-, -, hent, hcap⟩ := csrBatchStorage_spec hs b
  simp only [createCsrBatchOp, hent, hcap, ge_iff_le, if_pos hfull]

/-- With room and without an array the op is stored through NULL. -/
theorem createCsrBatchOp_null (hs : st.table.Sized) (x : CsrOpArgs)
    (hroom : (st.entry b).numops < st.capacity b) (hnull : (st.entry b).ops = none) :
    createCsrBatchOp st x b = none := by
  obtain ⟨-, -, hent, hcap⟩ := csrBatchStorage_spec hs b
  simp only [createCsrBatchOp, hent, hcap, ge_iff_le, if_neg (Nat.not_le.mpr hroom), hnull]

/-- With room, and the array at its end, the op is stored behind the array. -/
theorem createCsrBatchOp_outside (hs : st.table.Sized) (x : CsrOpArgs) {a : CsrOpArray}
    (hroom : (st.entry b).numops < st.capacity b) (ha : (st.entry b).ops = some a)
    (hop : a.slots[(st.entry b).numops]? = none) : createCsrBatchOp st x b = none := by
  obtain ⟨-, -, hent, hcap⟩ := csrBatchStorage_spec hs b
  simp only [createCsrBatchOp, hent, hcap, ge_iff_le, if_neg (Nat.not_le.mpr hroom), ha, hop]

/-- With room in the array the op goes to the next slot. -/
theorem createCsrBatchOp_spec (hs : st.table.Sized) (x : CsrOpArgs) {a : CsrOpArray}
    {op : CsrBatchOp} (hroom : (st.entry b).numops < st.capacity b)
    (ha : (st.entry b).ops = some a) (hop : a.slots[(st.entry b).numops]? = some op) :
    ∃ st', createCsrBatchOp st x b = some (0, some ⟨a.id, (st.entry b).numops⟩, st') ∧
      CsrUpdated st b ⟨((st.entry b).numops + 1) % 2 ^ 32,
        some ⟨a.id, a.slots.set (st.entry b).numops (op.fill x)⟩⟩ (st.capacity b) st' ∧
      st'.nextId = st.nextId := by
  obtain ⟨hs₁, hb₁, hent, hcap⟩ := csrBatchStorage_spec hs b
  refine ⟨(csrBatchStorage st b).setEntry b _, ?_, ⟨hs₁.setEntry _, hb₁.setEntry _ _,
    GrowTable.entry_setEntry_self hb₁ _, hcap b, ?_, fun b' _ => hcap b'⟩, rfl⟩
  · simp only [createCsrBatchOp, hent, hcap, ge_iff_le, if_neg (Nat.not_le.mpr hroom), ha, hop]
  · intro b' hne
    exact (GrowTable.entry_setEntry_of_ne hne _).trans (hent b')

end Spec

end Libmsr
