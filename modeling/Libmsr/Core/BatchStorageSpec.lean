/-
  Libmsr.Core.BatchStorageSpec

  The batch table seen as a total map from batch numbers to entries and
  capacities.  Growing the table changes no entry; `allocate_batch` and
  `create_batch_op` change the entry of their own batch only.  Each function has
  one spec lemma here, and later modules never unfold it again.
-/
import Libmsr.Core.BatchStorage
import Libmsr.Lib.GrowTable

namespace Libmsr

/-- Table and size array have `arrsize` entries once they exist. -/
structure BatchStorage.Sized (st : BatchStorage) : Prop where
  arrsize_pos : 0 < st.arrsize
  lengths : ∀ t, st.batch = some t → t.length = st.arrsize ∧ st.size.length = st.arrsize
  unset : st.batch = none → st.size = []

/-- The table has an entry for batch `b`. -/
def BatchStorage.HasEntry (st : BatchStorage) (b : Nat) : Prop :=
  ∃ t, st.batch = some t ∧ b < t.length

theorem BatchStorage.init_sized : BatchStorage.init.Sized :=
  ⟨by decide, fun _ h => absurd h (by simp [BatchStorage.init]), fun _ => rfl⟩

/-! ## The table as a growing table -/

/-- The entries and their sizes. -/
def BatchStorage.table (st : BatchStorage) : GrowTable MsrBatchArray :=
  ⟨st.batch, st.arrsize, st.size⟩

theorem BatchStorage.Sized.table {st : BatchStorage} (hs : st.Sized) : st.table.Sized :=
  ⟨hs.arrsize_pos, hs.lengths, hs.unset⟩

theorem BatchStorage.Sized.of_table {st : BatchStorage} (hs : st.table.Sized) : st.Sized :=
  ⟨hs.arrsize_pos, hs.lengths, hs.unset⟩

/-! ## Reading and storing entries -/

namespace BatchStorage

variable {st : BatchStorage} {b : Nat}

theorem entry_setEntry_self (h : st.HasEntry b) (e : MsrBatchArray) :
    (st.setEntry b e).entry b = e := GrowTable.entry_setEntry_self (t := st.table) h e

theorem entry_setEntry_of_ne {b' : Nat} (h : b' ≠ b) (e : MsrBatchArray) :
    (st.setEntry b e).entry b' = st.entry b' :=
  GrowTable.entry_setEntry_of_ne (t := st.table) h e

@[simp] theorem entry_setCapacity (n b' : Nat) :
    (st.setCapacity b n).entry b' = st.entry b' := rfl

theorem capacity_setCapacity_self (hs : st.Sized) (h : st.HasEntry b) (n : Nat) :
    (st.setCapacity b n).capacity b = n := GrowTable.capacity_setCapacity_self hs.table h n

theorem capacity_setCapacity_of_ne {b' : Nat} (h : b' ≠ b) (n : Nat) :
    (st.setCapacity b n).capacity b' = st.capacity b' :=
  GrowTable.capacity_setCapacity_of_ne (t := st.table) h n

theorem Sized.setEntry (hs : st.Sized) (e : MsrBatchArray) : (st.setEntry b e).Sized :=
  .of_table (hs.table.setEntry e)

theorem Sized.setCapacity (hs : st.Sized) (n : Nat) : (st.setCapacity b n).Sized :=
  .of_table (hs.table.setCapacity n)

theorem HasEntry.setCapacity (h : st.HasEntry b) (n b' : Nat) : (st.setCapacity b' n).HasEntry b :=
  h

theorem HasEntry.setEntry (h : st.HasEntry b) (e : MsrBatchArray) (b' : Nat) :
    (st.setEntry b' e).HasEntry b := GrowTable.HasEntry.setEntry (t := st.table) h e b'

end BatchStorage

open BatchStorage

/-! ## batch_storage -/

section Storage

variable {st : BatchStorage}

/-- `batch_storage` grows the table, and touches nothing else. -/
theorem table_batchStorage (st : BatchStorage) (b : Nat) :
    (batchStorage st b).table = st.table.grow .empty 0 b ∧
      (batchStorage st b).nextId = st.nextId ∧ (batchStorage st b).retired = st.retired := by
  cases hbatch : st.batch with
  | none =>
    simp only [batchStorage, BatchStorage.table, GrowTable.grow, hbatch]
    generalize (if b + 1 > st.arrsize then b + 1 else st.arrsize) = n
    by_cases hb : b + 1 > n
    · simp only [if_pos hb, Option.map_some, and_self]
    · simp only [if_neg hb, and_self]
  | some t =>
    simp only [batchStorage, BatchStorage.table, GrowTable.grow, hbatch]
    by_cases hb : b + 1 > st.arrsize
    · simp only [if_pos hb, Option.map_some, and_self]
    · simp only [if_neg hb, hbatch, and_self]

/-- Growing the table keeps it well-sized, gives batch `b` an entry, and changes
    no entry and no capacity. -/
theorem batchStorage_spec (hs : st.Sized) (b : Nat) :
    (batchStorage st b).Sized ∧ (batchStorage st b).HasEntry b ∧
      (∀ b', (batchStorage st b).entry b' = st.entry b') ∧
      (∀ b', (batchStorage st b).capacity b' = st.capacity b') ∧
      (batchStorage st b).nextId = st.nextId ∧ (batchStorage st b).retired = st.retired := by
  obtain ⟨htable, hid, hretired⟩ := table_batchStorage st b
  have hgrown := GrowTable.grow_spec MsrBatchArray.empty 0 b hs.table
  rw [← htable] at hgrown
  exact ⟨.of_table hgrown.sized, hgrown.hasEntry, hgrown.entry, hgrown.capacity, hid, hretired⟩

/-! ## allocate_batch -/

/-- State `st'` is `st` with `n` fresh zeroed ops for batch `b`, the op count
    being kept. -/
structure Allocated (st : BatchStorage) (b n : Nat) (st' : BatchStorage) : Prop where
  sized : st'.Sized
  hasEntry : st'.HasEntry b
  entry : st'.entry b = ⟨(st.entry b).numops, some ⟨st.nextId, List.replicate n .zero⟩⟩
  capacity : st'.capacity b = n
  entry_ne : ∀ b', b' ≠ b → st'.entry b' = st.entry b'
  capacity_ne : ∀ b', b' ≠ b → st'.capacity b' = st.capacity b'
  nextId : st'.nextId = st.nextId + 1

theorem allocateBatch_none_iff (hs : st.Sized) (b n : Nat) :
    allocateBatch st b n = none ↔
      (st.entry b).numops < n % 2 ^ 32 ∧ 2 ^ 31 ≤ n % 2 ^ 32 := by
  obtain ⟨hs1, hb1, hent, -⟩ := batchStorage_spec hs b
  simp only [allocateBatch, capacity_setCapacity_self hs1 hb1, entry_setCapacity, hent]
  split <;> simp_all

theorem allocateBatch_spec (hs : st.Sized) (b n : Nat)
    (h : ¬ ((st.entry b).numops < n % 2 ^ 32 ∧ 2 ^ 31 ≤ n % 2 ^ 32)) :
    ∃ st', allocateBatch st b n = some (0, st') ∧ Allocated st b (n % 2 ^ 32) st' := by
  obtain ⟨hs1, hb1, hent, hcap, hid, -⟩ := batchStorage_spec hs b
  have hcap1 := capacity_setCapacity_self hs1 hb1 (n % 2 ^ 32)
  refine ⟨((batchStorage st b).setCapacity b (n % 2 ^ 32)).callocOps b (n % 2 ^ 32), ?_, ?_⟩
  · simp only [allocateBatch, hcap1, entry_setCapacity, hent]
    rw [if_neg h]
  · -- the three states in turn: grown, with the new capacity, with the new array
    have hs2 : ((batchStorage st b).setCapacity b (n % 2 ^ 32)).Sized := hs1.setCapacity _
    have hb2 : ((batchStorage st b).setCapacity b (n % 2 ^ 32)).HasEntry b :=
      hb1.setCapacity _ _
    have hs3 : (((batchStorage st b).setCapacity b (n % 2 ^ 32)).setEntry b _).Sized :=
      hs2.setEntry { ((batchStorage st b).setCapacity b (n % 2 ^ 32)).entry b with
        ops := some ⟨((batchStorage st b).setCapacity b (n % 2 ^ 32)).nextId,
          List.replicate (n % 2 ^ 32) .zero⟩ }
    refine ⟨⟨hs3.arrsize_pos, hs3.lengths, hs3.unset⟩, ?_, ?_, hcap1, ?_, ?_, ?_⟩
    · exact hb2.setEntry _ _
    · show (((batchStorage st b).setCapacity b (n % 2 ^ 32)).setEntry b _).entry b = _
      rw [entry_setEntry_self hb2, entry_setCapacity, hent]
      exact congrArg (fun i => MsrBatchArray.mk (st.entry b).numops
        (some ⟨i, List.replicate (n % 2 ^ 32) .zero⟩)) hid
    · intro b' hne
      show (((batchStorage st b).setCapacity b (n % 2 ^ 32)).setEntry b _).entry b' = _
      rw [entry_setEntry_of_ne hne, entry_setCapacity, hent]
    · intro b' hne
      show ((batchStorage st b).setCapacity b (n % 2 ^ 32)).capacity b' = _
      rw [capacity_setCapacity_of_ne hne, hcap]
    · show (batchStorage st b).nextId + 1 = _
      rw [hid]

/-! ## create_batch_op -/

/-- State `st'` is `st` with the entry of batch `b` replaced by `e`. -/
structure Updated (st : BatchStorage) (b : Nat) (e : MsrBatchArray) (st' : BatchStorage) :
    Prop where
  sized : st'.Sized
  hasEntry : st'.HasEntry b
  entry : st'.entry b = e
  entry_ne : ∀ b', b' ≠ b → st'.entry b' = st.entry b'
  capacity : ∀ b', st'.capacity b' = st.capacity b'
  nextId : st'.nextId = st.nextId

/-- Growing the table, as such an update. -/
theorem batchStorage_updated (hs : st.Sized) (b : Nat) :
    Updated st b (st.entry b) (batchStorage st b) := by
  obtain ⟨hs1, hb1, hent, hcap, hid, -⟩ := batchStorage_spec hs b
  exact ⟨hs1, hb1, hent b, fun b' _ => hent b', hcap, hid⟩

/-- A batch that counts more ops than its size is refused. -/
theorem createBatchOp_full (hs : st.Sized) (msr : Nat) (cpu : Word) {b : Nat}
    (hfull : st.capacity b < (st.entry b).numops) :
    createBatchOp st msr cpu b = some (-1, none, batchStorage st b) := by
  obtain ⟨-, -, hent, hcap, -⟩ := batchStorage_spec hs b
  simp only [createBatchOp, hent, hcap, gt_iff_lt, if_pos hfull]

/-- Otherwise, and with slot `numops` inside the array, the op goes there. -/
theorem createBatchOp_spec (hs : st.Sized) (msr : Nat) (cpu : Word) {b : Nat} {a : OpArray}
    {op : MsrBatchOp} (hroom : (st.entry b).numops ≤ st.capacity b)
    (ha : (st.entry b).ops = some a) (hop : a.slots[(st.entry b).numops]? = some op) :
    ∃ st', createBatchOp st msr cpu b = some (0, some ⟨a.id, (st.entry b).numops⟩, st') ∧
      Updated st b ⟨((st.entry b).numops + 1) % 2 ^ 32,
        some ⟨a.id, a.slots.set (st.entry b).numops (op.fill msr cpu)⟩⟩ st' := by
  obtain ⟨hs1, hb1, hent, hcap, hid, -⟩ := batchStorage_spec hs b
  refine ⟨_, ?_, hs1.setEntry _, hb1.setEntry _ _, entry_setEntry_self hb1 _, ?_, hcap, hid⟩
  · simp only [createBatchOp, hent, hcap, gt_iff_lt, if_neg (Nat.not_lt.mpr hroom), ha, hop]
  · intro b' hne
    rw [entry_setEntry_of_ne hne, hent]

/-- Without an array, or past its end, the store is outside any object. -/
theorem createBatchOp_none (hs : st.Sized) (msr : Nat) (cpu : Word) {b : Nat}
    (hroom : (st.entry b).numops ≤ st.capacity b)
    (hout : ∀ a, (st.entry b).ops = some a → a.slots.length ≤ (st.entry b).numops) :
    createBatchOp st msr cpu b = none := by
  obtain ⟨-, -, hent, hcap, -⟩ := batchStorage_spec hs b
  simp only [createBatchOp, hent, hcap, gt_iff_lt, if_neg (Nat.not_lt.mpr hroom)]
  cases ha : (st.entry b).ops with
  | none => rfl
  | some a => simp only [List.getElem?_eq_none (hout a ha)]

/-- The three ways `create_batch_op` goes. -/
theorem createBatchOp_cases (hs : st.Sized) (msr : Nat) (cpu : Word) (b : Nat) :
    (st.capacity b < (st.entry b).numops ∧
      createBatchOp st msr cpu b = some (-1, none, batchStorage st b)) ∨
    ((st.entry b).numops ≤ st.capacity b ∧
      (∀ a, (st.entry b).ops = some a → a.slots.length ≤ (st.entry b).numops) ∧
      createBatchOp st msr cpu b = none) ∨
    ∃ a op st', (st.entry b).numops ≤ st.capacity b ∧ (st.entry b).ops = some a ∧
      a.slots[(st.entry b).numops]? = some op ∧
      createBatchOp st msr cpu b = some (0, some ⟨a.id, (st.entry b).numops⟩, st') ∧
      Updated st b ⟨((st.entry b).numops + 1) % 2 ^ 32,
        some ⟨a.id, a.slots.set (st.entry b).numops (op.fill msr cpu)⟩⟩ st' := by
  rcases Nat.lt_or_ge (st.capacity b) (st.entry b).numops with hfull | hroom
  · exact Or.inl ⟨hfull, createBatchOp_full hs msr cpu hfull⟩
  · by_cases hout : ∀ a, (st.entry b).ops = some a → a.slots.length ≤ (st.entry b).numops
    · exact Or.inr (Or.inl ⟨hroom, hout, createBatchOp_none hs msr cpu hroom hout⟩)
    · push Not at hout
      obtain ⟨a, ha, hlt⟩ := hout
      have hop : a.slots[(st.entry b).numops]? = some a.slots[(st.entry b).numops] :=
        List.getElem?_eq_getElem hlt
      obtain ⟨st', hst', hup⟩ := createBatchOp_spec hs msr cpu hroom ha hop
      exact Or.inr (Or.inr ⟨a, _, st', hroom, ha, hop, hst', hup⟩)

end Storage

end Libmsr
