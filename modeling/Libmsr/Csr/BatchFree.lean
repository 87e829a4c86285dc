/-
  Libmsr.Csr.BatchFree

  `free_batch` (src/msr_core.c) and `free_csr_batch` (src/csr_core.c).

  Both get pointers to the entry and the size of their batch from the storage
  function, and then index them by the batch number once more: what they free is
  batch `2 b`.  Neither resets the op count, and `free_batch` leaves the pointer to
  the array it freed.
-/
import Libmsr.Core.BatchStorageSpec
import Libmsr.Csr.CsrBatch
import Libmsr.Lib.Runs

namespace Libmsr

open BatchStorage

/-- Outcome of a free function: return code, table, the entries it accessed, and the
    arrays it handed to `libmsr_free`. -/
structure FreeResult (σ α : Type*) where
  rc : Int
  st : σ
  accessed : List Nat
  freed : List α
  deriving Repr, DecidableEq

/-- `free_batch`.  `none` when the entry is not in the table. -/
def freeBatch (st : BatchStorage) (batchnum : Nat) : Option (FreeResult BatchStorage OpArray) :=
  let st := batchStorage st batchnum
  -- size[batchnum] and batch[batchnum], counted from entry batchnum on
  let i := batchnum + batchnum
  if i < st.arrsize then
    some ⟨0, st.setCapacity i 0, [i], (st.entry i).ops.toList⟩
  else none

/-- `free_csr_batch`. -/
def freeCsrBatch (st : CsrBatchStorage) (batchnum : Nat) :
    Option (FreeResult CsrBatchStorage CsrOpArray) :=
  let st := csrBatchStorage st batchnum
  let i := batchnum + batchnum
  if i < st.table.arrsize then
    some ⟨0, (st.setCapacity i 0).setEntry i { st.entry i with ops := none }, [i],
      (st.entry i).ops.toList⟩
  else none

/-- A table of batches: entry and capacity of each. -/
structure TableView (ε : Type*) where
  entry : Nat → ε
  capacity : Nat → Nat

/-- Freeing batch `b` accesses its entry only, frees its array, and leaves it empty;
    the others stay as they are. -/
structure FreesOnly {ε α : Type*} (empty : ε) (ops : ε → Option α) (b : Nat)
    (before after : TableView ε) (accessed : List Nat) (freed : List α) : Prop where
  accessed : ∀ i ∈ accessed, i = b
  freed : freed = (ops (before.entry b)).toList
  entry : after.entry b = empty
  capacity : after.capacity b = 0
  entry_ne : ∀ b', b' ≠ b → after.entry b' = before.entry b'
  capacity_ne : ∀ b', b' ≠ b → after.capacity b' = before.capacity b'

/-! ## Using a batch again -/

/-- Filling one batch. -/
inductive FillCall (κ : Type*) where
  | allocate (bsize : Nat)
  | create (x : κ)

/-- A batch without the name of its array: count, ops and capacity. -/
structure BatchContents (ε : Type*) where
  numops : Nat
  slots : Option (List ε)
  capacity : Nat

def BatchStorage.contents (st : BatchStorage) (b : Nat) : BatchContents MsrBatchOp :=
  ⟨(st.entry b).numops, (st.entry b).ops.map OpArray.slots, st.capacity b⟩

def CsrBatchStorage.contents (st : CsrBatchStorage) (b : Nat) : BatchContents CsrBatchOp :=
  ⟨(st.entry b).numops, (st.entry b).ops.map CsrOpArray.slots, st.capacity b⟩

/-- Fill batch `b` of the MSR table: return code, slot of a new op, and the batch as it
    is then. -/
def fillBatch (b : Nat) (st : BatchStorage) : FillCall (Nat × Word) →
    Option ((Int × Option Nat × BatchContents MsrBatchOp) × BatchStorage)
  | .allocate bsize =>
    (allocateBatch st b bsize).map fun r => ((r.1, none, r.2.contents b), r.2)
  | .create x => (createBatchOp st x.1 x.2 b).map fun r =>
      ((r.1, r.2.1.map Ptr.slot, r.2.2.contents b), r.2.2)

/-- Fill batch `b` of the CSR table. -/
def fillCsrBatch (b : Nat) (st : CsrBatchStorage) : FillCall CsrOpArgs →
    Option ((Int × Option Nat × BatchContents CsrBatchOp) × CsrBatchStorage)
  | .allocate bsize =>
    (allocateCsrBatch st b bsize).map fun r => ((r.1, none, r.2.contents b), r.2)
  | .create x => (createCsrBatchOp st x b).map fun r =>
      ((r.1, r.2.1.map Ptr.slot, r.2.2.contents b), r.2.2)

/-- `free_batch` does what it is for; then filling the batch is like filling one of a
    new table. -/
def FreesBatch (st : BatchStorage) (b : Nat) : Prop :=
  ∃ r, freeBatch st b = some r ∧
    FreesOnly .empty MsrBatchArray.ops b ⟨st.entry, st.capacity⟩ ⟨r.st.entry, r.st.capacity⟩
      r.accessed r.freed ∧
    ∀ n calls, (Runs.outputs (fillBatch b) r.st (.allocate n :: calls)).map Prod.fst =
      (Runs.outputs (fillBatch b) .init (.allocate n :: calls)).map Prod.fst

/-- The same for `free_csr_batch`. -/
def FreesCsrBatch (st : CsrBatchStorage) (b : Nat) : Prop :=
  ∃ r, freeCsrBatch st b = some r ∧
    FreesOnly .empty CsrBatchArray.ops b ⟨st.entry, st.capacity⟩ ⟨r.st.entry, r.st.capacity⟩
      r.accessed r.freed ∧
    ∀ n calls, (Runs.outputs (fillCsrBatch b) r.st (.allocate n :: calls)).map Prod.fst =
      (Runs.outputs (fillCsrBatch b) .init (.allocate n :: calls)).map Prod.fst

/-! ## What a new table and a used one have in common -/

section Msr

variable {b : Nat} {st st' t t' : BatchStorage}

theorem Updated.contents {e : MsrBatchArray} (h : Updated st b e st') :
    st'.contents b = ⟨e.numops, e.ops.map OpArray.slots, st.capacity b⟩ := by
  rw [BatchStorage.contents, h.entry, h.capacity]

theorem Allocated.contents {n : Nat} (h : Allocated st b n st') :
    st'.contents b = ⟨(st.entry b).numops, some (List.replicate n .zero), n⟩ := by
  rw [BatchStorage.contents, h.entry, h.capacity]
  rfl

/-- Batch `b` is the same in both tables, but for which allocation its array is. -/
structure SameBatch (b : Nat) (st st' : BatchStorage) : Prop where
  sized : st.Sized
  sized' : st'.Sized
  contents : st.contents b = st'.contents b

/-- Filling it does not show the difference. -/
theorem SameBatch.fill (h : SameBatch b st st') (call : FillCall (Nat × Word)) :
    Runs.SameOutput (fillBatch b) (SameBatch b) st st' call := by
  have hnum : (st.entry b).numops = (st'.entry b).numops :=
    congrArg BatchContents.numops h.contents
  have hslots : (st.entry b).ops.map OpArray.slots = (st'.entry b).ops.map OpArray.slots :=
    congrArg BatchContents.slots h.contents
  have hcap : st.capacity b = st'.capacity b := congrArg BatchContents.capacity h.contents
  cases call with
  | allocate n =>
    by_cases hnone : (st.entry b).numops < n % 2 ^ 32 ∧ 2 ^ 31 ≤ n % 2 ^ 32
    · refine .fails ?_ ?_
      · rw [fillBatch, (allocateBatch_none_iff h.sized b n).mpr hnone, Option.map_none]
      · rw [fillBatch, (allocateBatch_none_iff h.sized' b n).mpr (hnum ▸ hnone), Option.map_none]
    · obtain ⟨t, ht, hal⟩ := allocateBatch_spec h.sized b n hnone
      obtain ⟨t', ht', hal'⟩ := allocateBatch_spec h.sized' b n (hnum ▸ hnone)
      have hsame : t.contents b = t'.contents b := by rw [hal.contents, hal'.contents, hnum]
      refine .returns (0, none, t.contents b) t t' ?_ ?_ ⟨hal.sized, hal'.sized, hsame⟩
      · rw [fillBatch, ht, Option.map_some]
      · rw [fillBatch, ht', Option.map_some, hsame]
  | create x =>
    rcases createBatchOp_cases h.sized x.1 x.2 b with ⟨hfull, heq⟩ | ⟨hroom, hout, heq⟩ |
      ⟨a, op, t, hroom, ha, hop, heq, hup⟩
    · have heq' := createBatchOp_full h.sized' x.1 x.2 (b := b) (by omega)
      have hup := batchStorage_updated h.sized b
      have hup' := batchStorage_updated h.sized' b
      have hsame : (batchStorage st b).contents b = (batchStorage st' b).contents b := by
        rw [hup.contents, hup'.contents, hnum, hslots, hcap]
      refine .returns (-1, none, (batchStorage st b).contents b) _ _ ?_ ?_
        ⟨hup.sized, hup'.sized, hsame⟩
      · rw [fillBatch, heq, Option.map_some, Option.map_none]
      · rw [fillBatch, heq', Option.map_some, Option.map_none, hsame]
    · refine .fails (by rw [fillBatch, heq, Option.map_none]) ?_
      rw [fillBatch, createBatchOp_none h.sized' x.1 x.2 (by omega), Option.map_none]
      intro a' ha'
      rw [ha', Option.map_some, Option.map_eq_some_iff] at hslots
      obtain ⟨a, ha, haa'⟩ := hslots
      rw [← haa', ← hnum]
      exact hout a ha
    · rw [ha, Option.map_some, eq_comm, Option.map_eq_some_iff] at hslots
      obtain ⟨a', ha', haa'⟩ := hslots
      obtain ⟨t', heq', hup'⟩ := createBatchOp_spec h.sized' x.1 x.2 (by omega) ha'
        (by rw [haa', ← hnum]; exact hop)
      have hsame : t.contents b = t'.contents b := by
        rw [hup.contents, hup'.contents, hnum, hcap, haa']
        rfl
      refine .returns (0, some (st.entry b).numops, t.contents b) t t' ?_ ?_
        ⟨hup.sized, hup'.sized, hsame⟩
      · rw [fillBatch, heq, Option.map_some, Option.map_some]
      · rw [fillBatch, heq', Option.map_some, Option.map_some, hsame, hnum]

end Msr

section Csr

variable {b : Nat} {st st' : CsrBatchStorage}

theorem CsrUpdated.contents {e : CsrBatchArray} {n : Nat} (h : CsrUpdated st b e n st') :
    st'.contents b = ⟨e.numops, e.ops.map CsrOpArray.slots, n⟩ := by
  rw [CsrBatchStorage.contents, h.entry, h.capacity]

/-- Batch `b` is the same in both CSR tables, and its array has room for its capacity. -/
structure SameCsrBatch (b : Nat) (st st' : CsrBatchStorage) : Prop where
  sized : st.table.Sized
  sized' : st'.table.Sized
  contents : st.contents b = st'.contents b
  array : ∃ a, (st.entry b).ops = some a ∧ a.slots.length = st.capacity b

/-- After an allocation two batches without ops are the same, whatever their capacities. -/
theorem allocateCsrBatch_same (hs : st.table.Sized) (hs' : st'.table.Sized) (n : Nat)
    (h0 : (st.entry b).numops = 0) (h0' : (st'.entry b).numops = 0) :
    Runs.SameOutput (fillCsrBatch b) (SameCsrBatch b) st st' (.allocate n) := by
  obtain ⟨t, ht, hup, -⟩ := allocateCsrBatch_spec hs n h0
  obtain ⟨t', ht', hup', -⟩ := allocateCsrBatch_spec hs' n h0'
  have hsame : t.contents b = t'.contents b := by
    rw [hup.contents, hup'.contents]
    rfl
  refine .returns (0, none, t.contents b) t t' ?_ ?_
    ⟨hup.sized, hup'.sized, hsame, _, congrArg CsrBatchArray.ops hup.entry, ?_⟩
  · rw [fillCsrBatch, ht, Option.map_some]
  · rw [fillCsrBatch, ht', Option.map_some, hsame]
  · rw [hup.capacity, List.length_replicate]

/-- Filling it does not show the difference. -/
theorem SameCsrBatch.fill (h : SameCsrBatch b st st') (call : FillCall CsrOpArgs) :
    Runs.SameOutput (fillCsrBatch b) (SameCsrBatch b) st st' call := by
  have hnum : (st.entry b).numops = (st'.entry b).numops :=
    congrArg BatchContents.numops h.contents
  have hslots : (st.entry b).ops.map CsrOpArray.slots = (st'.entry b).ops.map CsrOpArray.slots :=
    congrArg BatchContents.slots h.contents
  have hcap : st.capacity b = st'.capacity b := congrArg BatchContents.capacity h.contents
  cases call with
  | allocate n =>
    by_cases h0 : (st.entry b).numops = 0
    · exact allocateCsrBatch_same h.sized h.sized' n h0 (hnum ▸ h0)
    · refine .fails ?_ ?_
      · rw [fillCsrBatch, allocateCsrBatch_none h.sized n h0, Option.map_none]
      · rw [fillCsrBatch, allocateCsrBatch_none h.sized' n (hnum ▸ h0), Option.map_none]
  | create x =>
    obtain ⟨a, ha, hlen⟩ := h.array
    by_cases hfull : st.capacity b ≤ (st.entry b).numops
    · have heq := createCsrBatchOp_full h.sized x hfull
      have heq' := createCsrBatchOp_full h.sized' x (hcap ▸ hnum ▸ hfull)
      have hup := csrBatchStorage_updated h.sized b
      have hup' := csrBatchStorage_updated h.sized' b
      have hsame : (csrBatchStorage st b).contents b = (csrBatchStorage st' b).contents b := by
        rw [hup.contents, hup'.contents, hnum, hslots, hcap]
      refine .returns (-1, none, (csrBatchStorage st b).contents b) _ _ ?_ ?_
        ⟨hup.sized, hup'.sized, hsame, a, hup.entry ▸ ha, hup.capacity ▸ hlen⟩
      · rw [fillCsrBatch, heq, Option.map_some, Option.map_none]
      · rw [fillCsrBatch, heq', Option.map_some, Option.map_none, hsame]
    · have hroom : (st.entry b).numops < a.slots.length := by omega
      rw [ha, Option.map_some, eq_comm, Option.map_eq_some_iff] at hslots
      obtain ⟨a', ha', haa'⟩ := hslots
      obtain ⟨op, hop⟩ : ∃ op, a.slots[(st.entry b).numops]? = some op :=
        ⟨_, List.getElem?_eq_getElem hroom⟩
      obtain ⟨t, heq, hup, -⟩ :=
        createCsrBatchOp_spec h.sized x (Nat.not_le.mp hfull) ha hop
      obtain ⟨t', heq', hup', -⟩ := createCsrBatchOp_spec h.sized' x (by omega) ha'
        (by rw [haa', ← hnum]; exact hop)
      have hsame : t.contents b = t'.contents b := by
        rw [hup.contents, hup'.contents, hnum, hcap, haa']
        rfl
      refine .returns (0, some (st.entry b).numops, t.contents b) t t' ?_ ?_
        ⟨hup.sized, hup'.sized, hsame, _, congrArg CsrBatchArray.ops hup.entry, ?_⟩
      · rw [fillCsrBatch, heq, Option.map_some, Option.map_some]
      · rw [fillCsrBatch, heq', Option.map_some, Option.map_some, hsame, hnum]
      · rw [hup.capacity, List.length_set, hlen]

end Csr

/-! ## When a batch is freed -/

theorem freesBatch_iff {st : BatchStorage} (hs : st.Sized) {b : Nat} (hb : st.HasEntry b) :
    FreesBatch st b ↔ b = 0 ∧ st.entry b = .empty := by
  have hgrown := batchStorage_updated hs b
  constructor
  · rintro ⟨r, hr, hfrees, -⟩
    simp only [freeBatch, Option.ite_none_right_eq_some, Option.some.injEq] at hr
    obtain ⟨-, rfl⟩ := hr
    -- the entry it accessed is b's only if 2 b = b
    have htwice : b + b = b := hfrees.accessed (b + b) (List.mem_singleton_self _)
    have hempty : (batchStorage st b).entry b = .empty := hfrees.entry
    exact ⟨by omega, hgrown.entry.symm.trans hempty⟩
  · rintro ⟨rfl, hempty⟩
    have hs₁ : ((batchStorage st 0).setCapacity 0 0).Sized := hgrown.sized.setCapacity 0
    have hent : ((batchStorage st 0).setCapacity 0 0).entry 0 = .empty := hgrown.entry.trans hempty
    have hcap : ((batchStorage st 0).setCapacity 0 0).capacity 0 = 0 :=
      capacity_setCapacity_self hgrown.sized hgrown.hasEntry 0
    have hlt : 0 < (batchStorage st 0).arrsize := hgrown.sized.arrsize_pos
    refine ⟨⟨0, (batchStorage st 0).setCapacity 0 0, [0], []⟩, ?_, ⟨?_, ?_, hent, hcap, ?_, ?_⟩,
      fun n calls => ?_⟩
    · rw [freeBatch, if_pos hlt, hgrown.entry, hempty]
      rfl
    · intro i hi
      exact List.mem_singleton.mp hi
    · show [] = (st.entry 0).ops.toList
      rw [hempty]
      rfl
    · intro b' hne
      exact hgrown.entry_ne b' hne
    · intro b' hne
      exact (capacity_setCapacity_of_ne hne 0).trans (hgrown.capacity b')
    · have hsame : SameBatch 0 ((batchStorage st 0).setCapacity 0 0) .init := by
        refine ⟨hs₁, init_sized, ?_⟩
        rw [BatchStorage.contents, hent, hcap]
        rfl
      exact Runs.outputs_congr (fun _ _ call (h : SameBatch 0 _ _) => h.fill call) hsame _

theorem freesCsrBatch_iff {st : CsrBatchStorage} (hs : st.table.Sized) {b : Nat}
    (hb : st.table.HasEntry b) : FreesCsrBatch st b ↔ b = 0 ∧ (st.entry b).numops = 0 := by
  have hgrown := csrBatchStorage_updated hs b
  constructor
  · rintro ⟨r, hr, hfrees, -⟩
    simp only [freeCsrBatch, Option.ite_none_right_eq_some, Option.some.injEq] at hr
    obtain ⟨-, rfl⟩ := hr
    have htwice : b + b = b := hfrees.accessed (b + b) (List.mem_singleton_self _)
    obtain rfl : b = 0 := by omega
    -- the count of the entry was left as it was
    have hempty := hfrees.entry
    have hb₁ : ((csrBatchStorage st 0).setCapacity 0 0).table.HasEntry 0 :=
      hgrown.hasEntry.setCapacity _ _
    have hleft := csrEntry_setEntry_self hb₁ ⟨((csrBatchStorage st 0).entry 0).numops, none⟩
    have hnum : ((csrBatchStorage st 0).entry 0).numops = 0 :=
      congrArg CsrBatchArray.numops (hleft.symm.trans hempty)
    exact ⟨rfl, hgrown.entry ▸ hnum⟩
  · rintro ⟨rfl, h0⟩
    let st₁ := ((csrBatchStorage st 0).setCapacity 0 0).setEntry 0
      { (csrBatchStorage st 0).entry 0 with ops := none }
    have hb₁ : ((csrBatchStorage st 0).setCapacity 0 0).table.HasEntry 0 :=
      hgrown.hasEntry.setCapacity _ _
    have hs₁ : st₁.table.Sized := (hgrown.sized.setCapacity 0).setEntry _
    have hent : st₁.entry 0 = .empty := by
      refine (csrEntry_setEntry_self hb₁ _).trans ?_
      show CsrBatchArray.mk ((csrBatchStorage st 0).entry 0).numops none = .empty
      rw [hgrown.entry, h0]
      rfl
    have hcap : st₁.capacity 0 = 0 :=
      GrowTable.capacity_setCapacity_self hgrown.sized hgrown.hasEntry 0
    have hlt : 0 < (csrBatchStorage st 0).table.arrsize := hgrown.sized.arrsize_pos
    refine ⟨⟨0, st₁, [0], (st.entry 0).ops.toList⟩, ?_, ⟨?_, rfl, hent, hcap, ?_, ?_⟩,
      fun n calls => ?_⟩
    · rw [freeCsrBatch, if_pos hlt, ← hgrown.entry]
    · intro i hi
      exact List.mem_singleton.mp hi
    · intro b' hne
      exact (GrowTable.entry_setEntry_of_ne hne _).trans (hgrown.entry_ne b' hne)
    · intro b' hne
      exact (GrowTable.capacity_setCapacity_of_ne hne 0).trans (hgrown.capacity_ne b' hne)
    · have h0₁ : (st₁.entry 0).numops = 0 := congrArg CsrBatchArray.numops hent
      refine (allocateCsrBatch_same hs₁ GrowTable.init_sized n h0₁ rfl).cons fun t t' hsame => ?_
      exact Runs.outputs_congr (fun _ _ call (h : SameCsrBatch 0 _ _) => h.fill call) hsame calls

/-- **Freeing a batch.**  `free_batch` does it for batch 0 alone, and only when there is
    nothing to free; `free_csr_batch` does it for batch 0 alone, and only when no op is
    counted. -/
theorem free_iff {st : BatchStorage} {csr : CsrBatchStorage} {b c : Nat} (hs : st.Sized)
    (hb : st.HasEntry b) (hcsr : csr.table.Sized) (hc : csr.table.HasEntry c) :
    (FreesBatch st b ↔ b = 0 ∧ st.entry b = .empty) ∧
      (FreesCsrBatch csr c ↔ c = 0 ∧ (csr.entry c).numops = 0) :=
  ⟨freesBatch_iff hs hb, freesCsrBatch_iff hcsr hc⟩

/-- Batches 0, 1 and 2 with one op each. -/
def threeBatches : BatchStorage where
  batch := some [⟨0, some ⟨0, [.zero]⟩⟩, ⟨0, some ⟨1, [.zero]⟩⟩, ⟨0, some ⟨2, [.zero]⟩⟩]
  arrsize := 3
  size := [1, 1, 1]
  retired := []
  nextId := 3

theorem threeBatches_allocated :
    ((List.range 3).foldlM (fun st b => (allocateBatch st b 1).map Prod.snd) .init) =
      some threeBatches := rfl

theorem threeBatches_sized : threeBatches.Sized where
  arrsize_pos := by decide
  lengths := fun t ht => by
    obtain rfl := Option.some.inj ht
    exact ⟨rfl, rfl⟩
  unset := fun h => nomatch h

/-- Freeing batch 1 frees the array of batch 2, and leaves that of batch 1. -/
theorem threeBatches_not_freed :
    (freeBatch threeBatches 1).map FreeResult.freed = some [⟨2, [.zero]⟩] ∧
      ¬ FreesBatch threeBatches 1 := by
  have hentry : threeBatches.HasEntry 1 := ⟨_, rfl, by decide⟩
  refine ⟨rfl, fun h => ?_⟩
  obtain ⟨hzero, -⟩ := (freesBatch_iff threeBatches_sized hentry).mp h
  contradiction

/-- A table whose batch 0 is empty, and a CSR table whose batch 0 has an array. -/
theorem emptyBatches_freed :
    FreesBatch (batchStorage .init 0) 0 ∧
      ∃ st, allocateCsrBatch .init 0 4 = some (0, st) ∧ FreesCsrBatch st 0 := by
  have hsized : CsrBatchStorage.init.table.Sized := GrowTable.init_sized
  obtain ⟨st, hst, hup, -⟩ := allocateCsrBatch_spec (b := 0) hsized 4 rfl
  have hgrown := batchStorage_updated init_sized 0
  obtain ⟨hfree, hfreeCsr⟩ := free_iff hgrown.sized hgrown.hasEntry hup.sized hup.hasEntry
  refine ⟨hfree.mpr ⟨rfl, rfl⟩, st, hst, hfreeCsr.mpr ⟨rfl, ?_⟩⟩
  exact congrArg CsrBatchArray.numops hup.entry

end Libmsr
