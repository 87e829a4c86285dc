/-
  Libmsr.Csr.CsrBatchRuns

  Runs of `allocate_csr_batch` and `create_csr_batch_op` calls from the initial
  state.  `csrSound_along_iff`: they stay inside the arrays exactly while no batch
  with ops is allocated again, and no op is created in a batch that was never
  allocated: its default size lets the op through to the NULL array.
-/
import Libmsr.Csr.CsrBatch
import Libmsr.Lib.Runs

namespace Libmsr

/-- A call that fills CSR batches. -/
inductive CsrCall where
  | allocate (batchnum bsize : Nat)
  | create (x : CsrOpArgs) (batchnum : Nat)
  deriving Repr, DecidableEq

/-- Return code, what is stored through `dest`, and state. -/
def csrCall (st : CsrBatchStorage) : CsrCall → Option (Int × Option Ptr × CsrBatchStorage)
  | .allocate batchnum bsize => (allocateCsrBatch st batchnum bsize).map fun r => (r.1, none, r.2)
  | .create x batchnum => createCsrBatchOp st x batchnum

/-- The state after the call. -/
def csrStep (st : CsrBatchStorage) (call : CsrCall) : Option CsrBatchStorage :=
  (csrCall st call).map fun r => r.2.2

/-- How many ops the batch's array has. -/
def CsrBatchArray.length (e : CsrBatchArray) : Nat := e.ops.elim 0 fun a => a.slots.length

/-- No batch counts more ops than its array has. -/
def CsrCountsInBounds (st : CsrBatchStorage) : Prop :=
  ∀ b, (st.entry b).numops ≤ (st.entry b).length

/-- The call stores nothing outside an array, and counts no op outside one; an op it
    creates is in the batch's array, and one for a batch without array is refused. -/
structure CsrSoundAt (st : CsrBatchStorage) (call : CsrCall) : Prop where
  returns : ∃ r, csrCall st call = some r
  inBounds : ∀ st', csrStep st call = some st' → CsrCountsInBounds st'
  written : ∀ x b, call = .create x b → ∀ rc p st', csrCall st call = some (rc, some p, st') →
    ∃ a, (st.entry b).ops = some a ∧ p.id = a.id ∧ p.slot < a.slots.length
  refused : ∀ x b, call = .create x b → (st.entry b).ops = none →
    ∀ r, csrCall st call = some r → r.1 = -1 ∧ r.2.1 = none ∧ r.2.2.entry b = st.entry b

/-- A batch is allocated while it has no ops, and ops are created in a batch that was
    allocated. -/
def CsrHasRoom (st : CsrBatchStorage) : CsrCall → Prop
  | .allocate b _ => (st.entry b).numops = 0
  | .create _ b => (st.entry b).ops ≠ none

/-- An allocated batch has an array of its size, and counts ops inside it; any other
    batch is as the table starts it. -/
structure CsrInv (st : CsrBatchStorage) : Prop where
  sized : st.table.Sized
  allocated : ∀ b a, (st.entry b).ops = some a →
    a.slots.length = st.capacity b ∧ (st.entry b).numops ≤ a.slots.length ∧
      a.slots.length < 2 ^ 32
  unallocated : ∀ b, (st.entry b).ops = none →
    (st.entry b).numops = 0 ∧ st.capacity b = csrDefaultSize

theorem csrInv_init : CsrInv .init where
  sized := GrowTable.init_sized
  allocated := fun _ _ h => nomatch h
  unallocated := fun _ _ => ⟨rfl, rfl⟩

section Step

variable {st st' : CsrBatchStorage} {b : Nat}

theorem CsrInv.inBounds (hI : CsrInv st) : CsrCountsInBounds st := by
  intro b
  cases hops : (st.entry b).ops with
  | none =>
    rw [(hI.unallocated b hops).1]
    exact Nat.zero_le _
  | some a =>
    rw [CsrBatchArray.length, hops, Option.elim_some]
    exact (hI.allocated b a hops).2.1

/-- An update of one batch keeps the invariant if it holds for that batch. -/
theorem CsrInv.of_updated (hI : CsrInv st) {e : CsrBatchArray} {n : Nat}
    (hup : CsrUpdated st b e n st')
    (halloc : ∀ a, e.ops = some a →
      a.slots.length = n ∧ e.numops ≤ a.slots.length ∧ a.slots.length < 2 ^ 32)
    (hnone : e.ops = none → e.numops = 0 ∧ n = csrDefaultSize) : CsrInv st' := by
  refine ⟨hup.sized, fun b' => ?_, fun b' => ?_⟩
  · by_cases heq : b' = b
    · subst heq
      rw [hup.entry, hup.capacity]
      exact halloc
    · rw [hup.entry_ne b' heq, hup.capacity_ne b' heq]
      exact hI.allocated b'
  · by_cases heq : b' = b
    · subst heq
      rw [hup.entry, hup.capacity]
      exact hnone
    · rw [hup.entry_ne b' heq, hup.capacity_ne b' heq]
      exact hI.unallocated b'

/-- Allocating a batch without ops. -/
theorem CsrInv.allocate (hI : CsrInv st) (n : Nat) (h0 : (st.entry b).numops = 0) :
    ∃ st', allocateCsrBatch st b n = some (0, st') ∧ CsrInv st' := by
  obtain ⟨st', hst', hup, -⟩ := allocateCsrBatch_spec hI.sized n h0
  refine ⟨st', hst', hI.of_updated hup (fun a ha => ?_) fun hnone => nomatch hnone⟩
  obtain rfl := Option.some.inj ha
  rw [List.length_replicate]
  exact ⟨rfl, Nat.zero_le _, Nat.mod_lt _ (by omega)⟩

/-- Creating an op in an allocated batch: it is full, or the op goes into its array. -/
theorem CsrInv.create (hI : CsrInv st) (x : CsrOpArgs) {a : CsrOpArray}
    (ha : (st.entry b).ops = some a) :
    ∃ rc p st', createCsrBatchOp st x b = some (rc, p, st') ∧ CsrInv st' ∧
      ∀ q, p = some q → q.id = a.id ∧ q.slot < a.slots.length := by
  obtain ⟨hlen, hle, hlt⟩ := hI.allocated b a ha
  by_cases hfull : st.capacity b ≤ (st.entry b).numops
  · have hup := csrBatchStorage_updated hI.sized b
    refine ⟨-1, none, _, createCsrBatchOp_full hI.sized x hfull,
      hI.of_updated hup (hI.allocated b) (hI.unallocated b), fun q hq => nomatch hq⟩
  · have hroom : (st.entry b).numops < a.slots.length := by omega
    obtain ⟨st', hst', hup, -⟩ := createCsrBatchOp_spec hI.sized x (Nat.not_le.mp hfull) ha
      (List.getElem?_eq_getElem hroom)
    refine ⟨0, _, st', hst', hI.of_updated hup (fun a' ha' => ?_)
      (fun hnone => nomatch hnone), ?_⟩
    · obtain rfl := Option.some.inj ha'
      rw [List.length_set, Nat.mod_eq_of_lt (by omega)]
      exact ⟨hlen, hroom, hlt⟩
    · intro q hq
      obtain rfl := Option.some.inj hq
      exact ⟨rfl, hroom⟩

/-- **Step lemma.**  With room a call is sound and keeps the invariant. -/
theorem CsrInv.step (hI : CsrInv st) {call : CsrCall} (hroom : CsrHasRoom st call) :
    CsrSoundAt st call ∧ ∀ st', csrStep st call = some st' → CsrInv st' := by
  cases call with
  | allocate b n =>
    obtain ⟨st₁, hst₁, hI₁⟩ := hI.allocate n hroom
    have hcall : csrCall st (.allocate b n) = some (0, none, st₁) := by
      rw [csrCall, hst₁, Option.map_some]
    have hkeep : ∀ st', csrStep st (.allocate b n) = some st' → CsrInv st' := by
      intro st' hst'
      rw [csrStep, hcall, Option.map_some] at hst'
      exact Option.some.inj hst' ▸ hI₁
    refine ⟨⟨⟨_, hcall⟩, fun st' hst' => (hkeep st' hst').inBounds, ?_, ?_⟩, hkeep⟩
    · intro x b' h
      contradiction
    · intro x b' h
      contradiction
  | create x b =>
    obtain ⟨a, ha⟩ := Option.ne_none_iff_exists'.mp hroom
    obtain ⟨rc, p, st₁, hst₁, hI₁, hslot⟩ := hI.create x ha
    have hcall : csrCall st (.create x b) = some (rc, p, st₁) := hst₁
    have hkeep : ∀ st', csrStep st (.create x b) = some st' → CsrInv st' := by
      intro st' hst'
      rw [csrStep, hcall, Option.map_some] at hst'
      exact Option.some.inj hst' ▸ hI₁
    refine ⟨⟨⟨_, hcall⟩, fun st' hst' => (hkeep st' hst').inBounds, ?_, ?_⟩, hkeep⟩
    · rintro _ _ ⟨⟩ rc' q st' hq
      obtain ⟨-, rfl, -⟩ := by simpa using hcall.symm.trans hq
      obtain ⟨hid, hlt⟩ := hslot q rfl
      exact ⟨a, ha, hid, hlt⟩
    · rintro _ _ ⟨⟩ hnone
      exact absurd hnone hroom

/-- Without room no call returns. -/
theorem CsrInv.hasRoom_of_returns (hI : CsrInv st) {call : CsrCall}
    {r : Int × Option Ptr × CsrBatchStorage} (hr : csrCall st call = some r) :
    CsrHasRoom st call := by
  cases call with
  | allocate b n =>
    by_contra hused
    rw [csrCall, allocateCsrBatch_none hI.sized n hused] at hr
    contradiction
  | create x b =>
    intro hnull
    -- nothing is counted, and the default size says there is room
    obtain ⟨h0, hcap⟩ := hI.unallocated b hnull
    have hroom : (st.entry b).numops < st.capacity b := by
      rw [h0, hcap]
      exact Nat.succ_pos 7
    rw [csrCall, createCsrBatchOp_null hI.sized x hroom hnull] at hr
    contradiction

/-- Whatever a call did, if it returned the invariant holds. -/
theorem CsrInv.of_csrStep (hI : CsrInv st) {call : CsrCall} (h : csrStep st call = some st') :
    CsrInv st' := by
  obtain ⟨r, hr, -⟩ := Option.map_eq_some_iff.mp h
  exact (hI.step (hI.hasRoom_of_returns hr)).2 st' h

end Step

/-- **Filling CSR batches.**  Every call of a run is sound exactly when every call has
    room. -/
theorem csrSound_along_iff (calls : List CsrCall) :
    Runs.Along csrStep CsrSoundAt .init calls ↔ Runs.Along csrStep CsrHasRoom .init calls := by
  refine Runs.along_iff (I := CsrInv) (fun st call hI => ?_)
    (fun st call st' hI hroom h => (hI.step hroom).2 st' h) csrInv_init
  constructor
  · intro hsound
    obtain ⟨r, hr⟩ := hsound.returns
    exact hI.hasRoom_of_returns hr
  · intro hroom
    exact (hI.step hroom).1

/-- The first op of a batch that was never allocated. -/
theorem csrCreate_unallocated :
    ¬ Runs.Along csrStep CsrSoundAt .init [.create ⟨0xA0, 1, 16, 0, 0, 1, 8⟩ 0] := by
  rintro ⟨hsound, -⟩
  obtain ⟨r, hr⟩ := hsound.returns
  have hnone : csrCall .init (.create ⟨0xA0, 1, 16, 0, 0, 1, 8⟩ 0) = none := rfl
  rw [hnone] at hr
  contradiction

end Libmsr
