/-
  Libmsr.Core.BatchBounds

  Op counts, capacities and ops arrays over every sequence of `allocate_batch`
  and `create_batch_op` calls on any batches.

  `create_batch_op` refuses a call only when `numops` is already larger than the
  capacity, so a full batch, and a batch that was never allocated, still gets
  one more op, written past the end of its array.  The run theorem says exactly
  which sequences stay inside their arrays.
-/
import Libmsr.Core.BatchStorageSpec
import Libmsr.Lib.Runs

namespace Libmsr

open BatchStorage

/-- Number of ops the batch's array has room for; 0 for the NULL array. -/
def MsrBatchArray.length (e : MsrBatchArray) : Nat :=
  match e.ops with
  | none => 0
  | some a => a.slots.length

/-- A call of the batch interface. -/
inductive BatchCall where
  | allocate (batchnum bsize : Nat)
  | create (msr : Nat) (cpu : Word) (batchnum : Nat)
  deriving Repr, DecidableEq

/-- The state after a call; `none` when it stores outside an ops array. -/
def batchStep (st : BatchStorage) : BatchCall → Option BatchStorage
  | .allocate b n => (allocateBatch st b n).map (·.2)
  | .create msr cpu b => (createBatchOp st msr cpu b).map (·.2.2)

/-- No batch counts more ops than its array has. -/
def Bounded (st : BatchStorage) : Prop := ∀ b, (st.entry b).numops ≤ (st.entry b).length

/-- What a call has to do: have a defined outcome, write inside the batch's
    array, keep every batch bounded, and, for a create on a batch that already
    holds as many ops as were allocated, return -1 and change no entry. -/
def SoundAt (st : BatchStorage) : BatchCall → Prop
  | .allocate b n => ∃ rc st', allocateBatch st b n = some (rc, st') ∧ Bounded st'
  | .create msr cpu b => ∃ rc dest st', createBatchOp st msr cpu b = some (rc, dest, st') ∧
      Bounded st' ∧ (∀ p, dest = some p → p.slot < (st'.entry b).length) ∧
      ((st.entry b).length ≤ (st.entry b).numops →
        rc = -1 ∧ dest = none ∧ ∀ b', st'.entry b' = st.entry b')

/-- The condition on a call: a create finds an unused slot, and an allocation
    has room for the ops the batch already counts (and for its loop counter). -/
def HasRoom (st : BatchStorage) : BatchCall → Prop
  | .allocate b n => (st.entry b).numops ≤ n % 2 ^ 32 ∧ n % 2 ^ 32 < 2 ^ 31
  | .create _ _ b => (st.entry b).numops < (st.entry b).length

/-! ## The invariant -/

/-- Capacity and array agree for every batch, and the count stays below them. -/
structure BatchInv (st : BatchStorage) : Prop where
  sized : st.Sized
  length_eq : ∀ b, (st.entry b).length = st.capacity b
  numops_le : ∀ b, (st.entry b).numops ≤ st.capacity b
  capacity_lt : ∀ b, st.capacity b < 2 ^ 31

theorem BatchInv.bounded {st : BatchStorage} (h : BatchInv st) : Bounded st := by
  intro b
  rw [h.length_eq b]
  exact h.numops_le b

theorem batchInv_init : BatchInv .init := by
  refine ⟨init_sized, fun b => ?_, fun b => ?_, fun b => ?_⟩ <;>
    simp [BatchStorage.init, entry, capacity, MsrBatchArray.length, MsrBatchArray.empty]

theorem MsrBatchArray.length_some (k : Nat) (a : OpArray) :
    (MsrBatchArray.mk k (some a)).length = a.slots.length := rfl

/-- A batch with a free slot has an array, and the slot is in it. -/
theorem exists_slot_of_lt {e : MsrBatchArray} (h : e.numops < e.length) :
    ∃ a op, e.ops = some a ∧ a.slots[e.numops]? = some op := by
  cases ha : e.ops with
  | none => simp [MsrBatchArray.length, ha] at h
  | some a =>
    have hlt : e.numops < a.slots.length := by simpa [MsrBatchArray.length, ha] using h
    exact ⟨a, a.slots[e.numops], rfl, List.getElem?_eq_getElem hlt⟩

/-! ## One call -/

section Step

variable {st : BatchStorage} (hI : BatchInv st)
include hI

/-- An allocation with enough room keeps the invariant. -/
theorem BatchInv.allocate {b n : Nat} (hle : (st.entry b).numops ≤ n % 2 ^ 32)
    (hlt : n % 2 ^ 32 < 2 ^ 31) :
    ∃ st', allocateBatch st b n = some (0, st') ∧ BatchInv st' := by
  obtain ⟨st', hst', hal⟩ := allocateBatch_spec hI.sized b n (by omega)
  refine ⟨st', hst', hal.sized, fun b' => ?_, fun b' => ?_, fun b' => ?_⟩
  · by_cases hb : b' = b
    · subst hb
      rw [hal.entry, hal.capacity, MsrBatchArray.length_some, List.length_replicate]
    · rw [hal.entry_ne b' hb, hal.capacity_ne b' hb, hI.length_eq b']
  · by_cases hb : b' = b
    · subst hb
      rw [hal.entry, hal.capacity]
      exact hle
    · rw [hal.entry_ne b' hb, hal.capacity_ne b' hb]
      exact hI.numops_le b'
  · by_cases hb : b' = b
    · subst hb
      rw [hal.capacity]
      exact hlt
    · rw [hal.capacity_ne b' hb]
      exact hI.capacity_lt b'

/-- A create with a free slot fills it and keeps the invariant. -/
theorem BatchInv.create (msr : Nat) (cpu : Word) {b : Nat}
    (hroom : (st.entry b).numops < (st.entry b).length) :
    ∃ p st', createBatchOp st msr cpu b = some (0, some p, st') ∧ BatchInv st' ∧
      p.slot < (st'.entry b).length := by
  obtain ⟨a, op, ha, hop⟩ := exists_slot_of_lt hroom
  have hcap := hI.length_eq b
  have hlt := hI.capacity_lt b
  obtain ⟨st', hst', hup⟩ := createBatchOp_spec hI.sized msr cpu (hI.numops_le b) ha hop
  have hlen : (st'.entry b).length = (st.entry b).length := by
    rw [hup.entry, MsrBatchArray.length_some, List.length_set]
    simp only [MsrBatchArray.length, ha]
  refine ⟨_, st', hst', ⟨hup.sized, fun b' => ?_, fun b' => ?_, fun b' => ?_⟩, ?_⟩
  · by_cases hb : b' = b
    · subst hb
      rw [hlen, hcap, hup.capacity]
    · rw [hup.entry_ne b' hb, hup.capacity, hI.length_eq b']
  · by_cases hb : b' = b
    · subst hb
      rw [hup.entry, hup.capacity]
      show ((st.entry b').numops + 1) % 2 ^ 32 ≤ st.capacity b'
      omega
    · rw [hup.entry_ne b' hb, hup.capacity]
      exact hI.numops_le b'
  · rw [hup.capacity]
    exact hI.capacity_lt b'
  · rw [hlen]
    exact hroom

/-- A create on a full batch passes the fullness test and stores past the end. -/
theorem BatchInv.create_full (msr : Nat) (cpu : Word) {b : Nat}
    (hfull : (st.entry b).length ≤ (st.entry b).numops) : createBatchOp st msr cpu b = none := by
  refine createBatchOp_none hI.sized msr cpu (hI.numops_le b) fun a ha => ?_
  simpa only [MsrBatchArray.length, ha] using hfull

/-- Under the invariant a call is sound exactly when it has room. -/
theorem BatchInv.soundAt_iff (call : BatchCall) : SoundAt st call ↔ HasRoom st call := by
  cases call with
  | allocate b n =>
    refine ⟨?_, fun ⟨hle, hlt⟩ => ?_⟩
    · rintro ⟨rc, st', hst', hbound⟩
      have hsize : ¬ ((st.entry b).numops < n % 2 ^ 32 ∧ 2 ^ 31 ≤ n % 2 ^ 32) := by
        intro hbad
        rw [(allocateBatch_none_iff hI.sized b n).mpr hbad] at hst'
        exact absurd hst' (by simp)
      obtain ⟨st'', hst'', hal⟩ := allocateBatch_spec hI.sized b n hsize
      rw [hst''] at hst'
      obtain ⟨-, rfl⟩ := Prod.mk.inj (Option.some.inj hst')
      -- the new array has exactly `n` slots, so the bound is the condition
      have hb := hbound b
      rw [hal.entry, MsrBatchArray.length_some, List.length_replicate] at hb
      have hold := hI.numops_le b
      have hcap := hI.capacity_lt b
      exact ⟨hb, by simp only at hb; omega⟩
    · obtain ⟨st', hst', hI'⟩ := hI.allocate hle hlt
      exact ⟨0, st', hst', hI'.bounded⟩
  | create msr cpu b =>
    refine ⟨?_, fun hroom => ?_⟩
    · rintro ⟨rc, dest, st', hst', -⟩
      -- a create on a full batch has no result
      by_contra hfull
      rw [hI.create_full msr cpu (Nat.not_lt.mp hfull)] at hst'
      exact absurd hst' (by simp)
    · obtain ⟨p, st', hst', hI', hslot⟩ := hI.create msr cpu hroom
      refine ⟨0, some p, st', hst', hI'.bounded, fun q hq => ?_, fun hfull => ?_⟩
      · obtain rfl := Option.some.inj hq
        exact hslot
      · exact absurd hroom (Nat.not_lt.mpr hfull)

/-- A call with room succeeds and keeps the invariant. -/
theorem BatchInv.step {call : BatchCall} (hroom : HasRoom st call) :
    ∃ st', batchStep st call = some st' ∧ BatchInv st' := by
  cases call with
  | allocate b n =>
    obtain ⟨st', hst', hI'⟩ := hI.allocate hroom.1 hroom.2
    exact ⟨st', by rw [batchStep, hst', Option.map_some], hI'⟩
  | create msr cpu b =>
    obtain ⟨p, st', hst', hI', -⟩ := hI.create msr cpu hroom
    exact ⟨st', by rw [batchStep, hst', Option.map_some], hI'⟩

end Step

/-! ## Runs -/

/-- **Which runs stay inside their arrays.**  Every call of a run is sound if
    and only if every call of it has room. -/
theorem soundAt_along_iff (calls : List BatchCall) :
    Runs.Along batchStep SoundAt .init calls ↔ Runs.Along batchStep HasRoom .init calls := by
  refine Runs.along_iff (fun st call hI => BatchInv.soundAt_iff hI call) ?_ batchInv_init
  intro st call st' hI hroom hst'
  obtain ⟨st'', hst'', hI''⟩ := BatchInv.step hI hroom
  rw [hst''] at hst'
  obtain rfl := Option.some.inj hst'
  exact hI''

/-- A run with room throughout never gets stuck and ends with every batch
    bounded. -/
theorem run_bounded_of_hasRoom {calls : List BatchCall}
    (h : Runs.Along batchStep HasRoom .init calls) :
    ∃ st, Runs.run batchStep .init calls = some st ∧ Bounded st := by
  obtain ⟨st, hst, hI⟩ := h.run_inv (fun s o hI hroom => BatchInv.step hI hroom) batchInv_init
  exact ⟨st, hst, hI.bounded⟩

/-- One op allocated, two created: the second is written one past the end. -/
theorem create_past_end :
    ¬ Runs.Along batchStep SoundAt .init
      [.allocate 0 1, .create 0x611 0 0, .create 0x611 1 0] := by
  intro h
  obtain ⟨-, h⟩ := h
  obtain ⟨-, h⟩ := h _ rfl
  obtain ⟨⟨rc, dest, st', hst', -⟩, -⟩ := h _ rfl
  have hnone : (none : Option (Int × Option Ptr × BatchStorage)) = some (rc, dest, st') := hst'
  exact absurd hnone (by simp)

end Libmsr
