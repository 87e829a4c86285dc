/-
  Libmsr.Csr.AllocateRuns

  The loop of `allocate_csr_batch` (src/csr_core.c) over the array it has just
  allocated, in runs of the calls that change the CSR table.

  The bound of the loop is taken from the moving pointer: `op < op + numops`.
  The loop so ends before its first round or never, and which of the two depends on
  the op count the batch had before the call: neither `allocate_csr_batch` nor
  `free_csr_batch` resets it.  `allocates_along_iff`: the loops of a run end and stay
  inside the new arrays exactly while no batch that counts ops is allocated again.
-/
import Libmsr.Csr.BatchFree

namespace Libmsr

/-! ## The loop -/

/-- How far the loop has come. -/
inductive ErrLoop where
  | running (op : Nat) (slots : List CsrBatchOp)
  | ended (slots : List CsrBatchOp)
  | outside (op : Nat)
  deriving Repr, DecidableEq

/-- `for (op = batch->ops; op < op + batch->numops; op++) op->err = 0;` from slot `op`
    on, for at most `fuel` tests of the condition.  It is `outside` with the first slot
    behind the array that it stores to. -/
def clearErrs (numops : Nat) : Nat → Nat → List CsrBatchOp → ErrLoop
  | 0, op, slots => .running op slots
  | fuel + 1, op, slots =>
    if op < op + numops then
      match slots[op]? with
      | none => .outside op
      | some x => clearErrs numops fuel (op + 1) (slots.set op { x with err := 0 })
    else .ended slots

/-- The loop ends, and stores to no slot outside the array. -/
structure ErrLoopSound (numops : Nat) (slots : List CsrBatchOp) : Prop where
  ends : ∃ fuel slots', clearErrs numops fuel 0 slots = .ended slots'
  inside : ∀ fuel op, clearErrs numops fuel 0 slots ≠ .outside op

/-- Without ops the condition is false at once. -/
theorem clearErrs_zero (fuel op : Nat) (slots : List CsrBatchOp) :
    clearErrs 0 (fuel + 1) op slots = .ended slots := by
  rw [clearErrs, if_neg (by omega)]

/-- With ops the condition is never false. -/
theorem clearErrs_ne_ended {numops : Nat} (hused : numops ≠ 0) (fuel op : Nat)
    (slots slots' : List CsrBatchOp) : clearErrs numops fuel op slots ≠ .ended slots' := by
  induction fuel generalizing op slots with
  | zero => exact ErrLoop.noConfusion
  | succ fuel ih =>
    rw [clearErrs, if_pos (by omega)]
    cases slots[op]? with
    | none => exact ErrLoop.noConfusion
    | some x => exact ih _ _

/-- With ops the loop visits every slot of the array, and then the first one behind it. -/
theorem clearErrs_outside {numops : Nat} (hused : numops ≠ 0) (op : Nat)
    (slots : List CsrBatchOp) (hop : op ≤ slots.length) :
    clearErrs numops (slots.length - op + 1) op slots = .outside slots.length := by
  -- induction on the slots still to come
  induction hk : slots.length - op generalizing op slots with
  | zero =>
    have hend : op = slots.length := by omega
    rw [clearErrs, if_pos (by omega), List.getElem?_eq_none (by omega), hend]
  | succ k ih =>
    have hin : op < slots.length := by omega
    rw [clearErrs, if_pos (by omega), List.getElem?_eq_getElem hin]
    show clearErrs numops (k + 1) (op + 1) _ = _
    rw [ih (op + 1) _ (by rw [List.length_set]; omega) (by rw [List.length_set]; omega),
      List.length_set]

theorem errLoopSound_iff (numops : Nat) (slots : List CsrBatchOp) :
    ErrLoopSound numops slots ↔ numops = 0 := by
  constructor
  · intro hsound
    by_contra hused
    obtain ⟨fuel, slots', hends⟩ := hsound.ends
    exact clearErrs_ne_ended hused fuel 0 slots slots' hends
  · rintro rfl
    refine ⟨⟨1, slots, clearErrs_zero 0 0 slots⟩, fun fuel op => ?_⟩
    cases fuel with
    | zero => exact ErrLoop.noConfusion
    | succ fuel =>
      rw [clearErrs_zero]
      exact ErrLoop.noConfusion

/-! ## The call -/

/-- The table as `allocate_csr_batch` has it when the loop starts. -/
def csrAllocated (st : CsrBatchStorage) (batchnum bsize : Nat) : CsrBatchStorage :=
  let st := csrBatchStorage st batchnum
  let st := st.setCapacity batchnum (bsize % 2 ^ 32)
  st.callocOps batchnum (st.capacity batchnum)

/-- There the batch has a new array of the size asked for, and the op count of before. -/
theorem csrAllocated_entry {st : CsrBatchStorage} (hs : st.table.Sized) (b n : Nat) :
    (csrAllocated st b n).entry b =
      ⟨(st.entry b).numops, some ⟨st.nextId, List.replicate (n % 2 ^ 32) .zero⟩⟩ := by
  obtain ⟨hs₁, hb₁, hent, -⟩ := csrBatchStorage_spec hs b
  have hb₂ : ((csrBatchStorage st b).setCapacity b (n % 2 ^ 32)).table.HasEntry b :=
    hb₁.setCapacity _ _
  have hcap : ((csrBatchStorage st b).setCapacity b (n % 2 ^ 32)).capacity b = n % 2 ^ 32 :=
    GrowTable.capacity_setCapacity_self hs₁ hb₁ _
  have hsame : ((csrBatchStorage st b).setCapacity b (n % 2 ^ 32)).entry b = st.entry b := hent b
  rw [csrAllocated, entry_callocOps hb₂, hsame, hcap]
  rfl

/-- The call returns when its loop ends, with the table the loop leaves. -/
theorem allocateCsrBatch_eq_some_iff {st : CsrBatchStorage} (hs : st.table.Sized) (b n : Nat)
    (r : Int × CsrBatchStorage) :
    allocateCsrBatch st b n = some r ↔
      (∃ fuel a, ((csrAllocated st b n).entry b).ops = some a ∧
        clearErrs ((csrAllocated st b n).entry b).numops fuel 0 a.slots = .ended a.slots) ∧
      r = (0, csrAllocated st b n) := by
  have hcall : allocateCsrBatch st b n =
      if ((csrAllocated st b n).entry b).numops = 0 then some (0, csrAllocated st b n)
      else none := rfl
  rw [hcall]
  by_cases h0 : ((csrAllocated st b n).entry b).numops = 0
  · rw [if_pos h0, Option.some.injEq, eq_comm, and_iff_right]
    refine ⟨1, _, congrArg CsrBatchArray.ops (csrAllocated_entry hs b n), ?_⟩
    rw [h0]
    exact clearErrs_zero 0 0 _
  · rw [if_neg h0]
    constructor
    · intro h
      contradiction
    · rintro ⟨⟨fuel, a, -, hends⟩, -⟩
      exact absurd hends (clearErrs_ne_ended h0 _ _ _ _)

/-! ## Runs -/

/-- A call that changes the CSR table. -/
inductive CsrTableCall where
  | allocate (batchnum bsize : Nat)
  | create (x : CsrOpArgs) (batchnum : Nat)
  | free (batchnum : Nat)
  deriving Repr, DecidableEq

/-- The state after the call; `none` where it does not return, or stores outside the
    memory it has. -/
def csrTableStep (st : CsrBatchStorage) : CsrTableCall → Option CsrBatchStorage
  | .allocate batchnum bsize => (allocateCsrBatch st batchnum bsize).map Prod.snd
  | .create x batchnum => (createCsrBatchOp st x batchnum).map fun r => r.2.2
  | .free batchnum => (freeCsrBatch st batchnum).map FreeResult.st

/-- An `allocate_csr_batch` returns, and its loop ends inside the array it has just
    allocated. -/
def CsrAllocates (st : CsrBatchStorage) : CsrTableCall → Prop
  | .allocate b n =>
    (∃ r, allocateCsrBatch st b n = some r) ∧
    ∃ a, ((csrAllocated st b n).entry b).ops = some a ∧ a.id = st.nextId ∧
      ErrLoopSound ((csrAllocated st b n).entry b).numops a.slots
  | _ => True

/-- A batch that is allocated counts no ops. -/
def CsrAllocatesUnused (st : CsrBatchStorage) : CsrTableCall → Prop
  | .allocate b _ => (st.entry b).numops = 0
  | _ => True

/-- The table is in order, and no size is wider than an `unsigned`. -/
structure CsrTableInv (st : CsrBatchStorage) : Prop where
  sized : st.table.Sized
  capacity_lt : ∀ b, st.capacity b < 2 ^ 32

theorem csrTableInv_init : CsrTableInv .init :=
  ⟨GrowTable.init_sized, fun _ => show 8 < 2 ^ 32 by decide⟩

section Step

variable {st st' : CsrBatchStorage} {b : Nat}

/-- An update keeps the invariant, if the capacity it sets does. -/
theorem CsrTableInv.of_updated (hI : CsrTableInv st) {e : CsrBatchArray} {n : Nat}
    (hn : n < 2 ^ 32) (hup : CsrUpdated st b e n st') : CsrTableInv st' := by
  refine ⟨hup.sized, fun b' => ?_⟩
  by_cases heq : b' = b
  · subst heq
    rw [hup.capacity]
    exact hn
  · rw [hup.capacity_ne b' heq]
    exact hI.capacity_lt b'

/-- `free_csr_batch` takes the array and the size of an entry of the table, and leaves
    its op count. -/
theorem freeCsrBatch_updated (hs : st.table.Sized) {r : FreeResult CsrBatchStorage CsrOpArray}
    (h : freeCsrBatch st b = some r) :
    CsrUpdated st (b + b) ⟨(st.entry (b + b)).numops, none⟩ 0 r.st := by
  obtain ⟨hs₁, ⟨l, hl, -⟩, hent, hcap⟩ := csrBatchStorage_spec hs b
  obtain ⟨hlt, hr⟩ := Option.ite_none_right_eq_some.mp h
  obtain rfl := Option.some.inj hr
  have hb₂ : ((csrBatchStorage st b).setCapacity (b + b) 0).table.HasEntry (b + b) :=
    ⟨l, hl, (hs₁.lengths l hl).1 ▸ hlt⟩
  refine ⟨(hs₁.setCapacity _).setEntry _, hb₂.setEntry _ _, ?_, ?_, ?_, ?_⟩
  · refine (csrEntry_setEntry_self hb₂ _).trans ?_
    rw [hent]
  · exact GrowTable.capacity_setCapacity_self hs₁ ⟨l, hl, (hs₁.lengths l hl).1 ▸ hlt⟩ 0
  · intro b' hne
    exact (GrowTable.entry_setEntry_of_ne hne _).trans (hent b')
  · intro b' hne
    exact (GrowTable.capacity_setCapacity_of_ne hne 0).trans (hcap b')

/-- **Step lemma.**  Whatever a call did, if it returned it kept the invariant, and no
    batch that counted ops counts none. -/
theorem CsrTableInv.step (hI : CsrTableInv st) {call : CsrTableCall}
    (h : csrTableStep st call = some st') :
    CsrTableInv st' ∧ ∀ b, (st.entry b).numops ≠ 0 → (st'.entry b).numops ≠ 0 := by
  -- it is enough that the call replaced one entry by one that is used if it was
  have key : ∀ b e n, n < 2 ^ 32 → CsrUpdated st b e n st' →
      ((st.entry b).numops ≠ 0 → e.numops ≠ 0) →
      CsrTableInv st' ∧ ∀ b, (st.entry b).numops ≠ 0 → (st'.entry b).numops ≠ 0 := by
    intro b e n hn hup hcount
    refine ⟨hI.of_updated hn hup, fun b' hused => ?_⟩
    by_cases heq : b' = b
    · subst heq
      rw [hup.entry]
      exact hcount hused
    · rw [hup.entry_ne b' heq]
      exact hused
  cases call with
  | allocate b n =>
    obtain ⟨r, hr, rfl⟩ := Option.map_eq_some_iff.mp h
    have h0 : (st.entry b).numops = 0 := by
      by_contra hused
      rw [allocateCsrBatch_none hI.sized n hused] at hr
      contradiction
    obtain ⟨st₁, hst₁, hup, -⟩ := allocateCsrBatch_spec hI.sized n h0
    obtain rfl := Option.some.inj (hst₁.symm.trans hr)
    exact key b _ _ (Nat.mod_lt _ (by omega)) hup fun hused => absurd h0 hused
  | create x b =>
    obtain ⟨r, hr, rfl⟩ := Option.map_eq_some_iff.mp h
    by_cases hfull : st.capacity b ≤ (st.entry b).numops
    · rw [createCsrBatchOp_full hI.sized x hfull] at hr
      obtain rfl := Option.some.inj hr
      exact key b _ _ (hI.capacity_lt b) (csrBatchStorage_updated hI.sized b) id
    · have hroom := Nat.not_le.mp hfull
      have hlt := hI.capacity_lt b
      cases ha : (st.entry b).ops with
      | none =>
        rw [createCsrBatchOp_null hI.sized x hroom ha] at hr
        contradiction
      | some a =>
        cases hop : a.slots[(st.entry b).numops]? with
        | none =>
          rw [createCsrBatchOp_outside hI.sized x hroom ha hop] at hr
          contradiction
        | some op =>
          obtain ⟨st₁, hst₁, hup, -⟩ := createCsrBatchOp_spec hI.sized x hroom ha hop
          obtain rfl := Option.some.inj (hst₁.symm.trans hr)
          refine key b _ _ hlt hup fun _ => ?_
          rw [Nat.mod_eq_of_lt (by omega)]
          exact Nat.succ_ne_zero _
  | free b =>
    obtain ⟨r, hr, rfl⟩ := Option.map_eq_some_iff.mp h
    exact key (b + b) _ 0 (by omega) (freeCsrBatch_updated hI.sized hr) id

/-- The call allocates as it should exactly when the batch counts no ops. -/
theorem csrAllocates_iff (hs : st.table.Sized) (call : CsrTableCall) :
    CsrAllocates st call ↔ CsrAllocatesUnused st call := by
  cases call with
  | allocate b n =>
    have hent := csrAllocated_entry hs b n
    have hnum : ((csrAllocated st b n).entry b).numops = (st.entry b).numops := by
      rw [hent]
    constructor
    · rintro ⟨-, a, -, -, hsound⟩
      exact hnum.symm.trans ((errLoopSound_iff _ _).mp hsound)
    · intro h0
      obtain ⟨st', hst', -⟩ := allocateCsrBatch_spec hs n h0
      exact ⟨⟨_, hst'⟩, _, congrArg CsrBatchArray.ops hent, rfl,
        (errLoopSound_iff _ _).mpr (hnum.trans h0)⟩
  | create x b => exact Iff.rfl
  | free b => exact Iff.rfl

end Step

/-- **Allocating CSR batches.**  In a run of calls from the start every allocation
    returns, with its loop inside the new array, exactly when every batch that is
    allocated counts no ops then. -/
theorem allocates_along_iff (calls : List CsrTableCall) :
    Runs.Along csrTableStep CsrAllocates .init calls ↔
      Runs.Along csrTableStep CsrAllocatesUnused .init calls :=
  Runs.along_iff (I := CsrTableInv) (fun _ call hI => csrAllocates_iff hI.sized call)
    (fun _ _ _ hI _ h => (hI.step h).1) csrTableInv_init

/-- A batch with an op, freed and allocated again. -/
theorem freed_allocated_again :
    ¬ Runs.Along csrTableStep CsrAllocates .init
      [.allocate 0 4, .create ⟨0xA0, 1, 16, 0, 0, 1, 8⟩ 0, .free 0, .allocate 0 4] := by
  rintro ⟨-, h⟩
  obtain ⟨-, h⟩ := h _ rfl
  obtain ⟨-, h⟩ := h _ rfl
  obtain ⟨⟨⟨r, hr⟩, -⟩, -⟩ := h _ rfl
  contradiction

/-- Once a batch counts an op, no calls make it one that can be allocated. -/
theorem used_not_allocated {st st' : CsrBatchStorage} {calls : List CsrTableCall}
    (hI : CsrTableInv st) {b : Nat} (hused : (st.entry b).numops ≠ 0)
    (h : Runs.run csrTableStep st calls = some st') (n : Nat) :
    allocateCsrBatch st' b n = none := by
  obtain ⟨hI', hused'⟩ := Runs.run_inv (I := fun st => CsrTableInv st ∧ (st.entry b).numops ≠ 0)
    (fun _ _ _ hI h => ⟨(hI.1.step h).1, (hI.1.step h).2 b hI.2⟩) ⟨hI, hused⟩ h
  exact allocateCsrBatch_none hI'.sized n hused'

end Libmsr
