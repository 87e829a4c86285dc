/-
  Libmsr.Core.BatchPointers

  The pointers that `create_batch_op` hands out, over runs of `allocate_batch`,
  `create_batch_op` and `read_batch` calls on any batches.

  `allocate_batch` on a batch that has an array already reports a conflict, and
  then replaces the array all the same; `create_batch_op` on a full batch stores
  past the end of its array.  `pointersLive_along_iff`: the pointers stay good
  exactly while batches with ops are not allocated again and no op is created
  without room.
-/
import Libmsr.Core.BatchBounds
import Libmsr.Core.RowLoading
import Libmsr.Lib.Runs

namespace Libmsr

open BatchStorage

/-! ## Runs -/

/-- A pointer that `create_batch_op` stored through `dest`, and the op it was asked
    for. -/
structure Handed where
  batchnum : Nat
  ptr : Ptr
  msr : Nat
  cpu : Word
  deriving Repr, DecidableEq

/-- Where that op goes. -/
def Handed.place (x : Handed) : Nat × Nat := opPlace x.msr x.cpu.toNat

/-- The table and the pointers handed out so far. -/
structure PointerTable where
  st : BatchStorage
  handed : List Handed
  deriving Repr, DecidableEq

def PointerTable.init : PointerTable := ⟨.init, []⟩

/-- A call of the library; a read finds the host in some state. -/
inductive PointerCall where
  | allocate (batchnum bsize : Nat)
  | create (msr : Nat) (cpu : Word) (batchnum : Nat)
  | read (host : Host) (batchnum : Nat)

section Step

variable (drv : BatchDriver) (fd : Int)

/-- One call, the pointer of a create being recorded. -/
def pointerStep (s : PointerTable) : PointerCall → Option PointerTable
  | .allocate batchnum bsize =>
    (allocateBatch s.st batchnum bsize).map fun r => { s with st := r.2 }
  | .create msr cpu batchnum =>
    (createBatchOp s.st msr cpu batchnum).map fun r =>
      ⟨r.2.2, s.handed ++ (r.2.1.map fun p => ⟨batchnum, p, msr, cpu⟩).toList⟩
  | .read host batchnum =>
    (readBatch drv fd s.st host batchnum).map fun r => { s with st := r.st }

/-- No register of the batch's counted ops fails. -/
def CountedReadable (h : Host) (st : BatchStorage) (b : Nat) : Prop :=
  ¬ SomeFails h.fails (st.entry b).counted

/-- The pointer designates an op of its own in the batch's current array, and a read
    delivers the register through it. -/
structure Live (st : BatchStorage) (x : Handed) : Prop where
  own : ∃ op, st.opAt x.batchnum x.ptr = some op ∧ op.place = x.place ∧
    x.ptr.slot < (st.entry x.batchnum).numops
  delivers : ∀ h n, drv.Serves fd h n → CountedReadable h st x.batchnum →
    ∃ r, readBatch drv fd st h x.batchnum = some r ∧
      r.st.load x.batchnum x.ptr = some (RegFile.at h.regs x.place)

/-- All pointers are good, and no two of them are the same. -/
structure AllLive (s : PointerTable) : Prop where
  live : ∀ x ∈ s.handed, Live drv fd s.st x
  distinct : (s.handed.map fun x => (x.batchnum, x.ptr)).Nodup

/-- The call has an outcome, and they are after it. -/
def LiveAfter (s : PointerTable) (call : PointerCall) : Prop :=
  ∃ s', pointerStep drv fd s call = some s' ∧ AllLive drv fd s'

end Step

/-- An allocation is for a batch without ops, and its loop counts in an `int`; an op is
    created in a slot of the array. -/
def KeepsPointers (s : PointerTable) : PointerCall → Prop
  | .allocate batchnum bsize => (s.st.entry batchnum).numops = 0 ∧ bsize % 2 ^ 32 < 2 ^ 31
  | .create _ _ batchnum => (s.st.entry batchnum).numops < (s.st.entry batchnum).length
  | .read _ _ => True

/-! ## One batch -/

/-- The pointers of a batch are those to the slots in use, in order, and every op is
    where it was asked for. -/
structure Tracked (nextId : Nat) (e : MsrBatchArray) (own : List Handed) : Prop where
  unallocated : e.ops = none → e.numops = 0 ∧ own = []
  older : ∀ a, e.ops = some a → a.id < nextId
  room : ∀ a, e.ops = some a → e.numops ≤ a.slots.length ∧ a.slots.length < 2 ^ 32
  ptrs : ∀ a, e.ops = some a → own.map Handed.ptr = (List.range e.numops).map (Ptr.mk a.id)
  places : ∀ a, e.ops = some a →
    (a.slots.take e.numops).map MsrBatchOp.place = own.map Handed.place
  reads : ∀ a, e.ops = some a → ∀ op ∈ a.slots.take e.numops, op.isrdmsr = 1

section Batch

variable {nextId : Nat} {e : MsrBatchArray} {a : OpArray} {own : List Handed}

theorem tracked_empty (nextId : Nat) : Tracked nextId .empty [] where
  unallocated := fun _ => ⟨rfl, rfl⟩
  older := fun _ ha => nomatch ha
  room := fun _ ha => nomatch ha
  ptrs := fun _ ha => nomatch ha
  places := fun _ ha => nomatch ha
  reads := fun _ ha => nomatch ha

theorem Tracked.mono (h : Tracked nextId e own) {nextId' : Nat} (hle : nextId ≤ nextId') :
    Tracked nextId' e own :=
  { h with older := fun a ha => (h.older a ha).trans_le hle }

/-- A batch without ops has no pointers. -/
theorem Tracked.own_nil (h : Tracked nextId e own) (h0 : e.numops = 0) : own = [] := by
  cases hops : e.ops with
  | none => exact (h.unallocated hops).2
  | some a =>
    have hptrs := h.ptrs a hops
    rw [h0, List.range_zero, List.map_nil] at hptrs
    exact List.map_eq_nil_iff.mp hptrs

/-- `allocate_batch` on a batch without ops. -/
theorem Tracked.allocate (h : Tracked nextId e own) (h0 : e.numops = 0) (n : Nat)
    (hn : n < 2 ^ 32) :
    Tracked (nextId + 1) ⟨e.numops, some ⟨nextId, List.replicate n .zero⟩⟩ own := by
  obtain rfl := h.own_nil h0
  rw [h0]
  refine ⟨fun hnone => by contradiction, ?_, ?_, ?_, ?_, ?_⟩
  all_goals
    intro a ha
    obtain rfl := Option.some.inj ha
  · exact Nat.lt_succ_self nextId
  · refine ⟨Nat.zero_le _, ?_⟩
    rw [List.length_replicate]
    exact hn
  · rfl
  · rfl
  · intro op hop
    contradiction

/-- `create_batch_op` with room for one more op. -/
theorem Tracked.create (h : Tracked nextId e own) (ha : e.ops = some a) {op : MsrBatchOp}
    (hop : a.slots[e.numops]? = some op) (msr : Nat) (cpu : Word) (b : Nat) :
    Tracked nextId ⟨(e.numops + 1) % 2 ^ 32,
        some ⟨a.id, a.slots.set e.numops (op.fill msr cpu)⟩⟩
      (own ++ [⟨b, ⟨a.id, e.numops⟩, msr, cpu⟩]) := by
  obtain ⟨hlt, -⟩ := List.getElem?_eq_some_iff.mp hop
  have hbound := (h.room a ha).2
  have hwrap : (e.numops + 1) % 2 ^ 32 = e.numops + 1 := Nat.mod_eq_of_lt (by omega)
  -- the counted ops and the new one
  have htake : (a.slots.set e.numops (op.fill msr cpu)).take (e.numops + 1) =
      a.slots.take e.numops ++ [op.fill msr cpu] := by
    rw [List.take_add_one, List.take_set_of_le (Nat.le_refl _), List.getElem?_set_self hlt]
    rfl
  have hplace : (op.fill msr cpu).place = opPlace msr cpu.toNat := by
    rw [MsrBatchOp.place, MsrBatchOp.fill, opPlace]
    simp only [BitVec.toNat_setWidth, BitVec.toNat_ofNat]
  rw [hwrap]
  refine ⟨fun hnone => by contradiction, ?_, ?_, ?_, ?_, ?_⟩
  all_goals
    intro a' ha'
    obtain rfl := Option.some.inj ha'
  · exact h.older a ha
  · rw [List.length_set]
    exact ⟨hlt, hbound⟩
  · rw [List.map_append, h.ptrs a ha, List.range_succ, List.map_append]
    rfl
  · rw [htake, List.map_append, List.map_append, h.places a ha, List.map_singleton, hplace]
    rfl
  · intro op' hop'
    rw [htake] at hop'
    rcases List.mem_append.mp hop' with hold | hnew
    · exact h.reads a ha op' hold
    · obtain rfl := List.mem_singleton.mp hnew
      rfl

/-- A change of data keeps everything. -/
theorem Tracked.overwrite (h : Tracked nextId e own) (ha : e.ops = some a)
    {ops : List MsrBatchOp}
    (hsame : ops.map (fun op => (op.cpu, op.msr, op.isrdmsr)) =
      (a.slots.take e.numops).map fun op => (op.cpu, op.msr, op.isrdmsr)) :
    Tracked nextId ⟨e.numops, some (a.overwrite ops)⟩ own := by
  have hlen : ops.length = e.numops := by
    have hlength := congrArg List.length hsame
    rwa [List.length_map, List.length_map, List.length_take, Nat.min_eq_left (h.room a ha).1]
      at hlength
  have htake : (a.overwrite ops).slots.take e.numops = ops := by
    rw [← hlen, OpArray.overwrite_take]
  refine ⟨fun hnone => by contradiction, ?_, ?_, ?_, ?_, ?_⟩
  all_goals
    intro a' ha'
    obtain rfl := Option.some.inj ha'
  · exact h.older a ha
  · rw [OpArray.overwrite_length a (hlen ▸ (h.room a ha).1)]
    exact h.room a ha
  · exact h.ptrs a ha
  · rw [htake, ← h.places a ha]
    have hcut := congrArg (List.map fun x : BitVec 16 × BitVec 32 × BitVec 16 =>
      (x.1.toNat, x.2.1.toNat)) hsame
    rw [List.map_map, List.map_map] at hcut
    exact hcut
  · intro op hop
    rw [htake] at hop
    have hmem := List.mem_map_of_mem
      (f := fun op : MsrBatchOp => (op.cpu, op.msr, op.isrdmsr)) hop
    rw [hsame] at hmem
    obtain ⟨op', hop', heq⟩ := List.mem_map.mp hmem
    rw [← (Prod.mk.inj (Prod.mk.inj heq).2).2]
    exact h.reads a ha op' hop'

/-- The op of a pointer. -/
theorem Tracked.op (h : Tracked nextId e own) {x : Handed} (hx : x ∈ own) :
    ∃ a op, e.ops = some a ∧ x.ptr.id = a.id ∧ x.ptr.slot < e.numops ∧
      a.slots[x.ptr.slot]? = some op ∧ op.place = x.place := by
  cases hops : e.ops with
  | none =>
    rw [(h.unallocated hops).2] at hx
    contradiction
  | some a =>
    obtain ⟨k, hk⟩ := List.getElem?_of_mem hx
    have hptr := congrArg (fun l => l[k]?) (h.ptrs a hops)
    have hplace := congrArg (fun l => l[k]?) (h.places a hops)
    simp only [List.getElem?_map, hk, Option.map_some] at hptr hplace
    obtain ⟨j, hj, hjptr⟩ := Option.map_eq_some_iff.mp hptr.symm
    obtain ⟨hlt, rfl⟩ := List.getElem?_eq_some_iff.mp hj
    rw [List.getElem_range] at hjptr
    rw [List.length_range] at hlt
    obtain ⟨op, hop, hopplace⟩ := Option.map_eq_some_iff.mp hplace
    rw [List.getElem?_take_of_lt hlt] at hop
    rw [← hjptr]
    exact ⟨a, op, rfl, rfl, hlt, hop, hopplace⟩

end Batch

/-! ## Reading -/

section Read

variable {drv : BatchDriver} {fd : Int} {st : BatchStorage} {b : Nat}

variable (drv fd) in
/-- Whatever a driver replies, a read of read ops only changes their data. -/
theorem readBatch_tracked (hs : st.Sized) {own : List Handed}
    (h : Tracked st.nextId (st.entry b) own) (host : Host) :
    ∃ r e, readBatch drv fd st host b = some r ∧ Updated st b e r.st ∧
      e.numops = (st.entry b).numops ∧ e.length = (st.entry b).length ∧
      Tracked st.nextId e own := by
  rcases Nat.eq_zero_or_pos (st.entry b).numops with h0 | hpos
  · -- nothing to read
    by_cases hfd : 0 ≤ fd
    · obtain ⟨st', hst', hup⟩ := doBatchOp_empty drv host .read hs hfd h0
      exact ⟨_, _, hst', hup, rfl, rfl, h⟩
    · obtain ⟨st', hst', hup⟩ := doBatchOp_fallback_empty drv host .read hs (Int.not_le.mp hfd) h0
      exact ⟨_, _, hst', hup, rfl, rfl, h⟩
  · obtain ⟨a, ha⟩ : ∃ a, (st.entry b).ops = some a := by
      cases hops : (st.entry b).ops with
      | none => exact absurd (h.unallocated hops).1 hpos.ne'
      | some a => exact ⟨a, rfl⟩
    -- the ops are flagged as reads, so they stay where they are
    obtain ⟨r, ops, hr, hlen, hup, hplaces⟩ :=
      readBatch_overwrites drv fd hs hpos ha (h.room a ha).1 host
    refine ⟨r, _, hr, hup, rfl, ?_, h.overwrite ha (hplaces (h.reads a ha))⟩
    have hfit : ops.length ≤ a.slots.length := hlen ▸ (h.room a ha).1
    rw [MsrBatchArray.length_some, OpArray.overwrite_length a hfit, MsrBatchArray.length, ha]

/-- The pointers of a tracked batch are good. -/
theorem Tracked.live (hs : st.Sized) {own : List Handed}
    (h : Tracked st.nextId (st.entry b) own) {x : Handed} (hx : x ∈ own)
    (hb : x.batchnum = b) : Live drv fd st x := by
  subst hb
  obtain ⟨a, op, ha, hid, hslot, hop, hplace⟩ := h.op hx
  refine ⟨⟨op, ?_, hplace, hslot⟩, fun host n hserve hok => ?_⟩
  · simp only [opAt, ha, Option.bind_some, hid, if_true, hop]
  · have hentry : st.entry x.batchnum = ⟨(st.entry x.batchnum).numops, some a⟩ := by rw [← ha]
    rw [CountedReadable, MsrBatchArray.counted, ha] at hok
    obtain ⟨r, a', hr, -, -, hentry', hid', -, hfetched⟩ := readBatch_reads hserve hs hentry
      (Nat.zero_lt_of_lt hslot) (h.room a ha).1 (h.reads a ha) hok
    obtain ⟨op', hop', hfetch⟩ := hfetched x.ptr.slot op hslot hop
    refine ⟨r, hr, ?_⟩
    simp only [BatchStorage.load, opAt, hentry', Option.bind_some, hid'.trans hid.symm, if_true,
      hop', Option.map_some, hfetch.msrdata, ← hplace]
    rfl

end Read

/-! ## The invariant -/

/-- The pointers of batch `b`. -/
def PointerTable.own (s : PointerTable) (b : Nat) : List Handed :=
  s.handed.filter fun x => x.batchnum = b

/-- Every batch is tracked, and its ops stay inside its array. -/
structure PointersInv (s : PointerTable) : Prop where
  bounds : BatchInv s.st
  tracked : ∀ b, Tracked s.st.nextId (s.st.entry b) (s.own b)

theorem pointersInv_init : PointersInv .init := ⟨batchInv_init, fun _ => tracked_empty _⟩

/-- Pairs are distinct if, for each first part, the second parts are. -/
theorem nodup_of_filter {α β : Type*} {l : List α} {f : α → Nat} {g : α → β}
    (h : ∀ b, ((l.filter fun x => f x = b).map g).Nodup) : (l.map fun x => (f x, g x)).Nodup := by
  induction l with
  | nil => exact List.nodup_nil
  | cons x l ih =>
    rw [List.map_cons, List.nodup_cons]
    constructor
    · intro hmem
      obtain ⟨y, hy, heq⟩ := List.mem_map.mp hmem
      obtain ⟨hf, hg⟩ := Prod.mk.inj heq
      have hx := h (f x)
      rw [List.filter_cons, if_pos (decide_eq_true rfl), List.map_cons, List.nodup_cons] at hx
      exact hx.1 (List.mem_map.mpr ⟨y, List.mem_filter.mpr ⟨hy, decide_eq_true hf⟩, hg⟩)
    · refine ih fun b => (h b).sublist ?_
      exact ((List.sublist_cons_self x l).filter _).map g

section Inv

variable {drv : BatchDriver} {fd : Int} {s s' : PointerTable}

theorem PointersInv.distinct (hI : PointersInv s) :
    (s.handed.map fun x => (x.batchnum, x.ptr)).Nodup := by
  refine nodup_of_filter fun b => ?_
  show ((s.own b).map Handed.ptr).Nodup
  cases hops : (s.st.entry b).ops with
  | none =>
    rw [((hI.tracked b).unallocated hops).2]
    exact List.nodup_nil
  | some a =>
    rw [(hI.tracked b).ptrs a hops]
    exact List.nodup_range.map fun k l heq => (Ptr.mk.inj heq).2

theorem PointersInv.allLive (hI : PointersInv s) : AllLive drv fd s := by
  refine ⟨fun x hx => ?_, hI.distinct⟩
  have hown : x ∈ s.own x.batchnum := List.mem_filter.mpr ⟨hx, decide_eq_true rfl⟩
  exact (hI.tracked x.batchnum).live hI.bounds.sized hown rfl

/-- A step on batch `b` keeps the invariant if the batch stays tracked. -/
theorem PointersInv.of_batch (hI : PointersInv s) {b : Nat} (hs : BatchInv s'.st)
    (hid : s.st.nextId ≤ s'.st.nextId) (hne : ∀ b', b' ≠ b → s'.st.entry b' = s.st.entry b')
    (hown : ∀ b', b' ≠ b → s'.own b' = s.own b')
    (hb : Tracked s'.st.nextId (s'.st.entry b) (s'.own b)) : PointersInv s' := by
  refine ⟨hs, fun b' => ?_⟩
  by_cases heq : b' = b
  · exact heq ▸ hb
  · rw [hne b' heq, hown b' heq]
    exact (hI.tracked b').mono hid

/-- An allocation of a batch without ops. -/
theorem PointersInv.allocate (hI : PointersInv s) {b n : Nat} (h0 : (s.st.entry b).numops = 0)
    (hn : n % 2 ^ 32 < 2 ^ 31) :
    ∃ s', pointerStep drv fd s (.allocate b n) = some s' ∧ PointersInv s' := by
  obtain ⟨st', hst', hal⟩ := allocateBatch_spec hI.bounds.sized b n (by omega)
  obtain ⟨st'', hst'', hbounds⟩ := hI.bounds.allocate (b := b) (n := n) (by omega) hn
  obtain rfl : st' = st'' := by simpa using hst'.symm.trans hst''
  refine ⟨{ s with st := st' }, by rw [pointerStep, hst', Option.map_some], ?_⟩
  refine hI.of_batch hbounds (by rw [hal.nextId]; exact Nat.le_succ _) hal.entry_ne
    (fun _ _ => rfl) ?_
  rw [hal.nextId, hal.entry]
  exact (hI.tracked b).allocate h0 _ (Nat.mod_lt _ (by omega))

/-- An op created in a free slot: its pointer is handed out. -/
theorem PointersInv.create (hI : PointersInv s) (msr : Nat) (cpu : Word) {b : Nat}
    (hroom : (s.st.entry b).numops < (s.st.entry b).length) :
    ∃ s', pointerStep drv fd s (.create msr cpu b) = some s' ∧ PointersInv s' := by
  obtain ⟨a, op, ha, hop⟩ := exists_slot_of_lt hroom
  obtain ⟨st', hst', hup⟩ :=
    createBatchOp_spec hI.bounds.sized msr cpu (hI.bounds.numops_le b) ha hop
  obtain ⟨p, st'', hst'', hbounds, -⟩ := hI.bounds.create msr cpu hroom
  obtain ⟨rfl, rfl⟩ : Ptr.mk a.id (s.st.entry b).numops = p ∧ st' = st'' := by
    simpa using hst'.symm.trans hst''
  refine ⟨⟨st', s.handed ++ [⟨b, ⟨a.id, (s.st.entry b).numops⟩, msr, cpu⟩]⟩, ?_, ?_⟩
  · rw [pointerStep, hst', Option.map_some]
    rfl
  · refine hI.of_batch hbounds hup.nextId.ge hup.entry_ne (fun b' hne => ?_) ?_
    · simp [PointerTable.own, hne.symm]
    · rw [hup.nextId, hup.entry]
      have hown : PointerTable.own
          ⟨st', s.handed ++ [⟨b, ⟨a.id, (s.st.entry b).numops⟩, msr, cpu⟩]⟩ b =
          s.own b ++ [⟨b, ⟨a.id, (s.st.entry b).numops⟩, msr, cpu⟩] := by
        simp [PointerTable.own]
      exact hown ▸ (hI.tracked b).create ha hop msr cpu b

/-- A read. -/
theorem PointersInv.read (hI : PointersInv s) (host : Host) (b : Nat) :
    ∃ s', pointerStep drv fd s (.read host b) = some s' ∧ PointersInv s' := by
  obtain ⟨r, e, hr, hup, hnumops, hlength, htracked⟩ :=
    readBatch_tracked drv fd hI.bounds.sized (hI.tracked b) host
  refine ⟨{ s with st := r.st }, by rw [pointerStep, hr, Option.map_some], ?_⟩
  refine hI.of_batch ⟨hup.sized, fun b' => ?_, fun b' => ?_, fun b' => ?_⟩ hup.nextId.ge
    hup.entry_ne (fun _ _ => rfl) ?_
  · rw [hup.capacity, ← hI.bounds.length_eq b']
    by_cases hb : b' = b
    · rw [hb, hup.entry, hlength]
    · rw [hup.entry_ne b' hb]
  · rw [hup.capacity]
    by_cases hb : b' = b
    · rw [hb, hup.entry, hnumops]
      exact hI.bounds.numops_le b
    · rw [hup.entry_ne b' hb]
      exact hI.bounds.numops_le b'
  · rw [hup.capacity]
    exact hI.bounds.capacity_lt b'
  · rw [hup.nextId, hup.entry]
    exact htracked

/-- **Step lemma.** -/
theorem PointersInv.step (hI : PointersInv s) {call : PointerCall} (hkeeps : KeepsPointers s call) :
    ∃ s', pointerStep drv fd s call = some s' ∧ PointersInv s' := by
  cases call with
  | allocate b n => exact hI.allocate hkeeps.1 hkeeps.2
  | create msr cpu b => exact hI.create msr cpu hkeeps
  | read host b => exact hI.read host b

/-- An allocation that passes the end of its loop variable's type does not return. -/
theorem PointersInv.allocate_returns (hI : PointersInv s) {b n : Nat}
    (h : pointerStep drv fd s (.allocate b n) = some s') : n % 2 ^ 32 < 2 ^ 31 := by
  by_contra hlarge
  have hle := hI.bounds.numops_le b
  have hcap := hI.bounds.capacity_lt b
  have hnone := (allocateBatch_none_iff hI.bounds.sized b n).mpr ⟨by omega, by omega⟩
  rw [pointerStep, hnone] at h
  contradiction

/-- An array that is replaced takes its pointers with it. -/
theorem PointersInv.conflict (hI : PointersInv s) {b n : Nat}
    (h : pointerStep drv fd s (.allocate b n) = some s') (hlive : AllLive drv fd s') :
    (s.st.entry b).numops = 0 := by
  by_contra hused
  have hn := hI.allocate_returns h
  obtain ⟨st', hst', hal⟩ := allocateBatch_spec hI.bounds.sized b n (by omega)
  obtain rfl : { s with st := st' } = s' := by
    rw [pointerStep, hst', Option.map_some] at h
    exact Option.some.inj h
  cases hops : (s.st.entry b).ops with
  | none => exact hused ((hI.tracked b).unallocated hops).1
  | some a =>
    -- the pointer to slot 0
    have hlen := congrArg List.length ((hI.tracked b).ptrs a hops)
    rw [List.length_map, List.length_map, List.length_range] at hlen
    obtain ⟨x, hx⟩ := List.exists_mem_of_length_pos (l := s.own b) (by omega)
    obtain ⟨hmem, hb⟩ := List.mem_filter.mp hx
    obtain rfl := of_decide_eq_true hb
    obtain ⟨op, hop, -⟩ := (hlive.live x hmem).own
    obtain ⟨a', -, ha', hid, -⟩ := (hI.tracked _).op hx
    have holder := (hI.tracked _).older a' ha'
    have hne : s.st.nextId ≠ x.ptr.id := by omega
    rw [opAt, hal.entry, Option.bind_some] at hop
    simp only [if_neg hne] at hop
    contradiction

/-- A create that returns has found a slot. -/
theorem PointersInv.create_room (hI : PointersInv s) {msr : Nat} {cpu : Word} {b : Nat}
    (h : pointerStep drv fd s (.create msr cpu b) = some s') :
    (s.st.entry b).numops < (s.st.entry b).length := by
  by_contra hfull
  have hnone := hI.bounds.create_full msr cpu (Nat.not_lt.mp hfull)
  rw [pointerStep, hnone] at h
  contradiction

/-- Under the invariant, the pointers are good after a call exactly when it keeps them. -/
theorem PointersInv.liveAfter_iff (hI : PointersInv s) (call : PointerCall) :
    LiveAfter drv fd s call ↔ KeepsPointers s call := by
  constructor
  · rintro ⟨s', hs', hlive⟩
    cases call with
    | allocate b n => exact ⟨hI.conflict hs' hlive, hI.allocate_returns hs'⟩
    | create msr cpu b => exact hI.create_room hs'
    | read host b => trivial
  · intro hkeeps
    obtain ⟨s', hs', hI'⟩ := hI.step hkeeps
    exact ⟨s', hs', hI'.allLive⟩

end Inv

/-- **Pointers into batches.**  Whatever is called on whichever batches, every call has
    an outcome and every pointer handed out is good after it, exactly when no call
    allocates a batch that has ops or creates an op without room. -/
theorem pointersLive_along_iff (drv : BatchDriver) (fd : Int) (calls : List PointerCall) :
    Runs.Along (pointerStep drv fd) (LiveAfter drv fd) .init calls ↔
      Runs.Along (pointerStep drv fd) KeepsPointers .init calls := by
  refine Runs.along_iff (fun s call hI => hI.liveAfter_iff call) (fun s call s' hI hkeeps h => ?_)
    pointersInv_init
  obtain ⟨t, ht, hI'⟩ := hI.step hkeeps
  obtain rfl := Option.some.inj (h.symm.trans ht)
  exact hI'

/-- A batch that is allocated again loses the pointer to its op. -/
theorem reallocated_not_live :
    ¬ Runs.Along (pointerStep .inOrder 3) (LiveAfter .inOrder 3) .init
      [.allocate 0 1, .create 0x10 0 0, .allocate 0 1] := by
  rintro ⟨-, hrest⟩
  obtain ⟨-, hrest⟩ := hrest _ rfl
  obtain ⟨⟨s', hs', hlive⟩, -⟩ := hrest _ rfl
  obtain rfl := Option.some.inj hs'
  obtain ⟨op, hop, -⟩ := (hlive.live ⟨0, ⟨0, 0⟩, 0x10, 0⟩ (by decide)).own
  -- the current array is allocation 1
  have hnone : (none : Option MsrBatchOp) = some op := hop
  contradiction

end Libmsr
