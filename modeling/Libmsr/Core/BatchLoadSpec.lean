/-
  Libmsr.Core.BatchLoadSpec

  What the load functions leave in the batch and in the caller's array.

  - `firstDev_eq`: the inner loop stops at the first CPU that matches.
  - `Loaded`: after `v` ops they stand in the batch in order, and `val[i]` points
    at the `i`-th of them.
  - `loadBatchBy_spec`, `loadThreadBatch_spec`: the load functions reach this for
    all their indices, given the CPU each index selects.
-/
import Libmsr.Core.BatchLoad
import Libmsr.Core.BatchStorageSpec
import Libmsr.Lib.Loops

namespace Libmsr

open BatchStorage

/-! ## The inner loop -/

/-- The scan from `start` returns `i` if no CPU from there up to `i` matches and
    `i` does. -/
theorem firstDev_eq {g : Topo} {p : HwThread → Bool} {start k i : Nat} (hle : start ≤ i)
    (hlt : i < start + k)
    (hbefore : ∀ j, start ≤ j → j < i → ∃ e, g.threadMap[j]? = some (some e) ∧ p e = false)
    (hat : ∃ e, g.threadMap[i]? = some (some e) ∧ p e = true) :
    firstDev g p start k = some (some i) := by
  induction k generalizing start with
  | zero => omega
  | succ k ih =>
    by_cases hi : start = i
    · obtain ⟨e, he, hp⟩ := hat
      subst hi
      simp only [firstDev, he, hp, if_true]
    · obtain ⟨e, he, hp⟩ := hbefore start (Nat.le_refl _) (by omega)
      simp only [firstDev, he, hp, Bool.false_eq_true, if_false]
      exact ih (by omega) (by omega) fun j hj hji => hbefore j (by omega) hji

/-! ## Creating a row of ops -/

/-- The batch has an array `a` with `k` counted ops and room for `count` more. -/
structure RoomFor (st : BatchStorage) (b k count : Nat) (a : OpArray) : Prop where
  sized : st.Sized
  entry : st.entry b = ⟨k, some a⟩
  capacity : st.capacity b = a.slots.length
  room : k + count ≤ a.slots.length
  small : a.slots.length < 2 ^ 31

/-- The array after ops on the CPUs `pick 0`, …, `pick (count - 1)` were created
    from slot `k` on. -/
def filledSlots (msr : Nat) (pick : Nat → Nat) (k count : Nat) (slots : List MsrBatchOp) :
    List MsrBatchOp :=
  slots.mapIdx fun i op =>
    if k ≤ i ∧ i < k + count then op.fill msr (BitVec.ofNat 64 (pick (i - k))) else op

theorem filledSlots_length (msr : Nat) (pick : Nat → Nat) (k count : Nat)
    (slots : List MsrBatchOp) : (filledSlots msr pick k count slots).length = slots.length := by
  rw [filledSlots, List.length_mapIdx]

theorem filledSlots_zero (msr : Nat) (pick : Nat → Nat) (k : Nat) (slots : List MsrBatchOp) :
    filledSlots msr pick k 0 slots = slots := by
  apply List.ext_getElem?
  intro i
  rw [filledSlots, List.getElem?_mapIdx]
  have hnot : ¬ (k ≤ i ∧ i < k + 0) := by omega
  simp only [if_neg hnot, Option.map_id']

/-- One more op fills one more slot. -/
theorem filledSlots_succ (msr : Nat) (pick : Nat → Nat) (k v : Nat) (slots : List MsrBatchOp)
    (h : k + v < slots.length) :
    ∃ op, (filledSlots msr pick k v slots)[k + v]? = some op ∧
      (filledSlots msr pick k v slots).set (k + v) (op.fill msr (BitVec.ofNat 64 (pick v))) =
        filledSlots msr pick k (v + 1) slots := by
  have hnot : ¬ (k ≤ k + v ∧ k + v < k + v) := by omega
  refine ⟨slots[k + v], ?_, ?_⟩
  · rw [filledSlots, List.getElem?_mapIdx, List.getElem?_eq_getElem h, Option.map_some,
      if_neg hnot]
  · apply List.ext_getElem?
    intro i
    by_cases hi : k + v = i
    · subst hi
      rw [List.getElem?_set_self (by rw [filledSlots_length]; exact h), filledSlots,
        List.getElem?_mapIdx, List.getElem?_eq_getElem h, Option.map_some,
        if_pos ⟨Nat.le_add_right k v, by omega⟩, Nat.add_sub_cancel_left]
    · have hsame : (k ≤ i ∧ i < k + (v + 1)) ↔ (k ≤ i ∧ i < k + v) := by omega
      rw [List.getElem?_set_ne hi, filledSlots, filledSlots, List.getElem?_mapIdx,
        List.getElem?_mapIdx]
      simp only [hsame]

/-- Slots below the row stay what they were. -/
theorem filledSlots_below {msr : Nat} {pick : Nat → Nat} {k count : Nat} {slots : List MsrBatchOp}
    {i : Nat} (h : i < k) : (filledSlots msr pick k count slots)[i]? = slots[i]? := by
  have hnot : ¬ (k ≤ i ∧ i < k + count) := by omega
  rw [filledSlots, List.getElem?_mapIdx]
  simp only [if_neg hnot, Option.map_id']

/-- The slots of the row hold reads of the register. -/
theorem filledSlots_row (msr : Nat) (pick : Nat → Nat) {k count : Nat} {slots : List MsrBatchOp}
    (hroom : k + count ≤ slots.length) {v : Nat} (hv : v < count) :
    ∃ op, (filledSlots msr pick k count slots)[k + v]? = some op ∧
      op.cpu = BitVec.ofNat 16 (pick v) ∧ op.msr = BitVec.ofNat 32 msr ∧ op.isrdmsr = 1 := by
  have hlt : k + v < slots.length := by omega
  refine ⟨slots[k + v].fill msr (BitVec.ofNat 64 (pick v)), ?_, ?_, rfl, rfl⟩
  · rw [filledSlots, List.getElem?_mapIdx, List.getElem?_eq_getElem hlt, Option.map_some,
      if_pos ⟨Nat.le_add_right k v, by omega⟩, Nat.add_sub_cancel_left]
  · show (BitVec.ofNat 64 (pick v)).setWidth 16 = _
    apply BitVec.eq_of_toNat_eq
    rw [BitVec.toNat_setWidth, BitVec.toNat_ofNat, BitVec.toNat_ofNat]
    omega

/-- State after the first `v` ops of a load into batch `b`. -/
structure Loaded (msr : Nat) (pick : Nat → Nat) (b k : Nat) (a : OpArray) (s : Loading) (v : Nat)
    (s' : Loading) : Prop where
  sized : s'.st.Sized
  entry : s'.st.entry b = ⟨k + v, some ⟨a.id, filledSlots msr pick k v a.slots⟩⟩
  entry_ne : ∀ b', b' ≠ b → s'.st.entry b' = s.st.entry b'
  capacity : ∀ b', s'.st.capacity b' = s.st.capacity b'
  nextId : s'.st.nextId = s.st.nextId
  length : s'.val.length = s.val.length
  val : ∀ j, s'.val[j]? = if j < v then some (some ⟨a.id, k + j⟩) else s.val[j]?

section Load

variable (msr : Nat) {b k count : Nat} {a : OpArray} {s : Loading}
  (hroom : RoomFor s.st b k count a) (hval : count ≤ s.val.length) (pick : Nat → Nat)
include hroom

theorem loaded_zero : Loaded msr pick b k a s 0 s := by
  refine ⟨hroom.sized, ?_, fun _ _ => rfl, fun _ => rfl, rfl, rfl, fun j => ?_⟩
  · rw [hroom.entry, filledSlots_zero, Nat.add_zero]
  · rw [if_neg (by omega)]

include hval

/-- One `create_batch_op` of a load. -/
theorem Loaded.loadOp {msr : Nat} {v : Nat} (hv : v < count) {t : Loading}
    (ht : Loaded msr pick b k a s v t) :
    ∃ t', loadOp msr b t v (pick v) = some t' ∧ Loaded msr pick b k a s (v + 1) t' := by
  have hspace := hroom.room
  have hsmall := hroom.small
  obtain ⟨op, hop, hset⟩ := filledSlots_succ msr pick k v a.slots (by omega)
  have hnum : (t.st.entry b).numops = k + v := by rw [ht.entry]
  -- `create_batch_op` finds room: op `k + v` of an array with `k + count` slots
  have hcap : (t.st.entry b).numops ≤ t.st.capacity b := by
    rw [hnum, ht.capacity, hroom.capacity]
    omega
  obtain ⟨st', hst', hup⟩ := createBatchOp_spec ht.sized msr (BitVec.ofNat 64 (pick v)) hcap
    (by rw [ht.entry]) (by rw [hnum]; exact hop)
  have hvlen : v < t.val.length := by
    rw [ht.length]
    omega
  refine ⟨⟨t.val.set v (some ⟨a.id, k + v⟩), st'⟩, ?_, hup.sized, ?_, fun b' hb => ?_,
    fun b' => ?_, ?_, ?_, fun j => ?_⟩
  · simp only [Libmsr.loadOp, hst', hnum, Option.bind_eq_bind, Option.bind_some, if_pos hvlen]
  · show st'.entry b = _
    rw [hup.entry, hnum, hset, Nat.mod_eq_of_lt (by omega), Nat.add_assoc]
  · show st'.entry b' = _
    rw [hup.entry_ne b' hb, ht.entry_ne b' hb]
  · show st'.capacity b' = _
    rw [hup.capacity, ht.capacity]
  · show st'.nextId = _
    rw [hup.nextId, ht.nextId]
  · show (t.val.set v _).length = _
    rw [List.length_set, ht.length]
  · show (t.val.set v _)[j]? = _
    by_cases hj : v = j
    · subst hj
      rw [List.getElem?_set_self hvlen, if_pos (by omega)]
    · have hsame : j < v + 1 ↔ j < v := by omega
      rw [List.getElem?_set_ne hj, ht.val]
      simp only [hsame]

/-- The nested loops, when index `v` selects the CPU `pick v`. -/
theorem loadBatchBy_spec (cfg : CoreConfig) (g : Topo) (key : HwThread → Nat)
    (hpick : ∀ v, v < count →
      firstDev g (fun entry => key entry = v) 0 cfg.numDevs = some (some (pick v))) :
    ∃ s', loadBatchBy cfg g key count msr b s = some s' ∧ Loaded msr pick b k a s count s' := by
  refine Loops.foldlM_range_inv _ (fun v t => Loaded msr pick b k a s v t) count s
    (loaded_zero msr hroom pick) fun v hv t ht => ?_
  obtain ⟨t', ht', hnext⟩ := ht.loadOp hroom hval pick hv
  refine ⟨t', ?_, hnext⟩
  simp only [hpick v hv, Option.bind_eq_bind, Option.bind_some]
  exact ht'

end Load

/-! ## The load functions -/

section Functions

variable {cfg : CoreConfig} {st : BatchStorage} {b k : Nat} {a : OpArray} (msr : Nat)
  {val : List (Option Ptr)}

/-- `load_socket_batch`, when the first CPU of socket `v` is `pick v`. -/
theorem loadSocketBatch_spec {g : Topo} (hroom : RoomFor st b k cfg.sockets a)
    (hval : cfg.sockets ≤ val.length) (pick : Nat → Nat)
    (hpick : ∀ v, v < cfg.sockets →
      firstDev g (fun entry => entry.socketId = v) 0 cfg.numDevs = some (some (pick v))) :
    ∃ s', loadSocketBatch cfg g st msr (some val) b = some (0, some s'.val, s'.st) ∧
      Loaded msr pick b k a ⟨val, st⟩ cfg.sockets s' := by
  obtain ⟨s', hs', hloaded⟩ := loadBatchBy_spec msr (s := ⟨val, st⟩) hroom hval pick cfg g
    HwThread.socketId hpick
  refine ⟨s', ?_, hloaded⟩
  simp only [loadSocketBatch, hs', Option.bind_eq_bind, Option.bind_some]

/-- `load_core_batch`, when the first CPU of core `v` is `pick v`. -/
theorem loadCoreBatch_spec {g : Topo} (hroom : RoomFor st b k (cfg.sockets * cfg.coresPerSocket) a)
    (hval : cfg.sockets * cfg.coresPerSocket ≤ val.length) (pick : Nat → Nat)
    (hpick : ∀ v, v < cfg.sockets * cfg.coresPerSocket →
      firstDev g (fun entry => entry.coreId = v) 0 cfg.numDevs = some (some (pick v))) :
    ∃ s', loadCoreBatch cfg g st msr (some val) b = some (0, some s'.val, s'.st) ∧
      Loaded msr pick b k a ⟨val, st⟩ (cfg.sockets * cfg.coresPerSocket) s' := by
  obtain ⟨s', hs', hloaded⟩ := loadBatchBy_spec msr (s := ⟨val, st⟩) hroom hval pick cfg g
    HwThread.coreId hpick
  refine ⟨s', ?_, hloaded⟩
  simp only [loadCoreBatch, hs', Option.bind_eq_bind, Option.bind_some]

/-- `load_thread_batch` puts an op on every CPU, in order. -/
theorem loadThreadBatch_spec (hroom : RoomFor st b k cfg.numDevs a)
    (hval : cfg.numDevs ≤ val.length) :
    ∃ s', loadThreadBatch cfg st msr (some val) b = some (0, some s'.val, s'.st) ∧
      Loaded msr id b k a ⟨val, st⟩ cfg.numDevs s' := by
  obtain ⟨s', hs', hloaded⟩ := Loops.foldlM_range_inv
    (fun t devIdx => loadOp msr b t devIdx devIdx)
    (fun v t => Loaded msr id b k a ⟨val, st⟩ v t) cfg.numDevs ⟨val, st⟩ (loaded_zero msr hroom id)
    fun v hv t ht => ht.loadOp hroom hval id hv
  refine ⟨s', ?_, hloaded⟩
  simp only [loadThreadBatch, hs', Option.bind_eq_bind, Option.bind_some]

end Functions

/-! ## Following the pointers -/

/-- `val[v]` points at a read of register `msr` on CPU `pick v`. -/
theorem Loaded.opAt {msr b k count : Nat} {a : OpArray} {s s' : Loading} {pick : Nat → Nat}
    (h : Loaded msr pick b k a s count s') (hroom : k + count ≤ a.slots.length) {v : Nat}
    (hv : v < count) :
    ∃ p op, s'.val[v]? = some (some p) ∧ s'.st.opAt b p = some op ∧
      op.cpu = BitVec.ofNat 16 (pick v) ∧ op.msr = BitVec.ofNat 32 msr ∧ op.isrdmsr = 1 := by
  obtain ⟨op, hop, hcpu, hmsr, hread⟩ := filledSlots_row msr pick hroom hv
  refine ⟨⟨a.id, k + v⟩, op, ?_, ?_, hcpu, hmsr, hread⟩
  · rw [h.val, if_pos hv]
  · simp only [BatchStorage.opAt, h.entry, Option.bind_some, if_true, hop]

end Libmsr
