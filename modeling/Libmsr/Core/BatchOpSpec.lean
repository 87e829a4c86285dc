/-
  Libmsr.Core.BatchOpSpec

  Spec lemmas for executing a batch: what the flag switch does to the ops, and
  what one `do_batch_op` call returns on the ioctl path and on the fallback
  path.
-/
import Libmsr.Core.BatchOp
import Libmsr.Core.BatchStorageSpec

namespace Libmsr

open BatchStorage

/-- The op's direction flag is the one a call of this type needs. -/
def MsrBatchOp.Carries (op : MsrBatchOp) (type : BatchOpType) : Prop :=
  op.isrdmsr ≠ 0 ↔ type = .read

instance (op : MsrBatchOp) (type : BatchOpType) : Decidable (op.Carries type) :=
  inferInstanceAs (Decidable (_ ↔ _))

/-! ## The flag switch -/

/-- Ops whose first flag already agrees with the call are left alone. -/
theorem switchFlags_of_carries {type : BatchOpType} {op : MsrBatchOp} {ops : List MsrBatchOp}
    (h : op.Carries type) : switchFlags type (op :: ops) = op :: ops := by
  rw [switchFlags, if_neg]
  rintro (⟨rfl, hr⟩ | ⟨rfl, hw⟩)
  · exact absurd (h.mp hr) (by decide)
  · exact absurd hw (h.mpr rfl)

/-- Otherwise every flag is set to the call's direction. -/
theorem switchFlags_of_not_carries {type : BatchOpType} (htype : type ≠ .load) {op : MsrBatchOp}
    {ops : List MsrBatchOp} (h : ¬ op.Carries type) :
    switchFlags type (op :: ops) =
      (op :: ops).map fun op => { op with isrdmsr := if type = .read then 1 else 0 } := by
  rw [switchFlags, if_pos]
  cases type with
  | load => exact absurd rfl htype
  | write =>
    exact Or.inl ⟨rfl, fun h0 => h ⟨fun h1 => absurd h0 h1, fun h1 => absurd h1 (by decide)⟩⟩
  | read =>
    refine Or.inr ⟨rfl, ?_⟩
    by_contra h0
    exact h ⟨fun _ => rfl, fun _ => h0⟩

theorem switchFlags_length (type : BatchOpType) (ops : List MsrBatchOp) :
    (switchFlags type ops).length = ops.length := by
  cases ops with
  | nil => rfl
  | cons op ops =>
    rw [switchFlags]
    split
    · rw [List.length_map]
    · rfl

/-! ## Replies and the array prefix -/

@[simp] theorem reply_isrdmsr (op : MsrBatchOp) (r : OpReply) :
    (op.reply r).isrdmsr = op.isrdmsr := rfl
@[simp] theorem reply_msrdata (op : MsrBatchOp) (r : OpReply) :
    (op.reply r).msrdata = r.msrdata := rfl

/-- Overwriting the first ops of an array keeps its length. -/
theorem OpArray.overwrite_length (a : OpArray) {ops : List MsrBatchOp}
    (h : ops.length ≤ a.slots.length) : (a.overwrite ops).slots.length = a.slots.length := by
  simp only [OpArray.overwrite, List.length_append, List.length_drop]
  omega

/-- The overwritten prefix is what was written. -/
theorem OpArray.overwrite_take (a : OpArray) (ops : List MsrBatchOp) :
    (a.overwrite ops).slots.take ops.length = ops := by
  simp only [OpArray.overwrite, List.take_left']

theorem OpArray.overwrite_getElem? (a : OpArray) {ops : List MsrBatchOp} {i : Nat}
    (h : i < ops.length) : (a.overwrite ops).slots[i]? = ops[i]? := by
  simp only [OpArray.overwrite, List.getElem?_append_left h]

/-! ## do_batch_op -/

section DoBatchOp

variable {st : BatchStorage} (drv : BatchDriver) {fd : Int} (h : Host) {b : Nat}
  (type : BatchOpType)

/-- The ops a `do_batch_op` call issues its ioctl with. -/
def handedOps (e : MsrBatchArray) (a : OpArray) : List MsrBatchOp :=
  switchFlags type (a.slots.take e.numops)

/-- Ops that already have the call's direction are handed over as they are. -/
theorem handedOps_of_carries {e : MsrBatchArray} {a : OpArray}
    (hcarries : ∀ op ∈ a.slots.take e.numops, op.Carries type) :
    handedOps type e a = a.slots.take e.numops := by
  rw [handedOps]
  cases hslots : a.slots.take e.numops with
  | nil => rfl
  | cons op ops =>
    -- the first op decides for all of them
    apply switchFlags_of_carries
    apply hcarries
    rw [hslots]
    exact List.mem_cons_self

/-- An empty batch is refused on the ioctl path. -/
theorem doBatchOp_empty (hs : st.Sized) (hfd : 0 ≤ fd) (h0 : (st.entry b).numops = 0) :
    ∃ st', doBatchOp drv fd st h b type = some ⟨-1, st', h, none⟩ ∧
      Updated st b (st.entry b) st' := by
  obtain ⟨hs1, hb1, hent, hcap, hid, -⟩ := batchStorage_spec hs b
  refine ⟨batchStorage st b, ?_, hs1, hb1, hent b, fun b' _ => hent b', hcap, hid⟩
  simp only [doBatchOp, if_neg (Int.not_lt.mpr hfd), hent, h0, le_refl, if_true]

/-- A non-empty batch inside its array goes to the driver, and comes back with
    the driver's replies in the ops it was handed. -/
theorem doBatchOp_spec (hs : st.Sized) (hfd : 0 ≤ fd) {a : OpArray}
    (hpos : 0 < (st.entry b).numops) (ha : (st.entry b).ops = some a)
    (hlen : (st.entry b).numops ≤ a.slots.length) :
    ∃ st', doBatchOp drv fd st h b type = some
        ⟨(drv.ioctl h (handedOps type (st.entry b) a)).1, st',
          (drv.ioctl h (handedOps type (st.entry b) a)).2.2,
          some (handedOps type (st.entry b) a)⟩ ∧
      Updated st b ⟨(st.entry b).numops, some (a.overwrite
        ((handedOps type (st.entry b) a).mapIdx fun i op =>
          op.reply ((drv.ioctl h (handedOps type (st.entry b) a)).2.1 i)))⟩ st' := by
  obtain ⟨hs1, hb1, hent, hcap, hid, -⟩ := batchStorage_spec hs b
  refine ⟨_, ?_, hs1.setEntry _, hb1.setEntry _ _, entry_setEntry_self hb1 _, ?_, hcap, hid⟩
  · simp only [doBatchOp, if_neg (Int.not_lt.mpr hfd), hent, if_neg (Nat.not_le.mpr hpos), ha,
      if_neg (Nat.not_lt.mpr hlen)]
    rfl
  · intro b' hne
    rw [entry_setEntry_of_ne hne, hent]

/-- Without the driver an empty batch is accepted. -/
theorem doBatchOp_fallback_empty (hs : st.Sized) (hfd : fd < 0)
    (h0 : (st.entry b).numops = 0) :
    ∃ st', doBatchOp drv fd st h b type = some ⟨0, st', h, none⟩ ∧
      Updated st b (st.entry b) st' := by
  obtain ⟨hs1, hb1, hent, hcap, hid, -⟩ := batchStorage_spec hs b
  refine ⟨batchStorage st b, ?_, hs1, hb1, hent b, fun b' _ => hent b', hcap, hid⟩
  simp only [doBatchOp, if_pos hfd, compatibilityBatch, hent, h0, if_true]

/-- Without the driver a non-empty batch goes op by op through the devices. -/
theorem doBatchOp_fallback (hs : st.Sized) (hfd : fd < 0) {a : OpArray}
    (hpos : 0 < (st.entry b).numops) (ha : (st.entry b).ops = some a)
    (hlen : (st.entry b).numops ≤ a.slots.length) :
    ∃ st', doBatchOp drv fd st h b type = some
        ⟨0, st', (compatibilityOps type h (a.slots.take (st.entry b).numops)).2, none⟩ ∧
      Updated st b ⟨(st.entry b).numops, some (a.overwrite
        (compatibilityOps type h (a.slots.take (st.entry b).numops)).1)⟩ st' := by
  obtain ⟨hs1, hb1, hent, hcap, hid, -⟩ := batchStorage_spec hs b
  have hne : (st.entry b).numops ≠ 0 := by omega
  refine ⟨_, ?_, hs1.setEntry _, hb1.setEntry _ _, entry_setEntry_self hb1 _, ?_, hcap, hid⟩
  · simp only [doBatchOp, if_pos hfd, compatibilityBatch, hent, if_neg hne, ha,
      if_neg (Nat.not_lt.mpr hlen)]
  · intro b' hne'
    rw [entry_setEntry_of_ne hne', hent]

end DoBatchOp

end Libmsr
