/-
  Libmsr.Csr.ImcSpec

  What `init_pmon_ctrs` leaves: a counter's arrays are right exactly when the counter
  is one of the first four, there are at most two sockets, and the header gives every
  channel a place of its own.  A call of `load_imc_batch_for_each` returns one less
  than it creates.
-/
import Libmsr.Core.RowLoading
import Libmsr.Csr.Imc
import Libmsr.Lib.Blocks

namespace Libmsr

/-! ## A CSR batch that is being filled -/

/-- `size` ops were allocated for batch `b`, these are counted, and the rest is
    untouched. -/
structure CsrFresh (st : CsrBatchStorage) (b id size : Nat) (ops : List CsrBatchOp) : Prop where
  sized : st.table.Sized
  capacity : st.capacity b = size
  small : size < 2 ^ 32
  le : ops.length ≤ size
  entry : st.entry b = ⟨ops.length, some ⟨id, ops ++ List.replicate (size - ops.length) .zero⟩⟩

/-- Every batch but `b` is what it was. -/
structure CsrKeepsOthers (st : CsrBatchStorage) (b : Nat) (st' : CsrBatchStorage) : Prop where
  entry_ne : ∀ b', b' ≠ b → st'.entry b' = st.entry b'
  capacity_ne : ∀ b', b' ≠ b → st'.capacity b' = st.capacity b'

theorem CsrKeepsOthers.refl (st : CsrBatchStorage) (b : Nat) : CsrKeepsOthers st b st :=
  ⟨fun _ _ => rfl, fun _ _ => rfl⟩

theorem CsrKeepsOthers.trans {st st' st'' : CsrBatchStorage} {b : Nat}
    (h : CsrKeepsOthers st b st') (h' : CsrKeepsOthers st' b st'') : CsrKeepsOthers st b st'' :=
  ⟨fun b' hne => (h'.entry_ne b' hne).trans (h.entry_ne b' hne),
    fun b' hne => (h'.capacity_ne b' hne).trans (h.capacity_ne b' hne)⟩

section Fresh

variable {st st' : CsrBatchStorage} {b id size : Nat} {ops : List CsrBatchOp}

theorem CsrFresh.of_keepsOthers {b' : Nat} (h : CsrFresh st b' id size ops) (hne : b' ≠ b)
    (hs : st'.table.Sized) (hkeep : CsrKeepsOthers st b st') : CsrFresh st' b' id size ops :=
  ⟨hs, (hkeep.capacity_ne b' hne).trans h.capacity, h.small, h.le,
    (hkeep.entry_ne b' hne).trans h.entry⟩

/-- Allocating an empty batch. -/
theorem allocateCsrBatch_fresh (hs : st.table.Sized) (h0 : (st.entry b).numops = 0) {n : Nat}
    (hn : n < 2 ^ 32) : ∃ st' id, allocateCsrBatch st b n = some (0, st') ∧
      CsrFresh st' b id n [] ∧ CsrKeepsOthers st b st' := by
  obtain ⟨st', hst', hup, -⟩ := allocateCsrBatch_spec hs n h0
  rw [Nat.mod_eq_of_lt hn] at hup
  exact ⟨st', st.nextId, hst', ⟨hup.sized, hup.capacity, hn, Nat.zero_le n, hup.entry⟩,
    hup.entry_ne, hup.capacity_ne⟩

/-- One more op. -/
theorem CsrFresh.create (h : CsrFresh st b id size ops) (x : CsrOpArgs)
    (hroom : ops.length < size) : ∃ st',
      createCsrBatchOp st x b = some (0, some ⟨id, ops.length⟩, st') ∧
        CsrFresh st' b id size (ops ++ [CsrBatchOp.zero.fill x]) ∧ CsrKeepsOthers st b st' := by
  have hnum : (st.entry b).numops = ops.length := by rw [h.entry]
  have hops : (st.entry b).ops =
      some ⟨id, ops ++ List.replicate (size - ops.length) .zero⟩ := by rw [h.entry]
  -- the next slot is the first of the untouched ones
  have hslot : (ops ++ List.replicate (size - ops.length) CsrBatchOp.zero)[ops.length]? =
      some .zero := by
    rw [List.getElem?_append_right (Nat.le_refl _), Nat.sub_self, List.getElem?_replicate,
      if_pos (by omega)]
  obtain ⟨st', hst', hup, -⟩ := createCsrBatchOp_spec h.sized x
    (by rw [hnum, h.capacity]; exact hroom) hops (by rw [hnum]; exact hslot)
  rw [hnum] at hst' hup
  have hlen : (ops ++ [CsrBatchOp.zero.fill x]).length = ops.length + 1 := List.length_append
  have hsmall := h.small
  refine ⟨st', hst', ⟨hup.sized, hup.capacity.trans h.capacity, hsmall, by omega, ?_⟩,
    hup.entry_ne, hup.capacity_ne⟩
  rw [hup.entry, hlen, Nat.mod_eq_of_lt (by omega)]
  obtain ⟨rest, hrest⟩ : ∃ rest, size - ops.length = rest + 1 := ⟨size - ops.length - 1, by omega⟩
  have hrest' : size - (ops.length + 1) = rest := by omega
  rw [hrest, hrest', List.replicate_succ, List.set_append_right _ _ (Nat.le_refl _), Nat.sub_self,
    List.set_cons_zero, List.append_assoc]
  rfl

end Fresh

/-! ## load_imc_batch_for_each -/

/-- The op for a place. -/
def ImcLoad.op (x : ImcLoad) (p : ImcPlace) : CsrBatchOp := CsrBatchOp.zero.fill (x.args p)

/-- An array of `n` pointers of which `count` were set, to the slots from `k` on. -/
def imcPtrs (id k count n : Nat) : List (Option Ptr) :=
  rowPtrs id k count ++ List.replicate (n - count) none

section Load

variable {x : ImcLoad} {st : CsrBatchStorage} {id size n : Nat} {ops : List CsrBatchOp}

theorem imcPtrs_getElem? {k count i : Nat} (hi : i < count) :
    (imcPtrs id k count n)[i]? = some (some ⟨id, k + i⟩) := by
  have hlen : (rowPtrs id k count).length = count := by
    rw [rowPtrs, List.length_map, List.length_range]
  rw [imcPtrs, List.getElem?_append_left (hlen.symm ▸ hi), rowPtrs_getElem? hi]

/-- Behind them nothing was set. -/
theorem imcPtrs_unset {k count i : Nat} (hi : count ≤ i) (hn : i < n) :
    (imcPtrs id k count n)[i]? = some none := by
  have hlen : (rowPtrs id k count).length = count := by
    rw [rowPtrs, List.length_map, List.length_range]
  rw [imcPtrs, List.getElem?_append_right (hlen.symm ▸ hi), hlen, List.getElem?_replicate,
    if_pos (by omega)]

/-- The array after one more pointer. -/
theorem imcPtrs_set {k count : Nat} (hn : count < n) :
    (imcPtrs id k count n).set count (some ⟨id, k + count⟩) = imcPtrs id k (count + 1) n := by
  have hlen : (rowPtrs id k count).length = count := by
    rw [rowPtrs, List.length_map, List.length_range]
  have hrow : rowPtrs id k (count + 1) = rowPtrs id k count ++ [some ⟨id, k + count⟩] := by
    rw [rowPtrs, List.range_succ, List.map_append]
    rfl
  obtain ⟨rest, hrest⟩ : ∃ rest, n - count = rest + 1 := ⟨n - count - 1, by omega⟩
  have hrest' : n - (count + 1) = rest := by omega
  rw [imcPtrs, imcPtrs, hrest, hrest', hrow, List.replicate_succ,
    List.set_append_right _ _ hlen.le, hlen, Nat.sub_self, List.set_cons_zero, List.append_assoc]
  rfl

/-- One create with the next slot of the array. -/
theorem imcOp_spec {k count : Nat} (h : CsrFresh st x.batchno id size ops)
    (hk : ops.length = k + count) (hroom : ops.length < size) (hn : count < n) (p : ImcPlace) :
    ∃ st', imcOp x st (imcPtrs id k count n) count p = some (imcPtrs id k (count + 1) n, st') ∧
      CsrFresh st' x.batchno id size (ops ++ [x.op p]) ∧ CsrKeepsOthers st x.batchno st' := by
  obtain ⟨st', hst', hfresh, hkeep⟩ := h.create (x.args p) hroom
  have hlen : (imcPtrs id k count n).length = n := by
    rw [imcPtrs, rowPtrs, List.length_append, List.length_map, List.length_range,
      List.length_replicate]
    omega
  refine ⟨st', ?_, hfresh, hkeep⟩
  simp only [imcOp, hst', Option.bind_eq_bind, Option.bind_some, hlen, if_pos hn]
  rw [hk, imcPtrs_set hn]

/-- The creates behind the first one. -/
theorem imcOps_spec {k count : Nat} (h : CsrFresh st x.batchno id size ops)
    (hk : ops.length = k + (count + 1)) {ps : List ImcPlace} (hroom : ops.length + ps.length ≤ size)
    (hn : count + 1 + ps.length ≤ n) :
    ∃ st', imcOps x st (imcPtrs id k (count + 1) n) count ps =
        some (count + ps.length, imcPtrs id k (count + 1 + ps.length) n, st') ∧
      CsrFresh st' x.batchno id size (ops ++ ps.map x.op) ∧ CsrKeepsOthers st x.batchno st' := by
  induction ps generalizing st ops count with
  | nil => exact ⟨st, rfl, (List.append_nil ops).symm ▸ h, .refl st _⟩
  | cons p ps ih =>
    rw [List.length_cons] at hroom hn
    obtain ⟨st₁, hst₁, hfresh₁, hkeep₁⟩ := imcOp_spec (n := n) h hk (by omega) (by omega) p
    have hlen : (ops ++ [x.op p]).length = ops.length + 1 := List.length_append
    obtain ⟨st', hst', hfresh', hkeep'⟩ :=
      ih hfresh₁ (show _ = k + (count + 1 + 1) by omega) (by omega) (by omega)
    refine ⟨st', ?_, ?_, hkeep₁.trans hkeep'⟩
    · simp only [imcOps, hst₁, Option.bind_eq_bind, Option.bind_some, hst', List.length_cons]
      have hidx : count + 1 + ps.length = count + (ps.length + 1) := by omega
      have hptr : count + 1 + 1 + ps.length = count + 1 + (ps.length + 1) := by omega
      rw [hidx, hptr]
    · rwa [List.append_assoc] at hfresh'

theorem places_pos (h : ImcHeader) (sockets : Nat) : 0 < (h.places sockets).length := by
  rw [ImcHeader.places, List.length_append]
  exact Nat.add_pos_left (Nat.succ_pos 7) _

/-- **One load.**  Every place gets an op and a pointer to it; what is returned is one
    less than the ops. -/
theorem loadImcBatchForEach_spec (h : ImcHeader) (sockets : Nat)
    (hfresh : CsrFresh st x.batchno id size ops)
    (hroom : ops.length + (h.places sockets).length ≤ size) (hn : (h.places sockets).length ≤ n) :
    ∃ st', loadImcBatchForEach h sockets x (List.replicate n none) st =
        some ((h.places sockets).length - 1,
          imcPtrs id ops.length (h.places sockets).length n, st') ∧
      CsrFresh st' x.batchno id size (ops ++ (h.places sockets).map x.op) ∧
      CsrKeepsOthers st x.batchno st' := by
  have hpos := places_pos h sockets
  cases hplaces : h.places sockets with
  | nil =>
    rw [hplaces] at hpos
    contradiction
  | cons p ps =>
    rw [hplaces, List.length_cons] at hroom hn
    have hstart : List.replicate n none = imcPtrs id ops.length 0 n := rfl
    obtain ⟨st₁, hst₁, hfresh₁, hkeep₁⟩ :=
      imcOp_spec (n := n) hfresh (Nat.add_zero _).symm (by omega) (by omega) p
    have hlen : (ops ++ [x.op p]).length = ops.length + (0 + 1) := List.length_append
    obtain ⟨st', hst', hfresh', hkeep'⟩ :=
      imcOps_spec (n := n) hfresh₁ hlen (show _ + ps.length ≤ size by omega) (by omega)
    refine ⟨st', ?_, ?_, hkeep₁.trans hkeep'⟩
    · simp only [loadImcBatchForEach, hplaces, hstart, hst₁, Option.bind_eq_bind, Option.bind_some,
        hst', List.length_cons]
      have hcount : 0 + 1 + ps.length = ps.length + 1 := by omega
      rw [hcount, Nat.zero_add, Nat.add_sub_cancel]
    · rwa [List.append_assoc] at hfresh'

end Load

end Libmsr
