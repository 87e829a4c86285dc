/-
  Libmsr.Core.BatchCells

  A row whose places and data are given by functions of the op's number, as the
  loops of the register modules see it: element `i` of a pointer array is cell
  `i` of the batch, or cell `k + i` if the batch holds several registers.
-/
import Libmsr.Core.RowLoading
import Libmsr.Lib.Loops

namespace Libmsr

open Scatter

/-- Batch `b` counts `n` ops, the `i`-th of them on the register `place i` and
    carrying `data i`. -/
def Cells (st : BatchStorage) (b id n : Nat) (place : Nat → Nat × Nat) (data : Nat → Word) :
    Prop :=
  Row st b id ((List.range n).map place) ((List.range n).map data)

theorem map_range_set {α : Type*} (f : Nat → α) {n i : Nat} (hi : i < n) (x : α) :
    ((List.range n).map f).set i x = (List.range n).map (Function.update f i x) := by
  apply List.ext_getElem?
  intro j
  rw [List.getElem?_map]
  by_cases hj : j < n
  · rw [List.getElem?_range hj, Option.map_some]
    rcases eq_or_ne i j with rfl | hne
    · rw [List.getElem?_set_self (by simpa using hi), Function.update_self]
    · rw [List.getElem?_set_ne hne, List.getElem?_map, List.getElem?_range hj, Option.map_some,
        Function.update_of_ne hne.symm]
  · have hlen : ((List.range n).map f).length ≤ j := by simpa using hj
    rw [List.getElem?_eq_none (by simpa using hlen), List.getElem?_eq_none (by simpa using hj),
      Option.map_none]

/-- Two runs of places, one after the other. -/
theorem map_range_append {α : Type*} (f g : Nat → α) (m n : Nat) :
    (List.range m).map f ++ (List.range n).map g =
      (List.range (m + n)).map fun i => if i < m then f i else g (i - m) := by
  rw [List.range_add, List.map_append, List.map_map]
  congr 1
  · refine List.map_congr_left fun i hi => ?_
    rw [if_pos (List.mem_range.mp hi)]
  · refine List.map_congr_left fun i _ => ?_
    simp only [Function.comp_apply]
    rw [if_neg (by omega), Nat.add_sub_cancel_left]

section Cells

variable {st st' : BatchStorage} {b id n : Nat} {place : Nat → Nat × Nat} {data : Nat → Word}

theorem Cells.congr {data' : Nat → Word} (h : Cells st b id n place data)
    (heq : ∀ i, i < n → data' i = data i) : Cells st b id n place data' := by
  have hmap : (List.range n).map data' = (List.range n).map data :=
    List.map_congr_left fun i hi => heq i (List.mem_range.mp hi)
  rw [Cells, hmap]
  exact h

theorem Cells.of_keepsOthers {b' : Nat} (h : Cells st b' id n place data) (hne : b' ≠ b)
    (hs : st'.Sized) (hkeep : KeepsOthers st b st') : Cells st' b' id n place data :=
  Row.of_keepsOthers h hne hs hkeep

/-- A fresh row is a row of zero cells. -/
theorem Fresh.cells {size : Nat} (h : Fresh st b id size ((List.range n).map place)) :
    Cells st b id n place fun _ => 0 := by
  have hrow := h.row
  have hzero : List.replicate ((List.range n).map place).length (0 : Word) =
      (List.range n).map fun _ => 0 := by
    rw [List.length_map, List.length_range, List.map_const', List.length_range]
  rw [hzero] at hrow
  exact hrow

theorem Cells.load (h : Cells st b id n place data) {i : Nat} (hi : i < n) :
    st.load b ⟨id, i⟩ = some (data i) := by
  rw [Row.load h (by simpa using hi), List.getElem?_map, List.getElem?_range hi, Option.map_some]

/-- The op of a cell. -/
theorem Cells.opAt (h : Cells st b id n place data) {i : Nat} (hi : i < n) :
    ∃ op, st.opAt b ⟨id, i⟩ = some op ∧ op.place = place i ∧ op.msrdata = data i := by
  obtain ⟨op, hop, hplace, hdata⟩ := Row.opAt h (i := i) (by simpa using hi)
  rw [List.getElem?_map, List.getElem?_range hi, Option.map_some, Option.some_inj] at hplace hdata
  exact ⟨op, hop, hplace.symm, hdata.symm⟩

end Cells

/-- The registers after writing cells: where the places differ each has its cell, and
    no other register is touched. -/
structure CellsWritten (n : Nat) (place : Nat → Nat × Nat) (data : Nat → Word)
    (regs regs' : RegFile) : Prop where
  others : ∀ p, (∀ i, i < n → place i ≠ p) → RegFile.at regs' p = RegFile.at regs p
  each : (∀ i j, i < n → j < n → place i = place j → i = j) →
    ∀ i, i < n → RegFile.at regs' (place i) = data i

section World

variable {P : Platform} {w : BatchWorld} {m b id n : Nat} {place : Nat → Nat × Nat}
  {data : Nat → Word} (h : Cells w.st b id n place data)
include h

theorem Cells.readBatch (hw : P.drv.Works P.batchfd w.host m)
    (hok : ∀ i, i < n → w.host.fails (place i).1 (place i).2 = false) :
    ∃ w', w.readBatch P b = some w' ∧
      Cells w'.st b id n place (fun i => RegFile.at w.host.regs (place i)) ∧
      w'.host.regs = w.host.regs ∧ w.host.SameDevices w'.host ∧ KeepsOthers w.st b w'.st := by
  have hok' : ∀ p ∈ (List.range n).map place, w.host.fails p.1 p.2 = false := by
    intro p hp
    obtain ⟨i, hi, rfl⟩ := List.mem_map.mp hp
    exact hok i (List.mem_range.mp hi)
  obtain ⟨w', hw', hrow, hrest⟩ := Row.readBatch h hw hok'
  refine ⟨w', hw', ?_, hrest⟩
  rw [List.map_map] at hrow
  exact hrow

/-- Writing the cells. -/
theorem Cells.writeBatch (hw : P.drv.Works P.batchfd w.host m)
    (hok : ∀ i, i < n → w.host.failsWrite (place i).1 (place i).2 = false) :
    ∃ w', w.writeBatch P b = some w' ∧ Cells w'.st b id n place data ∧
      CellsWritten n place data w.host.regs w'.host.regs ∧
      w.host.SameDevices w'.host ∧ KeepsOthers w.st b w'.st := by
  have hok' : ∀ p ∈ (List.range n).map place, w.host.failsWrite p.1 p.2 = false := by
    intro p hp
    obtain ⟨i, hi, rfl⟩ := List.mem_map.mp hp
    exact hok i (List.mem_range.mp hi)
  obtain ⟨w', hw', hrow, hregs, hsame, hkeep⟩ := Row.writeBatch h hw hok'
  refine ⟨w', hw', hrow, ⟨fun p hp => ?_, fun hinj i hi => ?_⟩, hsame, hkeep⟩
  · rw [hregs]
    apply scatter_of_not_mem
    intro hmem
    obtain ⟨i, hi, heq⟩ := List.mem_map.mp hmem
    exact hp i (List.mem_range.mp hi) heq
  · have hnodup : ((List.range n).map place).Nodup := by
      refine List.Nodup.map_on (fun i hi j hj heq => ?_) List.nodup_range
      exact hinj i j (List.mem_range.mp hi) (List.mem_range.mp hj) heq
    rw [hregs]
    apply scatter_getElem? hnodup (i := i)
    · rw [List.getElem?_map, List.getElem?_range hi, Option.map_some]
    · rw [List.getElem?_map, List.getElem?_range hi, Option.map_some]

theorem Cells.modify {val : List (Option Ptr)} {j i : Nat} (hptr : ptrAt val j = some ⟨id, i⟩)
    (hi : i < n) (f : Word → Word) :
    ∃ w', w.modify b val j f = some w' ∧
      Cells w'.st b id n place (Function.update data i (f (data i))) ∧ w'.host = w.host ∧
      KeepsOthers w.st b w'.st := by
  have hval : ((List.range n).map data)[i]? = some (data i) := by
    rw [List.getElem?_map, List.getElem?_range hi, Option.map_some]
  obtain ⟨w', hw', hrow, hrest⟩ := Row.modify h hptr hval f
  rw [map_range_set data hi] at hrow
  exact ⟨w', hw', hrow, hrest⟩

end World

/-! ## Loops over a pointer array -/

theorem ptrAt_rowPtrs {id k count i : Nat} (hi : i < count) :
    ptrAt (rowPtrs id k count) i = some ⟨id, k + i⟩ := by
  rw [ptrAt, rowPtrs_getElem? hi, Option.join_some]

/-- The cells after the loop has applied `f i` to cell `k + i` for `i` below
    `count`. -/
def modifiedCells (k count : Nat) (f : Nat → Word → Word) (data : Nat → Word) : Nat → Word :=
  fun j => if k ≤ j ∧ j < k + count then f (j - k) (data j) else data j

theorem modifiedCells_succ (k count : Nat) (f : Nat → Word → Word) (data : Nat → Word) :
    Function.update (modifiedCells k count f data) (k + count)
        (f count (modifiedCells k count f data (k + count))) =
      modifiedCells k (count + 1) f data := by
  funext j
  rcases eq_or_ne j (k + count) with rfl | hne
  · have hnot : ¬ (k ≤ k + count ∧ k + count < k + count) := by omega
    have hnew : k ≤ k + count ∧ k + count < k + (count + 1) := by omega
    rw [Function.update_self, modifiedCells, modifiedCells, if_neg hnot, if_pos hnew,
      Nat.add_sub_cancel_left]
  · have hiff : (k ≤ j ∧ j < k + (count + 1)) ↔ k ≤ j ∧ j < k + count := by omega
    rw [Function.update_of_ne hne, modifiedCells, modifiedCells]
    simp only [hiff]

/-- **Loop of updates.** -/
theorem Cells.modifyEach {w : BatchWorld} {b id n k count : Nat} {place : Nat → Nat × Nat}
    {data : Nat → Word} (h : Cells w.st b id n place data) (hroom : k + count ≤ n)
    (f : Nat → Word → Word) :
    ∃ w', w.modifyEach b (rowPtrs id k count) count f = some w' ∧
      Cells w'.st b id n place (modifiedCells k count f data) ∧ w'.host = w.host ∧
      KeepsOthers w.st b w'.st := by
  refine Loops.foldlM_range_inv _
    (fun i w' => Cells w'.st b id n place (modifiedCells k i f data) ∧ w'.host = w.host ∧
      KeepsOthers w.st b w'.st) count w ⟨?_, rfl, .refl w.st b⟩ fun i hi w₁ hI => ?_
  · refine h.congr fun j _ => ?_
    rw [modifiedCells, if_neg (by omega)]
  · obtain ⟨hcells, hhost, hkeep⟩ := hI
    obtain ⟨w₂, hw₂, hcells₂, hhost₂, hkeep₂⟩ :=
      hcells.modify (ptrAt_rowPtrs hi) (Nat.lt_of_lt_of_le (Nat.add_lt_add_left hi k) hroom) (f i)
    rw [modifiedCells_succ] at hcells₂
    exact ⟨w₂, hw₂, hcells₂, hhost₂.trans hhost, hkeep.trans hkeep₂⟩

end Libmsr
