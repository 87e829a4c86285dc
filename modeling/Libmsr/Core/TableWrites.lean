/-
  Libmsr.Core.TableWrites

  Writing a batch that holds consecutive registers of some CPUs: the registers have
  the values of the cells afterwards, and no other register has changed.
-/
import Libmsr.Core.TableStorage

namespace Libmsr

/-- Registers `msr0 + k` of the CPUs `cpu t` are given the values `data k t`, for `count`
    registers of `n` CPUs. -/
def withTable (n count msr0 : Nat) (cpu : Nat → Nat) (data : Nat → Nat → Word)
    (regs : RegFile) : RegFile :=
  fun c msr =>
    if msr0 ≤ msr ∧ msr < msr0 + count then
      ((List.range n).find? fun t => cpu t = c).elim (regs c msr) fun t => data (msr - msr0) t
    else regs c msr

/-- The registers of a layout follow each other, its CPUs differ, and all numbers fit in
    an op. -/
structure TableLayout.Consecutive (L : TableLayout) (msr0 : Nat) : Prop where
  msr : ∀ k, k < L.count → L.msr k = msr0 + k
  msr_lt : msr0 + L.count ≤ 2 ^ 32
  cpu_lt : ∀ t, t < L.objects → L.cpu t < 2 ^ 16
  cpu_inj : ∀ t t', t < L.objects → t' < L.objects → L.cpu t = L.cpu t' → t = t'

section Writing

variable {L : TableLayout} {msr0 : Nat} (hL : L.Consecutive msr0)
include hL

theorem TableLayout.Consecutive.opPlace {k t : Nat} (hk : k < L.count) (ht : t < L.objects) :
    opPlace (L.msr k) (L.cpu t) = (L.cpu t, msr0 + k) := by
  have hfits := hL.msr_lt
  rw [hL.msr k hk]
  exact opPlace_of_lt (by omega) (hL.cpu_lt t ht)

theorem TableLayout.Consecutive.place {i : Nat} (hi : i < L.count * L.objects) :
    L.place i = (L.cpu (L.object i), msr0 + L.reg i) := by
  obtain ⟨hreg, hobject, -⟩ := TableLayout.slot_reg_object hi
  exact hL.opPlace hreg hobject

/-- No two cells are for one register. -/
theorem TableLayout.Consecutive.place_injective {i j : Nat} (hi : i < L.count * L.objects)
    (hj : j < L.count * L.objects) (heq : L.place i = L.place j) : i = j := by
  obtain ⟨-, hobject, hslot⟩ := TableLayout.slot_reg_object hi
  obtain ⟨-, hobject', hslot'⟩ := TableLayout.slot_reg_object hj
  rw [hL.place hi, hL.place hj, Prod.mk.injEq] at heq
  have hreg : L.reg i = L.reg j := Nat.add_left_cancel heq.2
  rw [← hslot, ← hslot', hL.cpu_inj _ _ hobject hobject' heq.1, hreg]

/-- The registers after the cells were written. -/
theorem TableLayout.Consecutive.written {data : Nat → Nat → Word} {regs regs' : RegFile}
    (h : CellsWritten (L.count * L.objects) L.place (L.flat data) regs regs') :
    regs' = withTable L.objects L.count msr0 L.cpu data regs := by
  funext c msr
  have hother : (∀ i, i < L.count * L.objects → L.place i ≠ (c, msr)) →
      regs' c msr = regs c msr := h.others (c, msr)
  rw [withTable]
  split
  · next hin =>
    have hk : msr - msr0 < L.count := by omega
    have hmsr : msr0 + (msr - msr0) = msr := by omega
    cases hfind : (List.range L.objects).find? fun t => L.cpu t = c with
    | none =>
      refine hother fun i hi heq => ?_
      obtain ⟨-, hobject, -⟩ := TableLayout.slot_reg_object hi
      rw [hL.place hi, Prod.mk.injEq] at heq
      exact List.find?_eq_none.mp hfind _ (List.mem_range.mpr hobject) (decide_eq_true heq.1)
    | some t =>
      have ht := List.mem_range.mp (List.mem_of_find?_eq_some hfind)
      obtain rfl : L.cpu t = c := by simpa using List.find?_some hfind
      have hcell := h.each (fun i j hi hj heq => hL.place_injective hi hj heq) _
        (TableLayout.slot_lt hk ht)
      rw [TableLayout.place_slot hk ht, TableLayout.flat_slot data hk ht, hL.opPlace hk ht,
        hmsr] at hcell
      exact hcell
  · next hout =>
    refine hother fun i hi heq => hout ?_
    obtain ⟨hreg, -, -⟩ := TableLayout.slot_reg_object hi
    rw [hL.place hi, Prod.mk.injEq] at heq
    omega

variable {P : Platform} {arrays : RegArrays} {b id m : Nat} {data : Nat → Nat → Word}
  {w : BatchWorld} (h : RegTable L arrays w.st b id data)
include h

/-- **Writing the batch.** -/
theorem RegTable.write (hw : P.drv.Works P.batchfd w.host m)
    (hok : ∀ k t, k < L.count → t < L.objects →
      w.host.failsWrite (L.cpu t) (msr0 + k) = false) :
    ∃ w', w.writeBatch P b = some w' ∧ RegTable L arrays w'.st b id data ∧
      w'.host.regs = withTable L.objects L.count msr0 L.cpu data w.host.regs ∧
      WorksOn b w w' := by
  have hok' : ∀ i, i < L.count * L.objects →
      w.host.failsWrite (L.place i).1 (L.place i).2 = false := by
    intro i hi
    obtain ⟨hreg, hobject, -⟩ := TableLayout.slot_reg_object hi
    rw [hL.place hi]
    exact hok _ _ hreg hobject
  obtain ⟨w', hw', hcells, hwritten, hsame, hkeep⟩ := h.cells.writeBatch hw hok'
  exact ⟨w', hw', ⟨hcells, h.array⟩, hL.written hwritten, hcells.sized, hsame, hkeep⟩

end Writing

end Libmsr
