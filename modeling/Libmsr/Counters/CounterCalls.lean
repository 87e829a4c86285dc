/-
  Libmsr.Counters.CounterCalls

  What one call of the fixed counter functions does, in every state that calls can
  reach: `set_fixed_counter_ctrl` changes the control words of each thread as it
  should and zeroes its counters, and `get_fixed_ctr_ctrl` decodes the words.
-/
import Libmsr.Counters.CounterLoading
import Libmsr.Lib.Loops

namespace Libmsr

/-! ## Both batches -/

/-- The two batches, loaded. -/
structure CounterCells (n : Nat) (st : BatchStorage) (idData : Nat) (data : Nat → Word)
    (idCtrl : Nat) (ctrl : Nat → Word) : Prop where
  data : Cells st fixedCountersDataBatch idData (n + n + n) (dataPlace n) data
  ctrl : Cells st fixedCountersCtrDataBatch idCtrl (n + n) (ctrlPlace n) ctrl

theorem update_zero {f : Nat → Word} (i : Nat) {j : Nat} (hj : f j = 0) :
    Function.update f i 0 j = 0 := by
  rw [Function.update_apply]
  split
  · rfl
  · exact hj

section Stores

variable {n : Nat} {w : BatchWorld} {idData idCtrl : Nat} {data ctrl : Nat → Word}
  (h : CounterCells n w.st idData data idCtrl ctrl)
include h

/-- A store into the data batch. -/
theorem CounterCells.storeData {val : List (Option Ptr)} {j i : Nat}
    (hptr : ptrAt val j = some ⟨idData, i⟩) (hi : i < n + n + n) (f : Word → Word) :
    ∃ w', w.modify fixedCountersDataBatch val j f = some w' ∧
      CounterCells n w'.st idData (Function.update data i (f (data i))) idCtrl ctrl ∧
      w'.host = w.host := by
  obtain ⟨w', hw', hcells, hhost, hkeep⟩ := h.data.modify hptr hi f
  exact ⟨w', hw', ⟨hcells, h.ctrl.of_keepsOthers batches_ne hcells.sized hkeep⟩, hhost⟩

/-- A store into the control batch. -/
theorem CounterCells.storeCtrl {val : List (Option Ptr)} {j i : Nat}
    (hptr : ptrAt val j = some ⟨idCtrl, i⟩) (hi : i < n + n) (f : Word → Word) :
    ∃ w', w.modify fixedCountersCtrDataBatch val j f = some w' ∧
      CounterCells n w'.st idData data idCtrl (Function.update ctrl i (f (ctrl i))) ∧
      w'.host = w.host := by
  obtain ⟨w', hw', hcells, hhost, hkeep⟩ := h.ctrl.modify hptr hi f
  exact ⟨w', hw', ⟨h.data.of_keepsOthers batches_ne.symm hcells.sized hkeep, hcells⟩, hhost⟩

/-- One iteration of `set_fixed_counter_ctrl`: the cells of its thread, and no
    others. -/
theorem CounterCells.setBody {ctr : Fin 3 → FixedCounter} {i : Nat} (hi : i < n)
    (hvalue : ∀ k : Fin 3, (ctr k).value = rowPtrs idData (k * n) n) :
    ∃ w' data' ctrl', setFixedCounterCtrlBody ctr ⟨rowPtrs idCtrl 0 n, rowPtrs idCtrl n n⟩ w i =
        some w' ∧
      CounterCells n w'.st idData data' idCtrl ctrl' ∧ w'.host = w.host ∧
      (∀ k : Fin 3, data' (k * n + i) = 0) ∧ (∀ j, data j = 0 → data' j = 0) ∧
      ctrl' i = perfGlobalCtrlWord (fun k => (ctr k).control i) (ctrl i) ∧
      ctrl' (n + i) = fixedCtrCtrlWord (fun k => (ctr k).control i) (ctrl (n + i)) ∧
      ∀ j, j ≠ i → j ≠ n + i → ctrl' j = ctrl j := by
  have hptr : ∀ k : Fin 3, ptrAt (ctr k).value i = some ⟨idData, k * n + i⟩ := fun k => by
    rw [hvalue k, ptrAt_rowPtrs hi]
  have hlt := counter_lt hi
  obtain ⟨w₁, hw₁, h₁, hhost₁⟩ := h.storeData (hptr 0) (hlt 0) fun _ => 0
  obtain ⟨w₂, hw₂, h₂, hhost₂⟩ := h₁.storeData (hptr 1) (hlt 1) fun _ => 0
  obtain ⟨w₃, hw₃, h₃, hhost₃⟩ := h₂.storeData (hptr 2) (hlt 2) fun _ => 0
  have hperf : ptrAt (rowPtrs idCtrl 0 n) i = some ⟨idCtrl, i⟩ := by
    rw [ptrAt_rowPtrs hi, Nat.zero_add]
  obtain ⟨w₄, hw₄, h₄, hhost₄⟩ := h₃.storeCtrl hperf (by omega)
    (perfGlobalCtrlWord fun k => (ctr k).control i)
  obtain ⟨w₅, hw₅, h₅, hhost₅⟩ := h₄.storeCtrl (ptrAt_rowPtrs (k := n) hi) (by omega)
    (fixedCtrCtrlWord fun k => (ctr k).control i)
  refine ⟨w₅, _, _, ?_, h₅, hhost₅.trans (hhost₄.trans (hhost₃.trans (hhost₂.trans hhost₁))),
    ?_, ?_, ?_, ?_, ?_⟩
  · simp only [setFixedCounterCtrlBody, hw₁, hw₂, hw₃, hw₄, hw₅, Option.bind_eq_bind,
      Option.bind_some]
  · -- what was zeroed is not touched again but by zeroing
    intro k
    fin_cases k
    · exact update_zero _ (update_zero _ (Function.update_self ..))
    · exact update_zero _ (Function.update_self ..)
    · exact Function.update_self ..
  · intro j hj
    exact update_zero _ (update_zero _ (update_zero _ hj))
  · rw [Function.update_of_ne (by omega), Function.update_self]
  · rw [Function.update_self, Function.update_of_ne (by omega)]
  · intro j hperf hfixed
    rw [Function.update_of_ne hfixed, Function.update_of_ne hperf]

/-- The batches after the iterations for the threads below `i`: theirs are done, the
    others have the control words they had in `ctrl`. -/
structure SetBelow (n : Nat) (ctr : Fin 3 → FixedCounter) (ctrl : Nat → Word) (i : Nat)
    (data' ctrl' : Nat → Word) : Prop where
  zero : ∀ t, t < i → ∀ k : Fin 3, data' (k * n + t) = 0
  perf : ∀ t, t < i → ctrl' t = perfGlobalCtrlWord (fun k => (ctr k).control t) (ctrl t)
  fixed : ∀ t, t < i →
    ctrl' (n + t) = fixedCtrCtrlWord (fun k => (ctr k).control t) (ctrl (n + t))
  rest : ∀ t, i ≤ t → t < n → ctrl' t = ctrl t ∧ ctrl' (n + t) = ctrl (n + t)

/-- The loop of `set_fixed_counter_ctrl` zeroes all counters and changes the control
    words of every thread. -/
theorem CounterCells.setLoop {ctr : Fin 3 → FixedCounter}
    (hvalue : ∀ k : Fin 3, (ctr k).value = rowPtrs idData (k * n) n) :
    ∃ w', (List.range n).foldlM
        (setFixedCounterCtrlBody ctr ⟨rowPtrs idCtrl 0 n, rowPtrs idCtrl n n⟩) w = some w' ∧
      w'.host = w.host ∧ ∃ data' ctrl', CounterCells n w'.st idData data' idCtrl ctrl' ∧
        SetBelow n ctr ctrl n data' ctrl' := by
  refine Loops.foldlM_range_inv _
    (fun i w' => w'.host = w.host ∧ ∃ data' ctrl',
      CounterCells n w'.st idData data' idCtrl ctrl' ∧ SetBelow n ctr ctrl i data' ctrl')
    n w ⟨rfl, data, ctrl, h, ?_⟩ ?_
  · exact ⟨fun t ht => absurd ht (Nat.not_lt_zero t), fun t ht => absurd ht (Nat.not_lt_zero t),
      fun t ht => absurd ht (Nat.not_lt_zero t), fun _ _ _ => ⟨rfl, rfl⟩⟩
  · rintro i hi w₁ ⟨hhost₁, data₁, ctrl₁, h₁, hbelow⟩
    obtain ⟨w₂, data₂, ctrl₂, hw₂, h₂, hhost₂, hself, hkeep, hperf, hfixed, hothers⟩ :=
      h₁.setBody hi hvalue
    obtain ⟨hold, hold'⟩ := hbelow.rest i (Nat.le_refl i) hi
    refine ⟨w₂, hw₂, hhost₂.trans hhost₁, data₂, ctrl₂, h₂, ?_, ?_, ?_, ?_⟩
    · intro t ht k
      rcases Nat.lt_succ_iff_lt_or_eq.mp ht with hlt | rfl
      · exact hkeep _ (hbelow.zero t hlt k)
      · exact hself k
    · intro t ht
      rcases Nat.lt_succ_iff_lt_or_eq.mp ht with hlt | rfl
      · rw [hothers t (by omega) (by omega), hbelow.perf t hlt]
      · rw [hperf, hold]
    · intro t ht
      rcases Nat.lt_succ_iff_lt_or_eq.mp ht with hlt | rfl
      · rw [hothers (n + t) (by omega) (by omega), hbelow.fixed t hlt]
      · rw [hfixed, hold']
    · intro t hle ht
      rw [hothers t (by omega) (by omega), hothers (n + t) (by omega) (by omega)]
      exact hbelow.rest t (by omega) ht

end Stores

/-! ## Statics -/

section Statics

variable {P : Platform} {s : CounterState}

/-- Statics that are set are those of `fixed_counter_ctrl_storage`. -/
theorem StaticsFrom.of_ne_zero {own : CtrlStatics} (h : StaticsFrom P s own)
    (hI : CounterInv P s) (hne : own.totalThreads ≠ 0) :
    (∃ id data, CtrlLoaded P s id data) ∧ own = ⟨P.cfg.numDevs, s.ctrl⟩ := by
  rcases h with hzero | ⟨hinit, htotal, hptrs⟩
  · contradiction
  · refine ⟨?_, ?_⟩
    · rcases hI.ctrl with ⟨hnot, -⟩ | hloaded
      · rw [hnot] at hinit
        contradiction
      · exact hloaded
    · rw [← htotal, ← hptrs]

variable (hI : CounterInv P s)
include hI

/-- The head of `get_fixed_ctr_ctrl` leaves its statics set. -/
theorem CounterInv.getStorage :
    ∃ s', getStorage P s = some s' ∧ CounterInv P s' ∧ (∃ id data, CtrlLoaded P s' id data) ∧
      s'.get = ⟨P.cfg.numDevs, s'.ctrl⟩ ∧ s'.world.host = s.world.host := by
  by_cases hset : s.get.totalThreads = 0
  · obtain ⟨s₁, hs₁, hI₁, ⟨id, data, hl⟩, hhost, -⟩ := fixedCounterCtrlStorage_spec hI
    let s₂ : CounterState := { s₁ with get := ⟨P.cfg.numDevs, s₁.ctrl⟩ }
    have hdata : s₂.init = false ∧ s₂.world.st.entry fixedCountersDataBatch = .empty ∨
        ∃ id data, DataLoaded P s₂ id data :=
      data_of_keepsOthers hI₁ hI₁.sized (.refl _ _) rfl rfl
    have hl' : CtrlLoaded P s₂ id data := ⟨hl.init, hl.ptrs, hl.cells⟩
    refine ⟨s₂, ?_, ⟨hI₁.works, hI₁.sized, hdata, Or.inr ⟨id, data, hl'⟩,
      Or.inr ⟨hl.init, rfl, rfl⟩, hI₁.set⟩, ⟨id, data, hl'⟩, rfl, hhost⟩
    simp only [Libmsr.getStorage, hset, ne_eq, not_true_eq_false, if_false, hs₁,
      Option.bind_eq_bind, Option.bind_some]
    rfl
  · obtain ⟨hloaded, heq⟩ := hI.get.of_ne_zero hI hset
    exact ⟨s, if_pos hset, hI, hloaded, heq, rfl⟩

/-- The head of `set_fixed_counter_ctrl` does the same for its own. -/
theorem CounterInv.setStorage :
    ∃ s', setStorage P s = some s' ∧ CounterInv P s' ∧ (∃ id data, CtrlLoaded P s' id data) ∧
      s'.set = ⟨P.cfg.numDevs, s'.ctrl⟩ ∧ s'.world.host = s.world.host ∧ s'.ctr = s.ctr ∧
      s'.init = s.init := by
  by_cases hset : s.set.totalThreads = 0
  · obtain ⟨s₁, hs₁, hI₁, ⟨id, data, hl⟩, hhost, hctr, hinit⟩ := fixedCounterCtrlStorage_spec hI
    let s₂ : CounterState := { s₁ with set := ⟨P.cfg.numDevs, s₁.ctrl⟩ }
    have hdata : s₂.init = false ∧ s₂.world.st.entry fixedCountersDataBatch = .empty ∨
        ∃ id data, DataLoaded P s₂ id data :=
      data_of_keepsOthers hI₁ hI₁.sized (.refl _ _) rfl rfl
    have hl' : CtrlLoaded P s₂ id data := ⟨hl.init, hl.ptrs, hl.cells⟩
    refine ⟨s₂, ?_, ⟨hI₁.works, hI₁.sized, hdata, Or.inr ⟨id, data, hl'⟩, hI₁.get,
      Or.inr ⟨hl.init, rfl, rfl⟩⟩, ⟨id, data, hl'⟩, rfl, hhost, hctr, hinit⟩
    simp only [Libmsr.setStorage, hset, ne_eq, not_true_eq_false, if_false, hs₁,
      Option.bind_eq_bind, Option.bind_some]
    rfl
  · obtain ⟨hloaded, heq⟩ := hI.set.of_ne_zero hI hset
    exact ⟨s, if_pos hset, hI, hloaded, heq, rfl, rfl, rfl⟩

end Statics

/-! ## set_fixed_counter_ctrl -/

/-- What setting the controls `c` makes of the registers. -/
structure ControlsSet (n : Nat) (c : Nat → Fin 3 → CounterControl) (regs regs' : RegFile) :
    Prop where
  perf : n ≤ 2 ^ 16 → ∀ t, t < n →
    regs' t ia32PerfGlobalCtrl = perfGlobalCtrlWord (c t) (regs t ia32PerfGlobalCtrl)
  fixed : n ≤ 2 ^ 16 → ∀ t, t < n →
    regs' t ia32FixedCtrCtrl = fixedCtrCtrlWord (c t) (regs t ia32FixedCtrCtrl)
  zero : n ≤ 2 ^ 16 → ∀ t, t < n → ∀ k : Fin 3, regs' t (ia32FixedCtr0 + k) = 0
  beyond : ∀ cpu, 2 ^ 16 ≤ cpu → ∀ msr, regs' cpu msr = regs cpu msr

/-- Only the controls of existing threads matter. -/
theorem ControlsSet.congr {n : Nat} {c c' : Nat → Fin 3 → CounterControl} {regs regs' : RegFile}
    (h : ControlsSet n c regs regs') (heq : ∀ t, t < n → c' t = c t) :
    ControlsSet n c' regs regs' := by
  refine ⟨fun hn t ht => ?_, fun hn t ht => ?_, h.zero, h.beyond⟩
  · rw [heq t ht]
    exact h.perf hn t ht
  · rw [heq t ht]
    exact h.fixed hn t ht

/-- The writes of the control words and of the counters set the controls: neither
    goes to a place of the other. -/
theorem controlsSet_of_written {n : Nat} {regs regs₁ regs₂ : RegFile}
    {ctr : Fin 3 → FixedCounter} {data ctrl : Nat → Word}
    (hdone : SetBelow n ctr (fun i => RegFile.at regs (ctrlPlace n i)) n data ctrl)
    (hctrl : CellsWritten (n + n) (ctrlPlace n) ctrl regs regs₁)
    (hdata : CellsWritten (n + n + n) (dataPlace n) data regs₁ regs₂) :
    ControlsSet n (fun t k => (ctr k).control t) regs regs₂ := by
  -- the control words are not among the places of the second write
  have hkept : ∀ t, ∀ msr ∈ [ia32PerfGlobalCtrl, ia32FixedCtrCtrl],
      regs₂ t msr = regs₁ t msr := by
    intro t msr hmsr
    apply hdata.others (t, msr)
    intro i hi heq
    obtain ⟨u, -, msr', hmsr', heq'⟩ := dataPlace_eq hi
    obtain ⟨-, rfl⟩ := Prod.mk.inj (heq.symm.trans heq')
    revert hmsr hmsr'
    simp only [List.mem_cons, List.not_mem_nil, or_false]
    rintro (rfl | rfl) <;> decide
  refine ⟨fun hn t ht => ?_, fun hn t ht => ?_, fun hn t ht k => ?_, fun cpu hcpu msr => ?_⟩
  · have hplace : ctrlPlace n t = (t, ia32PerfGlobalCtrl) :=
      (ctrlPlace_perf ht).trans (opPlace_of_lt (by decide) (by omega))
    have hcell := hctrl.each (fun _ _ => ctrlPlace_injective hn) t (by omega)
    rw [hdone.perf t ht, hplace] at hcell
    exact (hkept t _ (List.mem_cons_self ..)).trans hcell
  · have hplace : ctrlPlace n (n + t) = (t, ia32FixedCtrCtrl) :=
      (ctrlPlace_fixed _ t).trans (opPlace_of_lt (by decide) (by omega))
    have hcell := hctrl.each (fun _ _ => ctrlPlace_injective hn) (n + t) (by omega)
    rw [hdone.fixed t ht, hplace] at hcell
    exact (hkept t _ (List.mem_cons_of_mem _ (List.mem_cons_self ..))).trans hcell
  · have hk := k.isLt
    have hbase : ia32FixedCtr0 = 0x309 := rfl
    have hplace : dataPlace n (k * n + t) = (t, ia32FixedCtr0 + k) :=
      (dataPlace_counter ht k).trans (opPlace_of_lt (by omega) (by omega))
    have hcell := hdata.each (fun _ _ => dataPlace_injective hn) (k * n + t) (counter_lt ht k)
    rw [hdone.zero t ht k, hplace] at hcell
    exact hcell
  · -- no op has such a CPU
    have hout₂ := hdata.others (cpu, msr) fun i hi heq => by
      obtain ⟨t, -, msr', -, heq'⟩ := dataPlace_eq hi
      have hcpu' := (Prod.mk.inj (heq.symm.trans heq')).1
      omega
    have hout₁ := hctrl.others (cpu, msr) fun i hi heq => by
      obtain ⟨t, -, msr', -, heq'⟩ := ctrlPlace_eq hi
      have hcpu' := (Prod.mk.inj (heq.symm.trans heq')).1
      omega
    exact hout₂.trans hout₁

theorem CounterInv.setFixedCounterCtrl {P : Platform} {s : CounterState} (hI : CounterInv P s)
    (hloaded : ∃ id data, DataLoaded P s id data) {ctr : Fin 3 → FixedCounter}
    (hctr : ∀ k, (ctr k).value = (s.ctr k).value) :
    ∃ s', setFixedCounterCtrl P s ctr = some s' ∧ CounterInv P s' ∧
      s.world.host.SameDevices s'.world.host ∧
      ControlsSet P.cfg.numDevs (fun t k => (ctr k).control t) s.world.host.regs
        s'.world.host.regs := by
  obtain ⟨s₁, hs₁, hI₁, ⟨idCtrl, ctrl, hctrl⟩, hset, hhost₁, hctr₁, hinit₁⟩ := hI.setStorage
  obtain ⟨idData, data, hdata⟩ : ∃ id data, DataLoaded P s₁ id data := by
    obtain ⟨id, data, hl⟩ := hloaded
    rcases hI₁.data with ⟨hnot, -⟩ | hdata
    · rw [hinit₁, hl.init] at hnot
      contradiction
    · exact hdata
  have hvalue : ∀ k : Fin 3, (ctr k).value = rowPtrs idData (k * P.cfg.numDevs) P.cfg.numDevs :=
    fun k => by rw [hctr k, ← hdata.value k, hctr₁]
  -- read
  obtain ⟨w₁, hw₁, hcells₁, hregs₁, hsame₁, hkeep₁⟩ :=
    hctrl.cells.readBatch hI₁.works.works fun i hi => hI₁.works.reads_ctrl hi
  have hboth₁ : CounterCells P.cfg.numDevs w₁.st idData data idCtrl _ :=
    ⟨hdata.cells.of_keepsOthers batches_ne.symm hcells₁.sized hkeep₁, hcells₁⟩
  -- change every thread
  obtain ⟨w₂, hw₂, hhost₂, data₂, ctrl₂, hboth₂, hdone⟩ := hboth₁.setLoop hvalue
  have hworks₂ : CountersWork P w₂.host := by
    rw [hhost₂]
    exact hI₁.works.of_sameDevices hsame₁
  -- write the control words, then the counters
  obtain ⟨w₃, hw₃, hctrl₃, hwritten₃, hsame₃, hkeep₃⟩ :=
    hboth₂.ctrl.writeBatch hworks₂.works fun i hi => hworks₂.writes_ctrl hi
  have hworks₃ := hworks₂.of_sameDevices hsame₃
  obtain ⟨w₄, hw₄, hdata₄, hwritten₄, hsame₄, hkeep₄⟩ :=
    (hboth₂.data.of_keepsOthers batches_ne.symm hctrl₃.sized hkeep₃).writeBatch hworks₃.works
      fun i hi => hworks₃.writes_data hi
  let s' : CounterState := { s₁ with world := w₄ }
  have hdata' : DataLoaded P s' idData data₂ := ⟨hdata.init, hdata.value, hdata₄⟩
  have hctrl' : CtrlLoaded P s' idCtrl ctrl₂ :=
    ⟨hctrl.init, hctrl.ptrs, hctrl₃.of_keepsOthers batches_ne hdata₄.sized hkeep₄⟩
  have hsame : s.world.host.SameDevices s'.world.host := by
    rw [← hhost₁]
    exact hsame₁.trans (hhost₂ ▸ hsame₃.trans hsame₄)
  refine ⟨s', ?_, ⟨hworks₃.of_sameDevices hsame₄, hdata₄.sized, Or.inr ⟨_, _, hdata'⟩,
    Or.inr ⟨_, _, hctrl'⟩, hI₁.get, hI₁.set⟩, hsame, ?_⟩
  · have htotal : s₁.set.totalThreads = P.cfg.numDevs := by rw [hset]
    have hptrs : s₁.set.ptrs =
        ⟨rowPtrs idCtrl 0 P.cfg.numDevs, rowPtrs idCtrl P.cfg.numDevs P.cfg.numDevs⟩ := by
      rw [hset, hctrl.ptrs]
    simp only [Libmsr.setFixedCounterCtrl, hs₁, hw₁, htotal, hptrs, hw₂, hw₃, hw₄,
      Option.bind_eq_bind, Option.bind_some]
    rfl
  · -- the control words were read from the registers the call started with
    have hregs : w₂.host.regs = s.world.host.regs := by rw [hhost₂, hregs₁, hhost₁]
    rw [hhost₁] at hdone
    rw [hregs] at hwritten₃
    exact controlsSet_of_written hdone hwritten₃ hwritten₄

/-! ## get_fixed_ctr_ctrl -/

/-- What the arrays of counter `k` hold after the threads below `i`. -/
def decodedBelow (n : Nat) (ctrl : Nat → Word) (i k : Nat) (control : Nat → CounterControl) :
    Nat → CounterControl :=
  fun t => if t < i then CounterControl.ofMsr k (ctrl t) (ctrl (n + t)) else control t

theorem decodedBelow_succ (n : Nat) (ctrl : Nat → Word) (i k : Nat)
    (control : Nat → CounterControl) :
    Function.update (decodedBelow n ctrl i k control) i
        (CounterControl.ofMsr k (ctrl i) (ctrl (n + i))) =
      decodedBelow n ctrl (i + 1) k control := by
  funext t
  rcases eq_or_ne t i with rfl | hne
  · rw [Function.update_self, decodedBelow, if_pos (Nat.lt_succ_self t)]
  · have hiff : t < i + 1 ↔ t < i := by omega
    rw [Function.update_of_ne hne, decodedBelow, decodedBelow]
    simp only [hiff]

section Get

variable {n : Nat} {w : BatchWorld} {id : Nat} {ctrl : Nat → Word}
  (h : Cells w.st fixedCountersCtrDataBatch id (n + n) (ctrlPlace n) ctrl)
include h

/-- One counter and thread: arrays that are not null get the decoded fields. -/
theorem getCounterControl_eq {i : Nat} (hi : i < n) (k : Nat)
    (ctr : Option (Nat → CounterControl)) :
    getCounterControl w ⟨rowPtrs id 0 n, rowPtrs id n n⟩ i k ctr =
      some (ctr.map fun control =>
        Function.update control i (CounterControl.ofMsr k (ctrl i) (ctrl (n + i)))) := by
  cases ctr with
  | none => rfl
  | some control =>
    have hperf : ptrAt (rowPtrs id 0 n) i = some ⟨id, i⟩ := by
      rw [ptrAt_rowPtrs hi, Nat.zero_add]
    have hloadPerf := h.load (i := i) (by omega)
    have hloadFixed := h.load (i := n + i) (by omega)
    simp only [getCounterControl, hperf, ptrAt_rowPtrs hi, hloadPerf, hloadFixed,
      Option.bind_eq_bind, Option.bind_some, Option.map_some]

/-- The loop of `get_fixed_ctr_ctrl`. -/
theorem getLoop (ctr : Fin 3 → Option (Nat → CounterControl)) :
    ∃ got, (List.range n).foldlM
        (getFixedCtrCtrlBody w ⟨rowPtrs id 0 n, rowPtrs id n n⟩) ctr = some got ∧
      ∀ k : Fin 3, got k = (ctr k).map (decodedBelow n ctrl n k) := by
  refine Loops.foldlM_range_inv _
    (fun i got => ∀ k : Fin 3, got k = (ctr k).map (decodedBelow n ctrl i k)) n ctr ?_ ?_
  · intro k
    have hnone : decodedBelow n ctrl 0 k = fun control => control := by
      funext control t
      rw [decodedBelow, if_neg (Nat.not_lt_zero t)]
    rw [hnone, Option.map_id']
  · intro i hi got hgot
    have hone : ∀ k : Fin 3, getCounterControl w ⟨rowPtrs id 0 n, rowPtrs id n n⟩ i k (got k) =
        some ((ctr k).map (decodedBelow n ctrl (i + 1) k)) := by
      intro k
      rw [getCounterControl_eq h hi, hgot k, Option.map_map]
      refine congrArg some (Option.map_congr fun control _ => ?_)
      exact decodedBelow_succ n ctrl i k control
    refine ⟨![(ctr 0).map (decodedBelow n ctrl (i + 1) 0),
      (ctr 1).map (decodedBelow n ctrl (i + 1) 1),
      (ctr 2).map (decodedBelow n ctrl (i + 1) 2)], ?_, fun k => ?_⟩
    · have h0 : getCounterControl w ⟨rowPtrs id 0 n, rowPtrs id n n⟩ i 0 (got 0) = _ := hone 0
      have h1 : getCounterControl w ⟨rowPtrs id 0 n, rowPtrs id n n⟩ i 1 (got 1) = _ := hone 1
      have h2 : getCounterControl w ⟨rowPtrs id 0 n, rowPtrs id n n⟩ i 2 (got 2) = _ := hone 2
      simp only [getFixedCtrCtrlBody, h0, h1, h2, Option.bind_eq_bind, Option.bind_some]
      rfl
    · fin_cases k <;> rfl

end Get

theorem CounterInv.getFixedCtrCtrl {P : Platform} {s : CounterState} (hI : CounterInv P s)
    (ctr : Fin 3 → Option (Nat → CounterControl)) :
    ∃ s' got, getFixedCtrCtrl P s ctr = some (s', got) ∧ CounterInv P s' ∧
      s.world.host.SameDevices s'.world.host ∧ s'.world.host.regs = s.world.host.regs ∧
      ∀ (k : Fin 3) (control : Nat → CounterControl), ctr k = some control →
        ∃ control', got k = some control' ∧ (P.cfg.numDevs ≤ 2 ^ 16 → ∀ t, t < P.cfg.numDevs →
          control' t = CounterControl.ofMsr k (s.world.host.regs t ia32PerfGlobalCtrl)
            (s.world.host.regs t ia32FixedCtrCtrl)) := by
  obtain ⟨s₁, hs₁, hI₁, ⟨id, data, hctrl⟩, hget, hhost₁⟩ := hI.getStorage
  obtain ⟨w₂, hw₂, hcells₂, hregs₂, hsame₂, hkeep₂⟩ :=
    hctrl.cells.readBatch hI₁.works.works fun i hi => hI₁.works.reads_ctrl hi
  obtain ⟨got, hgot, hdecoded⟩ := getLoop hcells₂ ctr
  rw [hhost₁] at hdecoded hregs₂
  let s' : CounterState := { s₁ with world := w₂ }
  refine ⟨s', got, ?_, ⟨hI₁.works.of_sameDevices hsame₂, hcells₂.sized,
    data_of_keepsOthers hI₁ hcells₂.sized hkeep₂ rfl rfl,
    Or.inr ⟨id, _, hctrl.init, hctrl.ptrs, hcells₂⟩, hI₁.get, hI₁.set⟩, hhost₁ ▸ hsame₂,
    hregs₂, fun k control hk => ?_⟩
  · have htotal : s₁.get.totalThreads = P.cfg.numDevs := by rw [hget]
    have hptrs : s₁.get.ptrs =
        ⟨rowPtrs id 0 P.cfg.numDevs, rowPtrs id P.cfg.numDevs P.cfg.numDevs⟩ := by
      rw [hget, hctrl.ptrs]
    simp only [Libmsr.getFixedCtrCtrl, hs₁, hw₂, htotal, hptrs, hgot, Option.bind_eq_bind,
      Option.bind_some]
    rfl
  · refine ⟨_, by rw [hdecoded k, hk, Option.map_some], fun hn t ht => ?_⟩
    have hperf : ctrlPlace P.cfg.numDevs t = (t, ia32PerfGlobalCtrl) :=
      (ctrlPlace_perf ht).trans (opPlace_of_lt (by decide) (by omega))
    have hfixed : ctrlPlace P.cfg.numDevs (P.cfg.numDevs + t) = (t, ia32FixedCtrCtrl) :=
      (ctrlPlace_fixed _ t).trans (opPlace_of_lt (by decide) (by omega))
    rw [decodedBelow, if_pos ht, hperf, hfixed]
    rfl

/-! ## The calls that set -/

/-- Filling the structs and setting them, whatever was called before. -/
theorem CounterInv.fillAndSet {P : Platform} {s : CounterState} (hI : CounterInv P s)
    (c : Fin 3 → Nat → CounterControl) :
    ∃ s', fillAndSet P s c = some s' ∧ CounterInv P s' ∧
      s.world.host.SameDevices s'.world.host ∧
      ControlsSet P.cfg.numDevs (fun t k => c k t) s.world.host.regs s'.world.host.regs := by
  obtain ⟨s₁, hs₁, hI₁, ⟨id, data, hl⟩, hhost₁⟩ := fixedCounterStorage_spec hI
  let s₂ : CounterState := { s₁ with ctr := fun k => { s₁.ctr k with
    control := fun i => if i < P.cfg.numDevs then c k i else (s₁.ctr k).control i } }
  have hl₂ : DataLoaded P s₂ id data := ⟨hl.init, hl.value, hl.cells⟩
  have hI₂ : CounterInv P s₂ := by
    refine ⟨hI₁.works, hI₁.sized, Or.inr ⟨id, data, hl₂⟩, ?_, hI₁.get, hI₁.set⟩
    exact ctrl_of_keepsOthers hI₁ hI₁.sized (.refl _ _) rfl rfl
  have hvalue : ∀ k, (s₂.ctr k).value = (s₂.ctr k).value := fun _ => rfl
  obtain ⟨s', hs', hI', hsame, hset⟩ := hI₂.setFixedCounterCtrl ⟨id, data, hl₂⟩ hvalue
  refine ⟨s', ?_, hI', hhost₁ ▸ hsame, ?_⟩
  · simp only [Libmsr.fillAndSet, hs₁, Option.bind_eq_bind, Option.bind_some]
    exact hs'
  · rw [← hhost₁]
    exact hset.congr fun t ht => funext fun k => (if_pos ht).symm

end Libmsr
