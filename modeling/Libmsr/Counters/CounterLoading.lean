/-
  Libmsr.Counters.CounterLoading

  The two batches of the fixed counters once they are loaded: the data batch
  holds each counter for every thread, one counter after the other, and the
  control batch the two control words.
-/
import Libmsr.Core.BatchCells
import Libmsr.Counters.FixedCounters

namespace Libmsr

/-! ## Places -/

/-- Where op `i` of the data batch goes, with `n` threads. -/
def dataPlace (n i : Nat) : Nat × Nat :=
  if i < n + n then
    if i < n then opPlace ia32FixedCtr0 i else opPlace ia32FixedCtr1 (i - n)
  else opPlace ia32FixedCtr2 (i - (n + n))

/-- Where op `i` of the control batch goes. -/
def ctrlPlace (n i : Nat) : Nat × Nat :=
  if i < n then opPlace ia32PerfGlobalCtrl i else opPlace ia32FixedCtrCtrl (i - n)

section Places

variable {n t : Nat}

/-- The ops of counter `k` come after those of the counters before it. -/
theorem dataPlace_counter (ht : t < n) (k : Fin 3) :
    dataPlace n (k * n + t) = opPlace (ia32FixedCtr0 + k) t := by
  fin_cases k
  · simp [dataPlace, ht, Nat.lt_add_right n ht]
  · simp [dataPlace, ht]
    rfl
  · have hout : ¬ 2 * n + t < n + n := by omega
    have hsub : 2 * n + t - (n + n) = t := by omega
    simp only [dataPlace, hout, if_false, hsub]
    rfl

theorem counter_lt (ht : t < n) (k : Fin 3) : k * n + t < n + n + n := by
  fin_cases k <;> simp <;> omega

theorem ctrlPlace_perf (ht : t < n) : ctrlPlace n t = opPlace ia32PerfGlobalCtrl t := if_pos ht

theorem ctrlPlace_fixed (n t : Nat) : ctrlPlace n (n + t) = opPlace ia32FixedCtrCtrl t := by
  rw [ctrlPlace, if_neg (by omega), Nat.add_sub_cancel_left]

/-- Every op of the data batch belongs to a counter and a thread. -/
theorem exists_counter {i : Nat} (hi : i < n + n + n) :
    ∃ (k : Fin 3) (t : Nat), t < n ∧ i = k * n + t := by
  rcases Nat.lt_or_ge i n with h | h
  · exact ⟨0, i, h, by simp⟩
  · rcases Nat.lt_or_ge i (n + n) with h' | h'
    · exact ⟨1, i - n, by omega, by simp; omega⟩
    · refine ⟨2, i - (n + n), by omega, ?_⟩
      show i = 2 * n + (i - (n + n))
      omega

/-- Every op of the control batch belongs to one of its registers and a thread. -/
theorem exists_control {i : Nat} (hi : i < n + n) : ∃ t, t < n ∧ (i = t ∨ i = n + t) := by
  rcases Nat.lt_or_ge i n with h | h
  · exact ⟨i, h, Or.inl rfl⟩
  · exact ⟨i - n, by omega, Or.inr (by omega)⟩

/-- Where the ops of the control batch go: to the control words of existing CPUs. -/
theorem ctrlPlace_eq {i : Nat} (hi : i < n + n) :
    ∃ t, t < n ∧ ∃ msr ∈ [ia32PerfGlobalCtrl, ia32FixedCtrCtrl],
      ctrlPlace n i = (t % 2 ^ 16, msr) := by
  obtain ⟨t, ht, rfl | rfl⟩ := exists_control hi
  · exact ⟨i, ht, ia32PerfGlobalCtrl, by simp, ctrlPlace_perf ht⟩
  · exact ⟨t, ht, ia32FixedCtrCtrl, by simp, ctrlPlace_fixed n t⟩

/-- Where the ops of the data batch go: to the counters of existing CPUs. -/
theorem dataPlace_eq {i : Nat} (hi : i < n + n + n) :
    ∃ t, t < n ∧ ∃ msr ∈ [ia32FixedCtr0, ia32FixedCtr1, ia32FixedCtr2],
      dataPlace n i = (t % 2 ^ 16, msr) := by
  obtain ⟨k, t, ht, rfl⟩ := exists_counter hi
  refine ⟨t, ht, ia32FixedCtr0 + k, ?_, ?_⟩
  · fin_cases k <;> decide
  · have hk := k.isLt
    have hbase : ia32FixedCtr0 = 0x309 := rfl
    have hmsr : ia32FixedCtr0 + (k : Nat) < 2 ^ 32 := by omega
    rw [dataPlace_counter ht, opPlace, Nat.mod_eq_of_lt hmsr]

/-- Below the range of an op's `cpu` the ops of a batch go to different places. -/
theorem ctrlPlace_injective (hn : n ≤ 2 ^ 16) {i j : Nat} (hi : i < n + n) (hj : j < n + n)
    (heq : ctrlPlace n i = ctrlPlace n j) : i = j := by
  obtain ⟨t, ht, hit⟩ := exists_control hi
  obtain ⟨u, hu, hju⟩ := exists_control hj
  rcases hit with rfl | rfl <;> rcases hju with rfl | rfl <;>
    simp only [ctrlPlace_perf, ctrlPlace_fixed, ht, hu, opPlace, Prod.mk.injEq] at heq
  · omega
  · exact absurd heq.2 (by decide)
  · exact absurd heq.2 (by decide)
  · omega

theorem dataPlace_injective (hn : n ≤ 2 ^ 16) {i j : Nat} (hi : i < n + n + n)
    (hj : j < n + n + n) (heq : dataPlace n i = dataPlace n j) : i = j := by
  obtain ⟨k, t, ht, rfl⟩ := exists_counter hi
  obtain ⟨l, u, hu, rfl⟩ := exists_counter hj
  rw [dataPlace_counter ht, dataPlace_counter hu, opPlace, opPlace, Prod.mk.injEq] at heq
  have hk := k.isLt
  have hl := l.isLt
  have hbase : ia32FixedCtr0 = 0x309 := rfl
  obtain rfl : k = l := Fin.ext (by omega)
  obtain rfl : t = u := by omega
  rfl

end Places

/-! ## Loaded batches -/

/-- The machine works, and the registers of the counters can be read and written on
    every CPU. -/
structure CountersWork (P : Platform) (h : Host) : Prop where
  works : P.drv.Works P.batchfd h P.cfg.numDevs
  small : 3 * P.cfg.numDevs < 2 ^ 31
  reads : ∀ cpu, cpu < P.cfg.numDevs → ∀ msr ∈ [ia32PerfGlobalCtrl, ia32FixedCtrCtrl],
    h.fails cpu msr = false
  writes : ∀ cpu, cpu < P.cfg.numDevs →
    ∀ msr ∈ [ia32PerfGlobalCtrl, ia32FixedCtrCtrl, ia32FixedCtr0, ia32FixedCtr1, ia32FixedCtr2],
      h.failsWrite cpu msr = false

theorem CountersWork.of_sameDevices {P : Platform} {h h' : Host} (hw : CountersWork P h)
    (hsame : h.SameDevices h') : CountersWork P h' := by
  refine ⟨hw.works.of_sameDevices hsame, hw.small, ?_, ?_⟩
  · rw [hsame.fails]
    exact hw.reads
  · rw [hsame.failsWrite]
    exact hw.writes

section Devices

variable {P : Platform} {h : Host} (hw : CountersWork P h) {i : Nat}
include hw

theorem CountersWork.reads_ctrl (hi : i < P.cfg.numDevs + P.cfg.numDevs) :
    h.fails (ctrlPlace P.cfg.numDevs i).1 (ctrlPlace P.cfg.numDevs i).2 = false := by
  obtain ⟨t, ht, msr, hmsr, heq⟩ := ctrlPlace_eq hi
  rw [heq]
  exact hw.reads _ ((Nat.mod_le t _).trans_lt ht) msr hmsr

theorem CountersWork.writes_ctrl (hi : i < P.cfg.numDevs + P.cfg.numDevs) :
    h.failsWrite (ctrlPlace P.cfg.numDevs i).1 (ctrlPlace P.cfg.numDevs i).2 = false := by
  obtain ⟨t, ht, msr, hmsr, heq⟩ := ctrlPlace_eq hi
  rw [heq]
  exact hw.writes _ ((Nat.mod_le t _).trans_lt ht) msr (List.mem_append_left _ hmsr)

theorem CountersWork.writes_data (hi : i < P.cfg.numDevs + P.cfg.numDevs + P.cfg.numDevs) :
    h.failsWrite (dataPlace P.cfg.numDevs i).1 (dataPlace P.cfg.numDevs i).2 = false := by
  obtain ⟨t, ht, msr, hmsr, heq⟩ := dataPlace_eq hi
  rw [heq]
  exact hw.writes _ ((Nat.mod_le t _).trans_lt ht) msr
    (List.mem_append_right [ia32PerfGlobalCtrl, ia32FixedCtrCtrl] hmsr)

end Devices

/-- `fixed_counter_storage` has run: the batch is loaded with `data`, and the values
    of the structs point into it. -/
structure DataLoaded (P : Platform) (s : CounterState) (id : Nat) (data : Nat → Word) : Prop where
  init : s.init = true
  value : ∀ k : Fin 3, (s.ctr k).value = rowPtrs id (k * P.cfg.numDevs) P.cfg.numDevs
  cells : Cells s.world.st fixedCountersDataBatch id
    (P.cfg.numDevs + P.cfg.numDevs + P.cfg.numDevs) (dataPlace P.cfg.numDevs) data

/-- `fixed_counter_ctrl_storage` has run. -/
structure CtrlLoaded (P : Platform) (s : CounterState) (id : Nat) (data : Nat → Word) : Prop where
  init : s.ctrlInit = true
  ptrs : s.ctrl = ⟨rowPtrs id 0 P.cfg.numDevs, rowPtrs id P.cfg.numDevs P.cfg.numDevs⟩
  cells : Cells s.world.st fixedCountersCtrDataBatch id (P.cfg.numDevs + P.cfg.numDevs)
    (ctrlPlace P.cfg.numDevs) data

/-- The statics of a function: not set yet, or those of `fixed_counter_ctrl_storage`. -/
def StaticsFrom (P : Platform) (s : CounterState) (own : CtrlStatics) : Prop :=
  own.totalThreads = 0 ∨
    s.ctrlInit = true ∧ own.totalThreads = P.cfg.numDevs ∧ own.ptrs = s.ctrl

/-- What every call keeps. -/
structure CounterInv (P : Platform) (s : CounterState) : Prop where
  works : CountersWork P s.world.host
  sized : s.world.st.Sized
  data : s.init = false ∧ s.world.st.entry fixedCountersDataBatch = .empty ∨
    ∃ id data, DataLoaded P s id data
  ctrl : s.ctrlInit = false ∧ s.world.st.entry fixedCountersCtrDataBatch = .empty ∨
    ∃ id data, CtrlLoaded P s id data
  get : StaticsFrom P s s.get
  set : StaticsFrom P s s.set

section Load

variable {P : Platform} {s : CounterState}

theorem batches_ne : fixedCountersCtrDataBatch ≠ fixedCountersDataBatch := by decide

/-- The other batch is not loaded, or loaded as before. -/
theorem ctrl_of_keepsOthers {s' : CounterState} (hI : CounterInv P s)
    (hsized : s'.world.st.Sized)
    (hkeep : KeepsOthers s.world.st fixedCountersDataBatch s'.world.st)
    (hinit : s'.ctrlInit = s.ctrlInit) (hctrl : s'.ctrl = s.ctrl) :
    s'.ctrlInit = false ∧ s'.world.st.entry fixedCountersCtrDataBatch = .empty ∨
      ∃ id data, CtrlLoaded P s' id data := by
  rcases hI.ctrl with ⟨hnot, hempty⟩ | ⟨id, data, hl⟩
  · left
    rw [hinit, hkeep.entry_ne _ batches_ne]
    exact ⟨hnot, hempty⟩
  · right
    exact ⟨id, data, hinit.trans hl.init, hctrl.trans hl.ptrs,
      hl.cells.of_keepsOthers batches_ne hsized hkeep⟩

theorem data_of_keepsOthers {s' : CounterState} (hI : CounterInv P s)
    (hsized : s'.world.st.Sized)
    (hkeep : KeepsOthers s.world.st fixedCountersCtrDataBatch s'.world.st)
    (hinit : s'.init = s.init) (hctr : s'.ctr = s.ctr) :
    s'.init = false ∧ s'.world.st.entry fixedCountersDataBatch = .empty ∨
      ∃ id data, DataLoaded P s' id data := by
  rcases hI.data with ⟨hnot, hempty⟩ | ⟨id, data, hl⟩
  · left
    rw [hinit, hkeep.entry_ne _ batches_ne.symm]
    exact ⟨hnot, hempty⟩
  · right
    refine ⟨id, data, hinit.trans hl.init, ?_,
      hl.cells.of_keepsOthers batches_ne.symm hsized hkeep⟩
    rw [hctr]
    exact hl.value

/-- `fixed_counter_storage`: the first call loads the data batch. -/
theorem fixedCounterStorage_spec (hI : CounterInv P s) :
    ∃ s', fixedCounterStorage P s = some s' ∧ CounterInv P s' ∧
      (∃ id data, DataLoaded P s' id data) ∧ s'.world.host = s.world.host := by
  rcases hI.data with ⟨hnot, hempty⟩ | hloaded
  · -- one allocation, then one row of ops for each counter
    have hsmall := hI.works.small
    obtain ⟨st₁, hst₁, hfresh₁, hkeep₁⟩ :=
      allocateBatch_fresh hI.sized hempty (n := 3 * P.cfg.numDevs) hsmall
    obtain ⟨st₂, hst₂, hfresh₂, hkeep₂⟩ :=
      hfresh₁.loadThreadBatch P.cfg ia32FixedCtr0 (by simp; omega)
    obtain ⟨st₃, hst₃, hfresh₃, hkeep₃⟩ :=
      hfresh₂.loadThreadBatch P.cfg ia32FixedCtr1 (by simp; omega)
    obtain ⟨st₄, hst₄, hfresh₄, hkeep₄⟩ :=
      hfresh₃.loadThreadBatch P.cfg ia32FixedCtr2 (by simp; omega)
    have hkeep := ((hkeep₁.trans hkeep₂).trans hkeep₃).trans hkeep₄
    rw [List.nil_append, map_range_append, map_range_append] at hfresh₄
    simp only [List.nil_append, List.length_append, List.length_map, List.length_range,
      List.length_nil] at hst₂ hst₃ hst₄
    let s' : CounterState := { s with
      world := { s.world with st := st₄ }
      ctr := ![{ s.ctr 0 with value := rowPtrs s.world.st.nextId 0 P.cfg.numDevs },
        { s.ctr 1 with value := rowPtrs s.world.st.nextId P.cfg.numDevs P.cfg.numDevs },
        { s.ctr 2 with
          value := rowPtrs s.world.st.nextId (P.cfg.numDevs + P.cfg.numDevs) P.cfg.numDevs }]
      init := true }
    have hloaded : DataLoaded P s' s.world.st.nextId fun _ => 0 := by
      refine ⟨rfl, fun k => ?_, hfresh₄.cells⟩
      fin_cases k
      · simp [s']
      · simp [s']
      · simp [s', Nat.two_mul]
    refine ⟨s', ?_, ⟨hI.works, hfresh₄.sized, Or.inr ⟨_, _, hloaded⟩,
      ctrl_of_keepsOthers hI hfresh₄.sized hkeep rfl rfl, hI.get, hI.set⟩, ⟨_, _, hloaded⟩, rfl⟩
    simp only [fixedCounterStorage, hnot, Bool.false_eq_true, if_false, hst₁, hst₂, hst₃, hst₄,
      Option.bind_eq_bind, Option.bind_some, Option.getD_some]
    rfl
  · refine ⟨s, ?_, hI, hloaded, rfl⟩
    obtain ⟨id, data, hl⟩ := hloaded
    rw [fixedCounterStorage, if_pos hl.init]

/-- `fixed_counter_ctrl_storage`: the first call loads the control batch. -/
theorem fixedCounterCtrlStorage_spec (hI : CounterInv P s) :
    ∃ s', fixedCounterCtrlStorage P s = some s' ∧ CounterInv P s' ∧
      (∃ id data, CtrlLoaded P s' id data) ∧ s'.world.host = s.world.host ∧ s'.ctr = s.ctr ∧
      s'.init = s.init := by
  rcases hI.ctrl with ⟨hnot, hempty⟩ | hloaded
  · have hsmall := hI.works.small
    obtain ⟨st₁, hst₁, hfresh₁, hkeep₁⟩ :=
      allocateBatch_fresh hI.sized hempty (n := 2 * P.cfg.numDevs) (by omega)
    obtain ⟨st₂, hst₂, hfresh₂, hkeep₂⟩ :=
      hfresh₁.loadThreadBatch P.cfg ia32PerfGlobalCtrl (by simp; omega)
    obtain ⟨st₃, hst₃, hfresh₃, hkeep₃⟩ :=
      hfresh₂.loadThreadBatch P.cfg ia32FixedCtrCtrl (by simp; omega)
    have hkeep := (hkeep₁.trans hkeep₂).trans hkeep₃
    rw [List.nil_append, map_range_append] at hfresh₃
    simp only [List.nil_append, List.length_map, List.length_range, List.length_nil] at hst₂ hst₃
    let s' : CounterState := { s with
      world := { s.world with st := st₃ }
      ctrl := ⟨rowPtrs s.world.st.nextId 0 P.cfg.numDevs,
        rowPtrs s.world.st.nextId P.cfg.numDevs P.cfg.numDevs⟩
      ctrlInit := true }
    have hloaded : CtrlLoaded P s' s.world.st.nextId fun _ => 0 := ⟨rfl, rfl, hfresh₃.cells⟩
    -- nothing was loaded, so the statics of both callers are still 0
    have hunset : ∀ own, StaticsFrom P s own → StaticsFrom P s' own := by
      rintro own (hzero | ⟨hset, -⟩)
      · exact Or.inl hzero
      · rw [hnot] at hset
        contradiction
    refine ⟨s', ?_, ⟨hI.works, hfresh₃.sized,
      data_of_keepsOthers hI hfresh₃.sized hkeep rfl rfl, Or.inr ⟨_, _, hloaded⟩,
      hunset _ hI.get, hunset _ hI.set⟩, ⟨_, _, hloaded⟩, rfl, rfl, rfl⟩
    simp only [fixedCounterCtrlStorage, hnot, Bool.false_eq_true, if_false, hst₁, hst₂, hst₃,
      Option.bind_eq_bind, Option.bind_some, Option.getD_some]
    rfl
  · refine ⟨s, ?_, hI, hloaded, rfl, rfl, rfl⟩
    obtain ⟨id, data, hl⟩ := hloaded
    rw [fixedCounterCtrlStorage, if_pos hl.init]

end Load

end Libmsr
