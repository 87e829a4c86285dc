/-
  Libmsr.Counters.PmcRuns

  Every program that uses the general-purpose counters sees what it would see of
  `PmcMachine`.

  - `EvtReady`, `DataReady`: the two batches before and after their first use.
  - `Follows`: the state of the functions and that of the machine.
  - `pmcCalls_refine`: the outputs are the same, and so are the registers.
-/
import Libmsr.Counters.PmcClear
import Libmsr.Counters.PmcMachine

namespace Libmsr

/-- There are one to eight counters, and the number of a processor fits in an op. -/
structure PmcPlatform (P : Platform) (rax : Word) : Prop where
  pos : 1 ≤ cpuidNumPmc rax
  le : cpuidNumPmc rax ≤ 8
  cpus : 0 < P.cfg.numDevs
  small : P.cfg.numDevs ≤ 2 ^ 16

/-- The driver works, and the registers of the counters can be read and written. -/
structure PmcWorks (P : Platform) (rax : Word) (h : Host) : Prop where
  works : P.drv.Works P.batchfd h P.cfg.numDevs
  reads : ∀ k t, k < cpuidNumPmc rax → t < P.cfg.numDevs → h.fails t (ia32Pmc0 + k) = false
  writes : ∀ k t, k < cpuidNumPmc rax → t < P.cfg.numDevs →
    ∀ msr0 ∈ [ia32Perfevtsel0, ia32Pmc0], h.failsWrite t (msr0 + k) = false

theorem PmcWorks.of_sameDevices {P : Platform} {rax : Word} {h h' : Host} (hw : PmcWorks P rax h)
    (hsame : h.SameDevices h') : PmcWorks P rax h' := by
  refine ⟨hw.works.of_sameDevices hsame, ?_, ?_⟩
  · rw [hsame.fails]
    exact hw.reads
  · rw [hsame.failsWrite]
    exact hw.writes

section Machine

variable {P : Platform} {rax : Word}

theorem PmcPlatform.cells_lt (hP : PmcPlatform P rax) :
    cpuidNumPmc rax * P.cfg.numDevs < 2 ^ 31 :=
  (Nat.mul_le_mul hP.le hP.small).trans_lt (by decide)

/-- The registers of both batches. -/
theorem PmcPlatform.consecutive (hP : PmcPlatform P rax) {msr0 : Nat} (hmsr : msr0 + 8 ≤ 2 ^ 32) :
    (pmcLayout P.cfg (cpuidNumPmc rax) msr0).Consecutive msr0 := by
  refine ⟨fun _ _ => rfl, ?_, fun t ht => ht.trans_le hP.small, fun t t' _ _ heq => heq⟩
  have hle := hP.le
  show msr0 + cpuidNumPmc rax ≤ 2 ^ 32
  omega

/-! ## The two batches -/

/-- The event selects were not used yet, and no event is selected; or their batch holds
    the selected events. -/
def EvtReady (P : Platform) (rax : Word) (s : PmcState) (events : Nat → Nat → Word) : Prop :=
  s.evtInit = false ∧ s.world.st.entry countersCtrlBatch = .empty ∧ (∀ k, s.evt k = none) ∧
      (∀ k t, events k t = 0) ∨
    ∃ id, EvtLoaded P rax s id events

/-- The counters were not used yet, or their batch is loaded, with whatever was read last. -/
def DataReady (P : Platform) (rax : Word) (s : PmcState) : Prop :=
  s.pmcInit = false ∧ s.world.st.entry countersDataBatch = .empty ∧ (∀ k, s.pmc k = none) ∨
    ∃ id data, PmcLoaded P rax s id data

/-- The functions are where the machine is. -/
structure Follows (P : Platform) (rax : Word) (s : PmcState) (m : PmcMachine) : Prop where
  sized : s.world.st.Sized
  works : PmcWorks P rax s.world.host
  regs : s.world.host.regs = m.regs
  evt : EvtReady P rax s m.events
  data : DataReady P rax s

variable {s s' : PmcState} {m : PmcMachine} {events : Nat → Nat → Word}

/-- What works on the other batch leaves the selected events. -/
theorem EvtReady.frame (h : EvtReady P rax s events) (hinit : s'.evtInit = s.evtInit)
    (hevt : s'.evt = s.evt) (hs : s'.world.st.Sized)
    (hkeep : KeepsOthers s.world.st countersDataBatch s'.world.st) :
    EvtReady P rax s' events := by
  rcases h with ⟨hinit₀, hempty, harrays, hzero⟩ | ⟨id, hl⟩
  · exact .inl ⟨hinit.trans hinit₀, (hkeep.entry_ne _ data_ne_ctrl.symm).trans hempty,
      hevt ▸ harrays, hzero⟩
  · exact .inr ⟨id, hinit.trans hl.init,
      hevt ▸ hl.table.of_keepsOthers data_ne_ctrl.symm hs hkeep, hevt ▸ hl.null⟩

/-- What works on the event selects leaves the counters. -/
theorem DataReady.frame (h : DataReady P rax s) (hinit : s'.pmcInit = s.pmcInit)
    (hpmc : s'.pmc = s.pmc) (hs : s'.world.st.Sized)
    (hkeep : KeepsOthers s.world.st countersCtrlBatch s'.world.st) : DataReady P rax s' := by
  rcases h with ⟨hinit₀, hempty, harrays⟩ | ⟨id, data, hl⟩
  · exact .inl ⟨hinit.trans hinit₀, (hkeep.entry_ne _ data_ne_ctrl).trans hempty,
      hpmc ▸ harrays⟩
  · exact .inr ⟨id, data, hinit.trans hl.init,
      hpmc ▸ hl.table.of_keepsOthers data_ne_ctrl hs hkeep, hpmc ▸ hl.null⟩

/-- `perfevtsel_storage` loads the event selects, if it is the first call. -/
theorem Follows.perfevtselStorage (hP : PmcPlatform P rax) (h : Follows P rax s m) :
    ∃ s₁ id, perfevtselStorage P rax s = some s₁ ∧ EvtLoaded P rax s₁ id m.events ∧
      Follows P rax s₁ m := by
  rcases h.evt with ⟨hinit, hempty, hevt, hzero⟩ | ⟨id, hl⟩
  · obtain ⟨s₁, hs₁, hl, hsized, hhost, hpmc, hpmcInit, hkeep⟩ :=
      perfevtselStorage_spec hP.pos hP.le hP.cells_lt h.sized hinit hempty hevt
    have hl' : EvtLoaded P rax s₁ s.world.st.nextId m.events :=
      hl.congr fun k t _ _ => hzero k t
    exact ⟨s₁, _, hs₁, hl', hsized, hhost ▸ h.works, hhost ▸ h.regs, .inr ⟨_, hl'⟩,
      h.data.frame hpmcInit hpmc hsized hkeep⟩
  · exact ⟨s, id, hl.storage, hl, h⟩

/-- `pmc_storage` loads the counters, if it is the first call. -/
theorem Follows.pmcStorage (hP : PmcPlatform P rax) (h : Follows P rax s m) :
    ∃ s₁ id data, pmcStorage P rax s = some s₁ ∧ PmcLoaded P rax s₁ id data ∧
      Follows P rax s₁ m := by
  rcases h.data with ⟨hinit, hempty, hpmc⟩ | ⟨id, data, hl⟩
  · obtain ⟨s₁, hs₁, hl, hsized, hhost, hevt, hevtInit, hkeep⟩ :=
      pmcStorage_spec hP.pos hP.le hP.cells_lt h.sized hinit hempty hpmc
    exact ⟨s₁, _, _, hs₁, hl, hsized, hhost ▸ h.works, hhost ▸ h.regs,
      h.evt.frame hevtInit hevt hsized hkeep, .inr ⟨_, _, hl⟩⟩
  · exact ⟨s, id, data, pmcStorage_init hl.init, hl, h⟩

/-! ## Selecting events -/

/-- Behind its pointers an array has none. -/
theorem ptrAt_rowPtrs_ge {id k count i : Nat} (hi : count ≤ i) :
    ptrAt (rowPtrs id k count) i = none := by
  have hlen : (rowPtrs id k count).length ≤ i := by
    rw [rowPtrs, List.length_map, List.length_range]
    exact hi
  rw [ptrAt, List.getElem?_eq_none hlen]
  rfl

/-- A thread that is not there has no slot. -/
theorem RegTable.storeAt_none {L : TableLayout} {arrays : RegArrays} {b id : Nat}
    {data : Nat → Nat → Word} {w : BatchWorld} (h : RegTable L arrays w.st b id data) {k t : Nat}
    (hk : k < L.count) (ht : L.objects ≤ t) (x : Word) : w.storeAt b arrays x k t = none := by
  rw [BatchWorld.storeAt, h.array k hk, Option.bind_eq_bind, Option.bind_some, BatchWorld.modify,
    ptrAt_rowPtrs_ge ht]
  rfl

theorem perfevtselStorage_pmcInit (hcall : Libmsr.perfevtselStorage P rax s = some s') :
    s'.pmcInit = s.pmcInit := by
  rw [Libmsr.perfevtselStorage] at hcall
  split at hcall
  · obtain rfl := Option.some.inj hcall
    rfl
  · simp only [Option.bind_eq_bind, Option.bind_eq_some_iff] at hcall
    obtain ⟨_, -, hs'⟩ := hcall
    obtain rfl := Option.some.inj hs'
    rfl

theorem setPmcCtrlFlags_pmcInit {cmask flags umask eventsel : Word} {pmcnum : Int} {thread : Nat}
    (hcall : setPmcCtrlFlags P rax cmask flags umask eventsel pmcnum s thread = some s') :
    s'.pmcInit = s.pmcInit := by
  simp only [setPmcCtrlFlags, Option.bind_eq_bind, Option.bind_eq_some_iff] at hcall
  obtain ⟨s₁, hs₁, hcall⟩ := hcall
  have hinit := perfevtselStorage_pmcInit hs₁
  split at hcall
  · obtain ⟨w, -, hs'⟩ := Option.bind_eq_some_iff.mp hcall
    obtain rfl := Option.some.inj hs'
    exact hinit
  · obtain rfl := Option.some.inj hcall
    exact hinit

/-- Selecting an event does not load the counters. -/
theorem pmcCtrlStep_pmcInit {c : PmcCtrlCall} (hcall : pmcCtrlStep P rax s c = some s') :
    s'.pmcInit = s.pmcInit := by
  cases c with
  | one cmask flags umask eventsel pmcnum thread => exact setPmcCtrlFlags_pmcInit hcall
  | all cmask flags umask eventsel pmcnum =>
    refine Loops.foldlM_keeps (I := fun t : PmcState => t.pmcInit = s.pmcInit) ?_ rfl hcall
    intro t i t' ht hstep
    exact (setPmcCtrlFlags_pmcInit hstep).trans ht

/-- The storage function can be called before. -/
theorem pmcCtrlStep_storage (hP : PmcPlatform P rax) {s₁ : PmcState}
    (hs₁ : Libmsr.perfevtselStorage P rax s = some s₁)
    (hagain : Libmsr.perfevtselStorage P rax s₁ = some s₁) (c : PmcCtrlCall) :
    pmcCtrlStep P rax s c = pmcCtrlStep P rax s₁ c := by
  have hone : ∀ cmask flags umask eventsel pmcnum thread,
      setPmcCtrlFlags P rax cmask flags umask eventsel pmcnum s thread =
        setPmcCtrlFlags P rax cmask flags umask eventsel pmcnum s₁ thread := by
    intro cmask flags umask eventsel pmcnum thread
    rw [setPmcCtrlFlags, setPmcCtrlFlags, hs₁, hagain]
  cases c with
  | one cmask flags umask eventsel pmcnum thread => exact hone ..
  | all cmask flags umask eventsel pmcnum =>
    -- the first of the calls is the one that loads
    obtain ⟨n, hn⟩ : ∃ n, P.cfg.numDevs = n + 1 := Nat.exists_eq_add_one.mpr hP.cpus
    show setAllPmcCtrl P rax _ _ _ _ _ s = setAllPmcCtrl P rax _ _ _ _ _ s₁
    rw [setAllPmcCtrl, setAllPmcCtrl, hn, List.range_succ_eq_map, List.foldlM_cons,
      List.foldlM_cons, hone]

/-- A call that changes event selects only. -/
theorem Follows.of_events {m' : PmcMachine} {id : Nat} (h : Follows P rax s m)
    (hl : EvtLoaded P rax s' id m'.events) (hregs : m'.regs = m.regs) (hkeep : KeepsArrays s s')
    (hinit : s'.pmcInit = s.pmcInit) : Follows P rax s' m' :=
  ⟨hl.table.cells.sized, hkeep.host ▸ h.works, (congrArg Host.regs hkeep.host).trans
      (h.regs.trans hregs.symm), .inr ⟨id, hl⟩,
    h.data.frame hinit hkeep.pmc hl.table.cells.sized hkeep.batches⟩

/-- The event of a counter that is there. -/
theorem EvtLoaded.select {id : Nat} (hl : EvtLoaded P rax s id events) (hle : cpuidNumPmc rax ≤ 8)
    {c : PmcCtrlCall} {k : Nat} (hk : c.pmcnum = k + 1) (hkc : k < cpuidNumPmc rax)
    (hvalid : c.Valid P.cfg.numDevs) :
    ∃ s', pmcCtrlStep P rax s c = some s' ∧ EvtLoaded P rax s' id (fun k t =>
      if c.pmcnum = k + 1 ∧ c.Thread t then c.word else events k t) ∧ KeepsArrays s s' := by
  have hkey : ∀ k' : Nat, c.pmcnum = k' + 1 ↔ k' = k := fun k' => by omega
  cases c with
  | one cmask flags umask eventsel pmcnum thread =>
    obtain rfl : pmcnum = (k : Int) + 1 := hk
    obtain ⟨s', hs', hl', hkeep⟩ :=
      setPmcCtrlFlags_counter hl hkc (by omega) hvalid cmask flags umask eventsel
    refine ⟨s', hs', hl'.congr fun k' t _ _ => ?_, hkeep⟩
    rw [setCell]
    refine if_congr ?_ rfl rfl
    rw [hkey k', Prod.mk.injEq]
    exact and_congr_right fun _ => eq_comm
  | all cmask flags umask eventsel pmcnum =>
    obtain rfl : pmcnum = (k : Int) + 1 := hk
    obtain ⟨s', hs', hl', hkeep⟩ :=
      setAllPmcCtrl_counter hl hkc (by omega) cmask flags umask eventsel
    refine ⟨s', hs', hl'.congr fun k' t _ ht => ?_, hkeep⟩
    refine if_congr ?_ rfl rfl
    rw [hkey k']
    exact and_congr_right fun _ => iff_of_true trivial ht

/-- A thread that is not there: only a single call can name one. -/
theorem EvtLoaded.select_none {id : Nat} (hl : EvtLoaded P rax s id events)
    (hle : cpuidNumPmc rax ≤ 8) {c : PmcCtrlCall} {k : Nat} (hk : c.pmcnum = k + 1)
    (hkc : k < cpuidNumPmc rax) (hvalid : ¬ c.Valid P.cfg.numDevs) :
    pmcCtrlStep P rax s c = none := by
  cases c with
  | one cmask flags umask eventsel pmcnum thread =>
    obtain rfl : pmcnum = (k : Int) + 1 := hk
    have hnum : ((k : Int) + 1).toNat - 1 = k := by omega
    rw [pmcCtrlStep, setPmcCtrlFlags, hl.storage, Option.bind_eq_bind, Option.bind_some,
      if_pos (by omega), hnum, hl.table.storeAt_none hkc (Nat.not_lt.mp hvalid)]
    rfl
  | all cmask flags umask eventsel pmcnum => exact absurd trivial hvalid

/-- The switch has no case. -/
theorem EvtLoaded.select_noCase {id : Nat} (hl : EvtLoaded P rax s id events) {c : PmcCtrlCall}
    (hout : c.pmcnum < 1 ∨ 8 < c.pmcnum) : pmcCtrlStep P rax s c = some s := by
  cases c with
  | one cmask flags umask eventsel pmcnum thread =>
    exact setPmcCtrlFlags_noCase hl hout cmask flags umask eventsel thread
  | all cmask flags umask eventsel pmcnum =>
    exact setAllPmcCtrl_noCase hl hout cmask flags umask eventsel

/-- **Selecting an event.** -/
theorem Follows.select (hP : PmcPlatform P rax) (h : Follows P rax s m) (c : PmcCtrlCall) :
    Option.Rel (Follows P rax) (pmcCtrlStep P rax s c)
      (m.select P.cfg.numDevs (cpuidNumPmc rax) c) := by
  obtain ⟨s₁, id, hs₁, hl, h₁⟩ := h.perfevtselStorage hP
  rw [pmcCtrlStep_storage hP hs₁ hl.storage, PmcMachine.select]
  by_cases hout : c.pmcnum < 1 ∨ 8 < c.pmcnum
  · rw [if_pos hout, hl.select_noCase hout]
    exact .some h₁
  · rw [if_neg hout]
    by_cases hnum : c.pmcnum ≤ cpuidNumPmc rax
    · obtain ⟨k, hk⟩ : ∃ k : Nat, c.pmcnum = k + 1 := ⟨c.pmcnum.toNat - 1, by omega⟩
      have hkc : k < cpuidNumPmc rax := by omega
      by_cases hvalid : c.Valid P.cfg.numDevs
      · obtain ⟨s', hs', hl', hkeep⟩ := hl.select hP.le hk hkc hvalid
        rw [if_pos ⟨hnum, hvalid⟩, hs']
        exact .some (h₁.of_events hl' rfl hkeep (pmcCtrlStep_pmcInit hs'))
      · rw [if_neg fun hboth => hvalid hboth.2, hl.select_none hP.le hk hkc hvalid]
        exact .none
    · have hfits : ¬ c.Fits (cpuidNumPmc rax) := by
        rintro (hlt | hgt | hle)
        · exact hout (.inl hlt)
        · exact hout (.inr hgt)
        · exact hnum hle
      rw [if_neg fun hboth => hnum hboth.1, hl.step_null hP.cpus hfits]
      exact .none

/-! ## Enabling and clearing -/

/-- **Clearing all counters.** -/
theorem Follows.clearAllPmc (hP : PmcPlatform P rax) (h : Follows P rax s m) :
    ∃ s', clearAllPmc P rax s = some s' ∧
      Follows P rax s' (m.cleared P.cfg.numDevs (cpuidNumPmc rax)) := by
  obtain ⟨s₁, id, data, hs₁, hl, h₁⟩ := h.pmcStorage hP
  have hks : ∀ k ∈ fallThrough (cpuidNumPmc rax), k < cpuidNumPmc rax :=
    fun k hk => (mem_fallThrough hP.le).mp hk
  obtain ⟨w₁, hw₁, htable₁, hhost₁, hkeep₁⟩ := hl.table.storeColumns hks 0
  have hzero : RegTable (pmcLayout P.cfg (cpuidNumPmc rax) ia32Pmc0) s₁.pmc w₁.st
      countersDataBatch id fun _ _ => 0 :=
    htable₁.congr fun k t hk ht => by rw [if_pos ⟨ht, (mem_fallThrough hP.le).mpr hk⟩]
  have hworks₁ : PmcWorks P rax w₁.host := hhost₁.symm ▸ h₁.works
  obtain ⟨w₂, hw₂, htable₂, hregs₂, hcall₂⟩ := RegTable.write (hP.consecutive (by decide)) hzero
    hworks₁.works fun k t hk ht => hworks₁.writes k t hk ht ia32Pmc0 (by decide)
  have hloop : clearAllLoop P rax s₁ = some w₁ := hw₁
  refine ⟨{ s₁ with world := w₂ }, ?_, hcall₂.sized, hworks₁.of_sameDevices hcall₂.same, ?_,
    h₁.evt.frame rfl rfl hcall₂.sized (hkeep₁.trans hcall₂.keeps),
    .inr ⟨id, _, hl.init, htable₂, hl.null⟩⟩
  · simp only [Libmsr.clearAllPmc, hs₁, hloop, hw₂, Option.bind_eq_bind, Option.bind_some]
  · rw [PmcMachine.cleared, ← h₁.regs, ← hhost₁]
    exact hregs₂

/-- **Enabling.**  The selected events are written before the counters are cleared. -/
theorem Follows.enablePmc (hP : PmcPlatform P rax) (h : Follows P rax s m) :
    ∃ s', enablePmc P rax s = some (0, s') ∧
      Follows P rax s' (m.enabled P.cfg.numDevs (cpuidNumPmc rax)) := by
  obtain ⟨s₁, id, hs₁, hl, h₁⟩ := h.perfevtselStorage hP
  obtain ⟨w₂, hw₂, htable₂, hregs₂, hcall₂⟩ :=
    RegTable.write (hP.consecutive (by decide)) hl.table h₁.works.works fun k t hk ht =>
      h₁.works.writes k t hk ht ia32Perfevtsel0 (by decide)
  rw [h₁.regs] at hregs₂
  have h₂ : Follows P rax { s₁ with world := w₂ } { m with
      regs := withTable P.cfg.numDevs (cpuidNumPmc rax) ia32Perfevtsel0 (fun t => t) m.events
        m.regs } :=
    ⟨hcall₂.sized, h₁.works.of_sameDevices hcall₂.same, hregs₂,
      .inr ⟨id, hl.init, htable₂, hl.null⟩, h₁.data.frame rfl rfl hcall₂.sized hcall₂.keeps⟩
  obtain ⟨s', hs', h'⟩ := h₂.clearAllPmc hP
  refine ⟨s', ?_, h'⟩
  have hsome : ¬ cpuidNumPmc rax = 0 := by
    have hpos := hP.pos
    omega
  rw [Libmsr.enablePmc, if_neg hsome, hs₁, Option.bind_eq_bind, Option.bind_some, hw₂,
    Option.bind_eq_bind, Option.bind_some, hs']
  rfl

/-- **Clearing one processor** has no effect but its return code: what it stores in the
    batch is overwritten by the next call that reads or writes it. -/
theorem Follows.clearPmc (hP : PmcPlatform P rax) (h : Follows P rax s m) (idx : Int) :
    Runs.SameOutcome (Follows P rax) (pmcCall P rax s (.clear idx))
      (m.call P.cfg.numDevs (cpuidNumPmc rax) (.clear idx)) := by
  obtain ⟨s₁, id, data, hs₁, hl, h₁⟩ := h.pmcStorage hP
  have hsame : Libmsr.clearPmc P rax s idx = Libmsr.clearPmc P rax s₁ idx := by
    rw [Libmsr.clearPmc, Libmsr.clearPmc, hs₁, pmcStorage_init hl.init]
  have hle := hP.le
  rw [pmcCall, PmcMachine.call, hsame]
  by_cases hge : (cpuidNumPmc rax : Int) ≤ idx
  · rw [if_pos hge, clearPmc_ge hl.init hge]
    exact .some ⟨rfl, h₁⟩
  · rw [if_neg hge, clearPmc_lt hl.init (Int.not_le.mp hge)]
    by_cases hone : idx < 1
    · -- the switch has no case
      rw [if_neg (by omega), clearCounters_nil (fallThrough_of_lt hone)]
      exact .some ⟨rfl, h₁⟩
    · obtain ⟨j, rfl⟩ : ∃ j : Nat, idx = j := ⟨idx.toNat, by omega⟩
      rw [Int.toNat_natCast]
      by_cases hcpu : P.cfg.numDevs ≤ j
      · have hnull : ∀ val, s₁.pmc (j - 1) = some val → ptrAt val j = none := by
          intro val hval
          have hk : j - 1 < cpuidNumPmc rax := by omega
          obtain rfl := Option.some.inj (hval.symm.trans (hl.table.array _ hk))
          exact ptrAt_rowPtrs_ge hcpu
        rw [if_pos (by omega), clearCounters_none s₁.pmc s₁.world (by omega) (by omega) hnull]
        exact .none
      · have hks : ∀ k ∈ fallThrough (j : Int), k < cpuidNumPmc rax := fun k hk =>
          ((mem_fallThrough (by omega)).mp hk).trans (by omega)
        obtain ⟨w', hw', htable', hhost', hkeep'⟩ := hl.table.storeColumn hks (Nat.not_le.mp hcpu) 0
        have hclear : clearCounters s₁.pmc j s₁.world j = some w' := hw'
        rw [if_neg (by omega), hclear]
        exact .some ⟨rfl, htable'.cells.sized, hhost'.symm ▸ h₁.works,
          (congrArg Host.regs hhost').trans h₁.regs,
          h₁.evt.frame rfl rfl htable'.cells.sized hkeep', .inr ⟨id, _, hl.init, htable', hl.null⟩⟩

/-! ## Dumps -/

/-- **A dump** prints what the counters hold. -/
theorem Follows.dump (hP : PmcPlatform P rax) (h : Follows P rax s m) :
    ∃ s', dumpPmcDataReadable P rax s =
        some (m.lines P.cfg.numDevs (cpuidNumPmc rax), s') ∧ Follows P rax s' m := by
  obtain ⟨s₁, id, data, hs₁, hl, h₁⟩ := h.pmcStorage hP
  have hL : (pmcLayout P.cfg (cpuidNumPmc rax) ia32Pmc0).Consecutive ia32Pmc0 :=
    hP.consecutive (by decide)
  obtain ⟨w₂, hw₂, htable₂, hregs₂, hworks₂⟩ := hl.table.readBatch h₁.works.works (by
    intro k t hk ht
    rw [hL.opPlace hk ht]
    exact h₁.works.reads k t hk ht)
  have hvalue : ∀ k t, k < cpuidNumPmc rax → t < P.cfg.numDevs →
      w₂.loadAt countersDataBatch s₁.pmc k t = some (m.regs t (ia32Pmc0 + k)) := by
    intro k t hk ht
    rw [htable₂.loadAt hk ht, tableRegs, hL.opPlace hk ht, RegFile.at, h₁.regs]
    rfl
  have hlines : (List.range P.cfg.numDevs).mapM (fun i =>
      (fallThrough (cpuidNumPmc rax)).mapM fun k =>
        (w₂.loadAt countersDataBatch s₁.pmc k i).map fun x => (k, x)) =
          some (m.lines P.cfg.numDevs (cpuidNumPmc rax)) := by
    refine Loops.mapM_some fun t ht => Loops.mapM_some fun k hk => ?_
    rw [hvalue k t ((mem_fallThrough hP.le).mp hk) (List.mem_range.mp ht), Option.map_some]
  refine ⟨{ s₁ with world := w₂ }, ?_, hworks₂.sized, h₁.works.of_sameDevices hworks₂.same,
    hregs₂.trans h₁.regs, h₁.evt.frame rfl rfl hworks₂.sized hworks₂.keeps,
    .inr ⟨id, _, hl.init, htable₂, hl.null⟩⟩
  simp only [dumpPmcDataReadable, hs₁, hw₂, hlines, Option.bind_eq_bind, Option.bind_some]

/-! ## Programs -/

/-- **Step lemma**, one case for each call. -/
theorem Follows.step (hP : PmcPlatform P rax) (h : Follows P rax s m) (call : PmcCall) :
    Runs.SameOutcome (Follows P rax) (pmcCall P rax s call)
      (m.call P.cfg.numDevs (cpuidNumPmc rax) call) := by
  cases call with
  | control c =>
    rw [pmcCall, PmcMachine.call]
    have hrel := h.select hP c
    revert hrel
    generalize pmcCtrlStep P rax s c = a, m.select P.cfg.numDevs (cpuidNumPmc rax) c = b
    intro hrel
    cases hrel with
    | none => exact .none
    | some h' => exact .some ⟨rfl, h'⟩
  | enable =>
    obtain ⟨s', hs', h'⟩ := h.enablePmc hP
    rw [pmcCall, PmcMachine.call, hs']
    exact .some ⟨rfl, h'⟩
  | clearAll =>
    obtain ⟨s', hs', h'⟩ := h.clearAllPmc hP
    rw [pmcCall, PmcMachine.call, hs']
    exact .some ⟨rfl, h'⟩
  | clear idx => exact h.clearPmc hP idx
  | dump =>
    obtain ⟨s', hs', h'⟩ := h.dump hP
    rw [pmcCall, PmcMachine.call, hs']
    exact .some ⟨rfl, h'⟩
  | machine regs =>
    exact .some ⟨rfl, h.sized, h.works.of_sameDevices ⟨rfl, rfl, rfl, rfl⟩, rfl,
      h.evt.frame rfl rfl h.sized (.refl _ _), h.data.frame rfl rfl h.sized (.refl _ _)⟩

/-- Before any call. -/
theorem PmcStart.follows (hstart : PmcStart s) (hworks : PmcWorks P rax s.world.host) :
    Follows P rax s (.start s.world.host.regs) :=
  ⟨hstart.sized, hworks, rfl, .inl ⟨hstart.evtInit, hstart.ctrl, hstart.evt, fun _ _ => rfl⟩,
    .inl ⟨hstart.pmcInit, hstart.data, hstart.pmc⟩⟩

end Machine

/-- **Programs that count.**  Whatever calls a program makes, in any order and with the
    registers changing by themselves in between: it goes through exactly where the machine
    does, sees the same, and leaves the same registers. -/
theorem pmcCalls_refine {P : Platform} {rax : Word} (hP : PmcPlatform P rax) {s : PmcState}
    (hstart : PmcStart s) (hworks : PmcWorks P rax s.world.host) (calls : List PmcCall) :
    (Runs.outputs (pmcCall P rax) s calls).map (fun r => (r.1, r.2.world.host.regs)) =
      (Runs.outputs (PmcMachine.call P.cfg.numDevs (cpuidNumPmc rax)) (.start s.world.host.regs)
        calls).map fun r => (r.1, r.2.regs) := by
  have hsame : Runs.SameOutcome (Follows P rax) (Runs.outputs (pmcCall P rax) s calls)
      (Runs.outputs (PmcMachine.call P.cfg.numDevs (cpuidNumPmc rax))
        (.start s.world.host.regs) calls) :=
    Runs.outputs_sameOutcome (P := fun _ => True) (fun _ _ call h _ => Follows.step hP h call)
      (hstart.follows hworks) fun _ _ => trivial
  revert hsame
  generalize Runs.outputs (pmcCall P rax) s calls = a,
    Runs.outputs (PmcMachine.call P.cfg.numDevs (cpuidNumPmc rax)) _ calls = b
  intro hsame
  cases hsame with
  | none => rfl
  | some h => rw [Option.map_some, Option.map_some, h.1, h.2.regs]

theorem twoSockets_pmcWorks : PmcWorks twoSockets 0x400 (.opened 2) := by
  refine ⟨inOrder_works (n := 2) (by decide) 3 (Host.opened 2).regs, ?_, ?_⟩
  · intro k t _ ht
    exact decide_eq_false (Nat.not_le.mpr ht)
  · intro k t _ ht _ _
    exact decide_eq_false (Nat.not_le.mpr ht)

/-- Four counters on two CPUs: an event is selected and enabled, all counters come to
    hold 7, and clearing one processor does not show. -/
theorem twoSockets_pmc : (Runs.outputs (pmcCall twoSockets 0x400) (pmcStart (.opened 2))
      [.control (.all 0 0x43 0 0xC0 1), .enable, .machine fun _ _ => 7, .clear 1, .dump]).map
        (fun r => (r.1, r.2.world.host.regs)) =
    some ([.done, .rc 0, .done, .rc 0, .lines (List.replicate 2 [(3, 7), (2, 7), (1, 7), (0, 7)])],
      fun _ _ => 7) := by
  rw [pmcCalls_refine ⟨by decide, by decide, by decide, by decide⟩ (pmcStart_fresh (.opened 2))
    twoSockets_pmcWorks]
  rfl

end Libmsr
