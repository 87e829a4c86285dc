/-
  Libmsr.Counters.PcuPrograms

  Every program that uses the uncore counters sees what it would see of `PcuMachine`.

  - `UncHolds`: one of the two batches before and after its first use.
  - `PcuFollows`: the state of the functions and that of the machine.
  - `pcuUses_refine`: the outputs are the same, and so are the registers.
-/
import Libmsr.Counters.PcuMachine
import Libmsr.Counters.PmcRuns

namespace Libmsr

/-- There are sockets, each with a CPU whose number fits in an op, and the registers of
    the counters fit as well. -/
structure PcuPlatform (P : Platform) (m : PcuMsrs) (pick : Nat → Nat) : Prop where
  picks : PicksFit P.cfg P.topo (fun entry => entry.socketId) P.cfg.sockets pick
  pos : 0 < P.cfg.sockets
  evntsel : m.evntsel0 + 4 ≤ 2 ^ 32
  ctr : m.ctr0 + 4 ≤ 2 ^ 32

/-- The driver works, and the registers of the counters can be written. -/
structure PcuMachineWorks (P : Platform) (m : PcuMsrs) (pick : Nat → Nat) (h : Host) : Prop where
  works : P.drv.Works P.batchfd h P.cfg.numDevs
  writes : ∀ k t, k < 4 → t < P.cfg.sockets →
    ∀ msr0 ∈ [m.evntsel0, m.ctr0], h.failsWrite (pick t) (msr0 + k) = false

theorem PcuMachineWorks.of_sameDevices {P : Platform} {m : PcuMsrs} {pick : Nat → Nat}
    {h h' : Host} (hw : PcuMachineWorks P m pick h) (hsame : h.SameDevices h') :
    PcuMachineWorks P m pick h' := by
  refine ⟨hw.works.of_sameDevices hsame, ?_⟩
  rw [hsame.failsWrite]
  exact hw.writes

section Machine

variable {P : Platform} {m : PcuMsrs} {pick : Nat → Nat}

theorem PcuPlatform.found (hP : PcuPlatform P m pick) : SocketsFound P pick := by
  have hcount := hP.picks.count_le
  exact ⟨hP.picks.first, by omega⟩

theorem PcuPlatform.consecutive (hP : PcuPlatform P m pick) {msr0 : Nat}
    (hmsr : msr0 + 4 ≤ 2 ^ 32) : (pcuLayout P.cfg msr0 pick).Consecutive msr0 :=
  ⟨fun _ _ => rfl, hmsr, hP.picks.fits, fun _ _ ht ht' heq => hP.picks.injective ht ht' heq⟩

/-! ## The two batches -/

/-- The struct was not used yet, and its cells count as 0; or its batch holds `data`. -/
def UncHolds (P : Platform) (msr0 b : Nat) (pick : Nat → Nat) (init : Bool) (arrays : RegArrays)
    (st : BatchStorage) (data : Nat → Nat → Word) : Prop :=
  init = false ∧ st.entry b = .empty ∧ (∀ k t, k < 4 → t < P.cfg.sockets → data k t = 0) ∨
    init = true ∧ ∃ id, RegTable (pcuLayout P.cfg msr0 pick) arrays st b id data

/-- A pointer to the first counter of a socket was overwritten. -/
def PcuLost (P : Platform) (s : PcuState) : Prop :=
  s.ucInit = true ∧ ∃ val socket, s.uc 0 = some val ∧ val.length = P.cfg.sockets ∧
    socket < P.cfg.sockets ∧ ptrAt val socket = none

/-- The functions are where the machine is. -/
structure PcuFollows (P : Platform) (m : PcuMsrs) (pick : Nat → Nat) (s : PcuState)
    (a : PcuMachine) : Prop where
  sized : s.world.st.Sized
  works : PcuMachineWorks P m pick s.world.host
  regs : s.world.host.regs = a.regs
  uevt : UncHolds P m.evntsel0 uncoreEvtselBatch pick s.uevtInit s.uevt s.world.st a.events
  uc : if a.lost then PcuLost P s else
    UncHolds P m.ctr0 uncoreCountBatch pick s.ucInit s.uc s.world.st fun _ _ => 0

section Holds

variable {msr0 b b' : Nat} {init : Bool} {arrays : RegArrays} {st st' : BatchStorage}
  {data data' : Nat → Nat → Word}

/-- What works on another batch leaves it. -/
theorem UncHolds.frame (h : UncHolds P msr0 b pick init arrays st data) (hne : b ≠ b')
    (hs : st'.Sized) (hkeep : KeepsOthers st b' st') :
    UncHolds P msr0 b pick init arrays st' data := by
  rcases h with ⟨hinit, hempty, hzero⟩ | ⟨hinit, id, htable⟩
  · exact .inl ⟨hinit, (hkeep.entry_ne b hne).trans hempty, hzero⟩
  · exact .inr ⟨hinit, id, htable.of_keepsOthers hne hs hkeep⟩

theorem UncHolds.congr (h : UncHolds P msr0 b pick init arrays st data)
    (heq : ∀ k t, k < 4 → t < P.cfg.sockets → data' k t = data k t) :
    UncHolds P msr0 b pick init arrays st data' := by
  rcases h with ⟨hinit, hempty, hzero⟩ | ⟨hinit, id, htable⟩
  · exact .inl ⟨hinit, hempty, fun k t hk ht => (heq k t hk ht).trans (hzero k t hk ht)⟩
  · exact .inr ⟨hinit, id, htable.congr heq⟩

end Holds

theorem evtsel_ne_count : uncoreEvtselBatch ≠ uncoreCountBatch := by decide

variable {s s' : PcuState} {a a' : PcuMachine}

/-- The machine's events matter only where there are counters. -/
theorem PcuFollows.congr (h : PcuFollows P m pick s a) {events : Nat → Nat → Word}
    (heq : ∀ k t, k < 4 → t < P.cfg.sockets → events k t = a.events k t) :
    PcuFollows P m pick s { a with events := events } :=
  ⟨h.sized, h.works, h.regs, h.uevt.congr heq, h.uc⟩

/-- What works on the event selects leaves the counters. -/
theorem PcuFollows.uc_frame (h : PcuFollows P m pick s a) (hinit : s'.ucInit = s.ucInit)
    (huc : s'.uc = s.uc) (hs : s'.world.st.Sized)
    (hkeep : KeepsOthers s.world.st uncoreEvtselBatch s'.world.st) :
    if a.lost then PcuLost P s' else
      UncHolds P m.ctr0 uncoreCountBatch pick s'.ucInit s'.uc s'.world.st fun _ _ => 0 := by
  have huc₀ := h.uc
  cases hlost : a.lost with
  | false =>
    rw [hlost, if_neg Bool.false_ne_true] at huc₀
    rw [if_neg Bool.false_ne_true, hinit, huc]
    exact huc₀.frame evtsel_ne_count.symm hs hkeep
  | true =>
    rw [hlost, if_pos rfl] at huc₀
    rw [if_pos rfl, PcuLost, hinit, huc]
    exact huc₀

/-- `unc_perfevtsel_storage` loads the event selects, if it is the first call. -/
theorem PcuFollows.uevtStorage (hP : PcuPlatform P m pick) (h : PcuFollows P m pick s a) :
    ∃ s₁ id, uncPerfevtselStorage P m s = some s₁ ∧ uncPerfevtselStorage P m s₁ = some s₁ ∧
      RegTable (pcuLayout P.cfg m.evntsel0 pick) s₁.uevt s₁.world.st uncoreEvtselBatch id
        a.events ∧ s₁.uevtInit = true ∧ PcuFollows P m pick s₁ a := by
  rcases h.uevt with ⟨hinit, hempty, hzero⟩ | ⟨hinit, id, htable⟩
  · obtain ⟨r, hr, htable, hsized, hkeep⟩ := initUnc_spec hP.found h.sized hempty s.uevt
    have htable' := htable.congr hzero
    let s₁ : PcuState :=
      { s with world := { s.world with st := r.2 }, uevt := r.1, uevtInit := true }
    refine ⟨s₁, _, ?_, by rw [uncPerfevtselStorage, if_pos rfl], htable', rfl, hsized, h.works,
      h.regs, .inr ⟨rfl, _, htable'⟩, h.uc_frame rfl rfl hsized hkeep⟩
    rw [uncPerfevtselStorage, hinit]
    simp only [Bool.false_eq_true, if_false, initUncPerfevtsel, hr, Option.bind_eq_bind,
      Option.bind_some]
    rfl
  · have hsame : uncPerfevtselStorage P m s = some s := by rw [uncPerfevtselStorage, if_pos hinit]
    exact ⟨s, id, hsame, hsame, htable, hinit, h⟩

/-- `unc_counters_storage` loads the counters, if it is the first call. -/
theorem PcuFollows.ucStorage (hP : PcuPlatform P m pick) (h : PcuFollows P m pick s a)
    (hlost : a.lost = false) :
    ∃ s₁ id, uncCountersStorage P m s = some s₁ ∧
      RegTable (pcuLayout P.cfg m.ctr0 pick) s₁.uc s₁.world.st uncoreCountBatch id
        (fun _ _ => 0) ∧ s₁.ucInit = true ∧ PcuFollows P m pick s₁ a := by
  have huc := h.uc
  rw [hlost, if_neg Bool.false_ne_true] at huc
  rcases huc with ⟨hinit, hempty, -⟩ | ⟨hinit, id, htable⟩
  · obtain ⟨r, hr, htable, hsized, hkeep⟩ := initUnc_spec hP.found h.sized hempty s.uc
    refine ⟨{ s with world := { s.world with st := r.2 }, uc := r.1, ucInit := true }, _, ?_,
      htable, rfl, hsized, h.works, h.regs, h.uevt.frame evtsel_ne_count hsized hkeep, ?_⟩
    · rw [uncCountersStorage, hinit]
      simp only [Bool.false_eq_true, if_false, initUncCounters, hr, Option.bind_eq_bind,
        Option.bind_some]
    · rw [hlost, if_neg Bool.false_ne_true]
      exact .inr ⟨rfl, _, htable⟩
  · exact ⟨s, id, by rw [uncCountersStorage, if_pos hinit], htable, hinit, h⟩

/-! ## Selecting events -/

section Select

variable {pcunum : Int} {socket : Nat}

/-- The machine after the event of some sockets was selected. -/
def PcuMachine.selected (a : PcuMachine) (word : Word) (pcunum : Int) (named : Nat → Bool) :
    PcuMachine :=
  { a with events := fun k t => if pcunum = k + 1 ∧ named t then word else a.events k t }

/-- A number that is no case of the switch. -/
theorem PcuFollows.one_noCase (hP : PcuPlatform P m pick) (h : PcuFollows P m pick s a)
    (hnum : ¬ (1 ≤ pcunum ∧ pcunum ≤ 4)) (flags reset occ eventsel : Word) (socket : Nat) :
    ∃ s', setPcuCtrlFlags P m flags reset occ eventsel pcunum s socket = some s' ∧
      PcuFollows P m pick s' a := by
  obtain ⟨s₁, id, hs₁, -, -, -, h₁⟩ := h.uevtStorage hP
  refine ⟨s₁, ?_, h₁⟩
  rw [setPcuCtrlFlags, hs₁, Option.bind_eq_bind, Option.bind_some, if_neg hnum]

/-- One socket. -/
theorem PcuFollows.one (hP : PcuPlatform P m pick) (h : PcuFollows P m pick s a)
    (hnum : 1 ≤ pcunum ∧ pcunum ≤ 4) (hsocket : socket < P.cfg.sockets)
    (flags reset occ eventsel : Word) :
    ∃ s', setPcuCtrlFlags P m flags reset occ eventsel pcunum s socket = some s' ∧
      PcuFollows P m pick s' (a.selected (pcuCtrlWord flags reset occ eventsel) pcunum
        fun t => t = socket) := by
  obtain ⟨s₁, id, hs₁, -, htable, hinit, h₁⟩ := h.uevtStorage hP
  have hk : pcunum.toNat - 1 < 4 := by omega
  obtain ⟨w', hw', htable', hhost, hkeep⟩ :=
    htable.storeAt hk hsocket (pcuCtrlWord flags reset occ eventsel)
  have hsized := htable'.cells.sized
  refine ⟨{ s₁ with world := w' }, ?_, hsized, hhost.symm ▸ h₁.works,
    (congrArg Host.regs hhost).trans h₁.regs, .inr ⟨hinit, id, htable'.congr fun k t _ _ => ?_⟩,
    h₁.uc_frame rfl rfl hsized hkeep⟩
  · rw [setPcuCtrlFlags, hs₁, Option.bind_eq_bind, Option.bind_some, if_pos hnum, hw']
    rfl
  · rw [PcuMachine.selected, setCell]
    refine if_congr ?_ rfl rfl
    rw [Prod.mk.injEq, decide_eq_true_iff]
    refine and_congr_left fun _ => ?_
    omega

/-- A socket that is not there. -/
theorem PcuFollows.one_none (hP : PcuPlatform P m pick) (h : PcuFollows P m pick s a)
    (hnum : 1 ≤ pcunum ∧ pcunum ≤ 4) (hsocket : P.cfg.sockets ≤ socket)
    (flags reset occ eventsel : Word) :
    setPcuCtrlFlags P m flags reset occ eventsel pcunum s socket = none := by
  obtain ⟨s₁, id, hs₁, -, htable, -, -⟩ := h.uevtStorage hP
  have hk : pcunum.toNat - 1 < 4 := by omega
  rw [setPcuCtrlFlags, hs₁, Option.bind_eq_bind, Option.bind_some, if_pos hnum,
    htable.storeAt_none hk hsocket]
  rfl

/-- **All sockets**, by induction on those that were named. -/
theorem PcuFollows.all (hP : PcuPlatform P m pick) (h : PcuFollows P m pick s a)
    (hnum : 1 ≤ pcunum ∧ pcunum ≤ 4) (flags reset occ eventsel : Word) :
    ∃ s', setAllPcuCtrl P m flags reset occ eventsel pcunum s = some s' ∧
      PcuFollows P m pick s' (a.selected (pcuCtrlWord flags reset occ eventsel) pcunum
        fun _ => true) := by
  let below := fun i => a.selected (pcuCtrlWord flags reset occ eventsel) pcunum fun t => t < i
  -- socket `i` is the one that is added
  have hnext : ∀ i k t, (below (i + 1)).events k t =
      ((below i).selected (pcuCtrlWord flags reset occ eventsel) pcunum fun t => t = i).events
        k t := by
    intro i k t
    simp only [below, PcuMachine.selected, decide_eq_true_iff]
    by_cases hone : pcunum = k + 1 ∧ t = i
    · rw [if_pos hone, if_pos ⟨hone.1, Nat.lt_succ_of_le hone.2.le⟩]
    · rw [if_neg hone]
      refine if_congr (and_congr_right fun hk => ?_) rfl rfl
      have hti : t ≠ i := fun hti => hone ⟨hk, hti⟩
      omega
  have hstart : PcuFollows P m pick s (below 0) := by
    refine h.congr fun k t _ _ => if_neg fun hlt => ?_
    exact Nat.not_lt_zero t (of_decide_eq_true hlt.2)
  obtain ⟨s', hs', h'⟩ := Loops.foldlM_range_inv
    (setPcuCtrlFlags P m flags reset occ eventsel pcunum)
    (fun i s' => PcuFollows P m pick s' (below i)) P.cfg.sockets s hstart fun i hi s₁ h₁ => by
      obtain ⟨s₂, hs₂, h₂⟩ := h₁.one hP hnum hi flags reset occ eventsel
      exact ⟨s₂, hs₂, h₂.congr fun k t _ _ => hnext i k t⟩
  refine ⟨s', hs', h'.congr fun k t _ ht => ?_⟩
  refine if_congr (and_congr_right fun _ => ?_) rfl rfl
  exact iff_of_true rfl (decide_eq_true ht)

/-- A number that is no case, on all sockets. -/
theorem PcuFollows.all_noCase (hP : PcuPlatform P m pick) (h : PcuFollows P m pick s a)
    (hnum : ¬ (1 ≤ pcunum ∧ pcunum ≤ 4)) (flags reset occ eventsel : Word) :
    ∃ s', setAllPcuCtrl P m flags reset occ eventsel pcunum s = some s' ∧
      PcuFollows P m pick s' a :=
  Loops.foldlM_range_inv (setPcuCtrlFlags P m flags reset occ eventsel pcunum)
    (fun _ s' => PcuFollows P m pick s' a) P.cfg.sockets s h
    fun i _ _ h₁ => h₁.one_noCase hP hnum flags reset occ eventsel i

end Select

/-! ## Enabling, clearing and dumping -/

/-- A lost pointer. -/
theorem PcuLost.storage (h : PcuLost P s) : uncCountersStorage P m s = some s := by
  rw [uncCountersStorage, if_pos h.1]

/-- What stores to every counter ends at it. -/
theorem PcuLost.clearAllPcu (h : PcuLost P s) : clearAllPcu P m s = none := by
  have hstorage := h.storage (m := m)
  obtain ⟨-, val, socket, huc, -, hsocket, hnull⟩ := h
  have hbody : ∀ w, clearAllPcuBody s.uc w socket = none := by
    intro w
    refine Loops.foldlM_range_none (show 1 ≤ 4 by decide) ?_
    rw [Loops.foldlM_range_succ, List.range_zero, List.foldlM_nil]
    show w.storeAt uncoreCountBatch s.uc 0 0 socket = none
    rw [BatchWorld.storeAt, huc, Option.bind_eq_bind, Option.bind_some, BatchWorld.modify, hnull]
    rfl
  have hloop : (List.range P.cfg.sockets).foldlM (clearAllPcuBody s.uc) s.world = none := by
    refine Loops.foldlM_range_none (Nat.succ_le_of_lt hsocket) ?_
    rw [Loops.foldlM_range_succ, Option.bind_eq_bind, Option.bind_eq_none_iff]
    exact fun w _ => hbody w
  simp only [Libmsr.clearAllPcu, hstorage, hloop, Option.bind_eq_bind, Option.bind_some,
    Option.bind_none]

/-- So does what prints every counter. -/
theorem PcuLost.dump (h : PcuLost P s) : dumpUncCounterData P m s = none := by
  have hstorage := h.storage (m := m)
  obtain ⟨-, val, socket, huc, -, hsocket, hnull⟩ := h
  have hcell : s.world.loadAt uncoreCountBatch s.uc 0 socket = none := by
    rw [BatchWorld.loadAt, huc, Option.bind_eq_bind, Option.bind_some, hnull]
    rfl
  have hline : ((List.range 4).mapM fun k =>
      s.world.loadAt uncoreCountBatch s.uc k socket) = none :=
    Loops.mapM_none (List.mem_range.mpr (by decide)) hcell
  have hlines : ((List.range P.cfg.sockets).mapM fun i => (List.range 4).mapM fun k =>
      s.world.loadAt uncoreCountBatch s.uc k i) = none :=
    Loops.mapM_none (List.mem_range.mpr hsocket) hline
  simp only [dumpUncCounterData, hstorage, hlines, Option.bind_eq_bind, Option.bind_some,
    Option.bind_none]

theorem PcuFollows.isLost (h : PcuFollows P m pick s a) (hlost : a.lost = true) : PcuLost P s := by
  have huc := h.uc
  rwa [hlost, if_pos rfl] at huc

/-- **Clearing all counters.** -/
theorem PcuFollows.clearAllPcu (hP : PcuPlatform P m pick) (h : PcuFollows P m pick s a) :
    Option.Rel (PcuFollows P m pick) (clearAllPcu P m s) (a.cleared P m pick) := by
  rw [PcuMachine.cleared]
  cases hlost : a.lost with
  | true =>
    rw [if_pos rfl, (h.isLost hlost).clearAllPcu]
    exact .none
  | false =>
    rw [if_neg Bool.false_ne_true]
    obtain ⟨s₁, id, hs₁, htable, hinit, h₁⟩ := h.ucStorage hP hlost
    have hks : ∀ k ∈ List.range 4, k < 4 := fun k hk => List.mem_range.mp hk
    obtain ⟨w₁, hw₁, htable₁, hhost₁, hkeep₁⟩ := htable.storeColumns hks 0
    have hzero : RegTable (pcuLayout P.cfg m.ctr0 pick) s₁.uc w₁.st uncoreCountBatch id
        fun _ _ => 0 := htable₁.congr fun k t _ _ => by rw [ite_self]
    have hworks₁ : PcuMachineWorks P m pick w₁.host := hhost₁.symm ▸ h₁.works
    obtain ⟨w₂, hw₂, htable₂, hregs₂, hcall₂⟩ := RegTable.write (hP.consecutive hP.ctr) hzero
      hworks₁.works fun k t hk ht =>
        hworks₁.writes k t hk ht m.ctr0 (List.mem_cons_of_mem _ List.mem_cons_self)
    have hcall : Libmsr.clearAllPcu P m s = some { s₁ with world := w₂ } := by
      have hloop : (List.range P.cfg.sockets).foldlM (clearAllPcuBody s₁.uc) s₁.world = some w₁ :=
        hw₁
      simp only [Libmsr.clearAllPcu, hs₁, hloop, hw₂, Option.bind_eq_bind, Option.bind_some]
    rw [hcall]
    refine .some ⟨hcall₂.sized, hworks₁.of_sameDevices hcall₂.same, ?_,
      h₁.uevt.frame evtsel_ne_count hcall₂.sized (hkeep₁.trans hcall₂.keeps), ?_⟩
    · rw [hhost₁, h₁.regs] at hregs₂
      exact hregs₂
    · rw [if_neg Bool.false_ne_true]
      exact .inr ⟨hinit, id, htable₂⟩

/-- **Enabling.** -/
theorem PcuFollows.enablePcu (hP : PcuPlatform P m pick) (h : PcuFollows P m pick s a) :
    Option.Rel (PcuFollows P m pick) (enablePcu P m s) (a.enabled P m pick) := by
  obtain ⟨s₁, id, hs₁, -, htable, hinit, h₁⟩ := h.uevtStorage hP
  obtain ⟨w₂, hw₂, htable₂, hregs₂, hcall₂⟩ := RegTable.write (hP.consecutive hP.evntsel) htable
    h₁.works.works fun k t hk ht => h₁.works.writes k t hk ht m.evntsel0 List.mem_cons_self
  rw [h₁.regs] at hregs₂
  have h₂ : PcuFollows P m pick { s₁ with world := w₂ }
      { a with regs := withTable P.cfg.sockets 4 m.evntsel0 pick a.events a.regs } :=
    ⟨hcall₂.sized, h₁.works.of_sameDevices hcall₂.same, hregs₂, .inr ⟨hinit, id, htable₂⟩,
      h₁.uc_frame rfl rfl hcall₂.sized hcall₂.keeps⟩
  rw [Libmsr.enablePcu, hs₁, Option.bind_eq_bind, Option.bind_some, hw₂, Option.bind_eq_bind,
    Option.bind_some, PcuMachine.enabled]
  exact h₂.clearAllPcu hP

/-- **A dump** prints zeroes: nothing reads the counters into the batch. -/
theorem PcuFollows.dump (hP : PcuPlatform P m pick) (h : PcuFollows P m pick s a)
    (hlost : a.lost = false) :
    ∃ s', dumpUncCounterData P m s =
        some (List.replicate P.cfg.sockets (List.replicate 4 0), s') ∧
      PcuFollows P m pick s' a := by
  obtain ⟨s₁, id, hs₁, htable, -, h₁⟩ := h.ucStorage hP hlost
  have hlines : ((List.range P.cfg.sockets).mapM fun i => (List.range 4).mapM fun k =>
      s₁.world.loadAt uncoreCountBatch s₁.uc k i) =
        some ((List.range P.cfg.sockets).map fun _ => (List.range 4).map fun _ => 0) :=
    Loops.mapM_some fun t ht => Loops.mapM_some fun k hk =>
      htable.loadAt (List.mem_range.mp hk) (List.mem_range.mp ht)
  rw [List.map_const', List.map_const', List.length_range, List.length_range] at hlines
  refine ⟨s₁, ?_, h₁⟩
  simp only [dumpUncCounterData, hs₁, hlines, Option.bind_eq_bind, Option.bind_some]

/-- The array of the first counter, of one pointer for each socket. -/
theorem PcuFollows.firstArray (hP : PcuPlatform P m pick) (h : PcuFollows P m pick s a) :
    ∃ s₁ val, uncCountersStorage P m s = some s₁ ∧ s₁.ucInit = true ∧ s₁.uc 0 = some val ∧
      val.length = P.cfg.sockets ∧ PcuFollows P m pick s₁ a := by
  cases hlost : a.lost with
  | true =>
    obtain ⟨hinit, val, _, huc, hlen, -⟩ := h.isLost hlost
    exact ⟨s, val, (h.isLost hlost).storage, hinit, huc, hlen, h⟩
  | false =>
    obtain ⟨s₁, id, hs₁, htable, hinit, h₁⟩ := h.ucStorage hP hlost
    refine ⟨s₁, _, hs₁, hinit, htable.array 0 (show 0 < 4 by decide), ?_, h₁⟩
    rw [rowPtrs, List.length_map, List.length_range]
    rfl

/-- **Clearing one socket** overwrites a pointer. -/
theorem PcuFollows.clearPcu (hP : PcuPlatform P m pick) (h : PcuFollows P m pick s a) (idx : Int) :
    Runs.SameOutcome (PcuFollows P m pick) (pcuUse P m s (.buffer (.clear idx)))
      (a.use P m pick (.buffer (.clear idx))) := by
  obtain ⟨s₁, val, hs₁, hinit, huc, hlen, h₁⟩ := h.firstArray hP
  rw [pcuUse, PcuMachine.use]
  by_cases hge : (P.cfg.sockets : Int) ≤ idx
  · rw [if_pos hge, clearPcu_ge hs₁ hge]
    exact .some ⟨rfl, h₁⟩
  · rw [if_neg hge, Libmsr.clearPcu, hs₁, Option.bind_eq_bind, Option.bind_some,
      if_pos (Int.not_le.mp hge), huc, Option.bind_eq_bind, Option.bind_some, hlen]
    by_cases hpos : 0 ≤ idx
    · rw [if_pos ⟨hpos, Int.not_le.mp hge⟩, if_pos hpos]
      refine .some ⟨rfl, h₁.sized, h₁.works, h₁.regs, h₁.uevt, ?_⟩
      rw [if_pos rfl]
      refine ⟨hinit, val.set idx.toNat none, idx.toNat, ?_, ?_, by omega, ?_⟩
      · exact Function.update_self (f := s₁.uc) 0 _
      · rw [List.length_set]
        exact hlen
      · rw [ptrAt, List.getElem?_set_self (by omega)]
        rfl
    · rw [if_neg fun hboth => hpos hboth.1, if_neg hpos]
      exact .none

/-! ## Programs -/

/-- A call without a result. -/
theorem sameOutcome_done {x : Option PcuState} {y : Option PcuMachine}
    (h : Option.Rel (PcuFollows P m pick) x y) :
    Runs.SameOutcome (PcuFollows P m pick) (x.map fun s => (PcuOutput.done, s))
      (y.map fun a => (PcuOutput.done, a)) := by
  cases h with
  | none => exact .none
  | some h => exact .some ⟨rfl, h⟩

/-- **Step lemma**, one case for each call. -/
theorem PcuFollows.step (hP : PcuPlatform P m pick) (h : PcuFollows P m pick s a) (call : PcuUse) :
    Runs.SameOutcome (PcuFollows P m pick) (pcuUse P m s call) (a.use P m pick call) := by
  cases call with
  | one flags reset occ eventsel pcunum socket =>
    refine sameOutcome_done ?_
    rw [PcuMachine.select]
    by_cases hnum : 1 ≤ pcunum ∧ pcunum ≤ 4
    · rw [if_pos hnum]
      by_cases hsocket : socket < P.cfg.sockets
      · obtain ⟨s', hs', h'⟩ := h.one hP hnum hsocket flags reset occ eventsel
        rw [if_pos (decide_eq_true hsocket), hs']
        exact .some h'
      · rw [if_neg fun hlt => hsocket (of_decide_eq_true hlt),
          h.one_none hP hnum (Nat.not_lt.mp hsocket) flags reset occ eventsel]
        exact .none
    · obtain ⟨s', hs', h'⟩ := h.one_noCase hP hnum flags reset occ eventsel socket
      rw [if_neg hnum, hs']
      exact .some h'
  | all flags reset occ eventsel pcunum =>
    refine sameOutcome_done ?_
    rw [PcuMachine.select]
    by_cases hnum : 1 ≤ pcunum ∧ pcunum ≤ 4
    · obtain ⟨s', hs', h'⟩ := h.all hP hnum flags reset occ eventsel
      rw [if_pos hnum, if_pos rfl, hs']
      exact .some h'
    · obtain ⟨s', hs', h'⟩ := h.all_noCase hP hnum flags reset occ eventsel
      rw [if_neg hnum, hs']
      exact .some h'
  | enable => exact sameOutcome_done (h.enablePcu hP)
  | buffer c =>
    cases c with
    | clear idx => exact h.clearPcu hP idx
    | clearAll => exact sameOutcome_done (h.clearAllPcu hP)
    | dump =>
      rw [pcuUse, PcuMachine.use]
      cases hlost : a.lost with
      | true =>
        rw [if_pos rfl, (h.isLost hlost).dump]
        exact .none
      | false =>
        obtain ⟨s', hs', h'⟩ := h.dump hP hlost
        rw [if_neg Bool.false_ne_true, hs']
        exact .some ⟨rfl, h'⟩
  | machine regs =>
    exact .some ⟨rfl, h.sized, h.works.of_sameDevices ⟨rfl, rfl, rfl, rfl⟩, rfl, h.uevt, h.uc⟩

end Machine

/-- **Programs that count in the uncore.**  Whatever calls a program makes from the start,
    in any order and with the registers changing by themselves in between: it goes through
    exactly where the machine does, sees the same, and leaves the same registers.  So
    every dump prints zeroes, and once a `clear_pcu` of an existing socket was accepted no
    later `clear_all_pcu`, `enable_pcu` or dump comes back, while another `clear_pcu`
    returns 0. -/
theorem pcuUses_refine {P : Platform} {m : PcuMsrs} {pick : Nat → Nat}
    (hP : PcuPlatform P m pick) {host : Host} (hworks : PcuMachineWorks P m pick host)
    (calls : List PcuUse) :
    (Runs.outputs (pcuUse P m) (pcuStart host) calls).map (fun r => (r.1, r.2.world.host.regs)) =
      (Runs.outputs (PcuMachine.use P m pick) (.start host.regs) calls).map
        fun r => (r.1, r.2.regs) := by
  have hstart : PcuFollows P m pick (pcuStart host) (.start host.regs) :=
    ⟨BatchStorage.init_sized, hworks, rfl, .inl ⟨rfl, rfl, fun _ _ _ _ => rfl⟩,
      .inl ⟨rfl, rfl, fun _ _ _ _ => rfl⟩⟩
  have hsame : Runs.SameOutcome (PcuFollows P m pick)
      (Runs.outputs (pcuUse P m) (pcuStart host) calls)
      (Runs.outputs (PcuMachine.use P m pick) (.start host.regs) calls) :=
    Runs.outputs_sameOutcome (P := fun _ => True) (fun _ _ call h _ => PcuFollows.step hP h call)
      hstart fun _ _ => trivial
  revert hsame
  generalize Runs.outputs (pcuUse P m) (pcuStart host) calls = x,
    Runs.outputs (PcuMachine.use P m pick) _ calls = y
  intro hsame
  cases hsame with
  | none => rfl
  | some h => rw [Option.map_some, Option.map_some, h.1, h.2.regs]

theorem twoSockets_pcuPlatform : PcuPlatform twoSockets pcuMsrsOld id :=
  ⟨twoSockets_picks.1.fit, by decide, by decide, by decide⟩

theorem twoSockets_pcuMachineWorks : PcuMachineWorks twoSockets pcuMsrsOld id (.opened 2) := by
  refine ⟨inOrder_works (n := 2) (by decide) 3 (Host.opened 2).regs, ?_⟩
  intro k t _ ht _ _
  exact decide_eq_false (Nat.not_le.mpr ht)

/-- An event is selected and enabled and all counters come to hold 7, but the dump prints
    zeroes. -/
theorem twoSockets_pcu : (Runs.outputs (pcuUse twoSockets pcuMsrsOld) (pcuStart (.opened 2))
      [.all 0 0 0 0x80 1, .enable, .machine fun _ _ => 7, .buffer .dump, .buffer (.clear 0)]).map
        (fun r => (r.1, r.2.world.host.regs)) =
    some ([.done, .done, .done, .lines [[0, 0, 0, 0], [0, 0, 0, 0]], .rc 0], fun _ _ => 7) := by
  rw [pcuUses_refine twoSockets_pcuPlatform twoSockets_pcuMachineWorks]
  rfl

end Libmsr
