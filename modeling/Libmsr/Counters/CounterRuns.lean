/-
  Libmsr.Counters.CounterRuns

  Any sequence of calls of the fixed counter functions, from any contents of the
  registers: what a get returns is what was set last, the bits that belong to no
  counter keep their first values, and the last set has zeroed the counters.

  An op's `cpu` has 16 bits, so this is so for up to 65536 threads.
-/
import Libmsr.Counters.CounterCalls
import Libmsr.Counters.CounterFields
import Libmsr.Lib.Runs

namespace Libmsr

/-! ## What was set last -/

/-- The values that a `set` may have. -/
def CounterCall.InRange (n : Nat) : CounterCall → Prop
  | .set c => ∀ k t, t < n → (c k t).InRange
  | .enable => True
  | .disable => True
  | .get _ => True

/-- The controls set last, brought up to date by a call. -/
def latestSet (latest : Option (Fin 3 → Nat → CounterControl)) :
    CounterCall → Option (Fin 3 → Nat → CounterControl)
  | .set c => some c
  | .enable => some fun _ _ => switchedControl 1
  | .disable => some fun _ _ => switchedControl 0
  | .get _ => latest

/-- The controls that a call sets. -/
def CounterCall.controls : CounterCall → Option (Fin 3 → Nat → CounterControl)
  | .set c => some c
  | .enable => some fun _ _ => switchedControl 1
  | .disable => some fun _ _ => switchedControl 0
  | .get _ => none

theorem latestSet_eq (latest : Option (Fin 3 → Nat → CounterControl)) (call : CounterCall) :
    latestSet latest call = call.controls.or latest := by
  cases call <;> rfl

theorem CounterCall.InRange.controls {n : Nat} {call : CounterCall} (h : call.InRange n)
    {c : Fin 3 → Nat → CounterControl} (hc : call.controls = some c) :
    ∀ k t, t < n → (c k t).InRange := by
  have hone : ((1 : Word).toNat) < 2 := by decide
  have hzero : ((0 : Word).toNat) < 2 := by decide
  cases call with
  | set c' =>
    obtain rfl := Option.some.inj hc
    exact h
  | enable =>
    obtain rfl := Option.some.inj hc
    exact fun _ _ _ => switchedControl_inRange hone
  | disable =>
    obtain rfl := Option.some.inj hc
    exact fun _ _ _ => switchedControl_inRange hzero
  | get ctr => contradiction

/-- What a call does: it sets its controls, or leaves the registers. -/
structure CallDone (P : Platform) (s : CounterState) (call : CounterCall) (s' : CounterState) :
    Prop where
  inv : CounterInv P s'
  devices : s.world.host.SameDevices s'.world.host
  left : call.controls = none → s'.world.host.regs = s.world.host.regs
  set : ∀ c, call.controls = some c →
    ControlsSet P.cfg.numDevs (fun t k => c k t) s.world.host.regs s'.world.host.regs

/-- The calls that set. -/
theorem CounterInv.stepSets {P : Platform} {s : CounterState} (hI : CounterInv P s)
    {call : CounterCall} {c : Fin 3 → Nat → CounterControl} (hc : call.controls = some c)
    (hstep : counterStep P s call = Libmsr.fillAndSet P s c) :
    ∃ s', counterStep P s call = some s' ∧ CallDone P s call s' := by
  obtain ⟨s', hs', hI', hsame, hset⟩ := hI.fillAndSet c
  refine ⟨s', hstep.trans hs', hI', hsame, fun hnone => ?_, fun c' hc' => ?_⟩
  · rw [hc] at hnone
    contradiction
  · obtain rfl := Option.some.inj (hc.symm.trans hc')
    exact hset

/-- One call. -/
theorem CounterInv.step {P : Platform} {s : CounterState} (hI : CounterInv P s)
    (call : CounterCall) : ∃ s', counterStep P s call = some s' ∧ CallDone P s call s' := by
  cases call with
  | set c => exact hI.stepSets rfl rfl
  | enable => exact hI.stepSets rfl rfl
  | disable => exact hI.stepSets rfl rfl
  | get ctr =>
    obtain ⟨s', got, hs', hI', hsame, hregs, -⟩ := hI.getFixedCtrCtrl ctr
    refine ⟨s', ?_, hI', hsame, fun _ => hregs, fun c hc => ?_⟩
    · rw [counterStep, hs']
      rfl
    · contradiction

/-! ## What runs keep -/

/-- The registers after a run that began with `regs₀` and set `latest` last. -/
structure RegsAgree (n : Nat) (regs₀ regs : RegFile)
    (latest : Option (Fin 3 → Nat → CounterControl)) : Prop where
  perf : ∀ t, t < n → ∀ i, i < 64 → i < 32 ∨ 34 < i →
    (regs t ia32PerfGlobalCtrl).getLsbD i = (regs₀ t ia32PerfGlobalCtrl).getLsbD i
  fixed : ∀ t, t < n → ∀ i, i < 64 → 11 < i →
    (regs t ia32FixedCtrCtrl).getLsbD i = (regs₀ t ia32FixedCtrCtrl).getLsbD i
  control : ∀ c, latest = some c → ∀ t, t < n → ∀ k : Fin 3,
    CounterControl.ofMsr k (regs t ia32PerfGlobalCtrl) (regs t ia32FixedCtrCtrl) = c k t
  zero : ∀ c, latest = some c → ∀ t, t < n → ∀ k : Fin 3, regs t (ia32FixedCtr0 + k) = 0

theorem RegsAgree.refl (n : Nat) (regs : RegFile) : RegsAgree n regs regs none := by
  refine ⟨fun _ _ _ _ _ => rfl, fun _ _ _ _ _ => rfl, fun c hc => ?_, fun c hc => ?_⟩
  · contradiction
  · contradiction

/-- Setting controls that fit. -/
theorem RegsAgree.set {n : Nat} {regs₀ regs regs' : RegFile}
    {latest : Option (Fin 3 → Nat → CounterControl)} (h : RegsAgree n regs₀ regs latest)
    (hn : n ≤ 2 ^ 16) {c : Fin 3 → Nat → CounterControl}
    (hrange : ∀ k t, t < n → (c k t).InRange)
    (hset : ControlsSet n (fun t k => c k t) regs regs') : RegsAgree n regs₀ regs' (some c) := by
  constructor
  · intro t ht i hi hout
    rw [hset.perf hn t ht, getLsbD_perfGlobalCtrlWord (fun k => hrange k t ht) hi hout]
    exact h.perf t ht i hi hout
  · intro t ht i hi hout
    rw [hset.fixed hn t ht, getLsbD_fixedCtrCtrlWord (fun k => hrange k t ht) hi hout]
    exact h.fixed t ht i hi hout
  · intro c' hc' t ht k
    -- the fields of a word do not depend on what it was before
    obtain rfl := Option.some.inj hc'
    rw [hset.perf hn t ht, hset.fixed hn t ht]
    exact ofMsr_words (fun k => hrange k t ht) _ _ k
  · intro c' _ t ht k
    exact hset.zero hn t ht k

/-- One call: it succeeds, and the registers agree with the new record. -/
theorem counterStep_agree {P : Platform} (hn : P.cfg.numDevs ≤ 2 ^ 16) {regs₀ : RegFile}
    (s : CounterState) (latest : Option (Fin 3 → Nat → CounterControl)) (call : CounterCall)
    (h : CounterInv P s ∧ RegsAgree P.cfg.numDevs regs₀ s.world.host.regs latest)
    (hrange : call.InRange P.cfg.numDevs) :
    ∃ s', counterStep P s call = some s' ∧ CounterInv P s' ∧
      RegsAgree P.cfg.numDevs regs₀ s'.world.host.regs (latestSet latest call) := by
  obtain ⟨hI, hagree⟩ := h
  obtain ⟨s', hs', hdone⟩ := hI.step call
  refine ⟨s', hs', hdone.inv, ?_⟩
  rw [latestSet_eq]
  cases hc : call.controls with
  | none =>
    rw [hdone.left hc]
    exact hagree
  | some c => exact hagree.set hn (hrange.controls hc) (hdone.set c hc)

/-! ## Runs -/

/-- Before any call. -/
structure CounterStart (P : Platform) (s : CounterState) : Prop where
  works : CountersWork P s.world.host
  sized : s.world.st.Sized
  init : s.init = false
  data : s.world.st.entry fixedCountersDataBatch = .empty
  ctrlInit : s.ctrlInit = false
  ctrl : s.world.st.entry fixedCountersCtrDataBatch = .empty
  get : s.get.totalThreads = 0
  set : s.set.totalThreads = 0

theorem CounterStart.inv {P : Platform} {s : CounterState} (h : CounterStart P s) :
    CounterInv P s :=
  ⟨h.works, h.sized, Or.inl ⟨h.init, h.data⟩, Or.inl ⟨h.ctrlInit, h.ctrl⟩, Or.inl h.get,
    Or.inl h.set⟩

/-- What is required of the state `s` that a run from `s₀` ends in, which set
    `latest` last: a get, with any of its arrays null, returns `latest`; the bits that
    belong to no counter are those of `s₀`; the counters are zero if anything was
    set. -/
structure CountersHold (P : Platform) (s₀ s : CounterState)
    (latest : Option (Fin 3 → Nat → CounterControl)) : Prop where
  get : ∀ ctr, ∃ s' got, getFixedCtrCtrl P s ctr = some (s', got) ∧
    ∀ c, latest = some c → ∀ (k : Fin 3) control, ctr k = some control →
      ∃ control', got k = some control' ∧ ∀ t, t < P.cfg.numDevs → control' t = c k t
  perf : ∀ t, t < P.cfg.numDevs → ∀ i, i < 64 → i < 32 ∨ 34 < i →
    (s.world.host.regs t ia32PerfGlobalCtrl).getLsbD i =
      (s₀.world.host.regs t ia32PerfGlobalCtrl).getLsbD i
  fixed : ∀ t, t < P.cfg.numDevs → ∀ i, i < 64 → 11 < i →
    (s.world.host.regs t ia32FixedCtrCtrl).getLsbD i =
      (s₀.world.host.regs t ia32FixedCtrCtrl).getLsbD i
  zero : ∀ c, latest = some c → ∀ t, t < P.cfg.numDevs → ∀ k : Fin 3,
    s.world.host.regs t (ia32FixedCtr0 + k) = 0

/-- **Fixed counters.**  With up to 65536 threads every sequence of calls from the
    start succeeds and ends as required. -/
theorem counters_run {P : Platform} (hn : P.cfg.numDevs ≤ 2 ^ 16) {s₀ : CounterState}
    (hstart : CounterStart P s₀) {calls : List CounterCall}
    (hrange : ∀ call ∈ calls, call.InRange P.cfg.numDevs) :
    ∃ s, Runs.run (counterStep P) s₀ calls = some s ∧
      CountersHold P s₀ s (calls.foldl latestSet none) := by
  have hbegin : CounterInv P s₀ ∧
      RegsAgree P.cfg.numDevs s₀.world.host.regs s₀.world.host.regs none :=
    ⟨hstart.inv, RegsAgree.refl ..⟩
  obtain ⟨s, hrun, hI, hagree⟩ := Runs.run_record (counterStep_agree hn) hbegin hrange
  refine ⟨s, hrun, fun ctr => ?_, hagree.perf, hagree.fixed, hagree.zero⟩
  obtain ⟨s', got, hgot, -, -, -, hdecoded⟩ := hI.getFixedCtrCtrl ctr
  refine ⟨s', got, hgot, fun c hc k control hk => ?_⟩
  obtain ⟨control', hcontrol', hval⟩ := hdecoded k control hk
  refine ⟨control', hcontrol', fun t ht => ?_⟩
  rw [hval hn t ht]
  exact hagree.control c hc t ht k

/-! ## Machines -/

/-- Before any call, with the same value in all registers. -/
def counterStart (n : Nat) (val : Word) : CounterState where
  world := ⟨.init, { Host.opened n with regs := fun _ _ => val }⟩
  ctr := fun _ => ⟨fun _ => ⟨0, 0, 0, 0⟩, []⟩
  init := false
  ctrl := ⟨[], []⟩
  ctrlInit := false
  get := ⟨0, ⟨[], []⟩⟩
  set := ⟨0, ⟨[], []⟩⟩

/-- One socket of `n` cores, with the driver that works. -/
def manyCores (n : Nat) : Platform where
  cfg := ⟨n, 1, 1⟩
  topo := .init
  drv := .inOrder
  batchfd := 3

theorem manyCores_numDevs (n : Nat) : (manyCores n).cfg.numDevs = n := by
  simp [manyCores, CoreConfig.numDevs]

theorem manyCores_start {n : Nat} (hn : 3 * n < 2 ^ 31) (val : Word) :
    CounterStart (manyCores n) (counterStart n val) := by
  have hopen : ∀ cpu, cpu < (manyCores n).cfg.numDevs → decide (n ≤ cpu) = false := by
    intro cpu hcpu
    rw [manyCores_numDevs] at hcpu
    exact decide_eq_false (Nat.not_le.mpr hcpu)
  refine ⟨⟨?_, ?_, fun cpu hcpu _ _ => hopen cpu hcpu, fun cpu hcpu _ _ => hopen cpu hcpu⟩,
    BatchStorage.init_sized, rfl, rfl, rfl, rfl, rfl, rfl⟩
  · rw [manyCores_numDevs]
    exact inOrder_works (by omega) 3 _
  · rw [manyCores_numDevs]
    exact hn

/-- Two cores: enabling, reading and disabling. -/
theorem twoCores_counters :
    ∃ s, Runs.run (counterStep (manyCores 2)) (counterStart 2 0xFFFF)
        [.enable, .get fun _ => none, .disable] = some s ∧
      CountersHold (manyCores 2) (counterStart 2 0xFFFF) s
        (some fun _ _ => switchedControl 0) :=
  counters_run (by decide) (manyCores_start (by omega) 0xFFFF) (by simp [CounterCall.InRange])

/-- With 65537 threads the counters of the last one are not zeroed. -/
theorem manyCores_not_zeroed :
    CounterStart (manyCores 65537) (counterStart 65537 1) ∧
      ∃ s, Runs.run (counterStep (manyCores 65537)) (counterStart 65537 1) [.enable] = some s ∧
        ¬ CountersHold (manyCores 65537) (counterStart 65537 1) s
          (some fun _ _ => switchedControl 1) := by
  have hstart : CounterStart (manyCores 65537) (counterStart 65537 1) :=
    manyCores_start (by omega) 1
  obtain ⟨s, hs, -, -, hset⟩ := hstart.inv.fillAndSet fun _ _ => switchedControl 1
  refine ⟨hstart, s, ?_, fun hholds => ?_⟩
  · rw [Runs.run_cons, counterStep, enableFixedCounters, hs]
    rfl
  · -- thread 65536 is CPU 0 in the 16 bits of an op
    have hzero := hholds.zero _ rfl 65536 (by rw [manyCores_numDevs]; omega) 0
    rw [hset.beyond 65536 (by omega)] at hzero
    exact absurd hzero (by decide)

end Libmsr
