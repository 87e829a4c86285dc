/-
  Libmsr.Csr.ImcEventsRuns

  `mem_pct_rw_on_ctr`, `mem_page_empty_on_ctr` and `mem_page_miss_on_ctr`
  (src/csr_imc.c), in every state that `init_pmon_ctrs`, `pmon_config` and calls of the
  functions themselves can lead to.

  - `ImcReady`, `ImcUnset`: the states after and before `init_pmon_ctrs`.
  - `ImcReady.configs`, `ImcReady.programs`: what a list of configurations comes to.
  - `eventCall_sound_iff`: for which arguments, machines and driver outcomes a call gives
    every counter its event or does nothing.
-/
import Libmsr.Csr.ImcEventsSpec

namespace Libmsr

/-! ## What is expected -/

/-- A call of one of the three functions. -/
inductive EventCall where
  | pctRw (rcounter wcounter : Nat)
  | pageEmpty (actCount preCount casCount : Nat)
  | pageMiss (preCount casCount : Nat)
  deriving Repr, DecidableEq

def EventCall.function : EventCall → EventFunction
  | .pctRw rcounter wcounter => memPctRwOnCtr rcounter wcounter
  | .pageEmpty actCount preCount casCount => memPageEmptyOnCtr actCount preCount casCount
  | .pageMiss preCount casCount => memPageMissOnCtr preCount casCount

/-- The counters that a function is to configure. -/
def EventFunction.counters (f : EventFunction) : List Nat := f.configs.map PmonConfig.counter

/-- The counter exists, and its configuration register has the setting on every channel
    of every socket. -/
def Programmed (h : ImcHeader) (sockets : Nat) (c : PmonConfig) (regs : CsrRegister → Word) :
    Prop :=
  ∃ x, h.cfgLoads[c.counter]? = some x ∧ ∀ socket, socket < sockets →
    ∀ place ∈ h.channels (BitVec.ofNat 8 socket),
      regs (x.register place) = c.setting.setWidth 64

/-- All or nothing: a call that returns 0 has given each of its different counters its
    event, and any other call has changed no configuration and executed no batch. -/
structure AllOrNothing (h : ImcHeader) (sockets : Nat) (f : EventFunction) (s : ImcState)
    (rc : Int) (s' : ImcState) : Prop where
  all : rc = 0 → f.counters.Nodup ∧ ∀ c ∈ f.configs, Programmed h sockets c s'.regs
  nothing : rc ≠ 0 → s'.regs = s.regs ∧ s'.executed = s.executed ∧
    s'.proc.ops csrImcEvts = s.proc.ops csrImcEvts

/-- A call that is made on the counters. -/
inductive ImcCall where
  | initPmonCtrs
  | config (c : PmonConfig) (x : ImcExecution)
  | mem (call : EventCall) (xs : Nat → ImcExecution)

/-- The state after the call. -/
def imcStep (h : ImcHeader) (sockets : Nat) (s : ImcState) : ImcCall → Option ImcState
  | .initPmonCtrs =>
    if s.init then some s
    else (initPmonCtrs h sockets s.proc.st).map fun r =>
      { s with pcd := r.pcd, init := true, proc := { s.proc with st := r.st } }
  | .config c x => (pmonConfig sockets c x s).map fun r => r.2.2
  | .mem call xs => (call.function.call sockets xs s).map fun r => r.2.2

/-- The states that calls can lead to. -/
def ImcReachable (h : ImcHeader) (sockets : Nat) (s : ImcState) : Prop :=
  ∃ p regs calls, Runs.run (imcStep h sockets) (.start sockets p regs) calls = some s

/-- In each of them the call returns, with all or nothing. -/
def EventCall.Sound (h : ImcHeader) (sockets : Nat) (call : EventCall) (xs : Nat → ImcExecution) :
    Prop :=
  ∀ s, ImcReachable h sockets s → ∃ rc texts s',
    call.function.call sockets xs s = some (rc, texts, s') ∧
      AllOrNothing h sockets call.function s rc s'

/-! ## When that is so -/

/-- Every register of a counter is reached by a write in one of the batches that are
    executed from its configuration on. -/
def AllReached (h : ImcHeader) (sockets : Nat) : List PmonConfig → (Nat → ImcExecution) → Prop
  | [], _ => True
  | c :: cs, xs =>
    (∀ i, i < h.counterOps sockets →
      ∃ j, j ≤ cs.length ∧ (xs j).Reaches h sockets c.counter i) ∧
    AllReached h sockets cs fun j => xs (j + 1)

/-- One of the counters that are compared with 4 is above; or `init_pmon_ctrs` cannot
    return; or the header has one device for each controller, the counters are different
    ones of the first four, there are at most two sockets, and all their registers are
    reached. -/
def EventCall.Holds (h : ImcHeader) (sockets : Nat) (call : EventCall) (xs : Nat → ImcExecution) :
    Prop :=
  (∃ c ∈ call.function.checked, 4 < c) ∨ 2 ^ 31 ≤ 10 * (numCtrs * sockets) ∨
    (h.OneDevice ∧ call.function.counters.Nodup ∧ (∀ c ∈ call.function.counters, c ≤ 3) ∧
      sockets ≤ 2 ∧ AllReached h sockets call.function.configs xs)

/-! ## States -/

/-- After `init_pmon_ctrs`. -/
structure ImcReady (h : ImcHeader) (sockets : Nat) (data : Nat → Nat → Word) (s : ImcState) :
    Prop where
  init : s.init = true
  evts : EvtsReady h sockets s.pcd data s.proc.st
  fifth : s.pcd.ctrcfg 4 = some (List.replicate (numCtrs * sockets) none)

/-- Before it. -/
structure ImcUnset (sockets : Nat) (s : ImcState) : Prop where
  init : s.init = false
  pcd : s.pcd = pmonCtrStorage sockets
  sized : s.proc.st.table.Sized
  ctrs : s.proc.st.entry csrImcCtrs = .empty
  evts : s.proc.st.entry csrImcEvts = .empty

section Config

variable {h : ImcHeader} {sockets : Nat} {data : Nat → Nat → Word} {s s' : ImcState}

theorem neg_one_intOr (a : Int) : intOr (-1) a = -1 := by
  have hall : BitVec.ofInt 32 (-1) ||| BitVec.ofInt 32 a = BitVec.allOnes 32 :=
    BitVec.allOnes_or
  rw [intOr, hall]
  decide

/-! ## One configuration -/

/-- With one or two sockets a counter is configured. -/
theorem ImcReady.configures (hr : ImcReady h sockets data s) (hapart : h.OffsetsApart)
    (hpos : 1 ≤ sockets) (htwo : sockets ≤ 2) {c : PmonConfig} (hc : c.counter ≤ 3)
    (x : ImcExecution) :
    ∃ texts s', pmonConfig sockets c x s = some (0, texts, s') ∧
      ImcReady h sockets (withSetting data c.counter (c.setting.setWidth 64)) s' ∧
      s'.executed = s.executed + 1 ∧
      (∀ reg, h.NoOp sockets reg → s'.regs reg = s.regs reg) ∧
      ∀ k y i v, h.cfgLoads[k]? = some y →
        (∀ i, i < h.counterOps sockets →
          withSetting data c.counter (c.setting.setWidth 64) k i = v) →
        (x.Reaches h sockets k i → s'.regs (y.register (h.printed i)) = v) ∧
        (¬ x.Reaches h sockets k i →
          s'.regs (y.register (h.printed i)) = s.regs (y.register (h.printed i))) := by
  obtain ⟨cfg, st, hcfg, hset, hst⟩ :=
    setPmonConfig_spec hr.evts hpos htwo (show c.counter < 4 by omega) c.setting
  obtain ⟨texts, s', hdo, hevts, hpcd, hinit, hexec, hregs⟩ :=
    EvtsReady.executes (s := { s with proc := { s.proc with st := st } }) hst x
  refine ⟨texts, s', ?_, ⟨hinit.trans hr.init, hpcd ▸ hevts, hpcd ▸ hr.fifth⟩, hexec,
    fun reg hother => ?_, fun k y i v hy hv => ?_⟩
  · simp only [pmonConfig, hcfg, hset, hdo, Option.bind_eq_bind, Option.bind_some, List.nil_append]
    rfl
  · rw [hregs]
    exact EvtsReady.registers_other (p := { s.proc with st := st }) hst x s.regs hother
  · rw [hregs]
    exact EvtsReady.registers (p := { s.proc with st := st }) hst hapart x s.regs hy hv

/-- With more it is not. -/
theorem ImcReady.crashes (hr : ImcReady h sockets data s) (hthree : 3 ≤ sockets) {c : PmonConfig}
    (hc : c.counter ≤ 3) (x : ImcExecution) : pmonConfig sockets c x s = none := by
  obtain ⟨cfg, hcfg, hset⟩ := setPmonConfig_none hr.evts hthree (show c.counter < 4 by omega)
    c.setting
  simp only [pmonConfig, hcfg, hset, Option.bind_eq_bind, Option.bind_none]

/-- The fifth counter has no ops, and the batch is executed all the same. -/
theorem ImcReady.fifthFails (hr : ImcReady h sockets data s) (hpos : 1 ≤ sockets)
    {c : PmonConfig} (hc : c.counter = 4) (x : ImcExecution) :
    ∃ texts s', pmonConfig sockets c x s = some (-1, texts, s') ∧
      ImcReady h sockets data s' ∧ s'.executed = s.executed + 1 ∧
      ∀ reg, h.NoOp sockets reg → s'.regs reg = s.regs reg := by
  have hcount : 0 < numCtrs * sockets := Nat.mul_pos (by decide) hpos
  have hset : setPmonConfig sockets c.setting (List.replicate (numCtrs * sockets) none)
      s.proc.st = some (-1, [.configNotInitialized], s.proc.st) := by
    rw [setPmonConfig, List.getElem?_replicate, if_pos hcount]
  obtain ⟨texts, s', hdo, hevts, hpcd, hinit, hexec, hregs⟩ := hr.evts.executes x
  refine ⟨.configNotInitialized :: texts, s', ?_,
    ⟨hinit.trans hr.init, hpcd ▸ hevts, hpcd ▸ hr.fifth⟩, hexec, fun reg hother => ?_⟩
  · simp only [pmonConfig, hc, hr.fifth, hset, hdo, Option.bind_eq_bind, Option.bind_some]
    rfl
  · rw [hregs]
    exact hr.evts.registers_other x s.regs hother

/-- There are no others. -/
theorem pmonConfig_noCounter {c : PmonConfig} (hc : 5 ≤ c.counter) (x : ImcExecution) :
    pmonConfig sockets c x s = some (-1, [.perfmonCounterDoesNotExist], s) := by
  obtain ⟨k, hk⟩ : ∃ k, c.counter = k + 5 := ⟨c.counter - 5, by omega⟩
  rw [pmonConfig, hk]
  rfl

theorem pmonCtrStorage_ctrcfg (sockets : Nat) {k : Nat} (hk : k ≤ 4) :
    (pmonCtrStorage sockets).ctrcfg k = some (List.replicate (numCtrs * sockets) none) := by
  interval_cases k <;> rfl

/-- Before `init_pmon_ctrs` nothing is configured. -/
theorem ImcUnset.config (hu : ImcUnset sockets s) (hpos : 1 ≤ sockets) (c : PmonConfig)
    (x : ImcExecution) :
    ∃ texts s', pmonConfig sockets c x s = some (-1, texts, s') ∧ ImcUnset sockets s' ∧
      s'.regs = s.regs ∧ s'.executed = s.executed := by
  by_cases hfive : 5 ≤ c.counter
  · exact ⟨_, s, pmonConfig_noCounter hfive x, hu, rfl, rfl⟩
  · have hcount : 0 < numCtrs * sockets := Nat.mul_pos (by decide) hpos
    have hcfg : s.pcd.ctrcfg c.counter = some (List.replicate (numCtrs * sockets) none) := by
      rw [hu.pcd]
      exact pmonCtrStorage_ctrcfg sockets (by omega)
    have hset : setPmonConfig sockets c.setting (List.replicate (numCtrs * sockets) none)
        s.proc.st = some (-1, [.configNotInitialized], s.proc.st) := by
      rw [setPmonConfig, List.getElem?_replicate, if_pos hcount]
    have hempty : (s.proc.st.entry csrImcEvts).numops = 0 := by rw [hu.evts]; rfl
    obtain ⟨hs, -, hent, -⟩ := csrBatchStorage_spec hu.sized csrImcEvts
    let s' : ImcState := { s with proc := { s.proc with
      batchfd := s.proc.used, st := csrBatchStorage s.proc.st csrImcEvts } }
    have hdo : doImcEvents x s = some (-1, [.batch .emptyBatch], s') := by
      rw [doImcEvents, doCsrBatchOp_empty hu.sized _ hempty]
      rfl
    refine ⟨[.configNotInitialized, .batch .emptyBatch], s', ?_,
      ⟨hu.init, hu.pcd, hs, (hent _).trans hu.ctrs, (hent _).trans hu.evts⟩, rfl, rfl⟩
    simp only [pmonConfig, hcfg, hset, hdo, Option.bind_eq_bind, Option.bind_some]
    rfl

/-! ## A list of configurations -/

/-- Before `init_pmon_ctrs`. -/
theorem ImcUnset.configs (hu : ImcUnset sockets s) (hpos : 1 ≤ sockets) (cs : List PmonConfig)
    (xs : Nat → ImcExecution) :
    ∃ rc texts s', pmonConfigs sockets cs xs s = some (rc, texts, s') ∧ ImcUnset sockets s' ∧
      s'.regs = s.regs ∧ s'.executed = s.executed ∧ (cs ≠ [] → rc = -1) := by
  induction cs generalizing xs s with
  | nil => exact ⟨0, [], s, rfl, hu, rfl, rfl, fun hne => absurd rfl hne⟩
  | cons c cs ih =>
    obtain ⟨texts, s₁, hs₁, hu₁, hregs₁, hexec₁⟩ := hu.config hpos c (xs 0)
    obtain ⟨rc, texts', s', hs', hu', hregs', hexec', -⟩ := ih hu₁ fun j => xs (j + 1)
    refine ⟨-1, texts ++ texts', s', ?_, hu', hregs'.trans hregs₁, hexec'.trans hexec₁,
      fun _ => rfl⟩
    simp only [pmonConfigs, hs₁, hs', Option.bind_eq_bind, Option.bind_some, neg_one_intOr]

/-- What is known of a list of configurations that returned. -/
structure ConfigsReturned (h : ImcHeader) (sockets : Nat) (cs : List PmonConfig) (s : ImcState)
    (rc : Int) (s' : ImcState) : Prop where
  ready : ∃ data, ImcReady h sockets data s'
  code : rc = 0 ∨ rc = -1
  exist : rc = 0 → ∀ c ∈ cs, c.counter ≤ 3
  twoSockets : ∀ c ∈ cs, c.counter ≤ 3 → sockets ≤ 2
  mono : s.executed ≤ s'.executed
  executed : ∀ c ∈ cs, c.counter ≤ 4 → s.executed < s'.executed
  others : ∀ reg, h.NoOp sockets reg → s'.regs reg = s.regs reg

/-- One configuration. -/
theorem ImcReady.config (hr : ImcReady h sockets data s) (hapart : h.OffsetsApart)
    (hpos : 1 ≤ sockets) {c : PmonConfig} {x : ImcExecution} {rc : Int}
    {texts : List ImcMessage} (hcall : pmonConfig sockets c x s = some (rc, texts, s')) :
    ConfigsReturned h sockets [c] s rc s' := by
  -- the four counters, the fifth, and those that do not exist
  rcases Nat.lt_trichotomy c.counter 4 with hlt | heq | hgt
  · have hthree : c.counter ≤ 3 := by omega
    by_cases htwo : sockets ≤ 2
    · obtain ⟨texts₁, s₁, hs₁, hr₁, hexec, hothers, -⟩ :=
        hr.configures hapart hpos htwo hthree x
      obtain ⟨rfl, -, rfl⟩ := by simpa using hs₁.symm.trans hcall
      exact ⟨⟨_, hr₁⟩, .inl rfl, by simpa using hthree, fun _ _ _ => htwo, by omega,
        fun _ _ _ => by omega, hothers⟩
    · rw [hr.crashes (by omega) hthree x] at hcall
      contradiction
  · obtain ⟨texts₁, s₁, hs₁, hr₁, hexec, hothers⟩ := hr.fifthFails hpos heq x
    obtain ⟨rfl, -, rfl⟩ := by simpa using hs₁.symm.trans hcall
    refine ⟨⟨_, hr₁⟩, .inr rfl, fun h0 => absurd h0 (by decide), fun c' hc' hle => ?_, by omega,
      fun _ _ _ => by omega, hothers⟩
    obtain rfl := List.mem_singleton.mp hc'
    omega
  · rw [pmonConfig_noCounter hgt x] at hcall
    obtain ⟨rfl, -, rfl⟩ := by simpa using hcall
    refine ⟨⟨_, hr⟩, .inr rfl, fun h0 => absurd h0 (by decide), fun c' hc' hle => ?_, le_rfl,
      fun c' hc' hle => ?_, fun _ _ => rfl⟩
    · obtain rfl := List.mem_singleton.mp hc'
      omega
    · obtain rfl := List.mem_singleton.mp hc'
      omega

theorem intOr_codes {a b : Int} (ha : a = 0 ∨ a = -1) (hb : b = 0 ∨ b = -1) :
    (intOr a b = 0 ∨ intOr a b = -1) ∧ (intOr a b = 0 → a = 0 ∧ b = 0) := by
  rcases ha with rfl | rfl <;> rcases hb with rfl | rfl <;> decide

/-- After `init_pmon_ctrs`. -/
theorem ImcReady.configs (hr : ImcReady h sockets data s) (hapart : h.OffsetsApart)
    (hpos : 1 ≤ sockets) {cs : List PmonConfig} {xs : Nat → ImcExecution} {rc : Int}
    {texts : List ImcMessage} (hcall : pmonConfigs sockets cs xs s = some (rc, texts, s')) :
    ConfigsReturned h sockets cs s rc s' := by
  induction cs generalizing xs s data rc texts with
  | nil =>
    obtain ⟨rfl, -, rfl⟩ := by simpa [pmonConfigs] using hcall
    exact ⟨⟨_, hr⟩, .inl rfl, by simp, by simp, le_rfl, by simp, fun _ _ => rfl⟩
  | cons c cs ih =>
    simp only [pmonConfigs, Option.bind_eq_bind, Option.bind_eq_some_iff] at hcall
    obtain ⟨⟨rc₁, texts₁, s₁⟩, hs₁, ⟨rc₂, texts₂, s₂⟩, hs₂, hout⟩ := hcall
    obtain ⟨rfl, -, rfl⟩ := by simpa using hout
    -- the first configuration, and the rest from the state it leaves
    have hone := hr.config hapart hpos hs₁
    obtain ⟨data₁, hr₁⟩ := hone.ready
    have hrest := ih hr₁ hs₂
    obtain ⟨hcode, hzero⟩ := intOr_codes hone.code hrest.code
    have hmono := hone.mono.trans hrest.mono
    refine ⟨hrest.ready, hcode, fun h0 => ?_, ?_, hmono, ?_, fun reg hother =>
      (hrest.others reg hother).trans (hone.others reg hother)⟩
    · rw [List.forall_mem_cons]
      exact ⟨hone.exist (hzero h0).1 c (List.mem_singleton_self c), hrest.exist (hzero h0).2⟩
    · rw [List.forall_mem_cons]
      exact ⟨hone.twoSockets c (List.mem_singleton_self c), hrest.twoSockets⟩
    · rw [List.forall_mem_cons]
      exact ⟨fun hle => (hone.executed c (List.mem_singleton_self c) hle).trans_le hrest.mono,
        fun c' hc' hle => hone.mono.trans_lt (hrest.executed c' hc' hle)⟩

/-! ## The registers of the counters -/

/-- A register has `v` once a write has reached it, and what it had before: one batch more. -/
theorem reached_cons {reach : Nat → Prop} {n : Nat} {old mid new v : Word}
    (hfirst : (reach 0 → mid = v) ∧ (¬ reach 0 → mid = old))
    (hlater : ((∃ j, j < n ∧ reach (j + 1)) → new = v) ∧
      ((∀ j, j < n → ¬ reach (j + 1)) → new = mid)) :
    ((∃ j, j < n + 1 ∧ reach j) → new = v) ∧ ((∀ j, j < n + 1 → ¬ reach j) → new = old) := by
  constructor
  · rintro ⟨j, hj, hreach⟩
    -- a later write decides, and without one it is the first batch's
    by_cases hsome : ∃ j, j < n ∧ reach (j + 1)
    · exact hlater.1 hsome
    · rw [hlater.2 fun j hj hreach => hsome ⟨j, hj, hreach⟩]
      cases j with
      | zero => exact hfirst.1 hreach
      | succ j => exact absurd ⟨j, Nat.lt_of_succ_lt_succ hj, hreach⟩ hsome
  · intro hnone
    rw [hlater.2 fun j hj => hnone (j + 1) (Nat.succ_lt_succ hj)]
    exact hfirst.2 (hnone 0 (Nat.succ_pos n))

/-- **Configurations of other counters.**  A counter whose data are all `v` keeps them, and
    a register of it has `v` in the end if a write reaches it, and what it had if none
    does. -/
theorem ImcReady.configs_keep (hr : ImcReady h sockets data s) (hapart : h.OffsetsApart)
    (hpos : 1 ≤ sockets) (htwo : sockets ≤ 2) {cs : List PmonConfig}
    (hcs : ∀ c ∈ cs, c.counter ≤ 3) (xs : Nat → ImcExecution) :
    ∃ texts s' data', pmonConfigs sockets cs xs s = some (0, texts, s') ∧
      ImcReady h sockets data' s' ∧
      ∀ k y v, h.cfgLoads[k]? = some y → k ∉ cs.map PmonConfig.counter →
        (∀ i, i < h.counterOps sockets → data k i = v) →
        (∀ i, i < h.counterOps sockets → data' k i = v) ∧
        ∀ i, ((∃ j, j < cs.length ∧ (xs j).Reaches h sockets k i) →
            s'.regs (y.register (h.printed i)) = v) ∧
          ((∀ j, j < cs.length → ¬ (xs j).Reaches h sockets k i) →
            s'.regs (y.register (h.printed i)) = s.regs (y.register (h.printed i))) := by
  induction cs generalizing xs s data with
  | nil =>
    refine ⟨[], s, data, rfl, hr, fun k y v _ _ hv => ⟨hv, fun i => ⟨?_, fun _ => rfl⟩⟩⟩
    rintro ⟨j, hj, -⟩
    exact absurd hj (Nat.not_lt_zero j)
  | cons c cs ih =>
    rw [List.forall_mem_cons] at hcs
    obtain ⟨texts₁, s₁, hs₁, hr₁, -, -, hregs₁⟩ := hr.configures hapart hpos htwo hcs.1 (xs 0)
    obtain ⟨texts', s', data', hs', hr', hkeep⟩ := ih hr₁ hcs.2 fun j => xs (j + 1)
    refine ⟨texts₁ ++ texts', s', data', ?_, hr', fun k y v hy hk hv => ?_⟩
    · simp only [pmonConfigs, hs₁, hs', Option.bind_eq_bind, Option.bind_some]
      rfl
    · rw [List.map_cons, List.mem_cons, not_or] at hk
      have hv₁ : ∀ i, i < h.counterOps sockets →
          withSetting data c.counter (c.setting.setWidth 64) k i = v := fun i hi => by
        rw [withSetting, if_neg hk.1, hv i hi]
      obtain ⟨hdata', hrest⟩ := hkeep k y v hy hk.2 hv₁
      exact ⟨hdata', fun i => reached_cons (hregs₁ k y i v hy hv₁) (hrest i)⟩

/-- The counter's registers have the setting, slot by slot. -/
def SlotsProgrammed (h : ImcHeader) (sockets : Nat) (c : PmonConfig)
    (regs : CsrRegister → Word) : Prop :=
  ∀ x i, h.cfgLoads[c.counter]? = some x → i < h.counterOps sockets →
    regs (x.register (h.printed i)) = c.setting.setWidth 64

/-- The counter was never configured. -/
structure Untouched (h : ImcHeader) (sockets : Nat) (data : Nat → Nat → Word)
    (regs : CsrRegister → Word) (k : Nat) : Prop where
  data : ∀ i, i < h.counterOps sockets → data k i = 0
  regs : ∀ x i, h.cfgLoads[k]? = some x → i < h.counterOps sockets →
    regs (x.register (h.printed i)) = 0

/-- The counter of the first configuration, which none of the others is for: a register of
    it has the setting in the end if a write reaches it, and what it had if none does. -/
theorem ImcReady.first_registers (hr : ImcReady h sockets data s) (hapart : h.OffsetsApart)
    (hpos : 1 ≤ sockets) (htwo : sockets ≤ 2) {c : PmonConfig} {cs : List PmonConfig}
    (hc : c.counter ≤ 3) (hcs : ∀ c ∈ cs, c.counter ≤ 3)
    (hnot : c.counter ∉ cs.map PmonConfig.counter) {xs : Nat → ImcExecution}
    {texts : List ImcMessage} (hcall : pmonConfigs sockets (c :: cs) xs s = some (0, texts, s'))
    {x : ImcLoad} (hx : h.cfgLoads[c.counter]? = some x) (i : Nat) :
    ((∃ j, j ≤ cs.length ∧ (xs j).Reaches h sockets c.counter i) →
      s'.regs (x.register (h.printed i)) = c.setting.setWidth 64) ∧
    ((¬ ∃ j, j ≤ cs.length ∧ (xs j).Reaches h sockets c.counter i) →
      s'.regs (x.register (h.printed i)) = s.regs (x.register (h.printed i))) := by
  obtain ⟨texts₁, s₁, hs₁, hr₁, -, -, hregs₁⟩ := hr.configures hapart hpos htwo hc (xs 0)
  obtain ⟨texts₂, s₂, data₂, hs₂, -, hkeep⟩ :=
    hr₁.configs_keep hapart hpos htwo hcs fun j => xs (j + 1)
  simp only [pmonConfigs, hs₁, hs₂, Option.bind_eq_bind, Option.bind_some, Option.some.injEq,
    Prod.mk.injEq] at hcall
  obtain ⟨-, -, rfl⟩ := hcall
  have hdata : ∀ i, i < h.counterOps sockets →
      withSetting data c.counter (c.setting.setWidth 64) c.counter i = c.setting.setWidth 64 :=
    fun i _ => if_pos rfl
  obtain ⟨-, hlater⟩ := hkeep c.counter x _ hx hnot hdata
  have hreached : (∃ j, j ≤ cs.length ∧ (xs j).Reaches h sockets c.counter i) ↔
      ∃ j, j < cs.length + 1 ∧ (xs j).Reaches h sockets c.counter i := by
    simp only [Nat.lt_succ_iff]
  rw [hreached, not_exists]
  simp only [not_and]
  exact reached_cons (hregs₁ c.counter x i _ hx hdata) (hlater i)

/-- **Different counters.**  They are programmed if all their registers are reached; and
    counters that were never configured are not otherwise. -/
theorem ImcReady.programs (hr : ImcReady h sockets data s) (hapart : h.OffsetsApart)
    (hpos : 1 ≤ sockets) (htwo : sockets ≤ 2) {cs : List PmonConfig}
    (hcs : ∀ c ∈ cs, c.counter ≤ 3) (hnodup : (cs.map PmonConfig.counter).Nodup)
    (xs : Nat → ImcExecution) :
    ∃ texts s', pmonConfigs sockets cs xs s = some (0, texts, s') ∧
      (AllReached h sockets cs xs → ∀ c ∈ cs, SlotsProgrammed h sockets c s'.regs) ∧
      ((∀ c ∈ cs, Untouched h sockets data s.regs c.counter ∧ c.setting.setWidth 64 ≠ (0 : Word)) →
        (∀ c ∈ cs, SlotsProgrammed h sockets c s'.regs) → AllReached h sockets cs xs) := by
  induction cs generalizing xs s data with
  | nil => exact ⟨[], s, rfl, by simp, fun _ _ => trivial⟩
  | cons c cs ih =>
    rw [List.map_cons, List.nodup_cons] at hnodup
    rw [List.forall_mem_cons] at hcs
    obtain ⟨texts₁, s₁, hs₁, hr₁, -, -, hregs₁⟩ := hr.configures hapart hpos htwo hcs.1 (xs 0)
    obtain ⟨texts', s', hs', hall, hnone⟩ := ih hr₁ hcs.2 hnodup.2 fun j => xs (j + 1)
    have hcall : pmonConfigs sockets (c :: cs) xs s = some (0, texts₁ ++ texts', s') := by
      simp only [pmonConfigs, hs₁, hs', Option.bind_eq_bind, Option.bind_some]
      rfl
    have hfirst : ∀ x, h.cfgLoads[c.counter]? = some x → ∀ i, _ := fun x hx =>
      hr.first_registers hapart hpos htwo hcs.1 hcs.2 hnodup.1 hcall hx
    refine ⟨_, s', hcall, fun hreach => ?_, fun hold hprog => ?_⟩
    · rw [List.forall_mem_cons]
      exact ⟨fun x i hx hi => (hfirst x hx i).1 (hreach.1 i hi), hall hreach.2⟩
    · rw [List.forall_mem_cons] at hold hprog
      obtain ⟨⟨huntouched, hsetting⟩, hrest⟩ := hold
      refine ⟨fun i hi => ?_, hnone (fun c' hc' => ⟨?_, (hrest c' hc').2⟩) hprog.2⟩
      · obtain ⟨x, hx⟩ := cfgLoads_of_lt h (show c.counter < 4 by omega)
        by_contra hnever
        have hzero := (hfirst x hx i).2 hnever
        rw [hprog.1 x i hx hi, huntouched.regs x i hx hi] at hzero
        exact hsetting hzero
      · -- the first configuration writes zeroes for the others
        have hne : c'.counter ≠ c.counter := fun heq =>
          hnodup.1 (heq ▸ List.mem_map_of_mem hc')
        have hdata : ∀ i, i < h.counterOps sockets →
            withSetting data c.counter (c.setting.setWidth 64) c'.counter i = 0 := fun i hi => by
          rw [withSetting, if_neg hne, (hrest c' hc').1.data i hi]
        refine ⟨hdata, fun x i hx hi => ?_⟩
        by_cases hreach : (xs 0).Reaches h sockets c'.counter i
        · exact (hregs₁ _ x i 0 hx hdata).1 hreach
        · rw [(hregs₁ _ x i 0 hx hdata).2 hreach, (hrest c' hc').1.regs x i hx hi]

/-- The places of the sockets one by one. -/
theorem socketPlaces_forall (hpos : 1 ≤ sockets) (htwo : sockets ≤ 2) (P : ImcPlace → Prop) :
    (∀ socket, socket < sockets → ∀ place ∈ h.socketPlaces (BitVec.ofNat 8 socket), P place) ↔
      ∀ place ∈ h.places sockets, P place := by
  rw [ImcHeader.places, List.forall_mem_append]
  by_cases hone : sockets > 1
  · obtain rfl : sockets = 2 := by omega
    rw [if_pos hone]
    constructor
    · intro hall
      exact ⟨hall 0 (by omega), hall 1 (by omega)⟩
    · rintro ⟨hzero, hone⟩ socket hsocket
      interval_cases socket
      · exact hzero
      · exact hone
  · obtain rfl : sockets = 1 := by omega
    rw [if_neg hone]
    constructor
    · intro hall
      exact ⟨hall 0 (by omega), by simp⟩
    · rintro ⟨hzero, -⟩ socket hsocket
      interval_cases socket
      exact hzero

/-- The places in the order of the slots. -/
theorem places_forall (P : ImcPlace → Prop) :
    (∀ place ∈ h.places sockets, P place) ↔
      ∀ i, i < h.counterOps sockets → P (h.printed i) := by
  constructor
  · intro hall i hi
    exact hall _ (List.mem_of_getElem? (places_getElem? h hi))
  · intro hall place hplace
    obtain ⟨i, hi⟩ := List.mem_iff_getElem?.mp hplace
    obtain ⟨hlt, -⟩ := List.getElem?_eq_some_iff.mp hi
    obtain rfl := Option.some.inj ((places_getElem? h hlt).symm.trans hi)
    exact hall i hlt

/-- With one device for each controller the channels of all sockets are the slots of a
    counter. -/
theorem programmed_iff (hone : h.OneDevice) (hpos : 1 ≤ sockets) (htwo : sockets ≤ 2)
    {c : PmonConfig} (hc : c.counter ≤ 3) (regs : CsrRegister → Word) :
    Programmed h sockets c regs ↔ SlotsProgrammed h sockets c regs := by
  obtain ⟨x, hx⟩ := cfgLoads_of_lt h (show c.counter < 4 by omega)
  simp only [Programmed, hone.channels_eq]
  constructor
  · rintro ⟨x, hx, hall⟩ x' i hx' hi
    obtain rfl := Option.some.inj (hx.symm.trans hx')
    exact (places_forall _).mp ((socketPlaces_forall hpos htwo _).mp hall) i hi
  · intro hall
    refine ⟨x, hx, ?_⟩
    rw [socketPlaces_forall hpos htwo, places_forall]
    exact fun i hi => hall x i hx hi

/-- Without, there is a channel of socket 0 that no load goes to. -/
theorem channel_not_loaded (hh : h ∈ imcHeaders) (hnot : ¬ h.OneDevice) (sockets : Nat) :
    ∃ place ∈ h.channels 0, place ∉ h.places sockets := by
  have hall : ∀ h ∈ imcHeaders, ¬ h.OneDevice → ∃ place ∈ h.channels 0, place ∉ h.places 2 := by
    decide
  obtain ⟨place, hplace, hout⟩ := hall h hh hnot
  refine ⟨place, hplace, fun hmem => hout ?_⟩
  rw [ImcHeader.places, List.mem_append] at hmem ⊢
  rw [if_pos Nat.one_lt_two]
  refine hmem.imp_right fun hsecond => ?_
  by_cases htwo : sockets > 1
  · rwa [if_pos htwo] at hsecond
  · rw [if_neg htwo] at hsecond
    contradiction

/-- Its registers have no op. -/
theorem noOp_of_not_loaded {place : ImcPlace} (hout : place ∉ h.places sockets) (x : ImcLoad) :
    h.NoOp sockets (x.register place) := by
  intro c y i _ hi heq
  obtain ⟨rfl, -⟩ := ImcLoad.register_inj heq
  exact hout (List.mem_of_getElem? (places_getElem? h hi))

end Config

/-! ## Runs -/

section Runs

variable {h : ImcHeader} {sockets : Nat} {s s' : ImcState}

/-- `init_pmon_ctrs` leaves a batch whose ops have no data. -/
theorem Blocked.evtsReady {pcd : PmonctrsData} {st : CsrBatchStorage}
    (hb : Blocked h sockets st csrImcEvts h.cfgLoads pcd.ctrcfg) :
    EvtsReady h sockets pcd (fun _ _ => 0) st := by
  obtain ⟨id, size, hfresh, hptrs⟩ := hb.fresh
  have hlen : ∀ l ∈ h.blocks sockets h.cfgLoads, l.length = h.counterOps sockets := by
    intro l hl
    obtain ⟨y, -, rfl⟩ := List.mem_map.mp hl
    exact List.length_map ..
  have hcount : (h.blocks sockets h.cfgLoads).flatten.length = 4 * h.counterOps sockets := by
    rw [List.length_flatten, List.map_congr_left hlen, List.map_const', List.sum_replicate]
    rfl
  refine ⟨hfresh.sized, ⟨id, _⟩, by rw [hfresh.entry, hcount], ?_, hptrs, fun c x i hx hi => ?_⟩
  · rw [List.length_append, hcount]
    exact Nat.le_add_right _ _
  · have hop : (h.blocks sockets h.cfgLoads).flatten[c * h.counterOps sockets + i]? =
        some (x.op (h.printed i)) := by
      rw [Blocks.getElem?_flatten hlen hi, ImcHeader.blocks, List.getElem?_map, hx,
        Option.map_some, Option.bind_some, List.getElem?_map, places_getElem? h hi,
        Option.map_some]
    obtain ⟨hlt, -⟩ := List.getElem?_eq_some_iff.mp hop
    refine ⟨_, (List.getElem?_append_left hlt).trans hop, ?_, rfl, rfl⟩
    obtain ⟨offt, -, rfl⟩ := List.mem_map.mp (List.mem_of_getElem? hx)
    rfl

/-- `init_pmon_ctrs`, where it can return. -/
theorem ImcUnset.initialize (hu : ImcUnset sockets s) (hpos : 1 ≤ sockets)
    (hfits : 10 * (numCtrs * sockets) < 2 ^ 31) :
    ∃ s', imcStep h sockets s .initPmonCtrs = some s' ∧
      ImcReady h sockets (fun _ _ => 0) s' ∧ s'.regs = s.regs := by
  have hctrs : (s.proc.st.entry csrImcCtrs).numops = 0 := by rw [hu.ctrs]; rfl
  have hevts : (s.proc.st.entry csrImcEvts).numops = 0 := by rw [hu.evts]; rfl
  obtain ⟨r, hr, -, hblocked, -, hfifth⟩ :=
    initPmonCtrs_spec h hpos hfits hu.sized hctrs hevts
  refine ⟨{ s with pcd := r.pcd, init := true, proc := { s.proc with st := r.st } }, ?_,
    ⟨rfl, hblocked.evtsReady, hfifth⟩, rfl⟩
  rw [imcStep, hu.init, hr]
  rfl

/-- The states of a run. -/
def ImcInv (h : ImcHeader) (sockets : Nat) (s : ImcState) : Prop :=
  ImcUnset sockets s ∨
    (10 * (numCtrs * sockets) < 2 ^ 31 ∧ ∃ data, ImcReady h sockets data s)

theorem start_unset (sockets : Nat) (p : CsrProcess) (regs : CsrRegister → Word) :
    ImcUnset sockets (.start sockets p regs) :=
  ⟨rfl, rfl, GrowTable.init_sized, rfl, rfl⟩

/-- A list of configurations keeps it. -/
theorem ImcInv.configs (hI : ImcInv h sockets s) (hapart : h.OffsetsApart) (hpos : 1 ≤ sockets)
    {cs : List PmonConfig} {xs : Nat → ImcExecution} {rc : Int} {texts : List ImcMessage}
    (hcall : pmonConfigs sockets cs xs s = some (rc, texts, s')) : ImcInv h sockets s' := by
  rcases hI with hu | ⟨hfits, data, hr⟩
  · obtain ⟨rc', texts', s'', hs'', hu'', -⟩ := hu.configs hpos cs xs
    obtain ⟨-, -, rfl⟩ := by simpa using hs''.symm.trans hcall
    exact .inl hu''
  · exact .inr ⟨hfits, (hr.configs hapart hpos hcall).ready⟩

/-- A call that returned was refused, or made its configurations. -/
theorem EventFunction.call_cases {f : EventFunction} {xs : Nat → ImcExecution} {rc : Int}
    {texts : List ImcMessage} (hcall : f.call sockets xs s = some (rc, texts, s')) :
    ((∃ c ∈ f.checked, 4 < c) ∧ rc = -1 ∧ s' = s) ∨
      ((¬ ∃ c ∈ f.checked, 4 < c) ∧
        ∃ texts', pmonConfigs sockets f.configs xs s = some (rc, texts', s')) := by
  have hany : (f.checked.any (4 < ·) = true) ↔ ∃ c ∈ f.checked, 4 < c := by simp
  by_cases hrefused : ∃ c ∈ f.checked, 4 < c
  · rw [EventFunction.call, if_pos (hany.mpr hrefused)] at hcall
    obtain ⟨rfl, -, rfl⟩ := by simpa using hcall
    exact .inl ⟨hrefused, rfl, rfl⟩
  · rw [EventFunction.call, if_neg fun htrue => hrefused (hany.mp htrue)] at hcall
    obtain ⟨⟨rc', texts', s''⟩, hs'', hout⟩ := Option.map_eq_some_iff.mp hcall
    obtain ⟨rfl, -, rfl⟩ := by simpa using hout
    exact .inr ⟨hrefused, texts', hs''⟩

/-- **Step lemma.** -/
theorem ImcInv.step (hI : ImcInv h sockets s) (hapart : h.OffsetsApart) (hpos : 1 ≤ sockets)
    {call : ImcCall} (hcall : imcStep h sockets s call = some s') : ImcInv h sockets s' := by
  cases call with
  | initPmonCtrs =>
    rcases hI with hu | ⟨hfits, data, hr⟩
    · by_cases hfits : 10 * (numCtrs * sockets) < 2 ^ 31
      · obtain ⟨s'', hs'', hr'', -⟩ := hu.initialize (h := h) hpos hfits
        obtain rfl := Option.some.inj (hs''.symm.trans hcall)
        exact .inr ⟨hfits, _, hr''⟩
      · rw [imcStep, hu.init, initPmonCtrs, if_pos (Nat.not_lt.mp hfits)] at hcall
        contradiction
    · rw [imcStep, if_pos hr.init] at hcall
      obtain rfl := Option.some.inj hcall
      exact .inr ⟨hfits, data, hr⟩
  | config c x =>
    obtain ⟨⟨rc, texts, s''⟩, hs'', rfl⟩ := Option.map_eq_some_iff.mp hcall
    have hone : pmonConfigs sockets [c] (fun _ => x) s = some (intOr rc 0, texts ++ [], s'') := by
      simp only [pmonConfigs, hs'', Option.bind_eq_bind, Option.bind_some]
    exact hI.configs hapart hpos hone
  | mem call xs =>
    obtain ⟨⟨rc, texts, s''⟩, hs'', rfl⟩ := Option.map_eq_some_iff.mp hcall
    rcases EventFunction.call_cases hs'' with ⟨-, -, rfl⟩ | ⟨-, texts', hconfigs⟩
    · exact hI
    · exact hI.configs hapart hpos hconfigs

/-- **Run lemma.** -/
theorem ImcReachable.inv (hreach : ImcReachable h sockets s) (hapart : h.OffsetsApart)
    (hpos : 1 ≤ sockets) : ImcInv h sockets s := by
  obtain ⟨p, regs, calls, hrun⟩ := hreach
  exact Runs.run_inv (fun _ _ _ hI hstep => ImcInv.step hI hapart hpos hstep)
    (Or.inl (start_unset sockets p regs)) hrun

/-! ## The three functions -/

/-- What a function compares with 4 are counters that it configures. -/
theorem EventCall.checked_counters (call : EventCall) :
    call.function.checked ≠ [] ∧ ∀ c ∈ call.function.checked, c ∈ call.function.counters := by
  cases call <;>
    simp [EventCall.function, EventFunction.counters, memPctRwOnCtr, memPageEmptyOnCtr,
      memPageMissOnCtr]

/-- Every setting enables its counter. -/
theorem EventCall.setting_ne (call : EventCall) :
    ∀ c ∈ call.function.configs, c.setting.setWidth 64 ≠ (0 : Word) := by
  cases call with
  | pctRw rcounter wcounter =>
    simp only [EventCall.function, memPctRwOnCtr, List.forall_mem_cons, PmonConfig.setting]
    decide
  | pageEmpty actCount preCount casCount =>
    simp only [EventCall.function, memPageEmptyOnCtr, List.forall_mem_cons, PmonConfig.setting]
    decide
  | pageMiss preCount casCount =>
    simp only [EventCall.function, memPageMissOnCtr, List.forall_mem_cons, PmonConfig.setting]
    decide

/-- A call that is not refused makes its configurations. -/
theorem EventFunction.call_configs {f : EventFunction} {xs : Nat → ImcExecution} {rc : Int}
    {texts : List ImcMessage} (hchecked : ¬ ∃ c ∈ f.checked, 4 < c)
    (hconfigs : pmonConfigs sockets f.configs xs s = some (rc, texts, s')) :
    ∃ texts', f.call sockets xs s = some (rc, texts', s') := by
  have hany : ¬ f.checked.any (4 < ·) = true := by simpa using hchecked
  refine ⟨(if f.same then [f.sameRegister] else []) ++ texts, ?_⟩
  rw [EventFunction.call, if_neg hany, hconfigs]
  rfl

/-- Where the condition holds a call is sound. -/
theorem EventCall.Holds.sound {call : EventCall} {xs : Nat → ImcExecution}
    (hholds : call.Holds h sockets xs) (hapart : h.OffsetsApart) (hpos : 1 ≤ sockets) :
    call.Sound h sockets xs := by
  intro s hreach
  by_cases hrefused : ∃ c ∈ call.function.checked, 4 < c
  · refine ⟨-1, [call.function.noCounter], s, ?_, ⟨fun h0 => absurd h0 (by decide),
      fun _ => ⟨rfl, rfl, rfl⟩⟩⟩
    rw [EventFunction.call, if_pos (by simpa using hrefused)]
  · rcases hreach.inv hapart hpos with hu | ⟨hfits, data, hr⟩
    · obtain ⟨rc, texts, s', hs', hu', hregs, hexec, hrc⟩ :=
        hu.configs hpos call.function.configs xs
      obtain ⟨texts', hcall⟩ := EventFunction.call_configs hrefused hs'
      obtain ⟨hne, hmem⟩ := call.checked_counters
      have hconfigs : call.function.configs ≠ [] := by
        obtain ⟨c, hc⟩ := List.exists_mem_of_ne_nil _ hne
        exact fun hnil => List.ne_nil_of_mem (hmem c hc) (congrArg (List.map _) hnil)
      refine ⟨rc, texts', s', hcall, ⟨fun h0 => absurd (h0.symm.trans (hrc hconfigs)) (by decide),
        fun _ => ⟨hregs, hexec, ?_⟩⟩⟩
      rw [CsrProcess.ops, CsrProcess.ops, hu'.evts, hu.evts]
    · rcases hholds with hover | hbig | ⟨hone, hnodup, hthree, htwo, hreached⟩
      · exact absurd hover hrefused
      · exact absurd hfits (Nat.not_lt.mpr hbig)
      · have hcs : ∀ c ∈ call.function.configs, c.counter ≤ 3 := fun c hc =>
          hthree _ (List.mem_map_of_mem hc)
        obtain ⟨texts, s', hs', hprog, -⟩ := hr.programs hapart hpos htwo hcs hnodup xs
        obtain ⟨texts', hcall⟩ := EventFunction.call_configs hrefused hs'
        refine ⟨0, texts', s', hcall, fun _ => ⟨hnodup, fun c hc => ?_⟩, fun h0 => absurd rfl h0⟩
        exact (programmed_iff hone hpos htwo (hcs c hc) _).mpr (hprog hreached c hc)

/-- Where a call is sound, right after `init_pmon_ctrs` already, the condition holds. -/
theorem EventCall.Sound.holds {call : EventCall} {xs : Nat → ImcExecution}
    (hsound : call.Sound h sockets xs) (hh : h ∈ imcHeaders) (hpos : 1 ≤ sockets) :
    call.Holds h sockets xs := by
  have hapart := imcHeaders_offsetsApart hh
  by_cases hrefused : ∃ c ∈ call.function.checked, 4 < c
  · exact .inl hrefused
  by_cases hfits : 10 * (numCtrs * sockets) < 2 ^ 31
  · have hu := start_unset sockets .start fun _ => 0
    obtain ⟨s, hs, hr, hregs⟩ := hu.initialize (h := h) hpos hfits
    have hreach : ImcReachable h sockets s :=
      ⟨.start, fun _ => 0, [.initPmonCtrs], by rw [Runs.run_cons, hs]; rfl⟩
    obtain ⟨rc, texts, s', hcall, hall, hnothing⟩ := hsound s hreach
    rcases EventFunction.call_cases hcall with ⟨hover, -⟩ | ⟨-, texts', hconfigs⟩
    · exact absurd hover hrefused
    obtain ⟨hne, hmem⟩ := call.checked_counters
    obtain ⟨k, hk⟩ := List.exists_mem_of_ne_nil _ hne
    -- a counter that was compared with 4 is configured
    obtain ⟨c, hc, rfl⟩ := List.mem_map.mp (hmem k hk)
    have hfour : c.counter ≤ 4 := Nat.not_lt.mp fun hover => hrefused ⟨_, hk, hover⟩
    have hret := hr.configs hapart hpos hconfigs
    -- a batch was executed, so the call has to have returned 0
    have hrc : rc = 0 := by
      by_contra hfailed
      have hlt := hret.executed c hc hfour
      rw [(hnothing hfailed).2.1] at hlt
      exact Nat.lt_irrefl _ hlt
    have hthree := hret.exist hrc
    have htwo := hret.twoSockets c hc (hthree c hc)
    obtain ⟨hnodup, hprog⟩ := hall hrc
    -- a channel without an op would still have the 0 it had
    have hone : h.OneDevice := by
      by_contra hnot
      obtain ⟨place, hplace, hout⟩ := channel_not_loaded hh hnot sockets
      obtain ⟨x, -, hset⟩ := hprog c hc
      have hkept := hret.others _ (noOp_of_not_loaded hout x)
      rw [hset 0 hpos place hplace, hregs] at hkept
      exact call.setting_ne c hc hkept
    obtain ⟨texts'', s'', hs'', -, hreached⟩ := hr.programs hapart hpos htwo hthree hnodup xs
    obtain ⟨-, -, rfl⟩ := by simpa using hs''.symm.trans hconfigs
    refine .inr (.inr ⟨hone, hnodup, ?_, htwo, hreached (fun c hc => ⟨⟨fun _ _ => rfl, ?_⟩,
      call.setting_ne c hc⟩) fun c hc => ?_⟩)
    · intro k hk
      obtain ⟨c, hc, rfl⟩ := List.mem_map.mp hk
      exact hthree c hc
    · intro x i _ _
      rw [hregs]
      rfl
    · exact (programmed_iff hone hpos htwo (hthree c hc) _).mp (hprog c hc)
  · exact .inr (.inl (Nat.not_lt.mp hfits))

end Runs

/-- **Giving counters their events.**  A call of one of the three functions does all or
    nothing in every state that calls can lead to exactly when it is refused, or the header
    has one device for each controller, its counters are different ones of the first four,
    there are at most two sockets, and a write reaches each of their registers; and where
    `init_pmon_ctrs` cannot return. -/
theorem eventCall_sound_iff {h : ImcHeader} (hh : h ∈ imcHeaders) {sockets : Nat}
    (hpos : 1 ≤ sockets) (call : EventCall) (xs : Nat → ImcExecution) :
    call.Sound h sockets xs ↔ call.Holds h sockets xs :=
  ⟨fun hsound => hsound.holds hh hpos,
    fun hholds => hholds.sound (imcHeaders_offsetsApart hh) hpos⟩

/-- A driver that executes every op. -/
def allExecuted : Nat → ImcExecution := fun _ => ⟨0, fun _ => 0, fun _ => 0, fun _ => true⟩

/-- Two counters on a machine with two sockets. -/
theorem intel3E_pctRw : (EventCall.pctRw 0 1).Sound intel3E 2 allExecuted := by
  have hreaches : ∀ k i, i < intel3E.counterOps 2 →
      (allExecuted 0).Reaches intel3E 2 k i := fun _ i hi => ⟨i, hi, rfl, rfl⟩
  refine (eventCall_sound_iff (by decide) (by decide) _ _).mpr
    (.inr (.inr ⟨by decide, by decide, by decide, by decide, ?_, ?_, trivial⟩))
  · intro i hi
    exact ⟨0, Nat.zero_le _, hreaches 0 i hi⟩
  · intro i hi
    exact ⟨0, Nat.zero_le _, hreaches 1 i hi⟩

/-- A CAS counter that does not exist, on a machine with one socket: the call returns -1
    after it gave counter 1 the PRE event and executed the batch. -/
theorem intel3E_pageMiss :
    ((Runs.run (imcStep intel3E 1) (.start 1 .start fun _ => 0) [.initPmonCtrs]).bind fun s =>
        ((EventCall.pageMiss 1 7).function.call 1 allExecuted s).map fun r =>
          (r.1, r.2.1, r.2.2.executed, r.2.2.regs ⟨1, 16, 4, 0, 0xDC⟩)) =
      some (-1, [.perfmonCounterDoesNotExist], 1, 0x430102) ∧
    ¬ (EventCall.pageMiss 1 7).Sound intel3E 1 allExecuted := by
  refine ⟨by decide +kernel, fun hsound => ?_⟩
  rcases hsound.holds (by decide) (by decide) with hover | hbig | ⟨-, -, hthree, -⟩
  · exact absurd hover (by decide)
  · exact absurd hbig (by decide)
  · exact absurd hthree (by decide)

end Libmsr
