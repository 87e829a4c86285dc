/-
  Libmsr.Counters.CounterDump

  The dumps of the fixed counters (src/msr_counters.c): `dump_fixed_counter_data_terse`,
  `dump_fixed_counter_data_terse_label` and `dump_fixed_counter_data_readable`.

  The functions that set and get the controls, the dumps, and the hardware that counts
  events take turns.  A dump prints the counters, each under its label; and since the
  controls were set last, these have counted the events of the enabled ones.
-/
import Libmsr.Core.TableStorage
import Libmsr.Counters.CounterRuns
import Libmsr.Lib.Listing

namespace Libmsr

open Listing

/-! ## The functions -/

/-- The loop of the dumps: `*c0->value[i]`, `*c1->value[i]` and `*c2->value[i]`. -/
def printFixedCounters (w : BatchWorld) (ctr : Fin 3 → FixedCounter) (totalThreads : Nat) :
    Option (List (List Word)) :=
  (List.range totalThreads).mapM fun i => (List.finRange 3).mapM fun k => do
    let p ← ptrAt (ctr k).value i
    w.st.load fixedCountersDataBatch p

/-- `dump_fixed_counter_data_readable`: the numbers of each line.  Line `i` is for
    thread `i`. -/
def dumpFixedCounterDataReadable (P : Platform) (s : CounterState) :
    Option (List (List Word) × CounterState) := do
  let s ← fixedCounterStorage P s
  let w ← s.world.readBatch P fixedCountersDataBatch
  let lines ← printFixedCounters w s.ctr P.cfg.numDevs
  some (lines, { s with world := w })

/-- `dump_fixed_counter_data_terse`: the same numbers on one line. -/
def dumpFixedCounterDataTerse (P : Platform) (s : CounterState) :
    Option (List Word × CounterState) :=
  (dumpFixedCounterDataReadable P s).map fun r => (r.1.flatten, r.2)

/-- The labels of the three counters: instructions retired, unhalted core cycles and
    unhalted reference cycles. -/
def fixedCounterNames : List String := ["IR", "UCC", "URC"]

/-- `dump_fixed_counter_data_terse_label`: the labels it prints. -/
def dumpFixedCounterDataTerseLabel (cfg : CoreConfig) : List String :=
  (List.range cfg.numDevs).flatMap fun i => ["IR" ++ pad 2 i, "UCC" ++ pad 2 i, "URC" ++ pad 2 i]

/-! ## What they print -/

/-- The counters can be read on every CPU. -/
def CountersReadable (P : Platform) (h : Host) : Prop :=
  ∀ cpu, cpu < P.cfg.numDevs → ∀ msr ∈ [ia32FixedCtr0, ia32FixedCtr1, ia32FixedCtr2],
    h.fails cpu msr = false

instance (P : Platform) (h : Host) : Decidable (CountersReadable P h) :=
  inferInstanceAs (Decidable (∀ cpu, cpu < P.cfg.numDevs →
    ∀ msr ∈ [ia32FixedCtr0, ia32FixedCtr1, ia32FixedCtr2], h.fails cpu msr = false))

section Dump

variable {P : Platform} {s : CounterState}

/-- The loop prints the cells. -/
theorem DataLoaded.print {id : Nat} {data : Nat → Word} (h : DataLoaded P s id data) :
    printFixedCounters s.world s.ctr P.cfg.numDevs =
      some ((List.range P.cfg.numDevs).map fun t =>
        (List.finRange 3).map fun k : Fin 3 => data (k.val * P.cfg.numDevs + t)) := by
  refine Loops.mapM_some fun t ht => Loops.mapM_some fun k _ => ?_
  have ht := List.mem_range.mp ht
  have hptr : ptrAt (s.ctr k).value t = some ⟨id, k * P.cfg.numDevs + t⟩ := by
    rw [h.value k, ptrAt_rowPtrs ht]
  simp only [hptr, Option.bind_eq_bind, Option.bind_some, h.cells.load (counter_lt ht k)]

/-- A dump prints the registers, line by line, and changes none. -/
theorem CounterInv.dump (hI : CounterInv P s) (hn : P.cfg.numDevs ≤ 2 ^ 16)
    (hreads : CountersReadable P s.world.host) :
    ∃ s', dumpFixedCounterDataReadable P s = some ((List.range P.cfg.numDevs).map fun t =>
        (List.range 3).map fun k => s.world.host.regs t (ia32FixedCtr0 + k), s') ∧
      CounterInv P s' ∧ s.world.host.SameDevices s'.world.host ∧
      s'.world.host.regs = s.world.host.regs := by
  obtain ⟨s₁, hs₁, hI₁, ⟨id, data, hl⟩, hhost₁⟩ := fixedCounterStorage_spec hI
  have hok : ∀ i, i < P.cfg.numDevs + P.cfg.numDevs + P.cfg.numDevs →
      s₁.world.host.fails (dataPlace P.cfg.numDevs i).1 (dataPlace P.cfg.numDevs i).2 = false := by
    intro i hi
    obtain ⟨t, ht, msr, hmsr, hplace⟩ := dataPlace_eq hi
    rw [hplace, hhost₁]
    exact hreads _ ((Nat.mod_le _ _).trans_lt ht) _ hmsr
  obtain ⟨w₂, hw₂, hcells₂, hregs₂, hsame₂, hkeep₂⟩ := hl.cells.readBatch hI₁.works.works hok
  have hl₂ : DataLoaded P { s₁ with world := w₂ } id _ := ⟨hl.init, hl.value, hcells₂⟩
  refine ⟨{ s₁ with world := w₂ }, ?_, ⟨hI₁.works.of_sameDevices hsame₂, hcells₂.sized,
    Or.inr ⟨id, _, hl₂⟩, ctrl_of_keepsOthers hI₁ hcells₂.sized hkeep₂ rfl rfl, hI₁.get,
    hI₁.set⟩, hhost₁ ▸ hsame₂, ?_⟩
  · have hprint := hl₂.print
    -- op `k * n + t` is counter `k` of CPU `t`
    have hcell : ∀ t, t < P.cfg.numDevs → ∀ k : Fin 3,
        RegFile.at s₁.world.host.regs (dataPlace P.cfg.numDevs (k * P.cfg.numDevs + t)) =
          s.world.host.regs t (ia32FixedCtr0 + k) := by
      intro t ht k
      have hmsr : ia32FixedCtr0 + (k : Nat) < 2 ^ 32 := by
        have hbase : ia32FixedCtr0 = 0x309 := rfl
        omega
      rw [dataPlace_counter ht, opPlace_of_lt hmsr (ht.trans_le hn), hhost₁]
      rfl
    have hlines : (List.range P.cfg.numDevs).map (fun t => (List.finRange 3).map fun k : Fin 3 =>
          RegFile.at s₁.world.host.regs (dataPlace P.cfg.numDevs (k.val * P.cfg.numDevs + t))) =
        (List.range P.cfg.numDevs).map fun t =>
          (List.range 3).map fun k => s.world.host.regs t (ia32FixedCtr0 + k) := by
      refine List.map_congr_left fun t ht => ?_
      simp only [hcell t (List.mem_range.mp ht)]
      rfl
    simp only [dumpFixedCounterDataReadable, hs₁, hw₂, Option.bind_eq_bind, Option.bind_some]
    rw [hprint, hlines]
    rfl
  · exact hregs₂.trans (congrArg Host.regs hhost₁)

/-- The terse dump prints each counter under its label. -/
theorem CounterInv.dump_labelled (hI : CounterInv P s) (hn : P.cfg.numDevs ≤ 2 ^ 16)
    (hreads : CountersReadable P s.world.host) :
    ∃ values s', dumpFixedCounterDataTerse P s = some (values, s') ∧
      Labelled (columnText 2 fixedCounterNames)
        (fun l => s.world.host.regs l.2 (ia32FixedCtr0 + l.1))
        (dumpFixedCounterDataTerseLabel P.cfg) values ∧
      values = (List.range P.cfg.numDevs).flatMap fun t =>
        (List.range 3).map fun k => s.world.host.regs t (ia32FixedCtr0 + k) := by
  obtain ⟨s', hs', -⟩ := hI.dump hn hreads
  refine ⟨_, s', ?_, labelled_columns 2 fixedCounterNames (by decide) (by decide) _
    (fun k t => s.world.host.regs t (ia32FixedCtr0 + k)), rfl⟩
  rw [dumpFixedCounterDataTerse, hs', Option.map_some, List.flatMap_def]
  rfl

end Dump

/-! ## Counting -/

/-- A counter counts if it is enabled, and for some ring. -/
def CounterControl.Counts (c : CounterControl) : Prop := c.enable ≠ 0 ∧ c.ringLevel ≠ 0

instance (c : CounterControl) : Decidable c.Counts := inferInstanceAs (Decidable (_ ∧ _))

/-- What happens to the counters: a call, a dump, or `n` events for a counter of a
    thread. -/
inductive CounterEvent where
  | call (c : CounterCall)
  | dump
  | events (thread : Nat) (k : Fin 3) (n : Nat)

def CounterEvent.InRange (n : Nat) : CounterEvent → Prop
  | .call c => c.InRange n
  | .dump => True
  | .events _ _ _ => True

/-- The hardware adds events to a counter that counts; it has `width` bits. -/
def countEvents (width : Nat) (regs : RegFile) (thread : Nat) (k : Fin 3) (n : Nat) : RegFile :=
  fun cpu msr =>
    if cpu = thread ∧ msr = ia32FixedCtr0 + k ∧ (CounterControl.ofMsr k
        (regs thread ia32PerfGlobalCtrl) (regs thread ia32FixedCtrCtrl)).Counts then
      BitVec.ofNat 64 (((regs cpu msr).toNat + n) % 2 ^ width)
    else regs cpu msr

section CountEvents

variable {width : Nat} {regs : RegFile} {thread : Nat} {k : Fin 3} {n : Nat}

/-- Counting leaves the control registers. -/
theorem countEvents_control {msr : Nat} (h : msr ∈ [ia32PerfGlobalCtrl, ia32FixedCtrCtrl])
    (t : Nat) : countEvents width regs thread k n t msr = regs t msr := by
  refine if_neg fun hcount => ?_
  have hne : ∀ msr ∈ [ia32PerfGlobalCtrl, ia32FixedCtrCtrl], ∀ k : Fin 3,
      msr ≠ ia32FixedCtr0 + k := by
    decide
  exact hne msr h k hcount.2.1

/-- It leaves the other counters, and the other threads. -/
theorem countEvents_other {t : Nat} {j : Fin 3} (h : ¬ (t = thread ∧ (j : Nat) = k)) :
    countEvents width regs thread k n t (ia32FixedCtr0 + j) = regs t (ia32FixedCtr0 + j) :=
  if_neg fun hcount => h ⟨hcount.1, Nat.add_left_cancel hcount.2.1⟩

theorem countEvents_on (h : (CounterControl.ofMsr k (regs thread ia32PerfGlobalCtrl)
      (regs thread ia32FixedCtrCtrl)).Counts) :
    countEvents width regs thread k n thread (ia32FixedCtr0 + k) =
      BitVec.ofNat 64 (((regs thread (ia32FixedCtr0 + k)).toNat + n) % 2 ^ width) :=
  if_pos ⟨rfl, rfl, h⟩

theorem countEvents_off (h : ¬ (CounterControl.ofMsr k (regs thread ia32PerfGlobalCtrl)
      (regs thread ia32FixedCtrCtrl)).Counts) :
    countEvents width regs thread k n thread (ia32FixedCtr0 + k) =
      regs thread (ia32FixedCtr0 + k) :=
  if_neg fun hcount => h hcount.2.2

end CountEvents

def counterEventStep (P : Platform) (width : Nat) (s : CounterState) :
    CounterEvent → Option CounterState
  | .call c => counterStep P s c
  | .dump => (dumpFixedCounterDataTerse P s).map Prod.snd
  | .events thread k n => some { s with world := { s.world with host := { s.world.host with
      regs := countEvents width s.world.host.regs thread k n } } }

/-- The controls set last, and how many events each counter has counted since. -/
structure CounterRecord where
  latest : Option (Fin 3 → Nat → CounterControl)
  count : Nat → Nat → Nat

/-- Nothing was set. -/
def CounterRecord.start : CounterRecord := ⟨none, fun _ _ => 0⟩

/-- The controls set last let the counter count. -/
def CounterRecord.counts (r : CounterRecord) (thread : Nat) (k : Fin 3) : Bool :=
  r.latest.any fun c => decide (c k thread).Counts

/-- The record after something happened. -/
def CounterRecord.update (r : CounterRecord) : CounterEvent → CounterRecord
  | .call c => if c.controls.isNone then r else ⟨c.controls, fun _ _ => 0⟩
  | .dump => r
  | .events thread k n => ⟨r.latest, fun t j =>
      if t = thread ∧ j = k ∧ r.counts thread k then r.count t j + n else r.count t j⟩

/-- The registers have the controls of the record, and its counts. -/
structure CountsAgree (n width : Nat) (regs : RegFile) (r : CounterRecord) : Prop where
  control : ∀ c, r.latest = some c → ∀ t, t < n → ∀ k : Fin 3,
    CounterControl.ofMsr k (regs t ia32PerfGlobalCtrl) (regs t ia32FixedCtrCtrl) = c k t
  count : ∀ c, r.latest = some c → ∀ t, t < n → ∀ k : Fin 3,
    regs t (ia32FixedCtr0 + k) = BitVec.ofNat 64 (r.count t k % 2 ^ width)

/-- Setting controls that fit. -/
theorem CountsAgree.set {n width : Nat} (hn : n ≤ 2 ^ 16) {c : Fin 3 → Nat → CounterControl}
    {regs regs' : RegFile} (hrange : ∀ k t, t < n → (c k t).InRange)
    (hset : ControlsSet n (fun t k => c k t) regs regs') :
    CountsAgree n width regs' ⟨some c, fun _ _ => 0⟩ := by
  constructor
  · intro c' hc' t ht k
    obtain rfl := Option.some.inj hc'
    rw [hset.perf hn t ht, hset.fixed hn t ht]
    exact ofMsr_words (fun k => hrange k t ht) _ _ k
  · intro c' _ t ht k
    rw [hset.zero hn t ht k, Nat.zero_mod]
    rfl

/-- Events of a counter: it adds them if the controls set last let it, and the control
    registers stay. -/
theorem CountsAgree.events {n width : Nat} (hwidth : width ≤ 64) {regs : RegFile}
    {r : CounterRecord} (h : CountsAgree n width regs r) (thread : Nat) (k : Fin 3) (e : Nat) :
    CountsAgree n width (countEvents width regs thread k e) (r.update (.events thread k e)) := by
  constructor
  · intro c hc t ht j
    rw [countEvents_control (List.mem_cons_self ..),
      countEvents_control (List.mem_cons_of_mem _ (List.mem_cons_self ..))]
    exact h.control c hc t ht j
  · intro c hc t ht j
    have hold := h.count c hc t ht j
    have hcounts : r.counts thread k = true ↔ (c k thread).Counts := by
      rw [CounterRecord.counts, show r.latest = some c from hc, Option.any_some, decide_eq_true_iff]
    by_cases hsame : t = thread ∧ (j : Nat) = k
    · obtain ⟨rfl, hjk⟩ := hsame
      obtain rfl := Fin.ext hjk
      have hfields := h.control c hc t ht j
      by_cases hon : (c j t).Counts
      · have hcount : (r.update (.events t j e)).count t j = r.count t j + e :=
          if_pos ⟨rfl, rfl, hcounts.mpr hon⟩
        have hpow : 2 ^ width ≤ 2 ^ 64 := Nat.pow_le_pow_right Nat.two_pos hwidth
        have hlt : r.count t j % 2 ^ width < 2 ^ 64 :=
          (Nat.mod_lt _ (Nat.two_pow_pos width)).trans_le hpow
        -- the sum is taken modulo the width before and after
        rw [countEvents_on (hfields ▸ hon), hcount, hold, BitVec.toNat_ofNat,
          Nat.mod_eq_of_lt hlt, Nat.mod_add_mod]
      · have hcount : (r.update (.events t j e)).count t j = r.count t j :=
          if_neg fun hcount => hon (hcounts.mp hcount.2.2)
        rw [countEvents_off (hfields ▸ hon), hcount]
        exact hold
    · have hcount : (r.update (.events thread k e)).count t j = r.count t j :=
        if_neg fun hcount => hsame ⟨hcount.1, hcount.2.1⟩
      rw [countEvents_other hsame, hcount]
      exact hold

/-! ## Runs -/

/-- What holds between the steps of a run. -/
structure CounterEventInv (P : Platform) (width : Nat) (s : CounterState) (r : CounterRecord) :
    Prop where
  inv : CounterInv P s
  reads : CountersReadable P s.world.host
  agree : CountsAgree P.cfg.numDevs width s.world.host.regs r

/-- **Step lemma.**  A step succeeds, and the registers agree with the new record. -/
theorem counterEventStep_agree {P : Platform} (hn : P.cfg.numDevs ≤ 2 ^ 16) {width : Nat}
    (hwidth : width ≤ 64) (s : CounterState) (r : CounterRecord) (event : CounterEvent)
    (h : CounterEventInv P width s r) (hrange : event.InRange P.cfg.numDevs) :
    ∃ s', counterEventStep P width s event = some s' ∧
      CounterEventInv P width s' (r.update event) := by
  obtain ⟨hI, hreads, hagree⟩ := h
  have hkept : ∀ s' : CounterState, s.world.host.SameDevices s'.world.host →
      CountersReadable P s'.world.host := fun s' hsame => by
    rw [CountersReadable, hsame.fails]
    exact hreads
  cases event with
  | call c =>
    obtain ⟨s', hs', hdone⟩ := hI.step c
    refine ⟨s', hs', hdone.inv, hkept s' hdone.devices, ?_⟩
    rw [CounterRecord.update]
    cases hc : c.controls with
    | none =>
      rw [hdone.left hc]
      exact hagree
    | some controls => exact .set hn (CounterCall.InRange.controls hrange hc) (hdone.set _ hc)
  | dump =>
    obtain ⟨s', hs', hI', hsame, hregs⟩ := hI.dump hn hreads
    refine ⟨s', ?_, hI', hkept s' hsame, hregs ▸ hagree⟩
    rw [counterEventStep, dumpFixedCounterDataTerse, hs']
    rfl
  | events thread k n =>
    let s' : CounterState := { s with world := { s.world with host := { s.world.host with
      regs := countEvents width s.world.host.regs thread k n } } }
    have hsame : s.world.host.SameDevices s'.world.host := ⟨rfl, rfl, rfl, rfl⟩
    -- the tables are those of before
    have hdata : (s'.init = false ∧ s'.world.st.entry fixedCountersDataBatch = .empty) ∨
        ∃ id data, DataLoaded P s' id data :=
      data_of_keepsOthers hI hI.sized (.refl _ _) rfl rfl
    have hctrl : (s'.ctrlInit = false ∧ s'.world.st.entry fixedCountersCtrDataBatch = .empty) ∨
        ∃ id data, CtrlLoaded P s' id data :=
      ctrl_of_keepsOthers hI hI.sized (.refl _ _) rfl rfl
    exact ⟨s', rfl, ⟨hI.works.of_sameDevices hsame, hI.sized, hdata, hctrl, hI.get, hI.set⟩,
      hkept s' hsame, hagree.events hwidth thread k n⟩

/-- **Dumps of the fixed counters.**  Calls, dumps and the hardware's counting take turns
    in any order from the start.  Then the terse dump prints under the label of a counter
    and a thread what the counter of the thread holds; and once anything was set, that is
    the number of events it has counted since, in the width of a counter. -/
theorem fixedCounters_dump {P : Platform} (hn : P.cfg.numDevs ≤ 2 ^ 16) {width : Nat}
    (hwidth : width ≤ 64) {s₀ : CounterState} (hstart : CounterStart P s₀)
    (hreads : CountersReadable P s₀.world.host) {events : List CounterEvent}
    (hrange : ∀ event ∈ events, event.InRange P.cfg.numDevs) :
    ∃ s values s', Runs.run (counterEventStep P width) s₀ events = some s ∧
      dumpFixedCounterDataTerse P s = some (values, s') ∧
      Labelled (columnText 2 fixedCounterNames)
        (fun l => s.world.host.regs l.2 (ia32FixedCtr0 + l.1))
        (dumpFixedCounterDataTerseLabel P.cfg) values ∧
      ((events.foldl CounterRecord.update .start).latest ≠ none →
        Labelled (columnText 2 fixedCounterNames)
          (fun l => BitVec.ofNat 64
            ((events.foldl CounterRecord.update .start).count l.2 l.1 % 2 ^ width))
          (dumpFixedCounterDataTerseLabel P.cfg) values) := by
  have hnothing : ∀ c, CounterRecord.start.latest ≠ some c := fun _ hc => nomatch hc
  have hbegin : CounterEventInv P width s₀ .start :=
    ⟨hstart.inv, hreads, ⟨fun c hc => absurd hc (hnothing c), fun c hc => absurd hc (hnothing c)⟩⟩
  obtain ⟨s, hrun, hI⟩ := Runs.run_record (counterEventStep_agree hn hwidth) hbegin hrange
  obtain ⟨values, s', hs', hlabelled, hvalues⟩ := hI.inv.dump_labelled hn hI.reads
  refine ⟨s, values, s', hrun, hs', hlabelled, fun hset => ?_⟩
  obtain ⟨c, hc⟩ := Option.ne_none_iff_exists'.mp hset
  -- the counts are those of the registers
  have hcounts : values = (List.range P.cfg.numDevs).flatMap fun t => (List.range 3).map fun k =>
      BitVec.ofNat 64 ((events.foldl CounterRecord.update .start).count t k % 2 ^ width) := by
    rw [hvalues]
    refine List.flatMap_congr fun t ht => List.map_congr_left fun k hk => ?_
    exact hI.agree.count c hc t (List.mem_range.mp ht) ⟨k, List.mem_range.mp hk⟩
  rw [hcounts]
  exact labelled_columns 2 fixedCounterNames (by decide) (by decide) _ fun k t =>
    BitVec.ofNat 64 ((events.foldl CounterRecord.update .start).count t k % 2 ^ width)

/-- On two cores: core 1 counts 5 and 7 unhalted cycles after the counters were enabled. -/
theorem twoCores_fixedCounters :
    ∃ s values s', Runs.run (counterEventStep (manyCores 2) 48) (counterStart 2 0xFFFF)
        [.events 0 0 3, .call .enable, .events 1 1 5, .dump, .events 1 1 7] = some s ∧
      dumpFixedCounterDataTerse (manyCores 2) s = some (values, s') ∧
      values[1]? = some 0 ∧ values[4]? = some 12 := by
  have hreads : CountersReadable (manyCores 2) (counterStart 2 0xFFFF).world.host := by decide
  have hrange : ∀ event ∈ [CounterEvent.events 0 0 3, .call .enable, .events 1 1 5, .dump,
      .events 1 1 7], event.InRange (manyCores 2).cfg.numDevs := by
    simp [CounterEvent.InRange, CounterCall.InRange]
  have hwidth : 48 ≤ 64 := by decide
  obtain ⟨s, values, s', hrun, hs', -, hcount⟩ :=
    fixedCounters_dump (by decide) hwidth (manyCores_start (by omega) 0xFFFF) hreads hrange
  -- `UCC00` and `UCC01` are labels 1 and 4
  have hlabelled := hcount (by simp [CounterRecord.update, CounterCall.controls])
  have hfirst := hlabelled.each 1 (⟨1, by decide⟩, 0) (by decide)
  have hsecond := hlabelled.each 4 (⟨1, by decide⟩, 1) (by decide)
  exact ⟨s, values, s', hrun, hs', hfirst, hsecond⟩

end Libmsr
