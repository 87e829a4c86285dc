/-
  Libmsr.Powmon.PowerMeasure

  The measurements of the power wrappers over whole runs.

  - `Tallies`: the totals and the extremes are those of the readings that were
    logged; every measurement keeps this.
  - `takeMeasurement_spec`: what a measurement logs, from the registers at its
    moment and the one before.
  - `powmon_totals`: the total energy of a run is the energy the counters
    counted, less one unit for every wraparound.
  - `powmon_extremes`: which power the extremes of a run are.
-/
import Libmsr.Lib.Runs
import Libmsr.Powmon.PowerWrapper
import Libmsr.Rapl.EnergyClock
import Libmsr.Rapl.EnergyRuns
import Libmsr.Rapl.LimitPairs

namespace Libmsr

open Ratios WrapCounter

section PowerMeasure

variable {K : Type} [Field K] [LinearOrder K] [IsStrictOrderedRing K] [FloorRing K]

/-! ## The summary and the log -/

/-- The two wattages of a reading, in the order they are compared. -/
def RaplReading.wattages {K : Type} (r : RaplReading K) : List (Ratio K) := [r.watts0, r.watts1]

/-- The totals and extremes are those of the log. -/
structure Tallies (S : Powmon K) : Prop where
  total : S.totalJoules = (S.logfile.map fun r => r.joules0 + r.joules1).sum
  limit : S.limitJoules = (S.logfile.map fun r => r.allocated0 + r.allocated1).sum
  max : S.maxWatts = best Below (.num 0) (S.logfile.flatMap RaplReading.wattages)
  min : S.minWatts = best Above (.num ((1024 : Nat) : K)) (S.logfile.flatMap RaplReading.wattages)

omit [IsStrictOrderedRing K] [FloorRing K] in
theorem Tallies.start (E : EnergyState K) (h : Host) : Tallies (Powmon.start E h) :=
  ⟨rfl, rfl, rfl, rfl⟩

omit [IsStrictOrderedRing K] [FloorRing K] in
theorem Tallies.record {S : Powmon K} (h : Tallies S) (r : RaplReading K) :
    Tallies (S.record r) := by
  refine ⟨?_, ?_, ?_, ?_⟩
  · simp only [Powmon.record, List.map_append, List.sum_append, List.map_cons, List.map_nil,
      List.sum_cons, List.sum_nil, add_zero, h.total]
  · simp only [Powmon.record, List.map_append, List.sum_append, List.map_cons, List.map_nil,
      List.sum_cons, List.sum_nil, add_zero, h.limit]
  · simp only [Powmon.record, List.flatMap_append, best_append, ← h.max]
    rfl
  · simp only [Powmon.record, List.flatMap_append, best_append, ← h.min]
    rfl

/-! ## Getting the limits -/

/-- The limit registers of a socket work. -/
structure LimitsWork (R : RaplSetup K) (h : Host) (socket : BitVec 32) (raw : Word) : Prop where
  init : Initialised R h socket raw
  pkgReads : h.fails (socketCpu R socket) msrPkgPowerLimit = false
  dramReads : h.fails (socketCpu R socket) msrDramPowerLimit = false
  pkgWrites : h.failsWrite (socketCpu R socket) msrPkgPowerLimit = false

omit [LinearOrder K] [IsStrictOrderedRing K] [FloorRing K] in
theorem LimitsWork.of_sameDevices {R : RaplSetup K} {h h' : Host} {socket : BitVec 32} {raw : Word}
    (hw : LimitsWork R h socket raw) (hsame : h.SameDevices h') : LimitsWork R h' socket raw :=
  ⟨hw.init.of_sameDevices hsame, by rw [hsame.fails]; exact hw.pkgReads,
    by rw [hsame.fails]; exact hw.dramReads, by rw [hsame.failsWrite]; exact hw.pkgWrites⟩

section Getters

variable {R : RaplSetup K} {h : Host} {socket : BitVec 32} {raw : Word}
  (hw : LimitsWork R h socket raw)
include hw

omit [IsStrictOrderedRing K] in
/-- The lower package limit alone. -/
theorem LimitsWork.getPkg (hflag : announces R.flags pkgPowerLimit = true)
    (hne : h.regs (socketCpu R socket) msrPkgPowerLimit ≠ 0) (l : RaplLimit K) :
    ∃ h', getPkgRaplLimit R h socket (some l) none = some ⟨0, some (decodedLimit (.ofMsr raw)
        (h.regs (socketCpu R socket) msrPkgPowerLimit) 0), none, h'⟩ ∧
      h.SameDevices h' ∧ h'.regs = h.regs ∧ h'.writes = h.writes := by
  have hread := hw.init.read msrPkgPowerLimit l.bits
  rw [hw.pkgReads, if_neg Bool.false_ne_true] at hread
  have hraw := calcRaplLimit_raw hw.init.units
    { l with bits := h.regs (socketCpu R socket) msrPkgPowerLimit } hne 0
  refine ⟨_, ?_, (Host.SameDevices.refl h).log (.read (socketCpu R socket) msrPkgPowerLimit), rfl,
    Host.writes_log_read ..⟩
  simp only [getPkgRaplLimit, hflag, if_true, readLimitBits, hread, calcPkgRaplLimit_eq,
    calcGivenLimit, hraw, Option.map_some, Option.bind_eq_bind, Option.bind_some, ne_eq,
    not_true_eq_false, if_false]

omit [IsStrictOrderedRing K] in
/-- The DRAM limit, which may not be there. -/
theorem LimitsWork.getDram
    (hne : announces R.flags dramPowerLimit = true →
      h.regs (socketCpu R socket) msrDramPowerLimit ≠ 0) (l : RaplLimit K) :
    ∃ rc l' h', getDramRaplLimit R h socket (some l) = some ⟨rc, some l', h'⟩ ∧
      h.SameDevices h' ∧ h'.regs = h.regs ∧ h'.writes = h.writes := by
  cases hflag : announces R.flags dramPowerLimit with
  | true =>
    have hget := getDramRaplLimit_eq hw.init hflag hw.dramReads l
    rw [calcRaplLimit_raw hw.init.units _ (hne hflag), Option.map_some] at hget
    exact ⟨_, _, _, hget, (Host.SameDevices.refl h).log _, rfl, Host.writes_log_read ..⟩
  | false =>
    refine ⟨-1, l, h, ?_, .refl h, rfl, rfl⟩
    simp only [getDramRaplLimit, hflag, Bool.false_eq_true, if_false]

end Getters

/-! ## One measurement -/

/-- The machine a wrapper runs on: the energy counters and the limits of its
    sockets work, and the flags announce them. -/
structure WrapperReady (R : RaplSetup K) (pick : Nat → Nat) (raw : Nat → Word) (drv : BatchDriver)
    (fd : Int) (h : Host) : Prop where
  cpus : SocketCpus R pick
  units : HasUnits R raw
  energy : EnergyAnnounced R.flags
  limits : announces R.flags pkgPowerLimit = true
  serves : drv.Serves fd h R.cfg.numDevs
  counters : ∀ s, s < R.cfg.sockets → ∀ msr, msr ∈ loadedRegs R.flags →
    h.fails (pick s) msr = false
  socket0 : LimitsWork R h 0 (raw 0)
  socket1 : LimitsWork R h 1 (raw 1)

/-- The limit registers hold limits. -/
structure LimitsSet (R : RaplSetup K) (regs : Nat → Nat → Word) (socket : BitVec 32) : Prop where
  pkg : regs (socketCpu R socket) msrPkgPowerLimit ≠ 0
  dram : announces R.flags dramPowerLimit = true → regs (socketCpu R socket) msrDramPowerLimit ≠ 0

/-- A moment at which the limits of both sockets are set. -/
def Moment.Limited (R : RaplSetup K) (m : Moment) : Prop :=
  LimitsSet R m.regs 0 ∧ LimitsSet R m.regs 1

/-- The moment as the library's poll sees it. -/
def Moment.poll (m : Moment) (h : Host) : Poll := ⟨h.at m, m.now⟩

/-- The joules of socket `s` between two moments, as the library computes them. -/
def joulesBetween (pick : Nat → Nat) (raw : Nat → Word) (s : Nat) : Option Moment → Moment → K
  | none, _ => 0
  | some m, m' => pkgDeltaJoules (unitsPerJoule (raw s)) (m.regs (pick s) msrPkgEnergyStatus)
      (m'.regs (pick s) msrPkgEnergyStatus)

/-- The seconds between two moments. -/
def secondsBetween : Option Moment → Moment → K
  | none, _ => 0
  | some m, m' => elapsedSeconds m'.now m.now

/-- The lower package limit of a socket at a moment. -/
def limitAt (R : RaplSetup K) (raw : Nat → Word) (socket : BitVec 32) (m : Moment) : K :=
  decodedWatts (.ofMsr (raw socket.toNat)) (m.regs (socketCpu R socket) msrPkgPowerLimit) 0

/-- What a reading says of the packages, at a moment that follows `prev`. -/
structure Reports (R : RaplSetup K) (pick : Nat → Nat) (raw : Nat → Word) (prev : Option Moment)
    (m : Moment) (r : RaplReading K) : Prop where
  joules0 : r.joules0 = joulesBetween pick raw 0 prev m
  joules1 : r.joules1 = joulesBetween pick raw 1 prev m
  allocated0 : r.allocated0 = limitAt R raw 0 m * secondsBetween prev m
  allocated1 : r.allocated1 = limitAt R raw 1 m * secondsBetween prev m
  watts0 : r.watts0 = divide (joulesBetween pick raw 0 prev m) (secondsBetween prev m)
  watts1 : r.watts1 = divide (joulesBetween pick raw 1 prev m) (secondsBetween prev m)
  limit0 : r.limit0 = limitAt R raw 0 m
  limit1 : r.limit1 = limitAt R raw 1 m

/-- The moments, each with the one before it. -/
def intervals (prev : Option Moment) (ms : List Moment) : List (Option Moment × Moment) :=
  (prev :: ms.map some).zip ms

theorem intervals_cons (prev : Option Moment) (m : Moment) (ms : List Moment) :
    intervals prev (m :: ms) = (prev, m) :: intervals (some m) ms := rfl

/-- The library's state after a measurement at `m`, or before the first one. -/
def Metered (R : RaplSetup K) (pick : Nat → Nat) (raw : Nat → Word) (h : Host)
    (E : EnergyState K) : Option Moment → Prop
  | none => E.Fresh
  | some m => Measures R pick raw E (m.poll h) ∧ E.rapl.now = m.now

section Measure

variable {R : RaplSetup K} {pick : Nat → Nat} {raw : Nat → Word} {drv : BatchDriver} {fd : Int}
  {h : Host} (hready : WrapperReady R pick raw drv fd h)
include hready

omit [LinearOrder K] [IsStrictOrderedRing K] [FloorRing K] in
/-- The library can poll at every moment. -/
theorem WrapperReady.pollReady {h' : Host} (hsame : h.SameDevices h') (m : Moment) :
    PollReady R pick drv fd (m.poll h') := by
  have hserves := hready.serves
  refine ⟨⟨hserves.driver, ?_, hserves.fits, ?_⟩, ?_⟩
  · exact ⟨(hsame.ready hserves.ready).length, (hsame.ready hserves.ready).entry⟩
  · intro cpu hcpu msr
    show h'.fails cpu msr = true ∧ h'.failsWrite cpu msr = true
    rw [hsame.fails, hsame.failsWrite]
    exact hserves.absent cpu hcpu msr
  · intro s hs msr hmsr
    show h'.fails (pick s) msr = false
    rw [hsame.fails]
    exact hready.counters s hs msr hmsr

/-- A poll at a moment: the deltas of the readings then and before, and the time. -/
theorem WrapperReady.poll {h' : Host} (hsame : h.SameDevices h') {E : EnergyState K}
    {prev : Option Moment} (hE : Metered R pick raw h E prev) (m : Moment) :
    ∃ E' d0 d1, pollRaplData R drv fd E (m.poll h') = some E' ∧
      Metered R pick raw h E' (some m) ∧ E'.rapl.elapsed = secondsBetween prev m ∧
      E'.rapl.pkgDeltaAt 0 = some (joulesBetween pick raw 0 prev m) ∧
      E'.rapl.pkgDeltaAt 1 = some (joulesBetween pick raw 1 prev m) ∧
      E'.rapl.dramDeltaAt 0 = some d0 ∧ E'.rapl.dramDeltaAt 1 = some d1 := by
  have hsockets : 1 < R.cfg.sockets := hready.socket1.init.inRange.1
  have hpoll := hready.pollReady hsame m
  cases prev with
  | none =>
    obtain ⟨E', hE', hmeasures⟩ := pollRaplData_first hready.cpus hready.units hready.energy.1
      hready.energy.2 (by omega) hE hpoll
    have hclock := pollRaplData_clock hE' (hE.readInit.trans hE.deltaInit.symm)
    rw [hE.readInit, if_neg Bool.false_ne_true] at hclock
    -- the cells are there, and their deltas are 0
    have hcells : ∀ s, s < R.cfg.sockets → E'.rapl.pkgDeltaAt s = some 0 ∧
        E'.rapl.dramDeltaAt s = some 0 := by
      intro s hs
      obtain ⟨hpkg0, hdram0⟩ := pollRaplData_first_deltas hE' hE s
      obtain ⟨ps, hps, hp, -⟩ := hmeasures.wired.pkg
      obtain ⟨ds, hds, hd, -⟩ := hmeasures.wired.dram
      have hpkg : E'.rapl.pkgDeltaAt s = some (ps[s]).deltaJoules := by
        rw [RaplData.pkgDeltaAt, hps, Option.bind_some, List.getElem?_eq_getElem (by omega),
          Option.map_some]
      have hdram : E'.rapl.dramDeltaAt s = some (ds[s]).deltaJoules := by
        rw [RaplData.dramDeltaAt, hds, Option.bind_some, List.getElem?_eq_getElem (by omega),
          Option.map_some]
      exact ⟨by rw [hpkg, hpkg0 _ hpkg], by rw [hdram, hdram0 _ hdram]⟩
    refine ⟨E', 0, 0, hE', ⟨⟨hmeasures.wired, hmeasures.readInit, hmeasures.deltaInit,
      hmeasures.pkg, hmeasures.dram⟩, hclock.1⟩, hclock.2, (hcells 0 (by omega)).1,
      (hcells 1 hsockets).1, (hcells 0 (by omega)).2, (hcells 1 hsockets).2⟩
  | some m₀ =>
    obtain ⟨hmeasures₀, hnow⟩ := hE
    obtain ⟨E', hE', hmeasures, hdeltas⟩ := pollRaplData_step hready.cpus hready.units
      hready.energy.1 hready.energy.2 hmeasures₀ hpoll
    have hclock := pollRaplData_clock hE' (hmeasures₀.readInit.trans hmeasures₀.deltaInit.symm)
    rw [hmeasures₀.readInit, if_pos rfl, hnow] at hclock
    exact ⟨E', _, _, hE', ⟨⟨hmeasures.wired, hmeasures.readInit, hmeasures.deltaInit,
      hmeasures.pkg, hmeasures.dram⟩, hclock.1⟩, hclock.2, (hdeltas 0 (by omega)).1,
      (hdeltas 1 hsockets).1, (hdeltas 0 (by omega)).2, (hdeltas 1 hsockets).2⟩

omit [IsStrictOrderedRing K] in
/-- The getters decode the package limits at the moment, and only read. -/
theorem WrapperReady.getLimits {h' : Host} (hsame : h.SameDevices h') {m : Moment}
    (hm : m.Limited R) (rlim : PowerLimits K) :
    ∃ rlim' h'', getPowerLimits R (h'.at m) rlim = some (rlim', h'') ∧
      rlim'.pkg0.watts = limitAt R raw 0 m ∧ rlim'.pkg1.watts = limitAt R raw 1 m ∧
      h.SameDevices h'' ∧ h''.regs = m.regs ∧ h''.writes = h'.writes := by
  have hat : h.SameDevices (h'.at m) :=
    ⟨hsame.fileDescriptors, hsame.openOn, hsame.fails, hsame.failsWrite⟩
  obtain ⟨h₁, hget₁, hs₁, hr₁, hw₁⟩ := (hready.socket0.of_sameDevices hat).getPkg hready.limits
    hm.1.pkg rlim.pkg0
  have hsame₁ := hat.trans hs₁
  obtain ⟨h₂, hget₂, hs₂, hr₂, hw₂⟩ := (hready.socket1.of_sameDevices hsame₁).getPkg hready.limits
    (by rw [hr₁]; exact hm.2.pkg) rlim.pkg1
  have hsame₂ := hsame₁.trans hs₂
  obtain ⟨rc₃, dram0, h₃, hget₃, hs₃, hr₃, hw₃⟩ :=
    (hready.socket0.of_sameDevices hsame₂).getDram (by rw [hr₂, hr₁]; exact hm.1.dram) rlim.dram0
  have hsame₃ := hsame₂.trans hs₃
  obtain ⟨rc₄, dram1, h₄, hget₄, hs₄, hr₄, hw₄⟩ :=
    (hready.socket1.of_sameDevices hsame₃).getDram (by rw [hr₃, hr₂, hr₁]; exact hm.2.dram)
      rlim.dram1
  refine ⟨⟨decodedLimit (.ofMsr (raw 0)) (m.regs (socketCpu R 0) msrPkgPowerLimit) 0,
    decodedLimit (.ofMsr (raw 1)) (h₁.regs (socketCpu R 1) msrPkgPowerLimit) 0, dram0, dram1⟩, h₄,
    ?_, rfl, ?_, hsame₃.trans hs₄, ?_, ?_⟩
  · simp only [getPowerLimits, hget₁, hget₂, hget₃, hget₄, Option.bind_eq_bind, Option.bind_some]
    rfl
  · show decodedWatts _ (h₁.regs _ _) 0 = _
    rw [hr₁]
    rfl
  · rw [hr₄, hr₃, hr₂, hr₁]
    rfl
  · rw [hw₄, hw₃, hw₂, hw₁]
    rfl

/-- **One measurement** logs what the registers say at its moment and the one
    before, and writes nothing. -/
theorem takeMeasurement_spec {S : Powmon K} {prev : Option Moment} {m : Moment}
    (hsame : h.SameDevices S.host) (hE : Metered R pick raw h S.energy prev)
    (hm : m.Limited R) :
    ∃ S' r, takeMeasurement R drv fd S m = some S' ∧ Reports R pick raw prev m r ∧
      S'.logfile = S.logfile ++ [r] ∧ (Tallies S → Tallies S') ∧
      Metered R pick raw h S'.energy (some m) ∧ h.SameDevices S'.host ∧
      S'.host.regs = m.regs ∧ S'.host.writes = S.host.writes := by
  obtain ⟨E', d0, d1, hpoll, hE', helapsed, hj0, hj1, hd0, hd1⟩ := hready.poll hsame hE m
  obtain ⟨rlim, h'', hget, hl0, hl1, hsame', hregs, hwrites⟩ := hready.getLimits hsame hm S.rlim
  obtain ⟨r, hfill, hr⟩ : ∃ r, fillReading E'.rapl rlim = some r ∧
      Reports R pick raw prev m r := by
    simp only [fillReading, hj0, hj1, hd0, hd1, helapsed, hl0, hl1, Option.bind_eq_bind,
      Option.bind_some]
    exact ⟨_, rfl, ⟨rfl, rfl, rfl, rfl, rfl, rfl, rfl, rfl⟩⟩
  have hmeasure : takeMeasurement R drv fd S m =
      some ({ S with energy := E', host := h'', rlim := rlim }.record r) := by
    rw [Moment.poll] at hpoll
    simp only [takeMeasurement, hpoll, hget, hfill, Option.bind_eq_bind, Option.bind_some]
  refine ⟨_, r, hmeasure, hr, rfl, fun htally => ?_, hE', hsame', hregs, hwrites⟩
  have hkept : Tallies { S with energy := E', host := h'', rlim := rlim } :=
    ⟨htally.total, htally.limit, htally.max, htally.min⟩
  exact hkept.record r

/-! ## Runs -/

/-- **Run lemma.**  A run of measurements logs what the registers say, moment by
    moment. -/
theorem measurements_run {ms : List Moment} (hms : ∀ m ∈ ms, m.Limited R) {S : Powmon K}
    {prev : Option Moment} (hsame : h.SameDevices S.host)
    (hE : Metered R pick raw h S.energy prev) (htally : Tallies S) :
    ∃ S' rs, Runs.run (takeMeasurement R drv fd) S ms = some S' ∧ S'.logfile = S.logfile ++ rs ∧
      List.Forall₂ (fun i r => Reports R pick raw i.1 i.2 r) (intervals prev ms) rs ∧
      Tallies S' := by
  induction ms generalizing S prev with
  | nil => exact ⟨S, [], rfl, (List.append_nil _).symm, .nil, htally⟩
  | cons m ms ih =>
    obtain ⟨S₁, r, hstep, hr, hlog, htally₁, hE₁, hsame₁, -, -⟩ :=
      takeMeasurement_spec hready hsame hE (hms m (List.mem_cons_self ..))
    obtain ⟨S', rs, hrun, hlog', hrs, htally'⟩ := ih
      (fun m' hm' => hms m' (List.mem_cons_of_mem _ hm')) hsame₁ hE₁ (htally₁ htally)
    refine ⟨S', r :: rs, ?_, ?_, .cons hr hrs, htally'⟩
    · rw [Runs.run_cons, hstep, Option.bind_some, hrun]
    · rw [hlog', hlog, List.append_assoc, List.singleton_append]

end Measure

/-! ## The totals -/

omit [Field K] [LinearOrder K] [IsStrictOrderedRing K] [FloorRing K] in
/-- Values that readings have of their interval. -/
theorem map_reports {α γ : Type} {rel : α → RaplReading K → Prop} {f : α → γ}
    {g : RaplReading K → γ} (hfg : ∀ a r, rel a r → g r = f a) {as : List α}
    {rs : List (RaplReading K)} (h : List.Forall₂ rel as rs) : rs.map g = as.map f := by
  induction h with
  | nil => rfl
  | cons ha _ ih => rw [List.map_cons, List.map_cons, ih, hfg _ _ ha]

/-- The wraparounds among the first `n` advances of a counter. -/
def wraps (total : Nat → Nat) (n : Nat) : Nat :=
  Nat.count (fun i => Wrapped 32 (total i) (total (i + 1))) n

/-- The joules `n` advances of a counter are measured to be: one unit of each
    wraparound is missing. -/
def measuredJoules (raw : Word) (total : Nat → Nat) (n : Nat) : K :=
  (((total n - total 0 : Nat) : K) - (wraps total n : K)) / (2 ^ energyUnit raw : Nat)

omit [LinearOrder K] [IsStrictOrderedRing K] [FloorRing K] in
/-- One advance of a counter. -/
theorem pkgDeltaJoules_counted {raw : Word} (hunit : energyUnit raw ≠ 31) {total total' : Nat}
    (hle : total ≤ total') (hadv : total' - total < 2 ^ 32) :
    (pkgDeltaJoules (unitsPerJoule raw) (counterWord total) (counterWord total') : K) =
      (((total' - total : Nat) : K) - if Wrapped 32 total total' then 1 else 0) /
        2 ^ energyUnit raw := by
  rw [unitsPerJoule_of_ne hunit]
  by_cases hwrap : Wrapped 32 total total'
  · rw [if_pos hwrap, pkgDeltaJoules_wrapped hle hadv _ hwrap]
  · rw [if_neg hwrap, sub_zero, pkgDeltaJoules_not_wrapped hle hadv _ hwrap]

omit [LinearOrder K] [IsStrictOrderedRing K] [FloorRing K] in
/-- The advances after a moment add up. -/
theorem joulesBetween_sum {pick : Nat → Nat} {raw : Nat → Word} {s : Nat}
    (hunit : energyUnit (raw s) ≠ 31) (ms : List Moment) (m : Moment) {total : Nat → Nat}
    (hcount : Counts ((m :: ms).map fun m => m.regs (pick s) msrPkgEnergyStatus) total) :
    ((intervals (some m) ms).map fun i => (joulesBetween pick raw s i.1 i.2 : K)).sum =
      measuredJoules (raw s) total ms.length := by
  induction ms generalizing m total with
  | nil => simp [intervals, measuredJoules, wraps]
  | cons m' ms ih =>
    -- the counter from the second moment on
    have hcount' : Counts ((m' :: ms).map fun m => m.regs (pick s) msrPkgEnergyStatus)
        (fun i => total (i + 1)) :=
      ⟨fun i => hcount.le (i + 1), fun i => hcount.advance (i + 1),
        fun i w hw => hcount.shows (i + 1) w hw⟩
    have hmono : total 0 ≤ total 1 := hcount.le 0
    have hrest : ∀ n, total 1 ≤ total (n + 1) := by
      intro n
      induction n with
      | zero => exact Nat.le_refl _
      | succ n ih => exact ih.trans (hcount.le (n + 1))
    have hfirst : (joulesBetween pick raw s (some m) m' : K) =
        (((total 1 - total 0 : Nat) : K) - if Wrapped 32 (total 0) (total 1) then 1 else 0) /
          2 ^ energyUnit (raw s) := by
      rw [joulesBetween, hcount.shows 0 (m.regs (pick s) msrPkgEnergyStatus) rfl,
        hcount.shows 1 (m'.regs (pick s) msrPkgEnergyStatus) rfl]
      exact pkgDeltaJoules_counted hunit hmono (hcount.advance 0)
    have hsplit : total (ms.length + 1) - total 0 =
        (total (ms.length + 1) - total 1) + (total 1 - total 0) := by
      have := hrest ms.length
      omega
    rw [intervals_cons, List.map_cons, List.sum_cons, ih m' hcount', hfirst, measuredJoules,
      measuredJoules, wraps, wraps, List.length_cons, Nat.count_succ', hsplit]
    push_cast
    ring

section Totals

variable {R : RaplSetup K} {pick : Nat → Nat} {raw : Nat → Word} {drv : BatchDriver} {fd : Int}
  {h : Host} (hready : WrapperReady R pick raw drv fd h) {E : EnergyState K} (hE : E.Fresh)
  {ms : List Moment} (hms : ∀ m ∈ ms, m.Limited R)
include hready hE hms

/-- **The totals of a run** of measurements, as the wrapper's summary gives them:
    the energy both counters counted from the first measurement to the last, but one
    unit of every wraparound, and the energy the limits allowed in the time. -/
theorem powmon_totals {n : Nat} (hlen : ms.length = n + 1)
    (hunit0 : energyUnit (raw 0) ≠ 31) (hunit1 : energyUnit (raw 1) ≠ 31)
    {total0 total1 : Nat → Nat}
    (hcount0 : Counts (ms.map fun m => m.regs (pick 0) msrPkgEnergyStatus) total0)
    (hcount1 : Counts (ms.map fun m => m.regs (pick 1) msrPkgEnergyStatus) total1) :
    ∃ S', Runs.run (takeMeasurement R drv fd) (Powmon.start E h) ms = some S' ∧
      S'.totalJoules = measuredJoules (raw 0) total0 n + measuredJoules (raw 1) total1 n ∧
      S'.limitJoules = ((intervals none ms).map fun i =>
        (limitAt R raw 0 i.2 + limitAt R raw 1 i.2) * secondsBetween i.1 i.2).sum ∧
      S'.logfile.length = n + 1 := by
  obtain ⟨S', rs, hrun, hlog, hrs, htally⟩ := measurements_run hready hms
    (S := Powmon.start E h) (.refl h) (show Metered R pick raw h E none from hE)
    (Tallies.start E h)
  rw [Powmon.start, List.nil_append] at hlog
  have hjoules := map_reports (f := fun i => joulesBetween pick raw 0 i.1 i.2 +
    joulesBetween pick raw 1 i.1 i.2) (g := fun r => r.joules0 + r.joules1)
    (fun i r hr => by rw [hr.joules0, hr.joules1]) hrs
  have hallocated := map_reports (f := fun i => (limitAt R raw 0 i.2 + limitAt R raw 1 i.2) *
    secondsBetween i.1 i.2) (g := fun r => r.allocated0 + r.allocated1)
    (fun i r hr => by rw [hr.allocated0, hr.allocated1, add_mul]) hrs
  refine ⟨S', hrun, ?_, ?_, ?_⟩
  · obtain ⟨m, ms, rfl⟩ := List.exists_cons_of_length_eq_add_one hlen
    have hn : ms.length = n := Nat.succ.inj hlen
    -- the first reading has no energy
    have hzero : (joulesBetween pick raw 0 none m + joulesBetween pick raw 1 none m : K) = 0 :=
      add_zero 0
    rw [htally.total, hlog, hjoules, intervals_cons, List.map_cons, List.sum_cons, hzero, zero_add,
      List.sum_map_add, joulesBetween_sum hunit0 ms m hcount0,
      joulesBetween_sum hunit1 ms m hcount1,
      hn]
  · rw [htally.limit, hlog, hallocated]
  · rw [hlog, ← hrs.length_eq, intervals, List.length_zip, List.length_cons, List.length_map, hlen]
    omega

end Totals

/-! ## Two sockets -/

/-- A moment at which every limit is 100 watts and every counter has counted
    `total` units. -/
def counterMoment (sec : Int) (total : Nat) : Moment where
  regs _ msr := if msr = msrPkgEnergyStatus then counterWord total else 0x8320
  now := ⟨sec, 0⟩

theorem counterMoment_limited (sec : Int) (total : Nat) :
    (counterMoment sec total).Limited twoSocketRapl := by
  have hpkg : ∀ cpu, (counterMoment sec total).regs cpu msrPkgPowerLimit ≠ 0 := by
    intro cpu
    show (if msrPkgPowerLimit = msrPkgEnergyStatus then counterWord total else (0x8320 : Word)) ≠ 0
    rw [if_neg (by decide)]
    decide
  have hdram : ∀ cpu, (counterMoment sec total).regs cpu msrDramPowerLimit ≠ 0 := by
    intro cpu
    show (if msrDramPowerLimit = msrPkgEnergyStatus then counterWord total else (0x8320 : Word)) ≠ 0
    rw [if_neg (by decide)]
    decide
  exact ⟨⟨hpkg _, fun _ => hdram _⟩, ⟨hpkg _, fun _ => hdram _⟩⟩

theorem twoSocketRapl_ready :
    WrapperReady twoSocketRapl id (fun _ => 0xA1003) .inOrder 3 (.opened 2) := by
  have hpoll := twoSocketRapl_poll (Host.opened 2).regs ⟨0, 0⟩
  have hlimits : ∀ s : BitVec 32, s = 0 ∨ s = 1 →
      LimitsWork twoSocketRapl (.opened 2) s 0xA1003 := by
    rintro s (rfl | rfl)
    · exact ⟨⟨by decide, Host.opened_ready 2, by decide, rfl⟩, by decide, by decide, by decide⟩
    · exact ⟨⟨by decide, Host.opened_ready 2, by decide, rfl⟩, by decide, by decide, by decide⟩
  exact ⟨twoSocketRapl_cpus, twoSocketRapl_units, ⟨by decide, by decide⟩, by decide, hpoll.serves,
    hpoll.readable, hlimits 0 (.inl rfl), hlimits 1 (.inr rfl)⟩

/-- Two measurements between which each counter counts 65536 units, a joule. -/
theorem twoSockets_totals :
    ∃ S', Runs.run (takeMeasurement twoSocketRapl .inOrder 3)
        (Powmon.start freshState (.opened 2)) [counterMoment 1 1000, counterMoment 3 66536] =
          some S' ∧
      S'.totalJoules = measuredJoules 0xA1003 (twoTotals 1000 66536) 1 +
        measuredJoules 0xA1003 (twoTotals 1000 66536) 1 ∧
      S'.limitJoules = ((intervals none [counterMoment 1 1000, counterMoment 3 66536]).map
        fun i => (limitAt twoSocketRapl (fun _ => 0xA1003) 0 i.2 +
          limitAt twoSocketRapl (fun _ => 0xA1003) 1 i.2) * secondsBetween i.1 i.2).sum ∧
      S'.logfile.length = 2 := by
  have hcount : Counts ([counterPoll 1 1000, counterPoll 3 66536].map fun p =>
      p.pkgReading (fun _ => 0) 0) (twoTotals 1000 66536) :=
    twoTotals_counts (by omega) (by omega)
  exact powmon_totals twoSocketRapl_ready freshState_fresh
    (by simp only [List.mem_cons, List.not_mem_nil, or_false]
        rintro m (rfl | rfl) <;> exact counterMoment_limited _ _)
    (n := 1) rfl (by decide) (by decide) hcount hcount

section Extremes

variable {R : RaplSetup K} {pick : Nat → Nat} {raw : Nat → Word} {drv : BatchDriver} {fd : Int}
  {h : Host} (hready : WrapperReady R pick raw drv fd h) {E : EnergyState K} (hE : E.Fresh)
  {ms : List Moment} (hms : ∀ m ∈ ms, m.Limited R)
include hready hE hms

/-- The wattages of a run, in the order they are measured. -/
def wattagesOf (pick : Nat → Nat) (raw : Nat → Word) (ms : List Moment) : List (Ratio K) :=
  (intervals none ms).flatMap fun i =>
    [divide (joulesBetween pick raw 0 i.1 i.2) (secondsBetween i.1 i.2),
      divide (joulesBetween pick raw 1 i.1 i.2) (secondsBetween i.1 i.2)]

/-- **The extremes of a run.**  No wattage is above the maximum or below the minimum, and
    each extreme is a wattage or the value it started from. -/
theorem powmon_extremes :
    ∃ S', Runs.run (takeMeasurement R drv fd) (Powmon.start E h) ms = some S' ∧
      (∀ w ∈ wattagesOf pick raw ms, ¬ Above w S'.maxWatts ∧ ¬ Below w S'.minWatts) ∧
      S'.maxWatts ∈ .num 0 :: wattagesOf pick raw ms ∧
      S'.minWatts ∈ .num ((1024 : Nat) : K) :: wattagesOf pick raw ms := by
  obtain ⟨S', rs, hrun, hlog, hrs, htally⟩ := measurements_run hready hms
    (S := Powmon.start E h) (.refl h) (show Metered R pick raw h E none from hE)
    (Tallies.start E h)
  rw [Powmon.start, List.nil_append] at hlog
  have hwatts : rs.flatMap RaplReading.wattages = wattagesOf pick raw ms := by
    rw [wattagesOf, List.flatMap_def, List.flatMap_def]
    exact congrArg _ (map_reports (fun i r hr => by
      rw [RaplReading.wattages, hr.watts0, hr.watts1]) hrs)
  have hmax := htally.max
  have hmin := htally.min
  rw [hlog, hwatts] at hmax hmin
  refine ⟨S', hrun, fun w hw => ⟨?_, ?_⟩, ?_, ?_⟩
  · rw [hmax]
    exact not_rel_best Below _ hw
  · rw [hmin]
    exact not_rel_best Above _ hw
  · rw [hmax]
    exact best_mem _ _ _
  · rw [hmin]
    exact best_mem _ _ _

end Extremes

/-- The extremes of two measurements. -/
theorem twoSockets_extremes :
    ∃ S', Runs.run (takeMeasurement twoSocketRapl .inOrder 3)
        (Powmon.start freshState (.opened 2)) [counterMoment 1 1000, counterMoment 3 66536] =
          some S' ∧
      (∀ w ∈ wattagesOf id (fun _ => 0xA1003) [counterMoment 1 1000, counterMoment 3 66536],
        ¬ Above w S'.maxWatts ∧ ¬ Below w S'.minWatts) ∧
      S'.maxWatts ∈ .num 0 ::
        wattagesOf id (fun _ => 0xA1003) [counterMoment 1 1000, counterMoment 3 66536] ∧
      S'.minWatts ∈ .num ((1024 : Nat) : ℚ) ::
        wattagesOf id (fun _ => 0xA1003) [counterMoment 1 1000, counterMoment 3 66536] := by
  refine powmon_extremes twoSocketRapl_ready freshState_fresh ?_
  simp only [List.mem_cons, List.not_mem_nil, or_false]
  rintro m (rfl | rfl) <;> exact counterMoment_limited _ _

end PowerMeasure

end Libmsr
