/-
  Libmsr.Powmon.PowerWrapper

  The power wrappers of powmon: `read_rapl_energy_and_power` and
  `set_rapl_power` (demoapps/powmon/rapl2.c), `take_measurement`
  (demoapps/powmon/common.c) and the measurement thread of the wrapper that
  moves the cap, `power_set_measurement` (demoapps/powmon/power_wrapper_dynamic.c).

  A measurement meets the machine at some `Moment`: what the registers hold then
  and the time of day.  The batch of a measurement only reads, so the limits are
  got from the same registers.
-/
import Libmsr.Lib.Ratios
import Libmsr.Rapl.EnergyPoll

namespace Libmsr

open Ratios

/-- The register file and the time of day at a measurement. -/
structure Moment where
  regs : Nat → Nat → Word
  now : Timeval

/-- The host at that moment. -/
def Host.at (h : Host) (m : Moment) : Host := { h with regs := m.regs }

/-! ## rapl2.c -/

/-- The static `rlim` of `read_rapl_energy_and_power`. -/
structure PowerLimits (K : Type) where
  pkg0 : RaplLimit K
  pkg1 : RaplLimit K
  dram0 : RaplLimit K
  dram1 : RaplLimit K

/-- The array `read_rapl_energy_and_power` fills, from `ret[0]` to `ret[9]`. -/
structure RaplReading (K : Type) where
  joules0 : K
  joules1 : K
  allocated0 : K
  allocated1 : K
  watts0 : Ratio K
  watts1 : Ratio K
  limit0 : K
  limit1 : K
  dramJoules0 : K
  dramJoules1 : K

section Wrapper

variable {K : Type} [Field K] [LinearOrder K] [IsStrictOrderedRing K] [FloorRing K]
  (R : RaplSetup K)

/-- The four getters of `read_rapl_energy_and_power`. -/
def getPowerLimits (h : Host) (rlim : PowerLimits K) : Option (PowerLimits K × Host) := do
  let g ← getPkgRaplLimit R h 0 (some rlim.pkg0) none
  let pkg0 ← g.limit1
  let g ← getPkgRaplLimit R g.host 1 (some rlim.pkg1) none
  let pkg1 ← g.limit1
  let d ← getDramRaplLimit R g.host 0 (some rlim.dram0)
  let dram0 ← d.limit
  let d ← getDramRaplLimit R d.host 1 (some rlim.dram1)
  let dram1 ← d.limit
  some (⟨pkg0, pkg1, dram0, dram1⟩, d.host)

/-- The array that is filled from the measurements and the limits. -/
def fillReading (rapl : RaplData K) (rlim : PowerLimits K) : Option (RaplReading K) := do
  let joules0 ← rapl.pkgDeltaAt 0
  let joules1 ← rapl.pkgDeltaAt 1
  let dramJoules0 ← rapl.dramDeltaAt 0
  let dramJoules1 ← rapl.dramDeltaAt 1
  some {
    joules0 := joules0
    joules1 := joules1
    allocated0 := rlim.pkg0.watts * rapl.elapsed
    allocated1 := rlim.pkg1.watts * rapl.elapsed
    watts0 := divide joules0 rapl.elapsed
    watts1 := divide joules1 rapl.elapsed
    limit0 := rlim.pkg0.watts
    limit1 := rlim.pkg1.watts
    dramJoules0 := dramJoules0
    dramJoules1 := dramJoules1 }

/-- `set_rapl_power`.  Every field of its static `rlim` is set anew; the first
    call leaves the encoded bits in it, with which the second is made. -/
def setRaplPower (h : Host) (s0bound s1bound : K) : Option Host := do
  let r ← setPkgRaplLimit R h 0 (some ⟨0, s0bound, 1⟩) (some ⟨0, s1bound, 1⟩)
  let r ← setPkgRaplLimit R r.host 1 r.limit1 r.limit2
  let g ← getPkgRaplLimit R r.host 0 r.limit1 none
  let g ← getPkgRaplLimit R g.host 1 r.limit2 none
  some g.host

/-! ## common.c -/

/-- The static state of a wrapper: the library's measurements, the limits, the
    totals and extremes, and the readings that were logged. -/
structure Powmon (K : Type) where
  energy : EnergyState K
  host : Host
  rlim : PowerLimits K
  totalJoules : K
  limitJoules : K
  maxWatts : Ratio K
  minWatts : Ratio K
  logfile : List (RaplReading K)

/-- The state before the first measurement. -/
def Powmon.start (energy : EnergyState K) (host : Host) : Powmon K where
  energy := energy
  host := host
  rlim := ⟨⟨0, 0, 0⟩, ⟨0, 0, 0⟩, ⟨0, 0, 0⟩, ⟨0, 0, 0⟩⟩
  totalJoules := 0
  limitJoules := 0
  maxWatts := .num 0
  minWatts := .num (1024 : Nat)
  logfile := []

/-- What `take_measurement` does with the array. -/
def Powmon.record (S : Powmon K) (rapl : RaplReading K) : Powmon K :=
  { S with
    totalJoules := S.totalJoules + (rapl.joules0 + rapl.joules1)
    limitJoules := S.limitJoules + (rapl.allocated0 + rapl.allocated1)
    maxWatts := keep Below (keep Below S.maxWatts rapl.watts0) rapl.watts1
    minWatts := keep Above (keep Above S.minWatts rapl.watts0) rapl.watts1
    logfile := S.logfile ++ [rapl] }

/-- `take_measurement`, under its mutex. -/
def takeMeasurement (drv : BatchDriver) (fd : Int) (S : Powmon K) (m : Moment) :
    Option (Powmon K) := do
  let host := S.host.at m
  let energy ← pollRaplData R drv fd S.energy ⟨host, m.now⟩
  let (rlim, host) ← getPowerLimits R host S.rlim
  let reading ← fillReading energy.rapl rlim
  some ({ S with energy := energy, host := host, rlim := rlim }.record reading)

/-! ## power_wrapper_dynamic.c -/

/-- The thread's state: the wrapper's, the cap in force, and the counter and the
    direction of the polls. -/
structure PowerSetter (K : Type) where
  wrapper : Powmon K
  watts : K
  pollNum : Word
  pollDir : Int

/-- In `power_set_measurement`: set the cap that was asked for.  The thread's own
    `poll_num` is 1 when the loop starts, the static `poll_dir` is 5. -/
def powerSetStart (wattCap : K) (S : Powmon K) : Option (PowerSetter K) := do
  let host ← setRaplPower R S.host wattCap wattCap
  some ⟨{ S with host := host }, wattCap, 1, 5⟩

/-- Loop body: the direction after the two tests. -/
def nextDir (wattCap watts : K) (pollDir : Int) : Int :=
  let pollDir := if watts ≥ wattCap then -5 else pollDir
  if watts ≤ (30 : Nat) then 5 else pollDir

/-- Loop body: every fifth poll moves the cap. -/
def moveCap (wattCap : K) (S : PowerSetter K) : Option (PowerSetter K) :=
  if S.pollNum % 5 = 0 then do
    let pollDir := nextDir wattCap S.watts S.pollDir
    let watts := S.watts + pollDir
    let host ← setRaplPower R S.wrapper.host watts watts
    some { S with wrapper := { S.wrapper with host := host }, watts := watts, pollDir := pollDir }
  else some S

/-- One round of the loop in `power_set_measurement`. -/
def powerSetRound (drv : BatchDriver) (fd : Int) (wattCap : K) (S : PowerSetter K) (m : Moment) :
    Option (PowerSetter K) := do
  let wrapper ← takeMeasurement R drv fd S.wrapper m
  let S ← moveCap R wattCap { S with wrapper := wrapper }
  some { S with pollNum := S.pollNum + 1 }

end Wrapper

end Libmsr
