/-
  Libmsr.Rapl.RaplDump

  The dumps of src/msr_rapl.c, called in any order between polls:
  `dump_rapl_data_terse_label`, `dump_rapl_data_terse`, `dump_rapl_data` and
  `dump_rapl_power_info`.

  A terse dump measures, and so begins a new interval like a poll does; the other
  dump prints the power of the interval that ended last.  `RaplMeter` is a device
  that knows, for the last two polls only, how many energy units had been counted,
  and prints the mean power in between.  `raplDumps_refine`: when a sequence of calls
  prints what the meter prints.

  What is printed is kept as numbers, without their formats.
-/
import Libmsr.Lib.Listing
import Libmsr.Lib.Runs
import Libmsr.Rapl.EnergyArrays
import Libmsr.Rapl.EnergyClock
import Libmsr.Rapl.LimitPairs
import Libmsr.Rapl.PowerInfo

namespace Libmsr

open Listing

/-! ## The functions -/

/-- A piece of output: `Socket: %d`, a number, or a number behind its name. -/
inductive RaplPrint (K : Type) where
  | socket (s : Nat)
  | value (x : K)
  | field (name : String) (x : K)

section Dumps

variable {K : Type}

/-- `rapl->pkg_watts[s]`. -/
def RaplData.pkgWattsAt (rapl : RaplData K) (s : Nat) : Option K :=
  rapl.pkg.bind fun cells => cells[s]?.map PkgCell.watts

/-- `rapl->dram_watts[s]`. -/
def RaplData.dramWattsAt (rapl : RaplData K) (s : Nat) : Option K :=
  rapl.dram.bind fun cells => cells[s]?.map DramCell.watts

variable [Field K] [LinearOrder K] [IsStrictOrderedRing K] [FloorRing K] (R : RaplSetup K)

omit [Field K] [LinearOrder K] [IsStrictOrderedRing K] [FloorRing K] in
/-- `dump_rapl_data_terse_label`: the labels it prints. -/
def dumpRaplDataTerseLabel : List String :=
  (List.range R.cfg.sockets).flatMap fun s =>
    (if announces R.flags pkgEnergyStatus then ["pkgW" ++ pad 0 s] else []) ++
      if announces R.flags dramEnergyStatus then ["dramW" ++ pad 0 s] else []

/-- Loop body of `dump_rapl_data_terse`. -/
def terseSocket (rapl : RaplData K) (s : Nat) : Option (List (RaplPrint K)) := do
  let pkg ←
    if announces R.flags pkgEnergyStatus then (rapl.pkgWattsAt s).map fun w => [.value w]
    else some []
  let dram ←
    if announces R.flags dramEnergyStatus then (rapl.dramWattsAt s).map fun w => [.value w]
    else some []
  some (pkg ++ dram)

/-- `dump_rapl_data_terse`. -/
def dumpRaplDataTerse (drv : BatchDriver) (fd : Int) (E : EnergyState K) (p : Poll) :
    Option (List (RaplPrint K) × EnergyState K) := do
  let E ← readRaplData R drv fd E p
  let E ← deltaRaplData R E
  let lines ← (List.range R.cfg.sockets).mapM (terseSocket R E.rapl)
  some (lines.flatten, E)

/-- The numbers of a line of `dump_rapl_data`. -/
def powerFields (name : String) (watts elapsed timestamp : K) : List (RaplPrint K) :=
  [.field name watts, .field "elapsed" elapsed, .field "timestamp" timestamp]

/-- Loop body of `dump_rapl_data`. -/
def dataSocket (rapl : RaplData K) (timestamp : K) (s : Nat) : Option (List (RaplPrint K)) := do
  let pkg ←
    if announces R.flags pkgEnergyStatus then
      (rapl.pkgWattsAt s).map fun w => powerFields "pkg_watts" w rapl.elapsed timestamp
    else some []
  let dram ←
    if announces R.flags dramEnergyStatus then
      (rapl.dramWattsAt s).map fun w => powerFields "dram_watts" w rapl.elapsed timestamp
    else some []
  some (.socket s :: (pkg ++ dram))

/-- `dump_rapl_data`, at the time `now`.  `start` is its static variable, which the
    first call sets to the time `first`. -/
def dumpRaplData (rapl : RaplData K) (start : Option Timeval) (first now : Timeval) :
    Option (List (RaplPrint K) × Timeval) := do
  let start := start.getD first
  let lines ← (List.range R.cfg.sockets).mapM (dataSocket R rapl (elapsedSeconds now start))
  some (lines.flatten, start)

/-- The two lines `dump_rapl_power_info` prints for a domain. -/
def infoFields (domain : String) (info : DomainInfo K) : List (RaplPrint K) :=
  [.field (domain ++ "_max_power") info.maxPower, .field (domain ++ "_min_power") info.minPower,
    .field (domain ++ "_max_window") info.maxWindow,
    .field (domain ++ "_therm_power") info.thermPower]

/-- What `dump_rapl_power_info` prints for a socket. -/
def infoSocket (info : RaplPowerInfo K) (s : Nat) : List (RaplPrint K) :=
  (if announces R.flags pkgPowerInfo then .socket s :: infoFields "pkg" info.pkg else []) ++
    if announces R.flags dramPowerInfo then .socket s :: infoFields "dram" info.dram else []

/-- `dump_rapl_power_info`.  Its struct is not initialised, and all sockets use it. -/
def dumpRaplPowerInfo (h : Host) (info : RaplPowerInfo K) :
    Option (List (RaplPrint K) × RaplPowerInfo K × Host) :=
  (List.range R.cfg.sockets).foldlM (fun (out, info, h) s => do
    let (info, h) ← getRaplPowerInfo R h (BitVec.ofNat 32 s) info
    some (out ++ infoSocket R info s, info, h)) ([], info, h)

/-- The static state of the measuring functions and of `dump_rapl_data`. -/
structure RaplDumps (K : Type) where
  energy : EnergyState K
  start : Option Timeval

/-- A call: the machine it meets, or the times it takes. -/
inductive RaplDumpCall (K : Type) where
  | poll (p : Poll)
  | terse (p : Poll)
  | data (first now : Timeval)
  | info (h : Host) (info : RaplPowerInfo K)

/-- One call, and what it prints. -/
def raplDumpStep (drv : BatchDriver) (fd : Int) (S : RaplDumps K) :
    RaplDumpCall K → Option (List (RaplPrint K) × RaplDumps K)
  | .poll p => do
    let E ← pollRaplData R drv fd S.energy p
    some ([], { S with energy := E })
  | .terse p => do
    let (out, E) ← dumpRaplDataTerse R drv fd S.energy p
    some (out, { S with energy := E })
  | .data first now => do
    let (out, start) ← dumpRaplData R S.energy.rapl S.start first now
    some (out, { S with start := some start })
  | .info h info => do
    let (out, _, _) ← dumpRaplPowerInfo R h info
    some (out, S)

/-! ## The meter -/

/-- The time, and the energy units that the counters of every socket have counted
    until then. -/
structure EnergyCount where
  now : Timeval
  pkg : Nat → Nat
  dram : Nat → Nat

/-- A call, and the units counted when it is made. -/
structure CountedCall (K : Type) where
  call : RaplDumpCall K
  pkg : Nat → Nat
  dram : Nat → Nat

/-- What a meter would read at the call. -/
def CountedCall.count (c : CountedCall K) (now : Timeval) : EnergyCount := ⟨now, c.pkg, c.dram⟩

/-- The last two polls, if there were any, and the time that timestamps count from. -/
structure RaplMeter where
  before : Option EnergyCount
  last : Option EnergyCount
  start : Option Timeval

/-- Nothing was measured or dumped. -/
def RaplMeter.start₀ : RaplMeter := ⟨none, none, none⟩

/-- The meter after a poll. -/
def RaplMeter.poll (m : RaplMeter) (r : EnergyCount) : RaplMeter :=
  { m with before := m.last, last := some r }

/-- The power of an interval; one without length has none. -/
def meanPower (joules seconds : K) : K := if 0 < seconds then joules / seconds else 0

/-- The length of the interval that ends with the poll `r`. -/
def intervalSeconds : Option EnergyCount → EnergyCount → K
  | none, _ => 0
  | some q, r => elapsedSeconds r.now q.now

/-- The mean package power of socket `s` in that interval: the units counted, in joules,
    by its length. -/
def pkgPower (raw : Nat → Word) (s : Nat) : Option EnergyCount → EnergyCount → K
  | none, _ => 0
  | some q, r => meanPower (((r.pkg s - q.pkg s : Nat) : K) / ((2 ^ energyUnit (raw s) : Nat) : K))
      (intervalSeconds (some q) r)

/-- The mean DRAM power. -/
def dramPower (raw : Nat → Word) (s : Nat) : Option EnergyCount → EnergyCount → K
  | none, _ => 0
  | some q, r => meanPower (((r.dram s - q.dram s : Nat) : K) / (dramUnit R.model (raw s) : K))
      (intervalSeconds (some q) r)

/-- The power of a domain of a socket in the interval that ends with a poll. -/
abbrev IntervalPower (K : Type) := Nat → Option EnergyCount → EnergyCount → K

/-- The power of all sockets, as the terse dump prints it. -/
def tersePowers (pkg dram : IntervalPower K) (before : Option EnergyCount) (r : EnergyCount) :
    List K :=
  (List.range R.cfg.sockets).flatMap fun s => [pkg s before r, dram s before r]

/-- What the other dump prints for a socket. -/
def socketPowers (pkg dram : IntervalPower K) (before : Option EnergyCount) (r : EnergyCount)
    (timestamp : K) (s : Nat) : List (RaplPrint K) :=
  .socket s :: (powerFields "pkg_watts" (pkg s before r) (intervalSeconds before r) timestamp ++
    powerFields "dram_watts" (dram s before r) (intervalSeconds before r) timestamp)

/-- The power of all sockets with the times, as the other dump prints it. -/
def dataPowers (pkg dram : IntervalPower K) (before : Option EnergyCount) (r : EnergyCount)
    (timestamp : K) : List (RaplPrint K) :=
  (List.range R.cfg.sockets).flatMap (socketPowers pkg dram before r timestamp)

/-- The info registers of a socket, decoded. -/
def socketInfo (raw : Nat → Word) (h : Host) (s : Nat) : RaplPowerInfo K :=
  let regs := h.regs (socketCpu R (BitVec.ofNat 32 s))
  ⟨domainInfo (.ofMsr (raw s)) (regs msrPkgPowerInfo),
    domainInfo (.ofMsr (raw s)) (regs msrDramPowerInfo)⟩

/-- One call, on a meter that shows the power `pkg` and `dram`. -/
def meterShows (raw : Nat → Word) (pkg dram : IntervalPower K) (m : RaplMeter)
    (c : CountedCall K) : Option (List (RaplPrint K) × RaplMeter) :=
  match c.call with
  | .poll p => some ([], m.poll (c.count p.now))
  | .terse p => some ((tersePowers R pkg dram m.last (c.count p.now)).map .value,
      m.poll (c.count p.now))
  | .data first now => do
    let r ← m.last
    let start := m.start.getD first
    some (dataPowers R pkg dram m.before r (elapsedSeconds now start),
      { m with start := some start })
  | .info h _ =>
    some ((List.range R.cfg.sockets).flatMap fun s => infoSocket R (socketInfo R raw h s) s, m)

/-- One call, on the meter. -/
def meterStep (raw : Nat → Word) : RaplMeter → CountedCall K →
    Option (List (RaplPrint K) × RaplMeter) :=
  meterShows R raw (pkgPower raw) (dramPower R raw)

end Dumps

end Libmsr
