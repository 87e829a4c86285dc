/-
  Libmsr.Rapl.RaplDumpRuns

  The dumps of src/msr_rapl.c against a meter that knows, for the last two polls
  only, how many energy units had been counted.

  - `pollRaplData_first_watts`, `pollRaplData_step_watts`: the power in the arrays is
    that of the deltas and the elapsed time.
  - `raplDumpStep_shows`: a call prints the power in the arrays, and that is computed
    from the two readings (`arrayPkgPower`, `arrayDramPower`).
  - `arrayPkgPower_iff`, `arrayDramPower_iff`: when it is the mean power.
  - `raplDumps_refine`: a sequence of calls prints what the meter prints if and only
    if no counter wrapped around in an interval that is printed.
-/
import Libmsr.Rapl.RaplDump

namespace Libmsr

open Listing

section RaplDumpRuns

variable {K : Type} [Field K] [LinearOrder K] [IsStrictOrderedRing K] [FloorRing K]

/-! ## The power of a poll -/

section Watts

variable {R : RaplSetup K} {pick : Nat → Nat} {raw : Nat → Word} {drv : BatchDriver} {fd : Int}
  (hcpus : SocketCpus R pick) (hunits : HasUnits R raw) (hann : EnergyAnnounced R.flags)
include hcpus hunits hann

omit [IsStrictOrderedRing K] in
/-- The first poll has no power. -/
theorem pollRaplData_first_watts (hpos : 0 < R.cfg.sockets) {S S' : EnergyState K} (hS : S.Fresh)
    {p : Poll} (h : pollRaplData R drv fd S p = some S') {s : Nat} (hs : s < R.cfg.sockets) :
    S'.rapl.pkgWattsAt s = some 0 ∧ S'.rapl.dramWattsAt s = some 0 := by
  obtain ⟨S₁, hread, hS₁⟩ := readRaplData_first drv fd hann hcpus hunits hpos hS p
  obtain ⟨ps, hps, hp, -⟩ := hS₁.arrays.pkg
  obtain ⟨ds, hds, hd, -⟩ := hS₁.arrays.dram
  have hloop := zeroWatts_loop S₁.rapl hps hds hp hd hann.1 hann.2
  have hfirst : S₁.deltaInit = false := (readRaplData_clock hread).1.trans hS.deltaInit
  simp only [pollRaplData, hread, deltaRaplData, hfirst, Bool.not_false, if_true, hloop,
    Option.bind_eq_bind, Option.bind_some, Option.some.injEq] at h
  subst h
  have hc : ps[s]? = some ps[s] := List.getElem?_eq_getElem (by omega)
  have hc' : ds[s]? = some ds[s] := List.getElem?_eq_getElem (by omega)
  constructor
  · simp only [RaplData.pkgWattsAt, Option.bind_some, List.getElem?_mapIdx, hc, Option.map_some]
  · simp only [RaplData.dramWattsAt, Option.bind_some, List.getElem?_mapIdx, hc', Option.map_some]

/-- Every later poll divides the deltas by the time since the poll before. -/
theorem pollRaplData_step_watts {S S' : EnergyState K} {p p' : Poll}
    (hS : Measures R pick raw S p) (hready : PollReady R pick drv fd p')
    (h : pollRaplData R drv fd S p' = some S') {s : Nat} (hs : s < R.cfg.sockets) :
    S'.rapl.pkgWattsAt s = some (meanPower (pkgDeltaJoules (unitsPerJoule (raw s))
        (p.pkgReading pick s) (p'.pkgReading pick s)) (elapsedSeconds p'.now S.rapl.now)) ∧
      S'.rapl.dramWattsAt s = some (meanPower (dramDeltaJoules (dramUnitsPerJoule R.model (raw s))
        (p.dramReading pick s) (p'.dramReading pick s)) (elapsedSeconds p'.now S.rapl.now)) := by
  obtain ⟨S₁, hread, hinit, hadv⟩ := readRaplData_step hcpus hunits hann.1 hann.2 hS hready
  have helapsed : S₁.rapl.elapsed = elapsedSeconds p'.now S.rapl.now :=
    (readRaplData_clock hread).2.2.2 hS.readInit
  obtain ⟨ps, hps, hp, -⟩ := hadv.wired.pkg
  obtain ⟨ds, hds, hd, -⟩ := hadv.wired.dram
  have hloop := deltaSocket_loop hps hds hp hd hann.1 hann.2
    (F := fun s c => (pkgDelta R S₁.st s c).getD c) fun s c hc => by
      obtain ⟨c', hc', -⟩ := pkgDelta_advanced hunits hadv hps hp hc
      rw [hc', Option.getD_some]
  simp only [pollRaplData, hread, deltaRaplData, hinit, Bool.not_true, Bool.false_eq_true, if_false,
    hloop, Option.bind_eq_bind, Option.bind_some, Option.some.injEq] at h
  subst h
  have hc : ps[s]? = some ps[s] := List.getElem?_eq_getElem (by omega)
  have hc' : ds[s]? = some ds[s] := List.getElem?_eq_getElem (by omega)
  constructor
  · obtain ⟨c', hdelta, -, -, hjoules⟩ := pkgDelta_advanced hunits hadv hps hp hc
    simp only [RaplData.pkgWattsAt, Option.bind_some, List.getElem?_mapIdx, hc, Option.map_some,
      hdelta, Option.getD_some, PkgCell.withWatts, hjoules, helapsed]
    rfl
  · obtain ⟨-, -, hjoules⟩ := dramDelta_advanced hadv hds hc'
    simp only [RaplData.dramWattsAt, Option.bind_some, List.getElem?_mapIdx, hc', Option.map_some,
      DramCell.withWatts, hjoules, helapsed]
    rfl

end Watts

/-! ## The arrays and the meter -/

/-- The registers show the units counted. -/
def Poll.Shows (p : Poll) (R : RaplSetup K) (pick : Nat → Nat) (r : EnergyCount) : Prop :=
  ∀ s, s < R.cfg.sockets → p.pkgReading pick s = counterWord (r.pkg s) ∧
    p.dramReading pick s = counterWord (r.dram s)

/-- The counters go on counting, fewer than `2 ^ 32` units. -/
structure EnergyCount.Advances (R : RaplSetup K) (q r : EnergyCount) : Prop where
  pkg_le : ∀ s, s < R.cfg.sockets → q.pkg s ≤ r.pkg s
  pkg_lt : ∀ s, s < R.cfg.sockets → r.pkg s - q.pkg s < 2 ^ 32
  dram_le : ∀ s, s < R.cfg.sockets → q.dram s ≤ r.dram s
  dram_lt : ∀ s, s < R.cfg.sockets → r.dram s - q.dram s < 2 ^ 32

/-- The package power in the arrays is computed from what the counters show. -/
def arrayPkgPower (raw : Nat → Word) : IntervalPower K
  | _, none, _ => 0
  | s, some q, r => meanPower (pkgDeltaJoules (unitsPerJoule (raw s)) (counterWord (q.pkg s))
      (counterWord (r.pkg s))) (intervalSeconds (some q) r)

@[inherit_doc arrayPkgPower]
def arrayDramPower (R : RaplSetup K) (raw : Nat → Word) : IntervalPower K
  | _, none, _ => 0
  | s, some q, r => meanPower (dramDeltaJoules (dramUnitsPerJoule R.model (raw s))
      (counterWord (q.dram s)) (counterWord (r.dram s))) (intervalSeconds (some q) r)

/-- The arrays after the meter's last poll. -/
structure LastPoll (R : RaplSetup K) (pick : Nat → Nat) (raw : Nat → Word) (E : EnergyState K)
    (before : Option EnergyCount) (r : EnergyCount) : Prop where
  measures : ∃ p, Measures R pick raw E p ∧ p.Shows R pick r
  now : E.rapl.now = r.now
  elapsed : E.rapl.elapsed = intervalSeconds before r
  advances : ∀ b, before = some b → b.Advances R r
  watts : ∀ s, s < R.cfg.sockets →
    E.rapl.pkgWattsAt s = some (arrayPkgPower raw s before r) ∧
      E.rapl.dramWattsAt s = some (arrayDramPower R raw s before r)

/-- The arrays hold the power of the interval that ended with the last poll, or there
    was no poll yet. -/
def Metering (R : RaplSetup K) (pick : Nat → Nat) (raw : Nat → Word) (S : RaplDumps K)
    (m : RaplMeter) : Prop :=
  S.start = m.start ∧
    match m.last with
    | none => S.energy.Fresh
    | some r => LastPoll R pick raw S.energy m.before r

/-- What a poll finds: the counters show the units counted, and have counted on since
    the poll before. -/
structure PollCounts (R : RaplSetup K) (pick : Nat → Nat) (p : Poll) (last : Option EnergyCount)
    (r : EnergyCount) : Prop where
  now : r.now = p.now
  shows : p.Shows R pick r
  advances : ∀ q, last = some q → q.Advances R r

/-- The units of the call are those that the counters have counted. -/
def CountedCall.Counts (R : RaplSetup K) (pick : Nat → Nat) (m : RaplMeter) (c : CountedCall K) :
    Prop :=
  match c.call with
  | .poll p => PollCounts R pick p m.last (c.count p.now)
  | .terse p => PollCounts R pick p m.last (c.count p.now)
  | .data _ _ => True
  | .info _ _ => True

/-- The info registers of all sockets can be read. -/
structure InfoReady (R : RaplSetup K) (raw : Nat → Word) (h : Host) : Prop where
  init : ∀ s, s < R.cfg.sockets → Initialised R h (BitVec.ofNat 32 s) (raw s)
  readable : ∀ s, s < R.cfg.sockets → ∀ msr ∈ [msrPkgPowerInfo, msrDramPowerInfo],
    h.fails (socketCpu R (BitVec.ofNat 32 s)) msr = false

/-- What a call needs of the machine. -/
def RaplDumpCall.Ready (R : RaplSetup K) (pick : Nat → Nat) (raw : Nat → Word) (drv : BatchDriver)
    (fd : Int) : RaplDumpCall K → Prop
  | .poll p => PollReady R pick drv fd p
  | .terse p => PollReady R pick drv fd p
  | .data _ _ => True
  | .info h _ => InfoReady R raw h

section Meter

variable {R : RaplSetup K} {pick : Nat → Nat} {raw : Nat → Word} {drv : BatchDriver} {fd : Int}

section Poll

variable (hcpus : SocketCpus R pick) (hunits : HasUnits R raw) (hann : EnergyAnnounced R.flags)
  (hpos : 0 < R.cfg.sockets)
include hcpus hunits hann hpos

/-- **A poll** begins the meter's next interval. -/
theorem Metering.poll {S : RaplDumps K} {m : RaplMeter} (hS : Metering R pick raw S m) {p : Poll}
    (hready : PollReady R pick drv fd p) {r : EnergyCount}
    (hcounts : PollCounts R pick p m.last r) :
    ∃ E, pollRaplData R drv fd S.energy p = some E ∧
      Metering R pick raw { S with energy := E } (m.poll r) := by
  obtain ⟨before, last, start⟩ := m
  obtain ⟨hstart, hlast⟩ := hS
  cases last with
  | none =>
    -- the first poll only fills the arrays; its power is 0
    obtain ⟨E, hE, hmeasures⟩ := pollRaplData_first hcpus hunits hann.1 hann.2 hpos hlast hready
    obtain ⟨hnow, helapsed⟩ := pollRaplData_clock hE (hlast.readInit.trans hlast.deltaInit.symm)
    rw [hlast.readInit, if_neg Bool.false_ne_true] at helapsed
    have hwatts := fun s hs => pollRaplData_first_watts hcpus hunits hann hpos hlast hE (s := s) hs
    exact ⟨E, hE, hstart, ⟨p, hmeasures, hcounts.shows⟩, hnow.trans hcounts.now.symm, helapsed,
      hcounts.advances, hwatts⟩
  | some q =>
    obtain ⟨⟨p₀, hmeasures, hshows⟩, hnow, -, -, -⟩ := hlast
    obtain ⟨E, hE, hmeasures', -⟩ :=
      pollRaplData_step hcpus hunits hann.1 hann.2 hmeasures hready
    obtain ⟨hnow', helapsed⟩ :=
      pollRaplData_clock hE (hmeasures.readInit.trans hmeasures.deltaInit.symm)
    -- the length of the interval is taken from the times of the two polls
    rw [hmeasures.readInit, if_pos rfl, hnow, ← hcounts.now] at helapsed
    refine ⟨E, hE, hstart, ⟨p, hmeasures', hcounts.shows⟩, hnow'.trans hcounts.now.symm, helapsed,
      hcounts.advances, fun s hs => ?_⟩
    -- and the deltas from what the counters showed then
    have hwatts := pollRaplData_step_watts hcpus hunits hann hmeasures hready hE hs
    rw [(hshows s hs).1, (hshows s hs).2, (hcounts.shows s hs).1, (hcounts.shows s hs).2, hnow,
      ← hcounts.now] at hwatts
    exact hwatts

end Poll

omit [Field K] [LinearOrder K] [IsStrictOrderedRing K] [FloorRing K] in
/-- The terse line of a socket. -/
theorem terseSocket_eq (hann : EnergyAnnounced R.flags) {rapl : RaplData K} {s : Nat} {w w' : K}
    (hpkg : rapl.pkgWattsAt s = some w) (hdram : rapl.dramWattsAt s = some w') :
    terseSocket R rapl s = some ([w, w'].map .value) := by
  simp only [terseSocket, hann.1, hann.2, if_true, hpkg, hdram, Option.map_some,
    Option.bind_eq_bind, Option.bind_some]
  rfl

omit [Field K] [LinearOrder K] [IsStrictOrderedRing K] [FloorRing K] in
/-- The lines of a socket. -/
theorem dataSocket_eq (hann : EnergyAnnounced R.flags) {rapl : RaplData K} {s : Nat} {w w' : K}
    (hpkg : rapl.pkgWattsAt s = some w) (hdram : rapl.dramWattsAt s = some w') (timestamp : K) :
    dataSocket R rapl timestamp s = some (.socket s ::
      (powerFields "pkg_watts" w rapl.elapsed timestamp ++
        powerFields "dram_watts" w' rapl.elapsed timestamp)) := by
  simp only [dataSocket, hann.1, hann.2, if_true, hpkg, hdram, Option.map_some,
    Option.bind_eq_bind, Option.bind_some]

omit [LinearOrder K] [IsStrictOrderedRing K] [FloorRing K] in
/-- Without a poll there are no arrays to print. -/
theorem dumpRaplData_fresh (hann : EnergyAnnounced R.flags) (hpos : 0 < R.cfg.sockets)
    {E : EnergyState K} (hE : E.Fresh) (start : Option Timeval) (first now : Timeval) :
    dumpRaplData R E.rapl start first now = none := by
  obtain ⟨n, hn⟩ : ∃ n, R.cfg.sockets = n + 1 := Nat.exists_eq_succ_of_ne_zero hpos.ne'
  have hsocket : ∀ timestamp : K, dataSocket R E.rapl timestamp 0 = none := by
    intro timestamp
    simp only [dataSocket, hann.1, if_true, RaplData.pkgWattsAt, hE.pkg, Option.bind_none,
      Option.map_none, Option.bind_eq_bind]
  simp only [dumpRaplData, hn, List.range_succ_eq_map, List.mapM_cons, hsocket,
    Option.bind_eq_bind, Option.bind_none]

omit [IsStrictOrderedRing K] in
/-- A block of `get_rapl_power_info`, which the flags may leave out. -/
theorem readDomainInfo_flagged {h h' : Host} {socket : BitVec 32} {rawUnit : Word}
    (hinit : Initialised R h socket rawUnit) (hsame : h.SameDevices h') (hregs : h'.regs = h.regs)
    {msr : Nat} (hok : h.fails (socketCpu R socket) msr = false) (flag : Bool)
    (info : DomainInfo K) :
    ∃ info' h'', (if flag then readDomainInfo R h' socket msr info else some (info, h')) =
        some (info', h'') ∧
      (flag = true → info' = domainInfo (.ofMsr rawUnit) (h.regs (socketCpu R socket) msr)) ∧
      h.SameDevices h'' ∧ h''.regs = h.regs := by
  cases flag with
  | true =>
    have hok' : h'.fails (socketCpu R socket) msr = false := by
      rw [hsame.fails]
      exact hok
    have hread := readDomainInfo_spec (hinit.of_sameDevices hsame) hok' info
    rw [hregs] at hread
    exact ⟨_, _, hread, fun _ => rfl, hsame.log _, hregs⟩
  | false => exact ⟨info, h', rfl, fun h => absurd h Bool.false_ne_true, hsame, hregs⟩

omit [IsStrictOrderedRing K] in
/-- Reading the info of a socket.  What is not announced is not read, and not
    printed. -/
theorem getRaplPowerInfo_socket {h h' : Host} (hready : InfoReady R raw h)
    (hsame : h.SameDevices h') (hregs : h'.regs = h.regs) {s : Nat} (hs : s < R.cfg.sockets)
    (info : RaplPowerInfo K) :
    ∃ info' h'', getRaplPowerInfo R h' (BitVec.ofNat 32 s) info = some (info', h'') ∧
      infoSocket R info' s = infoSocket R (socketInfo R raw h s) s ∧
      h.SameDevices h'' ∧ h''.regs = h.regs := by
  obtain ⟨pkg, h₁, hreadPkg, hpkg, hsame₁, hregs₁⟩ := readDomainInfo_flagged (hready.init s hs)
    hsame hregs (hready.readable s hs msrPkgPowerInfo (by decide))
    (announces R.flags pkgPowerInfo) info.pkg
  obtain ⟨dram, h₂, hreadDram, hdram, hsame₂, hregs₂⟩ := readDomainInfo_flagged (hready.init s hs)
    hsame₁ hregs₁ (hready.readable s hs msrDramPowerInfo (by decide))
    (announces R.flags dramPowerInfo) info.dram
  have hget : getRaplPowerInfo R h' (BitVec.ofNat 32 s) info = some (⟨pkg, dram⟩, h₂) := by
    simp only [getRaplPowerInfo, Option.bind_eq_bind, flagged_bind_iff]
    exact ⟨_, hreadPkg, _, hreadDram, rfl⟩
  refine ⟨_, h₂, hget, ?_, hsame₂, hregs₂⟩
  simp only [infoSocket, socketInfo]
  congr 1
  · split
    · next hflag => rw [hpkg hflag]
    · rfl
  · split
    · next hflag => rw [hdram hflag]
    · rfl

omit [IsStrictOrderedRing K] in
/-- `dump_rapl_power_info` prints the info of every socket, decoded; what its struct
    holds at the start is not printed. -/
theorem dumpRaplPowerInfo_spec {h : Host} (hready : InfoReady R raw h) (info : RaplPowerInfo K) :
    ∃ info' h', dumpRaplPowerInfo R h info = some
      ((List.range R.cfg.sockets).flatMap fun s => infoSocket R (socketInfo R raw h s) s,
        info', h') := by
  obtain ⟨⟨out, info', h'⟩, hloop, hout, -⟩ := Loops.foldlM_range_inv
    (fun (t : List (RaplPrint K) × RaplPowerInfo K × Host) s =>
      (getRaplPowerInfo R t.2.2 (BitVec.ofNat 32 s) t.2.1).bind fun r =>
        some (t.1 ++ infoSocket R r.1 s, r.1, r.2))
    (fun k t => t.1 = ((List.range k).flatMap fun s => infoSocket R (socketInfo R raw h s) s) ∧
      h.SameDevices t.2.2 ∧ t.2.2.regs = h.regs) R.cfg.sockets ([], info, h)
    ⟨rfl, .refl h, rfl⟩ (by
      rintro k hk ⟨out, info, h'⟩ ⟨hout, hsame, hregs⟩
      obtain ⟨info', h'', hget, hprint, hsame', hregs'⟩ :=
        getRaplPowerInfo_socket hready hsame hregs hk info
      have hbody : ((getRaplPowerInfo R h' (BitVec.ofNat 32 k) info).bind fun r =>
          some (out ++ infoSocket R r.1 k, r.1, r.2)) =
          some (out ++ infoSocket R info' k, info', h'') := by
        rw [hget, Option.bind_some]
      refine ⟨_, hbody, ?_, hsame', hregs'⟩
      dsimp only at hout
      rw [hout, hprint, List.range_succ, List.flatMap_append, List.flatMap_singleton])
  dsimp only at hout
  subst hout
  exact ⟨info', h', hloop⟩

/-! ## One call -/

section Refines

variable (hcpus : SocketCpus R pick) (hunits : HasUnits R raw) (hann : EnergyAnnounced R.flags)
  (hpos : 0 < R.cfg.sockets)
include hcpus hunits hann hpos

/-- **One call** prints the power in the arrays, and these follow the meter. -/
theorem raplDumpStep_shows {S : RaplDumps K} {m : RaplMeter} (hS : Metering R pick raw S m)
    {c : CountedCall K} (hready : c.call.Ready R pick raw drv fd) (hcounts : c.Counts R pick m) :
    Runs.SameOutcome (Metering R pick raw) (raplDumpStep R drv fd S c.call)
      (meterShows R raw (arrayPkgPower raw) (arrayDramPower R raw) m c) := by
  obtain ⟨call, pkg, dram⟩ := c
  cases call with
  | poll p =>
    obtain ⟨E, hE, hS'⟩ := hS.poll hcpus hunits hann hpos hready hcounts
    simp only [raplDumpStep, hE, Option.bind_eq_bind, Option.bind_some]
    exact .some ⟨rfl, hS'⟩
  | terse p =>
    obtain ⟨E, hE, hS'⟩ := hS.poll hcpus hunits hann hpos hready hcounts
    have hpower := hS'.2.watts
    simp only [pollRaplData, Option.bind_eq_bind, Option.bind_eq_some_iff] at hE
    obtain ⟨E₁, hread, hdelta⟩ := hE
    have hlines : (List.range R.cfg.sockets).mapM (terseSocket R E.rapl) =
        some ((List.range R.cfg.sockets).map fun s =>
          [arrayPkgPower raw s m.last ⟨p.now, pkg, dram⟩,
            arrayDramPower R raw s m.last ⟨p.now, pkg, dram⟩].map .value) :=
      Loops.mapM_some fun s hs => by
        obtain ⟨hpkg, hdram⟩ := hpower s (List.mem_range.mp hs)
        exact terseSocket_eq hann hpkg hdram
    simp only [raplDumpStep, dumpRaplDataTerse, hread, hdelta, hlines, Option.bind_eq_bind,
      Option.bind_some]
    refine .some ⟨?_, hS'⟩
    rw [tersePowers, List.map_flatMap, List.flatMap_def]
    rfl
  | data first now =>
    obtain ⟨before, last, start⟩ := m
    obtain ⟨hstart, hlast⟩ := hS
    cases last with
    | none =>
      simp only [raplDumpStep, dumpRaplData_fresh hann hpos hlast, Option.bind_eq_bind,
        Option.bind_none]
      exact .none
    | some r =>
      have helapsed := hlast.elapsed
      have hpower := hlast.watts
      have hlines := fun timestamp : K => Loops.mapM_some fun s hs => by
        obtain ⟨hpkg, hdram⟩ := hpower s (List.mem_range.mp hs)
        exact dataSocket_eq hann hpkg hdram timestamp
      simp only [raplDumpStep, dumpRaplData, hlines, hstart, helapsed, Option.bind_eq_bind,
        Option.bind_some]
      refine .some ⟨?_, rfl, hlast⟩
      rw [dataPowers, List.flatMap_def]
      rfl
  | info h info =>
    obtain ⟨info', h', hdump⟩ := dumpRaplPowerInfo_spec hready info
    simp only [raplDumpStep, hdump, Option.bind_eq_bind, Option.bind_some]
    exact .some ⟨rfl, hS⟩

end Refines

end Meter

/-! ## When it is the mean power -/

/-- In an interval of some length no counter wrapped around, or in units of `1 << 31` the
    delta is exact all the same. -/
def IntervalExact (R : RaplSetup K) (raw : Nat → Word) (before : Option EnergyCount)
    (r : EnergyCount) : Prop :=
  ∀ q, before = some q → 0 < (intervalSeconds (some q) r : K) → ∀ s, s < R.cfg.sockets →
    PkgExact (raw s) (q.pkg s) (r.pkg s) ∧ DramExact R.model (raw s) (q.dram s) (r.dram s)

/-- The interval that the call prints is exact. -/
def CountedCall.PrintsExact (R : RaplSetup K) (raw : Nat → Word) (m : RaplMeter)
    (c : CountedCall K) : Prop :=
  match c.call with
  | .poll _ => True
  | .terse p => IntervalExact R raw m.last (c.count p.now)
  | .data _ _ => ∀ r, m.last = some r → IntervalExact R raw m.before r
  | .info _ _ => True

omit [IsStrictOrderedRing K] [FloorRing K] in
theorem meanPower_inj {x y t : K} : meanPower x t = meanPower y t ↔ (0 < t → x = y) := by
  by_cases ht : 0 < t
  · rw [meanPower, meanPower, if_pos ht, if_pos ht, div_left_inj' ht.ne', forall_prop_of_true ht]
  · rw [meanPower, meanPower, if_neg ht, if_neg ht]
    exact iff_of_true rfl fun h => absurd h ht

section Exact

variable {R : RaplSetup K} {raw : Nat → Word}

omit [FloorRing K] in
/-- The package power is the mean power exactly if the delta of an interval of some
    length is exact. -/
theorem arrayPkgPower_iff {q r : EnergyCount} (h : q.Advances R r) {s : Nat}
    (hs : s < R.cfg.sockets) :
    arrayPkgPower raw s (some q) r = (pkgPower raw s (some q) r : K) ↔
      (0 < (intervalSeconds (some q) r : K) → PkgExact (raw s) (q.pkg s) (r.pkg s)) := by
  rw [arrayPkgPower, pkgPower, meanPower_inj]
  refine imp_congr_right fun _ => ?_
  rw [Nat.cast_pow, Nat.cast_ofNat]
  exact pkgDeltaJoules_exact_iff (h.pkg_le s hs) (h.pkg_lt s hs) (raw s)

omit [FloorRing K] in
/-- The same of the DRAM power. -/
theorem arrayDramPower_iff {q r : EnergyCount} (h : q.Advances R r) {s : Nat}
    (hs : s < R.cfg.sockets) :
    arrayDramPower R raw s (some q) r = dramPower R raw s (some q) r ↔
      (0 < (intervalSeconds (some q) r : K) →
        DramExact R.model (raw s) (q.dram s) (r.dram s)) := by
  rw [arrayDramPower, dramPower, meanPower_inj]
  refine imp_congr_right fun _ => ?_
  exact dramDeltaJoules_exact_iff (h.dram_le s hs) (h.dram_lt s hs) R.model (raw s)

omit [FloorRing K] in
/-- Both powers of all sockets, in an interval. -/
theorem arrayPowers_iff {before : Option EnergyCount} {r : EnergyCount}
    (h : ∀ q, before = some q → q.Advances R r) :
    (∀ s ∈ List.range R.cfg.sockets,
        arrayPkgPower raw s before r = (pkgPower raw s before r : K) ∧
          arrayDramPower R raw s before r = dramPower R raw s before r) ↔
      IntervalExact R raw before r := by
  cases before with
  | none => exact iff_of_true (fun s _ => ⟨rfl, rfl⟩) fun q hq => by contradiction
  | some q =>
    have hadv := h q rfl
    constructor
    · intro hall q' hq' ht s hs
      obtain rfl := Option.some.inj hq'
      obtain ⟨hpkg, hdram⟩ := hall s (List.mem_range.mpr hs)
      exact ⟨(arrayPkgPower_iff hadv hs).mp hpkg ht, (arrayDramPower_iff hadv hs).mp hdram ht⟩
    · intro hexact s hs
      have hs' := List.mem_range.mp hs
      exact ⟨(arrayPkgPower_iff hadv hs').mpr fun ht => (hexact q rfl ht s hs').1,
        (arrayDramPower_iff hadv hs').mpr fun ht => (hexact q rfl ht s hs').2⟩

omit [FloorRing K] in
/-- The terse dump prints the mean powers exactly if the interval is exact. -/
theorem tersePowers_iff {before : Option EnergyCount} {r : EnergyCount}
    (h : ∀ q, before = some q → q.Advances R r) :
    (tersePowers R (arrayPkgPower raw) (arrayDramPower R raw) before r).map RaplPrint.value =
        (tersePowers R (pkgPower raw) (dramPower R raw) before r).map .value ↔
      IntervalExact R raw before r := by
  have hinj : Function.Injective (RaplPrint.value (K := K)) := fun _ _ h => RaplPrint.value.inj h
  have hlen : ∀ s ∈ List.range R.cfg.sockets,
      [arrayPkgPower raw s before r, arrayDramPower R raw s before r].length =
        [(pkgPower raw s before r : K), dramPower R raw s before r].length := fun _ _ => rfl
  rw [hinj.list_map.eq_iff, ← arrayPowers_iff h, tersePowers, tersePowers,
    flatMap_eq_flatMap_iff hlen]
  refine forall₂_congr fun s _ => ?_
  rw [List.cons_eq_cons, List.singleton_inj]

omit [FloorRing K] in
/-- The other dump prints them under the same condition. -/
theorem dataPowers_iff {before : Option EnergyCount} {r : EnergyCount}
    (h : ∀ q, before = some q → q.Advances R r) (timestamp : K) :
    dataPowers R (arrayPkgPower raw) (arrayDramPower R raw) before r timestamp =
        dataPowers R (pkgPower raw) (dramPower R raw) before r timestamp ↔
      IntervalExact R raw before r := by
  have hlen : ∀ s ∈ List.range R.cfg.sockets,
      (socketPowers (arrayPkgPower raw) (arrayDramPower R raw) before r timestamp s).length =
        (socketPowers (pkgPower raw) (dramPower R raw) before r timestamp s).length :=
    fun _ _ => rfl
  rw [dataPowers, dataPowers, ← arrayPowers_iff h, flatMap_eq_flatMap_iff hlen]
  refine forall₂_congr fun s _ => ?_
  simp only [socketPowers, powerFields, List.cons_append, List.nil_append, List.cons.injEq,
    RaplPrint.field.injEq, true_and, and_true]

end Exact

/-! ## Runs -/

section Runs

variable {R : RaplSetup K} {pick : Nat → Nat} {raw : Nat → Word} {drv : BatchDriver} {fd : Int}
  (hcpus : SocketCpus R pick) (hunits : HasUnits R raw) (hann : EnergyAnnounced R.flags)
  (hpos : 0 < R.cfg.sockets)
include hcpus hunits hann hpos

/-- **Step lemma.**  A call has an outcome if it has one on the meter, and prints the same
    exactly if the interval it prints is exact. -/
theorem raplDumpStep_exact_iff {S : RaplDumps K} {m : RaplMeter} (hS : Metering R pick raw S m)
    {c : CountedCall K} (hready : c.call.Ready R pick raw drv fd) (hcounts : c.Counts R pick m) :
    Option.Rel (fun a b => (a.1 = b.1 ↔ c.PrintsExact R raw m) ∧ Metering R pick raw a.2 b.2)
      (raplDumpStep R drv fd S c.call) (meterStep R raw m c) := by
  have hshows := raplDumpStep_shows hcpus hunits hann hpos hS hready hcounts
  obtain ⟨hstart, hlast⟩ := hS
  obtain ⟨call, pkg, dram⟩ := c
  generalize hstep : raplDumpStep R drv fd S call = outcome at hshows
  cases call with
  | poll p =>
    cases hshows with
    | some h => exact .some ⟨iff_of_true h.1 trivial, h.2⟩
  | terse p =>
    cases hshows with
    | some h => exact .some ⟨by rw [h.1]; exact tersePowers_iff hcounts.advances, h.2⟩
  | data first now =>
    obtain ⟨before, last, start⟩ := m
    cases last with
    | none =>
      cases hshows
      exact .none
    | some r =>
      cases hshows with
      | some h =>
        refine .some ⟨?_, h.2⟩
        rw [h.1]
        refine (dataPowers_iff hlast.advances _).trans ?_
        exact ⟨fun hexact r' hr' => Option.some.inj hr' ▸ hexact, fun hexact => hexact r rfl⟩
  | info h info =>
    cases hshows with
    | some h => exact .some ⟨iff_of_true h.1 trivial, h.2⟩

/-- The power that a label of the terse dump names. -/
def tersePower (R : RaplSetup K) (raw : Nat → Word) (before : Option EnergyCount)
    (r : EnergyCount) : Nat → Nat → K
  | 0, s => pkgPower raw s before r
  | _, s => dramPower R raw s before r

/-- **The dumps.**  A sequence of polls and dumps prints all the way what the meter prints
    if and only if every interval that is printed is exact; and the powers of a terse
    dump of the meter stand under their labels. -/
theorem raplDumps_refine {E : EnergyState K} (hE : E.Fresh) {calls : List (CountedCall K)}
    (hcalls : Runs.Along (Runs.next (meterStep R raw))
      (fun m c => c.call.Ready R pick raw drv fd ∧ c.Counts R pick m) .start₀ calls) :
    ((∀ k, (Runs.outputs (fun S c => raplDumpStep R drv fd S c.call) ⟨E, none⟩
          (calls.take k)).map Prod.fst =
        (Runs.outputs (meterStep R raw) .start₀ (calls.take k)).map Prod.fst) ↔
      Runs.Along (Runs.next (meterStep R raw)) (fun m c => c.PrintsExact R raw m) .start₀
        calls) ∧
      ∀ before r, Labelled (columnText 0 ["pkgW", "dramW"])
        (fun l => tersePower R raw before r l.1 l.2) (dumpRaplDataTerseLabel R)
        (tersePowers R (pkgPower raw) (dramPower R raw) before r) := by
  constructor
  · have hstart : Metering R pick raw ⟨E, none⟩ .start₀ := ⟨rfl, hE⟩
    refine Runs.outputs_take_iff (R := Metering R pick raw) (fun S m c hS hc =>
      raplDumpStep_exact_iff hcpus hunits hann hpos hS hc.1 hc.2) (fun m c hfails => ?_) hstart
      hcalls
    obtain ⟨call, pkg, dram⟩ := c
    obtain ⟨before, last, start⟩ := m
    cases call with
    | poll p => contradiction
    | terse p => contradiction
    | data first now =>
      -- it fails before the first poll only
      rintro r rfl
      contradiction
    | info h info => contradiction
  · intro before r
    have hlabels : dumpRaplDataTerseLabel R = columnLabels 0 ["pkgW", "dramW"] R.cfg.sockets := by
      simp only [dumpRaplDataTerseLabel, hann.1, hann.2, if_true, columnLabels]
      rfl
    rw [hlabels]
    exact labelled_columns 0 ["pkgW", "dramW"] (by decide) (by decide) R.cfg.sockets
      (tersePower R raw before r)

end Runs

end RaplDumpRuns

/-! ## Two sockets -/

/-- The machine at second `sec`, when all counters have counted `total` units. -/
def counterPoll₂ (sec : Int) (total : Nat) : Poll :=
  ⟨{ Host.opened 2 with regs := fun _ _ => counterWord total }, ⟨sec, 0⟩⟩

/-- Two terse dumps, with the other dump and the power info after them. -/
def fourDumps : List (CountedCall ℚ) :=
  [⟨.terse (counterPoll₂ 1 1000), fun _ => 1000, fun _ => 1000⟩,
    ⟨.terse (counterPoll₂ 3 66536), fun _ => 66536, fun _ => 66536⟩,
    ⟨.data ⟨4, 0⟩ ⟨5, 0⟩, fun _ => 66536, fun _ => 66536⟩,
    ⟨.info (.opened 2) ⟨⟨0, 0, 0, 0, 0⟩, ⟨0, 0, 0, 0, 0⟩⟩, fun _ => 66536, fun _ => 66536⟩]

/-- The interval between the two. -/
theorem fourDumps_exact :
    IntervalExact twoSocketRapl (fun _ => 0xA1003) (some ⟨⟨1, 0⟩, fun _ => 1000, fun _ => 1000⟩)
      ⟨⟨3, 0⟩, fun _ => 66536, fun _ => 66536⟩ := by
  have hwrap : ¬ WrapCounter.Wrapped 32 1000 66536 := by decide
  have hunit : energyUnit 0xA1003 ≠ 31 := by decide
  rintro q hq - s -
  obtain rfl := Option.some.inj hq
  have hdram : DramExact twoSocketRapl.model 0xA1003 1000 66536 := by
    rw [DramExact, if_pos (Or.inr hunit)]
    exact hwrap
  exact ⟨⟨hwrap, Or.inl hunit⟩, hdram⟩

/-- 65536 units of 1/65536 joule in two seconds are printed as half a watt. -/
theorem twoSockets_raplDumps :
    (Runs.outputs (fun S c => raplDumpStep twoSocketRapl .inOrder 3 S c.call)
        ⟨freshState, none⟩ fourDumps).map Prod.fst =
      (Runs.outputs (meterStep twoSocketRapl fun _ => 0xA1003) .start₀ fourDumps).map
        Prod.fst := by
  have hinfo : InfoReady twoSocketRapl (fun _ => 0xA1003) (.opened 2) := by
    refine ⟨fun s hs => ?_, fun s hs msr hmsr => ?_⟩
    · rcases twoSocketRapl_lt hs with rfl | rfl
      · exact ⟨by decide, Host.opened_ready 2, by decide, rfl⟩
      · exact ⟨by decide, Host.opened_ready 2, by decide, rfl⟩
    · rcases twoSocketRapl_lt hs with rfl | rfl <;> rfl
  have hfirst : PollCounts twoSocketRapl id (counterPoll₂ 1 1000) none
      ⟨⟨1, 0⟩, fun _ => 1000, fun _ => 1000⟩ :=
    ⟨rfl, fun _ _ => ⟨rfl, rfl⟩, fun q hq => nomatch hq⟩
  have hsecond : PollCounts twoSocketRapl id (counterPoll₂ 3 66536)
      (some ⟨⟨1, 0⟩, fun _ => 1000, fun _ => 1000⟩) ⟨⟨3, 0⟩, fun _ => 66536, fun _ => 66536⟩ := by
    refine ⟨rfl, fun _ _ => ⟨rfl, rfl⟩, fun q hq => ?_⟩
    obtain rfl := Option.some.inj hq
    constructor <;> decide
  have hcalls : Runs.Along (Runs.next (meterStep twoSocketRapl fun _ => 0xA1003))
      (fun m c => c.call.Ready twoSocketRapl id (fun _ => 0xA1003) .inOrder 3 ∧
        c.Counts twoSocketRapl id m) .start₀ fourDumps :=
    .cons ⟨twoSocketRapl_poll _ _, hfirst⟩ rfl (.cons ⟨twoSocketRapl_poll _ _, hsecond⟩ rfl
      (.cons ⟨trivial, trivial⟩ rfl (.cons ⟨hinfo, trivial⟩ rfl trivial)))
  have hexact : Runs.Along (Runs.next (meterStep twoSocketRapl fun _ => 0xA1003))
      (fun m c => c.PrintsExact twoSocketRapl (fun _ => 0xA1003) m) .start₀ fourDumps :=
    .cons (fun q hq => nomatch hq) rfl (.cons fourDumps_exact rfl
      (.cons (fun r hr => Option.some.inj hr ▸ fourDumps_exact) rfl (.cons trivial rfl trivial)))
  have hprints := (raplDumps_refine twoSocketRapl_cpus twoSocketRapl_units
    ⟨by decide, by decide⟩ (by decide) freshState_fresh hcalls).1.mpr hexact
  exact hprints 4

end Libmsr
