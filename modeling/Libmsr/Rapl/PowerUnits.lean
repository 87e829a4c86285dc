/-
  Libmsr.Rapl.PowerUnits

  `get_rapl_power_unit` (src/msr_rapl.c) on a machine of any number of sockets: the
  units that it sets and the inconsistencies that it reports.

  The static batch is allocated and loaded as that of a thermal register of the
  sockets is, so its state is `ThermState`.  The second loop compares the units of a
  socket with what they were computed from, and reports nothing.
-/
import Libmsr.Core.CoordAccess
import Libmsr.Rapl.UnitsSpec
import Libmsr.Thermal.PkgLogs

namespace Libmsr

/-- MSR_RAPL_POWER_UNIT and `RAPL_UNIT`. -/
def raplPowerUnit : ThermRegister := ⟨.package, 0x606, 1⟩

section Model

variable {K : Type} [Field K] [DecidableEq K]

/-- The host, `*tmp`, and the sockets for which "Inconsistent rapl power units across
    packages" was reported. -/
structure UnitCheck where
  host : Host
  tmp : Word
  reported : List Nat

/-- Loop body of the consistency check. -/
def unitCheckBody (P : Platform) (ru : Nat → RaplUnits K) (c : UnitCheck) (i : Nat) : UnitCheck :=
  let (_, tmp, host) := readMsrByCoord P.cfg P.topo c.host (BitVec.ofNat 32 i) 0 0
    raplPowerUnit.msr c.tmp
  -- computed from the same word as `ru[i]`, not from `tmp`
  let raw := (ru i).msrRaplPowerUnit
  let energy : K := intShiftOne (maskVal raw 12 8).toNat
  let seconds : K := intShiftOne (maskVal raw 19 16).toNat
  let power : K := 1 / (intShiftOne (maskVal raw 3 0).toNat : K)
  if energy ≠ (ru i).joules ∨ power ≠ (ru i).watts ∨ seconds ≠ (ru i).seconds then
    ⟨host, tmp, c.reported ++ [i]⟩
  else ⟨host, tmp, c.reported⟩

/-- `get_rapl_power_unit`: the statics, `ru` and the sockets reported. -/
def getRaplPowerUnit (P : Platform) (s : ThermState) (ru : Nat → RaplUnits K) :
    Option (ThermState × (Nat → RaplUnits K) × List Nat) := do
  let s ← storeTherm P raplPowerUnit s
  let (s, ru) ← getTherm P raplPowerUnit s RaplUnits.ofMsr ru
  let c := (List.range P.cfg.sockets).foldl (unitCheckBody P ru) ⟨s.world.host, 0, []⟩
  some ({ s with world := { s.world with host := c.host } }, ru, c.reported)

/-- A call, or what the hardware does to the registers. -/
inductive UnitCall (K : Type) where
  | get (ru : Nat → RaplUnits K)
  | hardware (regs : RegFile)

def unitStep (P : Platform) (s : ThermState) : UnitCall K → Option ThermState
  | .get ru => (getRaplPowerUnit P s ru).map Prod.fst
  | .hardware regs =>
    some { s with world := { s.world with host := { s.world.host with regs := regs } } }

end Model

/-! ## Reads -/

/-- A read changes no register and no device. -/
theorem readMsrByIdx_keeps (h : Host) (devIdx : BitVec 32) (msr : Nat) (val : Word) :
    h.SameDevices (readMsrByIdx h devIdx msr val).2.2 ∧
      (readMsrByIdx h devIdx msr val).2.2.regs = h.regs := by
  have hpread : ∀ fd, h.SameDevices (h.pread fd msr).2 ∧ (h.pread fd msr).2.regs = h.regs := by
    intro fd
    rw [Host.pread]
    split
    · exact ⟨.refl h, rfl⟩
    · split
      · exact ⟨(Host.SameDevices.refl h).log _, rfl⟩
      · exact ⟨(Host.SameDevices.refl h).log _, rfl⟩
  -- no table entry, no descriptor in it, or a read of the descriptor
  rw [readMsrByIdx]
  split
  · exact ⟨.refl h, rfl⟩
  · split
    · exact ⟨.refl h, rfl⟩
    · rename_i fd _
      have hkept := hpread fd
      split
      · rename_i h' heq
        rw [heq] at hkept
        exact hkept
      · rename_i v h' heq
        rw [heq] at hkept
        exact hkept

section Check

variable {K : Type} [Field K] [DecidableEq K] {P : Platform}

/-- A comparison of units with what they are computed from. -/
theorem unitCheckBody_spec {ru : Nat → RaplUnits K} {i : Nat}
    (hru : ∃ raw, ru i = RaplUnits.ofMsr raw) (c : UnitCheck) :
    c.host.SameDevices (unitCheckBody P ru c i).host ∧
      (unitCheckBody P ru c i).host.regs = c.host.regs ∧
      (unitCheckBody P ru c i).reported = c.reported := by
  obtain ⟨raw, hraw⟩ := hru
  have hkept := readMsrByIdx_keeps c.host
    ((devidx P.cfg P.topo (BitVec.ofNat 32 i) 0 0).setWidth 32) raplPowerUnit.msr c.tmp
  -- both sides of each comparison are computed from `raw`
  have hbody : unitCheckBody P ru c i = ⟨(readMsrByCoord P.cfg P.topo c.host (BitVec.ofNat 32 i)
      0 0 raplPowerUnit.msr c.tmp).2.2, (readMsrByCoord P.cfg P.topo c.host (BitVec.ofNat 32 i)
      0 0 raplPowerUnit.msr c.tmp).2.1, c.reported⟩ := by
    simp only [unitCheckBody, hraw, RaplUnits.ofMsr, ne_eq, not_true, or_self, if_false]
  rw [hbody]
  exact ⟨hkept.1, hkept.2, rfl⟩

/-- The second loop reports nothing. -/
theorem unitCheck_spec {ru : Nat → RaplUnits K} (n : Nat)
    (hru : ∀ i, i < n → ∃ raw, ru i = RaplUnits.ofMsr raw) (c : UnitCheck) :
    let c' := (List.range n).foldl (unitCheckBody P ru) c
    c.host.SameDevices c'.host ∧ c'.host.regs = c.host.regs ∧ c'.reported = c.reported := by
  induction n with
  | zero => exact ⟨.refl c.host, rfl, rfl⟩
  | succ n ih =>
    obtain ⟨hsame, hregs, hreported⟩ := ih fun i hi => hru i (Nat.lt_succ_of_lt hi)
    obtain ⟨hsame', hregs', hreported'⟩ := unitCheckBody_spec (P := P) (hru n (Nat.lt_succ_self n))
      ((List.range n).foldl (unitCheckBody P ru) c)
    rw [List.range_succ, List.foldl_append]
    exact ⟨hsame.trans hsame', hregs'.trans hregs, hreported'.trans hreported⟩

end Check

/-! ## One call -/

/-- The CPU that the op of socket `i` goes to: 16 bits of the lowest one's number. -/
noncomputable def Machine.unitCpu (m : Machine) (i : Nat) : Nat := m.lowest .socket i % 2 ^ 16

/-- The machine works, the units can be read everywhere, and the batch was not used yet
    or is loaded. -/
structure UnitsReady (m : Machine) (P : Platform) (s : ThermState) : Prop where
  works : P.drv.Works P.batchfd s.world.host m.config.numDevs
  reads : ∀ cpu, cpu < m.config.numDevs → s.world.host.fails cpu raplPowerUnit.msr = false
  loaded : ThermUnloaded raplPowerUnit s ∨
    ∃ id data, ThermLoaded P raplPowerUnit m.unitCpu s id data

namespace UnitsReady

variable {m : Machine} {g : Topo} {drv : BatchDriver} {batchfd : Int} {s : ThermState}

theorem unitCpu_lt {i : Nat} (hi : i < m.config.sockets) : m.unitCpu i < m.config.numDevs :=
  (Nat.mod_le _ _).trans_lt (Machine.lowest_lt .socket hi)

/-- The batch is loaded by the first call. -/
theorem store (hg : findCpuTop m.hwloc .init = some g)
    (hs : UnitsReady m (m.platform g drv batchfd) s) :
    ∃ s' id data, storeTherm (m.platform g drv batchfd) raplPowerUnit s = some s' ∧
      ThermLoaded (m.platform g drv batchfd) raplPowerUnit m.unitCpu s' id data ∧
      s'.world.host = s.world.host := by
  rcases hs.loaded with hun | ⟨id, data, hloaded⟩
  · obtain ⟨s', id, hs', hloaded, hhost⟩ := m.storeTherm_sockets hg rfl (by decide) hun
    exact ⟨s', id, _, hs', hloaded, hhost⟩
  · refine ⟨s, id, data, ?_, hloaded, rfl⟩
    rw [storeTherm, if_pos hloaded.init]

/-- **One call.**  Every socket gets units from the word that its op reads, and nothing is
    reported. -/
theorem get {K : Type} [Field K] [DecidableEq K] (hg : findCpuTop m.hwloc .init = some g)
    (hs : UnitsReady m (m.platform g drv batchfd) s) (ru : Nat → RaplUnits K) :
    ∃ s' got, getRaplPowerUnit (m.platform g drv batchfd) s ru = some (s', got, []) ∧
      UnitsReady m (m.platform g drv batchfd) s' ∧
      ∀ i, i < m.config.sockets →
        got i = RaplUnits.ofMsr (s.world.host.regs (m.unitCpu i) raplPowerUnit.msr) := by
  obtain ⟨s₁, id, data, hs₁, hloaded, hhost⟩ := hs.store hg
  have hworks : (m.platform g drv batchfd).drv.Works (m.platform g drv batchfd).batchfd
      s₁.world.host m.config.numDevs := by
    rw [hhost]
    exact hs.works
  obtain ⟨s₂, got, data', hs₂, hloaded', hregs, hsame, -, hgot⟩ := hloaded.read hworks
    (fun i hi => by
      rw [hhost]
      exact hs.reads _ (unitCpu_lt hi)) RaplUnits.ofMsr ru
  -- what the consistency check makes of the units that were read
  let c := (List.range m.config.sockets).foldl (unitCheckBody (m.platform g drv batchfd) got)
    ⟨s₂.world.host, 0, []⟩
  obtain ⟨hsame', -, hreported⟩ := unitCheck_spec (P := m.platform g drv batchfd)
    m.config.sockets (fun i hi => ⟨_, hgot i hi⟩) ⟨s₂.world.host, 0, []⟩
  rw [hhost] at hsame hgot
  have hdevices : s.world.host.SameDevices c.host := hsame.trans hsame'
  have hcall : getRaplPowerUnit (m.platform g drv batchfd) s ru =
      some ({ s₂ with world := { s₂.world with host := c.host } }, got, []) := by
    simp only [getRaplPowerUnit, hs₁, hs₂, Option.bind_eq_bind, Option.bind_some]
    exact congrArg (fun reported => some (_, got, reported)) hreported
  refine ⟨_, got, hcall, ⟨hs.works.of_sameDevices hdevices, fun cpu hcpu => ?_, Or.inr
    ⟨id, data', hloaded'.init, hloaded'.raw, hloaded'.cells⟩⟩, hgot⟩
  show c.host.fails cpu raplPowerUnit.msr = false
  rw [hdevices.fails]
  exact hs.reads cpu hcpu

/-- Every call and every change of the registers keeps it. -/
theorem step {K : Type} [Field K] [DecidableEq K] (hg : findCpuTop m.hwloc .init = some g)
    (s : ThermState) (c : UnitCall K) (s' : ThermState)
    (hs : UnitsReady m (m.platform g drv batchfd) s)
    (hstep : unitStep (m.platform g drv batchfd) s c = some s') :
    UnitsReady m (m.platform g drv batchfd) s' := by
  cases c with
  | get ru =>
    obtain ⟨s₁, got, hs₁, hready, -⟩ := hs.get hg ru
    rw [unitStep, hs₁] at hstep
    obtain rfl := Option.some.inj hstep
    exact hready
  | hardware regs =>
    obtain rfl := Option.some.inj hstep
    refine ⟨hs.works.of_sameDevices ⟨rfl, rfl, rfl, rfl⟩, hs.reads, ?_⟩
    rcases hs.loaded with hun | ⟨id, data, hloaded⟩
    · exact Or.inl ⟨hun.init, hun.raw, hun.sized, hun.empty⟩
    · exact Or.inr ⟨id, data, hloaded.init, hloaded.raw, hloaded.cells⟩

end UnitsReady

/-! ## The units of every socket -/

/-- The three fields are the same. -/
def SameUnits (x y : Word) : Prop :=
  timeUnit x = timeUnit y ∧ energyUnit x = energyUnit y ∧ powerUnit x = powerUnit y

/-- Every CPU reads the register of its socket. -/
def Machine.HoldsUnits (m : Machine) (h : Host) (content : Nat → Word) : Prop :=
  ∀ cpu : Fin (m.S * m.C * m.T), h.regs cpu raplPowerUnit.msr = content (m.socketOf cpu)

section Reported

variable {K : Type} [Field K] [LinearOrder K]

/-- Each socket gets the units of its own register, all positive, and inconsistent units
    are reported when two sockets differ, and only then. -/
structure UnitsReported (sockets : Nat) (content : Nat → Word) (ru : Nat → RaplUnits K)
    (reported : List Nat) : Prop where
  seconds : ∀ i, i < sockets → (ru i).seconds = 2 ^ timeUnit (content i)
  joules : ∀ i, i < sockets → (ru i).joules = 2 ^ energyUnit (content i)
  watts : ∀ i, i < sockets → (ru i).watts = 1 / 2 ^ powerUnit (content i)
  positive : ∀ i, i < sockets → 0 < (ru i).seconds ∧ 0 < (ru i).joules ∧ 0 < (ru i).watts
  report : reported ≠ [] ↔
    ∃ i j, i < sockets ∧ j < sockets ∧ ¬ SameUnits (content i) (content j)

/-- What `get_rapl_power_unit` does in a state. -/
def ReportsUnits (P : Platform) (s : ThermState) (ru : Nat → RaplUnits K)
    (content : Nat → Word) : Prop :=
  ∃ s' got reported, getRaplPowerUnit P s ru = some (s', got, reported) ∧
    UnitsReported P.cfg.sockets content got reported

/-- The energy field is below 31 everywhere, and the sockets agree. -/
def UnitsAgree (sockets : Nat) (content : Nat → Word) : Prop :=
  (∀ i, i < sockets → energyUnit (content i) ≠ 31) ∧
    ∀ i j, i < sockets → j < sockets → SameUnits (content i) (content j)

variable [IsStrictOrderedRing K]

/-- Units that were read on any of the sockets. -/
theorem unitsReported_iff {sockets : Nat} {content : Nat → Word} {ru : Nat → RaplUnits K}
    {origin : Nat → Nat} (horigin : ∀ i, i < sockets → origin i < sockets)
    (hru : ∀ i, i < sockets → ru i = RaplUnits.ofMsr (content (origin i))) :
    UnitsReported sockets content ru [] ↔ UnitsAgree sockets content := by
  have hagree : (([] : List Nat) ≠ [] ↔
      ∃ i j, i < sockets ∧ j < sockets ∧ ¬ SameUnits (content i) (content j)) ↔
        ∀ i j, i < sockets → j < sockets → SameUnits (content i) (content j) := by
    constructor
    · intro hreport i j hi hj
      by_contra hdiffer
      exact hreport.mpr ⟨i, j, hi, hj, hdiffer⟩ rfl
    · intro hsame
      refine iff_of_false (fun hne => hne rfl) ?_
      rintro ⟨i, j, hi, hj, hdiffer⟩
      exact hdiffer (hsame i j hi hj)
  constructor
  · intro h
    have hsame := hagree.mp h.report
    refine ⟨fun i hi h31 => ?_, hsame⟩
    -- the unit was read on a socket with the same field, and is negative
    have hfield : energyUnit (content (origin i)) = 31 :=
      (hsame _ i (horigin i hi) hi).2.1.trans h31
    have hpos := (h.positive i hi).2.1
    rw [hru i hi, ofMsr_joules, if_pos hfield] at hpos
    exact absurd hpos (not_lt.mpr (neg_nonpos.mpr (pow_nonneg zero_le_two 31)))
  · rintro ⟨h31, hsame⟩
    have hseconds : ∀ i, i < sockets → (ru i).seconds = 2 ^ timeUnit (content i) := by
      intro i hi
      rw [hru i hi, ofMsr_seconds, (hsame _ i (horigin i hi) hi).1]
    have hjoules : ∀ i, i < sockets → (ru i).joules = 2 ^ energyUnit (content i) := by
      intro i hi
      rw [hru i hi, ofMsr_joules, (hsame _ i (horigin i hi) hi).2.1, if_neg (h31 i hi)]
    have hwatts : ∀ i, i < sockets → (ru i).watts = 1 / 2 ^ powerUnit (content i) := by
      intro i hi
      rw [hru i hi, ofMsr_watts, (hsame _ i (horigin i hi) hi).2.2]
    refine ⟨hseconds, hjoules, hwatts, fun i hi => ?_, hagree.mpr hsame⟩
    rw [hseconds i hi, hjoules i hi, hwatts i hi]
    exact ⟨pow_pos two_pos _, pow_pos two_pos _, one_div_pos.mpr (pow_pos two_pos _)⟩

variable {m : Machine} {g : Topo} {drv : BatchDriver} {batchfd : Int} {s : ThermState}
  {content : Nat → Word}

/-- One call in a state where the units can be read. -/
theorem UnitsReady.reports_iff (hg : findCpuTop m.hwloc .init = some g)
    (hs : UnitsReady m (m.platform g drv batchfd) s) (hcontent : m.HoldsUnits s.world.host content)
    (ru : Nat → RaplUnits K) :
    ReportsUnits (m.platform g drv batchfd) s ru content ↔
      UnitsAgree m.config.sockets content := by
  obtain ⟨s', got, hcall, -, hgot⟩ := hs.get hg ru
  -- the CPU an op goes to is one of the machine's, on some socket
  have hsocket : ∀ i, i < m.config.sockets → ∃ j, j < m.config.sockets ∧
      s.world.host.regs (m.unitCpu i) raplPowerUnit.msr = content j := fun i hi =>
    ⟨m.socketOf ⟨m.unitCpu i, unitCpu_lt hi⟩, m.socketOf_lt _, hcontent ⟨_, unitCpu_lt hi⟩⟩
  choose! origin horigin hread using hsocket
  have hru : ∀ i, i < m.config.sockets → got i = RaplUnits.ofMsr (content (origin i)) := by
    intro i hi
    rw [hgot i hi, hread i hi]
  rw [← unitsReported_iff horigin hru]
  constructor
  · rintro ⟨s₁, got₁, reported, hcall₁, hunits⟩
    obtain ⟨-, heq⟩ := Prod.mk.inj (Option.some.inj (hcall.symm.trans hcall₁))
    obtain ⟨rfl, rfl⟩ := Prod.mk.inj heq
    exact hunits
  · intro hunits
    exact ⟨s', got, [], hcall, hunits⟩

/-- **Power units.**  In every state that calls and the hardware can reach,
    `get_rapl_power_unit` sets the units of each socket from its own register, all
    positive, and reports inconsistent ones when and only when there are any, if and
    only if no energy field is 31 and all sockets agree. -/
theorem raplPowerUnit_iff (hg : findCpuTop m.hwloc .init = some g) {s₀ : ThermState}
    (hw : drv.Works batchfd s₀.world.host m.config.numDevs)
    (hreads : ∀ cpu, cpu < m.config.numDevs → s₀.world.host.fails cpu raplPowerUnit.msr = false)
    (hun : ThermUnloaded raplPowerUnit s₀) {calls : List (UnitCall K)}
    (hrun : Runs.run (unitStep (m.platform g drv batchfd)) s₀ calls = some s)
    (hcontent : m.HoldsUnits s.world.host content) (ru : Nat → RaplUnits K) :
    ReportsUnits (m.platform g drv batchfd) s ru content ↔
      UnitsAgree m.config.sockets content := by
  have hready : UnitsReady m (m.platform g drv batchfd) s :=
    Runs.run_inv (UnitsReady.step hg) ⟨hw, hreads, Or.inl hun⟩ hrun
  exact hready.reports_iff hg hcontent ru

end Reported

/-! ## Two sockets -/

/-- Registers that all CPUs of a socket share. -/
def Machine.sharedRegs (m : Machine) (content : Nat → Word) : RegFile := fun cpu _ =>
  if h : cpu < m.S * m.C * m.T then content (m.socketOf ⟨cpu, h⟩) else 0

/-- Before any call. -/
def Machine.unitStart (m : Machine) (content : Nat → Word) : ThermState :=
  ⟨⟨.init, { Host.opened m.config.numDevs with regs := m.sharedRegs content }⟩, [], false⟩

section Start

variable (m : Machine) (content : Nat → Word)

theorem Machine.unitStart_holds : m.HoldsUnits (m.unitStart content).world.host content :=
  fun cpu => dif_pos cpu.isLt

theorem Machine.unitStart_works :
    BatchDriver.inOrder.Works 3 (m.unitStart content).world.host m.config.numDevs :=
  inOrder_works m.fits 3 _

theorem Machine.unitStart_reads {cpu : Nat} (hcpu : cpu < m.config.numDevs) :
    (m.unitStart content).world.host.fails cpu raplPowerUnit.msr = false :=
  decide_eq_false (Nat.not_le.mpr hcpu)

theorem Machine.unitStart_unloaded : ThermUnloaded raplPowerUnit (m.unitStart content) :=
  ⟨rfl, rfl, BatchStorage.init_sized, rfl⟩

theorem Machine.unitStart_ready (g : Topo) :
    UnitsReady m (m.platform g .inOrder 3) (m.unitStart content) where
  works := m.unitStart_works content
  reads := fun _ hcpu => m.unitStart_reads content hcpu
  loaded := Or.inl (m.unitStart_unloaded content)

end Start

/-- The units that the source gives as an example, on both sockets. -/
theorem dualSocket_powerUnits :
    ∃ g, findCpuTop Machine.dualSocket.hwloc .init = some g ∧
      ReportsUnits (Machine.dualSocket.platform g .inOrder 3)
        (Machine.dualSocket.unitStart fun _ => 0xA1003) (fun _ => (RaplUnits.ofMsr 0 : RaplUnits ℚ))
        fun _ => 0xA1003 := by
  obtain ⟨g, hg, -⟩ := Machine.dualSocket.findCpuTop_machine
  have hrun : Runs.run (unitStep (K := ℚ) (Machine.dualSocket.platform g .inOrder 3))
      (Machine.dualSocket.unitStart fun _ => 0xA1003) [] =
        some (Machine.dualSocket.unitStart fun _ => 0xA1003) := rfl
  refine ⟨g, hg, (raplPowerUnit_iff hg (Machine.dualSocket.unitStart_works _)
    (fun _ hcpu => Machine.dualSocket.unitStart_reads _ hcpu)
    (Machine.dualSocket.unitStart_unloaded _) hrun (Machine.dualSocket.unitStart_holds _)
    _).mpr ?_⟩
  have h16 : energyUnit 0xA1003 ≠ 31 := by decide
  exact ⟨fun _ _ => h16, fun _ _ _ _ => ⟨rfl, rfl, rfl⟩⟩

/-- A different energy unit on the second socket is not reported, and an energy field of
    31 gives a negative unit. -/
theorem dualSocket_powerUnits_wrong :
    ∃ g, findCpuTop Machine.dualSocket.hwloc .init = some g ∧
      ∀ content ∈ [fun i => if i = 0 then (0xA1003 : Word) else 0xA0E03, fun _ => 0xA1F03],
        Machine.dualSocket.HoldsUnits (Machine.dualSocket.unitStart content).world.host content ∧
        ThermUnloaded raplPowerUnit (Machine.dualSocket.unitStart content) ∧
        ¬ ReportsUnits (Machine.dualSocket.platform g .inOrder 3)
          (Machine.dualSocket.unitStart content) (fun _ => (RaplUnits.ofMsr 0 : RaplUnits ℚ))
          content := by
  obtain ⟨g, hg, -⟩ := Machine.dualSocket.findCpuTop_machine
  refine ⟨g, hg, fun content hmem => ?_⟩
  have hholds := Machine.dualSocket.unitStart_holds content
  refine ⟨hholds, Machine.dualSocket.unitStart_unloaded content, fun hreports => ?_⟩
  obtain ⟨h31, hsame⟩ := ((Machine.dualSocket.unitStart_ready content g).reports_iff hg hholds
    _).mp hreports
  rcases List.mem_pair.mp hmem with rfl | rfl
  · exact absurd (hsame 0 1 (by decide) (by decide)).2.1 (by decide)
  · exact absurd rfl (h31 0 (by decide))

end Libmsr
