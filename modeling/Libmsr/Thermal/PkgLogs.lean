/-
  Libmsr.Thermal.PkgLogs

  `set_pkg_therm_stat` and `get_pkg_therm_stat` (src/msr_thermal.c) on every topology
  that the library covers, of any number of sockets and with its CPUs numbered in any
  way.

  The functions go to the lowest-numbered CPU of each socket.  An op has 16 bits for
  the CPU, so the logs are written on the machines where those numbers fit, and on a
  machine with 65537 sockets of one core they are not.  Where the counts do not divide,
  a socket may get no op at all.
-/
import Libmsr.Core.UnitReads
import Libmsr.Thermal.ThermStatSpec

namespace Libmsr

/-- The platform of a topology: its counts, and the map that `find_cpu_top` made. -/
def Hwloc.platform (hw : Hwloc) (g : Topo) (drv : BatchDriver) (batchfd : Int) : Platform :=
  ⟨coreConfig hw, g, drv, batchfd⟩

/-- **Logs of the sockets.**  After any calls, and any changes the hardware made in
    between, `set_pkg_therm_stat` puts the logs of each socket in their bits of its
    register and leaves the others, and `get_pkg_therm_stat` reads them back. -/
theorem Hwloc.pkgLogs_written {hw : Hwloc} (hc : hw.Covered) {g₀ g : Topo}
    (hg : findCpuTop hw g₀ = some g) {drv : BatchDriver} {batchfd : Int} {s₀ s : ThermState}
    (hfits : ∀ i, i < (coreConfig hw).sockets → hw.lowest .socket i < 2 ^ 16)
    (hworks : ThermWorks (hw.platform g drv batchfd) packageThermStatus (hw.lowest .socket)
      s₀.world.host)
    (hun : ThermUnloaded packageThermStatus s₀) {calls : List (ThermCall PkgThermStat)}
    (hrun : Runs.run (thermStep (hw.platform g drv batchfd) packageThermStatus PkgThermStat.ofMsr
      PkgThermStat.toMsr) s₀ calls = some s)
    (hinit : s.init = true) {fields : Nat → PkgThermStat}
    (hbin : ∀ i, i < (coreConfig hw).sockets → Binary (fields i).logs) :
    SetsPkgThermStat (hw.platform g drv batchfd) (hw.lowest .socket) s fields := by
  have hpick : PicksFit (coreConfig hw) g HwThread.socketId (coreConfig hw).sockets
      (hw.lowest .socket) :=
    ⟨hfits, fun i hi => hc.lowest_lt .socket hi, hc.lowest_socketFirst (hc.mapped hg)⟩
  exact setsPkgThermStat_of_inv hpick (thermInv_run hpick (by decide) hworks hun hrun) hinit hbin

namespace Machine

/-- The platform of a machine: its counts, and the map that `find_cpu_top` made. -/
def platform (m : Machine) (g : Topo) (drv : BatchDriver) (batchfd : Int) : Platform :=
  ⟨m.config, g, drv, batchfd⟩

variable {m : Machine} {g : Topo} {drv : BatchDriver} {batchfd : Int} {s₀ s : ThermState}

theorem hwloc_platform : m.hwloc.platform g drv batchfd = m.platform g drv batchfd := by
  rw [platform, ← m.coreConfig_hwloc]
  rfl

variable (m)

/-- The lowest-numbered CPU of a socket is on the socket. -/
theorem lowest_socketOf {v : Nat} (hv : v < m.config.sockets) :
    ∃ cpu : Fin (m.S * m.C * m.T), (cpu : Nat) = m.lowest .socket v ∧ m.socketOf cpu = v := by
  obtain ⟨pu, hpu, hos, hunit⟩ :=
    (m.hwloc_covered.lowest_selected .socket (m.coreConfig_hwloc.symm ▸ hv)).1
  obtain ⟨cpu, -, rfl⟩ := List.mem_map.mp hpu
  exact ⟨cpu, hos, hunit⟩

/-- However many sockets there are, the ops of the batch go to the CPU numbers that are
    left in 16 bits. -/
theorem storeTherm_sockets (hg : findCpuTop m.hwloc .init = some g) {r : ThermRegister}
    (hscope : r.scope = .package) (hmsr : r.msr < 2 ^ 32) (hun : ThermUnloaded r s₀) :
    ∃ s id, storeTherm (m.platform g drv batchfd) r s₀ = some s ∧
      ThermLoaded (m.platform g drv batchfd) r (fun i => m.lowest .socket i % 2 ^ 16) s id
        (fun _ => 0) ∧
      s.world.host = s₀.world.host := by
  obtain ⟨scope, msr, batch⟩ := r
  obtain rfl : scope = .package := hscope
  have hsockets : m.config.sockets < 2 ^ 31 := by
    have hpos := Nat.mul_pos m.cores_pos m.threads_pos
    have hfits := m.fits
    rw [Nat.mul_assoc] at hfits
    exact (Nat.le_mul_of_pos_right m.S hpos).trans_lt hfits
  have hfirst : ∀ v, v < ThermScope.package.count (m.platform g drv batchfd).cfg →
      firstDev (m.platform g drv batchfd).topo
        (fun entry => ThermScope.package.key entry = v) 0
        (m.platform g drv batchfd).cfg.numDevs = some (some (m.lowest .socket v)) := by
    have hcovered := m.hwloc_covered
    have hfirst := hcovered.lowest_socketFirst (hcovered.mapped hg)
    rwa [m.coreConfig_hwloc] at hfirst
  obtain ⟨s, id, hs, hloaded, hhost, -⟩ :=
    hun.loadCut (P := m.platform g drv batchfd) hfirst hmsr hsockets
  exact ⟨s, id, hs, hloaded, hhost⟩

/-! ## Three machines -/

/-- Before any call, with the same value in all registers. -/
def thermStart (val : Word) : ThermState :=
  ⟨⟨.init, { Host.opened m.config.numDevs with regs := fun _ _ => val }⟩, [], false⟩

theorem thermStart_unloaded (val : Word) : ThermUnloaded packageThermStatus (m.thermStart val) :=
  ⟨rfl, rfl, BatchStorage.init_sized, rfl⟩

theorem thermStart_works (g : Topo) (val : Word) {pick : Nat → Nat}
    (hlt : ∀ i, i < m.config.sockets → pick i < m.config.numDevs) :
    ThermWorks (m.platform g .inOrder 3) packageThermStatus pick (m.thermStart val).world.host := by
  have hopen : ∀ i, i < m.config.sockets → decide (m.config.numDevs ≤ pick i) = false :=
    fun i hi => decide_eq_false (Nat.not_le.mpr (hlt i hi))
  exact ⟨inOrder_works m.fits 3 _, hopen, hopen⟩

theorem thermStart_store {g : Topo} (hg : findCpuTop m.hwloc .init = some g) (val : Word) :
    ∃ s id, Runs.run (thermStep (m.platform g .inOrder 3) packageThermStatus
        PkgThermStat.ofMsr PkgThermStat.toMsr) (m.thermStart val) [.store] = some s ∧
      ThermLoaded (m.platform g .inOrder 3) packageThermStatus
        (fun i => m.lowest .socket i % 2 ^ 16) s id (fun _ => 0) ∧
      s.world.host = (m.thermStart val).world.host := by
  obtain ⟨s, id, hs, hloaded, hhost⟩ :=
    m.storeTherm_sockets hg rfl (by decide) (m.thermStart_unloaded val)
  refine ⟨s, id, ?_, hloaded, hhost⟩
  rw [Runs.run_cons, thermStep, hs]
  rfl

/-- Two sockets: the first one's status log is written. -/
theorem dualSocket_pkgLogs :
    ∃ g s, findCpuTop dualSocket.hwloc .init = some g ∧
      Runs.run (thermStep (dualSocket.hwloc.platform g .inOrder 3) packageThermStatus
        PkgThermStat.ofMsr PkgThermStat.toMsr) (dualSocket.thermStart 0xFFFF) [.store] = some s ∧
      SetsPkgThermStat (dualSocket.hwloc.platform g .inOrder 3) (dualSocket.hwloc.lowest .socket) s
        fun i => { PkgThermStat.ofMsr 0 with statusLog := if i = 0 then 1 else 0 } := by
  obtain ⟨g, hg, -⟩ := dualSocket.findCpuTop_machine
  obtain ⟨s, id, hrun, hloaded, -⟩ := dualSocket.thermStart_store hg 0xFFFF
  have hlt : ∀ i, i < dualSocket.config.sockets →
      dualSocket.lowest .socket i < dualSocket.config.numDevs := fun i hi => lowest_lt .socket hi
  have hcpus : dualSocket.config.numDevs ≤ 2 ^ 16 := by decide
  have hworks := dualSocket.thermStart_works g 0xFFFF hlt
  rw [← hwloc_platform] at hrun hworks
  refine ⟨g, s, hg, hrun, Hwloc.pkgLogs_written dualSocket.hwloc_covered hg (fun i hi => ?_) hworks
    (dualSocket.thermStart_unloaded 0xFFFF) hrun hloaded.init fun i _ => ?_⟩
  · rw [dualSocket.coreConfig_hwloc] at hi
    exact (hlt i hi).trans_le hcpus
  · by_cases hi : i = 0
    · rw [if_pos hi]
      decide
    · rw [if_neg hi]
      decide

/-- 65537 sockets of one core. -/
def manySockets : Machine :=
  block 65537 1 1 (Nat.succ_pos 65536) Nat.one_pos Nat.one_pos (by omega)

theorem manySockets_lowest {i : Nat} (hi : i < 65537) : manySockets.lowest .socket i = i := by
  obtain ⟨cpu, hcpu, hsocket⟩ := manySockets.lowest_socketOf hi
  have hdigit : (cpu : Nat) % (65537 * 1) / 1 = i := hsocket
  have hlt := lowest_lt (m := manySockets) .socket hi
  have hlt' : manySockets.lowest .socket i < 65537 * 1 * 1 := hlt
  omega

/-- The log of the last of 65537 sockets is not written. -/
theorem manySockets_log_lost :
    ∃ g s, findCpuTop manySockets.hwloc .init = some g ∧
      ThermWorks (manySockets.platform g .inOrder 3) packageThermStatus
        (manySockets.lowest .socket) (manySockets.thermStart 0).world.host ∧
      ThermUnloaded packageThermStatus (manySockets.thermStart 0) ∧
      Runs.run (thermStep (manySockets.platform g .inOrder 3) packageThermStatus
        PkgThermStat.ofMsr PkgThermStat.toMsr) (manySockets.thermStart 0) [.store] = some s ∧
      s.init = true ∧ Binary ({ PkgThermStat.ofMsr 0 with statusLog := 1 } : PkgThermStat).logs ∧
      ¬ SetsPkgThermStat (manySockets.platform g .inOrder 3) (manySockets.lowest .socket) s
        fun _ => { PkgThermStat.ofMsr 0 with statusLog := 1 } := by
  obtain ⟨g, hg, -⟩ := manySockets.findCpuTop_machine
  obtain ⟨s, id, hrun, hloaded, hhost⟩ := manySockets.thermStart_store hg 0
  have hlt : ∀ i, i < manySockets.config.sockets →
      manySockets.lowest .socket i < manySockets.config.numDevs := fun i hi => lowest_lt .socket hi
  have hcut : ∀ i, i < manySockets.config.sockets →
      manySockets.lowest .socket i % 2 ^ 16 < manySockets.config.numDevs := fun i hi =>
    (Nat.mod_le _ _).trans_lt (hlt i hi)
  refine ⟨g, s, hg, manySockets.thermStart_works g 0 hlt, manySockets.thermStart_unloaded 0, hrun,
    hloaded.init, by decide, ?_⟩
  rintro ⟨s', hs', hwrote, -⟩
  have hworks : ThermWorks (manySockets.platform g .inOrder 3) packageThermStatus
      (fun i => manySockets.lowest .socket i % 2 ^ 16) s.world.host := by
    rw [hhost]
    exact manySockets.thermStart_works g 0 hcut
  obtain ⟨s₁, hs₁, -, -, hwritten⟩ := hloaded.write hworks fun _ =>
    PkgThermStat.toMsr { PkgThermStat.ofMsr 0 with statusLog := 1 }
  obtain rfl := Option.some.inj (hs₁.symm.trans hs')
  have hlast : manySockets.lowest .socket 65536 = 65536 := manySockets_lowest (by omega)
  have hsocket : 65536 < manySockets.config.sockets := by
    show 65536 < 65537
    omega
  -- the log of socket 65536 belongs to CPU 65536, and every op goes to a lower one
  have hbit := (hwrote 65536 hsocket).each (1, 1) (List.mem_cons_self ..)
  have hkept := hwritten.others (65536, packageThermStatus.msr) fun i _ heq => by
    have hcpu : manySockets.lowest .socket i % 2 ^ 16 = 65536 := congrArg Prod.fst heq
    omega
  have hzero : s₁.world.host.regs 65536 packageThermStatus.msr = 0 := by
    refine hkept.trans ?_
    rw [RegFile.at, hhost]
    rfl
  rw [hlast, hzero] at hbit
  exact absurd hbit (by decide)

/-- Before any call on the two sockets with two cores and one. -/
def unevenStart : ThermState := ⟨⟨.init, Host.opened 3⟩, [], false⟩

/-- The pointer of socket 1 is not set there, and the call looks into it. -/
theorem unevenSockets_no_write :
    ∃ g s, findCpuTop unevenSockets .init = some g ∧
      Runs.run (thermStep (unevenSockets.platform g .inOrder 3) packageThermStatus
        PkgThermStat.ofMsr PkgThermStat.toMsr) unevenStart [.store] = some s ∧ s.init = true ∧
      setPkgThermStat (unevenSockets.platform g .inOrder 3) s (fun _ => PkgThermStat.ofMsr 0) =
        none := ⟨_, _, Hwloc.unevenSockets_top, rfl, rfl, rfl⟩

/-- The logs need CPU numbers of 16 bits, and sockets that are alike. -/
theorem pkgLogs_not_written :
    (∃ g s, findCpuTop manySockets.hwloc .init = some g ∧
      ThermWorks (manySockets.platform g .inOrder 3) packageThermStatus
        (manySockets.lowest .socket) (manySockets.thermStart 0).world.host ∧
      ThermUnloaded packageThermStatus (manySockets.thermStart 0) ∧
      Runs.run (thermStep (manySockets.platform g .inOrder 3) packageThermStatus
        PkgThermStat.ofMsr PkgThermStat.toMsr) (manySockets.thermStart 0) [.store] = some s ∧
      s.init = true ∧ Binary ({ PkgThermStat.ofMsr 0 with statusLog := 1 } : PkgThermStat).logs ∧
      ¬ SetsPkgThermStat (manySockets.platform g .inOrder 3) (manySockets.lowest .socket) s
        fun _ => { PkgThermStat.ofMsr 0 with statusLog := 1 }) ∧
    ∃ g s, findCpuTop unevenSockets .init = some g ∧
      Runs.run (thermStep (unevenSockets.platform g .inOrder 3) packageThermStatus
        PkgThermStat.ofMsr PkgThermStat.toMsr) unevenStart [.store] = some s ∧ s.init = true ∧
      ¬ SetsPkgThermStat (unevenSockets.platform g .inOrder 3) (unevenSockets.lowest .socket) s
        fun _ => PkgThermStat.ofMsr 0 := by
  refine ⟨manySockets_log_lost, ?_⟩
  obtain ⟨g, s, hg, hrun, hinit, hnone⟩ := unevenSockets_no_write
  refine ⟨g, s, hg, hrun, hinit, ?_⟩
  rintro ⟨s', hs', -⟩
  rw [hnone] at hs'
  contradiction

end Machine

end Libmsr
