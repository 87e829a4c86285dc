/-
  Libmsr.Msrmod.Defaults

  `set_to_defaults` (msrmod/msrmod.c): on every socket the package limits go to
  the thermal specification power and to 1.2 times of it, the DRAM limit to the
  maximum power.

  - `Restored`: what the registers of one socket hold afterwards.
  - `setDefaults_spec`: one socket.
  - `setToDefaults_restores`: all of them, and what a second run changes.
-/
import Mathlib.Algebra.Order.Floor.Semifield
import Libmsr.Rapl.LimitPairs
import Libmsr.Rapl.PowerInfo

namespace Libmsr

section Defaults

variable {K : Type} [Field K] [LinearOrder K] [IsStrictOrderedRing K] [FloorRing K]
  (R : RaplSetup K)

/-- Loop body of `set_to_defaults`.  What is printed in verbose mode is left out. -/
def setDefaults (s : RaplPowerInfo K × Host) (i : Nat) : Option (RaplPowerInfo K × Host) := do
  let socket := BitVec.ofNat 32 i
  let (raplinfo, h) ← getRaplPowerInfo R s.2 socket s.1
  let socketlim : RaplLimit K := ⟨0, raplinfo.pkg.thermPower, 1⟩
  let socketlim2 : RaplLimit K := ⟨0, raplinfo.pkg.thermPower * (12 / 10), (3 : Nat)⟩
  let dramlim : RaplLimit K := ⟨0, raplinfo.dram.maxPower, 1⟩
  let r ← setPkgRaplLimit R h socket (some socketlim) (some socketlim2)
  let d ← setDramRaplLimit R r.host socket (some dramlim)
  some (raplinfo, d.host)

/-- `set_to_defaults`.  `raplinfo` is what is on the stack at its start. -/
def setToDefaults (h : Host) (raplinfo : RaplPowerInfo K) : Option (RaplPowerInfo K × Host) :=
  (List.range R.cfg.sockets).foldlM (setDefaults R) (raplinfo, h)

/-! ## One socket -/

/-- The registers the socket's limits are set from and kept in can be accessed. -/
structure DefaultsWork (h : Host) (socket : BitVec 32) (raw : Word) : Prop where
  init : Initialised R h socket raw
  pkgInfo : h.fails (socketCpu R socket) msrPkgPowerInfo = false
  dramInfo : h.fails (socketCpu R socket) msrDramPowerInfo = false
  pkgLimit : h.failsWrite (socketCpu R socket) msrPkgPowerLimit = false
  dramLimit : h.failsWrite (socketCpu R socket) msrDramPowerLimit = false

/-- The flags announce the registers. -/
structure DefaultsAnnounced : Prop where
  pkgInfo : announces R.flags pkgPowerInfo = true
  dramInfo : announces R.flags dramPowerInfo = true
  pkgLimit : announces R.flags pkgPowerLimit = true
  dramLimit : announces R.flags dramPowerLimit = true

/-- The thermal specification power of the package on a CPU, in units. -/
def thermUnits (regs : Nat → Nat → Word) (cpu : Nat) : Nat :=
  (maskVal (regs cpu msrPkgPowerInfo) 14 0).toNat

/-- The maximum power of DRAM, in units. -/
def dramMaxUnits (regs : Nat → Nat → Word) (cpu : Nat) : Nat :=
  (maskVal (regs cpu msrDramPowerInfo) 46 32).toNat

/-- The limits in `regs'` are the defaults by the information in `regs`: limit 1 is the
    thermal specification power over one second, limit 2 six fifths of it, rounded down,
    with the number 3, and DRAM has its maximum power over one second.  Where six fifths
    do not fit their field the package limits stay what they were. -/
structure Restored (raw : Word) (cpu : Nat) (regs regs' : Nat → Nat → Word) : Prop where
  pkg : 6 * thermUnits regs cpu / 5 < 2 ^ 15 →
    CarriesLimits (regs' cpu msrPkgPowerLimit) (thermUnits regs cpu) (timeUnit raw)
      (6 * thermUnits regs cpu / 5) 3
  kept : ¬ 6 * thermUnits regs cpu / 5 < 2 ^ 15 →
    regs' cpu msrPkgPowerLimit = regs cpu msrPkgPowerLimit
  dram : regs' cpu msrDramPowerLimit = dramWord (dramMaxUnits regs cpu) (timeUnit raw)

theorem maskVal_lt (x : Word) {m n k : Nat} (hk : m + 1 = n + k) (hpos : 0 < k) (hm : m < 64) :
    (maskVal x m n).toNat < 2 ^ k := by
  rw [maskVal_toNat x (by omega) hm]
  have hwidth : m - n + 1 = k := by omega
  rw [hwidth]
  exact Nat.mod_lt _ (Nat.two_pow_pos k)

variable {R} {h : Host} {socket : BitVec 32} {raw : Word}

/-- A whole number of units. -/
theorem wattUnits_units (n : Nat) (seconds : K) :
    (⟨0, (n : K) * (RaplUnits.ofMsr raw : RaplUnits K).watts, seconds⟩ :
      RaplLimit K).wattUnits raw = n := by
  rw [RaplLimit.wattUnits_eq, ofMsr_watts, mul_one_div]
  exact div_mul_cancel₀ _ (pow_ne_zero _ two_ne_zero)

/-- Six fifths of it. -/
theorem wattUnits_sixFifths (n : Nat) (seconds : K) :
    (⟨0, (n : K) * (RaplUnits.ofMsr raw : RaplUnits K).watts * (12 / 10), seconds⟩ :
      RaplLimit K).wattUnits raw = ((6 * n : Nat) : K) / (5 : Nat) := by
  have hunits : (⟨0, (n : K) * (RaplUnits.ofMsr raw : RaplUnits K).watts, seconds⟩ :
      RaplLimit K).wattUnits raw = n := wattUnits_units n seconds
  rw [RaplLimit.wattUnits_eq] at hunits ⊢
  rw [mul_right_comm, hunits]
  push_cast
  ring

theorem floor_sixFifths (n : Nat) (seconds : K) :
    ⌊(⟨0, (n : K) * (RaplUnits.ofMsr raw : RaplUnits K).watts * (12 / 10), seconds⟩ :
      RaplLimit K).wattUnits raw⌋₊ = 6 * n / 5 := by
  rw [wattUnits_sixFifths]
  exact Nat.floor_div_eq_div _ _

omit [FloorRing K] in
theorem watts_nonneg (n : Nat) : 0 ≤ (n : K) * (RaplUnits.ofMsr raw : RaplUnits K).watts := by
  rw [ofMsr_watts]
  exact mul_nonneg (Nat.cast_nonneg n) (by positivity)

/-- A whole number of 15 bits over one second fits. -/
theorem fitsLower_units {n : Nat} (hn : n < 2 ^ 15) :
    (⟨0, (n : K) * (RaplUnits.ofMsr raw : RaplUnits K).watts, 1⟩ : RaplLimit K).FitsLower raw := by
  refine RaplLimit.WattsFit.fitsLower ⟨rfl, watts_nonneg n, ?_⟩ rfl
  rw [wattUnits_units, Nat.floor_natCast]
  omega

/-- **The package limits** of one socket. -/
theorem setPkgDefaults {n : Nat} (hn : n < 2 ^ 15) (hinit : Initialised R h socket raw)
    (hflag : announces R.flags pkgPowerLimit = true)
    (hok : h.failsWrite (socketCpu R socket) msrPkgPowerLimit = false) :
    ∃ r, setPkgRaplLimit R h socket
        (some ⟨0, (n : K) * (RaplUnits.ofMsr raw : RaplUnits K).watts, 1⟩)
        (some ⟨0, (n : K) * (RaplUnits.ofMsr raw : RaplUnits K).watts * (12 / 10), (3 : Nat)⟩) =
          some r ∧ h.SameDevices r.host ∧
      (6 * n / 5 < 2 ^ 15 → ∃ w, CarriesLimits w n (timeUnit raw) (6 * n / 5) 3 ∧
        r.host.regs = (h.setReg (socketCpu R socket) msrPkgPowerLimit w).regs) ∧
      (¬ 6 * n / 5 < 2 ^ 15 → r.host.regs = h.regs) := by
  have hfit₁ : (⟨0, (n : K) * (RaplUnits.ofMsr raw : RaplUnits K).watts, 1⟩ :
      RaplLimit K).FitsLower raw := fitsLower_units hn
  have hnonneg : 0 ≤ (n : K) * (RaplUnits.ofMsr raw : RaplUnits K).watts * (12 / 10) :=
    mul_nonneg (watts_nonneg n) (by norm_num)
  by_cases hsmall : 6 * n / 5 < 2 ^ 15
  · have hfit₂ : (⟨0, (n : K) * (RaplUnits.ofMsr raw : RaplUnits K).watts * (12 / 10), (3 : Nat)⟩ :
        RaplLimit K).FitsUpper raw := by
      refine ⟨⟨rfl, hnonneg, ?_⟩, Nat.cast_nonneg 3, ?_⟩
      · rw [floor_sixFifths]
        omega
      · show ((3 : Nat) : K) < 128
        norm_num
    obtain ⟨r, e₁, e₂, time, hset, hr, htime, hcarries, -⟩ :=
      setPkgRaplLimit_pair hinit hflag hok hfit₁ hfit₂
    rw [wattUnits_units, Nat.floor_natCast, floor_sixFifths, secondsToBits_oneSecond rfl htime,
      Nat.floor_natCast] at hcarries
    exact ⟨r, hset, hr.same, fun _ => ⟨_, hcarries, hr.regs⟩, fun hlarge => absurd hsmall hlarge⟩
  · have hge : ((2 ^ 15 : Nat) : K) ≤ ((6 * n : Nat) : K) / (5 : Nat) := by
      rw [le_div_iff₀ (by norm_num), ← Nat.cast_mul, Nat.cast_le]
      omega
    have hlt : ((6 * n : Nat) : K) / (5 : Nat) < ((2 ^ 64 : Nat) : K) := by
      rw [div_lt_iff₀ (by norm_num), ← Nat.cast_mul, Nat.cast_lt]
      omega
    have hseconds : ((3 : Nat) : K) < 2 ^ 64 := by norm_num
    have hrefused : ∃ r, setPkgRaplLimit R h socket
        (some ⟨0, (n : K) * (RaplUnits.ofMsr raw : RaplUnits K).watts, 1⟩)
        (some ⟨0, (n : K) * (RaplUnits.ofMsr raw : RaplUnits K).watts * (12 / 10), (3 : Nat)⟩) =
          some r ∧ r.rc = -1 ∧ r.host = h := by
      refine setPkgRaplLimit_upperRefused hinit hflag hfit₁ rfl ⟨Nat.cast_nonneg 3, hseconds⟩ ?_ ?_
      · rw [wattUnits_sixFifths]
        exact_mod_cast hge
      · rw [wattUnits_sixFifths]
        exact_mod_cast hlt
    obtain ⟨r, hset, -, hhost⟩ := hrefused
    exact ⟨r, hset, by rw [hhost]; exact .refl h, fun hfits => absurd hfits hsmall,
      fun _ => by rw [hhost]⟩

/-- **One socket** gets its defaults, and no other register changes. -/
theorem setDefaults_spec (hann : DefaultsAnnounced R) {i : Nat} (hi : BitVec.ofNat 32 i = socket)
    (hw : DefaultsWork R h socket raw) (info : RaplPowerInfo K) :
    ∃ info' h', setDefaults R (info, h) i = some (info', h') ∧ h.SameDevices h' ∧
      Restored raw (socketCpu R socket) h.regs h'.regs ∧
      ∀ cpu msr, ¬ (cpu = socketCpu R socket ∧ (msr = msrPkgPowerLimit ∨ msr = msrDramPowerLimit)) →
        h'.regs cpu msr = h.regs cpu msr := by
  subst hi
  obtain ⟨h₁, hinfo, hsame₁, hregs₁, -⟩ := getRaplPowerInfo_spec hw.init hann.pkgInfo
    hann.dramInfo hw.pkgInfo hw.dramInfo info
  have htherm : thermUnits h.regs (socketCpu R (BitVec.ofNat 32 i)) < 2 ^ 15 :=
    maskVal_lt _ rfl (by omega) (by omega)
  have hmax : dramMaxUnits h.regs (socketCpu R (BitVec.ofNat 32 i)) < 2 ^ 15 :=
    maskVal_lt _ rfl (by omega) (by omega)
  -- the package limits
  have hinit₁ := hw.init.of_sameDevices hsame₁
  obtain ⟨r, hset, hsame₂, hfits, hlarge⟩ := setPkgDefaults htherm hinit₁ hann.pkgLimit
    (by rw [hsame₁.failsWrite]; exact hw.pkgLimit)
  have hsame := hsame₁.trans hsame₂
  -- the DRAM limit
  obtain ⟨d, time, hdram, -, htime, hdregs, hsame₃⟩ := setDramRaplLimit_value
    (hw.init.of_sameDevices hsame) hann.dramLimit (by rw [hsame.failsWrite]; exact hw.dramLimit)
    (fitsLower_units (K := K) hmax)
  rw [wattUnits_units, Nat.floor_natCast, secondsToBits_oneSecond rfl htime] at hdregs
  have hne : msrPkgPowerLimit ≠ msrDramPowerLimit := by decide
  have hrun : setDefaults R (info, h) i = some
      (⟨domainInfo (.ofMsr raw) (h.regs (socketCpu R (BitVec.ofNat 32 i)) msrPkgPowerInfo),
        domainInfo (.ofMsr raw) (h.regs (socketCpu R (BitVec.ofNat 32 i)) msrDramPowerInfo)⟩,
        d.host) := by
    rw [thermUnits] at hset
    rw [dramMaxUnits] at hdram
    simp only [setDefaults, hinfo, domainInfo, hset, hdram, Option.bind_eq_bind, Option.bind_some]
  refine ⟨_, d.host, hrun, hsame.trans hsame₃, ⟨fun hs => ?_, fun hl => ?_, ?_⟩, ?_⟩
  · obtain ⟨w, hcarries, hregs₂⟩ := hfits hs
    have hw' : d.host.regs (socketCpu R (BitVec.ofNat 32 i)) msrPkgPowerLimit = w := by
      rw [hdregs, Host.setReg]
      simp only [hne, and_false, if_false, hregs₂, Host.setReg_self]
    rw [hw']
    exact hcarries
  · rw [hdregs, Host.setReg]
    simp only [hne, and_false, if_false, hlarge hl, hregs₁]
  · rw [hdregs, Host.setReg_self]
  · intro cpu msr hother
    rw [not_and_or, not_or] at hother
    have hnd : ¬ (cpu = socketCpu R (BitVec.ofNat 32 i) ∧ msr = msrDramPowerLimit) :=
      fun h => hother.elim (· h.1) (·.2 h.2)
    have hnp : ¬ (cpu = socketCpu R (BitVec.ofNat 32 i) ∧ msr = msrPkgPowerLimit) :=
      fun h => hother.elim (· h.1) (·.1 h.2)
    rw [hdregs, Host.setReg]
    simp only [hnd, if_false]
    by_cases hs : 6 * thermUnits h.regs (socketCpu R (BitVec.ofNat 32 i)) / 5 < 2 ^ 15
    · obtain ⟨w, -, hregs₂⟩ := hfits hs
      rw [hregs₂, Host.setReg]
      simp only [hnp, if_false, hregs₁]
    · rw [hlarge hs, hregs₁]

/-! ## All sockets -/

/-- A register `set_to_defaults` writes. -/
def WritesDefault (R : RaplSetup K) (cpu msr : Nat) : Prop :=
  ∃ i, i < R.cfg.sockets ∧ cpu = socketCpu R (BitVec.ofNat 32 i) ∧
    (msr = msrPkgPowerLimit ∨ msr = msrDramPowerLimit)

omit [Field K] [LinearOrder K] [IsStrictOrderedRing K] [FloorRing K] in
/-- Different sockets have different CPUs. -/
theorem socketCpu_injective {s t : BitVec 32} (hs : InRange R.cfg s.toNat 0 0)
    (ht : InRange R.cfg t.toNat 0 0) (heq : socketCpu R s = socketCpu R t) : s = t := by
  have hcoord := congrArg (coordOf R.cfg R.topo.discontinuousMapping) heq
  rw [socketCpu, socketCpu, coordOf_flatIndex _ hs, coordOf_flatIndex _ ht] at hcoord
  exact BitVec.eq_of_toNat_eq (Prod.mk.inj hcoord).1

omit [LinearOrder K] [IsStrictOrderedRing K] [FloorRing K] in
theorem DefaultsWork.sockets_lt (hw : DefaultsWork R h socket raw) : R.cfg.sockets < 2 ^ 31 := by
  obtain ⟨-, hcore, hthread⟩ := hw.init.inRange
  have hcores : R.cfg.sockets ≤ R.cfg.sockets * R.cfg.coresPerSocket :=
    Nat.le_mul_of_pos_right _ hcore
  have hdevs : R.cfg.sockets ≤ R.cfg.numDevs := hcores.trans (Nat.le_mul_of_pos_right _ hthread)
  exact hdevs.trans_lt hw.init.fits

omit [LinearOrder K] [IsStrictOrderedRing K] [FloorRing K] in
theorem DefaultsWork.of_sameDevices {h' : Host} (hw : DefaultsWork R h socket raw)
    (hsame : h.SameDevices h') : DefaultsWork R h' socket raw := by
  obtain ⟨hinit, h₁, h₂, h₃, h₄⟩ := hw
  refine ⟨hinit.of_sameDevices hsame, ?_, ?_, ?_, ?_⟩
  · rwa [hsame.fails]
  · rwa [hsame.fails]
  · rwa [hsame.failsWrite]
  · rwa [hsame.failsWrite]

/-- The defaults depend on the registers of the socket only. -/
theorem Restored.congr {cpu : Nat} {regs₁ regs₂ regs₁' regs₂' : Nat → Nat → Word}
    (hr : Restored raw cpu regs₁ regs₁') (hbefore : ∀ msr, regs₂ cpu msr = regs₁ cpu msr)
    (hafter : ∀ msr, regs₂' cpu msr = regs₁' cpu msr) : Restored raw cpu regs₂ regs₂' := by
  have htherm : thermUnits regs₂ cpu = thermUnits regs₁ cpu := by
    rw [thermUnits, hbefore, thermUnits]
  have hmax : dramMaxUnits regs₂ cpu = dramMaxUnits regs₁ cpu := by
    rw [dramMaxUnits, hbefore, dramMaxUnits]
  obtain ⟨hpkg, hkept, hdram⟩ := hr
  refine ⟨fun hs => ?_, fun hl => ?_, ?_⟩
  · rw [htherm] at hs ⊢
    rw [hafter]
    exact hpkg hs
  · rw [htherm] at hl
    rw [hafter, hbefore]
    exact hkept hl
  · rw [hafter, hmax]
    exact hdram

/-- Defaults that are set again are the same: what they are computed from is not written. -/
theorem Restored.again {cpu : Nat} {regs regs' regs'' : Nat → Nat → Word}
    (hr : Restored raw cpu regs regs') (hr' : Restored raw cpu regs' regs'')
    (hinfo : ∀ msr, msr ≠ msrPkgPowerLimit → msr ≠ msrDramPowerLimit →
      regs' cpu msr = regs cpu msr) :
    regs'' cpu msrPkgPowerLimit = regs' cpu msrPkgPowerLimit ∧
      regs'' cpu msrDramPowerLimit = regs' cpu msrDramPowerLimit := by
  have htherm : thermUnits regs' cpu = thermUnits regs cpu := by
    rw [thermUnits, hinfo msrPkgPowerInfo (by decide) (by decide), thermUnits]
  have hmax : dramMaxUnits regs' cpu = dramMaxUnits regs cpu := by
    rw [dramMaxUnits, hinfo msrDramPowerInfo (by decide) (by decide), dramMaxUnits]
  constructor
  · by_cases hs : 6 * thermUnits regs cpu / 5 < 2 ^ 15
    · have hs' : 6 * thermUnits regs' cpu / 5 < 2 ^ 15 := by rwa [htherm]
      have hnew := hr'.pkg hs'
      rw [htherm] at hnew
      exact hnew.unique (hr.pkg hs)
    · exact hr'.kept (by rwa [htherm])
  · rw [hr'.dram, hmax, hr.dram]

section All

variable (hann : DefaultsAnnounced R)
include hann

/-- The state after the sockets below `n`. -/
structure RestoredBelow (R : RaplSetup K) (raw : Nat → Word) (h h' : Host) (n : Nat) : Prop where
  same : h.SameDevices h'
  restored : ∀ i, i < n → Restored (raw i) (socketCpu R (BitVec.ofNat 32 i)) h.regs h'.regs
  others : ∀ cpu msr, (∀ i, i < n → ¬ (cpu = socketCpu R (BitVec.ofNat 32 i) ∧
    (msr = msrPkgPowerLimit ∨ msr = msrDramPowerLimit))) → h'.regs cpu msr = h.regs cpu msr

/-- **The loop.**  A socket's registers are neither read nor written for another one. -/
theorem setToDefaults_spec {h : Host} {raw : Nat → Word}
    (hw : ∀ i, i < R.cfg.sockets → DefaultsWork R h (BitVec.ofNat 32 i) (raw i))
    (info : RaplPowerInfo K) :
    ∃ info' h', setToDefaults R h info = some (info', h') ∧
      RestoredBelow R raw h h' R.cfg.sockets := by
  have hcpu : ∀ i j, i < R.cfg.sockets → j < R.cfg.sockets → i ≠ j →
      socketCpu R (BitVec.ofNat 32 i) ≠ socketCpu R (BitVec.ofNat 32 j) := by
    intro i j hi hj hne heq
    have hlt := (hw i hi).sockets_lt
    have hsame := socketCpu_injective (hw i hi).init.inRange (hw j hj).init.inRange heq
    have hnat := congrArg BitVec.toNat hsame
    rw [BitVec.toNat_ofNat, BitVec.toNat_ofNat, Nat.mod_eq_of_lt (by omega),
      Nat.mod_eq_of_lt (by omega)] at hnat
    exact hne hnat
  have hstep : ∀ n, n < R.cfg.sockets → ∀ s, RestoredBelow R raw h s.2 n →
      ∃ s', setDefaults R s n = some s' ∧ RestoredBelow R raw h s'.2 (n + 1) := by
    rintro n hn ⟨info₁, h₁⟩ ⟨hsame, hrestored, hothers⟩
    obtain ⟨info₂, h₂, hset, hsame₂, hnew, hframe⟩ := setDefaults_spec hann rfl
      ((hw n hn).of_sameDevices hsame) info₁
    -- the registers of socket `n` are still those at the start
    have hstart : ∀ msr, h₁.regs (socketCpu R (BitVec.ofNat 32 n)) msr =
        h.regs (socketCpu R (BitVec.ofNat 32 n)) msr := fun msr =>
      hothers _ _ fun i hi hmsr => hcpu n i hn (by omega) (by omega) hmsr.1
    refine ⟨(info₂, h₂), hset, hsame.trans hsame₂, fun i hi => ?_, fun cpu msr hother => ?_⟩
    · rcases Nat.lt_succ_iff_lt_or_eq.mp hi with hlt | rfl
      · refine (hrestored i hlt).congr (fun _ => rfl) fun msr => hframe _ _ ?_
        exact fun hmsr => hcpu i n (by omega) hn (by omega) hmsr.1
      · exact hnew.congr (fun msr => (hstart msr).symm) fun _ => rfl
    · rw [hframe cpu msr (hother n (Nat.lt_succ_self n))]
      exact hothers cpu msr fun i hi => hother i (by omega)
  obtain ⟨⟨info', h'⟩, hrun, hinv⟩ := Loops.foldlM_range_inv (setDefaults R)
    (fun n s => RestoredBelow R raw h s.2 n) R.cfg.sockets (info, h)
    ⟨.refl h, fun i hi => absurd hi (Nat.not_lt_zero i), fun _ _ _ => rfl⟩ hstep
  exact ⟨info', h', hrun, hinv⟩

/-- **Defaults** are restored on every socket, nothing else is written, and restoring them
    again changes nothing. -/
theorem setToDefaults_restores {h : Host} {raw : Nat → Word}
    (hw : ∀ i, i < R.cfg.sockets → DefaultsWork R h (BitVec.ofNat 32 i) (raw i))
    (info : RaplPowerInfo K) :
    ∃ info' h', setToDefaults R h info = some (info', h') ∧
      (∀ i, i < R.cfg.sockets →
        Restored (raw i) (socketCpu R (BitVec.ofNat 32 i)) h.regs h'.regs) ∧
      (∀ cpu msr, ¬ WritesDefault R cpu msr → h'.regs cpu msr = h.regs cpu msr) ∧
      ∀ info₁, ∃ info'' h'', setToDefaults R h' info₁ = some (info'', h'') ∧
        h''.regs = h'.regs := by
  obtain ⟨info', h', hrun, hsame, hrestored, hothers⟩ := setToDefaults_spec hann hw info
  refine ⟨info', h', hrun, hrestored,
    fun cpu msr hnot => hothers cpu msr fun i hi hmsr => hnot ⟨i, hi, hmsr⟩, fun info₁ => ?_⟩
  obtain ⟨info'', h'', hrun', -, hrestored', hothers'⟩ := setToDefaults_spec hann
    (fun i hi => (hw i hi).of_sameDevices hsame) info₁
  refine ⟨info'', h'', hrun', funext fun cpu => funext fun msr => ?_⟩
  by_cases hwritten : WritesDefault R cpu msr
  · obtain ⟨i, hi, rfl, hmsr⟩ := hwritten
    obtain ⟨hpkg, hdram⟩ := (hrestored i hi).again (hrestored' i hi)
      fun msr hne hne' => hothers _ _ fun j _ hj => hj.2.elim hne hne'
    rcases hmsr with rfl | rfl
    · exact hpkg
    · exact hdram
  · exact hothers' cpu msr fun i hi hmsr => hwritten ⟨i, hi, hmsr⟩

end All

end Defaults

/-- Both domains' information is at 800 units: 100 watts. -/
def infoHost : Host := { Host.opened 2 with regs := fun _ _ => 0x32000000320 }

theorem infoHost_ready : infoHost.Ready 2 := by
  have hsame : (Host.opened 2).SameDevices infoHost := ⟨rfl, rfl, rfl, rfl⟩
  exact hsame.ready (Host.opened_ready 2)

theorem infoHost_works {socket : BitVec 32} (hs : socket = 0 ∨ socket = 1) :
    DefaultsWork twoSocketRapl infoHost socket 0xA1003 := by
  rcases hs with rfl | rfl
  · exact ⟨⟨by decide, infoHost_ready, by decide, rfl⟩, by decide, by decide, by decide, by decide⟩
  · exact ⟨⟨by decide, infoHost_ready, by decide, rfl⟩, by decide, by decide, by decide, by decide⟩

theorem twoSockets_defaults :
    ∃ info' h', setToDefaults twoSocketRapl infoHost ⟨⟨0, 0, 0, 0, 0⟩, ⟨0, 0, 0, 0, 0⟩⟩ =
        some (info', h') ∧
      (∀ i, i < 2 → Restored 0xA1003 (socketCpu twoSocketRapl (BitVec.ofNat 32 i)) infoHost.regs
        h'.regs) ∧
      (∀ cpu msr, ¬ WritesDefault twoSocketRapl cpu msr →
        h'.regs cpu msr = infoHost.regs cpu msr) ∧
      ∀ info₁, ∃ info'' h'', setToDefaults twoSocketRapl h' info₁ = some (info'', h'') ∧
        h''.regs = h'.regs := by
  refine setToDefaults_restores
    ⟨by decide, by decide, by decide, by decide⟩ (fun i hi => infoHost_works ?_) _
  have hlt : i < 2 := hi
  obtain rfl | rfl : i = 0 ∨ i = 1 := by omega
  · exact .inl rfl
  · exact .inr rfl

end Libmsr
