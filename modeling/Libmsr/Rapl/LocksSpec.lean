/-
  Libmsr.Rapl.LocksSpec

  What `check_for_locks` counts and which availability flags it clears, for any
  number of sockets and any contents of their limit registers.

  The lock bit of MSR_PKG_POWER_LIMIT is bit 63.  The source counts it, but then
  takes bit 31 for the lock of the second limit: it counts that bit too, clears
  the flag because of it, and from then on counts it once for every further
  socket.  The DRAM limit and the turbo ratio are counted once, because their
  flag is cleared at the first locked socket.
-/
import Libmsr.Lib.Counting
import Libmsr.Lib.Loops
import Libmsr.Rapl.LockReads

namespace Libmsr

open Counting

section Locks

variable {K : Type} [Field K] [LinearOrder K] [IsStrictOrderedRing K] [FloorRing K]

/-! ## The registers -/

section Registers

variable (R : RaplSetup K) (h : Host)

/-- The register `msr` of a socket. -/
def socketReg (msr i : Nat) : Word := h.regs (socketCpu R (BitVec.ofNat 32 i)) msr

/-- The package limit of the socket is locked. -/
abbrev PkgLocked (i : Nat) : Prop := (socketReg R h msrPkgPowerLimit i).getLsbD 63 = true

/-- The bit of the package limit that the source tests besides the lock bit: the
    top bit of the first limit. -/
abbrev PkgBit31 (i : Nat) : Prop := (socketReg R h msrPkgPowerLimit i).getLsbD 31 = true

/-- The DRAM limit of the socket is locked. -/
abbrev DramLocked (i : Nat) : Prop := (socketReg R h msrDramPowerLimit i).getLsbD 31 = true

/-- The turbo activation ratio of the socket is locked. -/
abbrev TurboLocked (i : Nat) : Prop :=
  (socketReg R h msrTurboActivationRatio i).getLsbD 31 = true

/-- What the first package limit's struct has been filled with before socket `i`. -/
def leftBefore : Nat → LeftOver
  | 0 => none
  | i + 1 => ((leftBefore i).leave (¬ Earlier (PkgBit31 R h) i) i
      (socketReg R h msrPkgPowerLimit i)).leave (¬ Earlier (DramLocked R h) i) i
      (socketReg R h msrDramPowerLimit i)

/-- The same before the DRAM limit of socket `i`. -/
def leftAfterPkg (i : Nat) : LeftOver :=
  (leftBefore R h i).leave (¬ Earlier (PkgBit31 R h) i) i (socketReg R h msrPkgPowerLimit i)

/-- The package limit of socket `i` is not read as 0, unless over something that
    can be encoded. -/
def PkgReadFits (raw : Nat → Word) (i : Nat) : Prop :=
  ¬ Earlier (PkgBit31 R h) i → socketReg R h msrPkgPowerLimit i = 0 →
    WindowFits K raw (leftBefore R h i) i

/-- The same for the DRAM limit. -/
def DramReadFits (raw : Nat → Word) (i : Nat) : Prop :=
  ¬ Earlier (DramLocked R h) i → socketReg R h msrDramPowerLimit i = 0 →
    WindowFits K raw (leftAfterPkg R h i) i

/-- After `rapl_init` has called `rapl_storage`: the three registers are announced,
    every socket's can be read, and its units come from the value `raw i`. -/
structure LockSetup (raw : Nat → Word) : Prop where
  pkg : announces R.flags pkgPowerLimit = true
  dram : announces R.flags dramPowerLimit = true
  turbo : announces R.flags turboActivationRatio = true
  initialised : ∀ i, i < R.cfg.sockets → Initialised R h (BitVec.ofNat 32 i) (raw i)
  reads : ∀ i, i < R.cfg.sockets →
    ∀ msr ∈ [msrPkgPowerLimit, msrDramPowerLimit, msrTurboActivationRatio],
      h.fails (socketCpu R (BitVec.ofNat 32 i)) msr = false

end Registers

/-! ## The loop -/

/-- The loop of `check_for_locks` after `p` package limits, `d` DRAM limits and
    `t` turbo ratios.  `left` is what `rl1` was filled with, `first` its
    uninitialised seconds. -/
structure LockInv (R : RaplSetup K) (h : Host) (raw : Nat → Word) (first : K) (p d t : Nat)
    (left : LeftOver) (s : LockState K) : Prop where
  same : h.SameDevices s.host
  regs : s.host.regs = h.regs
  pkgFlag : announces s.flags pkgPowerLimit = true ↔ ¬ Earlier (PkgBit31 R h) p
  dramFlag : announces s.flags dramPowerLimit = true ↔ ¬ Earlier (DramLocked R h) d
  turboFlag : announces s.flags turboActivationRatio = true ↔ ¬ Earlier (TurboLocked R h) t
  numlocked : s.numlocked =
    (Nat.count (fun i => PkgLocked R h i ∧ ¬ Earlier (PkgBit31 R h) i) p +
      Nat.count (fun i => Earlier (PkgBit31 R h) (i + 1)) p +
      Nat.count (fun i => DramLocked R h i ∧ ¬ Earlier (DramLocked R h) i) d +
      Nat.count (fun i => TurboLocked R h i ∧ ¬ Earlier (TurboLocked R h) i) t : Nat)
  window : HoldsLeft raw first left s.rl1
  upper : 0 < p → ∃ j val, s.rl2.Holds (.ofMsr (raw j)) val 32
  stale : Earlier (PkgBit31 R h) p → s.rl2.bits.getLsbD 31 = true

/-! ## One socket -/

section Body

variable {R : RaplSetup K} {h : Host} {raw : Nat → Word} {first : K} {i : Nat} {s : LockState K}

omit [Field K] [LinearOrder K] [IsStrictOrderedRing K] [FloorRing K] in
theorem LockState.countIf_eq (p : Prop) [Decidable p] :
    s.countIf p = { s with numlocked := s.numlocked + if p then 1 else 0 } := by
  by_cases hp : p <;> simp [LockState.countIf, hp]

omit [IsStrictOrderedRing K] in
/-- The package limit while its flag is set. -/
theorem checkPkgLock_on {socket : BitVec 32} (hflag : announces s.flags pkgPowerLimit = true)
    {rc : Int} {l₁ l₂ : RaplLimit K} {h' : Host}
    (hget : getPkgRaplLimit { R with flags := s.flags } s.host socket (some s.rl1) (some s.rl2) =
      some ⟨rc, some l₁, some l₂, h'⟩) (h31 : l₁.bits.getLsbD 31 = l₂.bits.getLsbD 31) :
    checkPkgLock R socket s = some { s with
      flags := if l₂.bits.getLsbD 31 then s.flags &&& ~~~pkgPowerLimit else s.flags
      numlocked := s.numlocked + (if l₁.bits.getLsbD 63 then 1 else 0) +
        (if l₂.bits.getLsbD 31 then 1 else 0)
      rl1 := l₁
      rl2 := l₂
      host := h' } := by
  simp only [checkPkgLock, hflag, if_true, hget, Option.bind_eq_bind, Option.bind_some,
    Option.getD_some]
  simp only [LockState.countIf_eq, and_lockMask_high_ne_zero, and_lockMask_ne_zero]
  rw [h31]
  cases l₂.bits.getLsbD 31 <;> simp

omit [IsStrictOrderedRing K] in
/-- The package limit after its flag was cleared: what `rl2` still holds is counted
    again. -/
theorem checkPkgLock_off {socket : BitVec 32} (hflag : announces s.flags pkgPowerLimit = false)
    (h31 : s.rl2.bits.getLsbD 31 = true) :
    checkPkgLock R socket s = some { s with
      flags := if s.rl1.bits.getLsbD 31 then s.flags &&& ~~~pkgPowerLimit else s.flags
      numlocked := s.numlocked + 1 } := by
  simp only [checkPkgLock, hflag, Bool.false_eq_true, if_false, Option.bind_eq_bind,
    Option.bind_some]
  simp only [LockState.countIf_eq, and_lockMask_ne_zero]
  rw [h31]
  cases s.rl1.bits.getLsbD 31 <;> simp

section Steps

variable (hset : LockSetup R h raw) (hi : i < R.cfg.sockets)
include hset hi

omit [LinearOrder K] [IsStrictOrderedRing K] [FloorRing K] in
/-- The loop leaves the devices as they are, and its getters see the flags of the
    loop. -/
theorem LockSetup.later {h' : Host} (flags : Word) (hsame : h.SameDevices h') :
    Initialised { R with flags := flags } h' (BitVec.ofNat 32 i) (raw i) ∧
      ∀ msr ∈ [msrPkgPowerLimit, msrDramPowerLimit, msrTurboActivationRatio],
        h'.fails (socketCpu { R with flags := flags } (BitVec.ofNat 32 i)) msr = false := by
  have hinit := (hset.initialised i hi).of_sameDevices hsame
  refine ⟨⟨hinit.fits, hinit.ready, hinit.inRange, hinit.units⟩, fun msr hmsr => ?_⟩
  rw [hsame.fails]
  exact hset.reads i hi msr hmsr

omit hset hi [IsStrictOrderedRing K] in
/-- The package limit of a socket after the one that cleared the flag: nothing is
    read, and the loop counts on. -/
theorem checkPkgLock_later (hinv : LockInv R h raw first i i i (leftBefore R h i) s)
    (hearlier : Earlier (PkgBit31 R h) i) :
    ∃ s', checkPkgLock R (BitVec.ofNat 32 i) s = some s' ∧
      LockInv R h raw first (i + 1) i i (leftAfterPkg R h i) s' := by
  have hflag : announces s.flags pkgPowerLimit = false := by
    rw [Bool.eq_false_iff]
    exact fun hon => hinv.pkgFlag.mp hon hearlier
  have hleft : leftAfterPkg R h i = leftBefore R h i := by
    rw [leftAfterPkg, LeftOver.leave, if_neg fun hread => hread.1 hearlier]
  have hpos : 0 < i := by
    obtain ⟨j, hj, -⟩ := hearlier
    omega
  refine ⟨_, checkPkgLock_off hflag (hinv.stale hearlier), hinv.same, hinv.regs, ?_, ?_, ?_, ?_,
    hleft ▸ hinv.window, fun _ => hinv.upper hpos, fun _ => hinv.stale hearlier⟩
  · rw [announces_clear_self, earlier_succ, not_or, hinv.pkgFlag]
    exact iff_of_false (fun hoff => hoff.1 hearlier) fun hoff => hoff.1 hearlier
  · rw [announces_clear (by decide)]
    exact hinv.dramFlag
  · rw [announces_clear (by decide)]
    exact hinv.turboFlag
  · have hnew : Earlier (PkgBit31 R h) (i + 1) := earlier_succ.mpr (Or.inl hearlier)
    show s.numlocked + 1 = _
    rw [hinv.numlocked, Nat.count_succ, Nat.count_succ,
      if_neg (fun hfirst => hfirst.2 hearlier), if_pos hnew]
    omega

/-- The package limit of a socket while the flag is set. -/
theorem checkPkgLock_first (hinv : LockInv R h raw first i i i (leftBefore R h i) s)
    (hfit : PkgReadFits (K := K) R h raw i) (hearlier : ¬ Earlier (PkgBit31 R h) i) :
    ∃ s', checkPkgLock R (BitVec.ofNat 32 i) s = some s' ∧
      LockInv R h raw first (i + 1) i i (leftAfterPkg R h i) s' := by
  have hflag := hinv.pkgFlag.mpr hearlier
  obtain ⟨hinit, hok⟩ := hset.later hi s.flags hinv.same
  have hval : s.host.regs (socketCpu { R with flags := s.flags } (BitVec.ofNat 32 i))
      msrPkgPowerLimit = socketReg R h msrPkgPowerLimit i := by
    rw [hinv.regs]
    rfl
  -- only the first socket meets the uninitialised struct
  have hpos : leftBefore R h i ≠ none → 0 < i := by
    intro hne
    cases i with
    | zero => exact absurd rfl hne
    | succ i => exact Nat.succ_pos i
  obtain ⟨rc, l₁, l₂, h', hget, hwindow, hupper, h31, h63, h31', hsame, hregs⟩ :=
    getPkgRaplLimit_reads hinit hflag (hok _ (by simp)) hinv.window
      (fun hne => hinv.upper (hpos hne)) (by rw [hval]; exact hfit hearlier)
  rw [hval] at hwindow h31 h63 h31'
  have hleft : (leftBefore R h i).leave True i (socketReg R h msrPkgPowerLimit i) =
      leftAfterPkg R h i := by
    rw [leftAfterPkg, LeftOver.leave, LeftOver.leave]
    simp only [hearlier, not_false_eq_true]
  have hnew : Earlier (PkgBit31 R h) (i + 1) ↔ PkgBit31 R h i := by
    rw [earlier_succ, or_iff_right hearlier]
  refine ⟨_, checkPkgLock_on hflag hget (h31.trans h31'.symm), hinv.same.trans hsame,
    hregs.trans hinv.regs, ?_, ?_, ?_, ?_, hleft ▸ hwindow, fun _ => hupper, fun hbit => ?_⟩
  · rw [announces_clear_self, earlier_succ, not_or, hinv.pkgFlag, h31']
  · rw [announces_clear (by decide)]
    exact hinv.dramFlag
  · rw [announces_clear (by decide)]
    exact hinv.turboFlag
  · show s.numlocked + _ + _ = _
    rw [hinv.numlocked, Nat.count_succ, Nat.count_succ, h63, h31']
    simp only [hnew, hearlier, not_false_eq_true, and_true]
    push_cast
    ring
  · rw [h31']
    exact hnew.mp hbit

/-- The package limit of one socket. -/
theorem checkPkgLock_reads (hinv : LockInv R h raw first i i i (leftBefore R h i) s)
    (hfit : PkgReadFits (K := K) R h raw i) :
    ∃ s', checkPkgLock R (BitVec.ofNat 32 i) s = some s' ∧
      LockInv R h raw first (i + 1) i i (leftAfterPkg R h i) s' := by
  by_cases hearlier : Earlier (PkgBit31 R h) i
  · exact checkPkgLock_later hinv hearlier
  · exact checkPkgLock_first hset hi hinv hfit hearlier

/-- A package limit that is 0 over nothing that can be encoded ends the run. -/
theorem checkPkgLock_unread (hinv : LockInv R h raw 0 i i i (leftBefore R h i) s)
    (hfit : ¬ PkgReadFits (K := K) R h raw i) : checkPkgLock R (BitVec.ofNat 32 i) s = none := by
  rw [PkgReadFits, Classical.not_imp, Classical.not_imp] at hfit
  obtain ⟨hfirst, hzero, hwindow⟩ := hfit
  have hflag := hinv.pkgFlag.mpr hfirst
  obtain ⟨hinit, hok⟩ := hset.later hi s.flags hinv.same
  have hreg : s.host.regs (socketCpu R (BitVec.ofNat 32 i)) msrPkgPowerLimit = 0 := by
    rw [hinv.regs]
    exact hzero
  have hget : getPkgRaplLimit { R with flags := s.flags } s.host (BitVec.ofNat 32 i) (some s.rl1)
      (some s.rl2) = none :=
    getPkgRaplLimit_unread hinit hflag (hok _ (by simp)) hinv.window hwindow hreg
  simp only [checkPkgLock, hflag, if_true, hget, Option.bind_eq_bind, Option.bind_none]

/-- The DRAM limit of one socket. -/
theorem checkDramLock_reads (hinv : LockInv R h raw first (i + 1) i i (leftAfterPkg R h i) s)
    (hfit : DramReadFits (K := K) R h raw i) :
    ∃ s', checkDramLock R (BitVec.ofNat 32 i) s = some s' ∧
      LockInv R h raw first (i + 1) (i + 1) i (leftBefore R h (i + 1)) s' := by
  have hstep : leftBefore R h (i + 1) = (leftAfterPkg R h i).leave
      (¬ Earlier (DramLocked R h) i) i (socketReg R h msrDramPowerLimit i) := rfl
  by_cases hearlier : Earlier (DramLocked R h) i
  · have hflag : announces s.flags dramPowerLimit = false := by
      rw [Bool.eq_false_iff]
      exact fun hon => hinv.dramFlag.mp hon hearlier
    rw [LeftOver.leave, if_neg fun hread => hread.1 hearlier] at hstep
    refine ⟨s, ?_, hinv.same, hinv.regs, hinv.pkgFlag, ?_, hinv.turboFlag, ?_,
      hstep ▸ hinv.window, hinv.upper, hinv.stale⟩
    · rw [checkDramLock, hflag, if_neg Bool.false_ne_true]
    · rw [hinv.dramFlag, earlier_succ, not_or]
      exact iff_of_false (not_not.mpr hearlier) fun hoff => hoff.1 hearlier
    · rw [hinv.numlocked, Nat.count_succ (fun i => DramLocked R h i ∧ _),
        if_neg fun hfirst => hfirst.2 hearlier, add_zero]
  · have hflag := hinv.dramFlag.mpr hearlier
    obtain ⟨hinit, hok⟩ := hset.later hi s.flags hinv.same
    have hval : s.host.regs (socketCpu { R with flags := s.flags } (BitVec.ofNat 32 i))
        msrDramPowerLimit = socketReg R h msrDramPowerLimit i := by
      rw [hinv.regs]
      rfl
    obtain ⟨rc, l₁, h', hget, hwindow, h31, hsame, hregs⟩ :=
      getDramRaplLimit_reads hinit hflag (hok _ (by simp)) hinv.window
        (by rw [hval]; exact hfit hearlier)
    rw [hval] at hwindow h31
    simp only [LeftOver.leave, hearlier, not_false_eq_true] at hstep hwindow
    refine ⟨{ s with
        flags := if l₁.bits.getLsbD 31 then s.flags &&& ~~~dramPowerLimit else s.flags
        numlocked := s.numlocked + if l₁.bits.getLsbD 31 then 1 else 0
        rl1 := l₁
        host := h' }, ?_, hinv.same.trans hsame, hregs.trans hinv.regs, ?_, ?_, ?_, ?_,
      hstep ▸ hwindow, hinv.upper, hinv.stale⟩
    · simp only [checkDramLock, hflag, if_true, hget, Option.bind_eq_bind, Option.bind_some,
        Option.getD_some, and_lockMask_ne_zero]
      cases l₁.bits.getLsbD 31 <;> simp
    · rw [announces_clear (by decide)]
      exact hinv.pkgFlag
    · rw [announces_clear_self, earlier_succ, not_or, hinv.dramFlag, h31]
    · rw [announces_clear (by decide)]
      exact hinv.turboFlag
    · show s.numlocked + _ = _
      rw [hinv.numlocked, Nat.count_succ (fun i => DramLocked R h i ∧ _), h31]
      simp only [hearlier, not_false_eq_true, and_true]
      push_cast
      ring

theorem checkDramLock_unread (hinv : LockInv R h raw 0 (i + 1) i i (leftAfterPkg R h i) s)
    (hfit : ¬ DramReadFits (K := K) R h raw i) :
    checkDramLock R (BitVec.ofNat 32 i) s = none := by
  rw [DramReadFits, Classical.not_imp, Classical.not_imp] at hfit
  obtain ⟨hfirst, hzero, hwindow⟩ := hfit
  have hflag := hinv.dramFlag.mpr hfirst
  obtain ⟨hinit, hok⟩ := hset.later hi s.flags hinv.same
  have hget := getDramRaplLimit_unread hinit hflag (hok _ (by simp)) hinv.window hwindow
    (by rw [hinv.regs]; exact hzero)
  simp only [checkDramLock, hflag, if_true, hget, Option.bind_eq_bind, Option.bind_none]

omit [LinearOrder K] [IsStrictOrderedRing K] [FloorRing K] in
/-- The turbo ratio of one socket. -/
theorem checkTurboLock_reads {left : LeftOver}
    (hinv : LockInv R h raw first (i + 1) (i + 1) i left s) :
    LockInv R h raw first (i + 1) (i + 1) (i + 1) left
      (checkTurboLock R (BitVec.ofNat 32 i) s) := by
  by_cases hearlier : Earlier (TurboLocked R h) i
  · have hflag : announces s.flags turboActivationRatio = false := by
      rw [Bool.eq_false_iff]
      exact fun hon => hinv.turboFlag.mp hon hearlier
    rw [checkTurboLock, hflag, if_neg Bool.false_ne_true]
    refine ⟨hinv.same, hinv.regs, hinv.pkgFlag, hinv.dramFlag, ?_, ?_, hinv.window, hinv.upper,
      hinv.stale⟩
    · rw [hinv.turboFlag, earlier_succ, not_or]
      exact iff_of_false (not_not.mpr hearlier) fun hoff => hoff.1 hearlier
    · rw [hinv.numlocked, Nat.count_succ (fun i => TurboLocked R h i ∧ _),
        if_neg fun hfirst => hfirst.2 hearlier, add_zero]
  · have hflag := hinv.turboFlag.mpr hearlier
    obtain ⟨hinit, hok⟩ := hset.later hi s.flags hinv.same
    obtain ⟨tar, h', hget, hbits, hsame, hregs⟩ :=
      getMaxTurboActivationRatio_reads hinit hflag (hok _ (by simp)) s.tar
    have hval : tar.bits = socketReg R h msrTurboActivationRatio i := by
      rw [hbits, hinv.regs]
      rfl
    have hcheck : checkTurboLock R (BitVec.ofNat 32 i) s = { s with
        flags := if tar.bits.getLsbD 31 then s.flags &&& ~~~turboActivationRatio else s.flags
        numlocked := s.numlocked + if tar.bits.getLsbD 31 then 1 else 0
        tar := tar
        host := h' } := by
      simp only [checkTurboLock, hflag, if_true, hget, and_lockMask_ne_zero]
      cases tar.bits.getLsbD 31 <;> simp
    rw [hcheck]
    refine ⟨hinv.same.trans hsame, hregs.trans hinv.regs, ?_, ?_, ?_, ?_, hinv.window, hinv.upper,
      hinv.stale⟩
    · rw [announces_clear (by decide)]
      exact hinv.pkgFlag
    · rw [announces_clear (by decide)]
      exact hinv.dramFlag
    · rw [announces_clear_self, earlier_succ, not_or, hinv.turboFlag, hval]
    · show s.numlocked + _ = _
      rw [hinv.numlocked, Nat.count_succ (fun i => TurboLocked R h i ∧ _), hval]
      simp only [hearlier, not_false_eq_true, and_true]
      push_cast
      ring

/-- **One socket.** -/
theorem checkSocketLocks_reads (hinv : LockInv R h raw first i i i (leftBefore R h i) s)
    (hpkg : PkgReadFits (K := K) R h raw i) (hdram : DramReadFits (K := K) R h raw i) :
    ∃ s', checkSocketLocks R s i = some s' ∧
      LockInv R h raw first (i + 1) (i + 1) (i + 1) (leftBefore R h (i + 1)) s' := by
  obtain ⟨s₁, hs₁, hinv₁⟩ := checkPkgLock_reads hset hi hinv hpkg
  obtain ⟨s₂, hs₂, hinv₂⟩ := checkDramLock_reads hset hi hinv₁ hdram
  refine ⟨_, ?_, checkTurboLock_reads hset hi hinv₂⟩
  simp only [checkSocketLocks, hs₁, hs₂, Option.bind_eq_bind, Option.bind_some]

theorem checkSocketLocks_unread (hinv : LockInv R h raw 0 i i i (leftBefore R h i) s)
    (hfit : ¬ (PkgReadFits (K := K) R h raw i ∧ DramReadFits (K := K) R h raw i)) :
    checkSocketLocks R s i = none := by
  by_cases hpkg : PkgReadFits (K := K) R h raw i
  · obtain ⟨s₁, hs₁, hinv₁⟩ := checkPkgLock_reads hset hi hinv hpkg
    have hnone := checkDramLock_unread hset hi hinv₁ fun hdram => hfit ⟨hpkg, hdram⟩
    simp only [checkSocketLocks, hs₁, hnone, Option.bind_eq_bind, Option.bind_some,
      Option.bind_none]
  · have hnone := checkPkgLock_unread hset hi hinv hpkg
    simp only [checkSocketLocks, hnone, Option.bind_eq_bind, Option.bind_none]

end Steps

end Body

/-! ## All sockets -/

section Run

variable {R : RaplSetup K} {h : Host} {raw : Nat → Word} (hset : LockSetup R h raw)
include hset

omit [LinearOrder K] [IsStrictOrderedRing K] [FloorRing K] in
theorem lockInv_init (rl1 rl2 : RaplLimit K) (tar : TurboActivationRatioData K) :
    LockInv R h raw rl1.seconds 0 0 0 (leftBefore R h 0) ⟨R.flags, 0, rl1, rl2, tar, h⟩ := by
  refine ⟨.refl h, rfl, ?_, ?_, ?_, rfl, rfl, fun hpos => absurd hpos (Nat.lt_irrefl 0),
    fun hbit => absurd hbit (not_earlier_zero _)⟩
  · exact iff_of_true hset.pkg (not_earlier_zero _)
  · exact iff_of_true hset.dram (not_earlier_zero _)
  · exact iff_of_true hset.turbo (not_earlier_zero _)

/-- The loop over the first `n` sockets. -/
theorem checkSockets_reads (rl1 rl2 : RaplLimit K) (tar : TurboActivationRatioData K) {n : Nat}
    (hn : n ≤ R.cfg.sockets)
    (hfit : ∀ i, i < n → PkgReadFits (K := K) R h raw i ∧ DramReadFits (K := K) R h raw i) :
    ∃ s, (List.range n).foldlM (checkSocketLocks R) ⟨R.flags, 0, rl1, rl2, tar, h⟩ = some s ∧
      LockInv R h raw rl1.seconds n n n (leftBefore R h n) s := by
  refine Loops.foldlM_range_inv _
    (fun i s => LockInv R h raw rl1.seconds i i i (leftBefore R h i) s) n _
    (lockInv_init hset rl1 rl2 tar) fun i hi s hinv => ?_
  exact checkSocketLocks_reads hset (by omega) hinv (hfit i hi).1 (hfit i hi).2

/-- If some socket is read over nothing that can be encoded, the run has no
    defined outcome when the uninitialised seconds are zero. -/
theorem checkForLocks_unread (rl2 : RaplLimit K) (tar : TurboActivationRatioData K) {n : Nat}
    (hn : n ≤ R.cfg.sockets)
    (hfit : ¬ ∀ i, i < n →
      PkgReadFits (K := K) R h raw i ∧ DramReadFits (K := K) R h raw i) :
    checkForLocks R h ⟨0, 0, 0⟩ rl2 tar = none := by
  induction n with
  | zero => exact absurd (fun i hi => absurd hi (Nat.not_lt_zero i)) hfit
  | succ n ih =>
    by_cases hbelow : ∀ i, i < n →
        PkgReadFits (K := K) R h raw i ∧ DramReadFits (K := K) R h raw i
    · -- socket `n` is the first one that fails
      obtain ⟨s, hs, hinv⟩ := checkSockets_reads hset ⟨0, 0, 0⟩ rl2 tar (by omega) hbelow
      have hstep : ¬ (PkgReadFits (K := K) R h raw n ∧ DramReadFits (K := K) R h raw n) := by
        intro hok
        refine hfit fun i hi => ?_
        rcases Nat.lt_succ_iff_lt_or_eq.mp hi with hlt | rfl
        · exact hbelow i hlt
        · exact hok
      refine Loops.foldlM_range_none hn ?_
      rw [Loops.foldlM_range_succ, hs]
      exact checkSocketLocks_unread hset (by omega) hinv hstep
    · exact ih (by omega) hbelow

end Run

/-! ## What is reported -/

section Reported

variable (R : RaplSetup K) (h : Host)

/-- The number of locked registers, counted once for every socket. -/
def lockedPairs : Nat :=
  Nat.count (PkgLocked R h) R.cfg.sockets + Nat.count (DramLocked R h) R.cfg.sockets +
    Nat.count (TurboLocked R h) R.cfg.sockets

/-- Whatever its locals hold, `check_for_locks` returns the number of locked
    registers, and so does `rapl_init`; the flag of a register is cleared exactly
    if the register is locked on some socket. -/
def LocksReported : Prop :=
  ∀ (rl1 rl2 : RaplLimit K) (tar : TurboActivationRatioData K), ∃ s,
    checkForLocks R h rl1 rl2 tar = some s ∧
    raplInit R 0 h rl1 rl2 tar = some ((lockedPairs R h : Int), s.flags, s.host) ∧
    s.numlocked = (lockedPairs R h : Int) ∧
    (announces s.flags pkgPowerLimit = false ↔ ∃ i, i < R.cfg.sockets ∧ PkgLocked R h i) ∧
    (announces s.flags dramPowerLimit = false ↔ ∃ i, i < R.cfg.sockets ∧ DramLocked R h i) ∧
    (announces s.flags turboActivationRatio = false ↔
      ∃ i, i < R.cfg.sockets ∧ TurboLocked R h i)

/-- A socket that adds one to the count without being locked: the first one with
    bit 31, and every later one whose package limit is not locked. -/
abbrev Spurious (i : Nat) : Prop :=
  (PkgBit31 R h i ∧ ¬ Earlier (PkgBit31 R h) i) ∨
    (Earlier (PkgBit31 R h) i ∧ ¬ PkgLocked R h i)

/-- The condition: no register is read as 0 over something that cannot be encoded;
    bit 63 occurs in the package limits just if bit 31 does; and the sockets
    counted in error make up for the ones that are left out. -/
structure LocksExact (raw : Nat → Word) : Prop where
  reads : ∀ i, i < R.cfg.sockets →
    PkgReadFits (K := K) R h raw i ∧ DramReadFits (K := K) R h raw i
  bits : (∃ i, i < R.cfg.sockets ∧ PkgLocked R h i) ↔ ∃ i, i < R.cfg.sockets ∧ PkgBit31 R h i
  counts : Nat.count (Spurious R h) R.cfg.sockets =
    Nat.count (fun i => DramLocked R h i ∧ Earlier (DramLocked R h) i) R.cfg.sockets +
      Nat.count (fun i => TurboLocked R h i ∧ Earlier (TurboLocked R h) i) R.cfg.sockets

variable {R h} {raw : Nat → Word} (hset : LockSetup R h raw)

omit [LinearOrder K] [IsStrictOrderedRing K] [FloorRing K] in
/-- The loop counts right exactly if the errors cancel out. -/
theorem numlocked_eq_iff {first : K} {left : LeftOver} {s : LockState K}
    (hinv : LockInv R h raw first R.cfg.sockets R.cfg.sockets R.cfg.sockets left s) :
    s.numlocked = (lockedPairs R h : Int) ↔
      Nat.count (Spurious R h) R.cfg.sockets =
        Nat.count (fun i => DramLocked R h i ∧ Earlier (DramLocked R h) i) R.cfg.sockets +
          Nat.count (fun i => TurboLocked R h i ∧ Earlier (TurboLocked R h) i) R.cfg.sockets := by
  have hpkg := count_split (p := PkgLocked R h) (q := Earlier (PkgBit31 R h)) R.cfg.sockets
  have hdram := count_split (p := DramLocked R h) (q := Earlier (DramLocked R h)) R.cfg.sockets
  have hturbo := count_split (p := TurboLocked R h) (q := Earlier (TurboLocked R h)) R.cfg.sockets
  have hfrom := count_earlier_succ (p := PkgBit31 R h) R.cfg.sockets
  have hlater := count_split (p := Earlier (PkgBit31 R h)) (q := PkgLocked R h) R.cfg.sockets
  have hswap := count_congr (p := fun i => Earlier (PkgBit31 R h) i ∧ PkgLocked R h i)
    (q := fun i => PkgLocked R h i ∧ Earlier (PkgBit31 R h) i) R.cfg.sockets fun _ => and_comm
  have hspurious : Nat.count (Spurious R h) R.cfg.sockets =
      Nat.count (fun i => PkgBit31 R h i ∧ ¬ Earlier (PkgBit31 R h) i) R.cfg.sockets +
        Nat.count (fun i => Earlier (PkgBit31 R h) i ∧ ¬ PkgLocked R h i) R.cfg.sockets :=
    count_or R.cfg.sockets fun i hboth => hboth.1.2 hboth.2.1
  rw [hinv.numlocked, lockedPairs, Nat.cast_inj]
  omega

include hset

/-- **Locks.**  `check_for_locks` and `rapl_init` report the locked registers if
    and only if the condition holds. -/
theorem locksReported_iff : LocksReported R h ↔ LocksExact R h raw := by
  constructor
  · intro hreport
    by_cases hfit : ∀ i, i < R.cfg.sockets →
        PkgReadFits (K := K) R h raw i ∧ DramReadFits (K := K) R h raw i
    · obtain ⟨s, hs, -, hcount, hpkg, -⟩ := hreport ⟨0, 0, 0⟩ ⟨0, 0, 0⟩ ⟨0, 0⟩
      obtain ⟨s', hs', hinv⟩ :=
        checkSockets_reads hset ⟨0, 0, 0⟩ ⟨0, 0, 0⟩ ⟨0, 0⟩ (le_refl _) hfit
      obtain rfl := Option.some.inj (hs.symm.trans hs')
      refine ⟨hfit, ?_, (numlocked_eq_iff hinv).mp hcount⟩
      rw [← hpkg, ← Bool.not_eq_true, hinv.pkgFlag, not_not]
      rfl
    · obtain ⟨s, hs, -⟩ := hreport ⟨0, 0, 0⟩ ⟨0, 0, 0⟩ ⟨0, 0⟩
      rw [checkForLocks_unread hset ⟨0, 0, 0⟩ ⟨0, 0⟩ (le_refl _) hfit] at hs
      contradiction
  · rintro ⟨hfit, hbits, hcounts⟩ rl1 rl2 tar
    obtain ⟨s, hs, hinv⟩ := checkSockets_reads hset rl1 rl2 tar (le_refl _) hfit
    have hnum := (numlocked_eq_iff hinv).mpr hcounts
    have hloop : checkForLocks R h rl1 rl2 tar = some s := hs
    refine ⟨s, hloop, ?_, hnum, ?_, ?_, ?_⟩
    · rw [raplInit, if_neg (not_not.mpr rfl), hloop, Option.map_some, hnum]
    · rw [← Bool.not_eq_true, hinv.pkgFlag, not_not, hbits]
      rfl
    · rw [← Bool.not_eq_true, hinv.dramFlag, not_not]
      rfl
    · rw [← Bool.not_eq_true, hinv.turboFlag, not_not]
      rfl

end Reported

end Locks

/-! ## One socket -/

/-- One socket with the flags of model 0x3E. -/
def ivyBridge : RaplSetup ℚ := { oneSocket with model := 0x3E, flags := 0x6007F7 }

/-- A host whose package limit is `pkg` and whose other registers are `other`. -/
def limitHost (pkg other : Word) : Host :=
  { Host.opened 1 with regs := fun _ msr => if msr = msrPkgPowerLimit then pkg else other }

theorem ivyBridge_lockSetup (pkg other : Word) :
    LockSetup ivyBridge (limitHost pkg other) fun _ => 0xA1003 := by
  refine ⟨by decide, by decide, by decide, fun i hi => ?_, fun i hi msr _ => ?_⟩
  · obtain rfl : i = 0 := Nat.lt_one_iff.mp hi
    have hready := Host.opened_ready 1
    exact ⟨by decide, ⟨hready.length, hready.entry⟩, by decide, oneSocket_units⟩
  · obtain rfl : i = 0 := Nat.lt_one_iff.mp hi
    rfl

/-- A locked DRAM limit and a locked turbo ratio are reported. -/
theorem lockedDram_reported :
    LocksReported ivyBridge (limitHost 0x0000832000008320 0x80008320) := by
  refine (locksReported_iff (ivyBridge_lockSetup _ _)).mpr ⟨fun i hi => ?_, by decide, by decide⟩
  obtain rfl : i = 0 := Nat.lt_one_iff.mp hi
  exact ⟨fun _ hzero => absurd hzero (by decide), fun _ hzero => absurd hzero (by decide)⟩

/-- A locked package limit is counted, but stays announced. -/
theorem lockedPkg_not_reported :
    ¬ LocksReported ivyBridge (limitHost 0x8000832000008320 0x00008320) := by
  intro hreport
  obtain ⟨s, hs, -, -, hpkg, -⟩ := hreport ⟨0, 0, 0⟩ ⟨0, 0, 0⟩ ⟨0, 0⟩
  have hfit : ∀ i, i < 1 →
      PkgReadFits (K := ℚ) ivyBridge (limitHost 0x8000832000008320 0x00008320)
        (fun _ => 0xA1003) i ∧
      DramReadFits (K := ℚ) ivyBridge (limitHost 0x8000832000008320 0x00008320)
        (fun _ => 0xA1003) i := by
    intro i hi
    obtain rfl : i = 0 := Nat.lt_one_iff.mp hi
    exact ⟨fun _ hzero => absurd hzero (by decide), fun _ hzero => absurd hzero (by decide)⟩
  obtain ⟨s', hs', hinv⟩ :=
    checkSockets_reads (ivyBridge_lockSetup _ _) ⟨0, 0, 0⟩ ⟨0, 0, 0⟩ ⟨0, 0⟩ (le_refl 1) hfit
  obtain rfl := Option.some.inj (hs.symm.trans hs')
  have hlocked : announces s.flags pkgPowerLimit = false := hpkg.mpr (by decide)
  rw [hinv.pkgFlag.mpr (by decide)] at hlocked
  contradiction

end Libmsr
