/-
  Libmsr.Rapl.Flags

  `setflags` (src/msr_rapl.c) with the table of include/msr_rapl.h, and what is
  left of the flags after `rapl_init`: `check_for_locks` clears flags of limit
  registers only.
-/
import Libmsr.Lib.Loops
import Libmsr.Rapl.Energy
import Libmsr.Rapl.LockReads

namespace Libmsr

/-- `POWER_UNIT`. -/
def powerUnitFlag : Word := 0x1

/-- The RAPL flags of a CPU model, the constants `MF_06_*`. -/
def mf06Flags : Nat → Option Word
  | 0x37 => some 0x407
  | 0x4A => some 0x407
  | 0x5A => some 0x407
  | 0x4D => some 0x20003
  | 0x4C => some 0x607
  | 0x2A => some 0xFE17
  | 0x2D => some 0x7FF
  | 0x3A => some 0xFE17
  | 0x3E => some 0x6007F7
  | 0x3C => some 0x1CEE17
  | 0x45 => some 0x1CFE17
  | 0x46 => some 0x1CFE17
  | 0x3F => some 0x1C01FF
  | 0x3D => some 0x1CFE17
  | 0x47 => some 0x1CFE17
  | 0x4F => some 0x177
  | 0x56 => some 0x1CFE17
  | 0x4E => some 0x1EFE17
  | 0x5E => some 0x1EFE17
  | 0x55 => some 0x177
  | 0x57 => some 0x507FF
  | _ => none

/-- `setflags`: return code, and what is in `*rapl_flags` then. -/
def setflags (model : Nat) (raplFlags : Word) : Int × Word :=
  match mf06Flags model with
  | none => (-1, raplFlags)
  | some flags =>
    -- every RAPL-enabled CPU so far has this register
    if announces flags powerUnitFlag then (0, flags) else (-1, flags)

/-- A successful `setflags` found the model in the table. -/
theorem setflags_found {model : Nat} {raplFlags : Word} (h : (setflags model raplFlags).1 = 0) :
    mf06Flags model = some (setflags model raplFlags).2 := by
  rw [setflags] at h ⊢
  cases htable : mf06Flags model with
  | none =>
    rw [htable] at h
    contradiction
  | some flags =>
    show some flags =
      some (if announces flags powerUnitFlag then ((0 : Int), flags) else (-1, flags)).2
    split
    · rfl
    · rfl

/-! ## Flags that check_for_locks leaves alone -/

section Keeps

variable {K : Type} [Field K] [LinearOrder K] [IsStrictOrderedRing K] [FloorRing K]
  {R : RaplSetup K} {reg : Word}

/-- The registers whose flag `check_for_locks` may clear. -/
def LocksApart (reg : Word) : Prop :=
  ~~~pkgPowerLimit &&& reg = reg ∧ ~~~dramPowerLimit &&& reg = reg ∧
    ~~~turboActivationRatio &&& reg = reg

omit [Field K] [LinearOrder K] [IsStrictOrderedRing K] [FloorRing K] in
theorem countIf_flags (s : LockState K) (p : Prop) [Decidable p] :
    (s.countIf p).flags = s.flags := by
  rw [LockState.countIf]
  split
  · rfl
  · rfl

omit [IsStrictOrderedRing K] in
theorem checkPkgLock_flags (hreg : LocksApart reg) {socket : BitVec 32} {s s' : LockState K}
    (h : checkPkgLock R socket s = some s') : announces s'.flags reg = announces s.flags reg := by
  -- the two tests that follow the read
  have htail : ∀ t : LockState K,
      (let t := t.countIf (t.rl2.bits &&& lockMask ≠ 0)
      if t.rl1.bits &&& lockMask ≠ 0 ∧ t.rl2.bits &&& lockMask ≠ 0 then
        some { t with flags := t.flags &&& ~~~pkgPowerLimit }
      else some t) = some s' → announces s'.flags reg = announces t.flags reg := by
    intro t ht
    rw [← countIf_flags t (t.rl2.bits &&& lockMask ≠ 0)]
    dsimp only at ht
    split at ht
    · rw [← Option.some.inj ht]
      exact announces_clear hreg.1 _ true
    · rw [Option.some.inj ht]
  rw [checkPkgLock] at h
  by_cases hann : announces s.flags pkgPowerLimit = true
  · rw [if_pos hann, Option.bind_eq_bind, Option.bind_eq_some_iff] at h
    obtain ⟨r, -, h⟩ := h
    rw [htail _ h, countIf_flags]
  · rw [if_neg hann] at h
    exact htail s h

omit [IsStrictOrderedRing K] in
theorem checkDramLock_flags (hreg : LocksApart reg) {socket : BitVec 32} {s s' : LockState K}
    (h : checkDramLock R socket s = some s') : announces s'.flags reg = announces s.flags reg := by
  rw [checkDramLock] at h
  by_cases hann : announces s.flags dramPowerLimit = true
  · rw [if_pos hann, Option.bind_eq_bind, Option.bind_eq_some_iff] at h
    obtain ⟨r, -, heq⟩ := h
    dsimp only at heq
    split at heq
    · rw [← Option.some.inj heq]
      exact announces_clear hreg.2.1 _ true
    · rw [← Option.some.inj heq]
  · rw [if_neg hann] at h
    rw [Option.some.inj h]

omit [LinearOrder K] [IsStrictOrderedRing K] [FloorRing K] in
theorem checkTurboLock_flags (hreg : LocksApart reg) (socket : BitVec 32) (s : LockState K) :
    announces (checkTurboLock R socket s).flags reg = announces s.flags reg := by
  rw [checkTurboLock]
  split
  · dsimp only
    split
    · exact announces_clear hreg.2.2 _ true
    · rfl
  · rfl

omit [IsStrictOrderedRing K] in
/-- **`rapl_init`** leaves the flags of other registers as `setflags` made them. -/
theorem raplInit_flags (hreg : LocksApart reg) {storage rc : Int} {h h' : Host}
    {rl1 rl2 : RaplLimit K} {tar : TurboActivationRatioData K} {flags : Word}
    (hinit : raplInit R storage h rl1 rl2 tar = some (rc, flags, h')) :
    announces flags reg = announces R.flags reg := by
  rw [raplInit] at hinit
  split at hinit
  · simp only [Option.some.injEq, Prod.mk.injEq] at hinit
    rw [← hinit.2.1]
  · obtain ⟨s, hs, heq⟩ := Option.map_eq_some_iff.mp hinit
    simp only [Prod.mk.injEq] at heq
    rw [← heq.2.1]
    -- by induction over the sockets
    refine Loops.foldlM_keeps (I := fun s => announces s.flags reg = announces R.flags reg)
      (fun s i s' hI hstep => ?_) rfl hs
    simp only [checkSocketLocks, Option.bind_eq_bind, Option.bind_eq_some_iff] at hstep
    obtain ⟨s₁, hs₁, s₂, hs₂, heq⟩ := hstep
    rw [← Option.some.inj heq, checkTurboLock_flags hreg, checkDramLock_flags hreg hs₂,
      checkPkgLock_flags hreg hs₁, hI]

end Keeps

end Libmsr
