/-
  Libmsr.Rapl.Locks

  `check_for_locks` and `rapl_init` (src/msr_rapl.c), and what they call of
  src/msr_turbo.c, in the build without IS_ARCH_2D.

  The locals of `check_for_locks` are not initialised, so what they hold is an
  argument.
-/
import Libmsr.Rapl.Limits

namespace Libmsr

def msrTurboActivationRatio : Nat := 0x64C

def turboActivationRatio : Word := 0x200

/-- `struct turbo_activation_ratio_data`. -/
structure TurboActivationRatioData (K : Type) where
  bits : Word
  maxNonTurboRatio : K

/-- `lock` in `check_for_locks`. -/
def lockMask : Word := 0x80000000

/-- The locals of `check_for_locks`, the flags that `rapl_flags` points to, and
    the host.  `numlocked` is an `int`; it would take more than 2^29 sockets to
    overflow it. -/
structure LockState (K : Type) where
  flags : Word
  numlocked : Int
  rl1 : RaplLimit K
  rl2 : RaplLimit K
  tar : TurboActivationRatioData K
  host : Host

/-- `numlocked++` if the condition holds. -/
def LockState.countIf {K : Type} (s : LockState K) (p : Prop) [Decidable p] : LockState K :=
  if p then { s with numlocked := s.numlocked + 1 } else s

section Locks

variable {K : Type} [Field K] [LinearOrder K] [IsStrictOrderedRing K] [FloorRing K]
  (R : RaplSetup K)

/-- `calc_max_non_turbo`. -/
def calcMaxNonTurbo (info : TurboActivationRatioData K) : TurboActivationRatioData K :=
  { info with maxNonTurboRatio := ((maskVal info.bits 7 0).toNat : K) * 100 }

/-- `get_max_turbo_activation_ratio`.  The return code of the read is dropped. -/
def getMaxTurboActivationRatio (h : Host) (socket : BitVec 32)
    (info : TurboActivationRatioData K) : Int × TurboActivationRatioData K × Host :=
  if announces R.flags turboActivationRatio then
    let (_, bits, h) := readMsrByCoord R.cfg R.topo h socket 0 0 msrTurboActivationRatio info.bits
    (0, calcMaxNonTurbo { info with bits := bits }, h)
  else (-1, info, h)

/-- The package limit in the loop body of `check_for_locks`.  Only the first test
    depends on the flag. -/
def checkPkgLock (socket : BitVec 32) (s : LockState K) : Option (LockState K) := do
  let s ←
    if announces s.flags pkgPowerLimit then do
      let r ← getPkgRaplLimit { R with flags := s.flags } s.host socket (some s.rl1) (some s.rl2)
      let s := { s with rl1 := r.limit1.getD s.rl1, rl2 := r.limit2.getD s.rl2, host := r.host }
      -- the first limit is tested at bit 63
      some (s.countIf (s.rl1.bits &&& (lockMask <<< 32) ≠ 0))
    else some s
  -- this test is on bit 31, and runs also when nothing was read
  let s := s.countIf (s.rl2.bits &&& lockMask ≠ 0)
  -- here the first limit is tested at bit 31 too
  if s.rl1.bits &&& lockMask ≠ 0 ∧ s.rl2.bits &&& lockMask ≠ 0 then
    some { s with flags := s.flags &&& ~~~pkgPowerLimit }
  else some s

/-- The DRAM limit, which is fetched into the same struct as the first package
    limit. -/
def checkDramLock (socket : BitVec 32) (s : LockState K) : Option (LockState K) :=
  if announces s.flags dramPowerLimit then do
    let r ← getDramRaplLimit { R with flags := s.flags } s.host socket (some s.rl1)
    let s := { s with rl1 := r.limit.getD s.rl1, host := r.host }
    if s.rl1.bits &&& lockMask ≠ 0 then
      some { s with numlocked := s.numlocked + 1, flags := s.flags &&& ~~~dramPowerLimit }
    else some s
  else some s

/-- The turbo activation ratio. -/
def checkTurboLock (socket : BitVec 32) (s : LockState K) : LockState K :=
  if announces s.flags turboActivationRatio then
    let (_, tar, h) := getMaxTurboActivationRatio { R with flags := s.flags } s.host socket s.tar
    let s := { s with tar := tar, host := h }
    if s.tar.bits &&& lockMask ≠ 0 then
      { s with numlocked := s.numlocked + 1, flags := s.flags &&& ~~~turboActivationRatio }
    else s
  else s

/-- Loop body of `check_for_locks`. -/
def checkSocketLocks (s : LockState K) (i : Nat) : Option (LockState K) := do
  let s ← checkPkgLock R (BitVec.ofNat 32 i) s
  let s ← checkDramLock R (BitVec.ofNat 32 i) s
  some (checkTurboLock R (BitVec.ofNat 32 i) s)

/-- `check_for_locks`, from what its locals happen to hold.  It returns
    `numlocked`. -/
def checkForLocks (h : Host) (rl1 rl2 : RaplLimit K) (tar : TurboActivationRatioData K) :
    Option (LockState K) :=
  (List.range R.cfg.sockets).foldlM (checkSocketLocks R) ⟨R.flags, 0, rl1, rl2, tar, h⟩

/-- `rapl_init`: return code, flags and host.  `storage` is the return code of
    `rapl_storage`, whose statics are in `R`. -/
def raplInit (storage : Int) (h : Host) (rl1 rl2 : RaplLimit K)
    (tar : TurboActivationRatioData K) : Option (Int × Word × Host) :=
  if storage ≠ 0 then some (-1, R.flags, h)
  else (checkForLocks R h rl1 rl2 tar).map fun s => (s.numlocked, s.flags, s.host)

end Locks

end Libmsr
