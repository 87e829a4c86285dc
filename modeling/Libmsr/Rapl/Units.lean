/-
  Libmsr.Rapl.Units

  RAPL units and the conversions between register fields and human values:
  `MASK_VAL` (include/cpuid.h), `struct rapl_units`, the unit computation of
  `get_rapl_power_unit`, and `translate` (src/msr_rapl.c).

  A C `double` is an element of an ordered field `K` with a floor, without
  rounding.  A conversion of a `double` to `uint64_t` that C leaves undefined
  has the result `none`.
-/
import Libmsr.Core.Topology
import Libmsr.Lib.Log2
import Libmsr.Lib.Words

namespace Libmsr

/-! ## Bit fields -/

/-- `MASK_RANGE(m,n)`. -/
def maskRange (m n : Nat) : Word := ((1 : Word) <<< (m - n + 1) - 1) <<< n

/-- `MASK_VAL(x,m,n)`. -/
def maskVal (x : Word) (m n : Nat) : Word := (x &&& maskRange m n) >>> n

/-- `1 << n` in an `int`: bit 31 is the sign. -/
def intShiftOne (n : Nat) : Int := ((1 : BitVec 32) <<< n).toInt

theorem intShiftOne_of_lt {n : Nat} (h : n < 31) : intShiftOne n = 2 ^ n := by
  have hpow : 2 ^ n < 2 ^ 31 := Nat.pow_lt_pow_right (by omega) h
  have hnat : ((1 : BitVec 32) <<< n).toNat = 2 ^ n := by
    rw [BitVec.toNat_shiftLeft, Nat.shiftLeft_eq]
    show 1 * 2 ^ n % 2 ^ 32 = 2 ^ n
    omega
  rw [intShiftOne, BitVec.toInt_eq_toNat_of_lt (by rw [hnat]; omega), hnat, Nat.cast_pow]
  rfl

theorem intShiftOne_31 : intShiftOne 31 = -2 ^ 31 := by decide

/-! ## Units -/

/-- `struct rapl_units`. -/
structure RaplUnits (K : Type) where
  msrRaplPowerUnit : Word
  joules : K
  seconds : K
  watts : K

section Units

variable {K : Type} [Field K]

/-- The units of one socket in `get_rapl_power_unit`, from the value of its
    MSR_RAPL_POWER_UNIT.  Seconds and joules are stored as inverses. -/
def RaplUnits.ofMsr (raw : Word) : RaplUnits K where
  msrRaplPowerUnit := raw
  seconds := (intShiftOne (maskVal raw 19 16).toNat : K)
  joules := (intShiftOne (maskVal raw 12 8).toNat : K)
  watts := 1 / (intShiftOne (maskVal raw 3 0).toNat : K)

end Units

/-! ## translate -/

/-- `libmsr_unit_conversions_e`. -/
inductive UnitConversion where
  | bitsToWatts
  | wattsToBits
  | bitsToJoules
  | joulesToBits
  | bitsToSecondsStd
  | secondsToBitsStd
  | bitsToSecondsHaswell
  | secondsToBitsHaswell
  | bitsToJoulesDram
  deriving Repr, DecidableEq

/-- The models whose DRAM energy unit is fixed. -/
def fixedDramUnit (model : Nat) : Bool := model = 0x3F || model = 0x4F || model = 0x55

section Translate

variable {K : Type} [Field K] [LinearOrder K] [IsStrictOrderedRing K] [FloorRing K]

/-- `(uint64_t)x`. -/
def toU64 (x : K) : Option Word :=
  if -1 < x ∧ x < 2 ^ 64 then some (BitVec.ofNat 64 ⌊x⌋₊) else none

/-- The multiplier chosen from the mantissa of the logarithm of `x`. -/
def timevalZ (x : K) : Word :=
  if Log2.FracGt x 3 20 ∧ ¬ Log2.FracGt x 9 20 then 1
  else if Log2.FracGt x 9 20 ∧ ¬ Log2.FracGt x 7 10 then 2
  else if Log2.FracGt x 7 10 then 3
  else 0

/-- The time field for `x` time units: the whole number part of the logarithm
    and the multiplier.  The logarithm converts to `uint64_t` when it is above -1
    and below `2 ^ 64`. -/
def secondsToBits (x : K) : Option Word :=
  if 1 / 2 < x ∧ Log2.trunc x < 2 ^ 64 then
    some (BitVec.ofNat 64 (Log2.trunc x) ||| (timevalZ x <<< 5))
  else none

/-- `translate`: return code, `*bits` and `*units`. -/
def translate (model : Nat) (ru : List (RaplUnits K)) (socket : Nat) (bits : Word) (units : K) :
    UnitConversion → Option (Int × Word × K)
  | .bitsToWatts => do
    let u ← ru[socket]?
    some (0, bits, (bits.toNat : K) * u.watts)
  | .bitsToJoulesDram =>
    if fixedDramUnit model then some (0, bits, (bits.toNat : K) / 65536)
    else do
      -- not one of these: the same as for the package
      let u ← ru[socket]?
      some (0, bits, (bits.toNat : K) / u.joules)
  | .bitsToJoules => do
    let u ← ru[socket]?
    some (0, bits, (bits.toNat : K) / u.joules)
  | .wattsToBits => do
    let u ← ru[socket]?
    let bits ← toU64 (units / u.watts)
    some (0, bits, units)
  | .joulesToBits => do
    let u ← ru[socket]?
    let bits ← toU64 (units * u.joules)
    some (0, bits, units)
  | .bitsToSecondsStd => do
    let u ← ru[socket]?
    let timevalY := bits &&& 0x1F
    let timevalZ := (bits &&& 0x60) >>> 5
    some (0, bits, (1 + 1 / 4 * (timevalZ.toNat : K)) * 2 ^ timevalY.toNat / u.seconds)
  | .secondsToBitsStd => do
    let u ← ru[socket]?
    let bits ← secondsToBits (units * u.seconds)
    some (0, bits, units)
  -- "Unknown value.  This is bad."
  | .bitsToSecondsHaswell => some (0, -1, -1)
  | .secondsToBitsHaswell => some (0, -1, -1)

end Translate

end Libmsr
