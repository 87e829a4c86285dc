/-
  Libmsr.Rapl.Limits

  Power limits: `calc_rapl_from_bits`, `calc_rapl_bits`,
  `calc_pkg_rapl_limit`, `calc_std_rapl_limit`, `set_pkg_rapl_limit`,
  `get_pkg_rapl_limit`, `set_dram_rapl_limit` and `get_dram_rapl_limit`
  (src/msr_rapl.c).

  A limit pointer that is NULL is `none`.  The result `none` of a function
  stands for a step without defined outcome: a conversion out of range or an
  access outside the units array.
-/
import Libmsr.Core.Device
import Libmsr.Rapl.Units

namespace Libmsr

/-! ## Registers and availability flags -/

def msrPkgPowerLimit : Nat := 0x610
def msrDramPowerLimit : Nat := 0x618

def pkgPowerLimit : Word := 0x2
def dramPowerLimit : Word := 0x20

/-- The availability flags announce the register. -/
def announces (flags reg : Word) : Bool := flags &&& reg ≠ 0

/-! ## Limits -/

/-- `struct rapl_limit`. -/
structure RaplLimit (K : Type) where
  bits : Word
  watts : K
  seconds : K

/-- The static state `rapl_init` leaves behind: topology, CPU model, flags, and
    the units that `translate` fetched on its first call. -/
structure RaplSetup (K : Type) where
  cfg : CoreConfig
  topo : Topo
  model : Nat
  flags : Word
  ru : List (RaplUnits K)

section Limits

variable {K : Type} [Field K] [LinearOrder K] [IsStrictOrderedRing K] [FloorRing K]
  (R : RaplSetup K)

/-- `calc_rapl_from_bits`. -/
def calcRaplFromBits (socket : Nat) (limit : RaplLimit K) (offset : Nat) :
    Option (Int × RaplLimit K) := do
  let wattsBits := maskVal limit.bits (14 + offset) (0 + offset)
  let secondsBits := maskVal limit.bits (23 + offset) (17 + offset)
  let (ret, _, watts) ← translate R.model R.ru socket wattsBits limit.watts .bitsToWatts
  let limit := { limit with watts := watts }
  let (ret, limit) ←
    if offset < 32 then do
      let (ret', _, seconds) ←
        translate R.model R.ru socket secondsBits limit.seconds .bitsToSecondsStd
      some (ret + ret', { limit with seconds := seconds })
    else some (ret, { limit with seconds := (secondsBits.toNat : K) })
  if ret < 0 then some (ret, limit) else some (0, limit)

/-- `calc_rapl_bits`.  The bounds check for the time window is commented out in
    the source. -/
def calcRaplBits (socket : Nat) (limit : RaplLimit K) (offset : Nat) :
    Option (Int × RaplLimit K) := do
  let wattsBits := maskVal limit.bits (14 + offset) (0 + offset)
  let secondsBits := maskVal limit.bits (23 + offset) (17 + offset)
  let (secondsBits, seconds) ←
    if offset ≥ 32 then do
      let secondsBits ← toU64 limit.seconds
      some (secondsBits, limit.seconds)
    else do
      let (_, secondsBits, seconds) ←
        translate R.model R.ru socket secondsBits limit.seconds .secondsToBitsStd
      some (secondsBits, seconds)
  let (_, wattsBits, watts) ←
    translate R.model R.ru socket wattsBits limit.watts .wattsToBits
  let limit := { limit with seconds := seconds, watts := watts }
  if (wattsBits.toNat : K) > (2 ^ 15 - 1 : Nat) then some (-1, limit)
  else
    let wattsBits := wattsBits <<< (0 + offset)
    let secondsBits := secondsBits <<< (17 + offset)
    some (0, { limit with bits := limit.bits ||| wattsBits ||| secondsBits })

/-- One limit of `calc_pkg_rapl_limit`, and all of `calc_std_rapl_limit`: raw
    bits are translated to values, values to bits. -/
def calcRaplLimit (socket : Nat) (limit : RaplLimit K) (offset : Nat) :
    Option (Int × RaplLimit K) := do
  let (rc, limit) ←
    if limit.bits ≠ 0 then calcRaplFromBits R socket limit offset
    else calcRaplBits R socket limit offset
  some (if rc ≠ 0 then -1 else 0, limit)

/-- `calc_pkg_rapl_limit`. -/
def calcPkgRaplLimit (socket : Nat) (limit1 limit2 : Option (RaplLimit K)) :
    Option (Int × Option (RaplLimit K) × Option (RaplLimit K)) := do
  let (rc, limit1) ←
    match limit1 with
    | none => some (0, none)
    | some l => (calcRaplLimit R socket l 0).map fun r => (r.1, some r.2)
  -- the second limit is not looked at
  if rc ≠ 0 then some (-1, limit1, limit2)
  else do
    let (rc, limit2) ←
      match limit2 with
      | none => some (0, none)
      | some l => (calcRaplLimit R socket l 32).map fun r => (r.1, some r.2)
    if rc ≠ 0 then some (-1, limit1, limit2) else some (0, limit1, limit2)

/-- `calc_std_rapl_limit`. -/
def calcStdRaplLimit (socket : Nat) (limit : RaplLimit K) : Option (Int × RaplLimit K) :=
  calcRaplLimit R socket limit 0

/-- Outcome of a call on the package limits: return code, the caller's structs and the
    host. -/
structure PkgLimitResult (K : Type) where
  rc : Int
  limit1 : Option (RaplLimit K)
  limit2 : Option (RaplLimit K)
  host : Host

/-- In `set_pkg_rapl_limit`: if there is only one limit, grab the other existing
    one.  Return code of the read, what is kept of the value, and host. -/
def grabOtherLimit (h : Host) (socket : BitVec 32) (limit1 limit2 : Option (RaplLimit K)) :
    Int × Word × Host :=
  if limit1.isNone then
    -- keep the lower limit, so mask off all other bits
    let (ret, currentval, h) := readMsrByCoord R.cfg R.topo h socket 0 0 msrPkgPowerLimit 0
    (ret, currentval &&& 0x00000000FFFFFFFF, h)
  else if limit2.isNone then
    -- keep the upper limit
    let (ret, currentval, h) := readMsrByCoord R.cfg R.topo h socket 0 0 msrPkgPowerLimit 0
    (ret, currentval &&& 0xFFFFFFFF00000000, h)
  else (0, 0, h)

/-- In `set_pkg_rapl_limit`: enable the limits (15 and 47) and turn on clamping
    (16 and 48). -/
def enablePkgLimits (pkgLimit : Word) (limit1 limit2 : Option (RaplLimit K)) : Word :=
  let pkgLimit :=
    match limit1 with
    | none => pkgLimit
    | some l => pkgLimit ||| (l.bits ||| ((1 : Word) <<< 15) ||| ((1 : Word) <<< 16))
  match limit2 with
  | none => pkgLimit
  | some l => pkgLimit ||| (l.bits ||| ((1 : Word) <<< 47) ||| ((1 : Word) <<< 48))

/-- `set_pkg_rapl_limit`. -/
def setPkgRaplLimit (h : Host) (socket : BitVec 32) (limit1 limit2 : Option (RaplLimit K)) :
    Option (PkgLimitResult K) :=
  if announces R.flags pkgPowerLimit then do
    let (ret, pkgLimit, h) := grabOtherLimit R h socket limit1 limit2
    let (rc, limit1, limit2) ← calcPkgRaplLimit R socket.toNat limit1 limit2
    if rc ≠ 0 then some ⟨-1, limit1, limit2, h⟩
    else
      if limit1.isSome || limit2.isSome then
        let (ret', h) := writeMsrByCoord R.cfg R.topo h socket 0 0 msrPkgPowerLimit
          (enablePkgLimits pkgLimit limit1 limit2)
        some ⟨ret + ret', limit1, limit2, h⟩
      else some ⟨ret, limit1, limit2, h⟩
  else some ⟨-1, limit1, limit2, h⟩

/-- In `get_pkg_rapl_limit`: read the register into `bits` of a limit that is not
    NULL. -/
def readLimitBits (h : Host) (socket : BitVec 32) :
    Option (RaplLimit K) → Option (RaplLimit K) × Host
  | none => (none, h)
  | some l =>
    let (_, bits, h) := readMsrByCoord R.cfg R.topo h socket 0 0 msrPkgPowerLimit l.bits
    (some { l with bits := bits }, h)

/-- `get_pkg_rapl_limit`.  The return codes of the reads and of
    `calc_pkg_rapl_limit` are dropped. -/
def getPkgRaplLimit (h : Host) (socket : BitVec 32) (limit1 limit2 : Option (RaplLimit K)) :
    Option (PkgLimitResult K) :=
  if announces R.flags pkgPowerLimit then do
    let (limit1, h) := readLimitBits R h socket limit1
    let (limit2, h) := readLimitBits R h socket limit2
    let (_, limit1, limit2) ← calcPkgRaplLimit R socket.toNat limit1 limit2
    some ⟨0, limit1, limit2, h⟩
  else some ⟨-1, limit1, limit2, h⟩

/-- Outcome of a call on the DRAM limit. -/
structure DramLimitResult (K : Type) where
  rc : Int
  limit : Option (RaplLimit K)
  host : Host

/-- `set_dram_rapl_limit`.  The return code of the write is dropped. -/
def setDramRaplLimit (h : Host) (socket : BitVec 32) (limit : Option (RaplLimit K)) :
    Option (DramLimitResult K) :=
  if announces R.flags dramPowerLimit then
    match limit with
    | none => some ⟨0, none, h⟩
    | some limit => do
      let (rc, limit) ← calcStdRaplLimit R socket.toNat limit
      if rc ≠ 0 then some ⟨-1, some limit, h⟩
      else
        let dramLimit := limit.bits ||| ((1 : Word) <<< 15)
        let (_, h) := writeMsrByCoord R.cfg R.topo h socket 0 0 msrDramPowerLimit dramLimit
        some ⟨0, some limit, h⟩
  else some ⟨-1, limit, h⟩

/-- `get_dram_rapl_limit`.  The return codes of the read and of
    `calc_std_rapl_limit` are dropped. -/
def getDramRaplLimit (h : Host) (socket : BitVec 32) (limit : Option (RaplLimit K)) :
    Option (DramLimitResult K) :=
  match limit with
  | none => some ⟨0, none, h⟩
  | some l =>
    if announces R.flags dramPowerLimit then do
      let (_, bits, h) := readMsrByCoord R.cfg R.topo h socket 0 0 msrDramPowerLimit l.bits
      let (_, l) ← calcStdRaplLimit R socket.toNat { l with bits := bits }
      some ⟨0, some l, h⟩
    else some ⟨-1, some l, h⟩

end Limits

end Libmsr
