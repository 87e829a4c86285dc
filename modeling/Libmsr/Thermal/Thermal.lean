/-
  Libmsr.Thermal.Thermal

  The thermal status and interrupt registers (src/msr_thermal.c): the functions
  that load their batches, `get_*` and `set_*`.

  A struct of arrays is a function from the core or socket to the elements of the
  arrays; `raw` is kept with the statics of the `store_*` function.
-/
import Libmsr.Core.BatchAccess
import Libmsr.Rapl.Units

namespace Libmsr

/-! ## Registers -/

/-- Whether each core has the register or each socket. -/
inductive ThermScope where
  | core
  | package
  deriving Repr, DecidableEq

/-- `num_cores` or `num_sockets`. -/
def ThermScope.count (cfg : CoreConfig) : ThermScope → Nat
  | .core => cfg.sockets * cfg.coresPerSocket
  | .package => cfg.sockets

/-- `load_core_batch` or `load_socket_batch`. -/
def ThermScope.load (cfg : CoreConfig) (g : Topo) (st : BatchStorage) (msr : Nat)
    (val : Option (List (Option Ptr))) (batchnum : Nat) :
    ThermScope → Option (Int × Option (List (Option Ptr)) × BatchStorage)
  | .core => loadCoreBatch cfg g st msr val batchnum
  | .package => loadSocketBatch cfg g st msr val batchnum

/-- A thermal register and its batch number. -/
structure ThermRegister where
  scope : ThermScope
  msr : Nat
  batch : Nat
  deriving Repr, DecidableEq

/-- IA32_THERM_STATUS and `THERM_STAT`. -/
def thermStatus : ThermRegister := ⟨.core, 0x19C, 8⟩

/-- IA32_THERM_INTERRUPT and `THERM_INTERR`. -/
def thermInterrupt : ThermRegister := ⟨.core, 0x19B, 9⟩

/-- IA32_PACKAGE_THERM_STATUS and `PKG_THERM_STAT`. -/
def packageThermStatus : ThermRegister := ⟨.package, 0x1B1, 10⟩

/-- IA32_PACKAGE_THERM_INTERRUPT and `PKG_THERM_INTERR`. -/
def packageThermInterrupt : ThermRegister := ⟨.package, 0x1B2, 11⟩

/-- The batches, the host, and the statics of the register's `store_*` function. -/
structure ThermState where
  world : BatchWorld
  raw : List (Option Ptr)
  init : Bool

/-! ## What the functions have in common -/

/-- `store_*`, with the `init_*` it calls. -/
def storeTherm (P : Platform) (r : ThermRegister) (s : ThermState) : Option ThermState :=
  if s.init then some s
  else do
    let count := r.scope.count P.cfg
    let (_, st) ← allocateBatch s.world.st r.batch count
    let (_, raw, st) ←
      r.scope.load P.cfg P.topo st r.msr (some (List.replicate count none)) r.batch
    -- `init` is set whatever the load returned
    some ⟨{ s.world with st := st }, raw.getD [], true⟩

/-- Loop body of `get_*`: `*s->raw[i]` is decoded into element `i`. -/
def getThermBody {α : Type} (w : BatchWorld) (batchnum : Nat) (raw : List (Option Ptr))
    (decode : Word → α) (fields : Nat → α) (i : Nat) : Option (Nat → α) := do
  let p ← ptrAt raw i
  let x ← w.st.load batchnum p
  some (Function.update fields i (decode x))

/-- `get_*`: read the batch and decode every element. -/
def getTherm {α : Type} (P : Platform) (r : ThermRegister) (s : ThermState) (decode : Word → α)
    (fields : Nat → α) : Option (ThermState × (Nat → α)) := do
  let w ← s.world.readBatch P r.batch
  let fields ← (List.range (r.scope.count P.cfg)).foldlM
    (getThermBody w r.batch s.raw decode) fields
  some ({ s with world := w }, fields)

/-- `set_*`: read the batch, change every element, write the batch. -/
def setTherm (P : Platform) (r : ThermRegister) (s : ThermState) (f : Nat → Word → Word) :
    Option ThermState := do
  let w ← s.world.readBatch P r.batch
  let w ← w.modifyEach r.batch s.raw (r.scope.count P.cfg) f
  let w ← w.writeBatch P r.batch
  some { s with world := w }

/-- `(x & (~(mask<<n))) | (val << k)`, where all but `x` are `int`s. -/
def replaceBits (x : Word) (mask : BitVec 32) (n : Nat) (val : BitVec 32) (k : Nat) : Word :=
  (x &&& (~~~(mask <<< n)).signExtend 64) ||| (val <<< k).signExtend 64

/-- `MASK_VAL`, stored in an `int`. -/
def intField (x : Word) (m n : Nat) : BitVec 32 := (maskVal x m n).setWidth 32

/-! ## IA32_THERM_STATUS -/

/-- `struct therm_stat`, for one core. -/
structure ThermStat where
  status : BitVec 32
  statusLog : BitVec 32
  prochotOrForceprEvent : BitVec 32
  prochotOrForceprLog : BitVec 32
  critTempStatus : BitVec 32
  critTempLog : BitVec 32
  thermThresh1Status : BitVec 32
  thermThresh1Log : BitVec 32
  thermThresh2Status : BitVec 32
  thermThresh2Log : BitVec 32
  powerLimitStatus : BitVec 32
  powerNotificationLog : BitVec 32
  readout : BitVec 32
  resolutionDegCelsius : BitVec 32
  readoutValid : BitVec 32
  deriving Repr, DecidableEq

/-- Loop body of `get_therm_stat`. -/
def ThermStat.ofMsr (x : Word) : ThermStat where
  status := intField x 0 0
  statusLog := intField x 1 1
  prochotOrForceprEvent := intField x 2 2
  prochotOrForceprLog := intField x 3 3
  critTempStatus := intField x 4 4
  critTempLog := intField x 5 5
  thermThresh1Status := intField x 6 6
  thermThresh1Log := intField x 7 7
  thermThresh2Status := intField x 8 8
  thermThresh2Log := intField x 9 9
  powerLimitStatus := intField x 10 10
  powerNotificationLog := intField x 11 11
  readout := intField x 22 16
  resolutionDegCelsius := intField x 30 27
  readoutValid := intField x 31 31

/-- Loop body of `set_therm_stat`.  Every log is shifted by 1. -/
def ThermStat.toMsr (s : ThermStat) (x : Word) : Word :=
  let x := replaceBits x 1 1 s.statusLog 1
  let x := replaceBits x 1 3 s.prochotOrForceprLog 1
  let x := replaceBits x 1 5 s.critTempLog 1
  let x := replaceBits x 1 7 s.thermThresh1Log 1
  let x := replaceBits x 1 9 s.thermThresh2Log 1
  replaceBits x 1 11 s.powerNotificationLog 1

/-- `store_therm_stat`. -/
def storeThermStat (P : Platform) (s : ThermState) : Option ThermState :=
  storeTherm P thermStatus s

/-- `get_therm_stat`. -/
def getThermStat (P : Platform) (s : ThermState) (fields : Nat → ThermStat) :
    Option (ThermState × (Nat → ThermStat)) :=
  getTherm P thermStatus s ThermStat.ofMsr fields

/-- `set_therm_stat`. -/
def setThermStat (P : Platform) (s : ThermState) (fields : Nat → ThermStat) :
    Option ThermState :=
  setTherm P thermStatus s fun i => (fields i).toMsr

/-! ## IA32_PACKAGE_THERM_STATUS -/

/-- `struct pkg_therm_stat`, for one socket. -/
structure PkgThermStat where
  status : BitVec 32
  statusLog : BitVec 32
  prochotEvent : BitVec 32
  prochotLog : BitVec 32
  critTempStatus : BitVec 32
  critTempLog : BitVec 32
  thermThresh1Status : BitVec 32
  thermThresh1Log : BitVec 32
  thermThresh2Status : BitVec 32
  thermThresh2Log : BitVec 32
  powerLimitStatus : BitVec 32
  powerNotificationLog : BitVec 32
  readout : BitVec 32
  deriving Repr, DecidableEq

/-- Loop body of `get_pkg_therm_stat`. -/
def PkgThermStat.ofMsr (x : Word) : PkgThermStat where
  status := intField x 0 0
  statusLog := intField x 1 1
  prochotEvent := intField x 2 2
  prochotLog := intField x 3 3
  critTempStatus := intField x 4 4
  critTempLog := intField x 5 5
  thermThresh1Status := intField x 6 6
  thermThresh1Log := intField x 7 7
  thermThresh2Status := intField x 8 8
  thermThresh2Log := intField x 9 9
  powerLimitStatus := intField x 10 10
  powerNotificationLog := intField x 11 11
  readout := intField x 22 16

/-- Loop body of `set_pkg_therm_stat`. -/
def PkgThermStat.toMsr (s : PkgThermStat) (x : Word) : Word :=
  let x := replaceBits x 1 1 s.statusLog 1
  let x := replaceBits x 1 3 s.prochotLog 3
  let x := replaceBits x 1 5 s.critTempLog 5
  let x := replaceBits x 1 7 s.thermThresh1Log 7
  let x := replaceBits x 1 9 s.thermThresh2Log 9
  replaceBits x 1 11 s.powerNotificationLog 11

/-- `store_pkg_therm_stat`. -/
def storePkgThermStat (P : Platform) (s : ThermState) : Option ThermState :=
  storeTherm P packageThermStatus s

/-- `get_pkg_therm_stat`. -/
def getPkgThermStat (P : Platform) (s : ThermState) (fields : Nat → PkgThermStat) :
    Option (ThermState × (Nat → PkgThermStat)) :=
  getTherm P packageThermStatus s PkgThermStat.ofMsr fields

/-- `set_pkg_therm_stat`. -/
def setPkgThermStat (P : Platform) (s : ThermState) (fields : Nat → PkgThermStat) :
    Option ThermState :=
  setTherm P packageThermStatus s fun i => (fields i).toMsr

/-! ## IA32_THERM_INTERRUPT -/

/-- `struct therm_interrupt`, for one core. -/
structure ThermInterrupt where
  highTempEnable : BitVec 32
  lowTempEnable : BitVec 32
  prochotEnable : BitVec 32
  forceprEnable : BitVec 32
  critTempEnable : BitVec 32
  thresh1Val : BitVec 32
  thresh1Enable : BitVec 32
  thresh2Val : BitVec 32
  thresh2Enable : BitVec 32
  pwrLimitNotificationEnable : BitVec 32
  deriving Repr, DecidableEq

/-- Loop body of `get_therm_interrupt`. -/
def ThermInterrupt.ofMsr (x : Word) : ThermInterrupt where
  highTempEnable := intField x 0 0
  lowTempEnable := intField x 1 1
  prochotEnable := intField x 2 2
  forceprEnable := intField x 3 3
  critTempEnable := intField x 4 4
  thresh1Val := intField x 14 8
  thresh1Enable := intField x 15 15
  thresh2Val := intField x 22 16
  thresh2Enable := intField x 23 23
  pwrLimitNotificationEnable := intField x 24 24

/-- Loop body of `set_therm_interrupt`.  Of the 7 bits of a threshold the lower 3
    are cleared. -/
def ThermInterrupt.toMsr (s : ThermInterrupt) (x : Word) : Word :=
  let x := replaceBits x 1 0 s.highTempEnable 0
  let x := replaceBits x 1 1 s.lowTempEnable 1
  let x := replaceBits x 1 2 s.prochotEnable 2
  let x := replaceBits x 1 3 s.forceprEnable 3
  let x := replaceBits x 1 4 s.critTempEnable 4
  let x := replaceBits x 7 8 s.thresh1Val 8
  let x := replaceBits x 1 15 s.thresh1Enable 15
  let x := replaceBits x 7 16 s.thresh2Val 16
  let x := replaceBits x 1 23 s.thresh2Enable 23
  replaceBits x 1 24 s.pwrLimitNotificationEnable 24

/-- `store_therm_interrupt`. -/
def storeThermInterrupt (P : Platform) (s : ThermState) : Option ThermState :=
  storeTherm P thermInterrupt s

/-- `get_therm_interrupt`. -/
def getThermInterrupt (P : Platform) (s : ThermState) (fields : Nat → ThermInterrupt) :
    Option (ThermState × (Nat → ThermInterrupt)) :=
  getTherm P thermInterrupt s ThermInterrupt.ofMsr fields

/-- `set_therm_interrupt`. -/
def setThermInterrupt (P : Platform) (s : ThermState) (fields : Nat → ThermInterrupt) :
    Option ThermState :=
  setTherm P thermInterrupt s fun i => (fields i).toMsr

/-! ## IA32_PACKAGE_THERM_INTERRUPT -/

/-- `struct pkg_therm_interrupt`, for one socket. -/
structure PkgThermInterrupt where
  highTempEnable : BitVec 32
  lowTempEnable : BitVec 32
  prochotEnable : BitVec 32
  critTempEnable : BitVec 32
  thresh1Val : BitVec 32
  thresh1Enable : BitVec 32
  thresh2Val : BitVec 32
  thresh2Enable : BitVec 32
  pwrLimitNotificationEnable : BitVec 32
  deriving Repr, DecidableEq

/-- Loop body of `get_pkg_therm_interrupt`. -/
def PkgThermInterrupt.ofMsr (x : Word) : PkgThermInterrupt where
  highTempEnable := intField x 0 0
  lowTempEnable := intField x 1 1
  prochotEnable := intField x 2 2
  critTempEnable := intField x 4 4
  thresh1Val := intField x 14 8
  thresh1Enable := intField x 15 15
  thresh2Val := intField x 22 16
  thresh2Enable := intField x 23 23
  pwrLimitNotificationEnable := intField x 24 24

/-- Loop body of `set_pkg_therm_interrupt`, with the same masks for the
    thresholds. -/
def PkgThermInterrupt.toMsr (s : PkgThermInterrupt) (x : Word) : Word :=
  let x := replaceBits x 1 0 s.highTempEnable 0
  let x := replaceBits x 1 1 s.lowTempEnable 1
  let x := replaceBits x 1 2 s.prochotEnable 2
  let x := replaceBits x 1 4 s.critTempEnable 4
  let x := replaceBits x 7 8 s.thresh1Val 8
  let x := replaceBits x 1 15 s.thresh1Enable 15
  let x := replaceBits x 7 16 s.thresh2Val 16
  let x := replaceBits x 1 23 s.thresh2Enable 23
  replaceBits x 1 24 s.pwrLimitNotificationEnable 24

/-- `store_pkg_therm_interrupt`. -/
def storePkgThermInterrupt (P : Platform) (s : ThermState) : Option ThermState :=
  storeTherm P packageThermInterrupt s

/-- `get_pkg_therm_interrupt`. -/
def getPkgThermInterrupt (P : Platform) (s : ThermState) (fields : Nat → PkgThermInterrupt) :
    Option (ThermState × (Nat → PkgThermInterrupt)) :=
  getTherm P packageThermInterrupt s PkgThermInterrupt.ofMsr fields

/-- `set_pkg_therm_interrupt`. -/
def setPkgThermInterrupt (P : Platform) (s : ThermState) (fields : Nat → PkgThermInterrupt) :
    Option ThermState :=
  setTherm P packageThermInterrupt s fun i => (fields i).toMsr

/-! ## Calls -/

/-- A call on one of the registers, or a change the hardware makes by itself. -/
inductive ThermCall (α : Type) where
  | store
  | get (fields : Nat → α)
  | set (fields : Nat → α)
  | hardware (regs : Nat → Nat → Word)

/-- The state after a call, for the register's `decode` and `encode`.  The struct
    that is passed to `get_*` and `set_*` is the one of `store_*`. -/
def thermStep {α : Type} (P : Platform) (r : ThermRegister) (decode : Word → α)
    (encode : α → Word → Word) (s : ThermState) : ThermCall α → Option ThermState
  | .store => storeTherm P r s
  | .get fields => if s.init then (getTherm P r s decode fields).map Prod.fst else none
  | .set fields => if s.init then setTherm P r s fun i => encode (fields i) else none
  | .hardware regs =>
    some { s with world := { s.world with host := { s.world.host with regs := regs } } }

end Libmsr
