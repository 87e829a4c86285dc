/-
  Libmsr.Thermal.Dump

  The terse and the verbose thermal dump (src/msr_thermal.c): a function that prints
  the labels and a function that prints the values, for each of the two.

  The statics of the `store_*` functions are kept by register.  The pointers in a
  dump are set together, so one flag says whether they are set.
-/
import Libmsr.Lib.Listing
import Libmsr.Thermal.Thermal

namespace Libmsr

open Listing

/-! ## MSR_TEMPERATURE_TARGET -/

/-- MSR_TEMPERATURE_TARGET and `TEMP_TARGET`. -/
def temperatureTarget : ThermRegister := ⟨.package, 0x1A2, 12⟩

/-- Loop body of `get_temp_target`. -/
def tempTargetOfMsr (x : Word) : Word := maskVal x 23 16

/-- `store_temp_target`. -/
def storeTempTarget (P : Platform) (s : ThermState) : Option ThermState :=
  storeTherm P temperatureTarget s

/-- `get_temp_target`. -/
def getTempTarget (P : Platform) (s : ThermState) (fields : Nat → Word) :
    Option (ThermState × (Nat → Word)) :=
  getTherm P temperatureTarget s tempTargetOfMsr fields

/-! ## The statics of the thermal functions -/

/-- The batches, the host, and the statics of the five `store_*` functions. -/
structure ThermBatches where
  world : BatchWorld
  raw : ThermRegister → List (Option Ptr)
  init : ThermRegister → Bool

/-- What the functions on a register work with. -/
def ThermBatches.view (b : ThermBatches) (r : ThermRegister) : ThermState :=
  ⟨b.world, b.raw r, b.init r⟩

/-- After a function on a register. -/
def ThermBatches.put (b : ThermBatches) (r : ThermRegister) (t : ThermState) : ThermBatches where
  world := t.world
  raw := Function.update b.raw r t.raw
  init := Function.update b.init r t.init

/-- The registers' structs, and the statics of `is_init` and of the dumps. -/
structure ThermData where
  batches : ThermBatches
  tempTarget : Nat → Word
  thermStat : Nat → ThermStat
  thermInterrupt : Nat → ThermInterrupt
  pkgThermStat : Nat → PkgThermStat
  pkgThermInterrupt : Nat → PkgThermInterrupt
  /-- `t_target` of `is_init` is not null. -/
  isInitTarget : Bool
  /-- `init` of `is_init`. -/
  isInit : Bool
  /-- The pointers of `dump_therm_data_terse` are not null. -/
  terse : Bool
  /-- The pointers of `dump_therm_data_verbose` are not null. -/
  verbose : Bool

namespace ThermData

variable (P : Platform) (s : ThermData)

/-- A `store_*` function. -/
def store (r : ThermRegister) (f : Platform → ThermState → Option ThermState) :
    Option ThermData :=
  (f P (s.batches.view r)).map fun t => { s with batches := s.batches.put r t }

/-- A `get_*` function, on a struct that `set` replaces. -/
def get {α : Type} (r : ThermRegister)
    (f : Platform → ThermState → (Nat → α) → Option (ThermState × (Nat → α)))
    (fields : Nat → α) (set : ThermData → (Nat → α) → ThermData) : Option ThermData :=
  (f P (s.batches.view r) fields).map fun (t, got) =>
    set { s with batches := s.batches.put r t } got

/-- `get_temp_target`. -/
def getTempTarget : Option ThermData :=
  s.get P temperatureTarget Libmsr.getTempTarget s.tempTarget
    fun s got => { s with tempTarget := got }

/-- `get_therm_stat`. -/
def getThermStat : Option ThermData :=
  s.get P thermStatus Libmsr.getThermStat s.thermStat fun s got => { s with thermStat := got }

/-- `get_therm_interrupt`. -/
def getThermInterrupt : Option ThermData :=
  s.get P Libmsr.thermInterrupt Libmsr.getThermInterrupt s.thermInterrupt
    fun s got => { s with thermInterrupt := got }

/-- `get_pkg_therm_stat`. -/
def getPkgThermStat : Option ThermData :=
  s.get P packageThermStatus Libmsr.getPkgThermStat s.pkgThermStat
    fun s got => { s with pkgThermStat := got }

/-- `get_pkg_therm_interrupt`. -/
def getPkgThermInterrupt : Option ThermData :=
  s.get P packageThermInterrupt Libmsr.getPkgThermInterrupt s.pkgThermInterrupt
    fun s got => { s with pkgThermInterrupt := got }

/-- `is_init`: the pointer it needs. -/
def storeIsInit : Option ThermData :=
  if s.isInitTarget then some s
  else do
    let s ← s.store P temperatureTarget storeTempTarget
    some { s with isInitTarget := true }

/-- `is_init`: the temperature target is read once. -/
def isInitCall : Option ThermData := do
  let s ← s.storeIsInit P
  if s.isInit then some s
  else do
    let s ← s.getTempTarget P
    some { s with isInit := true }

end ThermData

/-! ## Labels -/

/-- What a label of a socket names. -/
inductive SocketLabel where
  | status
  | log
  | prochotEvent
  | prochotLog
  | critTempStatus
  | critTempLog
  | thermThresh1Status
  | thermThresh1Log
  | thermThresh2Status
  | thermThresh2Log
  | powerLimitStatus
  | powerNotificationLog
  | readout
  | tempC
  | highTempEnable
  | lowTempEnable
  | prochotEnable
  | critTempEnable
  | thresh1Val
  | thresh1ActualTempC
  | thresh1Enable
  | thresh2Val
  | thresh2ActualTempC
  | thresh2Enable
  | pwrLimitNotificationEnable
  deriving Repr, DecidableEq

/-- The label without `socket_` in front and its number behind. -/
def SocketLabel.name : SocketLabel → String
  | .status => "status"
  | .log => "log"
  | .prochotEvent => "PROCHOT_event"
  | .prochotLog => "PROCHOT_log"
  | .critTempStatus => "crit_temp_status"
  | .critTempLog => "crit_temp_log"
  | .thermThresh1Status => "therm_thresh1_status"
  | .thermThresh1Log => "therm_thresh1_log"
  | .thermThresh2Status => "therm_thresh2_status"
  | .thermThresh2Log => "therm_thresh2_log"
  | .powerLimitStatus => "power_limit_status"
  | .powerNotificationLog => "power_notification_log"
  | .readout => "readout"
  | .tempC => "TempC"
  | .highTempEnable => "high_temp_enable"
  | .lowTempEnable => "low_temp_enable"
  | .prochotEnable => "PROCHOT_enable"
  | .critTempEnable => "crit_temp_enable"
  | .thresh1Val => "thresh1_val"
  | .thresh1ActualTempC => "thresh1_actual_tempC"
  | .thresh1Enable => "thresh1_enable"
  | .thresh2Val => "thresh2_val"
  | .thresh2ActualTempC => "thresh2_actual_tempC"
  | .thresh2Enable => "thresh2_enable"
  | .pwrLimitNotificationEnable => "pwr_limit_notification_enable"

/-- What a label of a core names. -/
inductive CoreLabel where
  | status
  | statusLog
  | prochotOrForceprEvent
  | prochotOrForceprLog
  | critTempStatus
  | critTempLog
  | thermThresh1Status
  | thermThresh1Log
  | thermThresh2Status
  | thermThresh2Log
  | powerLimitStatus
  | powerNotificationLog
  | readout
  | tempC
  | resolutionDegCelsius
  | readoutValid
  | highTempEnable
  | lowTempEnable
  | prochotEnable
  | forceprEnable
  | critTempEnable
  | thresh1Val
  | thresh1ActualTempC
  | thresh1Enable
  | thresh2Val
  | thresh2ActualTempC
  | thresh2Enable
  | pwrLimitNotificationEnable
  deriving Repr, DecidableEq

/-- The label without `core_` in front and its numbers behind. -/
def CoreLabel.name : CoreLabel → String
  | .status => "status"
  | .statusLog => "status_log"
  | .prochotOrForceprEvent => "PROCHOT_or_FORCEPR_event"
  | .prochotOrForceprLog => "PROCHOT_or_FORCEPR_log"
  | .critTempStatus => "crit_temp_status"
  | .critTempLog => "crit_temp_log"
  | .thermThresh1Status => "therm_thresh1_status"
  | .thermThresh1Log => "therm_thresh1_log"
  | .thermThresh2Status => "therm_thresh2_status"
  | .thermThresh2Log => "therm_thresh2_log"
  | .powerLimitStatus => "power_limit_status"
  | .powerNotificationLog => "power_notification_log"
  | .readout => "readout"
  | .tempC => "TempC"
  | .resolutionDegCelsius => "resolution_deg_celsius"
  | .readoutValid => "readout_valid"
  | .highTempEnable => "high_temp_enable"
  | .lowTempEnable => "low_temp_enable"
  | .prochotEnable => "PROCHOT_enable"
  | .forceprEnable => "FORCEPR_enable"
  | .critTempEnable => "crit_temp_enable"
  | .thresh1Val => "thresh1_val"
  | .thresh1ActualTempC => "thresh1_actual_tempC"
  | .thresh1Enable => "thresh1_enable"
  | .thresh2Val => "thresh2_val"
  | .thresh2ActualTempC => "thresh2_actual_tempC"
  | .thresh2Enable => "thresh2_enable"
  | .pwrLimitNotificationEnable => "pwr_limit_notification_enable"

/-- A label with its numbers.  `temp` is the label of the terse dump. -/
inductive ThermLabel where
  | temp (socket core : Nat)
  | socket (label : SocketLabel) (socket : Nat)
  | core (label : CoreLabel) (socket core : Nat)
  deriving Repr, DecidableEq

/-- The label as it is printed, without the space behind it. -/
def ThermLabel.text : ThermLabel → String
  | .temp s c => numbered (numbered "TempC" s) c
  | .socket label s => numbered ("socket_" ++ label.name) s
  | .core label s c => numbered (numbered ("core_" ++ label.name) s) c

/-- The labels of one socket, in the order in which they are printed. -/
def socketLabels : List SocketLabel :=
  -- Package-Level Thermal Status Dump
  [.status, .log, .prochotEvent, .prochotLog, .critTempStatus, .critTempLog, .thermThresh1Status,
    .thermThresh1Log, .thermThresh2Status, .thermThresh2Log, .powerLimitStatus,
    .powerNotificationLog, .readout, .tempC,
  -- Package-Level Thermal Interrupt Dump
    .highTempEnable, .lowTempEnable, .prochotEnable, .critTempEnable, .thresh1Val,
    .thresh1ActualTempC, .thresh1Enable, .thresh2Val, .thresh2ActualTempC, .thresh2Enable,
    .pwrLimitNotificationEnable]

/-- The labels of one core, in the order in which they are printed. -/
def coreLabels : List CoreLabel :=
  -- Per-Core Thermal Status Dump
  [.status, .statusLog, .prochotOrForceprEvent, .prochotOrForceprLog, .critTempStatus,
    .critTempLog, .thermThresh1Status, .thermThresh1Log, .thermThresh2Status, .thermThresh2Log,
    .powerLimitStatus, .powerNotificationLog, .readout, .tempC, .resolutionDegCelsius,
    .readoutValid,
  -- Per-Core Thermal Interrupt Dump
    .highTempEnable, .lowTempEnable, .prochotEnable, .forceprEnable, .critTempEnable, .thresh1Val,
    .thresh1ActualTempC, .thresh1Enable, .thresh2Val, .thresh2ActualTempC, .thresh2Enable,
    .pwrLimitNotificationEnable]

/-- `dump_therm_data_terse_label`: the labels it prints. -/
def dumpThermDataTerseLabel (cfg : CoreConfig) : List String :=
  (List.range cfg.sockets).flatMap fun socket =>
    (List.range cfg.coresPerSocket).map fun core => (ThermLabel.temp socket core).text

/-- `dump_therm_data_verbose_label`: the labels it prints. -/
def dumpThermDataVerboseLabel (cfg : CoreConfig) : List String :=
  (List.range cfg.sockets).flatMap fun socket =>
    (socketLabels.map fun label => (ThermLabel.socket label socket).text) ++
      (List.range cfg.coresPerSocket).flatMap fun core =>
        coreLabels.map fun label => (ThermLabel.core label socket core).text

/-! ## Values -/

/-- `actTemp = temp_target - x`: the `int` is converted to `uint64_t`, and the
    difference back to `int`. -/
def actTemp (tempTarget : Word) (x : BitVec 32) : BitVec 32 :=
  (tempTarget - x.signExtend 64).setWidth 32

/-- The values that `dump_therm_data_verbose` prints for one socket. -/
def socketValues (tempTarget : Word) (stat : PkgThermStat) (interrupt : PkgThermInterrupt) :
    List (BitVec 32) :=
  [stat.status, stat.statusLog, stat.prochotEvent, stat.prochotLog, stat.critTempStatus,
    stat.critTempLog, stat.thermThresh1Status, stat.thermThresh1Log, stat.thermThresh2Status,
    stat.thermThresh2Log, stat.powerLimitStatus, stat.powerNotificationLog, stat.readout,
    actTemp tempTarget stat.readout,
    interrupt.highTempEnable, interrupt.lowTempEnable, interrupt.prochotEnable,
    interrupt.critTempEnable, interrupt.thresh1Val, actTemp tempTarget interrupt.thresh1Val,
    -- `thresh1_val` a second time
    interrupt.thresh1Enable, interrupt.thresh1Val, actTemp tempTarget interrupt.thresh2Val,
    interrupt.thresh2Enable, interrupt.pwrLimitNotificationEnable]

/-- The values that `dump_therm_data_verbose` prints for one core. -/
def coreValues (tempTarget : Word) (stat : ThermStat) (interrupt : ThermInterrupt) :
    List (BitVec 32) :=
  [stat.status, stat.statusLog, stat.prochotOrForceprEvent, stat.prochotOrForceprLog,
    stat.critTempStatus, stat.critTempLog, stat.thermThresh1Status, stat.thermThresh1Log,
    stat.thermThresh2Status, stat.thermThresh2Log, stat.powerLimitStatus,
    stat.powerNotificationLog, stat.readout, actTemp tempTarget stat.readout,
    stat.resolutionDegCelsius, stat.readoutValid,
    interrupt.highTempEnable, interrupt.lowTempEnable, interrupt.prochotEnable,
    interrupt.forceprEnable, interrupt.critTempEnable, interrupt.thresh1Val,
    actTemp tempTarget interrupt.thresh1Val, interrupt.thresh1Enable, interrupt.thresh2Val,
    actTemp tempTarget interrupt.thresh2Val, interrupt.thresh2Enable,
    interrupt.pwrLimitNotificationEnable]

/-- The loops of `dump_therm_data_terse`. -/
def terseValues (cfg : CoreConfig) (s : ThermData) : List (BitVec 32) :=
  (List.range cfg.sockets).flatMap fun socket =>
    -- `core` counts within the socket, and so does the index
    (List.range cfg.coresPerSocket).map fun core =>
      actTemp (s.tempTarget socket) (s.thermStat core).readout

/-- The loops of `dump_therm_data_verbose`. -/
def verboseValues (cfg : CoreConfig) (s : ThermData) : List (BitVec 32) :=
  (List.range cfg.sockets).flatMap fun socket =>
    socketValues (s.tempTarget socket) (s.pkgThermStat socket) (s.pkgThermInterrupt socket) ++
      (List.range cfg.coresPerSocket).flatMap fun core =>
        coreValues (s.tempTarget socket) (s.thermStat core) (s.thermInterrupt core)

/-- `dump_therm_data_terse`: the pointers it needs. -/
def ThermData.storeTerse (P : Platform) (s : ThermData) : Option ThermData :=
  if s.terse then some s
  else do
    let s ← s.store P thermStatus storeThermStat
    let s ← s.store P temperatureTarget storeTempTarget
    some { s with terse := true }

/-- `dump_therm_data_terse`: the values it prints.  `get_temp_target` is not
    called. -/
def dumpThermDataTerse (P : Platform) (s : ThermData) :
    Option (ThermData × List (BitVec 32)) := do
  let s ← s.isInitCall P
  let s ← s.storeTerse P
  let s ← s.getThermStat P
  some (s, terseValues P.cfg s)

/-- `dump_therm_data_verbose`: the pointers it needs. -/
def ThermData.storeVerbose (P : Platform) (s : ThermData) : Option ThermData :=
  if s.verbose then some s
  else do
    let s ← s.store P thermStatus storeThermStat
    let s ← s.store P Libmsr.thermInterrupt storeThermInterrupt
    let s ← s.store P packageThermInterrupt storePkgThermInterrupt
    let s ← s.store P packageThermStatus storePkgThermStat
    let s ← s.store P temperatureTarget storeTempTarget
    some { s with verbose := true }

/-- `dump_therm_data_verbose`: the values it prints. -/
def dumpThermDataVerbose (P : Platform) (s : ThermData) :
    Option (ThermData × List (BitVec 32)) := do
  let s ← s.isInitCall P
  let s ← s.storeVerbose P
  let s ← s.getThermStat P
  let s ← s.getThermInterrupt P
  let s ← s.getPkgThermStat P
  let s ← s.getPkgThermInterrupt P
  let s ← s.getTempTarget P
  some (s, verboseValues P.cfg s)

/-- A call of a dump, or a change the hardware makes by itself. -/
inductive DumpCall where
  | terse
  | verbose
  | hardware (regs : Nat → Nat → Word)

/-- The state after a call. -/
def dumpStep (P : Platform) (s : ThermData) : DumpCall → Option ThermData
  | .terse => (dumpThermDataTerse P s).map Prod.fst
  | .verbose => (dumpThermDataVerbose P s).map Prod.fst
  | .hardware regs =>
    some { s with batches := { s.batches with world := { s.batches.world with
      host := { s.batches.world.host with regs := regs } } } }

end Libmsr
