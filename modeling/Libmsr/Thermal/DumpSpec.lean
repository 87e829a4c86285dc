/-
  Libmsr.Thermal.DumpSpec

  Whether the thermal dumps print what their labels name.

  There are always as many values as labels.  But the arrays of the core registers
  are loaded with all cores of the machine in one row, and the dumps index them with
  the core's number in its socket, so every socket shows the cores of socket 0.  And
  the verbose dump prints threshold 1 of a socket for its threshold 2.
-/
import Libmsr.Thermal.DumpRuns

namespace Libmsr

open Listing

/-! ## What a label names -/

/-- The value of a label, of a socket with these fields. -/
def SocketLabel.value (tempTarget : Word) (stat : PkgThermStat) (interrupt : PkgThermInterrupt) :
    SocketLabel → BitVec 32
  | .status => stat.status
  | .log => stat.statusLog
  | .prochotEvent => stat.prochotEvent
  | .prochotLog => stat.prochotLog
  | .critTempStatus => stat.critTempStatus
  | .critTempLog => stat.critTempLog
  | .thermThresh1Status => stat.thermThresh1Status
  | .thermThresh1Log => stat.thermThresh1Log
  | .thermThresh2Status => stat.thermThresh2Status
  | .thermThresh2Log => stat.thermThresh2Log
  | .powerLimitStatus => stat.powerLimitStatus
  | .powerNotificationLog => stat.powerNotificationLog
  | .readout => stat.readout
  | .tempC => actTemp tempTarget stat.readout
  | .highTempEnable => interrupt.highTempEnable
  | .lowTempEnable => interrupt.lowTempEnable
  | .prochotEnable => interrupt.prochotEnable
  | .critTempEnable => interrupt.critTempEnable
  | .thresh1Val => interrupt.thresh1Val
  | .thresh1ActualTempC => actTemp tempTarget interrupt.thresh1Val
  | .thresh1Enable => interrupt.thresh1Enable
  | .thresh2Val => interrupt.thresh2Val
  | .thresh2ActualTempC => actTemp tempTarget interrupt.thresh2Val
  | .thresh2Enable => interrupt.thresh2Enable
  | .pwrLimitNotificationEnable => interrupt.pwrLimitNotificationEnable

/-- The value of a label, of a core with these fields. -/
def CoreLabel.value (tempTarget : Word) (stat : ThermStat) (interrupt : ThermInterrupt) :
    CoreLabel → BitVec 32
  | .status => stat.status
  | .statusLog => stat.statusLog
  | .prochotOrForceprEvent => stat.prochotOrForceprEvent
  | .prochotOrForceprLog => stat.prochotOrForceprLog
  | .critTempStatus => stat.critTempStatus
  | .critTempLog => stat.critTempLog
  | .thermThresh1Status => stat.thermThresh1Status
  | .thermThresh1Log => stat.thermThresh1Log
  | .thermThresh2Status => stat.thermThresh2Status
  | .thermThresh2Log => stat.thermThresh2Log
  | .powerLimitStatus => stat.powerLimitStatus
  | .powerNotificationLog => stat.powerNotificationLog
  | .readout => stat.readout
  | .tempC => actTemp tempTarget stat.readout
  | .resolutionDegCelsius => stat.resolutionDegCelsius
  | .readoutValid => stat.readoutValid
  | .highTempEnable => interrupt.highTempEnable
  | .lowTempEnable => interrupt.lowTempEnable
  | .prochotEnable => interrupt.prochotEnable
  | .forceprEnable => interrupt.forceprEnable
  | .critTempEnable => interrupt.critTempEnable
  | .thresh1Val => interrupt.thresh1Val
  | .thresh1ActualTempC => actTemp tempTarget interrupt.thresh1Val
  | .thresh1Enable => interrupt.thresh1Enable
  | .thresh2Val => interrupt.thresh2Val
  | .thresh2ActualTempC => actTemp tempTarget interrupt.thresh2Val
  | .thresh2Enable => interrupt.thresh2Enable
  | .pwrLimitNotificationEnable => interrupt.pwrLimitNotificationEnable

section Named

variable (cfg : CoreConfig) (pick : ThermScope → Nat → Nat) (regs : RegFile)

/-- The fields of core `core` of a socket: all cores of the machine are numbered in
    one row. -/
def coreStat (socket core : Nat) : ThermStat :=
  thermStatus.read pick regs ThermStat.ofMsr (socket * cfg.coresPerSocket + core)

/-- Likewise for the interrupts. -/
def coreInterrupt (socket core : Nat) : ThermInterrupt :=
  thermInterrupt.read pick regs ThermInterrupt.ofMsr (socket * cfg.coresPerSocket + core)

/-- The value that a label names, by what the registers hold. -/
def ThermLabel.named : ThermLabel → BitVec 32
  | .temp s c =>
    actTemp (temperatureTarget.read pick regs tempTargetOfMsr s)
      (coreStat cfg pick regs s c).readout
  | .socket label s =>
    label.value (temperatureTarget.read pick regs tempTargetOfMsr s)
      (packageThermStatus.read pick regs PkgThermStat.ofMsr s)
      (packageThermInterrupt.read pick regs PkgThermInterrupt.ofMsr s)
  | .core label s c =>
    label.value (temperatureTarget.read pick regs tempTargetOfMsr s) (coreStat cfg pick regs s c)
      (coreInterrupt cfg pick regs s c)

end Named

/-- The terse dump prints what its labels name. -/
def TerseLabelled (P : Platform) (pick : ThermScope → Nat → Nat) (s : ThermData) : Prop :=
  ∃ s' values, dumpThermDataTerse P s = some (s', values) ∧
    Labelled ThermLabel.text (ThermLabel.named P.cfg pick s.batches.world.host.regs)
      (dumpThermDataTerseLabel P.cfg) values

/-- The verbose dump prints what its labels name. -/
def VerboseLabelled (P : Platform) (pick : ThermScope → Nat → Nat) (s : ThermData) : Prop :=
  ∃ s' values, dumpThermDataVerbose P s = some (s', values) ∧
    Labelled ThermLabel.text (ThermLabel.named P.cfg pick s.batches.world.host.regs)
      (dumpThermDataVerboseLabel P.cfg) values

/-! ## Labels are unambiguous -/

theorem SocketLabel.mem_socketLabels (label : SocketLabel) : label ∈ socketLabels := by
  cases label <;> decide

theorem CoreLabel.mem_coreLabels (label : CoreLabel) : label ∈ coreLabels := by
  cases label <;> decide

theorem SocketLabel.name_injective : Function.Injective SocketLabel.name := by
  have hnodup : (socketLabels.map SocketLabel.name).Nodup := by
    simp [socketLabels, SocketLabel.name]
  intro l l' h
  exact List.inj_on_of_nodup_map hnodup l.mem_socketLabels l'.mem_socketLabels h

theorem CoreLabel.name_injective : Function.Injective CoreLabel.name := by
  have hnodup : (coreLabels.map CoreLabel.name).Nodup := by
    simp [coreLabels, CoreLabel.name]
  intro l l' h
  exact List.inj_on_of_nodup_map hnodup l.mem_coreLabels l'.mem_coreLabels h

/-- The first letter tells the three kinds of labels apart. -/
def ThermLabel.letter : ThermLabel → Char
  | .temp _ _ => 'T'
  | .socket _ _ => 's'
  | .core _ _ _ => 'c'

theorem head?_append {a b : String} {c : Char} (h : a.toList.head? = some c) :
    (a ++ b).toList.head? = some c := by
  rw [String.toList_append, List.head?_append, h, Option.some_or]

theorem head?_numbered {name : String} {n : Nat} {c : Char} (h : name.toList.head? = some c) :
    (numbered name n).toList.head? = some c := head?_append (head?_append h)

theorem ThermLabel.head?_text (l : ThermLabel) : l.text.toList.head? = some l.letter := by
  cases l with
  | temp s c => exact head?_numbered (head?_numbered rfl)
  | socket label s => exact head?_numbered (head?_append rfl)
  | core label s c => exact head?_numbered (head?_numbered (head?_append rfl))

theorem ThermLabel.text_injective : Function.Injective ThermLabel.text := by
  intro l l' h
  have hletter : l.letter = l'.letter := by
    apply Option.some.inj
    rw [← l.head?_text, ← l'.head?_text, h]
  -- labels of different kinds have different letters
  cases l with
  | temp s c =>
    cases l' with
    | temp s' c' =>
      obtain ⟨hname, rfl⟩ := numbered_inj h
      obtain ⟨-, rfl⟩ := numbered_inj hname
      rfl
    | socket label' s' => simp [ThermLabel.letter] at hletter
    | core label' s' c' => simp [ThermLabel.letter] at hletter
  | socket label s =>
    cases l' with
    | temp s' c' => simp [ThermLabel.letter] at hletter
    | socket label' s' =>
      obtain ⟨hname, rfl⟩ := numbered_inj h
      obtain rfl := SocketLabel.name_injective ((String.append_right_inj _).mp hname)
      rfl
    | core label' s' c' => simp [ThermLabel.letter] at hletter
  | core label s c =>
    cases l' with
    | temp s' c' => simp [ThermLabel.letter] at hletter
    | socket label' s' => simp [ThermLabel.letter] at hletter
    | core label' s' c' =>
      obtain ⟨hlabel, rfl⟩ := numbered_inj h
      obtain ⟨hname, rfl⟩ := numbered_inj hlabel
      obtain rfl := CoreLabel.name_injective ((String.append_right_inj _).mp hname)
      rfl

/-! ## One socket and one core -/

/-- The difference determines what was subtracted. -/
theorem actTemp_inj {tempTarget : Word} {x y : BitVec 32} :
    actTemp tempTarget x = actTemp tempTarget y ↔ x = y := by
  rw [actTemp, actTemp, Words.setWidth_sub_signExtend, Words.setWidth_sub_signExtend]
  exact BitVec.sub_right_inj _

/-- Every field of a core is printed. -/
theorem coreValues_inj {tempTarget : Word} {stat stat' : ThermStat}
    {interrupt interrupt' : ThermInterrupt} :
    coreValues tempTarget stat interrupt = coreValues tempTarget stat' interrupt' ↔
      stat = stat' ∧ interrupt = interrupt' := by
  constructor
  · intro h
    cases stat
    cases stat'
    cases interrupt
    cases interrupt'
    simp only [coreValues, List.cons.injEq, and_true] at h
    simp only [ThermStat.mk.injEq, ThermInterrupt.mk.injEq]
    tauto
  · rintro ⟨rfl, rfl⟩
    rfl

/-- For a socket, one value is not the one of its label. -/
theorem socketValues_eq_iff {tempTarget : Word} {stat : PkgThermStat}
    {interrupt : PkgThermInterrupt} :
    socketValues tempTarget stat interrupt =
        socketLabels.map (SocketLabel.value tempTarget stat interrupt) ↔
      interrupt.thresh1Val = interrupt.thresh2Val := by
  simp [socketValues, socketLabels, SocketLabel.value]

/-! ## All sockets -/

section Conditions

variable (cfg : CoreConfig) (pick : ThermScope → Nat → Nat) (regs : RegFile)

/-- In every socket the readouts are those of socket 0. -/
def ReadoutsRepeat : Prop :=
  ∀ socket, socket < cfg.sockets → ∀ core, core < cfg.coresPerSocket →
    (coreStat cfg pick regs 0 core).readout = (coreStat cfg pick regs socket core).readout

/-- In every socket all fields of the cores are those of socket 0. -/
def CoresRepeat : Prop :=
  ∀ socket, socket < cfg.sockets → ∀ core, core < cfg.coresPerSocket →
    coreStat cfg pick regs 0 core = coreStat cfg pick regs socket core ∧
      coreInterrupt cfg pick regs 0 core = coreInterrupt cfg pick regs socket core

/-- In every socket the two thresholds are the same. -/
def ThresholdsCoincide : Prop :=
  ∀ socket, socket < cfg.sockets →
    (packageThermInterrupt.read pick regs PkgThermInterrupt.ofMsr socket).thresh1Val =
      (packageThermInterrupt.read pick regs PkgThermInterrupt.ofMsr socket).thresh2Val

end Conditions

/-- The labels of the terse dump. -/
def terseLabels (cfg : CoreConfig) : List ThermLabel :=
  (List.range cfg.sockets).flatMap fun s =>
    (List.range cfg.coresPerSocket).map fun c => ThermLabel.temp s c

/-- The labels of the verbose dump. -/
def verboseLabels (cfg : CoreConfig) : List ThermLabel :=
  (List.range cfg.sockets).flatMap fun s =>
    (socketLabels.map fun label => ThermLabel.socket label s) ++
      (List.range cfg.coresPerSocket).flatMap fun c =>
        coreLabels.map fun label => ThermLabel.core label s c

theorem dumpThermDataTerseLabel_eq (cfg : CoreConfig) :
    dumpThermDataTerseLabel cfg = (terseLabels cfg).map ThermLabel.text := by
  simp only [terseLabels, List.map_flatMap, List.map_map]
  rfl

theorem dumpThermDataVerboseLabel_eq (cfg : CoreConfig) :
    dumpThermDataVerboseLabel cfg = (verboseLabels cfg).map ThermLabel.text := by
  simp only [verboseLabels, List.map_flatMap, List.map_append, List.map_map]
  rfl

section Values

variable {P : Platform} {pick : ThermScope → Nat → Nat} {regs : RegFile} {s : ThermData}

/-- A core of socket 0 is found under its number in the socket. -/
theorem TerseRead.coreStat_zero (h : TerseRead P pick regs s) {socket core : Nat}
    (hsocket : socket < P.cfg.sockets) (hcore : core < P.cfg.coresPerSocket) :
    s.thermStat core = coreStat P.cfg pick regs 0 core := by
  have hlt := MixedRadix.low_lt hsocket hcore
  rw [h.thermStat core (by omega), coreStat, Nat.zero_mul, Nat.zero_add]

theorem VerboseRead.coreInterrupt_zero (h : VerboseRead P pick regs s) {socket core : Nat}
    (hsocket : socket < P.cfg.sockets) (hcore : core < P.cfg.coresPerSocket) :
    s.thermInterrupt core = coreInterrupt P.cfg pick regs 0 core := by
  have hlt := MixedRadix.low_lt hsocket hcore
  rw [h.thermInterrupt core (by omega), coreInterrupt, Nat.zero_mul, Nat.zero_add]

theorem TerseRead.labelled_iff (h : TerseRead P pick regs s) :
    Labelled ThermLabel.text (ThermLabel.named P.cfg pick regs) (dumpThermDataTerseLabel P.cfg)
        (terseValues P.cfg s) ↔
      ReadoutsRepeat P.cfg pick regs := by
  rw [dumpThermDataTerseLabel_eq, Listing.labelled_iff ThermLabel.text_injective, terseValues,
    terseLabels, List.map_flatMap, flatMap_eq_flatMap_iff fun i _ => by
      simp only [List.length_map, List.length_range]]
  refine forall_congr' fun socket => ?_
  rw [List.mem_range]
  refine forall_congr' fun hsocket => ?_
  rw [List.map_map, List.map_inj_left]
  refine forall_congr' fun core => ?_
  rw [List.mem_range]
  refine forall_congr' fun hcore => ?_
  rw [h.coreStat_zero hsocket hcore, h.tempTarget socket hsocket]
  exact actTemp_inj

/-- The part of the verbose dump for one socket. -/
theorem VerboseRead.socket_iff (h : VerboseRead P pick regs s) {socket : Nat}
    (hsocket : socket < P.cfg.sockets) :
    socketValues (s.tempTarget socket) (s.pkgThermStat socket) (s.pkgThermInterrupt socket) ++
          ((List.range P.cfg.coresPerSocket).flatMap fun core =>
            coreValues (s.tempTarget socket) (s.thermStat core) (s.thermInterrupt core)) =
        ((socketLabels.map fun label => ThermLabel.socket label socket) ++
          (List.range P.cfg.coresPerSocket).flatMap fun core =>
            coreLabels.map fun label => ThermLabel.core label socket core).map
          (ThermLabel.named P.cfg pick regs) ↔
      (packageThermInterrupt.read pick regs PkgThermInterrupt.ofMsr socket).thresh1Val =
          (packageThermInterrupt.read pick regs PkgThermInterrupt.ofMsr socket).thresh2Val ∧
        ∀ core, core < P.cfg.coresPerSocket →
          coreStat P.cfg pick regs 0 core = coreStat P.cfg pick regs socket core ∧
            coreInterrupt P.cfg pick regs 0 core = coreInterrupt P.cfg pick regs socket core := by
  rw [List.map_append, List.map_map, List.map_flatMap,
    List.append_eq_append_iff_of_size_eq_left (by rw [List.length_map]; rfl),
    flatMap_eq_flatMap_iff fun i _ => by rw [List.length_map, List.length_map]; rfl,
    h.tempTarget socket hsocket, h.pkgThermStat socket hsocket, h.pkgThermInterrupt socket hsocket]
  refine and_congr socketValues_eq_iff (forall_congr' fun core => ?_)
  rw [List.mem_range]
  refine forall_congr' fun hcore => ?_
  rw [h.coreStat_zero hsocket hcore, h.coreInterrupt_zero hsocket hcore, List.map_map]
  exact coreValues_inj

theorem VerboseRead.labelled_iff (h : VerboseRead P pick regs s) :
    Labelled ThermLabel.text (ThermLabel.named P.cfg pick regs) (dumpThermDataVerboseLabel P.cfg)
        (verboseValues P.cfg s) ↔
      ThresholdsCoincide P.cfg pick regs ∧ CoresRepeat P.cfg pick regs := by
  have hlen : ∀ socket ∈ List.range P.cfg.sockets,
      (socketValues (s.tempTarget socket) (s.pkgThermStat socket) (s.pkgThermInterrupt socket) ++
          ((List.range P.cfg.coresPerSocket).flatMap fun core =>
            coreValues (s.tempTarget socket) (s.thermStat core) (s.thermInterrupt core))).length =
        (((socketLabels.map fun label => ThermLabel.socket label socket) ++
          (List.range P.cfg.coresPerSocket).flatMap fun core =>
            coreLabels.map fun label => ThermLabel.core label socket core).map
          (ThermLabel.named P.cfg pick regs)).length := by
    intro socket _
    rw [List.length_map, List.length_append, List.length_append, List.length_flatMap,
      List.length_flatMap]
    rfl
  rw [dumpThermDataVerboseLabel_eq, Listing.labelled_iff ThermLabel.text_injective, verboseValues,
    verboseLabels, List.map_flatMap, flatMap_eq_flatMap_iff hlen, ThresholdsCoincide, CoresRepeat,
    ← forall_and]
  refine forall_congr' fun socket => ?_
  rw [List.mem_range, ← imp_and]
  exact forall_congr' fun hsocket => h.socket_iff hsocket

/-- There are as many values as labels, whatever the arrays hold. -/
theorem dumps_length (cfg : CoreConfig) (s : ThermData) :
    (terseValues cfg s).length = (dumpThermDataTerseLabel cfg).length ∧
      (verboseValues cfg s).length = (dumpThermDataVerboseLabel cfg).length := by
  constructor
  · simp only [terseValues, dumpThermDataTerseLabel, List.length_flatMap, List.length_map]
  · simp only [verboseValues, dumpThermDataVerboseLabel, List.length_flatMap, List.length_append,
      List.length_map]
    rfl

end Values

/-! ## Every state -/

section States

variable {P : Platform} {pick : ThermScope → Nat → Nat} {target : Nat → Word} {s : ThermData}
  (hpick : ∀ scope : ThermScope, Picks P.cfg P.topo scope.key (scope.count P.cfg) (pick scope))
  (hI : DumpInv P pick target s)
include hpick hI

theorem terseLabelled_iff :
    TerseLabelled P pick s ↔ ReadoutsRepeat P.cfg pick s.batches.world.host.regs := by
  obtain ⟨s', hs', -, hread⟩ := hI.dumpThermDataTerse hpick
  exact (Runs.result_iff hs').trans hread.labelled_iff

theorem verboseLabelled_iff :
    VerboseLabelled P pick s ↔
      ThresholdsCoincide P.cfg pick s.batches.world.host.regs ∧
        CoresRepeat P.cfg pick s.batches.world.host.regs := by
  obtain ⟨s', hs', -, hread⟩ := hI.dumpThermDataVerbose hpick
  exact (Runs.result_iff hs').trans hread.labelled_iff

end States

/-- **Thermal dumps.**  In every state that calls and the hardware can reach, the terse
    dump prints what its labels name if and only if all sockets read like socket 0;
    the verbose dump, if and only if they do so in all fields and each socket has the
    same thresholds. -/
theorem dumps_labelled_iff {P : Platform} {pick : ThermScope → Nat → Nat} {s : ThermData}
    (h : DumpReached P pick s) :
    (TerseLabelled P pick s ↔ ReadoutsRepeat P.cfg pick s.batches.world.host.regs) ∧
      (VerboseLabelled P pick s ↔ ThresholdsCoincide P.cfg pick s.batches.world.host.regs ∧
        CoresRepeat P.cfg pick s.batches.world.host.regs) := by
  obtain ⟨target, hI⟩ := h.inv
  exact ⟨terseLabelled_iff h.picks hI, verboseLabelled_iff h.picks hI⟩

/-! ## Two sockets -/

/-- Two sockets before any call. -/
def twoSocketsDump (regs : RegFile) : ThermData where
  batches := ⟨⟨.init, { Host.opened 2 with regs := regs }⟩, fun _ => [], fun _ => false⟩
  tempTarget := fun _ => 0
  thermStat := fun _ => ThermStat.ofMsr 0
  thermInterrupt := fun _ => ThermInterrupt.ofMsr 0
  pkgThermStat := fun _ => PkgThermStat.ofMsr 0
  pkgThermInterrupt := fun _ => PkgThermInterrupt.ofMsr 0
  isInitTarget := false
  isInit := false
  terse := false
  verbose := false

theorem twoSocketsDump_reached (regs : RegFile) :
    DumpReached twoSockets (fun _ => id) (twoSocketsDump regs) := by
  have hcount : ∀ r ∈ thermRegisters, r.scope.count twoSockets.cfg = 2 := by decide
  have hempty : ∀ r ∈ thermRegisters, BatchStorage.init.entry r.batch = .empty := by
    simp only [thermRegisters, List.forall_mem_cons]
    exact ⟨rfl, rfl, rfl, rfl, rfl, fun r hr => absurd hr List.not_mem_nil⟩
  have hstart : DumpStart twoSockets (fun _ => id) (twoSocketsDump regs) := by
    refine ⟨⟨inOrder_works (by omega) 3 _, fun r hr i hi => ?_⟩, fun r hr => ?_, rfl, rfl, rfl, rfl⟩
    · rw [hcount r hr] at hi
      exact decide_eq_false (by show ¬ 2 ≤ i; omega)
    · exact ⟨rfl, rfl, BatchStorage.init_sized, hempty r hr⟩
  refine ⟨fun scope => ?_, ⟨_, [], hstart, trivial, rfl⟩⟩
  cases scope with
  | core => exact twoSockets_picks.2
  | package => exact twoSockets_picks.1

/-- Where all registers are zero the dumps are right. -/
theorem twoSockets_labelled :
    TerseLabelled twoSockets (fun _ => id) (twoSocketsDump fun _ _ => 0) ∧
      VerboseLabelled twoSockets (fun _ => id) (twoSocketsDump fun _ _ => 0) := by
  obtain ⟨hterse, hverbose⟩ := dumps_labelled_iff (twoSocketsDump_reached fun _ _ => 0)
  constructor
  · exact hterse.mpr fun _ _ _ _ => rfl
  · have hequal :
        (PkgThermInterrupt.ofMsr 0).thresh1Val = (PkgThermInterrupt.ofMsr 0).thresh2Val := by
      decide
    exact hverbose.mpr ⟨fun _ _ => hequal, fun _ _ _ _ => ⟨rfl, rfl⟩⟩

/-- The registers of socket 1 hold 10 in bits 16 to 22: its core's readout is not that
    of core 0, and its threshold 2 is not its threshold 1. -/
theorem twoSockets_mislabelled :
    DumpReached twoSockets (fun _ => id)
        (twoSocketsDump fun cpu _ => if cpu = 1 then 0xA0000 else 0) ∧
      ¬ TerseLabelled twoSockets (fun _ => id)
        (twoSocketsDump fun cpu _ => if cpu = 1 then 0xA0000 else 0) ∧
      ¬ VerboseLabelled twoSockets (fun _ => id)
        (twoSocketsDump fun cpu _ => if cpu = 1 then 0xA0000 else 0) := by
  have hreached := twoSocketsDump_reached fun cpu _ => if cpu = 1 then 0xA0000 else 0
  obtain ⟨target, hI⟩ := hreached.inv
  refine ⟨hreached, fun hlabelled => ?_, fun hlabelled => ?_⟩
  · have hrepeat := (terseLabelled_iff hreached.picks hI).mp hlabelled 1 (by decide) 0 (by decide)
    exact absurd hrepeat (by decide)
  · have hequal := ((verboseLabelled_iff hreached.picks hI).mp hlabelled).1 1 (by decide)
    exact absurd hequal (by decide)

end Libmsr
