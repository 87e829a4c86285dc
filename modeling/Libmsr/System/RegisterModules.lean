/-
  Libmsr.System.RegisterModules

  The modules that read their registers through the shared table of batches, as
  components of one program: the clock counters (src/msr_clocks.c), the C-state
  residencies (src/msr_misc.c) and the thermal registers (src/msr_thermal.c).

  A program calls them in any order, and the registers change by themselves in
  between.  `registerModules_run` says that every such run goes through, and that
  each call returns what the registers hold at that moment, as if the module had the
  table for itself.
-/
import Libmsr.Clocks.ClocksData
import Libmsr.Lib.Components
import Libmsr.Misc.Residency
import Libmsr.Thermal.ThermShared

namespace Libmsr

open Components

/-! ## The thermal modules -/

/-- The registers that can be got and set. -/
inductive ThermModule where
  | stat
  | interrupt
  | pkgStat
  | pkgInterrupt
  deriving Repr, DecidableEq

namespace ThermModule

def register : ThermModule → ThermRegister
  | .stat => thermStatus
  | .interrupt => thermInterrupt
  | .pkgStat => packageThermStatus
  | .pkgInterrupt => packageThermInterrupt

/-- The struct, for one core or socket. -/
def Fields : ThermModule → Type
  | .stat => ThermStat
  | .interrupt => ThermInterrupt
  | .pkgStat => PkgThermStat
  | .pkgInterrupt => PkgThermInterrupt

def decode : ∀ t : ThermModule, Word → t.Fields
  | .stat => ThermStat.ofMsr
  | .interrupt => ThermInterrupt.ofMsr
  | .pkgStat => PkgThermStat.ofMsr
  | .pkgInterrupt => PkgThermInterrupt.ofMsr

def encode : ∀ t : ThermModule, t.Fields → Word → Word
  | .stat => ThermStat.toMsr
  | .interrupt => ThermInterrupt.toMsr
  | .pkgStat => PkgThermStat.toMsr
  | .pkgInterrupt => PkgThermInterrupt.toMsr

/-- `store_therm_stat` and its like. -/
def store (P : Platform) : ThermModule → ThermState → Option ThermState
  | .stat => storeThermStat P
  | .interrupt => storeThermInterrupt P
  | .pkgStat => storePkgThermStat P
  | .pkgInterrupt => storePkgThermInterrupt P

/-- `get_therm_stat` and its like. -/
def get (P : Platform) :
    ∀ t : ThermModule, ThermState → (Nat → t.Fields) → Option (ThermState × (Nat → t.Fields))
  | .stat => getThermStat P
  | .interrupt => getThermInterrupt P
  | .pkgStat => getPkgThermStat P
  | .pkgInterrupt => getPkgThermInterrupt P

/-- `set_therm_stat` and its like. -/
def set (P : Platform) :
    ∀ t : ThermModule, ThermState → (Nat → t.Fields) → Option ThermState
  | .stat => setThermStat P
  | .interrupt => setThermInterrupt P
  | .pkgStat => setPkgThermStat P
  | .pkgInterrupt => setPkgThermInterrupt P

variable (P : Platform) (t : ThermModule) (s : ThermState) (fields : Nat → t.Fields)

theorem store_eq : t.store P s = storeTherm P t.register s := by
  cases t <;> rfl

theorem get_eq : t.get P s fields = getTherm P t.register s t.decode fields := by
  cases t <;> rfl

theorem set_eq : t.set P s fields = setTherm P t.register s fun i => t.encode (fields i) := by
  cases t <;> rfl

theorem register_msr : t.register.msr < 2 ^ 32 := by
  cases t <;> decide

end ThermModule

/-! ## The components -/

/-- The modules that share the table of batches. -/
inductive RegisterModule where
  | clocks
  | pkgCres
  | coreCres
  | tempTarget
  | therm (t : ThermModule)
  deriving Repr, DecidableEq

/-- `CLOCKS_DATA` and the like. -/
def RegisterModule.batch : RegisterModule → Nat
  | .clocks => clocksDataBatch
  | .pkgCres => pkgCresBatch
  | .coreCres => coreCresBatch
  | .tempTarget => temperatureTarget.batch
  | .therm t => t.register.batch

/-- No two modules have the same batch. -/
theorem RegisterModule.batch_injective : Function.Injective RegisterModule.batch := by
  intro m m' h
  rcases m with _ | _ | _ | _ | t <;> rcases m' with _ | _ | _ | _ | t' <;>
    first
      | rfl
      | (cases t <;> cases t' <;> first | rfl | exact absurd h (by decide))
      | (cases t <;> exact absurd h (by decide))
      | (cases t' <;> exact absurd h (by decide))
      | exact absurd h (by decide)

/-- The statics of a `store_*` function, and the struct that `get_*` fills. -/
structure ThermStatics (α : Type) where
  raw : List (Option Ptr)
  init : Bool
  fields : Nat → α

def ThermStatics.view {α : Type} (s : ThermStatics α) (w : BatchWorld) : ThermState :=
  ⟨w, s.raw, s.init⟩

/-- A dump of the clock counters. -/
inductive ClocksOp where
  | terse
  | readable

/-- A caller stores a thermal register's struct, and gets it or sets it. -/
inductive ThermOp (α : Type) where
  | get
  | set (fields : Nat → α)

/-- The module's own state, calls and results.  A dump returns the numbers it prints, line by
    line, and a `get_*` the elements of its struct. -/
def RegisterModule.Own : RegisterModule → Type
  | .clocks => ClocksStatics
  | .pkgCres => TableStatics
  | .coreCres => TableStatics
  | .tempTarget => ThermStatics Word
  | .therm t => ThermStatics t.Fields

def RegisterModule.Op : RegisterModule → Type
  | .clocks => ClocksOp
  | .pkgCres => Unit
  | .coreCres => Unit
  | .tempTarget => Unit
  | .therm t => ThermOp t.Fields

def RegisterModule.Out : RegisterModule → Type
  | .clocks => List (List Word)
  | .pkgCres => List (List Word)
  | .coreCres => List (List Word)
  | .tempTarget => List Word
  | .therm t => List t.Fields

/-- `store_temp_target` and `get_temp_target`. -/
def readTempTarget (P : Platform) (w : BatchWorld) (s : ThermStatics Word) :
    Option (List Word × BatchWorld × ThermStatics Word) := do
  let st ← storeTempTarget P (s.view w)
  let (st, fields) ← getTempTarget P st s.fields
  some ((List.range P.cfg.sockets).map fields, st.world, ⟨st.raw, st.init, fields⟩)

/-- `store_therm_stat` and `get_therm_stat` or `set_therm_stat`, and the like. -/
def thermCall (P : Platform) (t : ThermModule) (w : BatchWorld) (s : ThermStatics t.Fields) :
    ThermOp t.Fields → Option (List t.Fields × BatchWorld × ThermStatics t.Fields)
  | .get => do
    let st ← t.store P (s.view w)
    let (st, fields) ← t.get P st s.fields
    some ((List.range (t.register.scope.count P.cfg)).map fields, st.world,
      ⟨st.raw, st.init, fields⟩)
  | .set fields => do
    let st ← t.store P (s.view w)
    let st ← t.set P st fields
    some ([], st.world, ⟨st.raw, st.init, fields⟩)

/-- `dump_clocks_data_terse` or `dump_clocks_data_readable`. -/
def clocksCall (P : Platform) (w : BatchWorld) (s : ClocksStatics) :
    ClocksOp → Option (List (List Word) × BatchWorld × ClocksStatics)
  | .terse => (dumpClocksDataTerse P w s).map fun r => ([r.1], r.2)
  | .readable => dumpClocksDataReadable P w s

/-- The modules over the batches and the host. -/
def registerModules (P : Platform) : Family RegisterModule BatchWorld where
  Own := RegisterModule.Own
  Op := RegisterModule.Op
  Out := RegisterModule.Out
  step
    | .clocks => clocksCall P
    | .pkgCres => fun w s _ => dumpPkgCres P w s
    | .coreCres => fun w s _ => dumpCoreCres P w s
    | .tempTarget => fun w s _ => readTempTarget P w s
    | .therm t => thermCall P t

/-! ## The contract -/

/-- The CPUs that the load functions find. -/
abbrev Pick : Type := ThermScope → Nat → Nat

/-- What each module relies on. -/
def RegisterModule.Inv (P : Platform) (pick : Pick) :
    ∀ m : RegisterModule, BatchWorld → m.Own → Prop
  | .clocks => fun w s => ClocksReady P w s ∧ TableReads P (clocksLayout P.cfg) w.host
  | .pkgCres => fun w s => TableReady (pkgCresLayout P.cfg (pick .package)) pkgCresBatch w s ∧
      TableReads P (pkgCresLayout P.cfg (pick .package)) w.host
  | .coreCres => fun w s => TableReady (coreCresLayout P.cfg (pick .core)) coreCresBatch w s ∧
      TableReads P (coreCresLayout P.cfg (pick .core)) w.host
  | .tempTarget => fun w s => ThermReady P temperatureTarget (pick .package) (s.view w)
  | .therm t => fun w s => ThermReady P t.register (pick t.register.scope) (s.view w) ∧
      ∀ i, i < t.register.scope.count P.cfg →
        w.host.failsWrite (pick t.register.scope i) t.register.msr = false

/-- What a call on a thermal register is for. -/
def ThermModule.Post (P : Platform) (pick : Pick) (t : ThermModule) (w w' : BatchWorld)
    (x : List t.Fields) : ThermOp t.Fields → Prop
  | .get => w'.host.regs = w.host.regs ∧
      x = (List.range (t.register.scope.count P.cfg)).map fun i =>
        t.decode (w.host.regs (pick t.register.scope i) t.register.msr)
  | .set fields =>
      (∀ i, i < t.register.scope.count P.cfg →
        w'.host.regs (pick t.register.scope i) t.register.msr =
          t.encode (fields i) (w.host.regs (pick t.register.scope i) t.register.msr)) ∧
      ∀ p, (∀ i, i < t.register.scope.count P.cfg →
          t.register.place (pick t.register.scope) i ≠ p) →
        RegFile.at w'.host.regs p = RegFile.at w.host.regs p

/-- The lines of a dump of the clock counters. -/
def ClocksOp.lines (cfg : CoreConfig) (regs : RegFile) : ClocksOp → List (List Word)
  | .terse => [(clocksLines cfg regs).flatten]
  | .readable => clocksLines cfg regs

/-- What each call is for: it returns what the registers hold and changes none of them,
    or it changes the registers it is told to and no others. -/
def RegisterModule.Post (P : Platform) (pick : Pick) :
    ∀ m : RegisterModule, BatchWorld → m.Op → m.Out → BatchWorld → Prop
  | .clocks => fun w o x w' => w'.host.regs = w.host.regs ∧
      x = ClocksOp.lines P.cfg w.host.regs o
  | .pkgCres => fun w _ x w' => w'.host.regs = w.host.regs ∧
      x = pkgCresLines P.cfg (pick .package) w.host.regs
  | .coreCres => fun w _ x w' => w'.host.regs = w.host.regs ∧
      x = coreCresLines P.cfg (pick .core) w.host.regs
  | .tempTarget => fun w _ x w' => w'.host.regs = w.host.regs ∧
      x = (List.range P.cfg.sockets).map fun i =>
        tempTargetOfMsr (w.host.regs (pick .package i) temperatureTarget.msr)
  | .therm t => fun w o x w' => t.Post P pick w w' x o

/-- The registers may change, but the devices stay and nobody else touches the batches. -/
structure RegistersChange (f : BatchWorld → BatchWorld) : Prop where
  st : ∀ w : BatchWorld, (f w).st = w.st
  same : ∀ w : BatchWorld, w.host.SameDevices (f w).host

/-- The contract between the modules. -/
def registerContract (P : Platform) (pick : Pick) : Contract (registerModules P) where
  Inv := RegisterModule.Inv P pick
  Guar m := WorksOn m.batch
  Post := RegisterModule.Post P pick
  Outside := RegistersChange

/-- The load functions find a CPU for each core and each socket. -/
def PicksAll (P : Platform) (pick : Pick) : Prop :=
  ∀ scope : ThermScope, Picks P.cfg P.topo scope.key (scope.count P.cfg) (pick scope)

section Keeps

variable {P : Platform} {pick : Pick}

theorem ClocksReady.of_worksOn {w w' : BatchWorld} {s : ClocksStatics} {b : Nat}
    (h : ClocksReady P w s) (hne : clocksDataBatch ≠ b) (hcall : WorksOn b w w') :
    ClocksReady P w' s :=
  ⟨h.table.of_worksOn hne hcall, h.terse, h.readable⟩

/-- No module minds a call that works on another batch. -/
theorem RegisterModule.inv_stable (m : RegisterModule) {b : Nat} (hne : m.batch ≠ b)
    {w w' : BatchWorld} {s : m.Own} (h : m.Inv P pick w s) (hcall : WorksOn b w w') :
    m.Inv P pick w' s := by
  cases m with
  | clocks => exact ⟨h.1.of_worksOn hne hcall, h.2.of_sameDevices hcall.same⟩
  | pkgCres => exact ⟨h.1.of_worksOn hne hcall, h.2.of_sameDevices hcall.same⟩
  | coreCres => exact ⟨h.1.of_worksOn hne hcall, h.2.of_sameDevices hcall.same⟩
  | tempTarget => exact ThermReady.of_worksOn h hne hcall
  | therm t =>
    refine ⟨ThermReady.of_worksOn h.1 hne hcall, ?_⟩
    rw [hcall.same.failsWrite]
    exact h.2

/-- Nor a change of the registers. -/
theorem RegisterModule.inv_outside (m : RegisterModule) {f : BatchWorld → BatchWorld}
    (hf : RegistersChange f) {w : BatchWorld} {s : m.Own} (h : m.Inv P pick w s) :
    m.Inv P pick (f w) s := by
  have hw : f w = { w with host := (f w).host } := by
    rw [← hf.st w]
  have hsame := hf.same w
  rw [hw]
  cases m with
  | clocks =>
    exact ⟨⟨h.1.table.of_host _, h.1.terse, h.1.readable⟩, h.2.of_sameDevices hsame⟩
  | pkgCres => exact ⟨h.1.of_host _, h.2.of_sameDevices hsame⟩
  | coreCres => exact ⟨h.1.of_host _, h.2.of_sameDevices hsame⟩
  | tempTarget => exact ThermReady.of_host h hsame
  | therm t =>
    refine ⟨ThermReady.of_host h.1 hsame, ?_⟩
    show ∀ i, i < _ → (f w).host.failsWrite _ _ = false
    rw [hsame.failsWrite]
    exact h.2

theorem map_range_congr {α : Type*} {n : Nat} {f g : Nat → α} (h : ∀ i, i < n → f i = g i) :
    (List.range n).map f = (List.range n).map g :=
  List.map_congr_left fun i hi => h i (List.mem_range.mp hi)

/-- Every call does its part. -/
theorem RegisterModule.call (hpick : PicksAll P pick) (hn : P.cfg.numDevs ≤ 2 ^ 16)
    (m : RegisterModule) (w : BatchWorld) (s : m.Own) (o : m.Op) (h : m.Inv P pick w s) :
    ∃ x w' s', (registerModules P).step m w s o = some (x, w', s') ∧ m.Inv P pick w' s' ∧
      WorksOn m.batch w w' ∧ m.Post P pick w o x w' := by
  have hpackages : P.cfg.sockets ≤ 2 ^ 16 := (hpick .package).fit.count_le
  have hcores : numCores P.cfg ≤ 2 ^ 16 := (hpick .core).fit.count_le
  cases m with
  | clocks =>
    obtain ⟨hready, hreads⟩ := h
    cases o with
    | terse =>
      obtain ⟨w', s', hcall, hready', hregs, hworks⟩ :=
        hready.terse_dump (by omega) hn hreads
      refine ⟨_, w', s', ?_, ⟨hready', hreads.of_sameDevices hworks.same⟩, hworks, hregs, rfl⟩
      show (dumpClocksDataTerse P w s).map _ = _
      rw [hcall]
      rfl
    | readable =>
      obtain ⟨w', s', hcall, hready', hregs, hworks⟩ :=
        hready.readable_dump (by omega) hn hreads
      exact ⟨_, w', s', hcall, ⟨hready', hreads.of_sameDevices hworks.same⟩, hworks, hregs, rfl⟩
  | pkgCres =>
    obtain ⟨hready, hreads⟩ := h
    obtain ⟨w', s', hcall, hready', hregs, hworks⟩ :=
      dumpPkgCres_spec (hpick .package) (by omega) hready hreads
    exact ⟨_, w', s', hcall, ⟨hready', hreads.of_sameDevices hworks.same⟩, hworks, hregs, rfl⟩
  | coreCres =>
    obtain ⟨hready, hreads⟩ := h
    obtain ⟨w', s', hcall, hready', hregs, hworks⟩ :=
      dumpCoreCres_spec (hpick .core) (by omega) hready hreads
    exact ⟨_, w', s', hcall, ⟨hready', hreads.of_sameDevices hworks.same⟩, hworks, hregs, rfl⟩
  | tempTarget =>
    obtain ⟨st₁, st, got, hstore, hget, hready', hregs, hworks, hgot⟩ :=
      ThermReady.storeGet h (hpick .package).fit (by decide) tempTargetOfMsr s.fields
    refine ⟨(List.range P.cfg.sockets).map got, st.world, ⟨st.raw, st.init, got⟩, ?_, hready',
      hworks, hregs, map_range_congr hgot⟩
    · show readTempTarget P w s = _
      simp only [readTempTarget, storeTempTarget, getTempTarget, hstore, hget,
        Option.bind_eq_bind, Option.bind_some]
      rfl
  | therm t =>
    obtain ⟨hready, hwrites⟩ := h
    cases o with
    | get =>
      obtain ⟨st₁, st, got, hstore, hget, hready', hregs, hworks, hgot⟩ :=
        hready.storeGet (hpick _).fit t.register_msr t.decode s.fields
      refine ⟨(List.range (t.register.scope.count P.cfg)).map got, st.world,
        ⟨st.raw, st.init, got⟩, ?_, ⟨hready', ?_⟩, hworks, hregs, map_range_congr hgot⟩
      · show thermCall P t w s .get = _
        simp only [thermCall, t.store_eq, t.get_eq, hstore, hget, Option.bind_eq_bind,
          Option.bind_some]
        rfl
      · rw [hworks.same.failsWrite]
        exact hwrites
    | set fields =>
      obtain ⟨st₁, st, hstore, hset, hready', hworks, heach, hothers⟩ :=
        hready.storeSet (hpick _).fit t.register_msr hwrites fun i => t.encode (fields i)
      refine ⟨[], st.world, ⟨st.raw, st.init, fields⟩, ?_, ⟨hready', ?_⟩, hworks, heach, hothers⟩
      · show thermCall P t w s (.set fields) = _
        simp only [thermCall, t.store_eq, t.set_eq, hstore, hset, Option.bind_eq_bind,
          Option.bind_some]
        rfl
      · rw [hworks.same.failsWrite]
        exact hwrites

theorem registerContract_kept (hpick : PicksAll P pick) (hn : P.cfg.numDevs ≤ 2 ^ 16) :
    (registerContract P pick).Kept where
  call m w s o h := m.call hpick hn w s o h
  stable _ m' hne _ _ _ h hcall :=
    m'.inv_stable (RegisterModule.batch_injective.ne hne) h hcall
  outside _ hf _ _ _ h := RegisterModule.inv_outside _ hf h

end Keeps

/-! ## Runs -/

/-- The registers of the modules. -/
def moduleMsrs : List Nat :=
  [ia32Aperf, ia32Mperf, ia32TimeStampCounter, msrPkgC2Residency, msrPkgC3Residency,
    msrPkgC6Residency, msrPkgC7Residency, msrCoreC3Residency, msrCoreC6Residency,
    msrCoreC7Residency, temperatureTarget.msr, thermStatus.msr, thermInterrupt.msr,
    packageThermStatus.msr, packageThermInterrupt.msr]

theorem moduleMsrs_lt : ∀ msr ∈ moduleMsrs, msr < 2 ^ 32 := by decide

theorem clocksMsr_mem (k : Nat) : clocksMsr k ∈ moduleMsrs := by
  rcases k with _ | _ | k <;> simp [clocksMsr, moduleMsrs]

theorem pkgCresMsr_mem (k : Nat) : pkgCresMsr k ∈ moduleMsrs := by
  rcases k with _ | _ | _ | k <;> simp [pkgCresMsr, moduleMsrs]

theorem coreCresMsr_mem (k : Nat) : coreCresMsr k ∈ moduleMsrs := by
  rcases k with _ | _ | k <;> simp [coreCresMsr, moduleMsrs]

theorem ThermModule.msr_mem (t : ThermModule) : t.register.msr ∈ moduleMsrs := by
  cases t <;> decide

/-- A machine on which the load functions find their CPUs, the driver works, and the
    registers of the modules can be read, the thermal ones also written. -/
structure ModulesWork (P : Platform) (pick : Pick) (h : Host) : Prop where
  picks : PicksAll P pick
  works : P.drv.Works P.batchfd h P.cfg.numDevs
  reads : ∀ cpu, cpu < P.cfg.numDevs → ∀ msr ∈ moduleMsrs, h.fails cpu msr = false
  writes : ∀ cpu, cpu < P.cfg.numDevs → ∀ t : ThermModule, h.failsWrite cpu t.register.msr = false

/-- Before any call.  What the structs hold does not matter. -/
def modulesStart (P : Platform) (host : Host) (target : Nat → Word)
    (fields : ∀ t : ThermModule, Nat → t.Fields) : State (registerModules P) where
  shared := ⟨.init, host⟩
  own
    | .clocks => .start
    | .pkgCres => .start
    | .coreCres => .start
    | .tempTarget => ⟨[], false, target⟩
    | .therm t => ⟨[], false, fields t⟩

section Runs

variable {P : Platform} {pick : Pick} {host : Host}

theorem ModulesWork.tableReads (h : ModulesWork P pick host) {count objects : Nat}
    {msr cpu : Nat → Nat} (hmsr : ∀ k, msr k ∈ moduleMsrs)
    (hcpu : ∀ t, t < objects → cpu t < P.cfg.numDevs) :
    TableReads P (plainLayout count objects msr cpu) host := by
  refine ⟨h.works, fun k t _ ht => ?_⟩
  have hlt : cpu t % 2 ^ 16 < P.cfg.numDevs := (Nat.mod_le _ _).trans_lt (hcpu t ht)
  show host.fails (cpu t % 2 ^ 16) (msr k % 2 ^ 32) = false
  rw [Nat.mod_eq_of_lt (moduleMsrs_lt _ (hmsr k))]
  exact h.reads _ hlt _ (hmsr k)

theorem tableReady_start (L : TableLayout) (b : Nat) (host : Host) :
    TableReady L b ⟨.init, host⟩ .start :=
  ⟨BatchStorage.init_sized, Or.inl ⟨rfl, rfl⟩⟩

theorem ModulesWork.thermReady (h : ModulesWork P pick host) {r : ThermRegister}
    (hr : r.msr ∈ moduleMsrs) : ThermReady P r (pick r.scope) ⟨⟨.init, host⟩, [], false⟩ where
  works := h.works
  reads i hi := h.reads _ ((h.picks r.scope).lt i hi) _ hr
  loaded := Or.inl ⟨rfl, rfl, BatchStorage.init_sized, rfl⟩

/-- At first every module finds what it relies on. -/
theorem ModulesWork.all (h : ModulesWork P pick host) (target : Nat → Word)
    (fields : ∀ t : ThermModule, Nat → t.Fields) :
    (registerContract P pick).All (modulesStart P host target fields) := by
  intro m
  cases m with
  | clocks =>
    exact ⟨⟨tableReady_start .., fun hset => absurd rfl hset, fun hset => absurd rfl hset⟩,
      h.tableReads clocksMsr_mem fun _ ht => ht⟩
  | pkgCres => exact ⟨tableReady_start .., h.tableReads pkgCresMsr_mem (h.picks .package).lt⟩
  | coreCres => exact ⟨tableReady_start .., h.tableReads coreCresMsr_mem (h.picks .core).lt⟩
  | tempTarget => exact h.thermReady (r := temperatureTarget) (by decide)
  | therm t =>
    exact ⟨h.thermReady t.msr_mem, fun i hi => h.writes _ ((h.picks _).lt i hi) t⟩

/-- **Any order of calls.**  From the start every sequence of calls of the modules, with
    any changes of the registers in between, goes through, and each call does what it
    is for. -/
theorem registerModules_run (h : ModulesWork P pick host) (target : Nat → Word)
    (fields : ∀ t : ThermModule, Nat → t.Fields) (turns : List (Turn (registerModules P)))
    (hturns : ∀ t ∈ turns, (registerContract P pick).Allowed t) :
    (∃ s, Runs.run (turn (registerModules P)) (modulesStart P host target fields) turns = some s) ∧
      Runs.Along (turn (registerModules P)) (registerContract P pick).Good
        (modulesStart P host target fields) turns := by
  obtain ⟨⟨s, hs, -⟩, halong⟩ :=
    (registerContract_kept h.picks (h.picks .package).fits).run (h.all target fields) hturns
  exact ⟨⟨s, hs⟩, halong⟩

/-- **Labels of the clock counters.**  In every state that calls of the modules lead to, the
    terse dump prints under the label of a counter and a thread what the register of
    the thread holds. -/
theorem clocksData_labelled (h : ModulesWork P pick host) (target : Nat → Word)
    (fields : ∀ t : ThermModule, Nat → t.Fields) (turns : List (Turn (registerModules P)))
    (hturns : ∀ t ∈ turns, (registerContract P pick).Allowed t) {s : State (registerModules P)}
    (hrun : Runs.run (turn (registerModules P)) (modulesStart P host target fields) turns =
      some s) :
    ∃ values w' c', dumpClocksDataTerse P s.shared (s.own .clocks) = some (values, w', c') ∧
      Listing.Labelled (Listing.columnText 2 clocksNames)
        (fun l => s.shared.host.regs l.2 (clocksMsr l.1)) (dumpClocksDataTerseLabel P.cfg)
        values := by
  have hn : P.cfg.numDevs ≤ 2 ^ 16 := (h.picks .package).fits
  obtain ⟨⟨s', hs', hall⟩, -⟩ :=
    (registerContract_kept h.picks hn).run (h.all target fields) hturns
  obtain rfl := Option.some.inj (hrun.symm.trans hs')
  obtain ⟨hready, hreads⟩ := hall .clocks
  exact hready.terse_labelled (by omega) hn hreads

end Runs

/-! ## Two sockets -/

theorem twoSockets_modulesWork (regs : RegFile) :
    ModulesWork twoSockets (fun _ => id) { Host.opened 2 with regs := regs } where
  picks := by
    intro scope
    cases scope with
    | core => exact twoSockets_picks.2
    | package => exact twoSockets_picks.1
  works := inOrder_works (by omega) 3 _
  reads cpu hcpu _ _ := decide_eq_false (Nat.not_le.mpr hcpu)
  writes cpu hcpu _ := decide_eq_false (Nat.not_le.mpr hcpu)

/-- The registers of a machine all change to `x`. -/
def setAllRegs (x : Word) (w : BatchWorld) : BatchWorld :=
  { w with host := { w.host with regs := fun _ _ => x } }

theorem setAllRegs_change (x : Word) : RegistersChange (setAllRegs x) :=
  ⟨fun _ => rfl, fun _ => ⟨rfl, rfl, rfl, rfl⟩⟩

/-- Clock counters, residencies and a threshold, while the registers change. -/
theorem twoSockets_modules :
    let turns : List (Turn (registerModules twoSockets)) :=
      [.call .clocks ClocksOp.terse, .call .pkgCres (), .outside (setAllRegs 7),
        .call (.therm .interrupt) (ThermOp.set fun _ => ThermInterrupt.ofMsr 3),
        .call .clocks ClocksOp.readable, .call .coreCres (), .call .tempTarget (),
        .call (.therm .interrupt) ThermOp.get]
    Runs.Along (turn (registerModules twoSockets)) (registerContract twoSockets fun _ => id).Good
      (modulesStart twoSockets (.opened 2) (fun _ => 0) fun t _ => t.decode 0) turns := by
  intro turns
  refine (registerModules_run (twoSockets_modulesWork (Host.opened 2).regs) _ _ turns ?_).2
  intro t ht
  simp only [turns, List.mem_cons, List.not_mem_nil, or_false] at ht
  rcases ht with rfl | rfl | rfl | rfl | rfl | rfl | rfl | rfl <;>
    first
      | trivial
      | exact setAllRegs_change 7

/-- Where every register holds 7, so do all columns. -/
theorem twoSockets_clocksData :
    ∃ s values w' c', Runs.run (turn (registerModules twoSockets))
        (modulesStart twoSockets (.opened 2) (fun _ => 0) fun t _ => t.decode 0)
        [.outside (setAllRegs 7)] = some s ∧
      dumpClocksDataTerse twoSockets s.shared (s.own .clocks) = some (values, w', c') ∧
      Listing.Labelled (Listing.columnText 2 clocksNames) (fun _ => (7 : Word))
        ["aperf00", "mperf00", "tsc00", "aperf01", "mperf01", "tsc01"] values := by
  have hallowed : ∀ t ∈ [Turn.outside (setAllRegs 7)],
      (registerContract twoSockets fun _ => id).Allowed t := by
    intro t ht
    obtain rfl := List.mem_singleton.mp ht
    exact setAllRegs_change 7
  obtain ⟨values, w', c', hdump, hlabelled⟩ :=
    clocksData_labelled (twoSockets_modulesWork (Host.opened 2).regs) (fun _ => 0)
      (fun t _ => t.decode 0) [.outside (setAllRegs 7)] hallowed rfl
  exact ⟨_, values, w', c', rfl, hdump, hlabelled⟩

end Libmsr
