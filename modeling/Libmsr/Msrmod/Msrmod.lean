/-
  Libmsr.Msrmod.Msrmod

  The command-line tool (msrmod/msrmod.c): its options, what it prints, and the
  accesses it makes, for CPU models that `setflags` knows.

  `getopt` is the caller of `applyOption`: a command line is the list of what it
  returns.  What the library's statics hold is in `R`, but for the flags, which
  `rapl_init` changes, and the descriptors, which `init_msr` opens.
-/
import Libmsr.Core.Lifecycle
import Libmsr.Counters.Pmc
import Libmsr.Msrmod.Defaults
import Libmsr.Rapl.Flags
import Libmsr.Rapl.RaplDump

namespace Libmsr

/-- An option with its `optarg`.  `unknown` is any other character of `getopt`, which
    leaves `optopt`. -/
inductive MsrmodOption where
  | v
  | i
  | p (optarg : String)
  | l (optarg : String)
  | r (optarg : String)
  | w (optarg : String)
  | s (optarg : String)
  | c (optarg : String)
  | t (optarg : String)
  | d (optarg : String)
  | a (optarg : String)
  | b (optarg : String)
  | e (optarg : String)
  | f (optarg : String)
  | unknown (optopt : Char)
  deriving Repr, DecidableEq

/-- The conversions of the C library that `main` calls: `strtol` to base 16, `atoi`
    and `atof`. -/
structure Conversions (K : Type) where
  strtol : String → Word
  atoi : String → BitVec 32
  atof : String → K

/-- The variables of `main`, and `ISVERBOSE`. -/
structure MsrmodVars where
  isverbose : Bool
  setMsrType : Option String
  msrData : Word
  msr : Word
  setMsrData : Bool
  thread : BitVec 32
  socket : BitVec 32
  isread : Bool
  iswrite : Bool
  isset : Bool
  powerLim1 : Int
  powerLim2 : Int
  timeLim1 : Int
  timeLim2 : Int
  deriving Repr, DecidableEq

def MsrmodVars.start : MsrmodVars where
  isverbose := false
  setMsrType := none
  msrData := 0
  msr := 0
  setMsrData := false
  thread := 0
  socket := 0
  isread := false
  iswrite := false
  isset := false
  powerLim1 := 0
  powerLim2 := 0
  timeLim1 := 0
  timeLim2 := 0

/-- Something printed: a text, the usage, a limit as `dump_rapl_limit` prints it, a
    number of `dump_rapl_power_info`, or an access. -/
inductive MsrmodPrint (K : Type) where
  | text (s : String)
  | error (s : String)
  | usage
  | limit (l : RaplLimit K)
  | info (x : RaplPrint K)
  | reading (msr : Word) (thread : BitVec 32) (msrData : Word)
  | writing (msrData msr : Word) (thread : BitVec 32)

/-- What a call finds around it: the files `init_msr` meets, and what the locals of
    `check_for_locks`, `get_rapl_stuff` and `dump_rapl_power_info` or
    `set_to_defaults` hold. -/
structure Surroundings (K : Type) where
  fs : FileSystem
  rl1 : RaplLimit K
  rl2 : RaplLimit K
  tar : TurboActivationRatioData K
  l1 : RaplLimit K
  l2 : RaplLimit K
  l3 : RaplLimit K
  raplinfo : RaplPowerInfo K

/-- The process, the RAPL flags, and what has been printed. -/
structure MsrmodWorld (K : Type) where
  proc : Process
  raplFlags : Word
  out : List (MsrmodPrint K)

namespace MsrmodWorld

variable {K : Type}

def print (s : MsrmodWorld K) (lines : List (MsrmodPrint K)) : MsrmodWorld K :=
  { s with out := s.out ++ lines }

def setHost (s : MsrmodWorld K) (h : Host) : MsrmodWorld K :=
  { s with proc := { s.proc with host := h } }

@[simp] theorem print_proc (s : MsrmodWorld K) (lines : List (MsrmodPrint K)) :
    (s.print lines).proc = s.proc := rfl
@[simp] theorem setHost_host (s : MsrmodWorld K) (h : Host) : (s.setHost h).proc.host = h := rfl

end MsrmodWorld

/-- `strncmp(type, name, strlen(name)) == 0`. -/
def beginsWith (type name : String) : Bool := name.toList.isPrefixOf type.toList

section Msrmod

variable {K : Type} [Field K] [LinearOrder K] [IsStrictOrderedRing K] [FloorRing K]

/-! ## The library -/

/-- `print_available_rapl`: the registers the flags announce. -/
def printAvailableRapl (raplFlags : Word) : List (MsrmodPrint K) :=
  [(powerUnitFlag, "MSR_RAPL_POWER_UNIT, 606h"), (pkgPowerLimit, "MSR_PKG_POWER_LIMIT, 610h"),
    (pkgEnergyStatus, "MSR_PKG_ENERGY_STATUS, 611h"),
    (pkgPerfStatus, "MSR_PKG_PERF_STATUS, 613h"),
    (pkgPowerInfo, "MSR_PKG_POWER_INFO, 614h"), (dramPowerLimit, "MSR_DRAM_POWER_LIMIT, 618h"),
    (dramEnergyStatus, "MSR_DRAM_ENERGY_STATUS, 619h"),
    (dramPerfStatus, "MSR_DRAM_PERF_STATUS, 61Bh"),
    (dramPowerInfo, "MSR_DRAM_POWER_INFO, 61Ch")].flatMap fun reg =>
      if announces raplFlags reg.1 then [.text reg.2] else []

/-- `print_available_counters`.  `avail` is what `cpuid_num_pmc` returns. -/
def printAvailableCounters (avail : Int) : List (MsrmodPrint K) :=
  [.text "IA32_FIXED_CTR_CTRL, 38Dh", .text "IA32_PERF_GLOBAL_CTRL, 38Fh",
    .text "IA32_PERF_GLOBAL_STATUS, 38Eh", .text "IA32_PERF_GLOBAL_OVF_CTRL, 390h",
    .text "IA32_FIXED_CTR0, 309h", .text "IA32_FIXED_CTR1, 30Ah",
    .text "IA32_FIXED_CTR2, 30Bh"] ++
  [((0 : Int), "IA32_PMC0, C1h", "IA32_PERFEVTSEL0, 186h"),
    (1, "IA32_PMC1, C2h", "IA32_PERFEVTSEL1, 187h"),
    (2, "IA32_PMC2, C3h", "IA32_PERFEVTSEL2, 188h"),
    (3, "IA32_PMC3, C4h", "IA32_PERFEVTSEL3, 189h"),
    (4, "IA32_PMC4, C5h", "IA32_PERFEVTSEL4, 18Ah"),
    (5, "IA32_PMC5, C6h", "IA32_PERFEVTSEL5, 18Bh"),
    (6, "IA32_PMC6, C7h", "IA32_PERFEVTSEL6, 18Ch"),
    (7, "IA32_PMC7, C8h", "IA32_PERFEVTSEL7, 18Dh")].flatMap fun pmc =>
      if avail > pmc.1 then [.text pmc.2.1, .text pmc.2.2] else []

variable (R : RaplSetup K)

/-- `init_msr` in the world: its return code, and the error the tool prints of it. -/
def initWorld (x : Surroundings K) (s : MsrmodWorld K) : Option (Int × MsrmodWorld K) := do
  let (rc, proc) ← initMsr R.cfg.numDevs x.fs s.proc
  let s := { s with proc := proc }
  if rc ≠ 0 then some (rc, s.print [.error "Error: unable to initialize msr."])
  else some (0, s)

/-! ## The functions of the tool -/

/-- `list_functions`. -/
def listFunctions (avail : Int) (x : Surroundings K) (type : String) (s : MsrmodWorld K) :
    Option (Int × MsrmodWorld K) := do
  let (rc, s) ← initWorld R x s
  if rc ≠ 0 then some (-1, s)
  else if beginsWith type "rapl" then
    some (0, s.print (.text "=== RAPL MSRs ===" :: printAvailableRapl s.raplFlags))
  else if beginsWith type "counters" then
    some (0, s.print (.text "=== Counter MSRs ===" :: printAvailableCounters avail))
  else if beginsWith type "all" then
    some (0, s.print ([.text "=== All MSRs ===", .text "- RAPL MSRs -"] ++
      printAvailableRapl s.raplFlags ++ [.text "- Counter MSRs -"] ++
      printAvailableCounters avail))
  else
    some (-1, s.print [.error ("Error: unknown list_functions() parameter " ++ type)])

/-- A socket of `get_rapl_stuff`. -/
def pkgStuff (h : Host) (socket : BitVec 32) (title1 title2 : String) (l1 l2 : RaplLimit K) :
    Option (List (MsrmodPrint K) × RaplLimit K × RaplLimit K × Host) := do
  let r ← getPkgRaplLimit R h socket (some l1) (some l2)
  let l1 := r.limit1.getD l1
  let l2 := r.limit2.getD l2
  some ([.text title1, .limit l1, .text title2, .limit l2], l1, l2, r.host)

/-- DRAM of a socket in `get_rapl_stuff`. -/
def dramStuff (h : Host) (socket : BitVec 32) (title : String) (l3 : RaplLimit K) :
    Option (List (MsrmodPrint K) × RaplLimit K × Host) := do
  let r ← getDramRaplLimit R h socket (some l3)
  let l3 := r.limit.getD l3
  some ([.text title, .limit l3], l3, r.host)

/-- `get_rapl_stuff`. -/
def getRaplStuff (h : Host) (x : Surroundings K) : Option (List (MsrmodPrint K) × Host) := do
  let (out1, l1, l2, h) ← pkgStuff R h 0 "- Socket 0 Limit 0 -" "- Socket 0 Limit 1 -" x.l1 x.l2
  let (out2, _, _, h) ← pkgStuff R h 1 "- Socket 1 Limit 0 -" "- Socket 1 Limit 1 -" l1 l2
  let (out3, l3, h) ← dramStuff R h 0 "- Socket 0 -" x.l3
  let (out4, _, h) ← dramStuff R h 1 "- Socket 1 -" l3
  some (.text "=== Pkg Domain ===" :: (out1 ++ out2) ++
    .text "=== DRAM Domain ===" :: (out3 ++ out4), h)

/-- `printing_functions`. -/
def printingFunctions (x : Surroundings K) (type : String) (s : MsrmodWorld K) :
    Option (Int × MsrmodWorld K) := do
  let (rc, s) ← initWorld R x s
  if rc ≠ 0 then some (-1, s)
  else do
    let (ret, raplFlags, h) ←
      raplInit { R with flags := s.raplFlags } 0 s.proc.host x.rl1 x.rl2 x.tar
    let s := { s.setHost h with raplFlags := raplFlags }
    if ret < 0 then some (-1, s.print [.error "Error: unable to initialize rapl."])
    else if beginsWith type "rapl" then do
      let (out, h) ← getRaplStuff { R with flags := raplFlags } h x
      some (0, (s.setHost h).print out)
    else if beginsWith type "info" then do
      let (out, _, h) ← dumpRaplPowerInfo { R with flags := raplFlags } h x.raplinfo
      some (0, (s.setHost h).print (out.map .info))
    else
      some (-1, s.print [.error ("Error: unknown printing_functions() parameter " ++ type)])

def socketTitle (socket : BitVec 32) : String := "=== Socket " ++ toString socket.toInt ++ " ==="

/-- What `set_mem_limit` and `set_functions` print of a limit in verbose mode. -/
def verboseLimit (isverbose : Bool) (titles : List String) (l : RaplLimit K) :
    List (MsrmodPrint K) :=
  if isverbose then titles.map .text ++ [.limit l] else []

/-- `set_mem_limit`. -/
def setMemLimit (isverbose : Bool) (socket : BitVec 32) (watts seconds : K)
    (s : MsrmodWorld K) : Option (MsrmodWorld K) := do
  let dramlim : RaplLimit K := ⟨0, watts, seconds⟩
  let s := s.print (verboseLimit isverbose [socketTitle socket, "- DRAM Power Limit -"] dramlim)
  let r ← setDramRaplLimit { R with flags := s.raplFlags } s.proc.host socket (some dramlim)
  some (s.setHost r.host)

/-- `set_functions`.  What `set_to_defaults` prints in verbose mode is left out. -/
def setFunctions (isverbose : Bool) (x : Surroundings K) (type : String) (socket : BitVec 32)
    (watts1 seconds1 watts2 seconds2 : K) (s : MsrmodWorld K) :
    Option (Int × MsrmodWorld K) := do
  let (rc, s) ← initWorld R x s
  if rc ≠ 0 then some (-1, s)
  else if beginsWith type "default" then do
    let (_, h) ← setToDefaults { R with flags := s.raplFlags } s.proc.host x.raplinfo
    some (0, s.setHost h)
  else if beginsWith type "memory" then do
    let s ← setMemLimit R isverbose socket watts1 seconds1 s
    some (0, s)
  else if beginsWith type "package" then do
    let socketlim : RaplLimit K := ⟨0, watts1, seconds1⟩
    let socketlim2 : RaplLimit K := ⟨0, watts2, seconds2⟩
    let s := s.print
      (verboseLimit isverbose [socketTitle socket, "- Power Limit 1 -"] socketlim ++
        verboseLimit isverbose ["- Power Limit 2 -"] socketlim2)
    let r ← setPkgRaplLimit { R with flags := s.raplFlags } s.proc.host socket (some socketlim)
      (some socketlim2)
    some (0, s.setHost r.host)
  else
    some (-1, s.print [.error ("Error: unknown set_functions() parameter " ++ type)])

/-! ## main -/

/-- A `double` assigned to an `int`, which is undefined where it does not fit. -/
def toInt32 (x : K) : Option Int :=
  let n := if 0 ≤ x then ⌊x⌋ else ⌈x⌉
  if -2 ^ 31 ≤ n ∧ n < 2 ^ 31 then some n else none

/-- What the loop of `main` does to its variables in the case of an option. -/
def MsrmodVars.assign (conv : Conversions K) (o : MsrmodOption) (vars : MsrmodVars) :
    Option MsrmodVars :=
  match o with
  | .v => some { vars with isverbose := true }
  | .r optarg => some { vars with isread := true, msr := conv.strtol optarg }
  | .w optarg => some { vars with iswrite := true, msr := conv.strtol optarg }
  | .s optarg => some { vars with setMsrType := some optarg, isset := true }
  | .c optarg => some { vars with socket := conv.atoi optarg }
  | .t optarg => some { vars with thread := conv.atoi optarg }
  | .d optarg => some { vars with setMsrData := true, msrData := conv.strtol optarg }
  | .a optarg => (toInt32 (conv.atof optarg)).map fun n => { vars with powerLim1 := n }
  | .b optarg => (toInt32 (conv.atof optarg)).map fun n => { vars with timeLim1 := n }
  | .e optarg => (toInt32 (conv.atof optarg)).map fun n => { vars with powerLim2 := n }
  | .f optarg => (toInt32 (conv.atof optarg)).map fun n => { vars with timeLim2 := n }
  | .i | .p _ | .l _ | .unknown _ => some vars

/-- What the loop of `main` does at once in the case of an option.  The return codes
    are dropped. -/
def applyOption (avail : Int) (o : MsrmodOption) (x : Surroundings K) (s : MsrmodWorld K) :
    Option (MsrmodWorld K) :=
  match o with
  | .i => some (s.print [.text "Interactive mode is not yet available"])
  | .p optarg => (printingFunctions R x optarg s).map Prod.snd
  | .l optarg => (listFunctions R avail x optarg s).map Prod.snd
  | _ => some s

/-- The loop of `main`: the variables and the world at its end, or the world where an
    unknown option ends the program. -/
def optionLoop (conv : Conversions K) (avail : Int) :
    List (MsrmodOption × Surroundings K) → MsrmodVars → MsrmodWorld K →
      Option (Option MsrmodVars × MsrmodWorld K)
  | [], vars, s => some (some vars, s)
  | (.unknown optopt, _) :: _, _, s =>
    some (none, s.print [.error ("Error: unknown parameter " ++ optopt.toString), .usage])
  | (o, x) :: opts, vars, s => do
    let s ← applyOption R avail o x s
    let vars ← vars.assign conv o
    optionLoop conv avail opts vars s

/-- The accesses of `main` after its loop. -/
def actOn (x : Surroundings K) (vars : MsrmodVars) (s : MsrmodWorld K) :
    Option (Int × MsrmodWorld K) :=
  if vars.isread && vars.iswrite then
    some (-1, s.print [.error "Error: can only perform read or write: -r OR -w.", .usage])
  else if vars.isread then do
    let (rc, s) ← initWorld R x s
    if rc ≠ 0 then some (-1, s)
    else
      let (_, msrData, h) := readMsrByIdx s.proc.host vars.thread vars.msr.toNat vars.msrData
      some (0, (s.setHost h).print [.reading vars.msr vars.thread msrData])
  else if vars.iswrite && vars.setMsrData then do
    let (rc, s) ← initWorld R x s
    if rc ≠ 0 then some (-1, s)
    else
      let (_, h) := writeMsrByIdx s.proc.host vars.thread vars.msr.toNat vars.msrData
      some (0, (s.setHost h).print [.writing vars.msrData vars.msr vars.thread])
  else if vars.iswrite && !vars.setMsrData then
    some (-1, s.print [.error "Error: missing value to write (-d).", .usage])
  else if vars.isset then
    match vars.setMsrType with
    | none => none
    | some type => do
      let (_, s) ← setFunctions R vars.isverbose x type vars.socket (vars.powerLim1 : K)
        (vars.timeLim1 : K) (vars.powerLim2 : K) (vars.timeLim2 : K) s
      some (0, s)
  else some (0, s)

/-- `main`, where the first argument does not ask for help. -/
def msrmodMain (conv : Conversions K) (avail : Int) (opts : List (MsrmodOption × Surroundings K))
    (x : Surroundings K) (s : MsrmodWorld K) : Option (Int × MsrmodWorld K) := do
  let (vars, s) ← optionLoop R conv avail opts .start s
  match vars with
  | none => some (-1, s)
  | some vars => actOn R x vars s

end Msrmod

end Libmsr
