/-
  Libmsr.Thermal.ThermStatSpec

  The six log bits of a thermal status register, and what `set_therm_stat` and
  `set_pkg_therm_stat` write to them.

  The package function shifts each log to its own bit.  The core function clears
  the six bits but shifts every log by 1, so the five others end up in the bit of
  the first: it writes what it should exactly when they are 0.
-/
import Libmsr.Thermal.ThermalFields
import Libmsr.Thermal.ThermalRuns

namespace Libmsr

open BitFields

/-! ## Logs -/

/-- The logs of a core with the bits they belong to. -/
def ThermStat.logs (s : ThermStat) : List (Nat × BitVec 32) :=
  [(1, s.statusLog), (3, s.prochotOrForceprLog), (5, s.critTempLog), (7, s.thermThresh1Log),
    (9, s.thermThresh2Log), (11, s.powerNotificationLog)]

/-- The logs of a socket with the bits they belong to. -/
def PkgThermStat.logs (s : PkgThermStat) : List (Nat × BitVec 32) :=
  [(1, s.statusLog), (3, s.prochotLog), (5, s.critTempLog), (7, s.thermThresh1Log),
    (9, s.thermThresh2Log), (11, s.powerNotificationLog)]

/-- Every log is 0 or 1. -/
def Binary (logs : List (Nat × BitVec 32)) : Prop := ∀ l ∈ logs, l.2.toNat < 2

instance (logs : List (Nat × BitVec 32)) : Decidable (Binary logs) :=
  inferInstanceAs (Decidable (∀ l ∈ logs, l.2.toNat < 2))

/-- The word `new` is `old` with every log in its bit. -/
structure LogsWritten (logs : List (Nat × BitVec 32)) (old new : Word) : Prop where
  each : ∀ l ∈ logs, new.getLsbD l.1 = l.2.getLsbD 0
  others : ∀ i, i < 64 → (∀ l ∈ logs, l.1 ≠ i) → new.getLsbD i = old.getLsbD i

/-- A log that is 0 or 1 is its bit. -/
theorem eq_of_bit {v : BitVec 32} (hv : v.toNat < 2) :
    v = BitVec.ofNat 32 (v.getLsbD 0).toNat := by
  apply BitVec.eq_of_toNat_eq
  rw [BitVec.toNat_ofNat, ← BitVec.testBit_toNat, Nat.testBit_zero]
  rcases Nat.le_one_iff_eq_zero_or_eq_one.mp (Nat.le_of_lt_succ hv) with h | h <;> simp [h]

theorem intField_of_bit {x : Word} {n : Nat} {v : BitVec 32} (hn : n < 64)
    (hv : v.toNat < 2) (h : x.getLsbD n = v.getLsbD 0) : intField x n n = v := by
  rw [intField_bit x hn, h]
  exact (eq_of_bit hv).symm

/-- The logs that were written are the logs that are read. -/
theorem logs_read {logs : List (Nat × BitVec 32)} (hbin : Binary logs)
    (hlt : ∀ l ∈ logs, l.1 < 64) {old new : Word} (h : LogsWritten logs old new) :
    logs.map (fun l => (l.1, intField new l.1 l.1)) = logs := by
  calc logs.map (fun l => (l.1, intField new l.1 l.1)) = logs.map id := by
        apply List.map_congr_left
        intro l hl
        rw [intField_of_bit (hlt l hl) (hbin l hl) (h.each l hl)]
        rfl
    _ = logs := List.map_id _

theorem ThermStat.logs_ofMsr {s : ThermStat} (hbin : Binary s.logs) {old new : Word}
    (h : LogsWritten s.logs old new) : (ThermStat.ofMsr new).logs = s.logs :=
  logs_read hbin (by simp [ThermStat.logs]) h

theorem PkgThermStat.logs_ofMsr {s : PkgThermStat} (hbin : Binary s.logs) {old new : Word}
    (h : LogsWritten s.logs old new) : (PkgThermStat.ofMsr new).logs = s.logs :=
  logs_read hbin (by simp [PkgThermStat.logs]) h

/-! ## What the package function writes -/

/-- Each log shifted to its own bit. -/
theorem logsWritten_put {logs : List (Nat × BitVec 32)} (hbin : Binary logs)
    (hdistinct : logs.Pairwise fun a b => a.1 ≠ b.1) (hlt : ∀ l ∈ logs, l.1 < 31) (x : Word) :
    LogsWritten logs x (logs.foldl (fun x l => replaceBits x 1 l.1 l.2 l.1) x) := by
  induction logs generalizing x with
  | nil => exact ⟨fun _ hl => absurd hl List.not_mem_nil, fun _ _ _ => rfl⟩
  | cons l logs ih =>
    obtain ⟨hl, hrest⟩ := List.pairwise_cons.mp hdistinct
    have hl31 := hlt l (List.mem_cons_self ..)
    have hlbin := hbin l (List.mem_cons_self ..)
    have hw := ih (fun l' hl' => hbin l' (List.mem_cons_of_mem _ hl')) hrest
      (fun l' hl' => hlt l' (List.mem_cons_of_mem _ hl')) (replaceBits x 1 l.1 l.2 l.1)
    constructor
    · intro l' hl'
      rcases List.mem_cons.mp hl' with rfl | hl'
      · -- the bits of the later logs are other ones
        rw [List.foldl_cons, hw.others _ (by omega) fun l'' hl'' => (hl l'' hl'').symm,
          getLsbD_replaceBits_bit hl31 hl31 hlbin (by omega)]
        simp
      · exact hw.each l' hl'
    · intro i hi hne
      have hi' : i ≠ l.1 := (hne l (List.mem_cons_self ..)).symm
      rw [List.foldl_cons, hw.others i hi fun l' hl' => hne l' (List.mem_cons_of_mem _ hl'),
        getLsbD_replaceBits_bit hl31 hl31 hlbin hi]
      simp [hi']

theorem PkgThermStat.logsWritten_toMsr {s : PkgThermStat} (hbin : Binary s.logs) (x : Word) :
    LogsWritten s.logs x (s.toMsr x) := by
  have hdistinct : s.logs.Pairwise fun a b => a.1 ≠ b.1 := by simp [PkgThermStat.logs]
  have hlt : ∀ l ∈ s.logs, l.1 < 31 := by simp [PkgThermStat.logs]
  exact logsWritten_put hbin hdistinct hlt x

/-! ## What the core function writes -/

section ShiftOne

variable {logs : List (Nat × BitVec 32)} (hbin : Binary logs) (hlt : ∀ l ∈ logs, l.1 < 31)
include hbin hlt

/-- Each log shifted to bit 1: the bits they belong to are cleared. -/
theorem getLsbD_shiftOne (x : Word) {i : Nat} (hi : i < 64) (hne : i ≠ 1) :
    (logs.foldl (fun x l => replaceBits x 1 l.1 l.2 1) x).getLsbD i =
      (x.getLsbD i && logs.all fun l => l.1 ≠ i) := by
  induction logs generalizing x with
  | nil => simp
  | cons l logs ih =>
    have hl31 := hlt l (List.mem_cons_self ..)
    have hlbin := hbin l (List.mem_cons_self ..)
    rw [List.foldl_cons, ih (fun l' hl' => hbin l' (List.mem_cons_of_mem _ hl'))
      (fun l' hl' => hlt l' (List.mem_cons_of_mem _ hl')),
      getLsbD_replaceBits_bit hl31 (by omega) hlbin hi, List.all_cons]
    simp [hne, Bool.and_assoc, eq_comm]

/-- Bit 1 collects what the later logs leave there. -/
theorem getLsbD_shiftOne_one (hne : ∀ l ∈ logs, l.1 ≠ 1) (x : Word) :
    (logs.foldl (fun x l => replaceBits x 1 l.1 l.2 1) x).getLsbD 1 =
      (x.getLsbD 1 || logs.any fun l => l.2.getLsbD 0) := by
  induction logs generalizing x with
  | nil => simp
  | cons l logs ih =>
    have hl31 := hlt l (List.mem_cons_self ..)
    have hlbin := hbin l (List.mem_cons_self ..)
    have hl := (hne l (List.mem_cons_self ..)).symm
    rw [List.foldl_cons, ih (fun l' hl' => hbin l' (List.mem_cons_of_mem _ hl'))
      (fun l' hl' => hlt l' (List.mem_cons_of_mem _ hl'))
      (fun l' hl' => hne l' (List.mem_cons_of_mem _ hl')),
      getLsbD_replaceBits_bit hl31 (by omega) hlbin (by omega), List.any_cons]
    simp [hl, Bool.or_assoc]

end ShiftOne

section Core

variable {s : ThermStat}

theorem ThermStat.toMsr_eq (s : ThermStat) (x : Word) :
    s.toMsr x = s.logs.foldl (fun x l => replaceBits x 1 l.1 l.2 1) x := rfl

theorem ThermStat.log_lt : ∀ l ∈ s.logs, l.1 < 31 := by simp [ThermStat.logs]

/-- The logs after the first. -/
def ThermStat.laterLogs (s : ThermStat) : List (Nat × BitVec 32) := s.logs.tail

theorem ThermStat.logs_eq (s : ThermStat) : s.logs = (1, s.statusLog) :: s.laterLogs := rfl

theorem ThermStat.laterLog_mem {l : Nat × BitVec 32} (hl : l ∈ s.laterLogs) : l ∈ s.logs :=
  List.mem_of_mem_tail hl

theorem ThermStat.laterLog_ne : ∀ l ∈ s.laterLogs, l.1 ≠ 1 := by
  simp [ThermStat.laterLogs, ThermStat.logs]

/-- The bit of a later log is cleared. -/
theorem ThermStat.getLsbD_toMsr_later (hbin : Binary s.logs) (x : Word) {l : Nat × BitVec 32}
    (hl : l ∈ s.laterLogs) : (s.toMsr x).getLsbD l.1 = false := by
  have hmem := ThermStat.laterLog_mem hl
  have hlt := ThermStat.log_lt l hmem
  have hall : (s.logs.all fun l' => l'.1 ≠ l.1) = false :=
    List.all_eq_false.mpr ⟨l, hmem, by simp⟩
  rw [ThermStat.toMsr_eq, getLsbD_shiftOne hbin ThermStat.log_lt x (by omega)
    (ThermStat.laterLog_ne l hl), hall, Bool.and_false]

/-- The bit of the first log is set when any log is. -/
theorem ThermStat.getLsbD_toMsr_one (hbin : Binary s.logs) (x : Word) :
    (s.toMsr x).getLsbD 1 =
      (s.statusLog.getLsbD 0 || s.laterLogs.any fun l => l.2.getLsbD 0) := by
  have hstatus : s.statusLog.toNat < 2 := hbin (1, s.statusLog) (List.mem_cons_self ..)
  have hlater : Binary s.laterLogs := fun l hl => hbin l (ThermStat.laterLog_mem hl)
  have hlt : ∀ l ∈ s.laterLogs, l.1 < 31 := fun l hl =>
    ThermStat.log_lt l (ThermStat.laterLog_mem hl)
  have hone : (1 : Nat) < 31 := by omega
  rw [ThermStat.toMsr_eq, ThermStat.logs_eq, List.foldl_cons,
    getLsbD_shiftOne_one hlater hlt ThermStat.laterLog_ne,
    getLsbD_replaceBits_bit hone hone hstatus (by omega)]
  simp

/-- A bit without a log stays. -/
theorem ThermStat.getLsbD_toMsr_other (hbin : Binary s.logs) (x : Word) {i : Nat} (hi : i < 64)
    (hne : ∀ l ∈ s.logs, l.1 ≠ i) : (s.toMsr x).getLsbD i = x.getLsbD i := by
  have hone : i ≠ 1 := (hne (1, s.statusLog) (List.mem_cons_self ..)).symm
  have hall : (s.logs.all fun l => l.1 ≠ i) = true :=
    List.all_eq_true.mpr fun l hl => decide_eq_true (hne l hl)
  rw [ThermStat.toMsr_eq, getLsbD_shiftOne hbin ThermStat.log_lt x hi hone, hall, Bool.and_true]

/-- No log but the first is set. -/
def ThermStat.OnlyStatus (s : ThermStat) : Prop := ∀ l ∈ s.laterLogs, l.2 = 0

instance (s : ThermStat) : Decidable s.OnlyStatus :=
  inferInstanceAs (Decidable (∀ l ∈ s.laterLogs, l.2 = 0))

theorem ThermStat.logsWritten_toMsr_iff (hbin : Binary s.logs) (x : Word) :
    LogsWritten s.logs x (s.toMsr x) ↔ s.OnlyStatus := by
  constructor
  · -- a log whose bit is cleared is 0
    intro h l hl
    have hmem := ThermStat.laterLog_mem hl
    have hbit := (h.each l hmem).symm.trans (ThermStat.getLsbD_toMsr_later hbin x hl)
    rw [eq_of_bit (hbin l hmem), hbit]
    rfl
  · intro hzero
    have hbit : ∀ l ∈ s.laterLogs, l.2.getLsbD 0 = false := fun l hl => by
      rw [hzero l hl]
      rfl
    constructor
    · intro l hl
      rcases List.mem_cons.mp (ThermStat.logs_eq s ▸ hl) with rfl | hl
      · have hany : (s.laterLogs.any fun l => l.2.getLsbD 0) = false :=
          List.any_eq_false.mpr fun l hl => Bool.eq_false_iff.mp (hbit l hl)
        rw [ThermStat.getLsbD_toMsr_one hbin, hany, Bool.or_false]
      · rw [hbit l hl, ThermStat.getLsbD_toMsr_later hbin x hl]
    · exact fun i hi hne => ThermStat.getLsbD_toMsr_other hbin x hi hne

end Core

/-! ## Runs -/

section Runs

variable {P : Platform} {pick : Nat → Nat} {s : ThermState}

/-- `set_therm_stat` puts each core's logs in their bits, and `get_therm_stat`
    reads them back. -/
def SetsThermStat (P : Platform) (pick : Nat → Nat) : ThermState → (Nat → ThermStat) → Prop :=
  SetsAndGets P thermStatus pick (setThermStat P) (getThermStat P)
    (fun s => LogsWritten s.logs) fun s got => got.logs = s.logs

/-- The same for `set_pkg_therm_stat` and the sockets. -/
def SetsPkgThermStat (P : Platform) (pick : Nat → Nat) :
    ThermState → (Nat → PkgThermStat) → Prop :=
  SetsAndGets P packageThermStatus pick (setPkgThermStat P) (getPkgThermStat P)
    (fun s => LogsWritten s.logs) fun s got => got.logs = s.logs

/-- Each socket is written and read back. -/
theorem setsPkgThermStat_of_inv
    (hpick : PicksFit P.cfg P.topo HwThread.socketId P.cfg.sockets pick)
    (hI : ThermInv P packageThermStatus pick s) (hinit : s.init = true)
    {fields : Nat → PkgThermStat} (hbin : ∀ i, i < P.cfg.sockets → Binary (fields i).logs) :
    SetsPkgThermStat P pick s fields := by
  refine (setsAndGets_iff hpick hI hinit fields).mpr fun i hi => ?_
  have hwrote := PkgThermStat.logsWritten_toMsr (hbin i hi)
    (s.world.host.regs (pick i) packageThermStatus.msr)
  exact ⟨hwrote, PkgThermStat.logs_ofMsr (hbin i hi) hwrote⟩

/-- Each core is written and read back if its later logs are 0, and only then. -/
theorem setsThermStat_iff_of_inv (hpick : Picks P.cfg P.topo HwThread.coreId
      (P.cfg.sockets * P.cfg.coresPerSocket) pick)
    (hI : ThermInv P thermStatus pick s) (hinit : s.init = true) {fields : Nat → ThermStat}
    (hbin : ∀ i, i < P.cfg.sockets * P.cfg.coresPerSocket → Binary (fields i).logs) :
    SetsThermStat P pick s fields ↔
      ∀ i, i < P.cfg.sockets * P.cfg.coresPerSocket → (fields i).OnlyStatus := by
  -- what is read back follows from what is written
  refine (setsAndGets_iff hpick.fit hI hinit fields).trans ?_
  constructor
  · intro h i hi
    exact (ThermStat.logsWritten_toMsr_iff (hbin i hi) _).mp (h i hi).1
  · intro h i hi
    have hwrote := (ThermStat.logsWritten_toMsr_iff (hbin i hi)
      (s.world.host.regs (pick i) thermStatus.msr)).mpr (h i hi)
    exact ⟨hwrote, ThermStat.logs_ofMsr (hbin i hi) hwrote⟩

/-- **Logs of the cores.**  In every state that calls and the hardware can reach,
    `set_therm_stat` writes all logs if and only if those after the first are 0 on
    every core. -/
theorem setsThermStat_iff (hreached : ThermReached P thermStatus ThermStat.ofMsr ThermStat.toMsr
      pick s) {fields : Nat → ThermStat}
    (hbin : ∀ i, i < P.cfg.sockets * P.cfg.coresPerSocket → Binary (fields i).logs) :
    SetsThermStat P pick s fields ↔
      ∀ i, i < P.cfg.sockets * P.cfg.coresPerSocket → (fields i).OnlyStatus :=
  setsThermStat_iff_of_inv hreached.picks (hreached.inv (by decide)) hreached.init hbin

end Runs

/-- With the first log of each core set, all is written. -/
theorem twoSockets_setsThermStat :
    ∃ s, Runs.run (thermStep twoSockets thermStatus ThermStat.ofMsr ThermStat.toMsr)
        (twoSocketsTherm 0) [.store] = some s ∧
      SetsThermStat twoSockets id s fun _ => { ThermStat.ofMsr 0 with statusLog := 1 } := by
  obtain ⟨s, hrun, hreached, -⟩ := twoSocketsTherm_reached (r := thermStatus) ThermStat.ofMsr
    ThermStat.toMsr 0 twoSockets_picks.2 rfl (by decide) rfl
  exact ⟨s, hrun, (setsThermStat_iff hreached fun _ _ => by decide).mpr fun _ _ => by decide⟩

/-- A critical temperature log is not written. -/
theorem twoSockets_critTempLog_lost :
    ∃ s, Runs.run (thermStep twoSockets thermStatus ThermStat.ofMsr ThermStat.toMsr)
        (twoSocketsTherm 0) [.store] = some s ∧ s.init = true ∧
      Binary ({ ThermStat.ofMsr 0 with critTempLog := 1 } : ThermStat).logs ∧
      ¬ SetsThermStat twoSockets id s fun _ => { ThermStat.ofMsr 0 with critTempLog := 1 } := by
  obtain ⟨s, hrun, hreached, -⟩ := twoSocketsTherm_reached (r := thermStatus) ThermStat.ofMsr
    ThermStat.toMsr 0 twoSockets_picks.2 rfl (by decide) rfl
  refine ⟨s, hrun, hreached.init, by decide, fun hsets => ?_⟩
  have hstatus := (setsThermStat_iff_of_inv hreached.picks (hreached.inv (by decide))
    hreached.init fun _ _ => by decide).mp hsets 0 (by decide)
  revert hstatus
  decide

end Libmsr
