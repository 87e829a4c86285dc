/-
  Libmsr.Counters.PmcMachine

  Programs that use the general-purpose counters (src/msr_counters.c): they select
  events, enable, clear and dump, while the counters count.

  `PmcMachine` is what such a program has in mind: the events that were selected and
  the registers.  It has no buffers.
-/
import Libmsr.Core.TableWrites
import Libmsr.Counters.PmcControl

namespace Libmsr

/-- `dump_pmc_data_readable`: below the line `Thread i` the counters of thread `i`, each
    with its number. -/
def dumpPmcDataReadable (P : Platform) (rax : Word) (s : PmcState) :
    Option (List (List (Nat × Word)) × PmcState) := do
  let s ← pmcStorage P rax s
  let w ← s.world.readBatch P countersDataBatch
  let lines ← (List.range P.cfg.numDevs).mapM fun i =>
    (fallThrough (cpuidNumPmc rax)).mapM fun k =>
      (w.loadAt countersDataBatch s.pmc k i).map fun x => (k, x)
  some (lines, { s with world := w })

/-- A call, or the registers change by themselves. -/
inductive PmcCall where
  | control (c : PmcCtrlCall)
  | enable
  | clearAll
  | clear (idx : Int)
  | dump
  | machine (regs : RegFile)

/-- What the caller sees. -/
inductive PmcOutput where
  | done
  | rc (rc : Int)
  | lines (lines : List (List (Nat × Word)))
  deriving Repr, DecidableEq

/-- The registers of the machine are `regs`. -/
def PmcState.withRegs (s : PmcState) (regs : RegFile) : PmcState :=
  { s with world := { s.world with host := { s.world.host with regs := regs } } }

/-- One call of a program. -/
def pmcCall (P : Platform) (rax : Word) (s : PmcState) : PmcCall → Option (PmcOutput × PmcState)
  | .control c => (pmcCtrlStep P rax s c).map fun s => (.done, s)
  | .enable => (enablePmc P rax s).map fun r => (.rc r.1, r.2)
  | .clearAll => (clearAllPmc P rax s).map fun s => (.done, s)
  | .clear idx => (clearPmc P rax s idx).map fun r => (.rc r.1, r.2)
  | .dump => (dumpPmcDataReadable P rax s).map fun r => (.lines r.1, r.2)
  | .machine regs => some (.done, s.withRegs regs)

/-! ## The machine -/

instance PmcCtrlCall.decidableThread (t : Nat) : (c : PmcCtrlCall) → Decidable (c.Thread t)
  | .one _ _ _ _ _ thread => inferInstanceAs (Decidable (thread = t))
  | .all _ _ _ _ _ => inferInstanceAs (Decidable True)

/-- The selected events by counter and thread, and the registers. -/
structure PmcMachine where
  events : Nat → Nat → Word
  regs : RegFile

namespace PmcMachine

variable (n avail : Nat) (m : PmcMachine)

/-- Before any call no event is selected. -/
def start (regs : RegFile) : PmcMachine := ⟨fun _ _ => 0, regs⟩

/-- Selecting an event touches no register.  A counter or thread that is not there ends
    the program. -/
def select (c : PmcCtrlCall) : Option PmcMachine :=
  if c.pmcnum < 1 ∨ 8 < c.pmcnum then some m
  else if c.pmcnum ≤ avail ∧ c.Valid n then
    some { m with events := fun k t =>
      if c.pmcnum = k + 1 ∧ c.Thread t then c.word else m.events k t }
  else none

/-- All counters of all threads are 0. -/
def cleared : PmcMachine :=
  { m with regs := withTable n avail ia32Pmc0 id (fun _ _ => 0) m.regs }

/-- The events go to the registers, and the counters start from 0. -/
def enabled : PmcMachine :=
  { m with regs := withTable n avail ia32Perfevtsel0 id m.events m.regs }.cleared n avail

/-- The counters, the last one first. -/
def lines : List (List (Nat × Word)) :=
  (List.range n).map fun t => (fallThrough avail).map fun k => (k, m.regs t (ia32Pmc0 + k))

/-- One call.  Clearing a single processor has a return code and no other effect. -/
def call : PmcCall → Option (PmcOutput × PmcMachine)
  | .control c => (m.select n avail c).map fun m => (.done, m)
  | .enable => some (.rc 0, m.enabled n avail)
  | .clearAll => some (.done, m.cleared n avail)
  | .clear idx =>
    if avail ≤ idx then some (.rc (-1), m)
    else if 1 ≤ idx ∧ n ≤ idx then none
    else some (.rc 0, m)
  | .dump => some (.lines (m.lines n avail), m)
  | .machine regs => some (.done, { m with regs := regs })

end PmcMachine

end Libmsr
