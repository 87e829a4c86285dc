/-
  Libmsr.Counters.PcuMachine

  Programs that use the uncore counters (src/msr_counters.c), and what they see.

  `PcuMachine` has the selected events and the registers, and remembers whether
  `clear_pcu` overwrote a pointer.  Nothing reads the counters: a dump prints zeroes,
  whatever was counted.
-/
import Libmsr.Core.TableWrites
import Libmsr.Counters.PcuRuns

namespace Libmsr

/-- A call, or the registers change by themselves. -/
inductive PcuUse where
  | one (flags reset occ eventsel : Word) (pcunum : Int) (socket : Nat)
  | all (flags reset occ eventsel : Word) (pcunum : Int)
  | enable
  | buffer (c : PcuCall)
  | machine (regs : RegFile)

/-- What the caller sees. -/
inductive PcuOutput where
  | done
  | rc (rc : Int)
  | lines (lines : List (List Word))
  deriving Repr, DecidableEq

/-- The registers of the machine are `regs`. -/
def PcuState.withRegs (s : PcuState) (regs : RegFile) : PcuState :=
  { s with world := { s.world with host := { s.world.host with regs := regs } } }

/-- One call of a program. -/
def pcuUse (P : Platform) (m : PcuMsrs) (s : PcuState) : PcuUse → Option (PcuOutput × PcuState)
  | .one flags reset occ eventsel pcunum socket =>
    (setPcuCtrlFlags P m flags reset occ eventsel pcunum s socket).map fun s => (.done, s)
  | .all flags reset occ eventsel pcunum =>
    (setAllPcuCtrl P m flags reset occ eventsel pcunum s).map fun s => (.done, s)
  | .enable => (enablePcu P m s).map fun s => (.done, s)
  | .buffer (.clear idx) => (clearPcu P m s idx).map fun r => (.rc r.1, r.2)
  | .buffer .clearAll => (clearAllPcu P m s).map fun s => (.done, s)
  | .buffer .dump => (dumpUncCounterData P m s).map fun r => (.lines r.1, r.2)
  | .machine regs => some (.done, s.withRegs regs)

/-! ## The machine -/

/-- The selected events by counter and socket, the registers, and whether a pointer to a
    counter was lost. -/
structure PcuMachine where
  events : Nat → Nat → Word
  regs : RegFile
  lost : Bool

namespace PcuMachine

/-- Before any call. -/
def start (regs : RegFile) : PcuMachine := ⟨fun _ _ => 0, regs, false⟩

/-- Selecting an event on the sockets `named`, which are there or not. -/
def select (a : PcuMachine) (word : Word) (pcunum : Int) (named : Nat → Bool) (there : Bool) :
    Option PcuMachine :=
  if 1 ≤ pcunum ∧ pcunum ≤ 4 then
    if there then
      some { a with events := fun k t => if pcunum = k + 1 ∧ named t then word else a.events k t }
    else none
  else some a

variable (P : Platform) (m : PcuMsrs) (pick : Nat → Nat) (a : PcuMachine)

/-- The counters of all sockets are 0.  Without its pointers that ends the program. -/
def cleared : Option PcuMachine :=
  if a.lost then none
  else some { a with regs := withTable P.cfg.sockets 4 m.ctr0 pick (fun _ _ => 0) a.regs }

/-- The events go to the registers, and the counters start from 0. -/
def enabled : Option PcuMachine :=
  { a with regs := withTable P.cfg.sockets 4 m.evntsel0 pick a.events a.regs }.cleared P m pick

/-- One call. -/
def use : PcuUse → Option (PcuOutput × PcuMachine)
  | .one flags reset occ eventsel pcunum socket =>
    (a.select (pcuCtrlWord flags reset occ eventsel) pcunum (fun t => t = socket)
      (socket < P.cfg.sockets)).map fun a => (.done, a)
  | .all flags reset occ eventsel pcunum =>
    (a.select (pcuCtrlWord flags reset occ eventsel) pcunum (fun _ => true) true).map
      fun a => (.done, a)
  | .enable => (a.enabled P m pick).map fun a => (.done, a)
  | .buffer (.clear idx) =>
    if P.cfg.sockets ≤ idx then some (.rc (-1), a)
    else if 0 ≤ idx then some (.rc 0, { a with lost := true })
    else none
  | .buffer .clearAll => (a.cleared P m pick).map fun a => (.done, a)
  | .buffer .dump =>
    if a.lost then none
    else some (.lines (List.replicate P.cfg.sockets (List.replicate 4 0)), a)
  | .machine regs => some (.done, { a with regs := regs })

end PcuMachine

end Libmsr
