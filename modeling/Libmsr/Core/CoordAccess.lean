/-
  Libmsr.Core.CoordAccess

  Reading a register by coordinate, changing it and writing it back.

  `Serves` says that a coordinate exists and that its CPU's register can be read
  and written.  A read then returns the register (`Serves.read_eq`), a write
  replaces it (`Serves.write_eq`), and after both the coordinate is served as
  before.
-/
import Libmsr.Core.DeviceSpec

namespace Libmsr

/-- The coordinate is that of CPU `cpu`, whose register `msr` can be read and
    written. -/
structure Serves (cfg : CoreConfig) (g : Topo) (h : Host) (socket core thread : BitVec 32)
    (msr cpu : Nat) : Prop where
  fits : cfg.numDevs < 2 ^ 31
  ready : h.Ready cfg.numDevs
  inRange : InRange cfg socket.toNat core.toNat thread.toNat
  cpu_eq : flatIndex cfg g.discontinuousMapping socket.toNat core.toNat thread.toNat = cpu
  reads : h.fails cpu msr = false
  writes : h.failsWrite cpu msr = false

namespace Serves

variable {cfg : CoreConfig} {g : Topo} {h h' : Host} {socket core thread : BitVec 32}
  {msr cpu : Nat}

theorem read_eq (hs : Serves cfg g h socket core thread msr cpu) (val : Word) :
    readMsrByCoord cfg g h socket core thread msr val =
      (0, h.regs cpu msr, h.log (.read cpu msr)) := by
  rw [readMsrByCoord_inRange cfg g socket core thread msr hs.cpu_eq hs.fits hs.ready hs.inRange,
    hs.reads]
  rfl

theorem write_eq (hs : Serves cfg g h socket core thread msr cpu) (val : Word) :
    writeMsrByCoord cfg g h socket core thread msr val =
      (0, (h.setReg cpu msr val).log (.write cpu msr val)) := by
  rw [writeMsrByCoord_inRange cfg g socket core thread msr hs.cpu_eq hs.fits hs.ready hs.inRange,
    hs.writes]
  rfl

theorem of_sameDevices (hs : Serves cfg g h socket core thread msr cpu)
    (hsame : h.SameDevices h') : Serves cfg g h' socket core thread msr cpu where
  fits := hs.fits
  ready := hsame.ready hs.ready
  inRange := hs.inRange
  cpu_eq := hs.cpu_eq
  reads := by rw [hsame.fails, hs.reads]
  writes := by rw [hsame.failsWrite, hs.writes]

theorem log (hs : Serves cfg g h socket core thread msr cpu) (a : Access) :
    Serves cfg g (h.log a) socket core thread msr cpu :=
  hs.of_sameDevices ((Host.SameDevices.refl h).log a)

theorem setReg (hs : Serves cfg g h socket core thread msr cpu) (c r : Nat) (val : Word) :
    Serves cfg g (h.setReg c r val) socket core thread msr cpu :=
  hs.of_sameDevices ((Host.SameDevices.refl h).setReg c r val)

end Serves

/-- A machine whose devices are all open. -/
theorem opened_serves {cfg : CoreConfig} (g : Topo) (hfits : cfg.numDevs < 2 ^ 31)
    {socket core thread : BitVec 32}
    (hin : InRange cfg socket.toNat core.toNat thread.toNat) (msr : Nat) :
    Serves cfg g (.opened cfg.numDevs) socket core thread msr
      (flatIndex cfg g.discontinuousMapping socket.toNat core.toNat thread.toNat) where
  fits := hfits
  ready := Host.opened_ready cfg.numDevs
  inRange := hin
  cpu_eq := rfl
  reads := decide_eq_false
    (Nat.not_le.mpr (flatIndex_lt cfg g.discontinuousMapping hin.1 hin.2.1 hin.2.2))
  writes := decide_eq_false
    (Nat.not_le.mpr (flatIndex_lt cfg g.discontinuousMapping hin.1 hin.2.1 hin.2.2))

end Libmsr
