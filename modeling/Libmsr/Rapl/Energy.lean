/-
  Libmsr.Rapl.Energy

  Measuring energy: `rapl_data_batch_size`, `create_rapl_data_batch`,
  `read_rapl_data`, `delta_rapl_data` and `poll_rapl_data` (src/msr_rapl.c).

  The arrays of one domain in `struct rapl_data` are allocated together with one
  element for each socket, so they are kept as one list of cells; `none` is a
  domain whose array pointers were never set.  Going through such a pointer, and
  any other step without defined behaviour, has the result `none`.
-/
import Libmsr.Core.BatchLoad
import Libmsr.Core.BatchOp
import Libmsr.Rapl.Limits

namespace Libmsr

/-! ## Registers, flags and batches -/

def msrPkgEnergyStatus : Nat := 0x611
def msrPkgPerfStatus : Nat := 0x613
def msrDramEnergyStatus : Nat := 0x619
def msrDramPerfStatus : Nat := 0x61B

def pkgEnergyStatus : Word := 0x4
def pkgPerfStatus : Word := 0x8
def dramEnergyStatus : Word := 0x40
def dramPerfStatus : Word := 0x80

/-- `RAPL_DATA`. -/
def raplData : Nat := 0

/-! ## struct rapl_data -/

/-- `struct timeval`. -/
structure Timeval where
  tvSec : Int
  tvUsec : Int
  deriving Repr, DecidableEq

/-- One socket's elements of the package arrays. -/
structure PkgCell (K : Type) where
  bits : Option Ptr
  oldBits : Word
  joules : K
  oldJoules : K
  deltaJoules : K
  deltaBits : Word
  watts : K

/-- One socket's elements of the DRAM arrays. -/
structure DramCell (K : Type) where
  bits : Option Ptr
  oldBits : Word
  joules : K
  oldJoules : K
  deltaJoules : K
  watts : K

/-- The cell of a pointer in freshly `calloc`ed arrays. -/
def PkgCell.calloced {K : Type} [Zero K] (bits : Option Ptr) : PkgCell K := ⟨bits, 0, 0, 0, 0, 0, 0⟩

@[inherit_doc PkgCell.calloced]
def DramCell.calloced {K : Type} [Zero K] (bits : Option Ptr) : DramCell K := ⟨bits, 0, 0, 0, 0, 0⟩

/-- `struct rapl_data`. -/
structure RaplData (K : Type) where
  now : Timeval
  oldNow : Timeval
  elapsed : K
  pkg : Option (List (PkgCell K))
  dram : Option (List (DramCell K))
  pkgPerfCount : Option (List (Option Ptr))
  dramPerfCount : Option (List (Option Ptr))

/-- The static state of the measuring functions: the batches, the measurements,
    and the `init` flags of `read_rapl_data` and `delta_rapl_data`. -/
structure EnergyState (K : Type) where
  st : BatchStorage
  rapl : RaplData K
  readInit : Bool
  deltaInit : Bool

/-- What a poll meets: the machine at that moment and the time of day. -/
structure Poll where
  host : Host
  now : Timeval

/-- Work on element `s` of an array that may not be there. -/
def updateAt {γ : Type} (arr : Option (List γ)) (s : Nat) (f : γ → Option γ) :
    Option (Option (List γ)) := do
  let cells ← arr
  let cell ← cells[s]?
  let cell ← f cell
  some (some (cells.set s cell))

/-- Follow a pointer into the ops of batch `RAPL_DATA`. -/
def BatchStorage.deref (st : BatchStorage) (p : Option Ptr) : Option Word := do
  let p ← p
  let op ← st.opAt raplData p
  some op.msrdata

section Energy

variable {K : Type} [Field K] [LinearOrder K] [IsStrictOrderedRing K] [FloorRing K]
  (R : RaplSetup K)

/-! ## create_rapl_data_batch -/

/-- `rapl_data_batch_size`.  The fourth test repeats the second. -/
def raplDataBatchSize (flags : Word) : Nat :=
  (if announces flags pkgPerfStatus then 1 else 0)
    + (if announces flags pkgEnergyStatus then 1 else 0)
    + (if announces flags dramEnergyStatus then 1 else 0)
    + (if announces flags pkgEnergyStatus then 1 else 0)

/-- A block of `create_rapl_data_batch`: if the flags announce the register,
    allocate an array of one pointer for each socket and load it. -/
def loadAnnounced (st : BatchStorage) (flag : Word) (msr : Nat) :
    Option (Option (List (Option Ptr)) × BatchStorage) :=
  if announces R.flags flag then do
    let (_, val, st) ←
      loadSocketBatch R.cfg R.topo st msr (some (List.replicate R.cfg.sockets none)) raplData
    some (val, st)
  else some (none, st)

/-- `create_rapl_data_batch`.  Arrays that are not allocated stay what they were. -/
def createRaplDataBatch (st : BatchStorage) (rapl : RaplData K) :
    Option (BatchStorage × RaplData K) := do
  let (_, st) ← allocateBatch st raplData (raplDataBatchSize R.flags * R.cfg.sockets)
  let (pkgBits, st) ← loadAnnounced R st pkgEnergyStatus msrPkgEnergyStatus
  let (pkgPerfCount, st) ← loadAnnounced R st pkgPerfStatus msrPkgPerfStatus
  let (dramBits, st) ← loadAnnounced R st dramEnergyStatus msrDramEnergyStatus
  let (dramPerfCount, st) ← loadAnnounced R st dramPerfStatus msrDramPerfStatus
  some (st, { rapl with
    pkg := (pkgBits.map (·.map .calloced)).or rapl.pkg
    pkgPerfCount := pkgPerfCount.or rapl.pkgPerfCount
    dram := (dramBits.map (·.map .calloced)).or rapl.dram
    dramPerfCount := dramPerfCount.or rapl.dramPerfCount })

/-! ## read_rapl_data -/

/-- Loop body of the initialisation in `read_rapl_data`.  The flags are not
    looked at. -/
def zeroJoules (rapl : RaplData K) (s : Nat) : Option (RaplData K) := do
  let pkg ← updateAt rapl.pkg s fun c => some { c with joules := 0, oldJoules := 0 }
  let dram ← updateAt rapl.dram s fun c => some { c with joules := 0, oldJoules := 0 }
  some { rapl with pkg := pkg, dram := dram }

/-- The initialisation in `read_rapl_data`. -/
def initRaplData (st : BatchStorage) (rapl : RaplData K) : Option (BatchStorage × RaplData K) := do
  let (st, rapl) ← createRaplDataBatch R st rapl
  let rapl := { rapl with now := ⟨0, 0⟩, oldNow := ⟨0, 0⟩, elapsed := 0 }
  let rapl ← (List.range R.cfg.sockets).foldlM zeroJoules rapl
  some (st, rapl)

/-- Loop body that moves the current variables of a socket to the "old" ones.
    For the PERF registers there is only a message, "not yet implemented". -/
def moveToOld (st : BatchStorage) (rapl : RaplData K) (s : Nat) : Option (RaplData K) := do
  let pkg ←
    if announces R.flags pkgEnergyStatus then
      updateAt rapl.pkg s fun c => do
        let bits ← st.deref c.bits
        some { c with oldBits := bits, oldJoules := c.joules }
    else some rapl.pkg
  let dram ←
    if announces R.flags dramEnergyStatus then
      updateAt rapl.dram s fun c => do
        let bits ← st.deref c.bits
        some { c with oldBits := bits, oldJoules := c.joules }
    else some rapl.dram
  some { rapl with pkg := pkg, dram := dram }

/-- Loop body that translates a socket's new readings. -/
def translateReadings (st : BatchStorage) (rapl : RaplData K) (s : Nat) : Option (RaplData K) := do
  let dram ←
    if announces R.flags dramEnergyStatus then
      updateAt rapl.dram s fun c => do
        let bits ← st.deref c.bits
        let (_, _, joules) ← translate R.model R.ru s bits c.joules .bitsToJoulesDram
        some { c with joules := joules }
    else some rapl.dram
  let pkg ←
    if announces R.flags pkgEnergyStatus then
      updateAt rapl.pkg s fun c => do
        let bits ← st.deref c.bits
        let (_, _, joules) ← translate R.model R.ru s bits c.joules .bitsToJoules
        some { c with joules := joules }
    else some rapl.pkg
  some { rapl with pkg := pkg, dram := dram }

/-- The seconds between two timestamps. -/
def elapsedSeconds (now oldNow : Timeval) : K :=
  ((now.tvSec - oldNow.tvSec : Int) : K) + ((now.tvUsec - oldNow.tvUsec : Int) : K) / 1000000

/-- `read_rapl_data`. -/
def readRaplData (drv : BatchDriver) (fd : Int) (S : EnergyState K) (p : Poll) :
    Option (EnergyState K) := do
  -- initialisation on the first call
  let (st, rapl) ← if S.readInit then some (S.st, S.rapl) else initRaplData R S.st S.rapl
  let rapl := { rapl with oldNow := rapl.now, now := p.now }
  let rapl ←
    if S.readInit then
      (List.range R.cfg.sockets).foldlM (moveToOld R st)
        { rapl with elapsed := elapsedSeconds rapl.now rapl.oldNow }
    else some rapl
  -- the pointers of the cells see what the batch reads
  let r ← readBatch drv fd st p.host raplData
  let rapl ← (List.range R.cfg.sockets).foldlM (translateReadings R r.st) rapl
  some { S with st := r.st, rapl := rapl, readInit := true }

/-! ## delta_rapl_data -/

/-- `max_joules`: the energy status register holds 32 bits, this is max unsigned
    int. -/
def maxJoules : Nat := 2 ^ 32 - 1

/-- Loop body of the initialisation in `delta_rapl_data`. -/
def zeroWatts (rapl : RaplData K) (s : Nat) : Option (RaplData K) := do
  let pkg ←
    if announces R.flags pkgEnergyStatus then
      updateAt rapl.pkg s fun c => some { c with watts := 0 }
    else some rapl.pkg
  let dram ←
    if announces R.flags dramEnergyStatus then
      updateAt rapl.dram s fun c => some { c with watts := 0 }
    else some rapl.dram
  some { rapl with pkg := pkg, dram := dram }

/-- The package part of `delta_rapl_data`: check to see if there was wraparound
    and use the corresponding translation. -/
def pkgDelta (st : BatchStorage) (s : Nat) (c : PkgCell K) : Option (PkgCell K) := do
  let bits ← st.deref c.bits
  if (bits.toNat : K) - (c.oldBits.toNat : K) < 0 then
    -- wrapped: one count less than the register's modulus is added
    let deltaBits := bits + BitVec.ofNat 64 maxJoules - c.oldBits
    let (_, deltaBits, joules) ← translate R.model R.ru s deltaBits c.deltaJoules .bitsToJoules
    some { c with deltaBits := deltaBits, deltaJoules := joules }
  else some { c with deltaJoules := c.joules - c.oldJoules }

/-- The DRAM part of `delta_rapl_data`. -/
def dramDelta (c : DramCell K) : DramCell K :=
  if c.joules - c.oldJoules < 0 then
    -- wrapped: here a number of counts is added to joules
    { c with deltaJoules := c.joules + (maxJoules : K) - c.oldJoules }
  else { c with deltaJoules := c.joules - c.oldJoules }

/-- Loop body of `delta_rapl_data`. -/
def deltaSocket (st : BatchStorage) (rapl : RaplData K) (s : Nat) : Option (RaplData K) := do
  let pkg ←
    if announces R.flags pkgEnergyStatus then updateAt rapl.pkg s (pkgDelta R st s)
    else some rapl.pkg
  let dram ←
    if announces R.flags dramEnergyStatus then updateAt rapl.dram s fun c => some (dramDelta c)
    else some rapl.dram
  -- get watts
  if 0 < rapl.elapsed then do
    let pkg ←
      if announces R.flags pkgEnergyStatus then
        updateAt pkg s fun c => some { c with watts := c.deltaJoules / rapl.elapsed }
      else some pkg
    let dram ←
      if announces R.flags dramEnergyStatus then
        updateAt dram s fun c => some { c with watts := c.deltaJoules / rapl.elapsed }
      else some dram
    some { rapl with pkg := pkg, dram := dram }
  else do
    -- here the package flag is not looked at
    let pkg ← updateAt pkg s fun c => some { c with watts := 0 }
    let dram ←
      if announces R.flags dramEnergyStatus then
        updateAt dram s fun c => some { c with watts := 0 }
      else some dram
    some { rapl with pkg := pkg, dram := dram }

/-- `delta_rapl_data`. -/
def deltaRaplData (S : EnergyState K) : Option (EnergyState K) :=
  if !S.deltaInit then do
    let rapl ← (List.range R.cfg.sockets).foldlM (zeroWatts R) S.rapl
    some { S with rapl := { rapl with elapsed := 0 }, deltaInit := true }
  else do
    let rapl ← (List.range R.cfg.sockets).foldlM (deltaSocket R S.st) S.rapl
    some { S with rapl := rapl }

/-- `poll_rapl_data`, once `rapl_storage` has set up the measurements. -/
def pollRaplData (drv : BatchDriver) (fd : Int) (S : EnergyState K) (p : Poll) :
    Option (EnergyState K) := do
  let S ← readRaplData R drv fd S p
  deltaRaplData R S

end Energy

end Libmsr
