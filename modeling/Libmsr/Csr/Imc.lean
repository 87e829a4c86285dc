/-
  Libmsr.Csr.Imc

  The counters of the integrated memory controllers (src/csr_imc.c):
  `load_imc_batch_for_each`, `pmon_ctr_storage` and `init_pmon_ctrs`, and the loop
  by which `print_mem_bw_from_ctr` and the other print functions name the slots of a
  counter.

  The devices, functions and register offsets are macros of the platform header that
  the build copies to master.h.  Intel57.h defines none of them.
-/
import Libmsr.Csr.CsrBatch

namespace Libmsr

/-- The iMC macros of a platform header.  Some headers have a second device for channels
    2 and 3 of each controller, `IMC0_2_DEV` and `IMC1_2_DEV`; no code uses them. -/
structure ImcHeader where
  imc0Dev : BitVec 8
  imc02Dev : Option (BitVec 8)
  imc1Dev : BitVec 8
  imc12Dev : Option (BitVec 8)
  imcCh0Func : BitVec 8
  imcCh1Func : BitVec 8
  imcCh2Func : BitVec 8
  imcCh3Func : BitVec 8
  csrPmonctr0 : Nat
  csrPmonctr1 : Nat
  csrPmonctr2 : Nat
  csrPmonctr3 : Nat
  csrPmonctrcfg0 : Nat
  csrPmonctrcfg1 : Nat
  csrPmonctrcfg2 : Nat
  csrPmonctrcfg3 : Nat
  deriving Repr, DecidableEq

/-- Intel2D.h. -/
def intel2D : ImcHeader :=
  ⟨16, none, 0, none, 0, 1, 4, 5, 0xA0, 0xA8, 0xB0, 0xB8, 0xD8, 0xDC, 0xE0, 0xE4⟩

/-- Intel3E.h. -/
def intel3E : ImcHeader :=
  ⟨16, none, 30, none, 4, 5, 0, 1, 0xA0, 0xA8, 0xB0, 0xB8, 0xD8, 0xDC, 0xE0, 0xE8⟩

/-- Intel3F.h. -/
def intel3F : ImcHeader :=
  ⟨20, some 21, 23, some 24, 0, 1, 0, 1, 0xA0, 0xA8, 0xB0, 0xB8, 0xD8, 0xDC, 0xE0, 0xE8⟩

/-- Intel4F.h. -/
def intel4F : ImcHeader := intel3F

/-- Intel55.h. -/
def intel55 : ImcHeader := intel3F

/-- `NUMCTRS`. -/
def numCtrs : Nat := 8

/-- `CSR_IMC_CTRS`. -/
def csrImcCtrs : Nat := 0

/-- `CSR_IMC_EVTS`. -/
def csrImcEvts : Nat := 1

/-- Device, function and socket of an op. -/
structure ImcPlace where
  device : BitVec 8
  function : BitVec 8
  socket : BitVec 8
  deriving Repr, DecidableEq

/-! ## load_imc_batch_for_each -/

/-- The places of the creates for one socket, in order. -/
def ImcHeader.socketPlaces (h : ImcHeader) (socket : BitVec 8) : List ImcPlace :=
  [⟨h.imc0Dev, h.imcCh0Func, socket⟩, ⟨h.imc0Dev, h.imcCh1Func, socket⟩,
    ⟨h.imc0Dev, h.imcCh2Func, socket⟩, ⟨h.imc0Dev, h.imcCh3Func, socket⟩,
    ⟨h.imc1Dev, h.imcCh0Func, socket⟩, ⟨h.imc1Dev, h.imcCh1Func, socket⟩,
    ⟨h.imc1Dev, h.imcCh2Func, socket⟩, ⟨h.imc1Dev, h.imcCh3Func, socket⟩]

/-- The places of all creates: socket 0, and socket 1 if there is one. -/
def ImcHeader.places (h : ImcHeader) (sockets : Nat) : List ImcPlace :=
  h.socketPlaces 0 ++ if sockets > 1 then h.socketPlaces 1 else []

/-- What the creates of one call have in common. -/
structure ImcLoad where
  offt : Nat
  isread : BitVec 8
  size : Nat
  batchno : Nat
  deriving Repr, DecidableEq

/-- The arguments of a create. -/
def ImcLoad.args (x : ImcLoad) (p : ImcPlace) : CsrOpArgs :=
  ⟨x.offt, 1, p.device, p.function, p.socket, x.isread, x.size⟩

/-- `create_csr_batch_op(.., &loc[idx], ..)`, its return code dropped. -/
def imcOp (x : ImcLoad) (st : CsrBatchStorage) (loc : List (Option Ptr)) (idx : Nat)
    (p : ImcPlace) : Option (List (Option Ptr) × CsrBatchStorage) := do
  let (_, dest, st) ← createCsrBatchOp st (x.args p) x.batchno
  match dest with
  | none => some (loc, st)
  | some ptr => if idx < loc.length then some (loc.set idx (some ptr), st) else none

/-- The creates that follow the first one, each to `loc[++idx]`. -/
def imcOps (x : ImcLoad) : CsrBatchStorage → List (Option Ptr) → Nat → List ImcPlace →
    Option (Nat × List (Option Ptr) × CsrBatchStorage)
  | st, loc, idx, [] => some (idx, loc, st)
  | st, loc, idx, p :: ps => do
    let (loc, st) ← imcOp x st loc (idx + 1) p
    imcOps x st loc (idx + 1) ps

/-- `load_imc_batch_for_each` on an array that is there: what it returns, the array and
    the table. -/
def loadImcBatchForEach (h : ImcHeader) (sockets : Nat) (x : ImcLoad) (loc : List (Option Ptr))
    (st : CsrBatchStorage) : Option (Nat × List (Option Ptr) × CsrBatchStorage) :=
  match h.places sockets with
  | [] => some (0, loc, st)
  | p :: ps => do
    let (loc, st) ← imcOp x st loc 0 p
    imcOps x st loc 0 ps

/-! ## init_pmon_ctrs -/

/-- `struct pmonctrs_data`. -/
structure PmonctrsData where
  ctr0 : List (Option Ptr)
  ctr1 : List (Option Ptr)
  ctr2 : List (Option Ptr)
  ctr3 : List (Option Ptr)
  ctr4 : List (Option Ptr)
  ctrcfg0 : List (Option Ptr)
  ctrcfg1 : List (Option Ptr)
  ctrcfg2 : List (Option Ptr)
  ctrcfg3 : List (Option Ptr)
  ctrcfg4 : List (Option Ptr)
  deriving Repr, DecidableEq

/-- The array that the print functions use for a counter. -/
def PmonctrsData.ctr (pcd : PmonctrsData) : Nat → Option (List (Option Ptr))
  | 0 => some pcd.ctr0
  | 1 => some pcd.ctr1
  | 2 => some pcd.ctr2
  | 3 => some pcd.ctr3
  | 4 => some pcd.ctr4
  | _ => none

/-- The array that `pmon_config` uses for a counter. -/
def PmonctrsData.ctrcfg (pcd : PmonctrsData) : Nat → Option (List (Option Ptr))
  | 0 => some pcd.ctrcfg0
  | 1 => some pcd.ctrcfg1
  | 2 => some pcd.ctrcfg2
  | 3 => some pcd.ctrcfg3
  | 4 => some pcd.ctrcfg4
  | _ => none

/-- `pmon_ctr_storage`, on its first call. -/
def pmonCtrStorage (sockets : Nat) : PmonctrsData :=
  let zeroes := List.replicate (numCtrs * sockets) none
  ⟨zeroes, zeroes, zeroes, zeroes, zeroes, zeroes, zeroes, zeroes, zeroes, zeroes⟩

/-- Outcome of `init_pmon_ctrs`: its return code, what the loads returned, the counter
    data and the table. -/
structure PmonInit where
  rc : Int
  loads : List Nat
  pcd : PmonctrsData
  st : CsrBatchStorage

/-- `init_pmon_ctrs`, on its first call.  `none` also when `10 * allocated`, and so maybe
    `allocated * 4`, overflows an `int`. -/
def initPmonCtrs (h : ImcHeader) (sockets : Nat) (st : CsrBatchStorage) : Option PmonInit :=
  let allocated := numCtrs * sockets
  let pcd := pmonCtrStorage sockets
  if 2 ^ 31 ≤ 10 * allocated then none
  else do
    let (_, st) ← allocateCsrBatch st csrImcCtrs (allocated * 4)
    let (_, st) ← allocateCsrBatch st csrImcEvts (allocated * 4)
    let (n0, ctr0, st) ←
      loadImcBatchForEach h sockets ⟨h.csrPmonctr0, 1, 8, csrImcCtrs⟩ pcd.ctr0 st
    let (n1, ctr1, st) ←
      loadImcBatchForEach h sockets ⟨h.csrPmonctr1, 1, 8, csrImcCtrs⟩ pcd.ctr1 st
    let (n2, ctr2, st) ←
      loadImcBatchForEach h sockets ⟨h.csrPmonctr2, 1, 8, csrImcCtrs⟩ pcd.ctr2 st
    let (n3, ctr3, st) ←
      loadImcBatchForEach h sockets ⟨h.csrPmonctr3, 1, 8, csrImcCtrs⟩ pcd.ctr3 st
    let (n4, ctrcfg0, st) ←
      loadImcBatchForEach h sockets ⟨h.csrPmonctrcfg0, 0, 4, csrImcEvts⟩ pcd.ctrcfg0 st
    let (n5, ctrcfg1, st) ←
      loadImcBatchForEach h sockets ⟨h.csrPmonctrcfg1, 0, 4, csrImcEvts⟩ pcd.ctrcfg1 st
    let (n6, ctrcfg2, st) ←
      loadImcBatchForEach h sockets ⟨h.csrPmonctrcfg2, 0, 4, csrImcEvts⟩ pcd.ctrcfg2 st
    let (n7, ctrcfg3, st) ←
      loadImcBatchForEach h sockets ⟨h.csrPmonctrcfg3, 0, 4, csrImcEvts⟩ pcd.ctrcfg3 st
    some {
      rc := 10 * allocated
      loads := [n0, n1, n2, n3, n4, n5, n6, n7]
      pcd := ⟨ctr0, ctr1, ctr2, ctr3, pcd.ctr4, ctrcfg0, ctrcfg1, ctrcfg2, ctrcfg3, pcd.ctrcfg4⟩
      st := st }

/-! ## The names of the slots -/

/-- The counters of a print loop. -/
structure PrintCounters where
  devctr : BitVec 8
  func : BitVec 8
  sockctr : BitVec 8
  deriving Repr, DecidableEq

/-- Their values when iteration `i` prints. -/
def printCounters : Nat → PrintCounters
  | 0 => ⟨0, 0, 0⟩
  | i + 1 =>
    let s := printCounters i
    -- func++ ends the iteration before
    { devctr := (if (i + 1) % 4 = 0 then s.devctr + 1 else s.devctr) % 2
      func := (s.func + 1) % 4
      sockctr := if (i + 1) % 8 = 0 then s.sockctr + 1 else s.sockctr }

/-- `devnums[k]`. -/
def ImcHeader.devnum (h : ImcHeader) (k : Nat) : BitVec 8 :=
  [h.imc0Dev, h.imc1Dev].getD k 0

/-- `funcnums[k]`. -/
def ImcHeader.funcnum (h : ImcHeader) (k : Nat) : BitVec 8 :=
  [h.imcCh0Func, h.imcCh1Func, h.imcCh2Func, h.imcCh3Func].getD k 0

/-- "dev %d func %d sock %d" in iteration `i`. -/
def ImcHeader.printed (h : ImcHeader) (i : Nat) : ImcPlace :=
  let s := printCounters i
  ⟨h.devnum s.devctr.toNat, h.funcnum s.func.toNat, s.sockctr⟩

end Libmsr
