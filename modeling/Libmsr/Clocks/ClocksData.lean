/-
  Libmsr.Clocks.ClocksData

  `clocks_storage` and the dumps of the clock counters (src/msr_clocks.c):
  `dump_clocks_data_terse_label`, `dump_clocks_data_terse` and
  `dump_clocks_data_readable`.

  The fields `aperf`, `mperf` and `tsc` of the struct are the arrays 0, 1 and 2.
  `ClocksReady` is what every call keeps, and both dumps print what the registers
  hold.
-/
import Libmsr.Core.TableStorage
import Libmsr.Lib.Listing

namespace Libmsr

open Listing

def ia32Aperf : Nat := 0xE8
def ia32Mperf : Nat := 0xE7
def ia32TimeStampCounter : Nat := 0x10

/-- `CLOCKS_DATA`, a batch number. -/
def clocksDataBatch : Nat := 6

/-- The register of `aperf`, `mperf` or `tsc`. -/
def clocksMsr : Nat → Nat
  | 0 => ia32Aperf
  | 1 => ia32Mperf
  | _ => ia32TimeStampCounter

/-! ## The functions -/

/-- `d` and `init` of `clocks_storage`, and `totalThreads` of the two dumps.  Their `cd`
    is null as long as `totalThreads` is 0. -/
structure ClocksStatics where
  data : TableStatics
  terseThreads : Nat
  readableThreads : Nat

/-- Before any call. -/
def ClocksStatics.start : ClocksStatics := ⟨.start, 0, 0⟩

/-- `clocks_storage`. -/
def clocksStorage (P : Platform) (w : BatchWorld) (s : TableStatics) :
    Option (BatchWorld × TableStatics) :=
  tableStorage (loadThreadBatch P.cfg) clocksDataBatch 3 P.cfg.numDevs clocksMsr w s

/-- The block of both dumps that runs while `totalThreads` is 0. -/
def storeClocksOnce (P : Platform) (w : BatchWorld) (s : TableStatics) (totalThreads : Nat) :
    Option (BatchWorld × TableStatics × Nat) :=
  if totalThreads ≠ 0 then some (w, s, totalThreads)
  else do
    let (w, s) ← clocksStorage P w s
    some (w, s, P.cfg.numDevs)

/-- What both dumps do before they print. -/
def readClocks (P : Platform) (w : BatchWorld) (s : TableStatics) (totalThreads : Nat) :
    Option (BatchWorld × TableStatics × Nat) := do
  let (w, s, totalThreads) ← storeClocksOnce P w s totalThreads
  let w ← w.readBatch P clocksDataBatch
  some (w, s, totalThreads)

/-- `dump_clocks_data_terse`: the numbers it prints. -/
def dumpClocksDataTerse (P : Platform) (w : BatchWorld) (s : ClocksStatics) :
    Option (List Word × BatchWorld × ClocksStatics) := do
  let (w, data, totalThreads) ← readClocks P w s.data s.terseThreads
  let lines ← printTable w clocksDataBatch 3 totalThreads data.arrays
  some (lines.flatten, w, { s with data := data, terseThreads := totalThreads })

/-- `dump_clocks_data_readable`: the numbers of each line.  Line `i` is for thread `i`. -/
def dumpClocksDataReadable (P : Platform) (w : BatchWorld) (s : ClocksStatics) :
    Option (List (List Word) × BatchWorld × ClocksStatics) := do
  let (w, data, totalThreads) ← readClocks P w s.data s.readableThreads
  let lines ← printTable w clocksDataBatch 3 totalThreads data.arrays
  some (lines, w, { s with data := data, readableThreads := totalThreads })

/-- The labels of `aperf`, `mperf` and `tsc`. -/
def clocksNames : List String := ["aperf", "mperf", "tsc"]

/-- `dump_clocks_data_terse_label`: the labels it prints. -/
def dumpClocksDataTerseLabel (cfg : CoreConfig) : List String :=
  (List.range cfg.numDevs).flatMap fun i =>
    ["aperf" ++ pad 2 i, "mperf" ++ pad 2 i, "tsc" ++ pad 2 i]

/-! ## What they keep and what they print -/

/-- Three registers of every thread. -/
def clocksLayout (cfg : CoreConfig) : TableLayout := plainLayout 3 cfg.numDevs clocksMsr id

/-- The table is ready, and a dump whose `totalThreads` is set has set `init`. -/
structure ClocksReady (P : Platform) (w : BatchWorld) (s : ClocksStatics) : Prop where
  table : TableReady (clocksLayout P.cfg) clocksDataBatch w s.data
  terse : s.terseThreads ≠ 0 → s.terseThreads = P.cfg.numDevs ∧ s.data.init = true
  readable : s.readableThreads ≠ 0 → s.readableThreads = P.cfg.numDevs ∧ s.data.init = true

/-- The lines of the clock counters. -/
def clocksLines (cfg : CoreConfig) (regs : RegFile) : List (List Word) :=
  (List.range cfg.numDevs).map fun t =>
    [regs t ia32Aperf, regs t ia32Mperf, regs t ia32TimeStampCounter]

theorem clocksMsr_lt (k : Nat) : clocksMsr k < 2 ^ 32 := by
  have h : ∀ m ∈ [ia32Aperf, ia32Mperf, ia32TimeStampCounter], m < 2 ^ 32 := by decide
  refine h _ ?_
  rcases k with _ | _ | k <;> simp [clocksMsr]

theorem tableLines_clocks {cfg : CoreConfig} (hn : cfg.numDevs ≤ 2 ^ 16) (regs : RegFile) :
    tableLines 3 cfg.numDevs (tableRegs regs clocksMsr id) = clocksLines cfg regs :=
  tableLines_eq clocksMsr_lt fun _ ht => ht.trans_le hn

section Dumps

variable {P : Platform} {w : BatchWorld} {s : TableStatics} {totalThreads : Nat}

/-- The table is read, whether or not this is the first dump. -/
theorem readClocks_spec (hsmall : 3 * P.cfg.numDevs < 2 ^ 31)
    (h : TableReady (clocksLayout P.cfg) clocksDataBatch w s)
    (hset : totalThreads ≠ 0 → totalThreads = P.cfg.numDevs ∧ s.init = true)
    (hreads : TableReads P (clocksLayout P.cfg) w.host) :
    ∃ w' s', readClocks P w s totalThreads = some (w', s', P.cfg.numDevs) ∧
      printTable w' clocksDataBatch 3 P.cfg.numDevs s'.arrays =
        some (tableLines 3 P.cfg.numDevs (tableRegs w.host.regs clocksMsr id)) ∧
      TableReady (clocksLayout P.cfg) clocksDataBatch w' s' ∧ s'.init = true ∧
      w'.host.regs = w.host.regs ∧ WorksOn clocksDataBatch w w' := by
  obtain ⟨w₁, s₁, id₁, data₁, hstore, hinit₁, htable₁, hhost₁, hworks₁⟩ :=
    h.storage (loadThreadBatch_loadsRow P.cfg) hsmall
  -- the call of `clocks_storage` is skipped once it has been made
  have hhead : storeClocksOnce P w s totalThreads = some (w₁, s₁, P.cfg.numDevs) := by
    by_cases hzero : totalThreads ≠ 0
    · obtain ⟨hthreads, hinit⟩ := hset hzero
      have hskip : some (w, s) = some (w₁, s₁) := by
        rw [← hstore, tableStorage, if_pos hinit]
      obtain ⟨rfl, rfl⟩ := Prod.mk.inj (Option.some.inj hskip)
      rw [storeClocksOnce, if_pos hzero, hthreads]
    · have hcall : clocksStorage P w s = some (w₁, s₁) := hstore
      rw [storeClocksOnce, if_neg hzero, hcall]
      rfl
  obtain ⟨w₂, hread, hprint, hready, hregs, hworks₂⟩ :=
    htable₁.readAndPrint hinit₁ (hhost₁ ▸ hreads)
  refine ⟨w₂, s₁, ?_, hhost₁ ▸ hprint, hready, hinit₁, hhost₁ ▸ hregs, hworks₁.trans hworks₂⟩
  rw [readClocks, hhead]
  simp only [Option.bind_eq_bind, Option.bind_some, hread]

variable {c : ClocksStatics} (hsmall : 3 * P.cfg.numDevs < 2 ^ 31) (hn : P.cfg.numDevs ≤ 2 ^ 16)
  (h : ClocksReady P w c) (hreads : TableReads P (clocksLayout P.cfg) w.host)
include hsmall hn h hreads

/-- `dump_clocks_data_terse` prints the registers. -/
theorem ClocksReady.terse_dump :
    ∃ w' c', dumpClocksDataTerse P w c = some ((clocksLines P.cfg w.host.regs).flatten, w', c') ∧
      ClocksReady P w' c' ∧ w'.host.regs = w.host.regs ∧ WorksOn clocksDataBatch w w' := by
  obtain ⟨w', s', hcall, hprint, hready, hinit, hregs, hworks⟩ :=
    readClocks_spec hsmall h.table h.terse hreads
  refine ⟨w', { c with data := s', terseThreads := P.cfg.numDevs }, ?_,
    ⟨hready, fun _ => ⟨rfl, hinit⟩, fun hset => ⟨(h.readable hset).1, hinit⟩⟩, hregs, hworks⟩
  rw [tableLines_clocks hn] at hprint
  simp only [dumpClocksDataTerse, hcall, hprint, Option.bind_eq_bind, Option.bind_some]

/-- `dump_clocks_data_readable` prints the registers. -/
theorem ClocksReady.readable_dump :
    ∃ w' c', dumpClocksDataReadable P w c = some (clocksLines P.cfg w.host.regs, w', c') ∧
      ClocksReady P w' c' ∧ w'.host.regs = w.host.regs ∧ WorksOn clocksDataBatch w w' := by
  obtain ⟨w', s', hcall, hprint, hready, hinit, hregs, hworks⟩ :=
    readClocks_spec hsmall h.table h.readable hreads
  refine ⟨w', { c with data := s', readableThreads := P.cfg.numDevs }, ?_,
    ⟨hready, fun hset => ⟨(h.terse hset).1, hinit⟩, fun _ => ⟨rfl, hinit⟩⟩, hregs, hworks⟩
  rw [tableLines_clocks hn] at hprint
  simp only [dumpClocksDataReadable, hcall, hprint, Option.bind_eq_bind, Option.bind_some]

/-- The terse dump prints each counter under its label. -/
theorem ClocksReady.terse_labelled :
    ∃ values w' c', dumpClocksDataTerse P w c = some (values, w', c') ∧
      Labelled (columnText 2 clocksNames) (fun l => w.host.regs l.2 (clocksMsr l.1))
        (dumpClocksDataTerseLabel P.cfg) values := by
  obtain ⟨w', c', hdump, -⟩ := h.terse_dump hsmall hn hreads
  refine ⟨_, w', c', hdump, ?_⟩
  have hcolumns := labelled_columns 2 clocksNames (by decide) (by decide) P.cfg.numDevs
    fun k t => w.host.regs t (clocksMsr k)
  rw [List.flatMap_def] at hcolumns
  exact hcolumns

end Dumps

end Libmsr
