/-
  Libmsr.Core.TableStorage

  A `*_storage` function that allocates the pointer arrays of a struct, a batch for
  all its registers, and loads one register after the other: what
  `clocks_storage` (src/msr_clocks.c), `pkg_cres_storage` and `core_cres_storage`
  (src/msr_misc.c) have in common, and the loops that print such a table.

  `TableReady` is what every call keeps: the table is as before the first call, or it
  is loaded.
-/
import Libmsr.Core.RegisterTables

namespace Libmsr

/-! ## The functions -/

/-- The statics of a storage function: the arrays of its struct, and `init`. -/
structure TableStatics where
  arrays : RegArrays
  init : Bool

/-- Before any call. -/
def TableStatics.start : TableStatics := ⟨fun _ => none, false⟩

/-- `*_storage`, for `count` registers of `objects` threads, cores or sockets. -/
def tableStorage (load : LoadFunction) (batchnum count objects : Nat) (msr : Nat → Nat)
    (w : BatchWorld) (s : TableStatics) : Option (BatchWorld × TableStatics) :=
  if s.init then some (w, s)
  else do
    let arrays := (List.range count).foldl (callocArray objects) s.arrays
    let (_, st) ← allocateBatch w.st batchnum (count * objects)
    let (arrays, st) ← (List.range count).foldlM (loadArray load msr batchnum) (arrays, st)
    some ({ w with st := st }, ⟨arrays, true⟩)

/-- The loop of a dump: for each thread, core or socket its registers. -/
def printTable (w : BatchWorld) (batchnum count objects : Nat) (arrays : RegArrays) :
    Option (List (List Word)) :=
  (List.range objects).mapM fun i => (List.range count).mapM fun k => w.loadAt batchnum arrays k i

/-- A dump that stores, reads and prints: the numbers of each line. -/
def dumpTable (P : Platform)
    (storage : BatchWorld → TableStatics → Option (BatchWorld × TableStatics))
    (batchnum count objects : Nat) (w : BatchWorld) (s : TableStatics) :
    Option (List (List Word) × BatchWorld × TableStatics) := do
  let (w, s) ← storage w s
  let w ← w.readBatch P batchnum
  let lines ← printTable w batchnum count objects s.arrays
  some (lines, w, s)

/-! ## Calls on one batch -/

/-- What a call that works on batch `b` leaves alone: the devices, and the other
    batches. -/
structure WorksOn (b : Nat) (w w' : BatchWorld) : Prop where
  sized : w'.st.Sized
  same : w.host.SameDevices w'.host
  keeps : KeepsOthers w.st b w'.st

theorem WorksOn.trans {b : Nat} {w w' w'' : BatchWorld} (h : WorksOn b w w')
    (h' : WorksOn b w' w'') : WorksOn b w w'' :=
  ⟨h'.sized, h.same.trans h'.same, h.keeps.trans h'.keeps⟩

/-! ## Layout -/

theorem loadCoreBatch_loadsRow {cfg : CoreConfig} {g : Topo} {pick : Nat → Nat}
    (hfirst : ∀ v, v < cfg.sockets * cfg.coresPerSocket →
      firstDev g (fun entry => entry.coreId = v) 0 cfg.numDevs = some (some (pick v))) :
    LoadsRow (loadCoreBatch cfg g) (cfg.sockets * cfg.coresPerSocket) pick :=
  fun msr h hroom => h.loadCoreBatch msr hfirst hroom

/-- `count` registers, the first one first. -/
def plainLayout (count objects : Nat) (msr cpu : Nat → Nat) : TableLayout where
  count := count
  objects := objects
  row k := k
  msr := msr
  cpu := cpu
  row_lt _ hk := hk
  row_row _ _ := rfl

/-- What the registers of a table hold. -/
def tableRegs (regs : RegFile) (msr cpu : Nat → Nat) (k t : Nat) : Word :=
  RegFile.at regs (opPlace (msr k) (cpu t))

/-- The lines of a table. -/
def tableLines (count objects : Nat) (data : Nat → Nat → Word) : List (List Word) :=
  (List.range objects).map fun t => (List.range count).map fun k => data k t

/-- Numbers that fit are stored in the ops as they are. -/
theorem tableLines_eq {count objects : Nat} {msr cpu : Nat → Nat} {regs : RegFile}
    (hmsr : ∀ k, msr k < 2 ^ 32) (hcpu : ∀ t, t < objects → cpu t < 2 ^ 16) :
    tableLines count objects (tableRegs regs msr cpu) =
      (List.range objects).map fun t => (List.range count).map fun k => regs (cpu t) (msr k) := by
  refine List.map_congr_left fun t ht => List.map_congr_left fun k _ => ?_
  rw [tableRegs, RegFile.at, opPlace, Nat.mod_eq_of_lt (hcpu t (List.mem_range.mp ht)),
    Nat.mod_eq_of_lt (hmsr k)]

section Reading

variable {P : Platform} {L : TableLayout} {arrays : RegArrays} {b id m : Nat}
  {data : Nat → Nat → Word} {w : BatchWorld} (h : RegTable L arrays w.st b id data)
include h

/-- Reading the batch brings the registers into the table. -/
theorem RegTable.readBatch (hw : P.drv.Works P.batchfd w.host m)
    (hok : ∀ k t, k < L.count → t < L.objects →
      w.host.fails (opPlace (L.msr k) (L.cpu t)).1 (opPlace (L.msr k) (L.cpu t)).2 = false) :
    ∃ w', w.readBatch P b = some w' ∧
      RegTable L arrays w'.st b id (tableRegs w.host.regs L.msr L.cpu) ∧
      w'.host.regs = w.host.regs ∧ WorksOn b w w' := by
  have hok' : ∀ i, i < L.count * L.objects → w.host.fails (L.place i).1 (L.place i).2 = false := by
    intro i hi
    obtain ⟨hreg, hobject, -⟩ := TableLayout.slot_reg_object hi
    exact hok _ _ hreg hobject
  obtain ⟨w', hw', hcells, hregs, hsame, hkeep⟩ := h.cells.readBatch hw hok'
  exact ⟨w', hw', ⟨hcells, h.array⟩, hregs, hcells.sized, hsame, hkeep⟩

/-- The loop prints the table line by line. -/
theorem RegTable.printTable :
    Libmsr.printTable w b L.count L.objects arrays =
      some (tableLines L.count L.objects data) := by
  refine Loops.mapM_some fun t ht => Loops.mapM_some fun k hk => ?_
  exact h.loadAt (List.mem_range.mp hk) (List.mem_range.mp ht)

end Reading

/-! ## Storage -/

/-- The table is as before the first call, or it is loaded. -/
structure TableReady (L : TableLayout) (b : Nat) (w : BatchWorld) (s : TableStatics) : Prop where
  sized : w.st.Sized
  loaded : s.init = false ∧ w.st.entry b = .empty ∨
    s.init = true ∧ ∃ id data, RegTable L s.arrays w.st b id data

section Storage

variable {load : LoadFunction} {b count objects : Nat} {msr cpu : Nat → Nat} {w : BatchWorld}
  {s : TableStatics}

/-- Calls on other batches leave it so. -/
theorem TableReady.of_worksOn {L : TableLayout} {w' : BatchWorld} {b' : Nat}
    (h : TableReady L b w s) (hne : b ≠ b') (hcall : WorksOn b' w w') : TableReady L b w' s := by
  refine ⟨hcall.sized, ?_⟩
  rcases h.loaded with ⟨hinit, hempty⟩ | ⟨hinit, id, data, htable⟩
  · exact Or.inl ⟨hinit, (hcall.keeps.entry_ne b hne).trans hempty⟩
  · exact Or.inr ⟨hinit, id, data,
      htable.cells.of_keepsOthers hne hcall.sized hcall.keeps, htable.array⟩

theorem TableReady.of_host {L : TableLayout} (h : TableReady L b w s) (host : Host) :
    TableReady L b { w with host := host } s :=
  ⟨h.sized, h.loaded⟩

/-- The storage function loads the table the first time, and leaves the machine and the
    other batches alone. -/
theorem TableReady.storage (h : TableReady (plainLayout count objects msr cpu) b w s)
    (hload : LoadsRow load objects cpu) (hsmall : count * objects < 2 ^ 31) :
    ∃ w' s' id data, tableStorage load b count objects msr w s = some (w', s') ∧
      s'.init = true ∧ RegTable (plainLayout count objects msr cpu) s'.arrays w'.st b id data ∧
      w'.host = w.host ∧ WorksOn b w w' := by
  rcases h.loaded with ⟨hinit, hempty⟩ | ⟨hinit, id, data, htable⟩
  · have hcalloc : ∀ k, k < count → (List.range count).foldl (callocArray objects) s.arrays k =
        some (List.replicate objects none) := by
      intro k hk
      rw [foldl_callocArray, if_pos (List.mem_range.mpr hk)]
    obtain ⟨st₁, hst₁, r, hr, htable, hsized, -, hkeep⟩ :=
      allocate_loads_table (L := plainLayout count objects msr cpu) hload h.sized hempty hsmall
        hcalloc
    refine ⟨{ w with st := r.2 }, ⟨r.1, true⟩, _, _, ?_, rfl, htable, rfl, hsized, .refl _,
      hkeep⟩
    have halloc : allocateBatch w.st b (count * objects) = some (0, st₁) := hst₁
    have hloop : (List.range count).foldlM (loadArray load msr b)
        ((List.range count).foldl (callocArray objects) s.arrays, st₁) = some r := hr
    rw [tableStorage, hinit]
    simp only [Bool.false_eq_true, if_false, halloc, hloop, Option.bind_eq_bind, Option.bind_some]
  · refine ⟨w, s, id, data, ?_, hinit, htable, rfl, h.sized, .refl _, .refl _ _⟩
    rw [tableStorage, if_pos hinit]

end Storage

/-! ## Reading and printing -/

/-- The machine works, and every register of the layout can be read. -/
structure TableReads (P : Platform) (L : TableLayout) (host : Host) : Prop where
  works : P.drv.Works P.batchfd host P.cfg.numDevs
  reads : ∀ k t, k < L.count → t < L.objects →
    host.fails (opPlace (L.msr k) (L.cpu t)).1 (opPlace (L.msr k) (L.cpu t)).2 = false

theorem TableReads.of_sameDevices {P : Platform} {L : TableLayout} {h h' : Host}
    (hr : TableReads P L h) (hsame : h.SameDevices h') : TableReads P L h' := by
  refine ⟨hr.works.of_sameDevices hsame, ?_⟩
  rw [hsame.fails]
  exact hr.reads

/-- A table that is loaded is read and printed: the lines are what the registers hold,
    and no register changes. -/
theorem RegTable.readAndPrint {P : Platform} {L : TableLayout} {s : TableStatics} {b id : Nat}
    {data : Nat → Nat → Word} {w : BatchWorld} (h : RegTable L s.arrays w.st b id data)
    (hinit : s.init = true) (hreads : TableReads P L w.host) :
    ∃ w', w.readBatch P b = some w' ∧
      Libmsr.printTable w' b L.count L.objects s.arrays =
        some (tableLines L.count L.objects (tableRegs w.host.regs L.msr L.cpu)) ∧
      TableReady L b w' s ∧ w'.host.regs = w.host.regs ∧ WorksOn b w w' := by
  obtain ⟨w', hw', htable, hregs, hcall⟩ := h.readBatch hreads.works hreads.reads
  exact ⟨w', hw', htable.printTable, ⟨hcall.sized, Or.inr ⟨hinit, id, _, htable⟩⟩, hregs, hcall⟩

/-- A dump prints what the registers hold, and changes none of them. -/
theorem TableReady.dump {P : Platform} {load : LoadFunction} {b count objects : Nat}
    {msr cpu : Nat → Nat} {w : BatchWorld} {s : TableStatics}
    (h : TableReady (plainLayout count objects msr cpu) b w s)
    (hload : LoadsRow load objects cpu) (hsmall : count * objects < 2 ^ 31)
    (hreads : TableReads P (plainLayout count objects msr cpu) w.host) :
    ∃ w' s', dumpTable P (tableStorage load b count objects msr) b count objects w s =
        some (tableLines count objects (tableRegs w.host.regs msr cpu), w', s') ∧
      TableReady (plainLayout count objects msr cpu) b w' s' ∧ w'.host.regs = w.host.regs ∧
      WorksOn b w w' := by
  obtain ⟨w₁, s₁, id₁, data₁, hstore, hinit₁, htable₁, hhost₁, hworks₁⟩ := h.storage hload hsmall
  obtain ⟨w₂, hread, hprint, hready, hregs, hworks₂⟩ :=
    htable₁.readAndPrint hinit₁ (hhost₁ ▸ hreads)
  refine ⟨w₂, s₁, ?_, hready, hhost₁ ▸ hregs, hworks₁.trans hworks₂⟩
  have hprint' : printTable w₂ b count objects s₁.arrays =
      some (tableLines count objects (tableRegs w.host.regs msr cpu)) := hhost₁ ▸ hprint
  simp only [dumpTable, hstore, hread, hprint', Option.bind_eq_bind, Option.bind_some]

end Libmsr
