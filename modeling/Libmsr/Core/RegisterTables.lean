/-
  Libmsr.Core.RegisterTables

  A batch that holds several registers of every thread or socket, and the struct
  through which the register modules reach it: one pointer array for each of the
  registers.

  `RegTable` says that the arrays are loaded and what the cells hold.
  `allocate_loads_table` establishes it, a store sets one cell (`RegTable.storeAt`), a loop
  of stores those it runs over (`RegTable.storeEach`), and reading and writing the
  batch exchanges all cells with the machine.
-/
import Libmsr.Core.BatchCells
import Libmsr.Lib.MixedRadix

namespace Libmsr

open MixedRadix

/-- The pointer arrays of a struct by the number of their register; `none` is the null
    pointer. -/
abbrev RegArrays : Type := Nat → Option (List (Option Ptr))

/-- `libmsr_calloc(count, sizeof(uint64_t *))` for register `k`. -/
def callocArray (count : Nat) (arrays : RegArrays) (k : Nat) : RegArrays :=
  Function.update arrays k (some (List.replicate count none))

/-- The arrays after those of the registers in the list were allocated. -/
theorem foldl_callocArray (n : Nat) (l : List Nat) (arrays : RegArrays) (k : Nat) :
    l.foldl (callocArray n) arrays k =
      if k ∈ l then some (List.replicate n none) else arrays k := by
  induction l generalizing arrays with
  | nil => simp
  | cons j l ih =>
    rw [List.foldl_cons, ih, callocArray]
    by_cases hk : k ∈ l
    · simp only [hk, List.mem_cons, or_true, if_true]
    · rcases eq_or_ne k j with rfl | hne
      · simp only [hk, if_false, Function.update_self, List.mem_cons_self, if_true]
      · simp only [hk, if_false, Function.update_of_ne hne, List.mem_cons, hne, or_self]

/-- `load_thread_batch` or `load_socket_batch` on a machine. -/
abbrev LoadFunction : Type := BatchStorage → Nat → Option (List (Option Ptr)) → Nat →
  Option (Int × Option (List (Option Ptr)) × BatchStorage)

/-- `load_*_batch` of register `k`, its return code dropped. -/
def loadArray (load : LoadFunction) (msr : Nat → Nat) (batchnum : Nat)
    (s : RegArrays × BatchStorage) (k : Nat) : Option (RegArrays × BatchStorage) := do
  let (_, val, st) ← load s.2 (msr k) (s.1 k) batchnum
  some (Function.update s.1 k val, st)

/-- `*arrays[k][i]`. -/
def BatchWorld.loadAt (w : BatchWorld) (batchnum : Nat) (arrays : RegArrays) (k i : Nat) :
    Option Word := do
  let val ← arrays k
  let p ← ptrAt val i
  w.st.load batchnum p

/-- `*arrays[k][i] = x`. -/
def BatchWorld.storeAt (batchnum : Nat) (arrays : RegArrays) (x : Word) (w : BatchWorld)
    (k i : Nat) : Option BatchWorld := do
  let val ← arrays k
  w.modify batchnum val i fun _ => x

/-! ## Layouts -/

/-- Which cells a batch has: `count` registers of each of `objects` threads or sockets,
    one register after the other.  Register `k` is in row `row k`. -/
structure TableLayout where
  count : Nat
  objects : Nat
  row : Nat → Nat
  msr : Nat → Nat
  cpu : Nat → Nat
  row_lt : ∀ k, k < count → row k < count
  row_row : ∀ k, k < count → row (row k) = k

namespace TableLayout

variable (L : TableLayout)

/-- The op of register `k` and thread or socket `t`. -/
def slot (k t : Nat) : Nat := L.row k * L.objects + t

/-- Which register op `i` is for. -/
def reg (i : Nat) : Nat := L.row (i / L.objects)

/-- Which thread or socket op `i` is for. -/
def object (i : Nat) : Nat := i % L.objects

/-- Where op `i` goes. -/
def place (i : Nat) : Nat × Nat := opPlace (L.msr (L.reg i)) (L.cpu (L.object i))

/-- The cells in the order of the ops. -/
def flat (data : Nat → Nat → Word) (i : Nat) : Word := data (L.reg i) (L.object i)

variable {L} {k t : Nat}

theorem slot_lt (hk : k < L.count) (ht : t < L.objects) : L.slot k t < L.count * L.objects :=
  low_lt (L.row_lt k hk) ht

theorem reg_slot (hk : k < L.count) (ht : t < L.objects) : L.reg (L.slot k t) = k := by
  have hdiv : (L.row k * L.objects + t) / L.objects = L.row k := by
    rw [Nat.add_comm, Nat.add_mul_div_right _ _ (Nat.zero_lt_of_lt ht), Nat.div_eq_of_lt ht,
      Nat.zero_add]
  rw [reg, slot, hdiv, L.row_row k hk]

theorem object_slot (k : Nat) (ht : t < L.objects) : L.object (L.slot k t) = t := by
  rw [object, slot, Nat.mul_add_mod_of_lt ht]

/-- Every op is the one of its register and its thread or socket. -/
theorem slot_reg_object {i : Nat} (hi : i < L.count * L.objects) :
    L.reg i < L.count ∧ L.object i < L.objects ∧ L.slot (L.reg i) (L.object i) = i := by
  have hpos : 0 < L.objects := by
    rcases Nat.eq_zero_or_pos L.objects with h | h
    · rw [h, Nat.mul_zero] at hi
      contradiction
    · exact h
  have hdiv : i / L.objects < L.count := (Nat.div_lt_iff_lt_mul hpos).mpr hi
  refine ⟨L.row_lt _ hdiv, Nat.mod_lt i hpos, ?_⟩
  rw [slot, reg, L.row_row _ hdiv, object, Nat.div_add_mod']

theorem place_slot (hk : k < L.count) (ht : t < L.objects) :
    L.place (L.slot k t) = opPlace (L.msr k) (L.cpu t) := by
  rw [place, reg_slot hk ht, object_slot k ht]

theorem flat_slot (data : Nat → Nat → Word) (hk : k < L.count) (ht : t < L.objects) :
    L.flat data (L.slot k t) = data k t := by
  rw [flat, reg_slot hk ht, object_slot k ht]

end TableLayout

/-- The cells after `x` was stored in one. -/
def setCell (data : Nat → Nat → Word) (k t : Nat) (x : Word) : Nat → Nat → Word :=
  fun k' t' => if (k', t') = (k, t) then x else data k' t'

/-- The cells after `x` was stored in those listed. -/
def setCells (data : Nat → Nat → Word) (l : List (Nat × Nat)) (x : Word) : Nat → Nat → Word :=
  fun k t => if (k, t) ∈ l then x else data k t

theorem setCells_cons (data : Nat → Nat → Word) (c : Nat × Nat) (l : List (Nat × Nat)) (x : Word) :
    setCells (setCell data c.1 c.2 x) l x = setCells data (c :: l) x := by
  funext k t
  by_cases hl : (k, t) ∈ l
  · simp only [setCells, hl, List.mem_cons, or_true, if_true]
  · simp only [setCells, setCell, hl, List.mem_cons, or_false, if_false]

theorem TableLayout.flat_setCell {L : TableLayout} {k t i : Nat} (hk : k < L.count)
    (ht : t < L.objects) (data : Nat → Nat → Word) (x : Word) (hi : i < L.count * L.objects) :
    L.flat (setCell data k t x) i = Function.update (L.flat data) (L.slot k t) x i := by
  rcases eq_or_ne i (L.slot k t) with rfl | hne
  · rw [flat_slot _ hk ht, Function.update_self, setCell, if_pos rfl]
  · rw [Function.update_of_ne hne, flat, flat, setCell, if_neg]
    intro heq
    obtain ⟨hreg, hobject⟩ := Prod.mk.inj heq
    obtain ⟨-, -, hslot⟩ := slot_reg_object hi
    rw [hreg, hobject] at hslot
    exact hne hslot.symm

/-! ## Loaded tables -/

/-- Batch `b` has the cells of the layout, and the pointer arrays point to them. -/
structure RegTable (L : TableLayout) (arrays : RegArrays) (st : BatchStorage) (b id : Nat)
    (data : Nat → Nat → Word) : Prop where
  cells : Cells st b id (L.count * L.objects) L.place (L.flat data)
  array : ∀ k, k < L.count → arrays k = some (rowPtrs id (L.row k * L.objects) L.objects)

section Loaded

variable {L : TableLayout} {arrays : RegArrays} {b id k t : Nat} {data : Nat → Nat → Word}

theorem RegTable.of_keepsOthers {st st' : BatchStorage} {b' : Nat}
    (h : RegTable L arrays st b' id data) (hne : b' ≠ b) (hs : st'.Sized)
    (hkeep : KeepsOthers st b st') :
    RegTable L arrays st' b' id data :=
  ⟨h.cells.of_keepsOthers hne hs hkeep, h.array⟩

theorem RegTable.congr {st : BatchStorage} {data' : Nat → Nat → Word}
    (h : RegTable L arrays st b id data)
    (heq : ∀ k t, k < L.count → t < L.objects → data' k t = data k t) :
    RegTable L arrays st b id data' := by
  refine ⟨h.cells.congr fun i hi => ?_, h.array⟩
  obtain ⟨hreg, hobject, -⟩ := TableLayout.slot_reg_object hi
  exact heq _ _ hreg hobject

theorem RegTable.pointer {st : BatchStorage} (h : RegTable L arrays st b id data)
    (hk : k < L.count) (ht : t < L.objects) :
    ∃ val, arrays k = some val ∧ ptrAt val t = some ⟨id, L.slot k t⟩ :=
  ⟨_, h.array k hk, ptrAt_rowPtrs ht⟩

/-- The op a pointer is to. -/
theorem RegTable.opAt {st : BatchStorage} (h : RegTable L arrays st b id data)
    (hk : k < L.count) (ht : t < L.objects) : ∃ op, st.opAt b ⟨id, L.slot k t⟩ = some op ∧
      op.place = opPlace (L.msr k) (L.cpu t) ∧ op.msrdata = data k t := by
  have hlt := TableLayout.slot_lt hk ht
  obtain ⟨op, hop, hplace, hdata⟩ := h.cells.opAt hlt
  rw [TableLayout.place_slot hk ht] at hplace
  rw [TableLayout.flat_slot data hk ht] at hdata
  exact ⟨op, hop, hplace, hdata⟩

variable {w : BatchWorld} (h : RegTable L arrays w.st b id data)
include h

theorem RegTable.loadAt (hk : k < L.count) (ht : t < L.objects) :
    w.loadAt b arrays k t = some (data k t) := by
  obtain ⟨val, hval, hptr⟩ := h.pointer hk ht
  rw [BatchWorld.loadAt, hval, Option.bind_eq_bind, Option.bind_some, hptr, Option.bind_eq_bind,
    Option.bind_some, h.cells.load (TableLayout.slot_lt hk ht), TableLayout.flat_slot data hk ht]

/-- A store sets one cell. -/
theorem RegTable.storeAt (hk : k < L.count) (ht : t < L.objects) (x : Word) :
    ∃ w', w.storeAt b arrays x k t = some w' ∧
      RegTable L arrays w'.st b id (setCell data k t x) ∧ w'.host = w.host ∧
      KeepsOthers w.st b w'.st := by
  obtain ⟨val, hval, hptr⟩ := h.pointer hk ht
  obtain ⟨w', hw', hcells, hrest⟩ :=
    h.cells.modify hptr (TableLayout.slot_lt hk ht) fun _ => x
  refine ⟨w', ?_, ⟨hcells.congr fun i hi => ?_, h.array⟩, hrest⟩
  · rw [BatchWorld.storeAt, hval]
    exact hw'
  · exact TableLayout.flat_setCell hk ht data x hi

/-- **A loop of stores** sets the cells that it runs over. -/
theorem RegTable.storeEach {l : List (Nat × Nat)} (hl : ∀ c ∈ l, c.1 < L.count ∧ c.2 < L.objects)
    (x : Word) :
    ∃ w', l.foldlM (fun w c => w.storeAt b arrays x c.1 c.2) w = some w' ∧
      RegTable L arrays w'.st b id (setCells data l x) ∧ w'.host = w.host ∧
      KeepsOthers w.st b w'.st := by
  induction l generalizing w data with
  | nil => exact ⟨w, rfl, h, rfl, .refl w.st b⟩
  | cons c l ih =>
    obtain ⟨hk, ht⟩ := hl c (List.mem_cons_self ..)
    obtain ⟨w₁, hw₁, htable₁, hhost₁, hkeep₁⟩ := h.storeAt hk ht x
    obtain ⟨w₂, hw₂, htable₂, hhost₂, hkeep₂⟩ :=
      ih htable₁ fun c' hc' => hl c' (List.mem_cons_of_mem _ hc')
    rw [setCells_cons] at htable₂
    refine ⟨w₂, ?_, htable₂, hhost₂.trans hhost₁, hkeep₁.trans hkeep₂⟩
    rw [List.foldlM_cons, hw₁]
    exact hw₂

/-- Storing in some registers of one thread or socket. -/
theorem RegTable.storeColumn {ks : List Nat} (hks : ∀ k ∈ ks, k < L.count) (ht : t < L.objects)
    (x : Word) :
    ∃ w', ks.foldlM (fun w k => w.storeAt b arrays x k t) w = some w' ∧
      RegTable L arrays w'.st b id (fun k t' => if t' = t ∧ k ∈ ks then x else data k t') ∧
      w'.host = w.host ∧ KeepsOthers w.st b w'.st := by
  have hcells : ∀ c ∈ ks.map fun k => (k, t), c.1 < L.count ∧ c.2 < L.objects := by
    intro c hc
    obtain ⟨k, hk, rfl⟩ := List.mem_map.mp hc
    exact ⟨hks k hk, ht⟩
  obtain ⟨w', hw', htable, hrest⟩ := h.storeEach hcells x
  rw [List.foldlM_map] at hw'
  refine ⟨w', hw', htable.congr fun k t' _ _ => ?_, hrest⟩
  -- the cells that were set are those of thread or socket `t`
  have hmem : (k, t') ∈ ks.map (fun k => (k, t)) ↔ t' = t ∧ k ∈ ks := by
    rw [List.mem_map]
    constructor
    · rintro ⟨k', hk', heq⟩
      obtain ⟨rfl, rfl⟩ := Prod.mk.inj heq
      exact ⟨rfl, hk'⟩
    · rintro ⟨rfl, hk⟩
      exact ⟨k, hk, rfl⟩
  simp only [setCells, hmem]

/-- Storing in some registers of all threads or sockets. -/
theorem RegTable.storeColumns {ks : List Nat} (hks : ∀ k ∈ ks, k < L.count) (x : Word) :
    ∃ w', (List.range L.objects).foldlM
        (fun w t => ks.foldlM (fun w k => w.storeAt b arrays x k t) w) w = some w' ∧
      RegTable L arrays w'.st b id (fun k t => if t < L.objects ∧ k ∈ ks then x else data k t) ∧
      w'.host = w.host ∧ KeepsOthers w.st b w'.st := by
  refine Loops.foldlM_range_inv _ (fun i (w' : BatchWorld) =>
    RegTable L arrays w'.st b id (fun k t => if t < i ∧ k ∈ ks then x else data k t) ∧
      w'.host = w.host ∧ KeepsOthers w.st b w'.st) L.objects w ⟨?_, rfl, .refl w.st b⟩
    fun i hi w₁ hI => ?_
  · refine h.congr fun k t _ _ => if_neg fun hlt => ?_
    exact Nat.not_lt_zero t hlt.1
  · obtain ⟨h₁, hhost₁, hkeep₁⟩ := hI
    obtain ⟨w₂, hw₂, h₂, hhost₂, hkeep₂⟩ := h₁.storeColumn hks hi x
    refine ⟨w₂, hw₂, h₂.congr fun k t _ _ => ?_, hhost₂.trans hhost₁, hkeep₁.trans hkeep₂⟩
    -- column `i` is the one that was added
    by_cases hnew : t = i ∧ k ∈ ks
    · rw [if_pos hnew, if_pos ⟨Nat.lt_succ_of_le hnew.1.le, hnew.2⟩]
    · have hiff : t < i + 1 ∧ k ∈ ks ↔ t < i ∧ k ∈ ks := by
        refine and_congr_left fun hk => ?_
        have hti : t ≠ i := fun hti => hnew ⟨hti, hk⟩
        omega
      rw [if_neg hnew]
      simp only [hiff]

/-- Writing the batch keeps the table. -/
theorem RegTable.writeBatch {P : Platform} {m : Nat} (hw : P.drv.Works P.batchfd w.host m)
    (hok : ∀ k t, k < L.count → t < L.objects →
      w.host.failsWrite (opPlace (L.msr k) (L.cpu t)).1 (opPlace (L.msr k) (L.cpu t)).2 = false) :
    ∃ w', w.writeBatch P b = some w' ∧ RegTable L arrays w'.st b id data ∧
      w.host.SameDevices w'.host ∧ KeepsOthers w.st b w'.st := by
  have hok' : ∀ i, i < L.count * L.objects →
      w.host.failsWrite (L.place i).1 (L.place i).2 = false := by
    intro i hi
    obtain ⟨hreg, hobject, -⟩ := TableLayout.slot_reg_object hi
    exact hok _ _ hreg hobject
  obtain ⟨w', hw', hcells, -, hsame, hkeep⟩ := h.cells.writeBatch hw hok'
  exact ⟨w', hw', ⟨hcells, h.array⟩, hsame, hkeep⟩

end Loaded

/-! ## Loading -/

/-- A load of `n` reads: those behind the ones already in the batch, on the CPUs
    `cpu`, with pointers to them. -/
def LoadsRow (load : LoadFunction) (n : Nat) (cpu : Nat → Nat) : Prop :=
  ∀ {st : BatchStorage} {b id size : Nat} {places : List (Nat × Nat)} (msr : Nat),
    Fresh st b id size places → places.length + n ≤ size →
    ∃ st', load st msr (some (List.replicate n none)) b =
        some (0, some (rowPtrs id places.length n), st') ∧
      Fresh st' b id size (places ++ (List.range n).map fun v => opPlace msr (cpu v)) ∧
      KeepsOthers st b st'

theorem loadThreadBatch_loadsRow (cfg : CoreConfig) :
    LoadsRow (loadThreadBatch cfg) cfg.numDevs id :=
  fun msr h hroom => h.loadThreadBatch cfg msr hroom

theorem loadSocketBatch_loadsRow {cfg : CoreConfig} {g : Topo} {pick : Nat → Nat}
    (hfirst : ∀ v, v < cfg.sockets →
      firstDev g (fun entry => entry.socketId = v) 0 cfg.numDevs = some (some (pick v))) :
    LoadsRow (loadSocketBatch cfg g) cfg.sockets pick :=
  fun msr h hroom => h.loadSocketBatch msr hfirst hroom

section Loading

variable {L : TableLayout} {load : LoadFunction} {arrays : RegArrays} {st : BatchStorage} {b : Nat}

theorem TableLayout.row_injective {k k' : Nat} (hk : k < L.count) (hk' : k' < L.count)
    (heq : L.row k = L.row k') : k = k' := by
  rw [← L.row_row k hk, ← L.row_row k' hk', heq]

/-- Row `r` of the places is the one of register `row r`. -/
theorem TableLayout.places_succ {r : Nat} (hr : r < L.count) :
    (List.range (r * L.objects)).map L.place ++
        ((List.range L.objects).map fun v => opPlace (L.msr (L.row r)) (L.cpu v)) =
      (List.range ((r + 1) * L.objects)).map L.place := by
  rw [Nat.succ_mul, List.range_add, List.map_append, List.map_map]
  congr 1
  refine List.map_congr_left fun v hv => ?_
  have hslot : r * L.objects + v = L.slot (L.row r) v := by
    rw [TableLayout.slot, L.row_row r hr]
  rw [Function.comp_apply, hslot, L.place_slot (L.row_lt r hr) (List.mem_range.mp hv)]

/-- After `r` rows: the places so far, the arrays of these rows, and the others still
    without pointers.  Arrays of other registers are those from before. -/
structure LoadedRows (L : TableLayout) (arrays : RegArrays) (st : BatchStorage) (b id r : Nat)
    (s : RegArrays × BatchStorage) : Prop where
  fresh : Fresh s.2 b id (L.count * L.objects) ((List.range (r * L.objects)).map L.place)
  rows : ∀ r', r' < r → s.1 (L.row r') = some (rowPtrs id (r' * L.objects) L.objects)
  rest : ∀ r', r ≤ r' → r' < L.count → s.1 (L.row r') = some (List.replicate L.objects none)
  others : ∀ k, L.count ≤ k → s.1 k = arrays k
  keep : KeepsOthers st b s.2

theorem LoadedRows.step {id r : Nat} {s : RegArrays × BatchStorage}
    (hload : LoadsRow load L.objects L.cpu) (hr : r < L.count)
    (h : LoadedRows L arrays st b id r s) :
    ∃ s', loadArray load L.msr b s (L.row r) = some s' ∧
      LoadedRows L arrays st b id (r + 1) s' := by
  have hlen : ((List.range (r * L.objects)).map L.place).length = r * L.objects := by
    rw [List.length_map, List.length_range]
  have hroom : r * L.objects + L.objects ≤ L.count * L.objects := by
    rw [← Nat.succ_mul]
    exact Nat.mul_le_mul_right _ hr
  obtain ⟨st', hst', hfresh, hkeep⟩ := hload (L.msr (L.row r)) h.fresh (hlen.symm ▸ hroom)
  rw [hlen] at hst'
  rw [TableLayout.places_succ hr] at hfresh
  refine ⟨(Function.update s.1 (L.row r) (some (rowPtrs id (r * L.objects) L.objects)), st'), ?_,
    hfresh, fun r' hr' => ?_, fun r' hle hlt => ?_, fun k hk => ?_, h.keep.trans hkeep⟩
  · -- the array was allocated, and nothing loaded it yet
    rw [loadArray, h.rest r (Nat.le_refl r) hr, hst']
    rfl
  · rcases Nat.lt_succ_iff_lt_or_eq.mp hr' with hlt | rfl
    · -- an earlier register has another array
      have hne : L.row r' ≠ L.row r := fun heq =>
        Nat.ne_of_lt hlt (L.row_injective (hlt.trans hr) hr heq)
      show Function.update s.1 (L.row r) _ (L.row r') = _
      rw [Function.update_of_ne hne, h.rows r' hlt]
    · exact Function.update_self ..
  · -- and so has a later one
    have hne : L.row r' ≠ L.row r := fun heq =>
      Nat.ne_of_gt hle (L.row_injective hlt hr heq)
    show Function.update s.1 (L.row r) _ (L.row r') = _
    rw [Function.update_of_ne hne, h.rest r' (Nat.le_of_succ_le hle) hlt]
  · have hne : k ≠ L.row r := Nat.ne_of_gt ((L.row_lt r hr).trans_le hk)
    show Function.update s.1 (L.row r) _ k = _
    rw [Function.update_of_ne hne, h.others k hk]

/-- **Allocation and loading.**  Allocating the batch and loading the registers one
    after the other gives a table of zeroes. -/
theorem allocate_loads_table (hload : LoadsRow load L.objects L.cpu) (hs : st.Sized)
    (hempty : st.entry b = .empty) (hsmall : L.count * L.objects < 2 ^ 31)
    (harrays : ∀ k, k < L.count → arrays k = some (List.replicate L.objects none)) :
    ∃ st₁, allocateBatch st b (L.count * L.objects) = some (0, st₁) ∧
      ∃ s', (List.range L.count).foldlM (fun s r => loadArray load L.msr b s (L.row r))
          (arrays, st₁) = some s' ∧
        RegTable L s'.1 s'.2 b st.nextId (fun _ _ => 0) ∧ s'.2.Sized ∧
        (∀ k, L.count ≤ k → s'.1 k = arrays k) ∧ KeepsOthers st b s'.2 := by
  obtain ⟨st₁, hst₁, hfresh₁, hkeep₁⟩ := allocateBatch_fresh hs hempty hsmall
  refine ⟨st₁, hst₁, ?_⟩
  have hstart : LoadedRows L arrays st b st.nextId 0 (arrays, st₁) := by
    refine ⟨?_, fun r' hr' => absurd hr' (Nat.not_lt_zero r'), fun r' _ hr' => ?_,
      fun _ _ => rfl, hkeep₁⟩
    · rw [Nat.zero_mul]
      exact hfresh₁
    · exact harrays _ (L.row_lt r' hr')
  -- induction on the registers loaded so far
  obtain ⟨s', hs', hrows⟩ := Loops.foldlM_range_inv _ (LoadedRows L arrays st b st.nextId) L.count
    _ hstart fun r hr s h => h.step hload hr
  refine ⟨s', hs', ⟨hrows.fresh.cells, fun k hk => ?_⟩, hrows.fresh.sized, hrows.others,
    hrows.keep⟩
  have hrow := hrows.rows (L.row k) (L.row_lt k hk)
  rwa [L.row_row k hk] at hrow

end Loading

end Libmsr
