/-
  Libmsr.Core.UnitReads

  Reading a batch that registers were loaded into one after the other: each
  pointer then holds the value of its register on its CPU.

  - `Covered`: the topologies that the library covers, of any shape.
  - `SelectedCpu`: the CPU that stands for a unit, the lowest-numbered one.
  - `LoadedInv`: what the loads keep, whatever happens to other batches.
  - `loads_read`: the read after any such run.
  - `loads_not_read`: OS indices with a gap, a CPU number that does not fit the op, and
    a socket that gets no pointer because the counts do not divide.
-/
import Libmsr.Core.CpuCoverage
import Libmsr.Core.UnitLoading

namespace Libmsr

open BatchStorage

/-- The unit that a PU belongs to. -/
def UnitScope.unit (pu : Pu) : UnitScope → Nat
  | .thread => pu.osIndex
  | .core => pu.core
  | .socket => pu.socket

namespace Hwloc

/-- A topology that the library covers.  hwloc reports distinct OS indices, and the
    cores and sockets that have PUs; the counts divide, and the OS indices leave no
    gap.  How the PUs are spread over cores and sockets is free. -/
structure Covered (hw : Hwloc) : Prop where
  distinct : (hw.pus.map Pu.osIndex).Nodup
  cores : ∀ c, c < hw.ncores → ∃ pu ∈ hw.pus, pu.core = c
  sockets : ∀ s, s < hw.nsockets → ∃ pu ∈ hw.pus, pu.socket = s
  socketsDivide : hw.nsockets ∣ hw.ncores
  coresDivide : hw.ncores ∣ hw.pus.length
  noGap : ∀ pu ∈ hw.pus, pu.osIndex < hw.pus.length

/-- The map that `find_cpu_top` leaves has an entry for each PU. -/
def Mapped (hw : Hwloc) (g : Topo) : Prop :=
  ∀ pu ∈ hw.pus, ∃ k, g.threadMap[pu.osIndex]? = some (some (pu.hwThread k))

variable (hw : Hwloc)

/-! ## The CPU of a unit -/

/-- The CPUs of unit `v`. -/
def cpusOf (scope : UnitScope) (v : Nat) : Set Nat :=
  {j | ∃ pu ∈ hw.pus, pu.osIndex = j ∧ scope.unit pu = v}

/-- The lowest-numbered CPU of unit `v`. -/
def SelectedCpu (scope : UnitScope) (v cpu : Nat) : Prop := IsLeast (hw.cpusOf scope v) cpu

/-- The same as a function. -/
noncomputable def lowest (scope : UnitScope) (v : Nat) : Nat := sInf (hw.cpusOf scope v)

variable {hw}

namespace Covered

variable (hc : hw.Covered)
include hc

/-- All PUs are counted. -/
theorem devs : (coreConfig hw).numDevs = hw.pus.length :=
  numDevs_eq_iff.mpr ⟨Or.inr hc.socketsDivide, hc.coresDivide⟩

theorem mapped {g₀ g : Topo} (hg : findCpuTop hw g₀ = some g) : hw.Mapped g := by
  obtain ⟨g', hg', hrec⟩ := findCpuTop_spec hw g₀ hc.devs hc.noGap hc.distinct
  obtain rfl := Option.some.inj (hg.symm.trans hg')
  intro pu hpu
  obtain ⟨k, hk, rfl⟩ := List.getElem_of_mem hpu
  exact ⟨k, hrec.entry k hk hk⟩

/-- Every number below the count is the OS index of a PU. -/
theorem pu_of_lt {j : Nat} (hj : j < (coreConfig hw).numDevs) : ∃ pu ∈ hw.pus, pu.osIndex = j := by
  have hmem : j ∈ hw.pus.map Pu.osIndex :=
    (osIndices_perm hc.distinct hc.noGap).mem_iff.mp (List.mem_range.mpr (hc.devs ▸ hj))
  exact List.mem_map.mp hmem

/-- Every unit has a CPU. -/
theorem cpusOf_nonempty {scope : UnitScope} {v : Nat} (hv : v < scope.count (coreConfig hw)) :
    (hw.cpusOf scope v).Nonempty := by
  cases scope with
  | thread =>
    obtain ⟨pu, hpu, hos⟩ := hc.pu_of_lt hv
    exact ⟨v, pu, hpu, hos, hos⟩
  | core =>
    -- the quotient times the sockets is at most the number of cores
    have hle : hw.nsockets * (hw.ncores / hw.nsockets) ≤ hw.ncores := Nat.mul_div_le _ _
    obtain ⟨pu, hpu, hcore⟩ := hc.cores v (Nat.lt_of_lt_of_le hv hle)
    exact ⟨pu.osIndex, pu, hpu, rfl, hcore⟩
  | socket =>
    obtain ⟨pu, hpu, hsocket⟩ := hc.sockets v hv
    exact ⟨pu.osIndex, pu, hpu, rfl, hsocket⟩

theorem lowest_selected (scope : UnitScope) {v : Nat} (hv : v < scope.count (coreConfig hw)) :
    hw.SelectedCpu scope v (hw.lowest scope v) :=
  ⟨Nat.sInf_mem (hc.cpusOf_nonempty hv), fun _ h => Nat.sInf_le h⟩

/-- A unit has one such CPU. -/
theorem selected_eq_lowest {scope : UnitScope} {v cpu : Nat}
    (hv : v < scope.count (coreConfig hw)) (h : hw.SelectedCpu scope v cpu) :
    cpu = hw.lowest scope v := h.unique (hc.lowest_selected scope hv)

theorem lowest_lt (scope : UnitScope) {v : Nat} (hv : v < scope.count (coreConfig hw)) :
    hw.lowest scope v < (coreConfig hw).numDevs := by
  obtain ⟨pu, hpu, hos, -⟩ := (hc.lowest_selected scope hv).1
  rw [hc.devs, ← hos]
  exact hc.noGap pu hpu

/-- The CPU of a thread is the thread itself. -/
theorem lowest_thread {v : Nat} (hv : v < (coreConfig hw).numDevs) :
    hw.lowest .thread v = v := by
  obtain ⟨pu, -, hos, hunit⟩ := (hc.lowest_selected .thread hv).1
  exact hos.symm.trans hunit

/-- The search of a load function ends at the lowest-numbered CPU that matches. -/
theorem firstDev_lowest {g : Topo} (hmap : hw.Mapped g) (scope : UnitScope) {v : Nat}
    (hv : v < scope.count (coreConfig hw)) {p : HwThread → Bool}
    (hp : ∀ pu k, p (pu.hwThread k) = true ↔ scope.unit pu = v) :
    firstDev g p 0 (coreConfig hw).numDevs = some (some (hw.lowest scope v)) := by
  obtain ⟨⟨pu, hpu, hos, hunit⟩, hleast⟩ := hc.lowest_selected scope hv
  have hlt := hc.lowest_lt scope hv
  refine firstDev_eq (Nat.zero_le _) (by rw [Nat.zero_add]; exact hlt) (fun j _ hj => ?_) ?_
  · obtain ⟨pu', hpu', hos'⟩ := hc.pu_of_lt (hj.trans hlt)
    obtain ⟨k, hk⟩ := hmap pu' hpu'
    refine ⟨_, hos' ▸ hk, ?_⟩
    -- a match before it would be a lower one
    by_contra hmatch
    have hunit' := (hp pu' k).mp (by simpa using hmatch)
    exact absurd (hleast ⟨pu', hpu', hos', hunit'⟩) (Nat.not_le.mpr hj)
  · obtain ⟨k, hk⟩ := hmap pu hpu
    exact ⟨_, hos ▸ hk, (hp pu k).mpr hunit⟩

/-- The first CPU of each socket. -/
theorem lowest_socketFirst {g : Topo} (hmap : hw.Mapped g) (v : Nat)
    (hv : v < (coreConfig hw).sockets) :
    firstDev g (fun entry => entry.socketId = v) 0 (coreConfig hw).numDevs =
      some (some (hw.lowest .socket v)) :=
  hc.firstDev_lowest hmap .socket hv fun _ _ => decide_eq_true_iff

/-- The first CPU of each core and of each socket, for the load functions. -/
theorem lowest_picks {g : Topo} (hfits : (coreConfig hw).numDevs ≤ 2 ^ 16) (hmap : hw.Mapped g) :
    Picks (coreConfig hw) g HwThread.coreId
        ((coreConfig hw).sockets * (coreConfig hw).coresPerSocket) (hw.lowest .core) ∧
      Picks (coreConfig hw) g HwThread.socketId (coreConfig hw).sockets (hw.lowest .socket) := by
  refine ⟨⟨hfits, fun v hv => hc.lowest_lt .core hv, fun v hv => ?_⟩,
    ⟨hfits, fun v hv => hc.lowest_lt .socket hv, fun v hv => ?_⟩⟩
  · exact hc.firstDev_lowest hmap .core hv fun _ _ => decide_eq_true_iff
  · exact hc.lowest_socketFirst hmap v hv

end Covered

/-! ## Loading one register -/

variable (hw) in
/-- The ops of a register: CPU and address for each unit. -/
noncomputable def unitPlaces (scope : UnitScope) (msr : BitVec 32) : List (Nat × Nat) :=
  (List.range (scope.count (coreConfig hw))).map fun v => (hw.lowest scope v, msr.toNat)

variable (hw) in
theorem unitPlaces_length (scope : UnitScope) (msr : BitVec 32) :
    (hw.unitPlaces scope msr).length = scope.count (coreConfig hw) := by
  rw [unitPlaces, List.length_map, List.length_range]

/-- A load appends the ops of its register, and hands out pointers to them. -/
theorem load_fresh {g : Topo} (hc : hw.Covered) (hfits : (coreConfig hw).numDevs ≤ 2 ^ 16)
    (hmap : hw.Mapped g) {st : BatchStorage} {b id size : Nat} {places : List (Nat × Nat)}
    (h : Fresh st b id size places) (scope : UnitScope) (msr : BitVec 32)
    (hroom : places.length + scope.count (coreConfig hw) ≤ size) :
    ∃ st', scope.load (coreConfig hw) g st msr.toNat
        (some (List.replicate (scope.count (coreConfig hw)) none)) b =
          some (0, some (rowPtrs id places.length (scope.count (coreConfig hw))), st') ∧
      Fresh st' b id size (places ++ hw.unitPlaces scope msr) := by
  obtain ⟨hcores, hsockets⟩ := hc.lowest_picks hfits hmap
  cases scope with
  | thread =>
    obtain ⟨st', hst', hfresh, -⟩ := h.loadThreadBatch (coreConfig hw) msr.toNat hroom
    refine ⟨st', hst', ?_⟩
    -- the op of a thread goes to the thread itself
    have hplaces : ((List.range (coreConfig hw).numDevs).map fun v => opPlace msr.toNat v) =
        hw.unitPlaces .thread msr := by
      refine List.map_congr_left fun v hv => ?_
      have hlt := List.mem_range.mp hv
      rw [hc.lowest_thread hlt, opPlace_of_lt msr.isLt (hlt.trans_le hfits)]
    exact hplaces ▸ hfresh
  | core =>
    obtain ⟨st', hst', hfresh, -⟩ := h.loadCoreBatch msr.toNat hcores.first hroom
    rw [hcores.fit.places msr.isLt] at hfresh
    exact ⟨st', hst', hfresh⟩
  | socket =>
    obtain ⟨st', hst', hfresh, -⟩ := h.loadSocketBatch msr.toNat hsockets.first hroom
    rw [hsockets.fit.places msr.isLt] at hfresh
    exact ⟨st', hst', hfresh⟩

/-! ## Runs of loads -/

variable (hw) in
/-- The ops of the registers loaded so far. -/
noncomputable def loadedPlaces (loaded : List LoadedRegister) : List (Nat × Nat) :=
  loaded.flatMap fun r => hw.unitPlaces r.scope r.msr

variable (hw) in
/-- How many ops each of them has. -/
def loadedSizes (loaded : List LoadedRegister) : List Nat :=
  loaded.map fun r => r.scope.count (coreConfig hw)

variable (hw) in
theorem loadedPlaces_length (loaded : List LoadedRegister) :
    (hw.loadedPlaces loaded).length = (hw.loadedSizes loaded).sum := by
  rw [loadedPlaces, List.length_flatMap, loadedSizes]
  simp only [hw.unitPlaces_length]

/-- The batch counts the ops of the registers in the order they were loaded, and
    the array of each register points to its own. -/
structure LoadedInv (hw : Hwloc) (b id size : Nat) (s : UnitLoading) : Prop where
  fresh : Fresh s.st b id size (hw.loadedPlaces s.loaded)
  ptrs : ∀ k r, s.loaded[k]? = some r →
    r.val = rowPtrs id (Blocks.start (hw.loadedSizes s.loaded) k) (r.scope.count (coreConfig hw))

section Run

variable {g : Topo} (hc : hw.Covered) (hfits : (coreConfig hw).numDevs ≤ 2 ^ 16)
  (hmap : hw.Mapped g)
  {b id size : Nat} {s : UnitLoading}

omit hc hfits hmap in
/-- Using another batch changes nothing here. -/
theorem LoadedInv.other (hI : LoadedInv hw b id size s) {b' : Nat} {use : BatchUse}
    {st' : BatchStorage} (hne : b' ≠ b) (happly : use.apply (coreConfig hw) g s.st b' = some st') :
    LoadedInv hw b id size { s with st := st' } := by
  have htouch := BatchUse.apply_touches hI.fresh.sized happly
  exact ⟨hI.fresh.of_keepsOthers hne.symm htouch.sized htouch.keeps, hI.ptrs⟩

include hc hfits hmap

/-- Loading one more register. -/
theorem LoadedInv.load (hI : LoadedInv hw b id size s) (scope : UnitScope) (msr : BitVec 32)
    (hroom : (hw.loadedSizes s.loaded).sum + scope.count (coreConfig hw) ≤ size) :
    ∃ s' val, loadStep (coreConfig hw) g b s (.load scope msr) = some s' ∧
      LoadedInv hw b id size s' ∧ s'.loaded = s.loaded ++ [⟨scope, msr, val⟩] := by
  rw [← hw.loadedPlaces_length] at hroom
  obtain ⟨st', hst', hfresh⟩ := load_fresh hc hfits hmap hI.fresh scope msr hroom
  have hsizes : ∀ r : LoadedRegister, hw.loadedSizes (s.loaded ++ [r]) =
      hw.loadedSizes s.loaded ++ [r.scope.count (coreConfig hw)] := fun r => by
    rw [loadedSizes, List.map_append]
    rfl
  have hlen : (hw.loadedSizes s.loaded).length = s.loaded.length := by
    rw [loadedSizes, List.length_map]
  let val := rowPtrs id (hw.loadedPlaces s.loaded).length (scope.count (coreConfig hw))
  refine ⟨⟨st', s.loaded ++ [⟨scope, msr, val⟩]⟩, val, ?_, ⟨?_, fun k r hr => ?_⟩, rfl⟩
  · simp only [loadStep, hst', Option.bind_eq_bind, Option.bind_some, Option.getD_some,
      val]
  · rw [loadedPlaces, List.flatMap_append]
    simpa [loadedPlaces] using hfresh
  · rw [hsizes]
    rcases Nat.lt_or_ge k s.loaded.length with hk | hk
    · -- an earlier register keeps its place
      rw [List.getElem?_append_left hk] at hr
      rw [Blocks.start_append _ (by omega)]
      exact hI.ptrs k r hr
    · rw [List.getElem?_append_right hk] at hr
      obtain ⟨hzero, rfl⟩ : k - s.loaded.length = 0 ∧ _ := by
        simpa [List.getElem?_singleton, eq_comm] using hr
      obtain rfl : k = s.loaded.length := by omega
      show rowPtrs id (hw.loadedPlaces s.loaded).length (scope.count (coreConfig hw)) = _
      rw [Blocks.start_append _ hlen.ge, ← hlen, Blocks.start_length, hw.loadedPlaces_length]

/-- **Run lemma.**  With room for all of them the loads succeed, whatever is done
    with other batches in between. -/
theorem LoadedInv.run (hI : LoadedInv hw b id size s) {calls : List LoadCall}
    (hroom : (hw.loadedSizes s.loaded).sum + opCount (coreConfig hw) (loads calls) ≤ size)
    (hothers :
      Runs.Along (loadStep (coreConfig hw) g b) (OthersReturn (coreConfig hw) g b) s calls) :
    ∃ s', Runs.run (loadStep (coreConfig hw) g b) s calls = some s' ∧ LoadedInv hw b id size s' ∧
      s'.loaded.map (fun r => (r.scope, r.msr)) =
        s.loaded.map (fun r => (r.scope, r.msr)) ++ loads calls := by
  induction calls generalizing s with
  | nil => exact ⟨s, rfl, hI, (List.append_nil _).symm⟩
  | cons call calls ih =>
    obtain ⟨hcall, hrest⟩ := hothers
    cases call with
    | load scope msr =>
      have hcount : opCount (coreConfig hw) (loads (.load scope msr :: calls)) =
          scope.count (coreConfig hw) + opCount (coreConfig hw) (loads calls) := rfl
      obtain ⟨s₁, val, hs₁, hI₁, hloaded⟩ := hI.load hc hfits hmap scope msr (by omega)
      have hsum : (hw.loadedSizes s₁.loaded).sum =
          (hw.loadedSizes s.loaded).sum + scope.count (coreConfig hw) := by
        rw [hloaded, loadedSizes, List.map_append, List.sum_append]
        rfl
      obtain ⟨s', hs', hI', hmap⟩ := ih hI₁ (by omega) (hrest s₁ hs₁)
      refine ⟨s', by rw [Runs.run_cons, hs₁]; exact hs', hI', ?_⟩
      rw [hmap, hloaded, List.map_append, List.append_assoc]
      rfl
    | other b' use =>
      obtain ⟨hne, hsome⟩ := hcall
      obtain ⟨st', hst'⟩ := Option.isSome_iff_exists.mp hsome
      have hs₁ : loadStep (coreConfig hw) g b s (.other b' use) = some { s with st := st' } := by
        rw [loadStep, hst', Option.map_some]
      obtain ⟨s', hs', hI', hmap⟩ := ih (hI.other hne hst') hroom (hrest _ hs₁)
      exact ⟨s', by rw [Runs.run_cons, hs₁]; exact hs', hI', hmap⟩

end Run

/-! ## The read -/

/-- The pointers that a list of loads hands out: pointer `x.2` of register `x.1`. -/
def pointers (hw : Hwloc) (loaded : List LoadedRegister) : Set (Nat × Nat) :=
  {x | ∃ reg, loaded[x.1]? = some reg ∧ x.2 < reg.scope.count (coreConfig hw)}

/-- The slot that such a pointer designates. -/
def slotOf (loaded : List LoadedRegister) (x : Nat × Nat) : Nat :=
  ((loaded[x.1]?.bind fun reg => ptrAt reg.val x.2).map Ptr.slot).getD 0

/-- After a read the loaded registers are these, pointer `i` of each finds its value
    on the CPU that stands for unit `i`, and the pointers are one to one with the ops
    of the batch. -/
structure Delivered (hw : Hwloc) (h : Host) (b : Nat) (regs : List (UnitScope × BitVec 32))
    (loaded : List LoadedRegister) (st : BatchStorage) : Prop where
  registers : loaded.map (fun reg => (reg.scope, reg.msr)) = regs
  value : ∀ (k : Nat) (reg : LoadedRegister), loaded[k]? = some reg →
    ∀ i, i < reg.scope.count (coreConfig hw) → ∃ cpu p op, hw.SelectedCpu reg.scope i cpu ∧
      ptrAt reg.val i = some p ∧ st.opAt b p = some op ∧ op.place = (cpu, reg.msr.toNat) ∧
      op.msrdata = h.regs cpu reg.msr.toNat
  slots : Set.BijOn (slotOf loaded) (hw.pointers loaded) (Set.Iio (st.entry b).numops)

/-- Loads into batch `b` of table `st` and a read of it end, with everything
    delivered. -/
def LoadsRead (hw : Hwloc) (g : Topo) (drv : BatchDriver) (fd : Int) (h : Host) (b : Nat)
    (st : BatchStorage) (calls : List LoadCall) : Prop :=
  ∃ s r, Runs.run (loadStep (coreConfig hw) g b) ⟨st, []⟩ calls = some s ∧
    readBatch drv fd s.st h b = some r ∧ Delivered hw h b (loads calls) s.loaded r.st

/-- What is loaded into the batch can be read on every CPU it is loaded for. -/
def Readable (hw : Hwloc) (h : Host) (regs : List (UnitScope × BitVec 32)) : Prop :=
  ∀ reg ∈ regs, ∀ i, i < reg.1.count (coreConfig hw) → ∀ cpu, hw.SelectedCpu reg.1 i cpu →
    h.fails cpu reg.2.toNat = false

theorem unitPlaces_getElem? (scope : UnitScope) (msr : BitVec 32) {i : Nat}
    (hi : i < scope.count (coreConfig hw)) :
    (hw.unitPlaces scope msr)[i]? = some (hw.lowest scope i, msr.toNat) := by
  rw [unitPlaces, List.getElem?_map, List.getElem?_range hi, Option.map_some]

/-- The op of a pointer is where its number says. -/
theorem loadedPlaces_getElem? {loaded : List LoadedRegister} {k i : Nat} {reg : LoadedRegister}
    (hreg : loaded[k]? = some reg) (hi : i < reg.scope.count (coreConfig hw)) :
    (hw.loadedPlaces loaded)[Blocks.start (hw.loadedSizes loaded) k + i]? =
      some (hw.lowest reg.scope i, reg.msr.toNat) := by
  induction loaded generalizing k with
  | nil => contradiction
  | cons first loaded ih =>
    have hplaces : hw.loadedPlaces (first :: loaded) =
        hw.unitPlaces first.scope first.msr ++ hw.loadedPlaces loaded := rfl
    have hsizes : hw.loadedSizes (first :: loaded) =
        first.scope.count (coreConfig hw) :: hw.loadedSizes loaded := rfl
    have hlen := hw.unitPlaces_length first.scope first.msr
    rw [hplaces, hsizes]
    cases k with
    | zero =>
      obtain rfl := Option.some.inj hreg
      rw [Blocks.start_zero, Nat.zero_add, List.getElem?_append_left (hlen ▸ hi)]
      exact unitPlaces_getElem? first.scope first.msr hi
    | succ k =>
      rw [Blocks.start_cons_succ, List.getElem?_append_right (by omega), hlen, Nat.add_assoc,
        Nat.add_sub_cancel_left]
      exact ih hreg

/-- No access of the read fails. -/
theorem Readable.places (hc : hw.Covered) {h : Host} {loaded : List LoadedRegister}
    (hread : hw.Readable h (loaded.map fun reg => (reg.scope, reg.msr))) :
    ∀ p ∈ hw.loadedPlaces loaded, h.failsIn .read p.1 p.2 = false := by
  intro p hp
  obtain ⟨reg, hreg, hp⟩ := List.mem_flatMap.mp hp
  obtain ⟨i, hi, rfl⟩ := List.mem_map.mp hp
  have hlt := List.mem_range.mp hi
  exact hread _ (List.mem_map_of_mem hreg) i hlt _ (hc.lowest_selected _ hlt)

/-- The numbers of the pointers are the slots they designate. -/
theorem LoadedInv.slotOf_eq {b id size : Nat} {s : UnitLoading} (hI : LoadedInv hw b id size s)
    {x : Nat × Nat} (hx : x ∈ hw.pointers s.loaded) :
    slotOf s.loaded x = Blocks.number (hw.loadedSizes s.loaded) x := by
  obtain ⟨reg, hreg, hlt⟩ := hx
  rw [slotOf, hreg, Option.bind_some, ptrAt, hI.ptrs _ reg hreg, rowPtrs_getElem? hlt]
  rfl

variable (hw) in
theorem pointers_eq (loaded : List LoadedRegister) :
    hw.pointers loaded = Blocks.elements (hw.loadedSizes loaded) := by
  ext x
  simp only [pointers, Blocks.elements, loadedSizes, Set.mem_ofPred_eq, List.getElem?_map,
    Option.map_eq_some_iff]
  constructor
  · rintro ⟨reg, hreg, hlt⟩
    exact ⟨_, ⟨reg, hreg, rfl⟩, hlt⟩
  · rintro ⟨_, ⟨reg, hreg, rfl⟩, hlt⟩
    exact ⟨reg, hreg, hlt⟩

/-- The read delivers what the loads recorded. -/
theorem LoadedInv.delivered (hc : hw.Covered) {b id size : Nat} {s : UnitLoading}
    (hI : LoadedInv hw b id size s) {h : Host} {st' : BatchStorage}
    (hrow : Row st' b id (hw.loadedPlaces s.loaded)
      ((hw.loadedPlaces s.loaded).map (RegFile.at h.regs))) :
    Delivered hw h b (s.loaded.map fun reg => (reg.scope, reg.msr)) s.loaded st' := by
  obtain ⟨ops, rest, hentry, hplaces, hdata, -⟩ := hrow.ops
  have hlen : ops.length = (hw.loadedSizes s.loaded).sum := by
    rw [← hw.loadedPlaces_length, ← hplaces, List.length_map]
  refine ⟨rfl, fun k reg hreg i hi => ?_, ?_⟩
  · have hat := loadedPlaces_getElem? hreg hi
    rw [← hplaces, List.getElem?_map, Option.map_eq_some_iff] at hat
    obtain ⟨op, hop, hplace⟩ := hat
    obtain ⟨hslot, -⟩ := List.getElem?_eq_some_iff.mp hop
    let p : Ptr := ⟨id, Blocks.start (hw.loadedSizes s.loaded) k + i⟩
    refine ⟨hw.lowest reg.scope i, p, op, hc.lowest_selected _ hi, ?_, ?_, hplace, ?_⟩
    · rw [ptrAt, hI.ptrs k reg hreg, rowPtrs_getElem? hi]
      rfl
    · simp only [opAt, hentry, Option.bind_some, if_true, p, List.getElem?_append_left hslot, hop]
    · -- the data of an op is the register at its place
      have hval := congrArg (fun l => l[Blocks.start (hw.loadedSizes s.loaded) k + i]?) hdata
      simp only [List.getElem?_map, hop, loadedPlaces_getElem? hreg hi, Option.map_some,
        Option.some.injEq] at hval
      exact hval
  · have hnum : (st'.entry b).numops = (hw.loadedSizes s.loaded).sum := by rw [hentry, hlen]
    rw [hnum, pointers_eq]
    refine (Blocks.bijOn_number (hw.loadedSizes s.loaded)).congr fun x hx => ?_
    exact (hI.slotOf_eq (by rwa [pointers_eq])).symm

/-- **Loading registers one after the other.**  The batch was never used, and was
    allocated once with room for all of them; other batches are used in between.
    Then the read finds every register through its pointers, on every topology that the
    library covers.  CPU numbers have to fit the 16 bits of an op. -/
theorem loads_read (hc : hw.Covered) (hfits : (coreConfig hw).numDevs ≤ 2 ^ 16) {g₀ g : Topo}
    (hg : findCpuTop hw g₀ = some g) {st₀ st : BatchStorage} (hs : st₀.Sized) {b n : Nat}
    (hempty : st₀.entry b = .empty) (halloc : allocateBatch st₀ b n = some (0, st))
    {calls : List LoadCall} (hroom : opCount (coreConfig hw) (loads calls) ≤ st.capacity b)
    (hothers : Runs.Along (loadStep (coreConfig hw) g b) (OthersReturn (coreConfig hw) g b)
      ⟨st, []⟩ calls)
    {drv : BatchDriver} {fd : Int} {h : Host} (hworks : drv.Works fd h (coreConfig hw).numDevs)
    (hread : hw.Readable h (loads calls)) : LoadsRead hw g drv fd h b st calls := by
  -- the size is what an unsigned holds of it, and the call would not return with 2^31
  have hcut : allocateBatch st₀ b (n % 2 ^ 32) = some (0, st) := by
    rw [← halloc, allocateBatch, allocateBatch, Nat.mod_mod]
  have hsmall : n % 2 ^ 32 < 2 ^ 31 := by
    by_contra hbig
    have hzero : (st₀.entry b).numops = 0 := by rw [hempty]; rfl
    rw [(allocateBatch_none_iff hs b n).mpr (by omega)] at halloc
    contradiction
  obtain ⟨st', hst', hfresh, -⟩ := allocateBatch_fresh hs hempty hsmall
  obtain ⟨-, rfl⟩ := by simpa using hcut.symm.trans hst'
  have hstart : LoadedInv hw b st₀.nextId (n % 2 ^ 32) ⟨st, []⟩ :=
    ⟨hfresh, fun k r hr => absurd hr (by simp)⟩
  have hcap : (hw.loadedSizes []).sum + opCount (coreConfig hw) (loads calls) ≤ n % 2 ^ 32 := by
    rw [← hfresh.capacity]
    exact (Nat.zero_add _).symm ▸ hroom
  obtain ⟨s, hrun, hI, hregs⟩ := hstart.run hc hfits (hc.mapped hg) hcap hothers
  rw [List.map_nil, List.nil_append] at hregs
  have hok := Readable.places hc (hregs ▸ hread)
  obtain ⟨r, hr, hres⟩ := hI.fresh.row.execute hworks BatchOpType.noConfusion hok
  exact ⟨s, r, hrun, hr, hregs ▸ hI.delivered hc hres.row⟩

end Hwloc

/-! ## Uniform machines -/

namespace Machine

variable (m : Machine)

/-- A uniform machine is covered, whatever its CPU numbers. -/
theorem hwloc_covered : m.hwloc.Covered := by
  have hmem : ∀ i, m.pu i ∈ m.hwloc.pus := fun i =>
    List.mem_map_of_mem (m.order_perm.mem_iff.mpr (List.mem_finRange i))
  have hnodup : m.order.Nodup := m.order_perm.nodup_iff.mpr (List.nodup_finRange _)
  refine ⟨?_, fun c hc => ?_, fun s hs => ?_, Nat.dvd_mul_right .., ?_, fun pu hpu => ?_⟩
  · rw [hwloc, List.map_map]
    exact hnodup.map fun _ _ hij => Fin.ext hij
  · have hsocket : c / m.C < m.S := Nat.div_lt_of_lt_mul (Nat.mul_comm m.S m.C ▸ hc)
    let i := m.place.symm (⟨c / m.C, hsocket⟩, ⟨c % m.C, Nat.mod_lt c m.cores_pos⟩,
      ⟨0, m.threads_pos⟩)
    refine ⟨m.pu i, hmem i, ?_⟩
    show m.logicalCore i = c
    rw [logicalCore, socketOf, coreOf, m.place.apply_symm_apply]
    exact Nat.div_add_mod' c m.C
  · let i := m.place.symm (⟨s, hs⟩, ⟨0, m.cores_pos⟩, ⟨0, m.threads_pos⟩)
    refine ⟨m.pu i, hmem i, ?_⟩
    show m.socketOf i = s
    rw [socketOf, m.place.apply_symm_apply]
  · rw [m.hwloc_length]
    exact Nat.dvd_mul_right ..
  · obtain ⟨i, -, rfl⟩ := List.mem_map.mp hpu
    rw [m.hwloc_length]
    exact i.isLt

/-- The lowest-numbered CPU of a unit of the machine. -/
noncomputable def lowest (scope : UnitScope) (v : Nat) : Nat := m.hwloc.lowest scope v

variable {m}

theorem lowest_lt (scope : UnitScope) {v : Nat} (hv : v < scope.count m.config) :
    m.lowest scope v < m.config.numDevs := by
  have hlt := m.hwloc_covered.lowest_lt scope (m.coreConfig_hwloc.symm ▸ hv)
  rwa [m.coreConfig_hwloc] at hlt

end Machine

/-! ## Three machines -/

namespace Hwloc

variable {hw : Hwloc}

/-- The host whose CPUs all hold their own number in every register. -/
def numberedHost (n : Nat) : Host :=
  { Host.opened n with regs := fun cpu _ => BitVec.ofNat 64 cpu }

theorem numberedHost_reads (hc : hw.Covered) {n : Nat} (hcpus : (coreConfig hw).numDevs = n)
    (regs : List (UnitScope × BitVec 32)) : hw.Readable (numberedHost n) regs := by
  intro reg _ i hi cpu hcpu
  have hlt : cpu < (coreConfig hw).numDevs := by
    rw [hc.selected_eq_lowest hi hcpu]
    exact hc.lowest_lt reg.1 hi
  exact decide_eq_false (Nat.not_le.mpr (hcpus ▸ hlt))

/-- A batch of `n` ops in a new table. -/
def oneBatch (n : Nat) : BatchStorage := (allocateBatch .init 0 n).elim .init Prod.snd

theorem oneBatch_eq {n : Nat} (hn : n < 2 ^ 31) :
    allocateBatch .init 0 n = some (0, oneBatch n) ∧
      Fresh (oneBatch n) 0 BatchStorage.init.nextId n [] := by
  obtain ⟨st, hst, hfresh, -⟩ := allocateBatch_fresh init_sized (b := 0) rfl hn
  have hone : oneBatch n = st := by rw [oneBatch, hst, Option.elim_some]
  exact ⟨hone ▸ hst, hone ▸ hfresh⟩

/-- A thread and a socket register on two sockets, with another batch in between. -/
theorem dualSocket_loads :
    ∃ g, findCpuTop Machine.dualSocket.hwloc .init = some g ∧
      Machine.dualSocket.hwloc.LoadsRead g .inOrder 3 (numberedHost 32) 0 (oneBatch 34)
        [.other 1 (.allocate 5), .load .thread 0x10, .load .socket 0x611] := by
  obtain ⟨g, hg, -⟩ := Machine.dualSocket.findCpuTop_machine
  have hcovered := Machine.dualSocket.hwloc_covered
  have hconfig := Machine.dualSocket.coreConfig_hwloc
  have hcpus : (coreConfig Machine.dualSocket.hwloc).numDevs = 32 := by rw [hconfig]; rfl
  obtain ⟨halloc, hfresh⟩ := oneBatch_eq (n := 34) (by omega)
  have hworks := inOrder_works (n := 32) (by omega) 3 fun cpu _ => BitVec.ofNat 64 cpu
  refine ⟨g, hg, loads_read hcovered (hcpus.le.trans (by omega)) hg init_sized rfl halloc ?_ ?_
    (hcpus ▸ hworks) (numberedHost_reads hcovered hcpus _)⟩
  · rw [hfresh.capacity, hconfig]
    decide
  · exact ⟨⟨Nat.one_ne_zero, rfl⟩, fun s _ => ⟨trivial, fun s' _ => ⟨trivial, fun _ _ => trivial⟩⟩⟩

variable (hw) in
/-- However many CPUs there are, a pointer to a thread's register reads the CPU whose
    number is left in 16 bits. -/
theorem threadLoad_reads (hsmall : (coreConfig hw).numDevs < 2 ^ 31) (g : Topo)
    (msr : BitVec 32) :
    ∃ s r, Runs.run (loadStep (coreConfig hw) g 0) ⟨oneBatch (coreConfig hw).numDevs, []⟩
        [.load .thread msr] = some s ∧
      readBatch .inOrder 3 s.st (numberedHost (coreConfig hw).numDevs) 0 = some r ∧
      ∀ i, i < (coreConfig hw).numDevs → ∃ reg p, s.loaded[0]? = some reg ∧
        ptrAt reg.val i = some p ∧ r.st.load 0 p = some (BitVec.ofNat 64 (i % 2 ^ 16)) := by
  obtain ⟨-, hfresh⟩ := oneBatch_eq hsmall
  have hworks := inOrder_works hsmall 3 fun cpu _ => BitVec.ofNat 64 cpu
  obtain ⟨st, hst, hloaded, -⟩ :=
    hfresh.loadThreadBatch (coreConfig hw) msr.toNat (Nat.zero_add _).le
  rw [List.nil_append] at hloaded
  have hok : ∀ p ∈ (List.range (coreConfig hw).numDevs).map fun v => opPlace msr.toNat v,
      (numberedHost (coreConfig hw).numDevs).failsIn .read p.1 p.2 = false := by
    intro p hp
    obtain ⟨v, hv, rfl⟩ := List.mem_map.mp hp
    -- what is left of a CPU number is a CPU number
    have hlt := (Nat.mod_le v (2 ^ 16)).trans_lt (List.mem_range.mp hv)
    exact decide_eq_false (Nat.not_le.mpr hlt)
  have htype : BatchOpType.read ≠ .load := BatchOpType.noConfusion
  obtain ⟨r, hr, hres⟩ := hloaded.row.execute hworks htype hok
  refine ⟨⟨st, [⟨.thread, msr, rowPtrs 0 0 (coreConfig hw).numDevs⟩]⟩, r, ?_, hr, fun i hi => ?_⟩
  · simp only [Runs.run_cons, loadStep, UnitScope.load, UnitScope.count, hst, Option.bind_eq_bind,
      Option.bind_some, Option.getD_some, List.nil_append, Runs.run_nil]
    rfl
  · refine ⟨_, ⟨0, i⟩, rfl, ?_, ?_⟩
    · rw [ptrAt, rowPtrs_getElem? hi, Nat.zero_add]
      rfl
    · have hlen : ((List.range (coreConfig hw).numDevs).map fun v => opPlace msr.toNat v).length =
          (coreConfig hw).numDevs := by rw [List.length_map, List.length_range]
      have hload := hres.row.load (i := i) (hlen.symm ▸ hi)
      refine hload.trans ?_
      rw [rowOutcome, if_pos rfl, List.getElem?_map, List.getElem?_map, List.getElem?_range hi]
      rfl

/-- With 65537 CPUs the last pointer of a register reads CPU 0. -/
theorem wideSocket_misread {g : Topo} :
    ¬ Machine.wideSocket.hwloc.LoadsRead g .inOrder 3 (numberedHost 65537) 0 (oneBatch 65537)
      [.load .thread 0x10] := by
  have hconfig := Machine.wideSocket.coreConfig_hwloc
  have hcpus : (coreConfig Machine.wideSocket.hwloc).numDevs = 65537 := by rw [hconfig]; rfl
  rintro ⟨s, r, hrun, hr, hdel⟩
  obtain ⟨s', r', hrun', hr', hreads⟩ :=
    threadLoad_reads Machine.wideSocket.hwloc (hcpus.trans_lt (by omega)) g 0x10
  rw [hcpus] at hrun' hr' hreads
  obtain rfl := Option.some.inj (hrun.symm.trans hrun')
  obtain rfl := Option.some.inj (hr.symm.trans hr')
  obtain ⟨reg, p, hreg, hp, hload⟩ := hreads 65536 (by omega)
  have hscope : reg.scope = .thread ∧ reg.msr = 0x10 := by
    have hfirst := congrArg (fun l => l[0]?) hdel.registers
    simp only [List.getElem?_map, hreg, Option.map_some] at hfirst
    exact ⟨congrArg Prod.fst (Option.some.inj hfirst), congrArg Prod.snd (Option.some.inj hfirst)⟩
  have hunit : 65536 < reg.scope.count (coreConfig Machine.wideSocket.hwloc) := by
    rw [hscope.1]
    exact (Nat.lt_succ_self 65536).trans_eq hcpus.symm
  obtain ⟨cpu, p', op, hcpu, hp', hop, -, hval⟩ := hdel.value 0 reg hreg 65536 hunit
  obtain rfl := Option.some.inj (hp.symm.trans hp')
  -- thread 65536 is on CPU 65536, but the op went to CPU 0
  have hthread : cpu = 65536 := by
    rw [Machine.wideSocket.hwloc_covered.selected_eq_lowest hunit hcpu, hscope.1]
    exact Machine.wideSocket.hwloc_covered.lowest_thread (hcpus ▸ Nat.lt_succ_self 65536)
  rw [BatchStorage.load, hop, Option.map_some, hval, hthread] at hload
  have hmisread : BitVec.ofNat 64 65536 = BitVec.ofNat 64 (65536 % 2 ^ 16) := Option.some.inj hload
  exact absurd hmisread (by decide)

/-- The map of the two sockets with two cores and one: the third CPU is not counted. -/
theorem unevenSockets_top : findCpuTop unevenSockets .init =
    some ⟨[some ⟨0, 0, 0, 0, 0⟩, some ⟨1, 1, 1, 0, 0⟩], false⟩ := by decide

/-- There, no op is made for socket 1, and its pointer is not set. -/
theorem unevenSockets_unset {g : Topo} (hg : findCpuTop unevenSockets .init = some g) :
    ¬ unevenSockets.LoadsRead g .inOrder 3 (numberedHost 3) 0 (oneBatch 2)
      [.load .socket 0x611] := by
  obtain rfl := Option.some.inj (unevenSockets_top.symm.trans hg)
  rintro ⟨s, r, hrun, -, hdel⟩
  have hloaded : (Runs.run (loadStep (coreConfig unevenSockets)
      ⟨[some ⟨0, 0, 0, 0, 0⟩, some ⟨1, 1, 1, 0, 0⟩], false⟩ 0) ⟨oneBatch 2, []⟩
        [.load .socket 0x611]).map UnitLoading.loaded =
      some [⟨.socket, 0x611, [some ⟨0, 0⟩, none]⟩] := by decide
  rw [hrun, Option.map_some] at hloaded
  have hfirst : s.loaded[0]? = some ⟨.socket, 0x611, [some ⟨0, 0⟩, none]⟩ := by
    rw [Option.some.inj hloaded]
    rfl
  obtain ⟨cpu, p, op, -, hp, -⟩ := hdel.value 0 _ hfirst 1 (by decide)
  contradiction

/-- Reading the registers needs CPU numbers of 16 bits and without gaps, and sockets that
    are alike. -/
theorem loads_not_read :
    findCpuTop cpusOffline .init = none ∧
    (∃ g, findCpuTop Machine.wideSocket.hwloc .init = some g ∧
      allocateBatch .init 0 65537 = some (0, oneBatch 65537) ∧
      opCount (coreConfig Machine.wideSocket.hwloc) (loads [.load .thread 0x10]) ≤
        (oneBatch 65537).capacity 0 ∧
      BatchDriver.inOrder.Works 3 (numberedHost 65537) 65537 ∧
      Machine.wideSocket.hwloc.Readable (numberedHost 65537) (loads [.load .thread 0x10]) ∧
      ¬ Machine.wideSocket.hwloc.LoadsRead g .inOrder 3 (numberedHost 65537) 0 (oneBatch 65537)
        [.load .thread 0x10]) ∧
    ∃ g, findCpuTop unevenSockets .init = some g ∧
      allocateBatch .init 0 2 = some (0, oneBatch 2) ∧
      opCount (coreConfig unevenSockets) (loads [.load .socket 0x611]) ≤ (oneBatch 2).capacity 0 ∧
      BatchDriver.inOrder.Works 3 (numberedHost 3) 3 ∧
      unevenSockets.Readable (numberedHost 3) (loads [.load .socket 0x611]) ∧
      ¬ unevenSockets.LoadsRead g .inOrder 3 (numberedHost 3) 0 (oneBatch 2)
        [.load .socket 0x611] := by
  refine ⟨by decide, ?_, ?_⟩
  · obtain ⟨g, hg, -⟩ := Machine.wideSocket.findCpuTop_machine
    have hconfig := Machine.wideSocket.coreConfig_hwloc
    have hcpus : (coreConfig Machine.wideSocket.hwloc).numDevs = 65537 := by rw [hconfig]; rfl
    have hsmall : 65537 < 2 ^ 31 := by omega
    obtain ⟨halloc, hfresh⟩ := oneBatch_eq hsmall
    refine ⟨g, hg, halloc, ?_, inOrder_works hsmall 3 _,
      numberedHost_reads Machine.wideSocket.hwloc_covered hcpus _, wideSocket_misread⟩
    have hcount : ∀ cfg, opCount cfg (loads [.load .thread 0x10]) = cfg.numDevs :=
      fun cfg => Nat.add_zero cfg.numDevs
    rw [hfresh.capacity, hcount]
    exact hcpus.le
  · refine ⟨_, unevenSockets_top, (oneBatch_eq (by omega)).1, by decide,
      inOrder_works (by omega) 3 _, fun reg hreg i hi cpu hcpu => ?_,
      unevenSockets_unset unevenSockets_top⟩
    -- all three CPUs can be read
    obtain ⟨pu, hpu, rfl, -⟩ := hcpu.1
    have hlt : ∀ pu ∈ unevenSockets.pus, pu.osIndex < 3 := by decide
    exact decide_eq_false (Nat.not_le.mpr (hlt pu hpu))

end Hwloc

end Libmsr
