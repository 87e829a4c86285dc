/-
  Libmsr.Core.CpuCoverage

  The CPUs that a topology of any shape has and that the library works on: cores and
  threads may be spread unevenly over the sockets, and OS indices may be missing.

  `NUM_DEVS` is a product of truncated quotients, and it serves as the size of the map
  that `find_cpu_top` writes at OS indices, and as the range of CPUs that
  `load_thread_batch` makes ops for.  All CPUs are covered if the quotients are exact
  and the OS indices leave no gap, and not otherwise.
-/
import Libmsr.Core.RowLoading
import Libmsr.Core.TopologySpec

namespace Libmsr

/-- `load_thread_batch` adds one op for each PU, on its OS index. -/
def LoadsEveryPu (hw : Hwloc) : Prop :=
  ∀ (st : BatchStorage) (b id size : Nat) (places : List (Nat × Nat)) (msr : Nat),
    Fresh st b id size places → places.length + (coreConfig hw).numDevs ≤ size →
      ∃ ptrs st' row,
        loadThreadBatch (coreConfig hw) st msr
            (some (List.replicate (coreConfig hw).numDevs none)) b = some (0, some ptrs, st') ∧
          Fresh st' b id size (places ++ row) ∧
          row.Perm (hw.pus.map fun pu => opPlace msr pu.osIndex)

/-- `find_cpu_top` stays in the map it allocated and fills it, `num_devs` counts the
    PUs, and `load_thread_batch` reaches each of them. -/
structure CoversPus (hw : Hwloc) (g : Topo) : Prop where
  map : ∃ t, findCpuTop hw g = some t ∧ ∀ e ∈ t.threadMap, e ≠ none
  devs : (coreConfig hw).numDevs = hw.pus.length
  loads : LoadsEveryPu hw

/-! ## The device count -/

/-- The truncated quotients count the PUs if they are exact. -/
theorem numDevs_eq_iff {hw : Hwloc} :
    (coreConfig hw).numDevs = hw.pus.length ↔
      (hw.pus = [] ∨ hw.nsockets ∣ hw.ncores) ∧ hw.ncores ∣ hw.pus.length := by
  show hw.nsockets * (hw.ncores / hw.nsockets) * (hw.pus.length / hw.ncores) = _ ↔ _
  have hcores_le : hw.nsockets * (hw.ncores / hw.nsockets) ≤ hw.ncores := Nat.mul_div_le _ _
  have hpus_le : hw.ncores * (hw.pus.length / hw.ncores) ≤ hw.pus.length := Nat.mul_div_le _ _
  constructor
  · intro h
    have hexact : hw.ncores * (hw.pus.length / hw.ncores) = hw.pus.length :=
      Nat.le_antisymm hpus_le (h.symm.le.trans (Nat.mul_le_mul_right _ hcores_le))
    refine ⟨?_, Dvd.intro _ hexact⟩
    by_cases hnone : hw.pus = []
    · exact Or.inl hnone
    · -- there is a thread per core, so the cores are all counted
      have hpos : 0 < hw.pus.length / hw.ncores := by
        refine Nat.pos_of_ne_zero fun hzero => hnone (List.eq_nil_of_length_eq_zero ?_)
        rw [← hexact, hzero, Nat.mul_zero]
      exact Or.inr (Dvd.intro _ (Nat.eq_of_mul_eq_mul_right hpos (h.trans hexact.symm)))
  · rintro ⟨hnone | hS, hN⟩
    · rw [hnone]
      simp
    · rw [Nat.mul_div_cancel' hS, Nat.mul_div_cancel' hN]

/-- Distinct OS indices below their number are all the numbers below it. -/
theorem osIndices_perm {hw : Hwloc} (hnd : (hw.pus.map Pu.osIndex).Nodup)
    (hlt : ∀ pu ∈ hw.pus, pu.osIndex < hw.pus.length) :
    (List.range hw.pus.length).Perm (hw.pus.map Pu.osIndex) := by
  have hsub : (hw.pus.map Pu.osIndex).Subperm (List.range hw.pus.length) := by
    refine hnd.subperm fun i hi => ?_
    obtain ⟨pu, hpu, rfl⟩ := List.mem_map.mp hi
    exact List.mem_range.mpr (hlt pu hpu)
  refine (hsub.perm_of_length_le ?_).symm
  rw [List.length_range, List.length_map]

/-! ## The map -/

/-- An iteration that succeeds stores inside the map, and keeps its length. -/
theorem findCpuTopBody_eq_some {hw : Hwloc} {g g' : Topo} {i : Nat}
    (h : findCpuTopBody hw g i = some g') :
    (∃ pu, hw.pus[i]? = some pu ∧ pu.osIndex < g.threadMap.length) ∧
      g'.threadMap.length = g.threadMap.length := by
  obtain ⟨pu, hpu, h⟩ := Option.bind_eq_some_iff.mp h
  split at h
  · rename_i hlt
    obtain rfl := Option.some.inj h
    exact ⟨⟨pu, hpu, hlt⟩, List.length_set⟩
  · contradiction

/-- If the loop succeeds, every PU it meets has its place in the map. -/
theorem findCpuTop_inBounds {hw : Hwloc} {n : Nat} {g g' : Topo}
    (h : (List.range n).foldlM (findCpuTopBody hw) g = some g') :
    g'.threadMap.length = g.threadMap.length ∧
      ∀ i, i < n → ∃ pu, hw.pus[i]? = some pu ∧ pu.osIndex < g.threadMap.length := by
  induction n generalizing g' with
  | zero =>
    obtain rfl := Option.some.inj h
    exact ⟨rfl, fun _ hi => absurd hi (Nat.not_lt_zero _)⟩
  | succ n ih =>
    rw [Loops.foldlM_range_succ] at h
    obtain ⟨t, ht, hlast⟩ := Option.bind_eq_some_iff.mp h
    obtain ⟨hlen, hbelow⟩ := ih ht
    obtain ⟨hpu, hlen'⟩ := findCpuTopBody_eq_some hlast
    rw [hlen] at hpu
    refine ⟨hlen'.trans hlen, fun i hi => ?_⟩
    rcases Nat.lt_succ_iff_lt_or_eq.mp hi with hlt | rfl
    · exact hbelow i hlt
    · exact hpu

/-- With no gap in the numbering, the map is filled. -/
theorem Recorded.filled {hw : Hwloc} {g t : Topo} (h : Recorded hw g hw.pus.length t)
    (hnd : (hw.pus.map Pu.osIndex).Nodup) (hlt : ∀ pu ∈ hw.pus, pu.osIndex < hw.pus.length) :
    ∀ e ∈ t.threadMap, e ≠ none := by
  intro e he
  obtain ⟨i, hi, rfl⟩ := List.getElem_of_mem he
  have hmem : i ∈ hw.pus.map Pu.osIndex :=
    (osIndices_perm hnd hlt).mem_iff.mp (List.mem_range.mpr (h.length ▸ hi))
  obtain ⟨pu, hpu, hos⟩ := List.mem_map.mp hmem
  obtain ⟨j, hj, rfl⟩ := List.getElem_of_mem hpu
  have hentry := h.entry j hj hj
  rw [hos, List.getElem?_eq_getElem hi] at hentry
  rw [Option.some.inj hentry]
  exact Option.some_ne_none _

/-- With no gap in the numbering, the CPUs that get an op are the OS indices. -/
theorem loadsEveryPu {hw : Hwloc} (hnd : (hw.pus.map Pu.osIndex).Nodup)
    (hlt : ∀ pu ∈ hw.pus, pu.osIndex < hw.pus.length)
    (hdevs : (coreConfig hw).numDevs = hw.pus.length) : LoadsEveryPu hw := by
  intro st b id size places msr hfresh hroom
  obtain ⟨st', hload, hfresh', -⟩ := hfresh.loadThreadBatch (coreConfig hw) msr hroom
  refine ⟨_, st', _, hload, hfresh', ?_⟩
  have hperm := (osIndices_perm hnd hlt).map (opPlace msr)
  rwa [← hdevs, List.map_map] at hperm

/-- On a topology of any shape: the CPUs are covered exactly when the counts divide and
    the OS indices leave no gap. -/
theorem coversPus_iff (hw : Hwloc) (g : Topo) (hnd : (hw.pus.map Pu.osIndex).Nodup) :
    CoversPus hw g ↔ (hw.pus = [] ∨ hw.nsockets ∣ hw.ncores) ∧ hw.ncores ∣ hw.pus.length ∧
      ∀ pu ∈ hw.pus, pu.osIndex < hw.pus.length := by
  constructor
  · rintro ⟨⟨t, ht, -⟩, hdevs, -⟩
    obtain ⟨hS, hN⟩ := numDevs_eq_iff.mp hdevs
    refine ⟨hS, hN, fun pu hpu => ?_⟩
    -- the loop meets every PU
    have hthreads : (coreConfig hw).coresPerSocket * (coreConfig hw).threadsPerCore *
        (coreConfig hw).sockets = hw.pus.length := by
      rw [← hdevs, CoreConfig.numDevs]
      ring
    rw [findCpuTop, hthreads] at ht
    obtain ⟨-, hin⟩ := findCpuTop_inBounds ht
    obtain ⟨i, hi, rfl⟩ := List.getElem_of_mem hpu
    obtain ⟨pu, hpu, hlt⟩ := hin i hi
    rw [List.getElem?_eq_getElem hi] at hpu
    rw [Option.some.inj hpu]
    exact hlt.trans_eq (List.length_replicate ..)
  · rintro ⟨hS, hN, hlt⟩
    have hdevs := numDevs_eq_iff.mpr ⟨hS, hN⟩
    obtain ⟨t, ht, hrec⟩ := findCpuTop_spec hw g hdevs hlt hnd
    exact ⟨⟨t, ht, hrec.filled hnd hlt⟩, hdevs, loadsEveryPu hnd hlt hdevs⟩

/-- A socket of one-thread cores, with CPUs 2 and 3 offline. -/
def cpusOffline : Hwloc where
  pus := [⟨0, 0, 0, 0⟩, ⟨1, 1, 0, 0⟩, ⟨4, 2, 0, 0⟩]
  ncores := 3
  nsockets := 1

/-- Two sockets with two cores and with one core. -/
def unevenSockets : Hwloc where
  pus := [⟨0, 0, 0, 0⟩, ⟨1, 1, 0, 0⟩, ⟨2, 2, 1, 0⟩]
  ncores := 3
  nsockets := 2

theorem coversPus_four : CoversPus ⟨[⟨0, 0, 0, 0⟩, ⟨2, 0, 0, 1⟩, ⟨3, 1, 1, 0⟩, ⟨1, 1, 1, 1⟩], 2, 2⟩
    Topo.init :=
  (coversPus_iff _ _ (by decide)).mpr (by decide)

/-- CPU 4 is stored behind the end of the map; and the third CPU of the uneven sockets
    is not counted. -/
theorem cpus_not_covered :
    findCpuTop cpusOffline Topo.init = none ∧ ¬ CoversPus cpusOffline Topo.init ∧
      (coreConfig unevenSockets).numDevs = 2 ∧ ¬ CoversPus unevenSockets Topo.init := by
  have hoffline : findCpuTop cpusOffline Topo.init = none := by decide
  refine ⟨hoffline, fun h => ?_, by decide, fun h => absurd h.devs (by decide)⟩
  obtain ⟨t, ht, -⟩ := h.map
  rw [hoffline] at ht
  contradiction

end Libmsr
