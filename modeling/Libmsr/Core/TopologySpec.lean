/-
  Libmsr.Core.TopologySpec

  What `find_cpu_top` leaves behind.

  - `findCpuTop_spec`: on any topology whose OS indices are the numbers below
    the device count, every map entry is filled with its own PU, and the flag is
    decided by the PU with OS index 1.
  - `Machine`: a uniform machine of S sockets, C cores per socket and T threads
    per core with an arbitrary one-to-one OS numbering.
  - `findCpuTop_machine`: what it records for such a machine.
-/
import Libmsr.Core.Topology
import Libmsr.Lib.Loops
import Libmsr.Lib.MixedRadix
import Mathlib.Data.Fintype.Basic
import Mathlib.Data.List.FinRange
import Mathlib.Data.Fintype.Prod

namespace Libmsr

open MixedRadix

/-! ## find_cpu_top -/

/-- What the loop of `find_cpu_top` has established after its first `k` PUs. -/
structure Recorded (hw : Hwloc) (g : Topo) (k : Nat) (t : Topo) : Prop where
  length : t.threadMap.length = hw.pus.length
  entry : ∀ j (hj : j < hw.pus.length), j < k →
    t.threadMap[hw.pus[j].osIndex]? = some (some (hw.pus[j].hwThread j))
  flag : t.discontinuousMapping = true ↔ g.discontinuousMapping = true ∨
    ∃ j, ∃ hj : j < hw.pus.length, j < k ∧ hw.pus[j].osIndex = 1 ∧ hw.pus[j].core ≠ 1

/-- One iteration of the loop records one more PU. -/
theorem findCpuTopBody_recorded (hw : Hwloc) (g t : Topo) (k : Nat) (hk : k < hw.pus.length)
    (hlt : ∀ pu ∈ hw.pus, pu.osIndex < hw.pus.length)
    (hnd : (hw.pus.map Pu.osIndex).Nodup) (h : Recorded hw g k t) :
    ∃ t', findCpuTopBody hw t k = some t' ∧ Recorded hw g (k + 1) t' := by
  have hget : hw.pus[k]? = some hw.pus[k] := List.getElem?_eq_getElem hk
  have hos : hw.pus[k].osIndex < t.threadMap.length := by
    rw [h.length]
    exact hlt _ (List.getElem_mem hk)
  have hbody : findCpuTopBody hw t k = some
      { threadMap := t.threadMap.set hw.pus[k].osIndex (some (hw.pus[k].hwThread k))
        discontinuousMapping :=
          if hw.pus[k].osIndex = 1 ∧ hw.pus[k].osIndex ≠ (hw.pus[k].hwThread k).coreId then true
          else t.discontinuousMapping } := by
    simp only [findCpuTopBody, hget, Option.bind_eq_bind, Option.bind_some, hos, if_true]
    rfl
  refine ⟨_, hbody, ?_⟩
  constructor
  · rw [List.length_set]
    exact h.length
  · intro j hj hjk
    by_cases hjk' : j = k
    · subst hjk'
      rw [List.getElem?_set_self hos]
    · -- distinct PUs have distinct OS indices, so entry `j` is not overwritten
      have hne : hw.pus[k].osIndex ≠ hw.pus[j].osIndex := by
        intro heq
        have hkm : k < (hw.pus.map Pu.osIndex).length := by rw [List.length_map]; exact hk
        have hjm : j < (hw.pus.map Pu.osIndex).length := by rw [List.length_map]; exact hj
        have hmap : (hw.pus.map Pu.osIndex)[j] = (hw.pus.map Pu.osIndex)[k] := by
          rw [List.getElem_map, List.getElem_map]
          exact heq.symm
        exact hjk' (hnd.getElem_inj_iff.mp hmap)
      rw [List.getElem?_set_ne hne]
      exact h.entry j hj (by omega)
  · have hflag := h.flag
    -- the flag is set in this iteration, or it says what it said before
    by_cases hc : hw.pus[k].osIndex = 1 ∧ hw.pus[k].osIndex ≠ (hw.pus[k].hwThread k).coreId
    · rw [if_pos hc]
      have hc' : hw.pus[k].core ≠ 1 := fun hcore => hc.2 (hc.1.trans hcore.symm)
      exact ⟨fun _ => Or.inr ⟨k, hk, by omega, hc.1, hc'⟩, fun _ => rfl⟩
    · rw [if_neg hc, hflag]
      constructor
      · rintro (hg | ⟨j, hj, hjk, h1⟩)
        · exact Or.inl hg
        · exact Or.inr ⟨j, hj, by omega, h1⟩
      · rintro (hg | ⟨j, hj, hjk, h1, h2⟩)
        · exact Or.inl hg
        · by_cases hjk' : j = k
          · subst hjk'
            exact absurd ⟨h1, fun heq => h2 (by rw [h1] at heq; exact heq.symm)⟩ hc
          · exact Or.inr ⟨j, hj, by omega, h1, h2⟩

/-- On a topology whose `P` OS indices are distinct numbers below `P = NUM_DEVS`,
    `find_cpu_top` stays inside its map, fills every entry, and sets the flag
    exactly when the CPU with OS index 1 is not on core 1. -/
theorem findCpuTop_spec (hw : Hwloc) (g : Topo)
    (hn : (coreConfig hw).numDevs = hw.pus.length)
    (hlt : ∀ pu ∈ hw.pus, pu.osIndex < hw.pus.length)
    (hnd : (hw.pus.map Pu.osIndex).Nodup) :
    ∃ t, findCpuTop hw g = some t ∧ Recorded hw g hw.pus.length t := by
  have hthreads : (coreConfig hw).coresPerSocket * (coreConfig hw).threadsPerCore
      * (coreConfig hw).sockets = hw.pus.length := by
    rw [← hn, CoreConfig.numDevs]
    ring
  have hinit : Recorded hw g 0 { g with threadMap := List.replicate hw.pus.length none } := by
    refine ⟨List.length_replicate, fun j _ hj => absurd hj (by omega), ?_⟩
    constructor
    · exact Or.inl
    · rintro (hg | ⟨j, _, hj, _⟩)
      · exact hg
      · exact absurd hj (by omega)
  unfold findCpuTop
  simp only [hthreads]
  exact Loops.foldlM_range_inv _ (fun k t => Recorded hw g k t) _ _ hinit
    fun k hk t ht => findCpuTopBody_recorded hw g t k hk hlt hnd ht

/-! ## Uniform machines -/

/-- A machine of S sockets, C cores per socket and T threads per core.  `place`
    is its OS numbering: any one-to-one assignment of the OS indices to the
    coordinates.  `order` is the order in which hwloc lists the PUs.  The bound
    holds because hwloc counts objects in an `int`. -/
structure Machine where
  S : Nat
  C : Nat
  T : Nat
  sockets_pos : 0 < S
  cores_pos : 0 < C
  threads_pos : 0 < T
  fits : S * C * T < 2 ^ 31
  place : Fin (S * C * T) ≃ Fin S × Fin C × Fin T
  order : List (Fin (S * C * T))
  order_perm : order.Perm (List.finRange (S * C * T))
  siblingRank : Fin (S * C * T) → Nat

namespace Machine

variable (m : Machine)

/-- Number of logical CPUs. -/
def cpus : Nat := m.S * m.C * m.T

def socketOf (i : Fin (m.S * m.C * m.T)) : Nat := (m.place i).1
def coreOf (i : Fin (m.S * m.C * m.T)) : Nat := (m.place i).2.1
def threadOf (i : Fin (m.S * m.C * m.T)) : Nat := (m.place i).2.2

/-- hwloc numbers the cores of the machine socket by socket. -/
def logicalCore (i : Fin (m.S * m.C * m.T)) : Nat := m.socketOf i * m.C + m.coreOf i

def pu (i : Fin (m.S * m.C * m.T)) : Pu where
  osIndex := i
  core := m.logicalCore i
  socket := m.socketOf i
  siblingRank := m.siblingRank i

/-- The topology hwloc reports for the machine. -/
def hwloc : Hwloc where
  pus := m.order.map m.pu
  ncores := m.S * m.C
  nsockets := m.S

/-- The counts `core_config` derives for the machine. -/
def config : CoreConfig := ⟨m.C, m.T, m.S⟩

theorem order_length : m.order.length = m.S * m.C * m.T := by
  rw [m.order_perm.length_eq, List.length_finRange]

theorem hwloc_length : m.hwloc.pus.length = m.S * m.C * m.T := by
  rw [hwloc, List.length_map, m.order_length]

theorem coreConfig_hwloc : coreConfig m.hwloc = m.config := by
  have hSC : 0 < m.S * m.C := Nat.mul_pos m.sockets_pos m.cores_pos
  unfold coreConfig config
  rw [m.hwloc_length]
  show CoreConfig.mk (m.S * m.C / m.S) (m.S * m.C * m.T / (m.S * m.C)) m.S = _
  rw [Nat.mul_div_cancel_left _ m.sockets_pos, Nat.mul_div_cancel_left _ hSC]

theorem config_numDevs : m.config.numDevs = m.S * m.C * m.T := rfl

/-- The map `find_cpu_top` builds on its first call: entry `i` describes CPU `i`,
    and the ordering scheme is read off CPU 1. -/
theorem findCpuTop_machine :
    ∃ g, findCpuTop m.hwloc Topo.init = some g ∧
      g.threadMap.length = m.S * m.C * m.T ∧
      (∀ i : Fin (m.S * m.C * m.T), ∃ k,
        g.threadMap[(i : Nat)]? = some (some ((m.pu i).hwThread k))) ∧
      (g.discontinuousMapping = true ↔
        ∃ i : Fin (m.S * m.C * m.T), (i : Nat) = 1 ∧ m.logicalCore i ≠ 1) := by
  have hlen := m.hwloc_length
  have hmem : ∀ i, i ∈ m.order := fun i => m.order_perm.mem_iff.mpr (List.mem_finRange i)
  have hnodup : m.order.Nodup := m.order_perm.nodup_iff.mpr (List.nodup_finRange _)
  obtain ⟨g, hg, hrec⟩ := findCpuTop_spec m.hwloc Topo.init
    (by rw [m.coreConfig_hwloc, hlen, config_numDevs])
    (by
      intro p hp
      obtain ⟨i, -, rfl⟩ := List.mem_map.mp hp
      rw [hlen]
      exact i.isLt)
    (by
      rw [hwloc, List.map_map]
      exact hnodup.map (fun i j hij => Fin.ext hij))
  refine ⟨g, hg, by rw [hrec.length, hlen], ?_, ?_⟩
  · intro i
    -- PU `k` in hwloc's order is CPU `i`
    obtain ⟨k, hk, hik⟩ := List.getElem_of_mem (hmem i)
    have hk' : k < m.hwloc.pus.length := by rw [hlen, ← m.order_length]; exact hk
    have hpu : m.hwloc.pus[k] = m.pu i := by
      simp only [hwloc, List.getElem_map, hik]
    have := hrec.entry k hk' hk'
    rw [hpu] at this
    exact ⟨k, this⟩
  · rw [hrec.flag]
    constructor
    · rintro (h | ⟨j, hj, -, h1, h2⟩)
      · exact absurd h (by decide)
      · have hj' : j < m.order.length := by rw [m.order_length, ← hlen]; exact hj
        have hpu : m.hwloc.pus[j] = m.pu m.order[j] := by
          simp only [hwloc, List.getElem_map]
        rw [hpu] at h1 h2
        exact ⟨m.order[j], h1, h2⟩
    · rintro ⟨i, h1, h2⟩
      obtain ⟨k, hk, hik⟩ := List.getElem_of_mem (hmem i)
      have hk' : k < m.hwloc.pus.length := by rw [hlen, ← m.order_length]; exact hk
      have hpu : m.hwloc.pus[k] = m.pu i := by
        simp only [hwloc, List.getElem_map, hik]
      refine Or.inr ⟨k, hk', hk', ?_, ?_⟩
      · rw [hpu]; exact h1
      · rw [hpu]; exact h2

end Machine

end Libmsr
