/-
  Libmsr.Counters.PmcLoading

  What `init_perfevtsel` and `init_pmc` load.

  Both run through two switches over the number of counters, from the last one down
  to the first, so the registers are in the batch in that order.  From nine counters
  on no case is reached: the batch is allocated, and no array is.
-/
import Libmsr.Counters.Pmc

namespace Libmsr

/-! ## The switches -/

theorem fallThrough_eq {c : Nat} (hpos : 1 ≤ c) (hle : c ≤ 8) :
    fallThrough c = (List.range c).map fun r => c - 1 - r := by
  rw [fallThrough, if_pos (by omega), Int.toNat_natCast]

theorem fallThrough_of_gt {n : Int} (h : 8 < n) : fallThrough n = [] := by
  rw [fallThrough, if_neg (by omega)]

theorem fallThrough_of_lt {n : Int} (h : n < 1) : fallThrough n = [] := by
  rw [fallThrough, if_neg (by omega)]

/-- Case `c` reaches the counters below `c`. -/
theorem mem_fallThrough {c k : Nat} (hle : c ≤ 8) : k ∈ fallThrough c ↔ k < c := by
  rcases Nat.eq_zero_or_pos c with rfl | hpos
  · rw [fallThrough_of_lt (by decide)]
    simp
  · rw [fallThrough_eq hpos hle, List.mem_map]
    constructor
    · rintro ⟨r, hr, rfl⟩
      have hr' := List.mem_range.mp hr
      omega
    · intro hk
      exact ⟨c - 1 - k, List.mem_range.mpr (by omega), by omega⟩

/-! ## The layout of both batches -/

theorem last_sub_lt {c k : Nat} (hk : k < c) : c - 1 - k < c := by omega

theorem last_sub_last_sub {c k : Nat} (hk : k < c) : c - 1 - (c - 1 - k) = k := by omega

/-- `c` counters of every thread, the last one first. -/
def pmcLayout (cfg : CoreConfig) (c msr0 : Nat) : TableLayout where
  count := c
  objects := cfg.numDevs
  row k := c - 1 - k
  msr k := msr0 + k
  cpu t := t
  row_lt _ hk := last_sub_lt hk
  row_row _ hk := last_sub_last_sub hk

section Init

variable {P : Platform} {rax : Word} {msr0 b : Nat} {arrays : RegArrays} {st : BatchStorage}

variable (msr0 arrays) in
/-- Up to eight counters are loaded, and the arrays of the others stay. -/
theorem initCounters_spec (hs : st.Sized) (hempty : st.entry b = .empty)
    (hpos : 1 ≤ cpuidNumPmc rax) (hle : cpuidNumPmc rax ≤ 8)
    (hsmall : cpuidNumPmc rax * P.cfg.numDevs < 2 ^ 31) :
    ∃ s', initCounters P rax (msr0 + ·) b (arrays, st) = some (0, s') ∧
      RegTable (pmcLayout P.cfg (cpuidNumPmc rax) msr0) s'.1 s'.2 b st.nextId (fun _ _ => 0) ∧
      s'.2.Sized ∧ (∀ k, cpuidNumPmc rax ≤ k → s'.1 k = arrays k) ∧ KeepsOthers st b s'.2 := by
  -- the first switch allocates the arrays of the counters that exist
  have hcalloc : ∀ k, k < cpuidNumPmc rax →
      (fallThrough (cpuidNumPmc rax)).foldl (callocArray P.cfg.numDevs) arrays k =
        some (List.replicate P.cfg.numDevs none) := by
    intro k hk
    rw [foldl_callocArray, if_pos ((mem_fallThrough hle).mpr hk)]
  obtain ⟨st₁, hst₁, s', hs', htable, hsized, hothers, hkeep⟩ :=
    allocate_loads_table (L := pmcLayout P.cfg (cpuidNumPmc rax) msr0)
      (loadThreadBatch_loadsRow P.cfg) hs hempty hsmall hcalloc
  refine ⟨s', ?_, htable, hsized, fun k hk => ?_, hkeep⟩
  · have hnot : ¬ cpuidNumPmc rax < 1 := by omega
    have halloc : allocateBatch st b (cpuidNumPmc rax * P.cfg.numDevs) = some (0, st₁) := hst₁
    -- the second one loads them, from the last counter down
    have hloop : (fallThrough (cpuidNumPmc rax)).foldlM
        (loadArray (loadThreadBatch P.cfg) (msr0 + ·) b)
        ((fallThrough (cpuidNumPmc rax)).foldl (callocArray P.cfg.numDevs) arrays, st₁) =
          some s' := by
      rw [fallThrough_eq hpos hle] at hs' ⊢
      rw [List.foldlM_map]
      exact hs'
    simp only [initCounters, hnot, if_false, halloc, Option.bind_eq_bind, Option.bind_some, hloop]
  · rw [hothers k hk, foldl_callocArray, if_neg]
    intro hmem
    have hlt := (mem_fallThrough hle).mp hmem
    omega

/-- Where the switches have no case, no array is allocated. -/
theorem initCounters_none (hout : ¬ (1 ≤ cpuidNumPmc rax ∧ cpuidNumPmc rax ≤ 8))
    {rc : Int} {s' : RegArrays × BatchStorage}
    (h : initCounters P rax (msr0 + ·) b (arrays, st) = some (rc, s')) : s'.1 = arrays := by
  rw [initCounters] at h
  rcases Nat.lt_or_ge (cpuidNumPmc rax) 1 with hzero | hpos
  · rw [if_pos hzero, Option.some_inj] at h
    rw [← (Prod.mk.inj h).2]
  · have hnone : fallThrough (cpuidNumPmc rax) = [] := fallThrough_of_gt (by omega)
    rw [if_neg (by omega), hnone, Option.bind_eq_bind, Option.bind_eq_some_iff] at h
    obtain ⟨⟨_, st₁⟩, _, hrest⟩ := h
    obtain ⟨_, rfl⟩ := Prod.mk.inj (Option.some.inj hrest)
    rfl

end Init

end Libmsr
