/-
  Libmsr.Counters.CounterFields

  The control words of the fixed counters field by field: what
  `set_fixed_counter_ctrl` puts in a word is what `get_fixed_ctr_ctrl` finds there,
  for all three counters, and the other bits stay.
-/
import Libmsr.Counters.FixedCounters
import Libmsr.Rapl.UnitsSpec

namespace Libmsr

open BitFields

/-- The values that fit their fields. -/
structure CounterControl.InRange (c : CounterControl) : Prop where
  enable : c.enable.toNat < 2
  ringLevel : c.ringLevel.toNat < 4
  anyThread : c.anyThread.toNat < 2
  pmi : c.pmi.toNat < 2

theorem switchedControl_inRange {enable : Word} (h : enable.toNat < 2) :
    (switchedControl enable).InRange where
  enable := h
  ringLevel := Nat.lt_succ_self 3
  anyThread := Nat.lt_succ_self 1
  pmi := Nat.zero_lt_two

/-- Clearing a whole field and or-ing a value that fits. -/
theorem replaceField_eq_put {mask val : Word} {n k : Nat}
    (hmask : mask = (BitVec.allOnes k).setWidth 64) (hval : val.toNat < 2 ^ k) (x : Word) :
    replaceField x mask n val = (BitField.mk n k).put x val := by
  have hshift : mask <<< n = (BitField.mk n k).mask 64 := by rw [hmask, BitField.mask]
  rw [replaceField, hshift]
  exact BitField.clear_or_put (f := ⟨n, k⟩) x hval

theorem replaceField_one {val : Word} (hval : val.toNat < 2) (n : Nat) (x : Word) :
    replaceField x 1 n val = (BitField.mk n 1).put x val := by
  have hmask : (1 : Word) = (BitVec.allOnes 1).setWidth 64 := by decide
  exact replaceField_eq_put hmask hval x

theorem replaceField_three {val : Word} (hval : val.toNat < 4) (n : Nat) (x : Word) :
    replaceField x 3 n val = (BitField.mk n 2).put x val := by
  have hmask : (3 : Word) = (BitVec.allOnes 2).setWidth 64 := by decide
  exact replaceField_eq_put hmask hval x

/-! ## The fields of both words -/

/-- The fields of IA32_PERF_GLOBAL_CTRL with their values. -/
def perfGlobalCtrlFields (c0 c1 c2 : CounterControl) : List (BitField × Word) :=
  [(⟨32, 1⟩, c0.enable), (⟨33, 1⟩, c1.enable), (⟨34, 1⟩, c2.enable)]

/-- The fields of IA32_FIXED_CTR_CTRL with their values. -/
def fixedCtrCtrlFields (c0 c1 c2 : CounterControl) : List (BitField × Word) :=
  [(⟨0, 2⟩, c0.ringLevel), (⟨2, 1⟩, c0.anyThread), (⟨3, 1⟩, c0.pmi),
    (⟨4, 2⟩, c1.ringLevel), (⟨6, 1⟩, c1.anyThread), (⟨7, 1⟩, c1.pmi),
    (⟨8, 2⟩, c2.ringLevel), (⟨10, 1⟩, c2.anyThread), (⟨11, 1⟩, c2.pmi)]

section Words

variable {c : Fin 3 → CounterControl} (hrange : ∀ k, (c k).InRange)
include hrange

theorem perfGlobalCtrlWord_eq (x : Word) :
    perfGlobalCtrlWord c x = putAll x (perfGlobalCtrlFields (c 0) (c 1) (c 2)) := by
  have hput : ∀ k (n : Nat) (x : Word),
      (c k).toPerfGlobalCtrl n x = (BitField.mk (32 + n) 1).put x (c k).enable := fun k n x =>
    replaceField_one (hrange k).enable (32 + n) x
  rw [perfGlobalCtrlWord, hput, hput, hput]
  rfl

theorem fixedCtrCtrlWord_eq (x : Word) :
    fixedCtrCtrlWord c x = putAll x (fixedCtrCtrlFields (c 0) (c 1) (c 2)) := by
  have hput : ∀ k (n : Nat) (x : Word), (c k).toFixedCtrCtrl n x =
      (BitField.mk (4 * n + 3) 1).put ((BitField.mk (4 * n + 2) 1).put
        ((BitField.mk (4 * n) 2).put x (c k).ringLevel) (c k).anyThread) (c k).pmi := by
    intro k n x
    rw [CounterControl.toFixedCtrCtrl, replaceField_three (hrange k).ringLevel,
      replaceField_one (hrange k).anyThread, replaceField_one (hrange k).pmi]
  rw [fixedCtrCtrlWord, hput, hput, hput]
  rfl

/-- Bits of the first word that belong to no counter stay. -/
theorem getLsbD_perfGlobalCtrlWord {i : Nat} (hi : i < 64) (hout : i < 32 ∨ 34 < i) (x : Word) :
    (perfGlobalCtrlWord c x).getLsbD i = x.getLsbD i := by
  rw [perfGlobalCtrlWord_eq hrange]
  apply getLsbD_putAll hi
  simp only [perfGlobalCtrlFields, List.forall_mem_cons, BitField.Mem]
  simp only [List.not_mem_nil, false_imp_iff, implies_true, and_true]
  omega

/-- Bits of the second word that belong to no counter stay. -/
theorem getLsbD_fixedCtrCtrlWord {i : Nat} (hi : i < 64) (hout : 11 < i) (x : Word) :
    (fixedCtrCtrlWord c x).getLsbD i = x.getLsbD i := by
  rw [fixedCtrCtrlWord_eq hrange]
  apply getLsbD_putAll hi
  simp only [fixedCtrCtrlFields, List.forall_mem_cons, BitField.Mem]
  simp only [List.not_mem_nil, false_imp_iff, implies_true, and_true]
  omega

theorem get_perfGlobalCtrlWord (x : Word) {fv : BitField × Word}
    (hfv : fv ∈ perfGlobalCtrlFields (c 0) (c 1) (c 2)) :
    fv.1.get (perfGlobalCtrlWord c x) = fv.2 := by
  have hdisj : (perfGlobalCtrlFields (c 0) (c 1) (c 2)).Pairwise fun a b => a.1.Disjoint b.1 := by
    simp [perfGlobalCtrlFields, BitField.Disjoint]
  have hfits : ∀ fv ∈ perfGlobalCtrlFields (c 0) (c 1) (c 2),
      fv.1.pos + fv.1.width ≤ 64 ∧ fv.2.toNat < 2 ^ fv.1.width := by
    simp [perfGlobalCtrlFields, (hrange 0).enable, (hrange 1).enable, (hrange 2).enable]
  rw [perfGlobalCtrlWord_eq hrange]
  exact get_putAll hdisj hfv (hfits fv hfv).1 (hfits fv hfv).2 x

theorem get_fixedCtrCtrlWord (x : Word) {fv : BitField × Word}
    (hfv : fv ∈ fixedCtrCtrlFields (c 0) (c 1) (c 2)) :
    fv.1.get (fixedCtrCtrlWord c x) = fv.2 := by
  have hdisj : (fixedCtrCtrlFields (c 0) (c 1) (c 2)).Pairwise fun a b => a.1.Disjoint b.1 := by
    simp [fixedCtrCtrlFields, BitField.Disjoint]
  have hfits : ∀ fv ∈ fixedCtrCtrlFields (c 0) (c 1) (c 2),
      fv.1.pos + fv.1.width ≤ 64 ∧ fv.2.toNat < 2 ^ fv.1.width := by
    simp only [fixedCtrCtrlFields, List.forall_mem_cons]
    simp [(hrange 0).ringLevel, (hrange 0).anyThread, (hrange 0).pmi, (hrange 1).ringLevel,
      (hrange 1).anyThread, (hrange 1).pmi, (hrange 2).ringLevel, (hrange 2).anyThread,
      (hrange 2).pmi]
  rw [fixedCtrCtrlWord_eq hrange]
  exact get_putAll hdisj hfv (hfits fv hfv).1 (hfits fv hfv).2 x

/-- **What is set is what is read**, for each of the counters. -/
theorem ofMsr_words (x y : Word) (k : Fin 3) :
    CounterControl.ofMsr k (perfGlobalCtrlWord c x) (fixedCtrCtrlWord c y) = c k := by
  have hk : (k : Nat) < 3 := k.isLt
  -- the fields of counter `k` are among those of its word
  have henable : (⟨32 + k, 1⟩, (c k).enable) ∈ perfGlobalCtrlFields (c 0) (c 1) (c 2) := by
    fin_cases k <;> simp [perfGlobalCtrlFields]
  have hring : (⟨4 * k, 2⟩, (c k).ringLevel) ∈ fixedCtrCtrlFields (c 0) (c 1) (c 2) := by
    fin_cases k <;> simp [fixedCtrCtrlFields]
  have hany : (⟨4 * k + 2, 1⟩, (c k).anyThread) ∈ fixedCtrCtrlFields (c 0) (c 1) (c 2) := by
    fin_cases k <;> simp [fixedCtrCtrlFields]
  have hpmi : (⟨4 * k + 3, 1⟩, (c k).pmi) ∈ fixedCtrCtrlFields (c 0) (c 1) (c 2) := by
    fin_cases k <;> simp [fixedCtrCtrlFields]
  apply CounterControl.ext
  · show maskVal _ (32 + k) (32 + k) = _
    rw [maskVal_eq_get _ (k := 1) rfl Nat.one_pos]
    exact get_perfGlobalCtrlWord hrange x henable
  · show maskVal _ (4 * k + 1) (4 * k) = _
    rw [maskVal_eq_get _ (k := 2) rfl Nat.two_pos]
    exact get_fixedCtrCtrlWord hrange y hring
  · show maskVal _ (4 * k + 2) (4 * k + 2) = _
    rw [maskVal_eq_get _ (k := 1) rfl Nat.one_pos]
    exact get_fixedCtrCtrlWord hrange y hany
  · show maskVal _ (4 * k + 3) (4 * k + 3) = _
    rw [maskVal_eq_get _ (k := 1) rfl Nat.one_pos]
    exact get_fixedCtrCtrlWord hrange y hpmi

end Words

end Libmsr
