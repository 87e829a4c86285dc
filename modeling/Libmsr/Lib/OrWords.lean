/-
  Libmsr.Lib.OrWords

  Words assembled by or-ing parts.  Nothing here mentions a particular program.

  - `Assembles.agree_iff`: changing one part leaves a bit alone exactly when the part's
    own bit stays or something else sets it.
  - `Assembles.bit_iff`: a bit of a part is seen exactly when no other part sets it
    alone.
  - `Layout.confined_iff`: parts that are values shifted to their fields stay in them
    exactly when what they have past their fields is there anyway, and
    `Layout.confined_of_width`: they do when none is wider than its field.
-/
import Mathlib.Algebra.Group.Nat.Defs
import Mathlib.Tactic.Common

namespace OrWords

variable {ι : Type*} {w : Nat}

/-- The word has the fixed bits and those of the parts. -/
def Assembles (word fixed : BitVec w) (part : ι → BitVec w) : Prop :=
  ∀ j, word.getLsbD j = true ↔ fixed.getLsbD j = true ∨ ∃ k, (part k).getLsbD j = true

/-- Something else than part `k` sets bit `j`. -/
def SetElsewhere (fixed : BitVec w) (part : ι → BitVec w) (k : ι) (j : Nat) : Prop :=
  fixed.getLsbD j = true ∨ ∃ l, l ≠ k ∧ (part l).getLsbD j = true

section Assembles

variable {word word' fixed : BitVec w} {part part' : ι → BitVec w}

theorem setElsewhere_congr {k : ι} (hsame : ∀ l, l ≠ k → part' l = part l) (j : Nat) :
    SetElsewhere fixed part' k j ↔ SetElsewhere fixed part k j := by
  refine or_congr_right (exists_congr fun l => and_congr_right fun hne => ?_)
  rw [hsame l hne]

theorem Assembles.split (h : Assembles word fixed part) (k : ι) (j : Nat) :
    word.getLsbD j = true ↔ (part k).getLsbD j = true ∨ SetElsewhere fixed part k j := by
  rw [h j]
  constructor
  · rintro (hfixed | ⟨l, hl⟩)
    · exact Or.inr (Or.inl hfixed)
    · rcases eq_or_ne l k with rfl | hne
      · exact Or.inl hl
      · exact Or.inr (Or.inr ⟨l, hne, hl⟩)
  · rintro (hk | hfixed | ⟨l, -, hl⟩)
    · exact Or.inr ⟨k, hk⟩
    · exact Or.inl hfixed
    · exact Or.inr ⟨l, hl⟩

/-- **One part changed.** -/
theorem Assembles.agree_iff (h : Assembles word fixed part) (h' : Assembles word' fixed part')
    {k : ι} (hsame : ∀ l, l ≠ k → part' l = part l) (j : Nat) :
    word'.getLsbD j = word.getLsbD j ↔
      (part' k).getLsbD j = (part k).getLsbD j ∨ SetElsewhere fixed part k j := by
  rw [Bool.eq_iff_iff, h.split k, h'.split k, setElsewhere_congr hsame]
  by_cases hset : SetElsewhere fixed part k j
  · exact iff_of_true (iff_of_true (Or.inr hset) (Or.inr hset)) (Or.inr hset)
  · simp only [hset, or_false]
    exact Bool.eq_iff_iff.symm

/-- **One part seen.** -/
theorem Assembles.bit_iff (h : Assembles word fixed part) (k : ι) (j : Nat) :
    word.getLsbD j = (part k).getLsbD j ↔
      (SetElsewhere fixed part k j → (part k).getLsbD j = true) := by
  rw [Bool.eq_iff_iff, h.split k]
  constructor
  · intro heq hset
    exact heq.mp (Or.inr hset)
  · intro hcover
    constructor
    · rintro (hk | hset)
      · exact hk
      · exact hcover hset
    · exact Or.inl

end Assembles

/-! ## Fields -/

/-- A field for each value, none over another, and bits that are always set, in no
    field. -/
structure Layout (ι : Type*) (w : Nat) where
  shift : ι → Nat
  width : ι → Nat
  fixed : BitVec w
  fits : ∀ k, shift k + width k ≤ w
  apart : ∀ k l, k ≠ l → shift k + width k ≤ shift l ∨ shift l + width l ≤ shift k
  free : ∀ k j, shift k ≤ j → j < shift k + width k → fixed.getLsbD j = false

namespace Layout

variable {L : Layout ι w} {word word' : BitVec w} {value value' : ι → BitVec w}

/-- Bit `j` is in the field of `k`. -/
def Has (L : Layout ι w) (k : ι) (j : Nat) : Prop :=
  L.shift k ≤ j ∧ j < L.shift k + L.width k

/-- The value of `k`, shifted to its field. -/
def part (L : Layout ι w) (value : ι → BitVec w) (k : ι) : BitVec w := value k <<< L.shift k

/-- Each field has the low bits of its value. -/
def Places (L : Layout ι w) (word : BitVec w) (value : ι → BitVec w) : Prop :=
  ∀ k j, L.Has k j → word.getLsbD j = (value k).getLsbD (j - L.shift k)

/-- The other fields and the fixed bits are the same. -/
def KeepsOthers (L : Layout ι w) (k : ι) (word word' : BitVec w) : Prop :=
  ∀ j, (L.fixed.getLsbD j = true ∨ ∃ l, l ≠ k ∧ L.Has l j) →
    word'.getLsbD j = word.getLsbD j

/-- The bits of `k` that fall into the field of `l` are there anyway. -/
def Covered (L : Layout ι w) (value value' : ι → BitVec w) (k l : ι) : Prop :=
  ∀ b, L.Has l (L.shift k + b) → (value' k).getLsbD b = true →
    (value l).getLsbD (L.shift k + b - L.shift l) = true

/-- Values that stay in their fields, also when `k` becomes what it is in `value'`. -/
def Confined (L : Layout ι w) (k : ι) (value value' : ι → BitVec w) : Prop :=
  (∀ i l, i ≠ l → L.Covered value value i l) ∧ ∀ l, k ≠ l → L.Covered value value' k l

theorem Has.lt {k : ι} {j : Nat} (h : L.Has k j) : j < w :=
  Nat.lt_of_lt_of_le h.2 (L.fits k)

theorem Has.not_fixed {k : ι} {j : Nat} (h : L.Has k j) : L.fixed.getLsbD j ≠ true := by
  rw [L.free k j h.1 h.2]
  exact Bool.false_ne_true

theorem part_bit (k : ι) {j : Nat} (hj : j < w) :
    (L.part value k).getLsbD j = true ↔
      L.shift k ≤ j ∧ (value k).getLsbD (j - L.shift k) = true := by
  rw [part, BitVec.getLsbD_shiftLeft]
  simp only [hj, decide_true, Bool.true_and, Bool.and_eq_true, Bool.not_eq_true',
    decide_eq_false_iff_not, Nat.not_lt]

/-- Inside its field a part is the value. -/
theorem Has.part_bit {k : ι} {j : Nat} (h : L.Has k j) :
    (L.part value k).getLsbD j = (value k).getLsbD (j - L.shift k) := by
  rw [Bool.eq_iff_iff, Layout.part_bit k h.lt]
  exact and_iff_right h.1

/-- Only the low bits of the values are placed. -/
theorem places_congr (hlow : ∀ k b, b < L.width k →
    (value' k).getLsbD b = (value k).getLsbD b) :
    L.Places word value' ↔ L.Places word value := by
  refine forall₃_congr fun k j hj => ?_
  rw [hlow k (j - L.shift k) (Nat.sub_lt_left_of_lt_add hj.1 hj.2)]

theorem covered_iff {k l : ι} :
    L.Covered value value' k l ↔ ∀ j, L.Has l j → (L.part value' k).getLsbD j = true →
      (L.part value l).getLsbD j = true := by
  constructor
  · intro hcov j hj hbit
    obtain ⟨hle, hval⟩ := (part_bit k hj.lt).mp hbit
    have hsum : L.shift k + (j - L.shift k) = j := Nat.add_sub_cancel' hle
    have hat := hcov (j - L.shift k)
    rw [hsum] at hat
    rw [hj.part_bit]
    exact hat hj hval
  · intro hcov b hb hval
    rw [← hb.part_bit]
    apply hcov _ hb
    rw [part_bit k hb.lt, Nat.add_sub_cancel_left]
    exact ⟨Nat.le_add_right _ _, hval⟩

/-- Nothing but other parts can reach a bit of a field. -/
theorem Has.setElsewhere_iff {k : ι} {j : Nat} (h : L.Has k j) :
    SetElsewhere L.fixed (L.part value) k j ↔
      ∃ l, l ≠ k ∧ (L.part value l).getLsbD j = true :=
  or_iff_right h.not_fixed

/-- **Placement.** -/
theorem places_iff (h : Assembles word L.fixed (L.part value)) :
    L.Places word value ↔ ∀ k l, k ≠ l → L.Covered value value k l := by
  have hbits : L.Places word value ↔
      ∀ l j, L.Has l j → ∀ k, k ≠ l → (L.part value k).getLsbD j = true →
        (L.part value l).getLsbD j = true := by
    refine forall₃_congr fun l j hj => ?_
    rw [← hj.part_bit, h.bit_iff, hj.setElsewhere_iff]
    constructor
    · intro hset k hne hk
      exact hset ⟨k, hne, hk⟩
    · rintro hset ⟨k, hne, hk⟩
      exact hset k hne hk
  rw [hbits]
  constructor
  · intro hset k l hne
    exact covered_iff.mpr fun j hj => hset l j hj k hne
  · intro hcov l j hj k hne
    exact covered_iff.mp (hcov k l hne) j hj

/-- **Confinement.**  Values are in their fields, and a change of one changes nothing
    else, exactly when they are confined. -/
theorem confined_iff (h : Assembles word L.fixed (L.part value))
    (h' : Assembles word' L.fixed (L.part value')) {k : ι}
    (hsame : ∀ l, l ≠ k → value' l = value l) :
    (L.Places word value ∧ L.KeepsOthers k word word') ↔ L.Confined k value value' := by
  have hparts : ∀ l, l ≠ k → L.part value' l = L.part value l := by
    intro l hne
    rw [part, part, hsame l hne]
  rw [places_iff h]
  refine and_congr_right fun hplaced => ?_
  constructor
  · intro hkeep l hne
    refine covered_iff.mpr fun j hj hbit => ?_
    -- the bit was there before, or something else sets it; that is `l`, all being placed
    rcases (h.agree_iff h' hparts j).mp (hkeep j (Or.inr ⟨l, hne.symm, hj⟩)) with heq | hset
    · rw [heq] at hbit
      exact covered_iff.mp (hplaced k l hne) j hj hbit
    · rcases hset with hfixed | ⟨i, -, hi⟩
      · exact absurd hfixed hj.not_fixed
      · rcases eq_or_ne i l with rfl | hil
        · exact hi
        · exact covered_iff.mp (hplaced i l hil) j hj hi
  · intro hcov j hj
    rw [h.agree_iff h' hparts]
    rcases hj with hfixed | ⟨l, hne, hl⟩
    · exact Or.inr (Or.inl hfixed)
    · by_cases hbit : (L.part value l).getLsbD j = true
      · exact Or.inr (Or.inr ⟨l, hne, hbit⟩)
      · -- nothing of `k` is where `l` has no bit
        have hclear : (L.part value k).getLsbD j = false := Bool.eq_false_iff.mpr fun hk =>
          hbit (covered_iff.mp (hplaced k l hne.symm) j hl hk)
        have hclear' : (L.part value' k).getLsbD j = false := Bool.eq_false_iff.mpr fun hk =>
          hbit (covered_iff.mp (hcov l hne.symm) j hl hk)
        exact Or.inl (hclear'.trans hclear.symm)

/-- What falls into another field is past the value's own. -/
theorem Has.past {k l : ι} (hne : k ≠ l) {b : Nat} (h : L.Has l (L.shift k + b)) :
    L.width k ≤ b := by
  obtain ⟨hle, hlt⟩ := h
  rcases L.apart k l hne with hbelow | habove
  · exact Nat.le_of_add_le_add_left (Nat.le_trans hbelow hle)
  · exact absurd (Nat.lt_of_lt_of_le hlt habove) (Nat.not_lt.mpr (Nat.le_add_right _ _))

/-- Values no wider than their fields are confined. -/
theorem confined_of_width {k : ι} (h : ∀ i, (value i).toNat < 2 ^ L.width i)
    (h' : (value' k).toNat < 2 ^ L.width k) : L.Confined k value value' := by
  have hpast : ∀ (v : BitVec w) (i l : ι) (b : Nat), i ≠ l → v.toNat < 2 ^ L.width i →
      L.Has l (L.shift i + b) → v.getLsbD b = false := by
    intro v i l b hne hv hb
    have hwide : v.toNat < 2 ^ b :=
      Nat.lt_of_lt_of_le hv (Nat.pow_le_pow_right Nat.two_pos (hb.past hne))
    exact Nat.testBit_lt_two_pow hwide
  constructor
  · intro i l hne b hb hbit
    rw [hpast (value i) i l b hne (h i) hb] at hbit
    exact absurd hbit Bool.false_ne_true
  · intro l hne b hb hbit
    rw [hpast (value' k) k l b hne h' hb] at hbit
    exact absurd hbit Bool.false_ne_true

end Layout

end OrWords
