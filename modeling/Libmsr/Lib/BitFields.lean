/-
  Libmsr.Lib.BitFields

  Fields of a fixed-width word.  Nothing here mentions a particular program.

  - `put` / `get`: replace a field, and fetch it.  Everything is stated bit by
    bit first (`getLsbD_put`, `getLsbD_get`).
  - `get_put_self` / `get_put_disjoint`: what a replaced field reads as, and what
    the others do.
  - `get_updateAll` / `getLsbD_updateAll`: the same for a list of changes of
    pairwise disjoint fields, each of which may depend on what the field holds.
-/
import Libmsr.Lib.Words

namespace BitFields

/-- The bits from `pos` on, `width` of them. -/
structure BitField where
  pos : Nat
  width : Nat
  deriving Repr, DecidableEq

/-- Bit `i` is in the field. -/
def BitField.Mem (f : BitField) (i : Nat) : Prop := f.pos ≤ i ∧ i < f.pos + f.width

instance (f : BitField) (i : Nat) : Decidable (f.Mem i) :=
  inferInstanceAs (Decidable (f.pos ≤ i ∧ i < f.pos + f.width))

/-- One field ends before the other one begins. -/
def BitField.Disjoint (f g : BitField) : Prop := f.pos + f.width ≤ g.pos ∨ g.pos + g.width ≤ f.pos

instance (f g : BitField) : Decidable (f.Disjoint g) :=
  inferInstanceAs (Decidable (f.pos + f.width ≤ g.pos ∨ g.pos + g.width ≤ f.pos))

theorem BitField.Disjoint.symm {f g : BitField} (h : f.Disjoint g) : g.Disjoint f := Or.symm h

theorem BitField.Disjoint.not_mem {f g : BitField} (h : f.Disjoint g) {i : Nat} (hi : f.Mem i) :
    ¬ g.Mem i := by
  rcases h with h | h <;> unfold BitField.Mem at * <;> omega

variable {w : Nat}

/-- The word with ones in the field. -/
def BitField.mask (w : Nat) (f : BitField) : BitVec w :=
  ((BitVec.allOnes f.width).setWidth w) <<< f.pos

theorem BitField.getLsbD_mask (f : BitField) {i : Nat} (hi : i < w) :
    (f.mask w).getLsbD i = decide (f.Mem i) := by
  rw [BitField.mask, BitVec.getLsbD_shiftLeft, BitVec.getLsbD_setWidth, BitVec.getLsbD_allOnes]
  by_cases hpos : f.pos ≤ i
  · have hlt : i - f.pos < w := by omega
    have hwidth : i - f.pos < f.width ↔ i < f.pos + f.width := by omega
    simp [BitField.Mem, hi, hpos, hlt, hwidth, Nat.not_lt.mpr hpos]
  · simp [BitField.Mem, hpos, Nat.lt_of_not_le hpos]

/-- Replace the field by the low bits of `v`. -/
def BitField.put (f : BitField) (x v : BitVec w) : BitVec w :=
  (x &&& ~~~ f.mask w) ||| (v <<< f.pos &&& f.mask w)

/-- Fetch the field. -/
def BitField.get (f : BitField) (x : BitVec w) : BitVec w :=
  (x >>> f.pos) &&& (BitVec.allOnes f.width).setWidth w

theorem BitField.getLsbD_put (f : BitField) (x v : BitVec w) {i : Nat} (hi : i < w) :
    (f.put x v).getLsbD i = if f.Mem i then v.getLsbD (i - f.pos) else x.getLsbD i := by
  rw [BitField.put, BitVec.getLsbD_or, BitVec.getLsbD_and, BitVec.getLsbD_and, BitVec.getLsbD_not,
    f.getLsbD_mask hi, BitVec.getLsbD_shiftLeft]
  by_cases hmem : f.Mem i
  · have hpos : ¬ i < f.pos := Nat.not_lt.mpr hmem.1
    simp [hi, hmem, hpos]
  · simp [hi, hmem]

theorem BitField.getLsbD_get (f : BitField) (x : BitVec w) {i : Nat} (hi : i < w) :
    (f.get x).getLsbD i = (x.getLsbD (f.pos + i) && decide (i < f.width)) := by
  rw [BitField.get, BitVec.getLsbD_and, BitVec.getLsbD_ushiftRight, BitVec.getLsbD_setWidth,
    BitVec.getLsbD_allOnes]
  simp [hi]

/-- Words that agree on the field's bits have the same field. -/
theorem BitField.get_congr (f : BitField) {x y : BitVec w}
    (h : ∀ i, i < w → f.Mem i → x.getLsbD i = y.getLsbD i) : f.get x = f.get y := by
  apply BitVec.eq_of_getLsbD_eq
  intro i hi
  rw [f.getLsbD_get x hi, f.getLsbD_get y hi]
  by_cases hwidth : i < f.width
  · have hmem : f.Mem (f.pos + i) := ⟨Nat.le_add_right .., Nat.add_lt_add_left hwidth _⟩
    rcases Nat.lt_or_ge (f.pos + i) w with hlt | hge
    · rw [h _ hlt hmem]
    · rw [BitVec.getLsbD_of_ge _ _ hge, BitVec.getLsbD_of_ge _ _ hge]
  · simp only [hwidth, decide_false, Bool.and_false]

theorem BitField.get_put_self {f : BitField} (hf : f.pos + f.width ≤ w) (x : BitVec w)
    {v : BitVec w} (hv : v.toNat < 2 ^ f.width) : f.get (f.put x v) = v := by
  apply BitVec.eq_of_getLsbD_eq
  intro i hi
  rw [f.getLsbD_get _ hi]
  by_cases hwidth : i < f.width
  · have hmem : f.Mem (f.pos + i) := ⟨Nat.le_add_right .., Nat.add_lt_add_left hwidth _⟩
    rw [f.getLsbD_put x v (by omega), if_pos hmem, Nat.add_sub_cancel_left]
    simp only [hwidth, decide_true, Bool.and_true]
  · have hzero := Words.getLsbD_of_toNat_lt hv (Nat.le_of_not_lt hwidth)
    simp only [hwidth, decide_false, Bool.and_false, hzero]

theorem BitField.get_put_disjoint {f g : BitField} (h : f.Disjoint g) (x v : BitVec w) :
    f.get (g.put x v) = f.get x := by
  apply f.get_congr
  intro i hi hmem
  rw [g.getLsbD_put x v hi, if_neg (h.not_mem hmem)]

theorem BitField.toNat_get {f : BitField} (hf : f.width ≤ w) (x : BitVec w) :
    (f.get x).toNat = x.toNat / 2 ^ f.pos % 2 ^ f.width := by
  have hmask : ((BitVec.allOnes f.width).setWidth w).toNat = 2 ^ f.width - 1 := by
    have hpos := Nat.two_pow_pos f.width
    have hle : 2 ^ f.width ≤ 2 ^ w := Nat.pow_le_pow_right Nat.two_pos hf
    rw [BitVec.toNat_setWidth, BitVec.toNat_allOnes, Nat.mod_eq_of_lt (by omega)]
  rw [BitField.get, BitVec.toNat_and, hmask, Nat.and_two_pow_sub_one_eq_mod,
    BitVec.toNat_ushiftRight, Nat.shiftRight_eq_div_pow]

/-! ## Masking and shifting -/

/-- `1 << k` less one has ones below bit `k`.  Where the one is shifted out of the word,
    the subtraction wraps around to all ones. -/
theorem getLsbD_shift_sub_one (k i : Nat) :
    ((1 : BitVec w) <<< k - 1).getLsbD i = (decide (i < w) && decide (i < k)) := by
  -- no bound on `k` is needed for the complement of `-1 << k`
  have hnot : (1 : BitVec w) <<< k - 1 = ~~~ (BitVec.allOnes w <<< k) := by
    rw [← BitVec.neg_one_eq_allOnes, BitVec.shiftLeft_neg, BitVec.not_neg]
    rfl
  rw [hnot, BitVec.getLsbD_not, BitVec.getLsbD_shiftLeft, BitVec.getLsbD_allOnes]
  by_cases hi : i < w
  · have hlt : i - k < w := by omega
    simp [hi, hlt]
  · simp [hi]

/-- The ones of a field by shifts and a subtraction. -/
theorem BitField.mask_eq_shift_sub (n k : Nat) :
    (BitField.mk n k).mask w = ((1 : BitVec w) <<< k - 1) <<< n := by
  apply BitVec.eq_of_getLsbD_eq
  intro i hi
  rw [BitField.mask, BitVec.getLsbD_shiftLeft, BitVec.getLsbD_shiftLeft, getLsbD_shift_sub_one,
    BitVec.getLsbD_setWidth, BitVec.getLsbD_allOnes]

/-- Masking and shifting fetches the field. -/
theorem BitField.and_mask_shift (f : BitField) (x : BitVec w) :
    (x &&& f.mask w) >>> f.pos = f.get x := by
  apply BitVec.eq_of_getLsbD_eq
  intro i hi
  rw [BitField.getLsbD_get _ _ hi, BitVec.getLsbD_ushiftRight, BitVec.getLsbD_and]
  rcases Nat.lt_or_ge (f.pos + i) w with hlt | hge
  · rw [f.getLsbD_mask hlt]
    simp [BitField.Mem]
  · -- past the end of the word
    rw [BitVec.getLsbD_of_ge _ _ hge]
    simp

/-- Clearing the first `c` bits of a field and or-ing a value over all of it: the
    bits that were not cleared come through. -/
theorem BitField.clear_or {n c k : Nat} (hc : c ≤ k) (x : BitVec w) {v : BitVec w}
    (hv : v.toNat < 2 ^ k) :
    (x &&& ~~~ (BitField.mk n c).mask w) ||| (v <<< n) =
      (BitField.mk n k).put x
        (v ||| ((BitField.mk n k).get x &&& ~~~ (BitField.mk 0 c).mask w)) := by
  apply BitVec.eq_of_getLsbD_eq
  intro i hi
  rw [BitField.getLsbD_put _ _ _ hi, BitVec.getLsbD_or, BitVec.getLsbD_and, BitVec.getLsbD_not,
    BitField.getLsbD_mask _ hi, BitVec.getLsbD_shiftLeft]
  by_cases hn : i < n
  · -- below the field
    simp [BitField.Mem, hi, hn, Nat.not_le.mpr hn]
  · by_cases hk : i < n + k
    · have hlt : i - n < w := by omega
      have hadd : n + (i - n) = i := by omega
      rw [BitVec.getLsbD_or, BitVec.getLsbD_and, BitVec.getLsbD_not, BitField.getLsbD_get _ _ hlt,
        BitField.getLsbD_mask _ hlt]
      have hcut : i - n < c ↔ i < n + c := by omega
      have hin : i - n < k := by omega
      simp [BitField.Mem, hi, hn, hk, hlt, hadd, hcut, hin, Nat.le_of_not_lt hn, Bool.or_comm]
    · -- above it
      have hzero := Words.getLsbD_of_toNat_lt hv (i := i - n) (by omega)
      have hnot : ¬ i < n + c := by omega
      simp [BitField.Mem, hi, hn, hk, hnot, hzero]

/-- What was not cleared of a field is in the value that is or-ed to it exactly when
    every bit of it is. -/
theorem BitField.or_rest_eq_iff {n c k : Nat} (h : n + k ≤ w) (x v : BitVec w) :
    v ||| ((BitField.mk n k).get x &&& ~~~ (BitField.mk 0 c).mask w) = v ↔
      ∀ b, c ≤ b → b < k → x.getLsbD (n + b) = true → v.getLsbD b = true := by
  have hbit : ∀ b, b < w →
      ((BitField.mk n k).get x &&& ~~~ (BitField.mk 0 c).mask w).getLsbD b =
        (x.getLsbD (n + b) && decide (c ≤ b ∧ b < k)) := by
    intro b hb
    rw [BitVec.getLsbD_and, BitVec.getLsbD_not, BitField.getLsbD_mask _ hb,
      BitField.getLsbD_get _ _ hb, Bool.and_assoc]
    congr 1
    by_cases hc : c ≤ b
    · simp [BitField.Mem, hb, hc]
    · simp [BitField.Mem, hc, Nat.lt_of_not_le hc]
  rw [Words.or_eq_left_iff]
  constructor
  · intro hsub b hc hk hx
    exact hsub b (by rw [hbit b (by omega)]; simp [hc, hk, hx])
  · intro hsub b hset
    rw [hbit b (BitVec.lt_of_getLsbD hset)] at hset
    simp only [Bool.and_eq_true, decide_eq_true_eq] at hset
    obtain ⟨hx, hc, hk⟩ := hset
    exact hsub b hc hk hx

/-- Clearing a field and or-ing a value that fits replaces it. -/
theorem BitField.clear_or_put {f : BitField} (x : BitVec w) {v : BitVec w}
    (hv : v.toNat < 2 ^ f.width) : (x &&& ~~~ f.mask w) ||| (v <<< f.pos) = f.put x v := by
  apply BitVec.eq_of_getLsbD_eq
  intro i hi
  rw [BitField.clear_or (Nat.le_refl f.width) x hv, BitField.getLsbD_put _ _ _ hi,
    BitField.getLsbD_put _ _ _ hi]
  by_cases hmem : f.Mem i
  · have hlt : i - f.pos < w := by omega
    have hin : (BitField.mk 0 f.width).Mem (i - f.pos) := by
      obtain ⟨h1, h2⟩ := hmem
      constructor <;> simp only [] <;> omega
    rw [if_pos hmem, if_pos hmem, BitVec.getLsbD_or, BitVec.getLsbD_and, BitVec.getLsbD_not,
      BitField.getLsbD_mask _ hlt]
    simp [hin]
  · rw [if_neg hmem, if_neg hmem]

/-! ## Several fields -/

/-- Change the fields one after the other, each by its own function. -/
def updateAll (x : BitVec w) (l : List (BitField × (BitVec w → BitVec w))) : BitVec w :=
  l.foldl (fun x a => a.1.put x (a.2 (a.1.get x))) x

@[simp] theorem updateAll_cons (x : BitVec w) (a : BitField × (BitVec w → BitVec w))
    (l : List (BitField × (BitVec w → BitVec w))) :
    updateAll x (a :: l) = updateAll (a.1.put x (a.2 (a.1.get x))) l := rfl

/-- A bit outside all fields stays. -/
theorem getLsbD_updateAll {l : List (BitField × (BitVec w → BitVec w))} {i : Nat} (hi : i < w)
    (h : ∀ a ∈ l, ¬ a.1.Mem i) (x : BitVec w) : (updateAll x l).getLsbD i = x.getLsbD i := by
  induction l generalizing x with
  | nil => rfl
  | cons a l ih =>
    rw [updateAll_cons, ih fun b hb => h b (List.mem_cons_of_mem _ hb),
      a.1.getLsbD_put _ _ hi, if_neg (h a (List.mem_cons_self ..))]

/-- A field apart from all others stays. -/
theorem get_updateAll_disjoint {l : List (BitField × (BitVec w → BitVec w))} {f : BitField}
    (h : ∀ a ∈ l, f.Disjoint a.1) (x : BitVec w) : f.get (updateAll x l) = f.get x := by
  induction l generalizing x with
  | nil => rfl
  | cons a l ih =>
    rw [updateAll_cons, ih fun b hb => h b (List.mem_cons_of_mem _ hb),
      BitField.get_put_disjoint (h a (List.mem_cons_self ..))]

/-- **Changed fields read back.**  Of pairwise disjoint fields each ends with what
    its own function makes of it. -/
theorem get_updateAll {l : List (BitField × (BitVec w → BitVec w))}
    (hdisj : l.Pairwise fun a b => a.1.Disjoint b.1) {a : BitField × (BitVec w → BitVec w)}
    (hmem : a ∈ l) (hf : a.1.pos + a.1.width ≤ w) (x : BitVec w)
    (hv : (a.2 (a.1.get x)).toNat < 2 ^ a.1.width) :
    a.1.get (updateAll x l) = a.2 (a.1.get x) := by
  induction l generalizing x with
  | nil => contradiction
  | cons b l ih =>
    obtain ⟨hhead, hrest⟩ := List.pairwise_cons.mp hdisj
    rcases List.mem_cons.mp hmem with rfl | hmem
    · rw [updateAll_cons, get_updateAll_disjoint hhead, BitField.get_put_self hf x hv]
    · -- the change before it is one of another field
      have hsame : a.1.get (b.1.put x (b.2 (b.1.get x))) = a.1.get x :=
        BitField.get_put_disjoint (hhead a hmem).symm _ _
      rw [updateAll_cons, ih hrest hmem _ (hsame ▸ hv), hsame]

/-- Replace the fields one after the other. -/
def putAll (x : BitVec w) (l : List (BitField × BitVec w)) : BitVec w :=
  updateAll x (l.map fun fv => (fv.1, fun _ => fv.2))

theorem getLsbD_putAll {l : List (BitField × BitVec w)} {i : Nat} (hi : i < w)
    (h : ∀ fv ∈ l, ¬ fv.1.Mem i) (x : BitVec w) : (putAll x l).getLsbD i = x.getLsbD i := by
  apply getLsbD_updateAll hi
  intro a ha
  obtain ⟨fv, hfv, rfl⟩ := List.mem_map.mp ha
  exact h fv hfv

theorem get_putAll {l : List (BitField × BitVec w)}
    (hdisj : l.Pairwise fun a b => a.1.Disjoint b.1) {fv : BitField × BitVec w} (hmem : fv ∈ l)
    (hf : fv.1.pos + fv.1.width ≤ w) (hv : fv.2.toNat < 2 ^ fv.1.width) (x : BitVec w) :
    fv.1.get (putAll x l) = fv.2 := by
  have hdisj' : (l.map fun fv => (fv.1, fun _ : BitVec w => fv.2)).Pairwise
      fun a b => a.1.Disjoint b.1 := List.pairwise_map.mpr hdisj
  exact get_updateAll hdisj' (List.mem_map_of_mem hmem) hf x hv

end BitFields
