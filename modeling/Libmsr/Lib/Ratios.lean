/-
  Libmsr.Lib.Ratios

  Quotients in floating point, over an exact ordered field: a division by zero
  has an infinity or "not a number" as its result, and no comparison with the
  latter holds.

  - `divide`, `Ratio.lt`: the division and the comparison.
  - `keep`, `best`: the running extreme of a list under a comparison, replaced by
    every element that compares.  `best_mem` and `not_rel_best` are its
    properties under a transitive comparison: elements that compare with nothing
    do no harm.
-/
import Mathlib.Algebra.Field.Basic
import Mathlib.Order.Lattice
import Mathlib.Order.Defs.Unbundled

namespace Ratios

/-! ## Running extremes -/

section Best

variable {α : Type*} (rel : α → α → Prop) [DecidableRel rel]

/-- The extreme after one more element. -/
def keep (m x : α) : α := if rel m x then x else m

/-- The extreme of a list, from `m` on. -/
def best (m : α) (xs : List α) : α := xs.foldl (keep rel) m

@[simp] theorem best_nil (m : α) : best rel m [] = m := rfl

theorem best_append (m : α) (xs ys : List α) :
    best rel m (xs ++ ys) = best rel (best rel m xs) ys := List.foldl_append

/-- The extreme is the start or one of the elements. -/
theorem best_mem (m : α) (xs : List α) : best rel m xs ∈ m :: xs := by
  induction xs generalizing m with
  | nil => exact List.mem_singleton.mpr rfl
  | cons x xs ih =>
    have hstep := ih (keep rel m x)
    rw [best, List.foldl_cons, ← best]
    rcases List.mem_cons.mp hstep with heq | hin
    · rw [heq, keep]
      split
      · exact List.mem_cons_of_mem _ (List.mem_cons_self ..)
      · exact List.mem_cons_self ..
    · exact List.mem_cons_of_mem _ (List.mem_cons_of_mem _ hin)

/-- What does not compare with the extreme does not compare with any later one. -/
theorem not_rel_best_of_not_rel [IsTrans α rel] {m y : α} (h : ¬ rel m y) (xs : List α) :
    ¬ rel (best rel m xs) y := by
  induction xs generalizing m with
  | nil => exact h
  | cons x xs ih =>
    refine ih (m := keep rel m x) ?_
    rw [keep]
    split
    · next hx => exact fun hy => h (IsTrans.trans _ _ _ hx hy)
    · exact h

/-- **No element exceeds the extreme.** -/
theorem not_rel_best [IsTrans α rel] [Std.Irrefl rel] (m : α) {xs : List α} {x : α}
    (hx : x ∈ xs) : ¬ rel (best rel m xs) x := by
  induction xs generalizing m with
  | nil => exact absurd hx List.not_mem_nil
  | cons y xs ih =>
    rw [best, List.foldl_cons, ← best]
    rcases List.mem_cons.mp hx with rfl | hx
    · refine not_rel_best_of_not_rel rel ?_ xs
      rw [keep]
      split
      · exact Std.Irrefl.irrefl x
      · assumption
    · exact ih _ hx

end Best

/-! ## Quotients -/

/-- A quotient: a number, an infinity, or not a number. -/
inductive Ratio (K : Type*) where
  | num (x : K)
  | inf (positive : Bool)
  | nan

section Field

variable {K : Type*} [LinearOrder K]

/-- The comparison `<`. -/
def Ratio.less : Ratio K → Ratio K → Bool
  | .num x, .num y => x < y
  | .num _, .inf positive => positive
  | .inf positive, .num _ => !positive
  | .inf positive, .inf positive' => !positive && positive'
  | .nan, _ => false
  | _, .nan => false

/-- `r` is below `q`. -/
def Below (r q : Ratio K) : Prop := r.less q = true

/-- `r` is above `q`. -/
def Above (r q : Ratio K) : Prop := Below q r

instance : DecidableRel (Below (K := K)) := fun r q => inferInstanceAs (Decidable (r.less q = true))

instance : DecidableRel (Above (K := K)) := fun r q => inferInstanceAs (Decidable (Below q r))

instance : IsTrans (Ratio K) Below where
  trans r q t hrq hqt := by
    unfold Below at hrq hqt ⊢
    cases r <;> cases q <;> cases t <;> simp_all [Ratio.less]
    exact hrq.trans hqt

instance : Std.Irrefl (Below (K := K)) where
  irrefl r h := by
    unfold Below at h
    cases r <;> simp [Ratio.less] at h

instance : IsTrans (Ratio K) Above where
  trans r q t hrq hqt := IsTrans.trans (r := Below) t q r hqt hrq

instance : Std.Irrefl (Above (K := K)) where
  irrefl r h := Std.Irrefl.irrefl (r := Below) r h

/-- Division of `x` by `y`, where a divisor 0 is a positive zero. -/
def divide [Field K] (x y : K) : Ratio K :=
  if y ≠ 0 then .num (x / y)
  else if x = 0 then .nan
  else .inf (0 < x)

end Field

end Ratios
