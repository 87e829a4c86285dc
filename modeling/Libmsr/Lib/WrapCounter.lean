/-
  Libmsr.Lib.WrapCounter

  An event counter that is read modulo `2 ^ w`.  `total` is the number of events
  since the start, of which the counter shows `reading w total`.

  - `reading_of_not_wrapped` / `reading_of_wrapped`: between two readings with
    fewer than `2 ^ w` events in between, the readings differ by the advance, or
    by the advance less `2 ^ w`.
  - `sum_advances`: advances over consecutive readings add up.
-/
import Mathlib.Algebra.BigOperators.Group.Finset.Basic
import Mathlib.Algebra.Field.Basic
import Mathlib.Data.Nat.Cast.Basic

namespace WrapCounter

/-- What the counter shows after `total` events. -/
def reading (w total : Nat) : Nat := total % 2 ^ w

/-- The counter shows less than before. -/
def Wrapped (w total total' : Nat) : Prop := reading w total' < reading w total

instance (w total total' : Nat) : Decidable (Wrapped w total total') :=
  inferInstanceAs (Decidable (_ < _))

theorem reading_lt (w total : Nat) : reading w total < 2 ^ w := Nat.mod_lt _ (Nat.two_pow_pos w)

section Advance

variable {w total total' : Nat} (hle : total ≤ total') (hadv : total' - total < 2 ^ w)
include hle hadv

/-- Adding an advance below `2 ^ w` to a reading crosses `2 ^ w` at most once. -/
theorem reading_cases :
    reading w total + (total' - total) = reading w total' ∨
      reading w total + (total' - total) = reading w total' + 2 ^ w := by
  have hlt := reading_lt w total
  have hsum : reading w total' = (reading w total + (total' - total)) % 2 ^ w := by
    rw [reading, reading, Nat.mod_add_mod, Nat.add_sub_cancel' hle]
  rw [hsum]
  by_cases hcross : reading w total + (total' - total) < 2 ^ w
  · left
    rw [Nat.mod_eq_of_lt hcross]
  · right
    rw [Nat.mod_eq_sub_mod (Nat.le_of_not_lt hcross), Nat.mod_eq_of_lt (by omega)]
    omega

theorem reading_of_not_wrapped (h : ¬ Wrapped w total total') :
    reading w total + (total' - total) = reading w total' := by
  rcases reading_cases hle hadv with heq | heq
  · exact heq
  · exact absurd (by unfold Wrapped; omega) h

theorem reading_of_wrapped (h : Wrapped w total total') :
    reading w total + (total' - total) = reading w total' + 2 ^ w := by
  unfold Wrapped at h
  rcases reading_cases hle hadv with heq | heq
  · omega
  · exact heq

end Advance

/-- Deltas that are the advances between consecutive totals, in some unit, add
    up to the advance over the whole stretch. -/
theorem sum_advances {K : Type*} [DivisionRing K] {total : Nat → Nat}
    (hmono : ∀ i, total i ≤ total (i + 1)) (delta : Nat → K) (unit : K) (i n : Nat)
    (h : ∀ k, k < n → delta (i + k + 1) = ((total (i + k + 1) - total (i + k) : Nat) : K) / unit) :
    ∑ k ∈ Finset.range n, delta (i + k + 1) = ((total (i + n) - total i : Nat) : K) / unit := by
  induction n with
  | zero => simp
  | succ n ih =>
    have hle : total i ≤ total (i + n) := monotone_nat_of_le_succ hmono (Nat.le_add_right i n)
    have hstep : total (i + n) ≤ total (i + n + 1) := hmono (i + n)
    have hsplit : total (i + (n + 1)) - total i =
        (total (i + n) - total i) + (total (i + n + 1) - total (i + n)) := by
      show total (i + n + 1) - total i = _
      omega
    rw [Finset.sum_range_succ, ih fun k hk => h k (Nat.lt_succ_of_lt hk),
      h n (Nat.lt_succ_self n), hsplit, Nat.cast_add, add_div]

end WrapCounter
