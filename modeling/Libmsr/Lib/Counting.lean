/-
  Libmsr.Lib.Counting

  Counting below a bound, and what has happened earlier.  Nothing here mentions
  a particular program.

  - `count_split`: a count is split by a second property.
  - `Earlier p n`: `p` holds somewhere below `n`.
-/
import Mathlib.Data.Nat.Count
import Mathlib.Tactic.Common

namespace Counting

variable {p q : Nat → Prop} [DecidablePred p] [DecidablePred q]

theorem count_congr (n : Nat) (h : ∀ i, p i ↔ q i) : Nat.count p n = Nat.count q n := by
  induction n with
  | zero => simp only [Nat.count_zero]
  | succ n ih => simp only [Nat.count_succ, ih, h n]

/-- What satisfies `p` either satisfies `q` as well or does not. -/
theorem count_split (n : Nat) :
    Nat.count p n = Nat.count (fun i => p i ∧ q i) n + Nat.count (fun i => p i ∧ ¬ q i) n := by
  induction n with
  | zero => simp only [Nat.count_zero]
  | succ n ih =>
    simp only [Nat.count_succ, ih]
    by_cases hp : p n <;> by_cases hq : q n <;> simp [hp, hq] <;> omega

/-- Properties that exclude each other are counted separately. -/
theorem count_or (n : Nat) (hdisj : ∀ i, ¬ (p i ∧ q i)) :
    Nat.count (fun i => p i ∨ q i) n = Nat.count p n + Nat.count q n := by
  induction n with
  | zero => simp only [Nat.count_zero]
  | succ n ih =>
    have hn := hdisj n
    simp only [Nat.count_succ, ih]
    by_cases hp : p n <;> by_cases hq : q n <;> simp_all <;> omega

/-- `p` holds somewhere below `n`. -/
def Earlier (p : Nat → Prop) (n : Nat) : Prop := ∃ i, i < n ∧ p i

instance (p : Nat → Prop) [DecidablePred p] : DecidablePred (Earlier p) :=
  fun n => inferInstanceAs (Decidable (∃ i, i < n ∧ p i))

theorem not_earlier_zero (p : Nat → Prop) : ¬ Earlier p 0 := by
  rintro ⟨i, hi, -⟩
  exact Nat.not_lt_zero i hi

theorem earlier_succ {p : Nat → Prop} {n : Nat} : Earlier p (n + 1) ↔ Earlier p n ∨ p n := by
  constructor
  · rintro ⟨i, hi, hp⟩
    rcases Nat.lt_succ_iff_lt_or_eq.mp hi with hlt | rfl
    · exact Or.inl ⟨i, hlt, hp⟩
    · exact Or.inr hp
  · rintro (⟨i, hi, hp⟩ | hp)
    · exact ⟨i, Nat.lt_succ_of_lt hi, hp⟩
    · exact ⟨n, Nat.lt_succ_self n, hp⟩

/-- From the first index on everything counts. -/
theorem count_earlier_succ (n : Nat) :
    Nat.count (fun i => Earlier p (i + 1)) n =
      Nat.count (fun i => p i ∧ ¬ Earlier p i) n + Nat.count (Earlier p) n := by
  rw [← count_or n fun i h => h.1.2 h.2]
  refine count_congr n fun i => ?_
  rw [earlier_succ]
  tauto

end Counting
