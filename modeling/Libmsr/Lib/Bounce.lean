/-
  Libmsr.Lib.Bounce

  A position that moves by one at every step and turns at two ends.

  `turn m` turns a position that has come to `0` or below upwards, one that has
  come to `m` or above downwards, and then moves it; the end `m` is looked at
  last, so it decides where both conditions hold.

  - `turn_iterate`: with `m` above `0` the position runs up and down between
    them.
  - `turn_iterate_nonpos`: with `m` at `0` or below it runs down and stays at the
    two positions around `m`.
-/
import Mathlib.Logic.Function.Iterate
import Mathlib.Tactic.Ring

namespace Bounce

/-- One step of a position and the direction of its last move. -/
def turn (m : Int) (s : Int × Int) : Int × Int :=
  let dir := if s.1 ≤ 0 then 1 else s.2
  let dir := if m ≤ s.1 then -1 else dir
  (s.1 + dir, dir)

/-- The position after `k` steps between the ends `0` and `m`. -/
def wave (m : Int) (k : Nat) : Int :=
  let j := (k : Int) % (2 * m)
  if j ≤ m then j else 2 * m - j

section Above

variable {m : Int} (hm : 0 < m)
include hm

/-- The phase of the next step. -/
theorem phase_succ (k : Nat) : ((k + 1 : Nat) : Int) % (2 * m) =
    if (k : Int) % (2 * m) + 1 = 2 * m then 0 else (k : Int) % (2 * m) + 1 := by
  have hpos : 0 < 2 * m := by omega
  have hnonneg := Int.emod_nonneg (k : Int) hpos.ne'
  have hlt := Int.emod_lt_of_pos (k : Int) hpos
  rw [Nat.cast_succ, ← Int.emod_add_emod]
  split
  · next hend => rw [hend, Int.emod_self]
  · next hend => exact Int.emod_eq_of_lt (by omega) (by omega)

theorem wave_bounds (k : Nat) : 0 ≤ wave m k ∧ wave m k ≤ m := by
  have hpos : 0 < 2 * m := by omega
  have hnonneg := Int.emod_nonneg (k : Int) hpos.ne'
  have hlt := Int.emod_lt_of_pos (k : Int) hpos
  unfold wave
  dsimp only
  split <;> omega

/-- **The run between the ends.**  The first step goes up whatever the direction
    was before. -/
theorem turn_iterate (dir : Int) (k : Nat) :
    ((turn m)^[k] (0, dir)).1 = wave m k ∧
      (0 < wave m k → wave m k < m →
        ((turn m)^[k] (0, dir)).2 = if (k : Int) % (2 * m) ≤ m then 1 else -1) := by
  induction k with
  | zero => simp [wave, hm.le]
  | succ k ih =>
    obtain ⟨hpos, hdir⟩ := ih
    have hper : 0 < 2 * m := by omega
    have hnonneg := Int.emod_nonneg (k : Int) hper.ne'
    have hlt := Int.emod_lt_of_pos (k : Int) hper
    rw [Function.iterate_succ_apply']
    generalize (turn m)^[k] (0, dir) = s at hpos hdir
    unfold wave at hpos hdir ⊢
    dsimp only at hpos hdir ⊢
    rw [phase_succ hm k]
    generalize (k : Int) % (2 * m) = j at hpos hdir hnonneg hlt
    -- in phase `j` the position is on its way up, at the top, on its way down, or at 0
    by_cases hzero : j = 0
    · subst hzero
      rw [if_pos hm.le] at hpos
      simp only [turn, hpos]
      grind
    · by_cases hup : j < m
      · rw [if_pos hup.le] at hpos hdir
        have hs2 := hdir (by omega) hup
        rw [if_pos hup.le] at hs2
        simp only [turn, hpos, hs2]
        grind
      · by_cases htop : j = m
        · subst htop
          rw [if_pos (Int.le_refl j)] at hpos
          simp only [turn, hpos]
          grind
        · have hdown : ¬ j ≤ m := by omega
          rw [if_neg hdown] at hpos hdir
          have hs2 := hdir (by omega) (by omega)
          rw [if_neg hdown] at hs2
          simp only [turn, hpos, hs2]
          grind

end Above

/-- **The run past a low end.**  From `0` with `m` at `0` or below the position goes
    down one step at a time, and stays at `m` or just below it once it got there. -/
theorem turn_iterate_nonpos {m : Int} (hm : m ≤ 0) (dir : Int) (k : Nat) :
    ((k : Int) ≤ -m → ((turn m)^[k] (0, dir)).1 = -(k : Int)) ∧
      (-m ≤ (k : Int) → ((turn m)^[k] (0, dir)).1 = m ∨ ((turn m)^[k] (0, dir)).1 = m - 1) := by
  induction k with
  | zero =>
    refine ⟨fun _ => by simp, fun hle => Or.inl ?_⟩
    simp only [Function.iterate_zero, id_eq, Nat.cast_zero] at hle ⊢
    omega
  | succ k ih =>
    rw [Function.iterate_succ_apply']
    generalize (turn m)^[k] (0, dir) = s at ih
    obtain ⟨hfall, hstay⟩ := ih
    simp only [turn, Nat.cast_succ]
    constructor
    · intro hle
      have hs := hfall (by omega)
      rw [if_pos (by omega : m ≤ s.1), hs]
      omega
    · intro hle
      by_cases hbefore : -m ≤ (k : Int)
      · rcases hstay hbefore with hs | hs
        · rw [if_pos (by omega : m ≤ s.1)]
          omega
        · rw [if_neg (by omega : ¬ m ≤ s.1), if_pos (by omega : s.1 ≤ 0)]
          omega
      · have hs := hfall (by omega)
        rw [if_pos (by omega : m ≤ s.1)]
        omega

end Bounce
