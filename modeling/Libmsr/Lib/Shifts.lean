/-
  Libmsr.Lib.Shifts

  Shifts of an unsigned type by an integer amount, as C has them.  Nothing here
  mentions a particular program.

  - `shl` / `shr`: `none` for an amount below 0 or not below the width, which C
    leaves undefined.
  - `ones` / `select`: a run of ones made by shifts, and the bits under it.  Where
    they are defined they are the mask and the content of a field.
-/
import Libmsr.Lib.BitFields

namespace Shifts

open BitFields

variable {w : Nat} {x y : BitVec w} {k n : Int}

/-- The amounts a type of `w` bits can be shifted by. -/
def Amount (w : Nat) (k : Int) : Prop := 0 ≤ k ∧ k < w

instance (w : Nat) (k : Int) : Decidable (Amount w k) :=
  inferInstanceAs (Decidable (0 ≤ k ∧ k < w))

/-- `x << k`. -/
def shl (x : BitVec w) (k : Int) : Option (BitVec w) :=
  if Amount w k then some (x <<< k.toNat) else none

/-- `x >> k`. -/
def shr (x : BitVec w) (k : Int) : Option (BitVec w) :=
  if Amount w k then some (x >>> k.toNat) else none

theorem shl_eq_some_iff : shl x k = some y ↔ Amount w k ∧ x <<< k.toNat = y := by
  rw [shl, Option.ite_none_right_eq_some, Option.some.injEq]

theorem shr_eq_some_iff : shr x k = some y ↔ Amount w k ∧ x >>> k.toNat = y := by
  rw [shr, Option.ite_none_right_eq_some, Option.some.injEq]

/-! ## Runs of ones -/

/-- `((1 << k) - 1) << n`. -/
def ones (w : Nat) (k n : Int) : Option (BitVec w) := do
  let top ← shl 1 k
  shl (top - 1) n

/-- The bits of `x` under a run of ones, moved to the low end. -/
def select (x : BitVec w) (k n : Int) : Option (BitVec w) := do
  let mask ← ones w k n
  shr (x &&& mask) n

/-- A run of ones is defined if both amounts are, and is then the mask of a field. -/
theorem ones_eq_some_iff :
    ones w k n = some y ↔
      Amount w k ∧ Amount w n ∧ (BitField.mk n.toNat k.toNat).mask w = y := by
  rw [ones, Option.bind_eq_bind, Option.bind_eq_some_iff, BitField.mask_eq_shift_sub]
  constructor
  · rintro ⟨top, htop, hy⟩
    obtain ⟨hk, rfl⟩ := shl_eq_some_iff.mp htop
    obtain ⟨hn, rfl⟩ := shl_eq_some_iff.mp hy
    exact ⟨hk, hn, rfl⟩
  · rintro ⟨hk, hn, rfl⟩
    exact ⟨_, shl_eq_some_iff.mpr ⟨hk, rfl⟩, shl_eq_some_iff.mpr ⟨hn, rfl⟩⟩

/-- The bits under it are the field. -/
theorem select_eq_some_iff :
    select x k n = some y ↔
      Amount w k ∧ Amount w n ∧ (BitField.mk n.toNat k.toNat).get x = y := by
  rw [select, Option.bind_eq_bind, Option.bind_eq_some_iff, ← BitField.and_mask_shift]
  constructor
  · rintro ⟨mask, hmask, hy⟩
    obtain ⟨hk, hn, rfl⟩ := ones_eq_some_iff.mp hmask
    obtain ⟨-, rfl⟩ := shr_eq_some_iff.mp hy
    exact ⟨hk, hn, rfl⟩
  · rintro ⟨hk, hn, rfl⟩
    exact ⟨_, ones_eq_some_iff.mpr ⟨hk, hn, rfl⟩, shr_eq_some_iff.mpr ⟨hn, rfl⟩⟩

end Shifts
