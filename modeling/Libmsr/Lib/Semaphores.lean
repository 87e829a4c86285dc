/-
  Libmsr.Lib.Semaphores

  Named semaphores, and processes that take turns.  Nothing here mentions a
  particular program.

  - `Semaphores`: what the names stand for, and the values.  Unlinking a name takes
    the name away; the semaphore stays for those who have opened it.
  - `count`: how many processes are at some point of their program, and what one
    process that moves on does to the count.
-/
import Mathlib.Data.Finset.Card
import Mathlib.Data.Fintype.Basic
import Mathlib.Logic.Function.Basic
import Mathlib.Tactic.Common

/-- A semaphore: the name it was created under, and its number. -/
abbrev Semaphore (ν : Type*) := ν × Nat

/-- The number of the semaphore that each name stands for, the values, and the number
    of the next semaphore. -/
structure Semaphores (ν : Type*) where
  bound : ν → Option Nat
  value : Semaphore ν → Nat
  next : Nat

namespace Semaphores

variable {ν : Type*}

def init : Semaphores ν := ⟨fun _ => none, fun _ => 0, 0⟩

section Ops

variable [DecidableEq ν]

/-- A new semaphore of value 0 under the name. -/
def create (s : Semaphores ν) (name : ν) : Nat × Semaphores ν :=
  (s.next, ⟨Function.update s.bound name (some s.next),
    Function.update s.value (name, s.next) 0, s.next + 1⟩)

/-- `sem_open` with `O_CREAT`. -/
def openCreat (s : Semaphores ν) (name : ν) : Nat × Semaphores ν :=
  match s.bound name with
  | some k => (k, s)
  | none => s.create name

/-- `sem_open` with `O_CREAT | O_EXCL`: it fails if there is such a name. -/
def openExcl (s : Semaphores ν) (name : ν) : Option (Nat × Semaphores ν) :=
  match s.bound name with
  | some _ => none
  | none => some (s.create name)

/-- `sem_unlink`. -/
def unlink (s : Semaphores ν) (name : ν) : Semaphores ν :=
  { s with bound := Function.update s.bound name none }

/-- `sem_post`. -/
def post (s : Semaphores ν) (k : Semaphore ν) : Semaphores ν :=
  { s with value := Function.update s.value k (s.value k + 1) }

/-- `sem_wait`; `none` as long as it blocks. -/
def wait (s : Semaphores ν) (k : Semaphore ν) : Option (Semaphores ν) :=
  if s.value k = 0 then none
  else some { s with value := Function.update s.value k (s.value k - 1) }

end Ops

section Spec

variable [DecidableEq ν] {s s' : Semaphores ν} {name : ν}

theorem openCreat_of_bound {k : Nat} (h : s.bound name = some k) :
    s.openCreat name = (k, s) := by
  rw [openCreat, h]

theorem openExcl_of_bound {k : Nat} (h : s.bound name = some k) : s.openExcl name = none := by
  rw [openExcl, h]

theorem openExcl_of_unbound (h : s.bound name = none) :
    s.openExcl name = some (s.create name) := by
  rw [openExcl, h]

@[simp] theorem create_bound_self : (s.create name).2.bound name = some s.next :=
  Function.update_self ..

@[simp] theorem create_value_self : (s.create name).2.value (name, s.next) = 0 :=
  Function.update_self ..

@[simp] theorem unlink_bound_self : (s.unlink name).bound name = none :=
  Function.update_self ..

theorem unlink_bound_of_ne {name' : ν} (hne : name' ≠ name) :
    (s.unlink name).bound name' = s.bound name' := Function.update_of_ne hne ..

/-- `sem_open` leaves the other names and their semaphores as they are. -/
theorem openCreat_other {name' : ν} (hne : name' ≠ name) :
    (s.openCreat name).2.bound name' = s.bound name' ∧
      ∀ k, (s.openCreat name).2.value (name', k) = s.value (name', k) := by
  rw [openCreat]
  split
  · exact ⟨rfl, fun _ => rfl⟩
  · exact ⟨Function.update_of_ne hne _ _,
      fun k => Function.update_of_ne (fun heq => hne (Prod.mk.inj heq).1) _ _⟩

theorem openCreat_next : s.next ≤ (s.openCreat name).2.next := by
  rw [openCreat]
  split
  · exact Nat.le_refl _
  · exact Nat.le_succ _

@[simp] theorem post_value_self (k : Semaphore ν) : (s.post k).value k = s.value k + 1 :=
  Function.update_self ..

theorem post_value_of_ne {k k' : Semaphore ν} (hne : k' ≠ k) :
    (s.post k).value k' = s.value k' := Function.update_of_ne hne ..

theorem wait_eq_some {k : Semaphore ν} (h : s.wait k = some s') :
    0 < s.value k ∧ s' = { s with value := Function.update s.value k (s.value k - 1) } := by
  rw [wait] at h
  split at h
  · contradiction
  · rename_i hpos
    exact ⟨Nat.pos_of_ne_zero hpos, (Option.some.inj h).symm⟩

end Spec

end Semaphores

namespace Processes

variable {n : Nat} {π : Type*} {procs : Fin n → π} {P : π → Prop} [DecidablePred P]

/-- The processes at a point of the program that `P` describes. -/
def count (P : π → Prop) [DecidablePred P] (procs : Fin n → π) : Nat :=
  (Finset.univ.filter fun i => P (procs i)).card

theorem count_eq_zero : count P procs = 0 ↔ ∀ i, ¬ P (procs i) := by
  simp [count, Finset.filter_eq_empty_iff]

/-- If one is counted, it is the only one. -/
theorem eq_of_count_le_one (h : count P procs ≤ 1) {i j : Fin n} (hi : P (procs i))
    (hj : P (procs j)) : i = j :=
  Finset.card_le_one.mp h i (Finset.mem_filter.mpr ⟨Finset.mem_univ i, hi⟩) j
    (Finset.mem_filter.mpr ⟨Finset.mem_univ j, hj⟩)

/-- One process moves from a point that is not counted to one that is. -/
theorem count_update_enter {i : Fin n} {x : π} (hold : ¬ P (procs i)) (hnew : P x) :
    count P (Function.update procs i x) = count P procs + 1 := by
  have hset : (Finset.univ.filter fun j => P (Function.update procs i x j)) =
      insert i (Finset.univ.filter fun j => P (procs j)) := by
    ext j
    by_cases hj : j = i
    · subst hj
      simp [hnew]
    · simp [hj]
  rw [count, hset, Finset.card_insert_of_notMem (by simp [hold])]
  rfl

/-- One process moves from a point that is counted to one that is not. -/
theorem count_update_leave {i : Fin n} {x : π} (hold : P (procs i)) (hnew : ¬ P x) :
    count P (Function.update procs i x) + 1 = count P procs := by
  have hback : count P (Function.update (Function.update procs i x) i (procs i)) =
      count P (Function.update procs i x) + 1 :=
    count_update_enter (by rwa [Function.update_self]) hold
  rw [Function.update_idem, Function.update_eq_self] at hback
  exact hback.symm

/-- A process that moves between points that are counted alike. -/
theorem count_update_same {i : Fin n} {x : π} (h : P x ↔ P (procs i)) :
    count P (Function.update procs i x) = count P procs := by
  have hset : (Finset.univ.filter fun j => P (Function.update procs i x j)) =
      Finset.univ.filter fun j => P (procs j) := by
    ext j
    by_cases hj : j = i
    · subst hj
      simp [h]
    · simp [hj]
  rw [count, hset]
  rfl

end Processes
