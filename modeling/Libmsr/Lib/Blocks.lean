/-
  Libmsr.Lib.Blocks

  Consecutive blocks: blocks of given sizes laid one after the other from 0 on.

  Element `i` of block `k` has the number `start sizes k + i`.  `bijOn_number`:
  every number below the total belongs to exactly one element of one block.
-/
import Mathlib.Algebra.BigOperators.Group.List.Basic
import Mathlib.Algebra.GroupWithZero.Nat
import Mathlib.Data.Set.Function
import Mathlib.Order.Interval.Set.Defs

namespace Blocks

/-- Where block `k` starts. -/
def start (sizes : List Nat) (k : Nat) : Nat := (sizes.take k).sum

/-- Element `x.2` of block `x.1`. -/
def number (sizes : List Nat) (x : Nat × Nat) : Nat := start sizes x.1 + x.2

/-- The elements of the blocks. -/
def elements (sizes : List Nat) : Set (Nat × Nat) := {x | ∃ n, sizes[x.1]? = some n ∧ x.2 < n}

@[simp] theorem start_zero (sizes : List Nat) : start sizes 0 = 0 := by simp [start]

@[simp] theorem start_cons_succ (n : Nat) (sizes : List Nat) (k : Nat) :
    start (n :: sizes) (k + 1) = n + start sizes k := by simp [start]

/-- Blocks that are added behind do not move the ones before. -/
theorem start_append {sizes : List Nat} (more : List Nat) {k : Nat} (hk : k ≤ sizes.length) :
    start (sizes ++ more) k = start sizes k := by
  rw [start, start, List.take_append_of_le_length hk]

/-- The next block starts at the total so far. -/
theorem start_length (sizes : List Nat) : start sizes sizes.length = sizes.sum := by
  rw [start, List.take_length]

/-- A block ends before the total. -/
theorem start_add_le {sizes : List Nat} {k n : Nat} (h : sizes[k]? = some n) :
    start sizes k + n ≤ sizes.sum := by
  induction sizes generalizing k with
  | nil => contradiction
  | cons m sizes ih =>
    cases k with
    | zero =>
      obtain rfl : m = n := by simpa using h
      simp
    | succ k =>
      have hrest := ih (by simpa using h)
      rw [start_cons_succ, List.sum_cons]
      omega

theorem number_lt {sizes : List Nat} {x : Nat × Nat} (hx : x ∈ elements sizes) :
    number sizes x < sizes.sum := by
  obtain ⟨n, hn, hlt⟩ := hx
  have hend := start_add_le hn
  unfold number
  omega

/-- Every number below the total is the number of exactly one element. -/
theorem bijOn_number (sizes : List Nat) :
    Set.BijOn (number sizes) (elements sizes) (Set.Iio sizes.sum) := by
  refine ⟨fun x hx => number_lt hx, ?_, ?_⟩
  · -- the first block is below all the others
    rintro ⟨k, i⟩ ⟨n, hn, hi⟩ ⟨l, j⟩ ⟨m, hm, hj⟩ heq
    induction sizes generalizing k l with
    | nil => contradiction
    | cons p sizes ih =>
      cases k with
      | zero =>
        cases l with
        | zero => simpa [number] using heq
        | succ l =>
          obtain rfl : p = n := by simpa using hn
          simp only [number, start_zero, start_cons_succ] at heq hi
          omega
      | succ k =>
        cases l with
        | zero =>
          obtain rfl : p = m := by simpa using hm
          simp only [number, start_zero, start_cons_succ] at heq hj
          omega
        | succ l =>
          have heq' : number sizes (k, i) = number sizes (l, j) := by
            simp only [number, start_cons_succ] at heq ⊢
            omega
          have hrest := ih k (by simpa using hn) hi l (by simpa using hm) hj heq'
          obtain ⟨rfl, rfl⟩ := Prod.mk.inj hrest
          rfl
  · intro v hv
    induction sizes generalizing v with
    | nil => simp at hv
    | cons p sizes ih =>
      rw [Set.mem_Iio, List.sum_cons] at hv
      by_cases hp : v < p
      · exact ⟨(0, v), ⟨p, rfl, hp⟩, by simp [number]⟩
      · obtain ⟨⟨k, i⟩, ⟨n, hn, hi⟩, heq⟩ := ih (v := v - p) (by rw [Set.mem_Iio]; omega)
        refine ⟨(k + 1, i), ⟨n, by simpa using hn, hi⟩, ?_⟩
        simp only [number, start_cons_succ] at heq ⊢
        omega

/-- Element `i` of block `k`, where all blocks have `n` elements. -/
theorem getElem?_flatten {α : Type*} {L : List (List α)} {n k i : Nat}
    (hlen : ∀ l ∈ L, l.length = n) (hi : i < n) : L.flatten[k * n + i]? = L[k]?.bind (·[i]?) := by
  induction L generalizing k with
  | nil => simp
  | cons l L ih =>
    have hl := hlen l (List.mem_cons_self ..)
    rw [List.flatten_cons]
    cases k with
    | zero =>
      rw [Nat.zero_mul, Nat.zero_add, List.getElem?_append_left (hl ▸ hi)]
      rfl
    | succ k =>
      -- skip the first block
      have hskip : (k + 1) * n + i - l.length = k * n + i := by
        rw [hl, Nat.succ_mul]
        omega
      rw [List.getElem?_append_right (by rw [hl, Nat.succ_mul]; omega), hskip]
      exact ih fun l' hl' => hlen l' (List.mem_cons_of_mem _ hl')

end Blocks
