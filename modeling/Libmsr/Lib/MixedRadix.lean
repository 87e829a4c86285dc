/-
  Libmsr.Lib.MixedRadix

  Three-digit mixed-radix numbers.  `flat B C a b c` is the number with leading
  digit `a`, middle digit `b` of radix `B` and last digit `c` of radix `C`;
  `digits B C` reads the three digits back.  With the leading digit below `A`
  the two are inverse to each other between the digit triples and the numbers
  below `A * (B * C)`.
-/
import Mathlib.Data.Nat.Basic
import Mathlib.Tactic.Ring
import Mathlib.Tactic.Linarith

namespace MixedRadix

/-- The number with digits `a`, `b`, `c`, where `b` has radix `B` and `c` has
    radix `C`. -/
def flat (B C a b c : Nat) : Nat := a * (B * C) + b * C + c

/-- The digits of `i`, leading digit first. -/
def digits (B C i : Nat) : Nat × Nat × Nat := (i / (B * C), i % (B * C) / C, i % C)

theorem low_lt {B C b c : Nat} (hb : b < B) (hc : c < C) : b * C + c < B * C := by
  have h : (b + 1) * C ≤ B * C := Nat.mul_le_mul_right C hb
  rw [Nat.succ_mul] at h
  omega

/-- Of two digits. -/
theorem low_inj {C b b' c c' : Nat} (hc : c < C) (hc' : c' < C) (h : b * C + c = b' * C + c') :
    b = b' ∧ c = c' := by
  rcases Nat.lt_trichotomy b b' with hlt | rfl | hlt
  · have hle : (b + 1) * C ≤ b' * C := Nat.mul_le_mul_right C hlt
    rw [Nat.succ_mul] at hle
    omega
  · exact ⟨rfl, Nat.add_left_cancel h⟩
  · have hle : (b' + 1) * C ≤ b * C := Nat.mul_le_mul_right C hlt
    rw [Nat.succ_mul] at hle
    omega

theorem flat_lt {A B C a b c : Nat} (ha : a < A) (hb : b < B) (hc : c < C) :
    flat B C a b c < A * (B * C) := by
  have hlow := low_lt hb hc
  have h : (a + 1) * (B * C) ≤ A * (B * C) := Nat.mul_le_mul_right _ ha
  rw [Nat.succ_mul] at h
  unfold flat
  omega

theorem digits_flat {B C b c : Nat} (a : Nat) (hb : b < B) (hc : c < C) :
    digits B C (flat B C a b c) = (a, b, c) := by
  have hlow := low_lt hb hc
  have hC : 0 < C := by omega
  have hsplit : flat B C a b c = b * C + c + B * C * a := by unfold flat; ring
  have hlast : flat B C a b c = c + C * (a * B + b) := by unfold flat; ring
  have hdiv : flat B C a b c / (B * C) = a := by
    rw [hsplit, Nat.add_mul_div_left _ _ (by omega), Nat.div_eq_of_lt hlow, Nat.zero_add]
  have hmod : flat B C a b c % (B * C) = b * C + c := by
    rw [hsplit, Nat.add_mul_mod_self_left, Nat.mod_eq_of_lt hlow]
  have hmid : (b * C + c) / C = b := by
    rw [Nat.add_comm, Nat.add_mul_div_right _ _ hC, Nat.div_eq_of_lt hc, Nat.zero_add]
  unfold digits
  rw [hdiv, hmod, hmid, hlast, Nat.add_mul_mod_self_left, Nat.mod_eq_of_lt hc]

theorem flat_digits (B C i : Nat) :
    flat B C (i / (B * C)) (i % (B * C) / C) (i % C) = i := by
  have h1 := Nat.div_add_mod i (B * C)
  have h2 := Nat.div_add_mod (i % (B * C)) C
  have h3 : i % (B * C) % C = i % C := Nat.mod_mod_of_dvd i (Dvd.intro_left B rfl)
  unfold flat
  rw [h3] at h2
  calc i / (B * C) * (B * C) + i % (B * C) / C * C + i % C
      = B * C * (i / (B * C)) + (C * (i % (B * C) / C) + i % C) := by ring
    _ = i := by rw [h2, h1]

theorem lead_lt {A B C i : Nat} (hi : i < A * (B * C)) : i / (B * C) < A :=
  Nat.div_lt_of_lt_mul (by rw [Nat.mul_comm]; exact hi)

theorem mid_lt {B C : Nat} (i : Nat) (hB : 0 < B) (hC : 0 < C) : i % (B * C) / C < B :=
  Nat.div_lt_of_lt_mul (by rw [Nat.mul_comm C B]; exact Nat.mod_lt _ (Nat.mul_pos hB hC))

theorem last_lt {C : Nat} (i : Nat) (hC : 0 < C) : i % C < C := Nat.mod_lt _ hC

/-- Where one of the two low radices is 1, the order of the low digits does not
    matter. -/
theorem flat_swap {B C b c : Nat} (a : Nat) (hb : b < B) (hc : c < C) (h : B = 1 ∨ C = 1) :
    flat C B a c b = flat B C a b c := by
  rcases h with rfl | rfl
  · obtain rfl : b = 0 := by omega
    simp [flat]
  · obtain rfl : c = 0 := by omega
    simp [flat]

end MixedRadix
