/-
  Libmsr.Rapl.MaskMacros

  `MASK_RANGE` and `MASK_VAL` (include/cpuid.h) shift by shift: a shift by 64 or
  more has no value in C.

  - `maskVal?_natCast`: where it has one, `MASK_VAL` is the `maskVal` that every
    decoder of the model uses.
  - `maskMacros_iff`: of the bounds that the comment allows, the macros are wrong
    for the whole word and right for all others.
-/
import Libmsr.Lib.Shifts
import Libmsr.Rapl.UnitsSpec

namespace Libmsr

open BitFields Shifts

/-- `MASK_RANGE(m,n)`.  The bounds are `int` or `unsigned`; their difference does not wrap
    around within the range of the comment. -/
def maskRange? (m n : Int) : Option Word := do
  -- a one above as many zeros as the range has bits
  let top ← shl (1 : Word) (m - n + 1)
  shl (top - 1) n

/-- `MASK_VAL(x,m,n)`. -/
def maskVal? (x : Word) (m n : Int) : Option Word := do
  let mask ← maskRange? m n
  shr (x &&& mask) n

section Macros

variable {x y : Word} {m n : Int}

/-- When `MASK_RANGE` has a value, for any bounds. -/
theorem maskRange?_eq_some_iff :
    maskRange? m n = some y ↔
      Amount 64 (m - n + 1) ∧ Amount 64 n ∧
        (BitField.mk n.toNat (m - n + 1).toNat).mask 64 = y :=
  ones_eq_some_iff

/-- When `MASK_VAL` has a value. -/
theorem maskVal?_eq_some_iff :
    maskVal? x m n = some y ↔
      Amount 64 (m - n + 1) ∧ Amount 64 n ∧
        (BitField.mk n.toNat (m - n + 1).toNat).get x = y :=
  select_eq_some_iff

/-- The example of the comment.  It is worked out there with 4 for `1 << 3`, as `0b11000`. -/
example : maskRange? 4 2 = some 0b11100 := by decide

/-- The bounds of the comment whose shifts are by less than 64. -/
theorem maskAmounts_iff (hn : 0 ≤ n) (hmn : n ≤ m) (hm : m ≤ 63) :
    Amount 64 (m - n + 1) ∧ Amount 64 n ↔ ¬ (m = 63 ∧ n = 0) := by
  unfold Amount
  omega

/-! ## The decoders of the model -/

/-- The macro has the value the decoders use. -/
theorem maskVal?_natCast (x : Word) {m n : Nat} (hmn : n ≤ m) (hm : m < 64) (hw : m - n < 63) :
    maskVal? x m n = some (maskVal x m n) := by
  have hwidth : ((m : Int) - n + 1).toNat = m - n + 1 := by omega
  rw [maskVal?_eq_some_iff, hwidth, maskVal_eq_get x (k := m - n + 1) (by omega) (by omega)]
  refine ⟨?_, ?_, rfl⟩ <;> unfold Amount <;> omega

/-- Both fields of a limit in `calc_rapl_from_bits` and `calc_rapl_bits`, where `offset` is
    0 or 32. -/
theorem maskVal?_limit (bits : Word) {offset : Nat} (hoff : offset ≤ 40) :
    maskVal? bits (14 + offset : Nat) (0 + offset : Nat) =
        some (maskVal bits (14 + offset) (0 + offset)) ∧
      maskVal? bits (23 + offset : Nat) (17 + offset : Nat) =
        some (maskVal bits (23 + offset) (17 + offset)) :=
  ⟨maskVal?_natCast bits (by omega) (by omega) (by omega),
    maskVal?_natCast bits (by omega) (by omega) (by omega)⟩

/-! ## The whole range of the comment -/

/-- What the comments over the macros say: `MASK_RANGE` has the bits from `n` to `m` set and
    no others, and `MASK_VAL` is the number that these bits of `x` stand for. -/
structure MaskMacrosRight (x : Word) (m n : Int) : Prop where
  range : ∃ r, maskRange? m n = some r ∧
    ∀ i : Nat, i < 64 → (r.getLsbD i = true ↔ n ≤ i ∧ i ≤ m)
  val : ∃ v, maskVal? x m n = some v ∧
    v.toNat = x.toNat / 2 ^ n.toNat % 2 ^ (m - n + 1).toNat

theorem maskRange?_whole : maskRange? 63 0 = none := by decide

/-- If no shift is by 64 or more, both macros are right. -/
theorem maskMacrosRight_of_amounts (hn : 0 ≤ n) (hmn : n ≤ m)
    (h : Amount 64 (m - n + 1) ∧ Amount 64 n) : MaskMacrosRight x m n where
  range := by
    refine ⟨_, maskRange?_eq_some_iff.mpr ⟨h.1, h.2, rfl⟩, fun i hi => ?_⟩
    -- the field of `m - n + 1` bits from `n` on ends with `m`
    rw [BitField.getLsbD_mask _ hi, decide_eq_true_iff]
    unfold BitField.Mem
    simp only []
    omega
  val := by
    have hfits : (BitField.mk n.toNat (m - n + 1).toNat).width ≤ 64 := by
      show (m - n + 1).toNat ≤ 64
      have hlt : m - n + 1 < 64 := h.1.2
      omega
    exact ⟨_, maskVal?_eq_some_iff.mpr ⟨h.1, h.2, rfl⟩, BitField.toNat_get hfits x⟩

/-- **The macros over the range of the comment.**  With `63 >= m >= n >= 0` they are right
    unless the range is the whole word, for which `1` is shifted by 64. -/
theorem maskMacros_iff (x : Word) (hn : 0 ≤ n) (hmn : n ≤ m) (hm : m ≤ 63) :
    MaskMacrosRight x m n ↔ ¬ (m = 63 ∧ n = 0) := by
  constructor
  · -- the whole word: already the first shift has no value
    rintro ⟨⟨r, hr, -⟩, -⟩ ⟨rfl, rfl⟩
    rw [maskRange?_whole] at hr
    contradiction
  · intro hpart
    exact maskMacrosRight_of_amounts hn hmn ((maskAmounts_iff hn hmn hm).mpr hpart)

end Macros

/-- The window of the second package limit. -/
theorem maskMacros_window : MaskMacrosRight 0x6E816000158118 55 49 :=
  maskMacros_iff _ (by decide) (by decide) (by decide) |>.mpr (by decide)

/-- All 64 bits of a word. -/
theorem maskMacros_whole_word : ¬ MaskMacrosRight 0x6E816000158118 63 0 := by
  rintro ⟨⟨r, hr, -⟩, -⟩
  rw [maskRange?_whole] at hr
  contradiction

end Libmsr
