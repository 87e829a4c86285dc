/-
  Libmsr.Counters.EventSelect

  The event-select words of `set_pmc_ctrl_flags` (src/msr_counters.c) and of
  `pmon_config` (src/csr_imc.c): what becomes of one field when another argument
  changes.

  An argument is shifted to its field, but only `ovf_en` and `edge_det` are masked: what
  the others have past their width is or-ed over the fields above.
-/
import Libmsr.Counters.Pmc
import Libmsr.Csr.ImcEvents
import Libmsr.Lib.OrWords

namespace Libmsr

open OrWords

/-! ## set_pmc_ctrl_flags -/

/-- The arguments of `set_pmc_ctrl_flags` that the word is made of. -/
inductive PmcArg where
  | cmask
  | flags
  | umask
  | eventsel
  deriving DecidableEq

/-- `cmask [31:24]`, `flags [23:16]`, `umask [15:8]`, `eventsel [7:0]`. -/
def PmcArg.shift : PmcArg → Nat
  | .cmask => 24
  | .flags => 16
  | .umask => 8
  | .eventsel => 0

theorem PmcArg.fits (k : PmcArg) : k.shift + 8 ≤ 64 := by
  cases k <;> decide

theorem PmcArg.apart (k l : PmcArg) (hne : k ≠ l) :
    k.shift + 8 ≤ l.shift ∨ l.shift + 8 ≤ k.shift := by
  revert hne
  cases k <;> cases l <;> decide

/-- The word has no bit of its own. -/
def pmcWordLayout : Layout PmcArg 64 where
  shift := PmcArg.shift
  width := fun _ => 8
  fixed := 0
  fits := PmcArg.fits
  apart := PmcArg.apart
  free := fun _ _ _ _ => BitVec.getLsbD_zero

/-- The word for the arguments `a`. -/
def pmcWord (a : PmcArg → Word) : Word :=
  pmcCtrlWord (a .cmask) (a .flags) (a .umask) (a .eventsel)

theorem PmcArg.exists_iff {p : PmcArg → Prop} :
    (∃ k, p k) ↔ p .cmask ∨ p .flags ∨ p .umask ∨ p .eventsel := by
  constructor
  · rintro ⟨k, hk⟩
    cases k <;> simp [hk]
  · rintro (h | h | h | h) <;> exact ⟨_, h⟩

theorem pmcWord_assembles (a : PmcArg → Word) :
    Assembles (pmcWord a) pmcWordLayout.fixed (pmcWordLayout.part a) := by
  intro j
  rw [PmcArg.exists_iff]
  simp only [pmcWord, pmcCtrlWord, BitVec.getLsbD_or, Bool.or_eq_true, or_assoc]
  show _ ↔ _ ∨ (a .cmask <<< 24).getLsbD j = true ∨ (a .flags <<< 16).getLsbD j = true ∨
    (a .umask <<< 8).getLsbD j = true ∨ (a .eventsel <<< 0).getLsbD j = true
  rw [BitVec.shiftLeft_zero]
  rfl

/-! ## pmon_config -/

/-- The arguments of `pmon_config` that the word is made of. -/
inductive PmonArg where
  | threshold
  | ovfEn
  | edgeDet
  | umask
  | event
  deriving DecidableEq

def PmonArg.shift : PmonArg → Nat
  | .threshold => 24
  | .ovfEn => 20
  | .edgeDet => 18
  | .umask => 8
  | .event => 0

def PmonArg.width : PmonArg → Nat
  | .ovfEn | .edgeDet => 1
  | _ => 8

/-- `ovf_en &= 0x1` and `edge_det &= 0x1`. -/
def PmonArg.mask : PmonArg → BitVec 32
  | .ovfEn | .edgeDet => 0x1
  | _ => BitVec.allOnes 32

/-- The argument as it is passed. -/
def PmonConfig.arg (c : PmonConfig) : PmonArg → BitVec 32
  | .threshold => c.threshold
  | .ovfEn => c.ovfEn
  | .edgeDet => c.edgeDet
  | .umask => c.umask
  | .event => c.event.setWidth 32

/-- The argument as it is used. -/
def PmonConfig.masked (c : PmonConfig) (k : PmonArg) : BitVec 32 := c.arg k &&& k.mask

/-- Bits 22, 17 and 16. -/
def pmonFixed : BitVec 32 := 0x1 <<< 22 ||| 0x1 <<< 17 ||| 0x1 <<< 16

theorem PmonArg.fits (k : PmonArg) : k.shift + k.width ≤ 32 := by
  cases k <;> decide

theorem PmonArg.apart (k l : PmonArg) (hne : k ≠ l) :
    k.shift + k.width ≤ l.shift ∨ l.shift + l.width ≤ k.shift := by
  revert hne
  cases k <;> cases l <;> decide

theorem PmonArg.free (k : PmonArg) (j : Nat) (hle : k.shift ≤ j) (hlt : j < k.shift + k.width) :
    pmonFixed.getLsbD j = false := by
  have hall : ∀ b < k.width, pmonFixed.getLsbD (k.shift + b) = false := by
    cases k <;> decide
  have hat := hall (j - k.shift) (Nat.sub_lt_left_of_lt_add hle hlt)
  rwa [Nat.add_sub_cancel' hle] at hat

def pmonWordLayout : Layout PmonArg 32 where
  shift := PmonArg.shift
  width := PmonArg.width
  fixed := pmonFixed
  fits := PmonArg.fits
  apart := PmonArg.apart
  free := PmonArg.free

theorem PmonArg.exists_iff {p : PmonArg → Prop} :
    (∃ k, p k) ↔ p .threshold ∨ p .ovfEn ∨ p .edgeDet ∨ p .umask ∨ p .event := by
  constructor
  · rintro ⟨k, hk⟩
    cases k <;> simp [hk]
  · rintro (h | h | h | h | h) <;> exact ⟨_, h⟩

theorem pmon_assembles (c : PmonConfig) :
    Assembles c.setting pmonWordLayout.fixed (pmonWordLayout.part c.masked) := by
  intro j
  rw [PmonArg.exists_iff]
  simp only [PmonConfig.setting, pmonWordLayout, pmonFixed, Layout.part, PmonConfig.masked,
    PmonConfig.arg, PmonArg.mask, PmonArg.shift, BitVec.getLsbD_or, Bool.or_eq_true,
    BitVec.and_allOnes, BitVec.shiftLeft_zero]
  -- the source has the fixed bits between the arguments
  constructor
  · rintro (((((((h | h) | h) | h) | h) | h) | h) | h) <;> simp only [h, true_or, or_true]
  · rintro (((h | h) | h) | h | h | h | h | h) <;> simp only [h, true_or, or_true]

/-- The masks keep what the fields have room for. -/
theorem PmonConfig.masked_low (c : PmonConfig) (k : PmonArg) (b : Nat) (hb : b < k.width) :
    (c.arg k).getLsbD b = (c.masked k).getLsbD b := by
  have hmask : ∀ b < k.width, k.mask.getLsbD b = true := by
    cases k <;> decide
  rw [PmonConfig.masked, BitVec.getLsbD_and, hmask b hb, Bool.and_true]

/-! ## One argument changed -/

/-- **Event-select words.**  Each field has its argument's low bits, and an argument that
    changes changes no other field and no fixed bit, exactly when what the arguments have
    past their fields is a bit of those it falls on. -/
theorem eventSelectWords_iff {k : PmcArg} {a a' : PmcArg → Word}
    (hpmc : ∀ l, l ≠ k → a' l = a l) {m : PmonArg} {c c' : PmonConfig}
    (hpmon : ∀ l, l ≠ m → c'.arg l = c.arg l) :
    (pmcWordLayout.Places (pmcWord a) a ∧
      pmcWordLayout.KeepsOthers k (pmcWord a) (pmcWord a') ↔ pmcWordLayout.Confined k a a') ∧
    (pmonWordLayout.Places c.setting c.arg ∧
      pmonWordLayout.KeepsOthers m c.setting c'.setting ↔
      pmonWordLayout.Confined m c.masked c'.masked) := by
  constructor
  · exact Layout.confined_iff (pmcWord_assembles a) (pmcWord_assembles a') hpmc
  · -- a masked argument depends on that argument alone
    have hmasked : ∀ l, l ≠ m → c'.masked l = c.masked l := by
      intro l hne
      rw [PmonConfig.masked, PmonConfig.masked, hpmon l hne]
    rw [Layout.places_congr (L := pmonWordLayout) c.masked_low]
    exact Layout.confined_iff (pmon_assembles c) (pmon_assembles c') hmasked

/-- Instructions retired, in user mode and then in both. -/
def retired (flags : Word) : PmcArg → Word
  | .cmask => 0
  | .flags => flags
  | .umask => 0x00
  | .eventsel => 0xC0

/-- CAS commands, with subevents `umask`. -/
def casCommands (umask : BitVec 32) : PmonConfig := ⟨0, 0, 0, umask, evtCasCount, 0⟩

theorem retired_same (flags flags' : Word) (l : PmcArg) (hne : l ≠ .flags) :
    retired flags' l = retired flags l := by
  cases l with
  | flags => exact absurd rfl hne
  | cmask | umask | eventsel => rfl

theorem casCommands_same (umask umask' : BitVec 32) (l : PmonArg) (hne : l ≠ .umask) :
    (casCommands umask').arg l = (casCommands umask).arg l := by
  cases l with
  | umask => exact absurd rfl hne
  | threshold | ovfEn | edgeDet | event => rfl

theorem eventSelectWords_changed :
    pmcWordLayout.KeepsOthers .flags (pmcWord (retired 0x41)) (pmcWord (retired 0x43)) ∧
    pmonWordLayout.KeepsOthers .umask (casCommands 0x3).setting (casCommands 0xC).setting := by
  have hboth := eventSelectWords_iff (retired_same 0x41 0x43) (casCommands_same 0x3 0xC)
  constructor
  · refine (hboth.1.mpr (Layout.confined_of_width ?_ (by decide))).2
    intro i
    cases i <;> decide
  · refine (hboth.2.mpr (Layout.confined_of_width ?_ (by decide))).2
    intro i
    cases i <;> decide

/-- Bit 8 of the flags is bit 24 of the word, and bit 10 of the umask the edge detection
    of `pmon_config`. -/
theorem eventSelectWords_spill :
    (∃ k a a', (∀ l, l ≠ k → a' l = a l) ∧
      ¬ pmcWordLayout.KeepsOthers k (pmcWord a) (pmcWord a')) ∧
    (∃ m c c', (∀ l, l ≠ m → PmonConfig.arg c' l = PmonConfig.arg c l) ∧
      ¬ pmonWordLayout.KeepsOthers m c.setting c'.setting) := by
  constructor
  · refine ⟨.flags, retired 0x41, retired 0x141, retired_same _ _, ?_⟩
    intro hkeep
    have hbit := hkeep 24 (Or.inr ⟨.cmask, by decide, by decide, by decide⟩)
    exact absurd hbit (by decide)
  · refine ⟨.umask, casCommands 0x3, casCommands 0x403, casCommands_same _ _, ?_⟩
    intro hkeep
    have hbit := hkeep 18 (Or.inr ⟨.edgeDet, by decide, by decide, by decide⟩)
    exact absurd hbit (by decide)

end Libmsr
