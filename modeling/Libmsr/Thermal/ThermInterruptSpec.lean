/-
  Libmsr.Thermal.ThermInterruptSpec

  What `set_therm_interrupt` and `set_pkg_therm_interrupt` write, and when
  `get_*` returns it.

  A threshold has 7 bits, but the mask that clears it is 7, which is 3 bits.  Its
  other four bits are or-ed to those it had.  So the values are read back exactly
  when each of these bits that was set is wanted to be set.
-/
import Libmsr.Thermal.ThermalFields
import Libmsr.Thermal.ThermalRuns

namespace Libmsr

open BitFields

/-! ## Fields -/

/-- The fields of a core with their values. -/
def ThermInterrupt.fields (s : ThermInterrupt) : List (BitField × BitVec 32) :=
  [(⟨0, 1⟩, s.highTempEnable), (⟨1, 1⟩, s.lowTempEnable), (⟨2, 1⟩, s.prochotEnable),
    (⟨3, 1⟩, s.forceprEnable), (⟨4, 1⟩, s.critTempEnable), (⟨8, 7⟩, s.thresh1Val),
    (⟨15, 1⟩, s.thresh1Enable), (⟨16, 7⟩, s.thresh2Val), (⟨23, 1⟩, s.thresh2Enable),
    (⟨24, 1⟩, s.pwrLimitNotificationEnable)]

/-- The fields of a socket with their values. -/
def PkgThermInterrupt.fields (s : PkgThermInterrupt) : List (BitField × BitVec 32) :=
  [(⟨0, 1⟩, s.highTempEnable), (⟨1, 1⟩, s.lowTempEnable), (⟨2, 1⟩, s.prochotEnable),
    (⟨4, 1⟩, s.critTempEnable), (⟨8, 7⟩, s.thresh1Val), (⟨15, 1⟩, s.thresh1Enable),
    (⟨16, 7⟩, s.thresh2Val), (⟨23, 1⟩, s.thresh2Enable), (⟨24, 1⟩, s.pwrLimitNotificationEnable)]

/-- Every value fits its field: 7 bits for a threshold, 0 or 1 for the others. -/
def FitFields (fields : List (BitField × BitVec 32)) : Prop :=
  ∀ fv ∈ fields, fv.2.toNat < 2 ^ fv.1.width

instance (fields : List (BitField × BitVec 32)) : Decidable (FitFields fields) :=
  inferInstanceAs (Decidable (∀ fv ∈ fields, fv.2.toNat < 2 ^ fv.1.width))

/-- Every field of the word holds its value. -/
def Holds (fields : List (BitField × BitVec 32)) (x : Word) : Prop :=
  ∀ fv ∈ fields, fv.1.get x = fv.2.setWidth 64

/-- Outside the fields the words agree. -/
def SameOutside (fields : List (BitField × BitVec 32)) (old new : Word) : Prop :=
  ∀ i, i < 64 → (∀ fv ∈ fields, ¬ fv.1.Mem i) → new.getLsbD i = old.getLsbD i

/-- The condition: of the bits of a field that its mask does not clear, those set in
    the register are set in the value, too. -/
def HighBitsWanted (fields : List (BitField × BitVec 32)) (x : Word) : Prop :=
  ∀ fv ∈ fields, ∀ b, 3 ≤ b → b < fv.1.width → x.getLsbD (fv.1.pos + b) = true →
    fv.2.getLsbD b = true

/-- What is read back is what was given if the word holds it. -/
theorem ThermInterrupt.ofMsr_eq_iff (s : ThermInterrupt) (x : Word) :
    ThermInterrupt.ofMsr x = s ↔ Holds s.fields x := by
  cases s
  simp (disch := omega) only [ThermInterrupt.ofMsr, ThermInterrupt.mk.injEq, intField_eq_iff]
  simp [Holds, ThermInterrupt.fields]

theorem PkgThermInterrupt.ofMsr_eq_iff (s : PkgThermInterrupt) (x : Word) :
    PkgThermInterrupt.ofMsr x = s ↔ Holds s.fields x := by
  cases s
  simp (disch := omega) only [PkgThermInterrupt.ofMsr, PkgThermInterrupt.mk.injEq, intField_eq_iff]
  simp [Holds, PkgThermInterrupt.fields]

/-! ## What is written -/

/-- How many bits of the field the mask clears: 1 or, with the mask 7, 3. -/
def clearedBits (f : BitField) : Nat := min f.width 3

/-- What a field that held `old` holds after `val` was written to it. -/
def mergedField (fv : BitField × BitVec 32) (old : Word) : Word :=
  fv.2.setWidth 64 ||| (old &&& ~~~ (BitField.mk 0 (clearedBits fv.1)).mask 64)

/-- One line of the loop bodies. -/
def writeField (x : Word) (fv : BitField × BitVec 32) : Word :=
  replaceBits x ((BitVec.allOnes (clearedBits fv.1)).setWidth 32) fv.1.pos fv.2 fv.1.pos

theorem ThermInterrupt.toMsr_eq (s : ThermInterrupt) (x : Word) :
    s.toMsr x = s.fields.foldl writeField x := rfl

theorem PkgThermInterrupt.toMsr_eq (s : PkgThermInterrupt) (x : Word) :
    s.toMsr x = s.fields.foldl writeField x := rfl

/-- A list of fields that the functions can write. -/
structure Layout (fields : List (BitField × BitVec 32)) : Prop where
  disjoint : fields.Pairwise fun a b => a.1.Disjoint b.1
  fits : ∀ fv ∈ fields, fv.1.pos + fv.1.width ≤ 31
  range : FitFields fields

theorem ThermInterrupt.layout {s : ThermInterrupt} (h : FitFields s.fields) : Layout s.fields := by
  refine ⟨?_, ?_, h⟩
  · simp [ThermInterrupt.fields, BitField.Disjoint]
  · simp [ThermInterrupt.fields]

theorem PkgThermInterrupt.layout {s : PkgThermInterrupt} (h : FitFields s.fields) :
    Layout s.fields := by
  refine ⟨?_, ?_, h⟩
  · simp [PkgThermInterrupt.fields, BitField.Disjoint]
  · simp [PkgThermInterrupt.fields]

theorem foldl_writeField {fields : List (BitField × BitVec 32)}
    (hfits : ∀ fv ∈ fields, fv.1.pos + fv.1.width ≤ 31) (hrange : FitFields fields) (x : Word) :
    fields.foldl writeField x = updateAll x (fields.map fun fv => (fv.1, mergedField fv)) := by
  induction fields generalizing x with
  | nil => rfl
  | cons fv fields ih =>
    -- a line clears at most three bits of its field before it ors the value in
    have hline : writeField x fv = fv.1.put x (mergedField fv (fv.1.get x)) :=
      replaceBits_narrow rfl (Nat.min_le_left ..) (hfits fv (List.mem_cons_self ..))
        (hrange fv (List.mem_cons_self ..))
    rw [List.foldl_cons, List.map_cons, updateAll_cons, hline]
    exact ih (fun fv' h => hfits fv' (List.mem_cons_of_mem _ h))
      (fun fv' h => hrange fv' (List.mem_cons_of_mem _ h)) _

theorem mergedField_lt {fv : BitField × BitVec 32} (hwidth : fv.1.width ≤ 64)
    (hv : fv.2.toNat < 2 ^ fv.1.width) (x : Word) :
    (mergedField fv (fv.1.get x)).toNat < 2 ^ fv.1.width := by
  have hget : (fv.1.get x).toNat < 2 ^ fv.1.width := by
    rw [BitField.toNat_get hwidth]
    exact Nat.mod_lt _ (Nat.two_pow_pos _)
  rw [mergedField, BitVec.toNat_or, BitVec.toNat_and]
  exact Nat.or_lt_two_pow (toNat_setWidth_lt hv) (Nat.and_le_left.trans_lt hget)

/-- A field that is or-ed to ends with its value exactly when it had no other bits. -/
theorem mergedField_eq_iff {fv : BitField × BitVec 32} (hfits : fv.1.pos + fv.1.width ≤ 31)
    (x : Word) :
    mergedField fv (fv.1.get x) = fv.2.setWidth 64 ↔
      ∀ b, 3 ≤ b → b < fv.1.width → x.getLsbD (fv.1.pos + b) = true → fv.2.getLsbD b = true := by
  have h64 : fv.1.pos + fv.1.width ≤ 64 := by omega
  rw [mergedField, BitField.or_rest_eq_iff h64]
  refine forall_congr' fun b => ?_
  -- a field narrower than the mask is cleared as a whole
  have hcleared : b < fv.1.width → (clearedBits fv.1 ≤ b ↔ 3 ≤ b) := by
    intro hw
    rw [clearedBits]
    omega
  have hlow : b < fv.1.width → (fv.2.setWidth 64).getLsbD b = fv.2.getLsbD b := by
    intro hw
    rw [BitVec.getLsbD_setWidth, decide_eq_true (by omega : b < 64), Bool.true_and]
  constructor
  · intro h h3 hw hx
    exact hlow hw ▸ h ((hcleared hw).mpr h3) hw hx
  · intro h hc hw hx
    exact hlow hw ▸ h ((hcleared hw).mp hc) hw hx

section Written

variable {fields : List (BitField × BitVec 32)} (hlayout : Layout fields) (x : Word)
include hlayout

/-- Bits outside the fields are never touched. -/
theorem sameOutside_written : SameOutside fields x (fields.foldl writeField x) := by
  intro i hi hout
  rw [foldl_writeField hlayout.fits hlayout.range, getLsbD_updateAll hi]
  intro a ha
  obtain ⟨fv, hfv, rfl⟩ := List.mem_map.mp ha
  exact hout fv hfv

theorem holds_written_iff :
    Holds fields (fields.foldl writeField x) ↔ HighBitsWanted fields x := by
  have hdisj : (fields.map fun fv => (fv.1, mergedField fv)).Pairwise
      fun a b => a.1.Disjoint b.1 := List.pairwise_map.mpr hlayout.disjoint
  refine forall₂_congr fun fv hfv => ?_
  have hfits := hlayout.fits fv hfv
  have h64 : fv.1.pos + fv.1.width ≤ 64 := by omega
  have hget := get_updateAll hdisj (List.mem_map_of_mem hfv) h64 x
    (mergedField_lt (by omega) (hlayout.range fv hfv) x)
  rw [foldl_writeField hlayout.fits hlayout.range, hget, mergedField_eq_iff hfits]

end Written

/-! ## Runs -/

section Runs

variable {P : Platform} {pick : Nat → Nat} {s : ThermState}

/-- `set_therm_interrupt` changes no bits outside the fields, and
    `get_therm_interrupt` returns the values given. -/
def SetsThermInterrupt (P : Platform) (pick : Nat → Nat) :
    ThermState → (Nat → ThermInterrupt) → Prop :=
  SetsAndGets P thermInterrupt pick (setThermInterrupt P) (getThermInterrupt P)
    (fun s => SameOutside s.fields) fun s got => got = s

/-- The same for `set_pkg_therm_interrupt` and `get_pkg_therm_interrupt`. -/
def SetsPkgThermInterrupt (P : Platform) (pick : Nat → Nat) :
    ThermState → (Nat → PkgThermInterrupt) → Prop :=
  SetsAndGets P packageThermInterrupt pick (setPkgThermInterrupt P) (getPkgThermInterrupt P)
    (fun s => SameOutside s.fields) fun s got => got = s

/-- The condition for one register: the high bits that its thresholds have are
    wanted. -/
def ThresholdsFit (r : ThermRegister) (pick : Nat → Nat) (s : ThermState)
    (fields : List (BitField × BitVec 32)) (i : Nat) : Prop :=
  HighBitsWanted fields (s.world.host.regs (pick i) r.msr)

theorem setsThermInterrupt_iff (hpick : Picks P.cfg P.topo HwThread.coreId
      (P.cfg.sockets * P.cfg.coresPerSocket) pick)
    (hI : ThermInv P thermInterrupt pick s) (hinit : s.init = true)
    {fields : Nat → ThermInterrupt}
    (hrange : ∀ i, i < P.cfg.sockets * P.cfg.coresPerSocket → FitFields (fields i).fields) :
    SetsThermInterrupt P pick s fields ↔ ∀ i, i < P.cfg.sockets * P.cfg.coresPerSocket →
      ThresholdsFit thermInterrupt pick s (fields i).fields i := by
  refine (setsAndGets_iff hpick.fit hI hinit fields).trans (forall₂_congr fun i hi => ?_)
  have hlayout := ThermInterrupt.layout (hrange i hi)
  rw [ThermInterrupt.ofMsr_eq_iff, ThermInterrupt.toMsr_eq, holds_written_iff hlayout]
  exact and_iff_right (sameOutside_written hlayout _)

theorem setsPkgThermInterrupt_iff
    (hpick : Picks P.cfg P.topo HwThread.socketId P.cfg.sockets pick)
    (hI : ThermInv P packageThermInterrupt pick s) (hinit : s.init = true)
    {fields : Nat → PkgThermInterrupt}
    (hrange : ∀ i, i < P.cfg.sockets → FitFields (fields i).fields) :
    SetsPkgThermInterrupt P pick s fields ↔ ∀ i, i < P.cfg.sockets →
      ThresholdsFit packageThermInterrupt pick s (fields i).fields i := by
  refine (setsAndGets_iff hpick.fit hI hinit fields).trans (forall₂_congr fun i hi => ?_)
  have hlayout := PkgThermInterrupt.layout (hrange i hi)
  rw [PkgThermInterrupt.ofMsr_eq_iff, PkgThermInterrupt.toMsr_eq, holds_written_iff hlayout]
  exact and_iff_right (sameOutside_written hlayout _)

end Runs

/-- **Thermal interrupts.**  In every state that calls and the hardware can reach,
    the core functions and the socket functions return what was written if and only
    if the high bits of the old thresholds are wanted everywhere. -/
theorem setsInterrupts_iff (P : Platform) (pick : Nat → Nat) (s : ThermState) :
    (∀ fields, ThermReached P thermInterrupt ThermInterrupt.ofMsr ThermInterrupt.toMsr pick s →
      (∀ i, i < P.cfg.sockets * P.cfg.coresPerSocket → FitFields (fields i).fields) →
      (SetsThermInterrupt P pick s fields ↔ ∀ i, i < P.cfg.sockets * P.cfg.coresPerSocket →
        ThresholdsFit thermInterrupt pick s (fields i).fields i)) ∧
    ∀ fields, ThermReached P packageThermInterrupt PkgThermInterrupt.ofMsr
        PkgThermInterrupt.toMsr pick s →
      (∀ i, i < P.cfg.sockets → FitFields (fields i).fields) →
      (SetsPkgThermInterrupt P pick s fields ↔ ∀ i, i < P.cfg.sockets →
        ThresholdsFit packageThermInterrupt pick s (fields i).fields i) := by
  constructor
  · intro fields h hrange
    exact setsThermInterrupt_iff h.picks (h.inv (by decide)) h.init hrange
  · intro fields h hrange
    exact setsPkgThermInterrupt_iff h.picks (h.inv (by decide)) h.init hrange

/-- Thresholds of 15 over registers that hold 0 are returned. -/
theorem twoSockets_setsInterrupts :
    (∃ s, Runs.run (thermStep twoSockets thermInterrupt ThermInterrupt.ofMsr ThermInterrupt.toMsr)
        (twoSocketsTherm 0) [.store] = some s ∧
      SetsThermInterrupt twoSockets id s fun _ =>
        { ThermInterrupt.ofMsr 0 with thresh1Val := 15 }) ∧
    ∃ s, Runs.run (thermStep twoSockets packageThermInterrupt PkgThermInterrupt.ofMsr
        PkgThermInterrupt.toMsr) (twoSocketsTherm 0) [.store] = some s ∧
      SetsPkgThermInterrupt twoSockets id s
        fun _ => { PkgThermInterrupt.ofMsr 0 with thresh1Val := 15 } := by
  constructor
  · obtain ⟨s, hrun, hreached, hhost⟩ := twoSocketsTherm_reached (r := thermInterrupt)
      ThermInterrupt.ofMsr ThermInterrupt.toMsr 0 twoSockets_picks.2 rfl (by decide) rfl
    refine ⟨s, hrun, ((setsInterrupts_iff _ _ _).1 _ hreached fun _ _ => by decide).mpr
      fun i _ fv _ b _ _ hset => ?_⟩
    rw [hhost] at hset
    simp [twoSocketsTherm] at hset
  · obtain ⟨s, hrun, hreached, hhost⟩ := twoSocketsTherm_reached (r := packageThermInterrupt)
      PkgThermInterrupt.ofMsr PkgThermInterrupt.toMsr 0 twoSockets_picks.1 rfl (by decide) rfl
    refine ⟨s, hrun, ((setsInterrupts_iff _ _ _).2 _ hreached fun _ _ => by decide).mpr
      fun i _ fv _ b _ _ hset => ?_⟩
    rw [hhost] at hset
    simp [twoSocketsTherm] at hset

/-- A threshold of 7 over one of 15 is read back as 15. -/
theorem twoSockets_threshold_stuck :
    ∃ s, Runs.run (thermStep twoSockets thermInterrupt ThermInterrupt.ofMsr ThermInterrupt.toMsr)
        (twoSocketsTherm 0xF00) [.store] = some s ∧ s.init = true ∧
      FitFields ({ ThermInterrupt.ofMsr 0 with thresh1Val := 7 } : ThermInterrupt).fields ∧
      ¬ SetsThermInterrupt twoSockets id s
        fun _ => { ThermInterrupt.ofMsr 0 with thresh1Val := 7 } := by
  obtain ⟨s, hrun, hreached, hhost⟩ := twoSocketsTherm_reached (r := thermInterrupt)
    ThermInterrupt.ofMsr ThermInterrupt.toMsr 0xF00 twoSockets_picks.2 rfl (by decide) rfl
  refine ⟨s, hrun, hreached.init, by decide, fun hsets => ?_⟩
  have hwanted := (setsThermInterrupt_iff hreached.picks (hreached.inv (by decide))
    hreached.init fun _ _ => by decide).mp hsets 0 (by decide)
  -- bit 3 of the old threshold is set, that of the new one is not
  have hset : (s.world.host.regs 0 0x19B).getLsbD 11 = true := by
    rw [hhost]
    rfl
  have hbit := hwanted (⟨8, 7⟩, 7) (by simp [ThermInterrupt.fields]) 3 (Nat.le_refl 3)
    (by decide) hset
  exact absurd hbit (by decide)

end Libmsr
