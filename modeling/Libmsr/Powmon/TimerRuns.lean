/-
  Libmsr.Powmon.TimerRuns

  What `timer_sleep` keeps in every run: the next deadline is the start time plus the
  step times the interval, as integers, and a late call skips the deadlines that have
  passed.

  The product is a 32-bit one, so a call does this exactly when the deadline it comes to
  is less than `2 ^ 32` milliseconds after the start.
-/
import Libmsr.Powmon.Timer

namespace Libmsr

namespace MsTimer

/-! ## Deadlines -/

/-- `nextms` is the deadline of the step. -/
def Exact (t : MsTimer) : Prop :=
  t.nextms.toNat = t.startms.toNat + t.step.toNat * t.interval.toNat

/-- Deadline `n` can be computed without wrapping. -/
def Fits (t : MsTimer) (n : Nat) : Prop :=
  n * t.interval.toNat < 2 ^ 32 ∧ t.startms.toNat + n * t.interval.toNat < 2 ^ 64

/-- The first deadline after the time `now`. -/
def firstAfter (t : MsTimer) (now : Word) : Nat :=
  (now.toNat - t.startms.toNat) / t.interval.toNat + 1

/-- `r` is the number of deadlines, from the timer's on, that have passed. -/
def Skips (t : MsTimer) (now : Word) (r : Int) : Prop :=
  ∃ n : Nat, r = n ∧
    ∀ k, t.startms.toNat + (t.step.toNat + k) * t.interval.toNat ≤ now.toNat ↔ k < n

instance instDecidableFits (t : MsTimer) (n : Nat) : Decidable (t.Fits n) :=
  inferInstanceAs (Decidable (_ ∧ _))

theorem Fits.mono {t : MsTimer} {k n : Nat} (h : t.Fits n) (hle : k ≤ n) : t.Fits k := by
  have hmul : k * t.interval.toNat ≤ n * t.interval.toNat := Nat.mul_le_mul_right _ hle
  exact ⟨hmul.trans_lt h.1, by have := h.2; omega⟩

theorem deadline_toNat (t : MsTimer) : t.deadline.toNat =
    (t.startms.toNat + t.step.toNat * t.interval.toNat % 2 ^ 32) % 2 ^ 64 := by
  rw [deadline, BitVec.toNat_add, BitVec.toNat_setWidth, BitVec.toNat_mul, Nat.add_mod_mod]

/-- A deadline is exact when it does not wrap, and only then. -/
theorem deadline_exact_iff (t : MsTimer) :
    t.deadline.toNat = t.startms.toNat + t.step.toNat * t.interval.toNat ↔
      t.Fits t.step.toNat := by
  have hstart := t.startms.isLt
  rw [deadline_toNat, Fits]
  generalize t.step.toNat * t.interval.toNat = product
  constructor
  · intro h
    omega
  · rintro ⟨h32, h64⟩
    rw [Nat.mod_eq_of_lt h32, Nat.mod_eq_of_lt h64]

/-! ## Advancing -/

section Advance

variable (t : MsTimer) (c : Nat)

@[simp] theorem startms_advance : t.advance.startms = t.startms := rfl
@[simp] theorem interval_advance : t.advance.interval = t.interval := rfl
@[simp] theorem step_advance : t.advance.step = t.step + 1 := rfl

theorem nextms_advance : t.advance.nextms = t.advance.deadline := rfl

@[simp] theorem startms_iterate : (advance^[c] t).startms = t.startms := by
  induction c with
  | zero => rfl
  | succ c ih => rw [Function.iterate_succ_apply', startms_advance, ih]

@[simp] theorem interval_iterate : (advance^[c] t).interval = t.interval := by
  induction c with
  | zero => rfl
  | succ c ih => rw [Function.iterate_succ_apply', interval_advance, ih]

theorem step_iterate : (advance^[c] t).step.toNat = (t.step.toNat + c) % 2 ^ 32 := by
  induction c with
  | zero => exact (Nat.mod_eq_of_lt t.step.isLt).symm
  | succ c ih =>
    rw [Function.iterate_succ_apply', step_advance, BitVec.toNat_add, ih]
    show ((t.step.toNat + c) % 2 ^ 32 + 1) % 2 ^ 32 = _
    omega

variable {t c}

/-- After an advance, exactness is about the new step. -/
theorem advance_exact_iff : t.advance.Exact ↔ t.Fits ((t.step.toNat + 1) % 2 ^ 32) := by
  have hstep : t.advance.step.toNat = (t.step.toNat + 1) % 2 ^ 32 := step_iterate t 1
  have hfits := t.advance.deadline_exact_iff
  rw [hstep] at hfits
  rw [Exact, nextms_advance, hstep]
  exact hfits

/-- The same after several. -/
theorem iterate_exact_iff (hc : 0 < c) :
    (advance^[c] t).Exact ↔ t.Fits ((t.step.toNat + c) % 2 ^ 32) := by
  obtain ⟨c, rfl⟩ := Nat.exists_eq_succ_of_ne_zero hc.ne'
  have hstep := step_iterate t c
  rw [Function.iterate_succ_apply', advance_exact_iff, hstep, Fits, Fits, startms_iterate,
    interval_iterate]
  have hmod : ((t.step.toNat + c) % 2 ^ 32 + 1) % 2 ^ 32 = (t.step.toNat + (c + 1)) % 2 ^ 32 := by
    omega
  rw [hmod]

end Advance

/-! ## The first deadline after a time -/

section FirstAfter

variable {t : MsTimer} {now : Word} (hI : 0 < t.interval.toNat)
  (hstart : t.startms.toNat ≤ now.toNat)
include hI hstart

/-- The deadlines that have passed are those before it. -/
theorem passed_iff (k : Nat) :
    t.startms.toNat + k * t.interval.toNat ≤ now.toNat ↔ k < t.firstAfter now := by
  rw [firstAfter, Nat.lt_succ_iff, Nat.le_div_iff_mul_le hI]
  omega

/-- As many are skipped as lie before it. -/
theorem skips_iff (hstep : t.step.toNat ≤ t.firstAfter now) {r : Int} :
    t.Skips now r ↔ r = (t.firstAfter now - t.step.toNat : Nat) := by
  constructor
  · rintro ⟨n, rfl, hn⟩
    have hlast := hn (t.firstAfter now - t.step.toNat)
    rw [passed_iff hI hstart, Nat.add_sub_cancel' hstep] at hlast
    -- it is not before itself, and the one before it is
    have hge : n ≤ t.firstAfter now - t.step.toNat :=
      Nat.not_lt.mp fun hlt => absurd (hlast.mpr hlt) (lt_irrefl _)
    have hle : t.firstAfter now - t.step.toNat ≤ n := by
      by_contra hlt
      have hat := hn n
      rw [passed_iff hI hstart] at hat
      exact absurd (hat.mp (by omega)) (lt_irrefl _)
    rw [le_antisymm hge hle]
  · rintro rfl
    refine ⟨_, rfl, fun k => ?_⟩
    rw [passed_iff hI hstart]
    omega

end FirstAfter

/-! ## Calls -/

/-- A call returns, with an exact timer; where the deadline had passed the new one has not,
    and the skipped ones are counted. -/
def SleepsExactly (t : MsTimer) (now : Word) : Prop :=
  ∃ r t', timerSleep t now = some (r, t') ∧ t'.Exact ∧
    (t.nextms ≤ now → now < t'.nextms ∧ t.Skips now r)

/-- The deadline that the call comes to does not wrap, and there are not too many to skip
    for an `int`. -/
def KeepsUp (t : MsTimer) (now : Word) : Prop :=
  if t.nextms ≤ now then
    t.Fits (t.firstAfter now) ∧ t.firstAfter now - t.step.toNat < 2 ^ 31
  else t.Fits ((t.step.toNat + 1) % 2 ^ 32)

instance instDecidableKeepsUp (t : MsTimer) (now : Word) : Decidable (t.KeepsUp now) :=
  inferInstanceAs (Decidable (if t.nextms ≤ now then
    t.Fits (t.firstAfter now) ∧ t.firstAfter now - t.step.toNat < 2 ^ 31
  else t.Fits ((t.step.toNat + 1) % 2 ^ 32)))

section Calls

variable {t : MsTimer} {now : Word}

/-- A late call that returns has advanced as often as it says, past `now`. -/
theorem timerSleep_result (hlate : t.nextms ≤ now) {r : Int} {t' : MsTimer}
    (h : timerSleep t now = some (r, t')) :
    ∃ c : Nat, r = c ∧ c < 2 ^ 31 ∧ t' = advance^[c] t ∧ now < t'.nextms := by
  rw [timerSleep, if_pos hlate, Option.map_eq_some_iff] at h
  obtain ⟨⟨r, u, cadd⟩, hrounds, heq⟩ := h
  obtain ⟨rfl, rfl⟩ := Prod.mk.inj heq
  refine Loops.rounds_result
    (I := fun s : MsTimer × Int => ∃ c : Nat, s = (advance^[c] t, (c : Int)) ∧ c < 2 ^ 31)
    (Q := fun (r : Int) s => ∃ c : Nat, r = c ∧ c < 2 ^ 31 ∧ s.1 = advance^[c] t ∧ now < s.1.nextms)
    (s := (t, 0)) ?_ ?_ ⟨0, rfl, by omega⟩ hrounds
  · rintro s s' ⟨c, rfl, -⟩ hbody
    obtain ⟨-, hover, rfl⟩ := catchUpBody_again_iff.mp hbody
    refine ⟨c + 1, ?_, by omega⟩
    rw [Function.iterate_succ_apply']
    rfl
  · rintro s r s' ⟨c, rfl, hc⟩ hbody
    obtain ⟨hround, rfl, rfl⟩ := catchUpBody_done_iff.mp hbody
    exact ⟨c, rfl, hc, rfl, BitVec.not_le.mp hround⟩

section Late

variable (hI : 0 < t.interval.toNat) (hexact : t.Exact) (hlate : t.nextms ≤ now)
include hI hexact hlate

/-- The timer's own deadline is one of those that have passed. -/
theorem late_start : t.startms.toNat ≤ now.toNat ∧ t.step.toNat < t.firstAfter now := by
  have hle : t.startms.toNat + t.step.toNat * t.interval.toNat ≤ now.toNat :=
    hexact ▸ BitVec.le_def.mp hlate
  have hstart : t.startms.toNat ≤ now.toNat := (Nat.le_add_right _ _).trans hle
  exact ⟨hstart, (passed_iff hI hstart _).mp hle⟩

/-- While the first deadline after `now` does not wrap, the rounds are exact up to it. -/
theorem iterate_exact (hfits : t.Fits (t.firstAfter now)) {c : Nat}
    (hc : t.step.toNat + c ≤ t.firstAfter now) :
    (advance^[c] t).Exact ∧ ((advance^[c] t).nextms ≤ now ↔
      t.step.toNat + c < t.firstAfter now) := by
  obtain ⟨hstart, -⟩ := late_start hI hexact hlate
  have hsmall : t.step.toNat + c < 2 ^ 32 :=
    (hc.trans (Nat.le_mul_of_pos_right _ hI)).trans_lt hfits.1
  have hmod : (t.step.toNat + c) % 2 ^ 32 = t.step.toNat + c := Nat.mod_eq_of_lt hsmall
  have hat : (advance^[c] t).Exact := by
    rcases Nat.eq_zero_or_pos c with rfl | hpos
    · exact hexact
    · rw [iterate_exact_iff hpos, hmod]
      exact hfits.mono hc
  refine ⟨hat, ?_⟩
  rw [BitVec.le_def, hat, startms_iterate, interval_iterate, step_iterate, hmod]
  exact passed_iff hI hstart _

/-- **Catching up.**  The loop ends at the first deadline after `now`. -/
theorem timerSleep_late (hfits : t.Fits (t.firstAfter now))
    (hcount : t.firstAfter now - t.step.toNat < 2 ^ 31) :
    timerSleep t now = some (((t.firstAfter now - t.step.toNat : Nat) : Int),
      advance^[t.firstAfter now - t.step.toNat] t) := by
  obtain ⟨-, hstep⟩ := late_start hI hexact hlate
  generalize hlast : t.firstAfter now - t.step.toNat = last at *
  -- the invariant says how often the timer was advanced, the variant how often it will be
  let I : MsTimer × Int → Prop := fun s => ∃ c : Nat, s = (advance^[c] t, (c : Int)) ∧ c ≤ last
  let Q : Int → MsTimer × Int → Prop := fun r s => r = last ∧ s.1 = advance^[last] t
  let μ : MsTimer × Int → Nat := fun s => last - s.2.toNat
  have hbody : ∀ s, I s → (∃ s', catchUpBody now s = some (.again s') ∧ I s' ∧ μ s' < μ s) ∨
      ∃ r s', catchUpBody now s = some (.done r s') ∧ Q r s' := by
    rintro s ⟨c, rfl, hc⟩
    obtain ⟨-, hround⟩ := iterate_exact hI hexact hlate hfits (c := c) (by omega)
    by_cases hlt : c < last
    · -- one more deadline has passed
      have hover : (c : Int) + 1 < 2 ^ 31 := by omega
      refine Or.inl ⟨(advance^[c + 1] t, ((c + 1 : Nat) : Int)), ?_, ⟨c + 1, rfl, hlt⟩, ?_⟩
      · rw [catchUpBody_again_iff, Function.iterate_succ_apply']
        exact ⟨hround.mpr (by omega), hover, rfl⟩
      · show last - ((c + 1 : Nat) : Int).toNat < last - (c : Int).toNat
        rw [Int.toNat_natCast, Int.toNat_natCast]
        omega
    · obtain rfl : c = last := by omega
      refine Or.inr ⟨(c : Int), (advance^[c] t, (c : Int)), ?_, rfl, rfl⟩
      exact catchUpBody_done_iff.mpr ⟨fun h => absurd (hround.mp h) (by omega), rfl, rfl⟩
  obtain ⟨r, s, ⟨rfl, hs⟩, hrounds⟩ := Loops.rounds_returns hbody (s := (t, 0))
    ⟨0, rfl, Nat.zero_le _⟩
  have hfuel := hrounds (2 ^ 31) ((Nat.sub_le _ _).trans_lt hcount)
  rw [timerSleep, if_pos hlate, hfuel, Option.map_some, hs]

/-- A late call keeps the timer exact when the first deadline after `now` does not wrap. -/
theorem sleepsExactly_late_iff : t.SleepsExactly now ↔
    t.Fits (t.firstAfter now) ∧ t.firstAfter now - t.step.toNat < 2 ^ 31 := by
  obtain ⟨hstart, hstep⟩ := late_start hI hexact hlate
  constructor
  · rintro ⟨r, t', hcall, hexact', hpast⟩
    obtain ⟨hnow, hskips⟩ := hpast hlate
    obtain ⟨c, rfl, hc, rfl, -⟩ := timerSleep_result hlate hcall
    rw [skips_iff hI hstart hstep.le] at hskips
    obtain rfl : c = t.firstAfter now - t.step.toNat := Int.ofNat_inj.mp hskips
    have hsum : t.step.toNat + (t.firstAfter now - t.step.toNat) = t.firstAfter now := by omega
    -- the call counts what it skipped, so it ended at the first deadline after `now`
    have hnext := BitVec.lt_def.mp hnow
    rw [hexact', startms_iterate, interval_iterate, step_iterate, hsum] at hnext
    rw [iterate_exact_iff (by omega), hsum] at hexact'
    -- a wrapped step would be of a deadline that has passed
    have hmod : t.firstAfter now % 2 ^ 32 = t.firstAfter now := by
      have hnot : ¬ t.firstAfter now % 2 ^ 32 < t.firstAfter now := fun hlt =>
        absurd ((passed_iff hI hstart _).mpr hlt) (by omega)
      exact le_antisymm (Nat.mod_le _ _) (Nat.not_lt.mp hnot)
    rw [hmod] at hexact'
    exact ⟨hexact', hc⟩
  · rintro ⟨hfits, hcount⟩
    have hsum : t.step.toNat + (t.firstAfter now - t.step.toNat) = t.firstAfter now := by omega
    obtain ⟨hexact', hround⟩ := iterate_exact hI hexact hlate hfits hsum.le
    refine ⟨_, _, timerSleep_late hI hexact hlate hfits hcount, hexact', fun _ => ⟨?_, ?_⟩⟩
    · rw [← BitVec.not_le, hround]
      omega
    · exact (skips_iff hI hstart hstep.le).mpr rfl

end Late

/-- A call that sleeps keeps the timer exact when the next deadline does not wrap. -/
theorem sleepsExactly_early_iff (hearly : ¬ t.nextms ≤ now) :
    t.SleepsExactly now ↔ t.Fits ((t.step.toNat + 1) % 2 ^ 32) := by
  have hcall : timerSleep t now = some (0, t.advance) := by rw [timerSleep, if_neg hearly]
  rw [← advance_exact_iff]
  exact (Runs.result_iff hcall).trans (and_iff_left fun hlate => absurd hlate hearly)

/-- **One call.** -/
theorem sleepsExactly_iff (hI : 0 < t.interval.toNat) (hexact : t.Exact) :
    t.SleepsExactly now ↔ t.KeepsUp now := by
  rw [KeepsUp]
  split_ifs with hlate
  · exact sleepsExactly_late_iff hI hexact hlate
  · exact sleepsExactly_early_iff hlate

/-- A call that keeps up gives an exact timer with the same start and interval. -/
theorem KeepsUp.step (hI : 0 < t.interval.toNat) (hexact : t.Exact) (h : t.KeepsUp now)
    {t' : MsTimer} (hstep : timerStep t now = some t') :
    t'.Exact ∧ 0 < t'.interval.toNat := by
  obtain ⟨r, u, hcall, hexact', -⟩ := (sleepsExactly_iff hI hexact).mpr h
  rw [timerStep, hcall] at hstep
  obtain rfl := Option.some.inj hstep
  refine ⟨hexact', ?_⟩
  by_cases hlate : t.nextms ≤ now
  · obtain ⟨c, -, -, rfl, -⟩ := timerSleep_result hlate hcall
    rwa [interval_iterate]
  · rw [timerSleep, if_neg hlate] at hcall
    obtain ⟨-, rfl⟩ := Prod.mk.inj (Option.some.inj hcall)
    exact hI

end Calls

/-! ## Runs -/

section Runs

variable {msInterval : BitVec 32} {start : Word}

/-- The first deadline is exact unless the start time is at the end of the clock. -/
theorem init_exact (hfits : start.toNat + msInterval.toNat < 2 ^ 64) :
    (initSyncMsTimer msInterval start).Exact := by
  have hlt := msInterval.isLt
  refine (deadline_exact_iff (initSyncMsTimer msInterval start)).mpr ⟨?_, ?_⟩
  · show 1 * msInterval.toNat < 2 ^ 32
    omega
  · show start.toNat + 1 * msInterval.toNat < 2 ^ 64
    omega

/-- At the end of the clock no deadline fits. -/
theorem init_not_fits (hwraps : ¬ start.toNat + msInterval.toNat < 2 ^ 64) {n : Nat} (hn : 0 < n) :
    ¬ (initSyncMsTimer msInterval start).Fits n := by
  rintro ⟨-, h64⟩
  have hle : msInterval.toNat ≤ n * msInterval.toNat := Nat.le_mul_of_pos_left _ hn
  have hsum : start.toNat + n * msInterval.toNat < 2 ^ 64 := h64
  omega

/-- There the first call already fails. -/
theorem init_wraps (hwraps : ¬ start.toNat + msInterval.toNat < 2 ^ 64) (now : Word) :
    ¬ (initSyncMsTimer msInterval start).SleepsExactly now ∧
      ¬ (initSyncMsTimer msInterval start).KeepsUp now := by
  have hsecond : ¬ (initSyncMsTimer msInterval start).Fits ((1 + 1) % 2 ^ 32) :=
    init_not_fits hwraps (by omega)
  by_cases hlate : (initSyncMsTimer msInterval start).nextms ≤ now
  · constructor
    · rintro ⟨r, t', hcall, hexact, -⟩
      obtain ⟨c, -, hc, rfl, hnow⟩ := timerSleep_result hlate hcall
      rcases Nat.eq_zero_or_pos c with rfl | hpos
      · -- a late call does not return at once
        exact absurd hlate (BitVec.not_le.mpr hnow)
      · rw [iterate_exact_iff hpos] at hexact
        have hstep : ((initSyncMsTimer msInterval start).step.toNat + c) % 2 ^ 32 = 1 + c :=
          Nat.mod_eq_of_lt (show 1 + c < 2 ^ 32 by omega)
        exact init_not_fits hwraps (Nat.add_pos_left Nat.one_pos c) (hstep ▸ hexact)
    · rw [KeepsUp, if_pos hlate]
      exact fun h => init_not_fits hwraps (Nat.succ_pos _) h.1
  · constructor
    · rw [sleepsExactly_early_iff hlate]
      exact hsecond
    · rw [KeepsUp, if_neg hlate]
      exact hsecond

/-- **Runs of the timer.**  Every call returns with an exact timer, past the time it was
    called at where it was late, and counts the deadlines it skipped, exactly when every
    call keeps up. -/
theorem timerRuns_iff (hI : 0 < msInterval.toNat) (readings : List Word) :
    Runs.Along timerStep SleepsExactly (initSyncMsTimer msInterval start) readings ↔
      Runs.Along timerStep KeepsUp (initSyncMsTimer msInterval start) readings := by
  by_cases hfits : start.toNat + msInterval.toNat < 2 ^ 64
  · refine Runs.along_iff (I := fun t => t.Exact ∧ 0 < t.interval.toNat) ?_ ?_
      ⟨init_exact hfits, hI⟩
    · rintro t now ⟨hexact, hpos⟩
      exact sleepsExactly_iff hpos hexact
    · rintro t now t' ⟨hexact, hpos⟩ hkeeps hstep
      exact hkeeps.step hpos hexact hstep
  · -- the timer is wrong from the start
    cases readings with
    | nil => exact Iff.rfl
    | cons now readings =>
      obtain ⟨hsleeps, hkeeps⟩ := init_wraps hfits now
      exact iff_of_false (fun h => hsleeps h.1) fun h => hkeeps h.1

/-- The timer of powmon, started in 2023. -/
def powmonTimer : MsTimer := initMsTimer 100 1700000000000

theorem powmonTimer_init : powmonTimer.Exact := init_exact (by decide)

/-- It is called late and then early. -/
theorem powmonTimer_exact :
    Runs.Along timerStep SleepsExactly powmonTimer [1700000000250, 1700000000290] := by
  have hlate : powmonTimer.nextms ≤ 1700000000250 := by decide
  have hcall := timerSleep_late (by decide) powmonTimer_init hlate (by decide) (by decide)
  have hkeeps : Runs.Along timerStep KeepsUp powmonTimer [1700000000250, 1700000000290] := by
    refine ⟨by decide, fun t ht => ⟨?_, fun _ _ => trivial⟩⟩
    rw [timerStep, hcall] at ht
    obtain rfl := Option.some.inj ht
    decide
  exact (timerRuns_iff (by decide) _).mpr hkeeps

/-- After 49 days and 17 hours the deadline wraps. -/
theorem powmonTimer_wraps :
    [(1704294967150 : Word), 1704294967160].Pairwise (· ≤ ·) ∧
      ¬ Runs.Along timerStep SleepsExactly powmonTimer [1704294967150, 1704294967160] := by
  refine ⟨by decide, fun h => ?_⟩
  have hI : 0 < powmonTimer.interval.toNat := by decide
  have hlate : powmonTimer.nextms ≤ 1704294967150 := by decide
  have hfits : powmonTimer.Fits (powmonTimer.firstAfter 1704294967150) := by decide
  have hcall := timerSleep_late hI powmonTimer_init hlate hfits (by decide)
  have hcount : powmonTimer.firstAfter 1704294967150 - powmonTimer.step.toNat = 42949671 := by
    decide
  generalize powmonTimer.firstAfter 1704294967150 - powmonTimer.step.toNat = c at hcall hcount
  have hstep : (advance^[c] powmonTimer).step.toNat = 42949672 := by
    rw [step_iterate, hcount]
    decide
  have hlast : powmonTimer.step.toNat + c ≤ powmonTimer.firstAfter 1704294967150 := by
    rw [hcount]
    decide
  obtain ⟨hexact', -⟩ := iterate_exact hI powmonTimer_init hlate hfits hlast
  obtain ⟨hsecond, -⟩ := h.2 _ (by rw [timerStep, hcall, Option.map_some])
  -- the deadline of that step is 40 milliseconds away
  have hearly : ¬ (advance^[c] powmonTimer).nextms ≤ 1704294967160 := by
    rw [BitVec.le_def, hexact', hstep, startms_iterate, interval_iterate]
    decide
  rw [sleepsExactly_early_iff hearly, hstep, Fits, interval_iterate] at hsecond
  exact absurd hsecond.1 (by decide)

end Runs

end MsTimer

end Libmsr
