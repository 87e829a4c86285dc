/-
  Libmsr.Powmon.PowerCap

  The power cap of `power_set_measurement` over whole runs.

  - `setRaplPower_spec`: both sockets get one word, which carries the limits
    encoded with the units of socket 0.
  - `capAt`: the cap after a number of moves, as a position that bounces between
    the cap that was asked for and the first step at or below 30 watts.
  - `powerCap_run`: which words a run writes, and when none of them allows more
    than was asked for.
-/
import Libmsr.Lib.Bounce
import Libmsr.Powmon.PowerMeasure
import Libmsr.Rapl.LimitPairs

namespace Libmsr

section PowerCap

variable {K : Type} [Field K] [LinearOrder K] [IsStrictOrderedRing K] [FloorRing K]

/-! ## Setting the limits -/

/-- The limits `set_rapl_power` asks for can be encoded: the power in units fits its
    field, and is not 0 for the lower limit. -/
structure BoundsFit (raw : Word) (s0bound s1bound : K) : Prop where
  lower_pos : 1 ≤ s0bound * 2 ^ powerUnit raw
  lower_lt : s0bound * 2 ^ powerUnit raw < 2 ^ 15
  upper_nonneg : 0 ≤ s1bound
  upper_lt : s1bound * 2 ^ powerUnit raw < 2 ^ 15

/-- The word carries the two bounds, rounded down to units, the window of one second
    and the number 1. -/
def CarriesBounds (raw : Word) (s0bound s1bound : K) (w : Word) : Prop :=
  CarriesLimits w ⌊(⟨0, s0bound, 1⟩ : RaplLimit K).wattUnits raw⌋₊ (timeUnit raw)
    ⌊(⟨0, s1bound, 1⟩ : RaplLimit K).wattUnits raw⌋₊ 1

/-- The writes that give both sockets the word. -/
def capWrites (R : RaplSetup K) (w : Word) : List Access :=
  [.write (socketCpu R 0) msrPkgPowerLimit w, .write (socketCpu R 1) msrPkgPowerLimit w]

section Bounds

variable {raw : Word} {s0bound s1bound : K} (hfit : BoundsFit raw s0bound s1bound)
include hfit

theorem BoundsFit.fitsLower : (⟨0, s0bound, 1⟩ : RaplLimit K).FitsLower raw := by
  have hunits : (⟨0, s0bound, 1⟩ : RaplLimit K).wattUnits raw = s0bound * 2 ^ powerUnit raw :=
    RaplLimit.wattUnits_eq ..
  have hpow : (0 : K) < 2 ^ powerUnit raw := pow_pos two_pos _
  have hnonneg : 0 ≤ s0bound * 2 ^ powerUnit raw := zero_le_one.trans hfit.lower_pos
  refine RaplLimit.WattsFit.fitsLower ⟨rfl, (mul_nonneg_iff_of_pos_right hpow).mp hnonneg, ?_⟩ rfl
  rw [hunits]
  have hlt : ⌊s0bound * 2 ^ powerUnit raw⌋₊ < 32768 :=
    (Nat.floor_lt hnonneg).mpr (hfit.lower_lt.trans_eq (by norm_num))
  omega

theorem BoundsFit.fitsUpper : (⟨0, s1bound, 1⟩ : RaplLimit K).FitsUpper raw := by
  have hunits : (⟨0, s1bound, 1⟩ : RaplLimit K).wattUnits raw = s1bound * 2 ^ powerUnit raw :=
    RaplLimit.wattUnits_eq ..
  have hnonneg : 0 ≤ s1bound * 2 ^ powerUnit raw :=
    mul_nonneg hfit.upper_nonneg (pow_nonneg zero_le_two _)
  refine ⟨⟨rfl, hfit.upper_nonneg, ?_⟩, zero_le_one, ?_⟩
  · rw [hunits]
    have hlt : ⌊s1bound * 2 ^ powerUnit raw⌋₊ < 32768 :=
      (Nat.floor_lt hnonneg).mpr (hfit.upper_lt.trans_eq (by norm_num))
    omega
  · show (1 : K) < 128
    norm_num

end Bounds

/-- A limit register is read back as it was written. -/
theorem setReg_regs_of_eq {h h' : Host} {cpu msr : Nat} {w : Word}
    (hregs : h'.regs = (h.setReg cpu msr w).regs) : h'.regs cpu msr = w := by
  rw [hregs, Host.setReg_self]

/-- A register that holds the word keeps it when another one gets it. -/
theorem setReg_regs_same {h h' : Host} {cpu cpu' msr : Nat} {w : Word}
    (hregs : h'.regs = (h.setReg cpu' msr w).regs) (hw : h.regs cpu msr = w) :
    h'.regs cpu msr = w := by
  rw [hregs, Host.setReg]
  dsimp only
  split
  · rfl
  · exact hw

section Set

variable {R : RaplSetup K} {h : Host} {raw0 raw1 : Word} (hw0 : LimitsWork R h 0 raw0)
  (hw1 : LimitsWork R h 1 raw1) (hflag : announces R.flags pkgPowerLimit = true)
include hw0 hw1 hflag

/-- **Setting the cap.**  Both sockets get the word that was encoded for socket 0. -/
theorem setRaplPower_spec {s0bound s1bound : K} (hfit : BoundsFit raw0 s0bound s1bound) :
    ∃ h' w, setRaplPower R h s0bound s1bound = some h' ∧ CarriesBounds raw0 s0bound s1bound w ∧
      h'.writes = h.writes ++ capWrites R w ∧ h.SameDevices h' ∧
      h'.regs (socketCpu R 0) msrPkgPowerLimit = w ∧
      h'.regs (socketCpu R 1) msrPkgPowerLimit = w := by
  have hunits : ∀ bound : K, (⟨0, bound, 1⟩ : RaplLimit K).wattUnits raw0 =
      bound * 2 ^ powerUnit raw0 := fun bound => RaplLimit.wattUnits_eq ..
  -- socket 0: the values are encoded
  obtain ⟨r₀, e₁, e₂, time, hset₀, hr₀, htime, hcarries, hne₁, hne₂⟩ :=
    setPkgRaplLimit_pair hw0.init hflag hw0.pkgWrites hfit.fitsLower hfit.fitsUpper
  rw [hunits] at hne₁
  rw [secondsToBits_oneSecond rfl htime, Nat.floor_one] at hcarries
  -- socket 1: the bits that are there are taken as they are
  have hw1' := hw1.of_sameDevices hr₀.same
  have hbits₁ : e₁.bits ≠ 0 := hne₁ (Nat.floor_pos.mpr hfit.lower_pos)
  have hbits₂ : e₂.bits ≠ 0 := hne₂ (Nat.floor_pos.mpr le_rfl)
  obtain ⟨r₁, hset₁, hr₁, hword⟩ :=
    setPkgRaplLimit_again hw1'.init hflag hw1'.pkgWrites hbits₁ hbits₂
  have hregs₁ := hr₁.regs
  have hwrites₁ := hr₁.writes
  rw [hword] at hregs₁ hwrites₁
  have hreg1 := setReg_regs_of_eq hregs₁
  have hreg0 := setReg_regs_same hregs₁ (setReg_regs_of_eq hr₀.regs)
  -- the limits are got back
  have hsame₁ := hr₀.same.trans hr₁.same
  obtain ⟨h₂, hget₂, hsame₂, hregs₂, hwrites₂⟩ := (hw0.of_sameDevices hsame₁).getPkg hflag
    (by rw [hreg0]; exact hcarries.ne_zero) (decodedLimit (.ofMsr raw1) e₁.bits 0)
  have hsame₂' := hsame₁.trans hsame₂
  obtain ⟨h₃, hget₃, hsame₃, hregs₃, hwrites₃⟩ := (hw1.of_sameDevices hsame₂').getPkg hflag
    (by rw [hregs₂, hreg1]; exact hcarries.ne_zero) (decodedLimit (.ofMsr raw1) e₂.bits 32)
  refine ⟨h₃, pairWord e₁ e₂, ?_, hcarries, ?_, hsame₂'.trans hsame₃, ?_, ?_⟩
  · simp only [setRaplPower, hset₀, hr₀.limit1, hr₀.limit2, hset₁, hr₁.limit1, hr₁.limit2, hget₂,
      hget₃, Option.bind_eq_bind, Option.bind_some]
  · rw [hwrites₃, hwrites₂, hwrites₁, hr₀.writes, List.append_assoc]
    rfl
  · rw [hregs₃, hregs₂, hreg0]
  · rw [hregs₃, hregs₂, hreg1]

end Set

/-! ## The moves of the cap -/

/-- The moves down from `wattCap` to the first cap at or below 30 watts. -/
def movesDown (wattCap : K) : Int := ⌈(wattCap - 30) / 5⌉

/-- The moves below `wattCap`, and the direction, after `k` moves. -/
def capMoves (wattCap : K) (k : Nat) : Int × Int :=
  (Bounce.turn (movesDown wattCap))^[k] (0, -1)

/-- The cap after `k` moves. -/
def capAt (wattCap : K) (k : Nat) : K := wattCap - 5 * ((capMoves wattCap k).1 : K)

omit [IsStrictOrderedRing K] in
theorem capMoves_succ (wattCap : K) (k : Nat) : capMoves wattCap (k + 1) =
    Bounce.turn (movesDown wattCap) (capMoves wattCap k) := Function.iterate_succ_apply' ..

/-- The position at which the tests turn the direction. -/
theorem movesDown_le_iff (wattCap : K) (i : Int) :
    movesDown wattCap ≤ i ↔ wattCap - 5 * (i : K) ≤ (30 : Nat) := by
  rw [movesDown, Int.ceil_le, div_le_iff₀ (by norm_num : (0 : K) < 5), Nat.cast_ofNat]
  constructor <;> intro h <;> linarith

/-- The two tests of the loop body are those of the position. -/
theorem nextDir_eq (wattCap : K) (s : Int × Int) :
    nextDir wattCap (wattCap - 5 * (s.1 : K)) (-5 * s.2) =
      -5 * (Bounce.turn (movesDown wattCap) s).2 := by
  have htop : wattCap - 5 * (s.1 : K) ≥ wattCap ↔ s.1 ≤ 0 := by
    rw [ge_iff_le, ← Int.cast_le (R := K), Int.cast_zero]
    constructor <;> intro h <;> linarith
  have hlow := movesDown_le_iff wattCap s.1
  simp only [nextDir, Bounce.turn, htop, ← hlow]
  split
  · rfl
  · split <;> rfl

/-- A move of the cap is a move of the position. -/
theorem capAt_succ (wattCap : K) (k : Nat) : capAt wattCap k +
    (nextDir wattCap (capAt wattCap k) (-5 * (capMoves wattCap k).2) : K) =
      capAt wattCap (k + 1) := by
  have hmove : (capMoves wattCap (k + 1)).1 =
      (capMoves wattCap k).1 + (capMoves wattCap (k + 1)).2 := by
    rw [capMoves_succ]
    rfl
  rw [capAt, nextDir_eq, ← capMoves_succ, capAt, hmove]
  push_cast
  ring

/-- **Caps above 30 watts** are swept: the cap goes down from `wattCap` to the first
    step at or below 30 watts and up again. -/
theorem capAt_eq_wave {wattCap : K} (hcap : 30 < wattCap) (k : Nat) :
    capAt wattCap k = wattCap - 5 * (Bounce.wave (movesDown wattCap) k : K) := by
  have hm : 0 < movesDown wattCap := by
    rw [← not_le, movesDown_le_iff, Int.cast_zero, mul_zero, sub_zero, not_le]
    exact_mod_cast hcap
  rw [capAt, capMoves, (Bounce.turn_iterate hm (-1) k).1]

theorem capAt_bounds {wattCap : K} (hcap : 30 < wattCap) (k : Nat) :
    25 < capAt wattCap k ∧ capAt wattCap k ≤ wattCap := by
  have hm : 0 < movesDown wattCap := by
    rw [← not_le, movesDown_le_iff, Int.cast_zero, mul_zero, sub_zero, not_le]
    exact_mod_cast hcap
  obtain ⟨hlow, hhigh⟩ := Bounce.wave_bounds hm k
  rw [capAt_eq_wave hcap]
  have hnonneg : (0 : K) ≤ (Bounce.wave (movesDown wattCap) k : K) := by exact_mod_cast hlow
  refine ⟨?_, by linarith⟩
  -- one step before the lowest the cap is still above 30
  have hlt : ¬ movesDown wattCap ≤ Bounce.wave (movesDown wattCap) k - 1 := by omega
  rw [movesDown_le_iff, not_le] at hlt
  push_cast at hlt
  linarith

/-- **Caps of at most 30 watts** are raised at once, and stay between the cap that was
    asked for and 35 watts. -/
theorem capAt_low {wattCap : K} (hcap : wattCap ≤ 30) (k : Nat) :
    wattCap ≤ capAt wattCap k ∧ capAt wattCap k ≤ 35 ∧ capAt wattCap 1 = wattCap + 5 := by
  have hm : movesDown wattCap ≤ 0 := by
    rw [movesDown_le_iff, Int.cast_zero, mul_zero, sub_zero]
    exact_mod_cast hcap
  obtain ⟨hfall, hstay⟩ := Bounce.turn_iterate_nonpos hm (-1) k
  have hpos : movesDown wattCap - 1 ≤ (capMoves wattCap k).1 ∧ (capMoves wattCap k).1 ≤ 0 := by
    unfold capMoves
    by_cases hk : -movesDown wattCap ≤ (k : Int)
    · rcases hstay hk with h | h <;> omega
    · have h := hfall (by omega)
      omega
  refine ⟨?_, ?_, ?_⟩
  · have hnonpos : ((capMoves wattCap k).1 : K) ≤ 0 := by exact_mod_cast hpos.2
    rw [capAt]
    linarith
  · -- two positions above the lowest the cap is at most 30
    have hle : movesDown wattCap ≤ (capMoves wattCap k).1 + 1 := by omega
    rw [movesDown_le_iff] at hle
    push_cast at hle
    rw [capAt]
    linarith
  · have hone : capMoves wattCap 1 = (-1, -1) := by
      rw [capMoves, Function.iterate_one, Bounce.turn, if_pos hm]
      rfl
    rw [capAt, hone]
    push_cast
    ring

/-! ## Runs -/

/-- A cap that can be set, also where it is moved to. -/
structure CapFits (raw : Word) (wattCap : K) : Prop where
  one_le : 1 ≤ wattCap
  fits : max wattCap 35 * 2 ^ powerUnit raw < 2 ^ 15

theorem CapFits.boundsFit {raw : Word} {wattCap : K} (h : CapFits raw wattCap) (k : Nat) :
    BoundsFit raw (capAt wattCap k) (capAt wattCap k) := by
  have hbounds : 1 ≤ capAt wattCap k ∧ capAt wattCap k ≤ max wattCap 35 := by
    have hone := h.one_le
    by_cases hcap : 30 < wattCap
    · obtain ⟨hlow, hhigh⟩ := capAt_bounds hcap k
      exact ⟨by linarith, le_max_of_le_left hhigh⟩
    · obtain ⟨hlow, hhigh, -⟩ := capAt_low (not_lt.mp hcap) k
      exact ⟨by linarith, le_max_of_le_right hhigh⟩
  have hpow : (1 : K) ≤ 2 ^ powerUnit raw := one_le_pow₀ one_le_two
  have hlt : capAt wattCap k * 2 ^ powerUnit raw < 2 ^ 15 :=
    (mul_le_mul_of_nonneg_right hbounds.2 (zero_le_one.trans hpow)).trans_lt h.fits
  exact ⟨one_le_mul_of_one_le_of_one_le hbounds.1 hpow, hlt, zero_le_one.trans hbounds.1, hlt⟩

/-- The limits in the word are the bounds rounded down to units. -/
theorem CarriesBounds.decoded {raw w : Word} {bound : K} (h : CarriesBounds raw bound bound w)
    (hfit : BoundsFit raw bound bound) {offset : Nat} (hoff : offset = 0 ∨ offset = 32) :
    decodedWatts (.ofMsr raw) w offset ≤ bound ∧
      bound < decodedWatts (.ofMsr raw) w offset + 1 / 2 ^ powerUnit raw := by
  obtain ⟨hlow, -, hhigh, -⟩ := CarriesLimits.fields h
  refine hfit.fitsLower.toWattsFit.quantised ?_
  rcases hoff with rfl | rfl
  · exact congrArg (fun n : Nat => (n : K) * (RaplUnits.ofMsr raw : RaplUnits K).watts) hlow
  · exact congrArg (fun n : Nat => (n : K) * (RaplUnits.ofMsr raw : RaplUnits K).watts) hhigh

/-- The moves among the first `n` rounds: every fifth poll, by a counter of 64 bits
    that starts at 1. -/
def moves (n : Nat) : Nat := Nat.count (fun i => (i + 1) % 2 ^ 64 % 5 = 0) n

theorem moves_pos_iff (n : Nat) : 0 < moves n ↔ 5 ≤ n := by
  constructor
  · intro h
    by_contra hlt
    have hmono : moves n ≤ moves 4 := Nat.count_monotone _ (by omega)
    have hfour : moves 4 = 0 := by decide
    omega
  · intro h
    have hmono : moves 5 ≤ moves n := Nat.count_monotone _ h
    have hfive : moves 5 = 1 := by decide
    omega

/-- The state after `n` rounds that wrote these words. -/
structure CapState (R : RaplSetup K) (raw : Nat → Word) (h : Host) (wattCap : K)
    (S : PowerSetter K) (n : Nat) (words : List Word) : Prop where
  same : h.SameDevices S.wrapper.host
  watts : S.watts = capAt wattCap (moves n)
  pollDir : S.pollDir = -5 * (capMoves wattCap (moves n)).2
  pollNum : S.pollNum = BitVec.ofNat 64 (n + 1)
  length : words.length = moves n + 1
  writes : S.wrapper.host.writes = h.writes ++ words.flatMap (capWrites R)
  carries : ∀ k w, words[k]? = some w →
    CarriesBounds (raw 0) (capAt wattCap k) (capAt wattCap k) w

section Run

variable {R : RaplSetup K} {pick : Nat → Nat} {raw : Nat → Word} {drv : BatchDriver} {fd : Int}
  {h : Host} (hready : WrapperReady R pick raw drv fd h) {wattCap : K}
  (hfits : CapFits (raw 0) wattCap)
include hready hfits

/-- Setting the cap after `k` moves. -/
theorem WrapperReady.setCap {h' : Host} (hsame : h.SameDevices h') (k : Nat) :
    ∃ h'' w, setRaplPower R h' (capAt wattCap k) (capAt wattCap k) = some h'' ∧
      CarriesBounds (raw 0) (capAt wattCap k) (capAt wattCap k) w ∧
      h''.writes = h'.writes ++ capWrites R w ∧ h.SameDevices h'' := by
  obtain ⟨h'', w, hset, hw, hwrites, hsame', -, -⟩ := setRaplPower_spec
    (hready.socket0.of_sameDevices hsame) (hready.socket1.of_sameDevices hsame) hready.limits
    (hfits.boundsFit k)
  exact ⟨h'', w, hset, hw, hwrites, hsame.trans hsame'⟩

/-- The start of the thread. -/
theorem powerSetStart_spec {S : Powmon K} (hsame : h.SameDevices S.host)
    (hwrites : S.host.writes = h.writes) :
    ∃ S₀ w, powerSetStart R wattCap S = some S₀ ∧ S₀.wrapper.energy = S.energy ∧
      CapState R raw h wattCap S₀ 0 [w] := by
  have hzero : capAt wattCap 0 = wattCap := by simp [capAt, capMoves]
  obtain ⟨h', w, hset, hw, hwrites', hsame'⟩ := hready.setCap hfits hsame 0
  rw [hzero] at hset
  refine ⟨⟨{ S with host := h' }, wattCap, 1, 5⟩, w, ?_, rfl,
    ⟨hsame', hzero.symm, rfl, rfl, rfl, ?_, ?_⟩⟩
  · simp only [powerSetStart, hset, Option.bind_eq_bind, Option.bind_some]
  · rw [hwrites', hwrites, List.flatMap_singleton]
  · intro k w' hk
    obtain ⟨rfl, rfl⟩ : k = 0 ∧ w = w' := by
      cases k with
      | zero => exact ⟨rfl, Option.some.inj hk⟩
      | succ k => simp at hk
    exact hw

/-- The end of a round. -/
theorem moveCap_spec {S : PowerSetter K} {n : Nat} {words : List Word}
    (hS : CapState R raw h wattCap S n words) :
    ∃ S' words', moveCap R wattCap S = some S' ∧ S'.wrapper.energy = S.wrapper.energy ∧
      CapState R raw h wattCap { S' with pollNum := S'.pollNum + 1 } (n + 1)
        (words ++ words') := by
  have hpoll : S.pollNum % 5 = 0 ↔ (n + 1) % 2 ^ 64 % 5 = 0 := by
    rw [hS.pollNum, ← BitVec.toNat_inj, BitVec.toNat_umod, BitVec.toNat_ofNat]
    exact Iff.rfl
  have hnum : S.pollNum + 1 = BitVec.ofNat 64 (n + 1 + 1) := by
    rw [hS.pollNum]
    exact (BitVec.ofNat_add (n + 1) 1).symm
  have hmoves : moves (n + 1) = moves n + if (n + 1) % 2 ^ 64 % 5 = 0 then 1 else 0 :=
    Nat.count_succ ..
  by_cases hfifth : (n + 1) % 2 ^ 64 % 5 = 0
  · rw [if_pos hfifth] at hmoves
    obtain ⟨h', w, hset, hw, hwrites, hsame⟩ := hready.setCap hfits hS.same (moves n + 1)
    have hnext := capAt_succ wattCap (moves n)
    have hdir := nextDir_eq wattCap (capMoves wattCap (moves n))
    rw [← hS.watts, ← hS.pollDir] at hnext
    refine ⟨{ S with
        wrapper := { S.wrapper with host := h' }
        watts := capAt wattCap (moves n + 1)
        pollDir := nextDir wattCap S.watts S.pollDir }, [w], ?_, rfl,
      ⟨hsame, ?_, ?_, hnum, ?_, ?_, ?_⟩⟩
    · simp only [moveCap, if_pos (hpoll.mpr hfifth), hnext, hset, Option.bind_eq_bind,
        Option.bind_some]
    · rw [hmoves]
    · rw [hmoves, capMoves_succ, ← hdir, hS.watts, hS.pollDir]
      rfl
    · rw [List.length_append, hS.length, hmoves]
      rfl
    · rw [List.flatMap_append, List.flatMap_singleton, ← List.append_assoc, ← hS.writes]
      exact hwrites
    · intro k w' hk
      by_cases hlt : k < words.length
      · rw [List.getElem?_append_left hlt] at hk
        exact hS.carries k w' hk
      · -- the word of this round is the last one
        obtain ⟨hk', hw'⟩ := List.getElem?_eq_some_iff.mp hk
        have hlen := hS.length
        obtain rfl : k = moves n + 1 := by
          rw [List.length_append, List.length_singleton] at hk'
          omega
        rw [← hlen, List.getElem?_concat_length] at hk
        rw [← Option.some.inj hk]
        exact hw
  · rw [if_neg hfifth, Nat.add_zero] at hmoves
    refine ⟨S, [], ?_, rfl, ⟨hS.same, ?_, ?_, hnum, ?_, ?_, ?_⟩⟩
    · rw [moveCap, if_neg (mt hpoll.mp hfifth)]
    · rw [hmoves]
      exact hS.watts
    · rw [hmoves]
      exact hS.pollDir
    · rw [List.append_nil, hmoves]
      exact hS.length
    · rw [List.append_nil]
      exact hS.writes
    · rw [List.append_nil]
      exact hS.carries

/-- **Run lemma.**  Rounds at moments with limits set. -/
theorem powerSetRounds {ms : List Moment} (hms : ∀ m ∈ ms, m.Limited R) {S : PowerSetter K}
    {prev : Option Moment} {n : Nat} {words : List Word}
    (hE : Metered R pick raw h S.wrapper.energy prev) (hS : CapState R raw h wattCap S n words) :
    ∃ S' words', Runs.run (powerSetRound R drv fd wattCap) S ms = some S' ∧
      CapState R raw h wattCap S' (n + ms.length) (words ++ words') := by
  induction ms generalizing S prev n words with
  | nil =>
    refine ⟨S, [], rfl, ?_⟩
    rw [List.append_nil]
    exact hS
  | cons m ms ih =>
    obtain ⟨W, r, hmeasure, -, -, -, hE₁, hsame₁, -, hwrites₁⟩ :=
      takeMeasurement_spec hready hS.same hE (hms m (List.mem_cons_self ..))
    -- a measurement leaves the thread's own state and the writes alone
    have hS₁ : CapState R raw h wattCap { S with wrapper := W } n words :=
      ⟨hsame₁, hS.watts, hS.pollDir, hS.pollNum, hS.length, hwrites₁.trans hS.writes, hS.carries⟩
    obtain ⟨S₂, words₂, hmove, henergy, hS₂⟩ := moveCap_spec hready hfits hS₁
    have hE₂ : Metered R pick raw h S₂.wrapper.energy (some m) := by
      rw [henergy]
      exact hE₁
    obtain ⟨S', words', hrun, hS'⟩ := ih (fun m' hm' => hms m' (List.mem_cons_of_mem _ hm'))
      (S := { S₂ with pollNum := S₂.pollNum + 1 }) hE₂ hS₂
    refine ⟨S', words₂ ++ words', ?_, ?_⟩
    · rw [Runs.run_cons]
      simp only [powerSetRound, hmeasure, hmove, Option.bind_eq_bind, Option.bind_some]
      exact hrun
    · rw [← List.append_assoc, List.length_cons]
      have hn : n + (ms.length + 1) = n + 1 + ms.length := by omega
      rw [hn]
      exact hS'

/-- **The cap over a run** of the thread that moves it.  It writes one word to both
    sockets at the start and at every fifth poll, which carries the cap after so many
    moves, and every limit is at most what was asked for exactly if that was above 30
    watts or there were fewer than five polls. -/
theorem powerCap_run {E : EnergyState K} (hE : E.Fresh) {ms : List Moment}
    (hms : ∀ m ∈ ms, m.Limited R) :
    ∃ (S₀ S' : PowerSetter K) (words : List Word),
      powerSetStart R wattCap (Powmon.start E h) = some S₀ ∧
      Runs.run (powerSetRound R drv fd wattCap) S₀ ms = some S' ∧
      S'.wrapper.host.writes = h.writes ++ words.flatMap (capWrites R) ∧
      words.length = moves ms.length + 1 ∧
      (∀ k w, words[k]? = some w →
        CarriesBounds (raw 0) (capAt wattCap k) (capAt wattCap k) w) ∧
      ((∀ w ∈ words, decodedWatts (.ofMsr (raw 0)) w 0 ≤ wattCap ∧
        decodedWatts (.ofMsr (raw 0)) w 32 ≤ wattCap) ↔ 30 < wattCap ∨ ms.length < 5) := by
  obtain ⟨S₀, w₀, hstart, henergy, hS₀⟩ := powerSetStart_spec hready hfits
    (S := Powmon.start E h) (.refl h) rfl
  have hE₀ : Metered R pick raw h S₀.wrapper.energy none := by
    rw [henergy]
    exact hE
  obtain ⟨S', words, hrun, hS'⟩ := powerSetRounds hready hfits hms hE₀ hS₀
  rw [Nat.zero_add] at hS'
  generalize hwords : [w₀] ++ words = words at hS'
  have hdecoded : ∀ k w, words[k]? = some w → ∀ offset, offset = 0 ∨ offset = 32 →
      decodedWatts (.ofMsr (raw 0)) w offset ≤ capAt wattCap k ∧
        capAt wattCap k < decodedWatts (.ofMsr (raw 0)) w offset + 1 / 2 ^ powerUnit (raw 0) :=
    fun k w hk offset hoff => (hS'.carries k w hk).decoded (hfits.boundsFit k) hoff
  refine ⟨S₀, S', words, hstart, hrun, hS'.writes, hS'.length, hS'.carries, ?_, ?_⟩
  · -- with a low cap the first move goes up
    intro hall
    by_contra hneg
    rw [not_or, not_lt, not_lt] at hneg
    have hlen := hS'.length
    have hpos := (moves_pos_iff ms.length).mpr hneg.2
    have hone : words[1]? = some words[1] := List.getElem?_eq_getElem (by omega)
    have hfirst := (hdecoded 1 _ hone 0 (Or.inl rfl)).2
    rw [(capAt_low hneg.1 0).2.2] at hfirst
    have hcap := (hall _ (List.mem_of_getElem? hone)).1
    have hunit : 1 / 2 ^ powerUnit (raw 0) ≤ (1 : K) := by
      rw [div_le_one (pow_pos two_pos _)]
      exact one_le_pow₀ one_le_two
    linarith
  · intro hcases w hw
    obtain ⟨k, hk⟩ := List.mem_iff_getElem?.mp hw
    have hle : capAt wattCap k ≤ wattCap := by
      rcases hcases with hcap | hfew
      · exact (capAt_bounds hcap k).2
      · -- without a move there is only the first word
        have hnone : moves ms.length = 0 := by
          have := (moves_pos_iff ms.length).not.mpr (by omega)
          omega
        have hlen := hS'.length
        obtain ⟨hk', -⟩ := List.getElem?_eq_some_iff.mp hk
        obtain rfl : k = 0 := by omega
        simp [capAt, capMoves]
    exact ⟨(hdecoded k w hk 0 (Or.inl rfl)).1.trans hle,
      (hdecoded k w hk 32 (Or.inr rfl)).1.trans hle⟩

end Run

end PowerCap

/-- With 25 watts asked for, five polls end above it. -/
theorem twoSockets_powerCap :
    ∃ (S₀ S' : PowerSetter ℚ) (words : List Word),
      powerSetStart twoSocketRapl 25 (Powmon.start freshState (.opened 2)) = some S₀ ∧
      Runs.run (powerSetRound twoSocketRapl .inOrder 3 25) S₀
        (List.replicate 5 (counterMoment 1 1000)) = some S' ∧
      S'.wrapper.host.writes = (Host.opened 2).writes ++ words.flatMap (capWrites twoSocketRapl) ∧
      words.length = moves 5 + 1 ∧
      (∀ k w, words[k]? = some w →
        CarriesBounds 0xA1003 (capAt (25 : ℚ) k) (capAt (25 : ℚ) k) w) ∧
      ((∀ w ∈ words, decodedWatts (.ofMsr 0xA1003) w 0 ≤ (25 : ℚ) ∧
        decodedWatts (.ofMsr 0xA1003) w 32 ≤ (25 : ℚ)) ↔ 30 < (25 : ℚ) ∨ 5 < 5) := by
  have hunit : powerUnit 0xA1003 = 3 := by decide
  refine powerCap_run twoSocketRapl_ready ⟨by norm_num, ?_⟩ freshState_fresh ?_
  · rw [hunit]
    norm_num
  · intro m hm
    rw [List.eq_of_mem_replicate hm]
    exact counterMoment_limited _ _

end Libmsr
