/-
  Libmsr.Rapl.EnergyRuns

  Energy deltas over whole runs of `poll_rapl_data`, from the state `rapl_init`
  leaves behind.

  - `run_measures`: after every poll the state holds that poll's readings.
  - `pkgDeltas_exact_iff`, `dramDelta_exact_iff`: when the deltas are the energy
    that the counters counted.
-/
import Libmsr.Core.BatchPaths
import Libmsr.Lib.Runs
import Libmsr.Rapl.EnergyExact
import Libmsr.Rapl.LimitEncoding

namespace Libmsr

open WrapCounter

section EnergyRuns

variable {K : Type} [Field K] [LinearOrder K] [IsStrictOrderedRing K] [FloorRing K]

/-! ## Runs -/

/-- The state after the polls `0` to `i`. -/
def stateAfter (R : RaplSetup K) (drv : BatchDriver) (fd : Int) (S : EnergyState K)
    (polls : List Poll) (i : Nat) : Option (EnergyState K) :=
  Runs.run (pollRaplData R drv fd) S (polls.take (i + 1))

/-- `rapl->pkg_delta_joules[s]` after poll `i`. -/
def pkgDeltaAfter (R : RaplSetup K) (drv : BatchDriver) (fd : Int) (S : EnergyState K)
    (polls : List Poll) (i s : Nat) : Option K :=
  (stateAfter R drv fd S polls i).bind fun S' => S'.rapl.pkgDeltaAt s

/-- `rapl->dram_delta_joules[s]` after poll `i`. -/
def dramDeltaAfter (R : RaplSetup K) (drv : BatchDriver) (fd : Int) (S : EnergyState K)
    (polls : List Poll) (i s : Nat) : Option K :=
  (stateAfter R drv fd S polls i).bind fun S' => S'.rapl.dramDeltaAt s

/-- The flags announce the energy counters of both domains. -/
def EnergyAnnounced (flags : Word) : Prop :=
  announces flags pkgEnergyStatus = true ∧ announces flags dramEnergyStatus = true

/-- A run of polls after initialisation on a machine that works: every socket
    has a CPU and its units, nothing has been measured yet, and every poll can
    read the counters. -/
structure PollRun (R : RaplSetup K) (pick : Nat → Nat) (raw : Nat → Word) (drv : BatchDriver)
    (fd : Int) (S : EnergyState K) (polls : List Poll) : Prop where
  cpus : SocketCpus R pick
  units : HasUnits R raw
  fresh : S.Fresh
  ready : ∀ p, p ∈ polls → PollReady R pick drv fd p

section Run

variable {R : RaplSetup K} {pick : Nat → Nat} {raw : Nat → Word} {drv : BatchDriver} {fd : Int}
  {S : EnergyState K} {polls : List Poll} (hrun : PollRun R pick raw drv fd S polls)
include hrun

/-- **Run lemma.**  After poll `i` the state holds the readings of poll `i`. -/
theorem run_measures (hann : EnergyAnnounced R.flags) (hpos : 0 < R.cfg.sockets) {i : Nat}
    {p : Poll} (hp : polls[i]? = some p) :
    ∃ S', stateAfter R drv fd S polls i = some S' ∧ Measures R pick raw S' p := by
  unfold stateAfter
  induction i generalizing p with
  | zero =>
    obtain ⟨S', hstep, hS'⟩ := pollRaplData_first hrun.cpus hrun.units hann.1 hann.2 hpos hrun.fresh
      (hrun.ready p (List.mem_of_getElem? hp))
    refine ⟨S', ?_, hS'⟩
    rw [Runs.run_take_succ _ hp, List.take_zero, Runs.run_nil, Option.bind_some, hstep]
  | succ i ih =>
    have hlt : i < polls.length := Nat.lt_of_succ_lt (List.getElem?_eq_some_iff.mp hp).1
    obtain ⟨S₁, hbefore, hS₁⟩ := ih (List.getElem?_eq_getElem hlt)
    obtain ⟨S', hstep, hS', -⟩ := pollRaplData_step hrun.cpus hrun.units hann.1 hann.2 hS₁
      (hrun.ready p (List.mem_of_getElem? hp))
    refine ⟨S', ?_, hS'⟩
    rw [Runs.run_take_succ _ hp, hbefore, Option.bind_some, hstep]

/-- From the second poll on, the deltas are those of two consecutive readings. -/
theorem run_deltas (hann : EnergyAnnounced R.flags) {i s : Nat} (hs : s < R.cfg.sockets)
    {p p' : Poll} (hp : polls[i]? = some p) (hp' : polls[i + 1]? = some p') :
    pkgDeltaAfter R drv fd S polls (i + 1) s = some (pkgDeltaJoules (unitsPerJoule (raw s))
      (p.pkgReading pick s) (p'.pkgReading pick s)) ∧
    dramDeltaAfter R drv fd S polls (i + 1) s =
      some (dramDeltaJoules (dramUnitsPerJoule R.model (raw s)) (p.dramReading pick s)
        (p'.dramReading pick s)) := by
  obtain ⟨S₁, hbefore, hS₁⟩ := run_measures hrun hann (Nat.lt_of_le_of_lt (Nat.zero_le s) hs) hp
  obtain ⟨S', hstep, -, hdeltas⟩ := pollRaplData_step hrun.cpus hrun.units hann.1 hann.2 hS₁
    (hrun.ready p' (List.mem_of_getElem? hp'))
  have hafter : stateAfter R drv fd S polls (i + 1) = some S' := by
    unfold stateAfter at hbefore ⊢
    rw [Runs.run_take_succ _ hp', hbefore, Option.bind_some, hstep]
  rw [pkgDeltaAfter, dramDeltaAfter, hafter]
  exact hdeltas s hs

omit [IsStrictOrderedRing K] in
/-- Without both energy counters no poll has an outcome. -/
theorem run_absent (hann : ¬ EnergyAnnounced R.flags) (hpos : 0 < R.cfg.sockets)
    (hne : polls ≠ []) (i : Nat) : stateAfter R drv fd S polls i = none := by
  have habsent : announces R.flags pkgEnergyStatus = false ∨
      announces R.flags dramEnergyStatus = false := by
    rw [EnergyAnnounced, not_and_or, Bool.not_eq_true, Bool.not_eq_true] at hann
    exact hann
  obtain ⟨p, rest, rfl⟩ := List.exists_cons_of_ne_nil hne
  rw [stateAfter, List.take_succ_cons, Runs.run_cons,
    pollRaplData_absent hpos hrun.fresh habsent drv fd p, Option.bind_none]

/-- The package delta of two consecutive polls between which the counter
    advances by `n` units. -/
theorem pkgDeltaAfter_exact_iff {i s : Nat} (hs : s < R.cfg.sockets)
    {p p' : Poll} (hp : polls[i]? = some p) (hp' : polls[i + 1]? = some p') {total total' : Nat}
    (hle : total ≤ total') (hadv : total' - total < 2 ^ 32)
    (hold : p.pkgReading pick s = counterWord total)
    (hnew : p'.pkgReading pick s = counterWord total') :
    pkgDeltaAfter R drv fd S polls (i + 1) s =
        some (((total' - total : Nat) : K) / (2 ^ energyUnit (raw s) : Nat)) ↔
      EnergyAnnounced R.flags ∧ PkgExact (raw s) total total' := by
  by_cases hann : EnergyAnnounced R.flags
  · rw [(run_deltas hrun hann hs hp hp').1, Option.some_inj, hold, hnew,
      Nat.cast_pow, Nat.cast_ofNat, pkgDeltaJoules_exact_iff hle hadv, and_iff_right hann]
  · have hne : polls ≠ [] := List.ne_nil_of_mem (List.mem_of_getElem? hp)
    rw [pkgDeltaAfter, run_absent hrun hann (Nat.lt_of_le_of_lt (Nat.zero_le s) hs) hne]
    exact iff_of_false (by simp) fun h => hann h.1

end Run

/-! ## The package counter -/

/-- The readings are those of a counter that has counted `total i` units by
    reading `i`, fewer than `2 ^ 32` between two readings. -/
structure Counts (readings : List Word) (total : Nat → Nat) : Prop where
  le : ∀ i, total i ≤ total (i + 1)
  advance : ∀ i, total (i + 1) - total i < 2 ^ 32
  shows : ∀ i w, readings[i]? = some w → w = counterWord (total i)

/-- From the second poll on, every package delta is the energy counted since the
    poll before, and the deltas of every stretch of polls add up to the energy
    counted over the stretch. -/
def PkgDeltasExact (R : RaplSetup K) (drv : BatchDriver) (fd : Int) (S : EnergyState K)
    (polls : List Poll) (s : Nat) (raw : Word) (total : Nat → Nat) : Prop :=
  (∀ i, i + 1 < polls.length → pkgDeltaAfter R drv fd S polls (i + 1) s =
    some (((total (i + 1) - total i : Nat) : K) / (2 ^ energyUnit raw : Nat))) ∧
  ∀ i n, i + n < polls.length →
    ∑ k ∈ Finset.range n, (pkgDeltaAfter R drv fd S polls (i + k + 1) s).getD 0 =
      ((total (i + n) - total i : Nat) : K) / (2 ^ energyUnit raw : Nat)

section ExactDeltas

variable {R : RaplSetup K} {pick : Nat → Nat} {raw : Nat → Word} {drv : BatchDriver} {fd : Int}
  {S : EnergyState K} {polls : List Poll} (hrun : PollRun R pick raw drv fd S polls) {s : Nat}
  (hs : s < R.cfg.sockets)
include hrun hs

/-- **Package deltas over a run** are the energy counted if and only if both
    counters are there and no interval between two polls has a wraparound (or,
    with the unit `1 << 31`, any advance). -/
theorem pkgDeltas_exact_iff {total : Nat → Nat}
    (hcount : Counts (polls.map fun p => p.pkgReading pick s) total) :
    PkgDeltasExact R drv fd S polls s (raw s) total ↔
      ∀ i, i + 1 < polls.length →
        EnergyAnnounced R.flags ∧ PkgExact (raw s) (total i) (total (i + 1)) := by
  have hshows : ∀ i (hi : i < polls.length),
      polls[i].pkgReading pick s = counterWord (total i) := by
    intro i hi
    refine hcount.shows i _ ?_
    rw [List.getElem?_map, List.getElem?_eq_getElem hi, Option.map_some]
  have hdelta : ∀ i, i + 1 < polls.length →
      (pkgDeltaAfter R drv fd S polls (i + 1) s =
          some (((total (i + 1) - total i : Nat) : K) / (2 ^ energyUnit (raw s) : Nat)) ↔
        EnergyAnnounced R.flags ∧ PkgExact (raw s) (total i) (total (i + 1))) := by
    intro i hi
    have hi' : i < polls.length := Nat.lt_of_succ_lt hi
    exact pkgDeltaAfter_exact_iff hrun hs (List.getElem?_eq_getElem hi')
      (List.getElem?_eq_getElem hi) (hcount.le i) (hcount.advance i) (hshows i hi')
      (hshows (i + 1) hi)
  constructor
  · intro hexact i hi
    exact (hdelta i hi).mp (hexact.1 i hi)
  · intro hcond
    have hall : ∀ i, i + 1 < polls.length → pkgDeltaAfter R drv fd S polls (i + 1) s =
        some (((total (i + 1) - total i : Nat) : K) / (2 ^ energyUnit (raw s) : Nat)) :=
      fun i hi => (hdelta i hi).mpr (hcond i hi)
    refine ⟨hall, fun i n hin => ?_⟩
    refine sum_advances hcount.le (fun j => (pkgDeltaAfter R drv fd S polls j s).getD 0) _ i n
      fun k hk => ?_
    rw [hall (i + k) (by omega), Option.getD_some]

/-! ## The DRAM counter -/

/-- **Every DRAM delta** of two consecutive polls between which the counter
    advances by `n` units is the energy counted if and only if both counters are
    there and the interval is `DramExact`. -/
theorem dramDelta_exact_iff {i : Nat} {p p' : Poll} (hp : polls[i]? = some p)
    (hp' : polls[i + 1]? = some p') {total n : Nat} (hn : n < 2 ^ 32)
    (hold : p.dramReading pick s = counterWord total)
    (hnew : p'.dramReading pick s = counterWord (total + n)) :
    dramDeltaAfter R drv fd S polls (i + 1) s = some ((n : K) / dramUnit R.model (raw s)) ↔
      EnergyAnnounced R.flags ∧ DramExact R.model (raw s) total (total + n) := by
  have hsub : total + n - total = n := Nat.add_sub_cancel_left total n
  by_cases hann : EnergyAnnounced R.flags
  · have hone := dramDeltaJoules_exact_iff (K := K) (Nat.le_add_right total n) (by omega) R.model
      (raw s)
    rw [hsub] at hone
    rw [(run_deltas hrun hann hs hp hp').2, Option.some_inj, hold, hnew, hone, and_iff_right hann]
  · have hne : polls ≠ [] := List.ne_nil_of_mem (List.mem_of_getElem? hp)
    rw [dramDeltaAfter, run_absent hrun hann (Nat.lt_of_le_of_lt (Nat.zero_le s) hs) hne]
    exact iff_of_false (by simp) fun h => hann h.1

end ExactDeltas

end EnergyRuns

/-! ## One socket -/

/-- The state `rapl_init` leaves behind. -/
def freshState : EnergyState ℚ where
  st := .init
  rapl := ⟨⟨0, 0⟩, ⟨0, 0⟩, 0, none, none, none, none⟩
  readInit := false
  deltaInit := false

/-- A poll at second `sec`, when every counter has counted `total` units. -/
def counterPoll (sec : Int) (total : Nat) : Poll where
  host := { Host.opened 1 with regs := fun _ _ => counterWord total }
  now := ⟨sec, 0⟩

theorem oneSocket_run (sec sec' : Int) (total total' : Nat) :
    PollRun oneSocket (fun _ => 0) (fun _ => 0xA1003) .inOrder 3 freshState
      [counterPoll sec total, counterPoll sec' total'] := by
  have hready : ∀ sec total,
      PollReady oneSocket (fun _ => 0) .inOrder 3 (counterPoll sec total) := by
    intro sec total
    refine ⟨⟨fun _ => inOrder_spec, ?_, by decide, ?_⟩, ?_⟩
    · exact ⟨(Host.opened_ready 1).length, (Host.opened_ready 1).entry⟩
    · intro cpu hcpu msr
      exact ⟨decide_eq_true hcpu, decide_eq_true hcpu⟩
    · intro s hs msr _
      rfl
  refine ⟨⟨by decide, fun s hs => Nat.one_pos, ?_⟩, ?_, ?_, ?_⟩
  · intro s hs
    obtain rfl : s = 0 := Nat.lt_one_iff.mp hs
    rfl
  · intro s hs
    obtain rfl : s = 0 := Nat.lt_one_iff.mp hs
    rfl
  · exact ⟨BatchStorage.init_sized, rfl, rfl, rfl, rfl, rfl⟩
  · intro p hp
    rcases List.mem_pair.mp hp with rfl | rfl
    · exact hready sec total
    · exact hready sec' total'

/-- The totals of a counter that is read twice. -/
def twoTotals (total total' : Nat) : Nat → Nat
  | 0 => total
  | _ => total'

theorem twoTotals_counts {sec sec' : Int} {total total' : Nat} (hle : total ≤ total')
    (hadv : total' - total < 2 ^ 32) :
    Counts ([counterPoll sec total, counterPoll sec' total'].map fun p =>
      p.pkgReading (fun _ => 0) 0) (twoTotals total total') := by
  refine ⟨fun i => ?_, fun i => ?_, fun i w hw => ?_⟩
  · cases i with
    | zero => exact hle
    | succ i => exact Nat.le_refl _
  · cases i with
    | zero => exact hadv
    | succ i =>
      show total' - total' < 2 ^ 32
      omega
  · match i with
    | 0 => exact (Option.some.inj hw).symm
    | 1 => exact (Option.some.inj hw).symm
    | _ + 2 => cases hw

/-- The deltas after the second of two polls. -/
theorem oneSocket_deltas (total total' : Nat) :
    pkgDeltaAfter oneSocket .inOrder 3 freshState [counterPoll 1 total, counterPoll 2 total'] 1 0 =
        some (pkgDeltaJoules (unitsPerJoule 0xA1003) (counterWord total) (counterWord total')) ∧
      dramDeltaAfter oneSocket .inOrder 3 freshState [counterPoll 1 total, counterPoll 2 total'] 1
          0 =
        some (dramDeltaJoules (dramUnitsPerJoule 0x2D 0xA1003) (counterWord total)
          (counterWord total')) :=
  run_deltas (oneSocket_run 1 2 total total') ⟨by decide, by decide⟩ Nat.one_pos
    (show [counterPoll 1 total, counterPoll 2 total'][0]? = some (counterPoll 1 total) from rfl)
    (show [counterPoll 1 total, counterPoll 2 total'][0 + 1]? = some (counterPoll 2 total') from
      rfl)

/-- 250 units without wraparound are measured. -/
theorem countUp_pkgExact :
    PkgDeltasExact oneSocket .inOrder 3 freshState [counterPoll 1 100, counterPoll 2 350] 0 0xA1003
      (twoTotals 100 350) := by
  refine (pkgDeltas_exact_iff (oneSocket_run 1 2 100 350) (by omega : 0 < 1)
    (twoTotals_counts (by omega) (by omega))).mpr fun i hi => ?_
  obtain rfl : i = 0 := by
    rw [List.length_cons, List.length_cons, List.length_nil] at hi
    omega
  exact ⟨⟨by decide, by decide⟩, by decide, Or.inl (by decide)⟩

/-- One unit from the top of the counter to 0 counts as none. -/
theorem lastUnit_lost :
    PollRun oneSocket (fun _ => 0) (fun _ => 0xA1003) .inOrder 3 freshState
        [counterPoll 1 (2 ^ 32 - 1), counterPoll 2 (2 ^ 32)] ∧
      pkgDeltaAfter oneSocket .inOrder 3 freshState
        [counterPoll 1 (2 ^ 32 - 1), counterPoll 2 (2 ^ 32)] 1 0 = some 0 ∧
      ¬ PkgDeltasExact oneSocket .inOrder 3 freshState
        [counterPoll 1 (2 ^ 32 - 1), counterPoll 2 (2 ^ 32)] 0 0xA1003
        (twoTotals (2 ^ 32 - 1) (2 ^ 32)) := by
  have hzero : pkgDeltaAfter oneSocket .inOrder 3 freshState
      [counterPoll 1 (2 ^ 32 - 1), counterPoll 2 (2 ^ 32)] 1 0 = some 0 := by
    rw [(oneSocket_deltas _ _).1, pkgDeltaJoules_wrapped (by omega) (by omega) _ (by decide)]
    norm_num
  refine ⟨oneSocket_run 1 2 _ _, hzero, fun hexact => ?_⟩
  have hone := (hexact.1 0 (by decide)).symm.trans hzero
  rw [Option.some_inj, div_eq_zero_iff] at hone
  rcases hone with h | h
  · exact absurd (Nat.cast_eq_zero.mp h) (by decide)
  · exact absurd (Nat.cast_eq_zero.mp h) (Nat.two_pow_pos _).ne'

/-- 250 units of DRAM energy without wraparound are measured. -/
theorem countUp_dramExact :
    dramDeltaAfter oneSocket .inOrder 3 freshState [counterPoll 1 100, counterPoll 2 350] 1 0 =
      some (((250 : Nat) : ℚ) / (dramUnit 0x2D 0xA1003 : ℚ)) := by
  have hexact : DramExact 0x2D 0xA1003 100 (100 + 250) := by
    rw [DramExact, if_pos (by decide)]
    decide
  exact (dramDelta_exact_iff (oneSocket_run 1 2 100 350) (by omega : 0 < 1)
    (show [counterPoll 1 100, counterPoll 2 350][0]? = some (counterPoll 1 100) from rfl)
    (show [counterPoll 1 100, counterPoll 2 350][0 + 1]? = some (counterPoll 2 350) from rfl)
    (by omega) rfl rfl).mpr ⟨⟨by decide, by decide⟩, hexact⟩

/-- One DRAM unit from the top of the counter to 0 counts as more than four
    billion joules. -/
theorem lastDramUnit_explodes :
    PollRun oneSocket (fun _ => 0) (fun _ => 0xA1003) .inOrder 3 freshState
        [counterPoll 1 (2 ^ 32 - 1), counterPoll 2 (2 ^ 32)] ∧
      ∃ delta, dramDeltaAfter oneSocket .inOrder 3 freshState
        [counterPoll 1 (2 ^ 32 - 1), counterPoll 2 (2 ^ 32)] 1 0 = some delta ∧
      4000000000 < delta ∧ delta ≠ ((1 : Nat) : ℚ) / (dramUnit 0x2D 0xA1003 : ℚ) := by
  have hunit : dramUnit 0x2D 0xA1003 = 65536 := by decide
  have hold : (counterWord (2 ^ 32 - 1)).toNat = 2 ^ 32 - 1 := by decide
  have hnew : (counterWord (2 ^ 32)).toNat = 0 := by decide
  have hdelta : dramDeltaJoules (65536 : ℚ) (counterWord (2 ^ 32 - 1)) (counterWord (2 ^ 32)) =
      (2 ^ 32 - 1) - (2 ^ 32 - 1) / 65536 := by
    rw [dramDeltaJoules, hold, hnew, maxJoules, if_pos (by norm_num)]
    norm_num
  refine ⟨oneSocket_run 1 2 _ _, _, (oneSocket_deltas _ _).2, ?_⟩
  rw [dramUnitsPerJoule_eq (Or.inr (by decide)), hunit, Nat.cast_ofNat, hdelta]
  constructor
  · norm_num
  · norm_num

end Libmsr
