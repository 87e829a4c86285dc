/-
  Libmsr.Counters.PmcClear

  What `clear_pmc` clears, for every index and every content of the buffer, compared
  with the loop of `clear_all_pmc`.

  The index is compared with the number of counters, it is the case at which the
  switch over the counters is entered, and it is the processor.  So of processor `i`
  the counters below `i` are cleared, if there are more than `i`.
-/
import Libmsr.Counters.PmcControl

namespace Libmsr

/-! ## Clearing counters of one thread -/

section Clear

variable {cfg : CoreConfig} {avail msr0 id : Nat} {arrays : RegArrays} {w : BatchWorld}
  {data : Nat → Nat → Word}

/-- Entering the switch at `j` clears the counters below `j`. -/
theorem RegTable.clearCounters
    (h : RegTable (pmcLayout cfg avail msr0) arrays w.st countersDataBatch id data)
    {j t : Nat} (hj : j ≤ 8) (hle : j ≤ avail) (ht : t < cfg.numDevs) :
    ∃ w', clearCounters arrays j w t = some w' ∧
      RegTable (pmcLayout cfg avail msr0) arrays w'.st countersDataBatch id
        (fun k t' => if t' = t ∧ k < j then 0 else data k t') ∧
      w'.host = w.host := by
  obtain ⟨w', hw', htable, hhost, -⟩ := h.storeColumn
    (fun k hk => ((mem_fallThrough hj).mp hk).trans_le hle) ht 0
  refine ⟨w', hw', htable.congr fun k t' _ _ => ?_, hhost⟩
  simp only [mem_fallThrough hj]

/-- Clearing nothing. -/
theorem clearCounters_nil {n : Int} (h : fallThrough n = []) (i : Nat) :
    clearCounters arrays n w i = some w := by
  rw [clearCounters, h]
  rfl

variable (arrays w) in
/-- Where the first array that is reached is missing or has no such element. -/
theorem clearCounters_none {n : Nat} (hpos : 1 ≤ n) (hle : n ≤ 8) {i : Nat}
    (hnull : ∀ val, arrays (n - 1) = some val → ptrAt val i = none) :
    clearCounters arrays n w i = none := by
  obtain ⟨m, rfl⟩ : ∃ m, n = m + 1 := ⟨n - 1, by omega⟩
  rw [clearCounters, fallThrough_eq hpos hle, List.foldlM_map, List.range_succ_eq_map,
    List.foldlM_cons]
  have hfirst : w.storeAt countersDataBatch arrays 0 (m + 1 - 1 - 0) i = none := by
    rw [BatchWorld.storeAt]
    cases hval : arrays (m + 1 - 1 - 0) with
    | none => rfl
    | some val =>
      have hptr := hnull val hval
      rw [Option.bind_eq_bind, Option.bind_some, BatchWorld.modify, hptr]
      rfl
  rw [hfirst]
  rfl

end Clear

/-! ## What is required -/

/-- `pmc_storage` has run: the counters' arrays are loaded, and the buffer holds `data`;
    or there is no case for their number, and no array is allocated. -/
structure PmcReady (P : Platform) (rax : Word) (s : PmcState) (data : Nat → Nat → Word) :
    Prop where
  init : s.pmcInit = true
  loaded : 1 ≤ cpuidNumPmc rax → cpuidNumPmc rax ≤ 8 → ∃ id, PmcLoaded P rax s id data
  null : ¬ (1 ≤ cpuidNumPmc rax ∧ cpuidNumPmc rax ≤ 8) → ∀ k, s.pmc k = none

/-- Counter `k` of processor `t` in the buffer. -/
def PmcState.counter (s : PmcState) (k t : Nat) : Option Word :=
  s.world.loadAt countersDataBatch s.pmc k t

/-- What `clear_pmc` has to do: clear all counters of an existing processor and no
    others, and refuse any other index. -/
def ClearsPmc (P : Platform) (rax : Word) (s : PmcState) (i : Int) : Prop :=
  ∃ rc s', clearPmc P rax s i = some (rc, s') ∧
    if 0 ≤ i ∧ i < P.cfg.numDevs then
      rc = 0 ∧ (∀ k, k < cpuidNumPmc rax → s'.counter k i.toNat = some 0) ∧
        ∀ k t, k < cpuidNumPmc rax → t < P.cfg.numDevs → t ≠ i.toNat →
          s'.counter k t = s.counter k t
    else rc = -1 ∧ s' = s

/-- `clear_pmc` for every processor in turn. -/
def clearEach (P : Platform) (rax : Word) (s : PmcState) : Option PmcState :=
  (List.range P.cfg.numDevs).foldlM (fun s (i : Nat) => (clearPmc P rax s i).map Prod.snd) s

/-- It leaves the buffer that the loop of `clear_all_pmc` leaves. -/
def ClearsLikeAll (P : Platform) (rax : Word) (s : PmcState) : Prop :=
  ∃ s' w', clearEach P rax s = some s' ∧ clearAllLoop P rax s = some w' ∧
    ∀ k t, k < cpuidNumPmc rax → t < P.cfg.numDevs →
      s'.counter k t = w'.loadAt countersDataBatch s.pmc k t

/-- The condition for one call: an existing processor has a number below that of the
    counters, which are at most eight, and those from this number on are 0 already; any
    other index is not below the number of counters. -/
def ClearsAt (n avail : Nat) (data : Nat → Nat → Word) (i : Int) : Prop :=
  if 0 ≤ i ∧ i < n then
    i < avail ∧ avail ≤ 8 ∧ ∀ k, i.toNat ≤ k → k < avail → data k i.toNat = 0
  else avail ≤ i

/-- The condition for all calls: where the counters are loaded, of each processor those
    are 0 that its call does not reach; where they are not, there is one processor. -/
def ClearsEachAt (n avail : Nat) (data : Nat → Nat → Word) : Prop :=
  (avail ≤ 8 → ∀ k t, k < avail → t < n → t ≤ k ∨ avail ≤ t → data k t = 0) ∧
    (8 < avail → n ≤ 1)

/-! ## One call -/

section Call

variable {P : Platform} {rax : Word} {s : PmcState} {id : Nat} {data : Nat → Nat → Word}

theorem PmcLoaded.counter (h : PmcLoaded P rax s id data) {k t : Nat} (hk : k < cpuidNumPmc rax)
    (ht : t < P.cfg.numDevs) : s.counter k t = some (data k t) :=
  h.table.loadAt hk ht

theorem clearPmc_ge (hinit : s.pmcInit = true) {i : Int} (hi : (cpuidNumPmc rax : Int) ≤ i) :
    clearPmc P rax s i = some (-1, s) := by
  rw [clearPmc, pmcStorage_init hinit, Option.bind_eq_bind, Option.bind_some, if_neg (by omega)]

theorem clearPmc_lt (hinit : s.pmcInit = true) {i : Int} (hi : i < cpuidNumPmc rax) :
    clearPmc P rax s i =
      (clearCounters s.pmc i s.world i.toNat).map fun w => (0, { s with world := w }) := by
  rw [clearPmc, pmcStorage_init hinit, Option.bind_eq_bind, Option.bind_some, if_pos hi]
  cases clearCounters s.pmc i s.world i.toNat <;> rfl

/-- Of a processor with a number below that of the counters those below its number are
    cleared. -/
theorem PmcLoaded.clearPmc (h : PmcLoaded P rax s id data) (hle : cpuidNumPmc rax ≤ 8) {i : Nat}
    (hi : i < cpuidNumPmc rax) (hn : i < P.cfg.numDevs) :
    ∃ s', clearPmc P rax s i = some (0, s') ∧
      PmcLoaded P rax s' id (fun k t => if t = i ∧ k < i then 0 else data k t) ∧
      s'.pmc = s.pmc := by
  obtain ⟨w', hw', htable, -⟩ := h.table.clearCounters (by omega) hi.le hn
  refine ⟨{ s with world := w' }, ?_, ⟨h.init, htable, h.null⟩, rfl⟩
  rw [clearPmc_lt h.init (by omega), Int.toNat_natCast, hw']
  rfl

/-- An index that is below the number of counters and no processor. -/
theorem PmcReady.not_clearsPmc (h : PmcReady P rax s data) {i : Int}
    (hout : ¬ (0 ≤ i ∧ i < P.cfg.numDevs)) (hi : i < cpuidNumPmc rax) :
    ¬ ClearsPmc P rax s i := by
  rintro ⟨rc, s', hs', hrc⟩
  rw [if_neg hout] at hrc
  rw [clearPmc_lt h.init hi, Option.map_eq_some_iff] at hs'
  obtain ⟨w, -, heq⟩ := hs'
  rw [← (Prod.mk.inj heq).1] at hrc
  exact absurd hrc.1 (by decide)

/-- **One call.** -/
theorem PmcReady.clearsPmc_iff (h : PmcReady P rax s data) (i : Int) :
    ClearsPmc P rax s i ↔ ClearsAt P.cfg.numDevs (cpuidNumPmc rax) data i := by
  by_cases hin : 0 ≤ i ∧ i < P.cfg.numDevs
  · obtain ⟨j, rfl⟩ : ∃ j : Nat, i = j := ⟨i.toNat, by omega⟩
    have hj : j < P.cfg.numDevs := by omega
    rw [ClearsAt, if_pos hin, Int.toNat_natCast]
    by_cases hlt : j < cpuidNumPmc rax
    · by_cases hle : cpuidNumPmc rax ≤ 8
      · obtain ⟨id, hl⟩ := h.loaded (by omega) hle
        obtain ⟨s', hs', hl', -⟩ := hl.clearPmc hle hlt hj
        constructor
        · rintro ⟨rc, t', ht', hclear⟩
          obtain rfl := (Prod.mk.inj (Option.some.inj (hs'.symm.trans ht'))).2
          rw [if_pos hin, Int.toNat_natCast] at hclear
          refine ⟨by omega, hle, fun k hjk hk => ?_⟩
          -- the switch did not reach counter `k`
          have hzero := hclear.2.1 k hk
          rw [hl'.counter hk hj, if_neg (by omega), Option.some_inj] at hzero
          exact hzero
        · rintro ⟨-, -, hzero⟩
          refine ⟨0, s', hs', ?_⟩
          rw [if_pos hin, Int.toNat_natCast]
          refine ⟨rfl, fun k hk => ?_, fun k t hk ht hne => ?_⟩
          · rw [hl'.counter hk hj]
            by_cases hkj : k < j
            · rw [if_pos ⟨rfl, hkj⟩]
            · rw [if_neg (by omega), hzero k (by omega) hk]
          · rw [hl'.counter hk ht, hl.counter hk ht, if_neg (by omega)]
      · -- without arrays no counter is 0
        refine iff_of_false ?_ fun hcond => hle hcond.2.1
        rintro ⟨rc, s', hs', hclear⟩
        rw [if_pos hin] at hclear
        rw [clearPmc_lt h.init (by omega), Option.map_eq_some_iff] at hs'
        obtain ⟨w, -, heq⟩ := hs'
        have hcounter := hclear.2.1 0 (by omega)
        rw [← (Prod.mk.inj heq).2, PmcState.counter, BatchWorld.loadAt,
          h.null (fun hc => hle hc.2) 0] at hcounter
        contradiction
    · refine iff_of_false ?_ fun hcond => hlt (by omega)
      rintro ⟨rc, s', hs', hclear⟩
      rw [if_pos hin] at hclear
      rw [clearPmc_ge h.init (by omega), Option.some_inj] at hs'
      rw [← (Prod.mk.inj hs').1] at hclear
      exact absurd hclear.1 (by decide)
  · rw [ClearsAt, if_neg hin]
    constructor
    · intro hclears
      by_contra hlt
      exact h.not_clearsPmc hin (by omega) hclears
    · intro hge
      refine ⟨-1, s, clearPmc_ge h.init hge, ?_⟩
      rw [if_neg hin]
      exact ⟨rfl, rfl⟩

end Call

/-! ## All calls -/

section All

variable {P : Platform} {rax : Word} {s : PmcState} {id : Nat} {data : Nat → Nat → Word}

/-- The calls in turn clear of each processor that they accept the counters below it. -/
theorem PmcLoaded.clearEach (h : PmcLoaded P rax s id data) (hle : cpuidNumPmc rax ≤ 8) :
    ∃ s', clearEach P rax s = some s' ∧ PmcLoaded P rax s' id
      (fun k t => if t < P.cfg.numDevs ∧ t < cpuidNumPmc rax ∧ k < t then 0 else data k t) := by
  refine Loops.foldlM_range_inv _ (fun i s' => PmcLoaded P rax s' id fun k t =>
    if t < i ∧ t < cpuidNumPmc rax ∧ k < t then 0 else data k t) P.cfg.numDevs s ?_
    fun i hi s₁ h₁ => ?_
  · exact ⟨h.init, h.table.congr fun k t _ _ => if_neg (by omega), h.null⟩
  · rcases Nat.lt_or_ge i (cpuidNumPmc rax) with hlt | hge
    · -- the number is taken for how many counters to clear
      obtain ⟨s₂, hs₂, h₂, -⟩ := h₁.clearPmc hle hlt hi
      refine ⟨s₂, by rw [hs₂]; rfl, h₂.init, h₂.table.congr fun k t _ _ => ?_, h₂.null⟩
      by_cases hnew : t = i ∧ k < i
      · rw [if_pos hnew, if_pos (by omega)]
      · have hiff : t < i + 1 ∧ t < cpuidNumPmc rax ∧ k < t ↔
            t < i ∧ t < cpuidNumPmc rax ∧ k < t := by omega
        rw [if_neg hnew]
        simp only [hiff]
    · -- refused, although there is such a processor
      refine ⟨s₁, by rw [clearPmc_ge h₁.init (by omega)]; rfl, h₁.init,
        h₁.table.congr fun k t _ _ => ?_, h₁.null⟩
      have hiff : t < i + 1 ∧ t < cpuidNumPmc rax ∧ k < t ↔
          t < i ∧ t < cpuidNumPmc rax ∧ k < t := by omega
      simp only [hiff]

/-- The loop of `clear_all_pmc` clears all. -/
theorem PmcLoaded.clearAllLoop (h : PmcLoaded P rax s id data) (hle : cpuidNumPmc rax ≤ 8) :
    ∃ w', clearAllLoop P rax s = some w' ∧
      RegTable (pmcLayout P.cfg (cpuidNumPmc rax) ia32Pmc0) s.pmc w'.st countersDataBatch id
        fun k t => if t < P.cfg.numDevs ∧ k < cpuidNumPmc rax then 0 else data k t := by
  obtain ⟨w', hw', htable, -⟩ := h.table.storeColumns
    (fun k hk => (mem_fallThrough hle).mp hk) 0
  refine ⟨w', hw', htable.congr fun k t _ _ => ?_⟩
  simp only [mem_fallThrough hle]
  rfl

/-- Where there is no case for the number of counters, the loop does nothing. -/
theorem clearAllLoop_noCase (hout : ¬ (1 ≤ cpuidNumPmc rax ∧ cpuidNumPmc rax ≤ 8)) :
    clearAllLoop P rax s = some s.world := by
  have hnil : fallThrough (cpuidNumPmc rax) = [] := by
    rw [fallThrough, if_neg (by omega)]
  obtain ⟨w', hw', rfl⟩ := Loops.foldlM_range_inv (clearCounters s.pmc (cpuidNumPmc rax))
    (fun _ w' => w' = s.world) P.cfg.numDevs s.world rfl fun i _ w' heq =>
      ⟨s.world, heq ▸ clearCounters_nil hnil i, rfl⟩
  exact hw'

/-- Calls none of which enters the switch. -/
theorem clearEach_same (hinit : s.pmcInit = true)
    (hout : ∀ i, i < P.cfg.numDevs → i < cpuidNumPmc rax → i = 0) :
    clearEach P rax s = some s := by
  have hstep : ∀ i, i < P.cfg.numDevs → (clearPmc P rax s i).map Prod.snd = some s := by
    intro i hi
    rcases Nat.lt_or_ge i (cpuidNumPmc rax) with hlt | hge
    · obtain rfl := hout i hi hlt
      rw [clearPmc_lt hinit (by omega), clearCounters_nil (fallThrough_of_lt (by decide))]
      rfl
    · rw [clearPmc_ge hinit (by omega)]
      rfl
  obtain ⟨s', hs', rfl⟩ := Loops.foldlM_range_inv
    (fun s (i : Nat) => (clearPmc P rax s i).map Prod.snd) (fun _ s' => s' = s) P.cfg.numDevs s rfl
    fun i hi s' heq => ⟨s, heq ▸ hstep i hi, rfl⟩
  exact hs'

/-- Without arrays the call for processor 1 follows a null pointer. -/
theorem clearEach_null (hinit : s.pmcInit = true) (hnull : ∀ k, s.pmc k = none)
    (havail : 8 < cpuidNumPmc rax) (hn : 1 < P.cfg.numDevs) : clearEach P rax s = none := by
  refine Loops.foldlM_range_none (m := 2) hn ?_
  have hzero : clearPmc P rax s (0 : Nat) = some (0, s) := by
    rw [clearPmc_lt hinit (by omega), clearCounters_nil (fallThrough_of_lt (by decide))]
    rfl
  have hone : clearPmc P rax s (1 : Nat) = none := by
    have hnone := clearCounters_none s.pmc s.world (Nat.le_refl 1) (by decide) (i := 1)
      fun val hval => by rw [hnull] at hval; contradiction
    rw [clearPmc_lt hinit (by omega)]
    exact congrArg _ hnone
  rw [Loops.foldlM_range_succ, Loops.foldlM_range_succ, List.range_zero, List.foldlM_nil]
  show ((clearPmc P rax s (0 : Nat)).map Prod.snd).bind _ = none
  rw [hzero]
  show (clearPmc P rax s (1 : Nat)).map Prod.snd = none
  rw [hone]
  rfl

/-- **All calls.** -/
theorem PmcReady.clearsLikeAll_iff (h : PmcReady P rax s data) :
    ClearsLikeAll P rax s ↔ ClearsEachAt P.cfg.numDevs (cpuidNumPmc rax) data := by
  by_cases hle : cpuidNumPmc rax ≤ 8
  · rcases Nat.eq_zero_or_pos (cpuidNumPmc rax) with hzero | hpos
    · -- there is nothing to clear
      refine iff_of_true ⟨s, s.world, clearEach_same h.init (by omega),
        clearAllLoop_noCase (by omega), fun _ _ _ _ => rfl⟩ ⟨fun _ k t hk => ?_, by omega⟩
      omega
    · obtain ⟨id, hl⟩ := h.loaded hpos hle
      obtain ⟨s', hs', hl'⟩ := hl.clearEach hle
      obtain ⟨w', hw', htable⟩ := hl.clearAllLoop hle
      constructor
      · rintro ⟨t', v', ht', hv', hsame⟩
        obtain rfl := Option.some.inj (hs'.symm.trans ht')
        obtain rfl := Option.some.inj (hw'.symm.trans hv')
        refine ⟨fun _ k t hk ht hkt => ?_, by omega⟩
        -- a counter that the calls leave is 0 after `clear_all_pmc`
        have heq := hsame k t hk ht
        rw [hl'.counter hk ht, if_neg (by omega), htable.loadAt hk ht, if_pos ⟨ht, hk⟩,
          Option.some_inj] at heq
        exact heq
      · rintro ⟨hzero, -⟩
        refine ⟨s', w', hs', hw', fun k t hk ht => ?_⟩
        have hall := htable.loadAt hk ht
        rw [if_pos ⟨ht, hk⟩] at hall
        rw [hl'.counter hk ht, hall]
        by_cases hreached : t < P.cfg.numDevs ∧ t < cpuidNumPmc rax ∧ k < t
        · rw [if_pos hreached]
        · rw [if_neg hreached, hzero hle k t hk ht (by omega)]
  · -- more than eight counters: the arrays were never allocated
    have hnull := h.null fun hc => hle hc.2
    rcases Nat.lt_or_ge 1 P.cfg.numDevs with hn | hn
    · refine iff_of_false ?_ fun hcond => ?_
      · rintro ⟨s', -, hs', -⟩
        rw [clearEach_null h.init hnull (by omega) hn] at hs'
        contradiction
      · have hn' := hcond.2 (by omega)
        omega
    · refine iff_of_true ⟨s, s.world, clearEach_same h.init (by omega),
        clearAllLoop_noCase (by omega), fun _ _ _ _ => rfl⟩ ⟨fun hc => absurd hc hle, fun _ => hn⟩

end All

/-- `pmc_storage` sets the buffer up. -/
theorem PmcStart.pmcReady {P : Platform} {rax : Word} {s s' : PmcState} (hstart : PmcStart s)
    (hsmall : cpuidNumPmc rax ≤ 8 → cpuidNumPmc rax * P.cfg.numDevs < 2 ^ 31)
    (h : pmcStorage P rax s = some s') : PmcReady P rax s' fun _ _ => 0 := by
  have hinit : s'.pmcInit = true ∧
      (¬ (1 ≤ cpuidNumPmc rax ∧ cpuidNumPmc rax ≤ 8) → s'.pmc = s.pmc) := by
    rw [pmcStorage, hstart.pmcInit] at h
    obtain ⟨⟨rc, r⟩, hr, hs'⟩ := Option.bind_eq_some_iff.mp h
    obtain rfl := Option.some.inj hs'
    exact ⟨rfl, fun hout => initCounters_none hout hr⟩
  refine ⟨hinit.1, fun hpos hle => ?_, fun hout k => ?_⟩
  · obtain ⟨t, ht, hloaded, -⟩ := pmcStorage_spec hpos hle (hsmall hle) hstart.sized
      hstart.pmcInit hstart.data hstart.pmc
    obtain rfl := Option.some.inj (ht.symm.trans h)
    exact ⟨_, hloaded⟩
  · rw [hinit.2 hout, hstart.pmc]

/-- **Clearing.**  In every state with the buffer set up, a call of `clear_pmc` does what
    it has to exactly under its condition, and so do the calls for all processors. -/
theorem clearPmc_exact {P : Platform} {rax : Word} {s : PmcState} {data : Nat → Nat → Word}
    (h : PmcReady P rax s data) :
    (∀ i, ClearsPmc P rax s i ↔ ClearsAt P.cfg.numDevs (cpuidNumPmc rax) data i) ∧
      (ClearsLikeAll P rax s ↔ ClearsEachAt P.cfg.numDevs (cpuidNumPmc rax) data) :=
  ⟨h.clearsPmc_iff, h.clearsLikeAll_iff⟩

/-- Four counters on two CPUs: counter 0 of processor 1 holds 5, and the calls clear it. -/
theorem clearPmc_zeroes :
    ∃ s w, pmcStorage twoSockets 0x400 (pmcStart (.opened 2)) = some s ∧
      s.world.storeAt countersDataBatch s.pmc 5 0 1 = some w ∧
      ClearsPmc twoSockets 0x400 { s with world := w } 1 ∧
      ClearsPmc twoSockets 0x400 { s with world := w } 4 ∧
      ClearsLikeAll twoSockets 0x400 { s with world := w } := by
  have hstart := pmcStart_fresh (.opened 2)
  obtain ⟨s, hs, hloaded, -⟩ := pmcStorage_spec (P := twoSockets)
    (show 1 ≤ cpuidNumPmc 0x400 by decide) (by decide) (by decide) hstart.sized hstart.pmcInit
    hstart.data hstart.pmc
  obtain ⟨w, hw, htable, -⟩ := hloaded.table.storeAt (k := 0) (t := 1) (by decide) (by decide) 5
  have hready : PmcReady twoSockets 0x400 { s with world := w } (setCell (fun _ _ => 0) 0 1 5) :=
    ⟨hloaded.init, fun _ _ => ⟨_, hloaded.init, htable, hloaded.null⟩,
      fun hout => absurd (by decide) hout⟩
  -- only that counter is not 0
  have hzero : ∀ k t, ¬ (k = 0 ∧ t = 1) → setCell (fun _ _ => (0 : Word)) 0 1 5 k t = 0 :=
    fun _ _ hne => if_neg (mt Prod.mk.inj hne)
  refine ⟨s, w, hs, hw, ((clearPmc_exact hready).1 1).mpr ?_, ((clearPmc_exact hready).1 4).mpr ?_,
    (clearPmc_exact hready).2.mpr ⟨fun _ k t _ _ hkt => hzero k t ?_, fun hgt => ?_⟩⟩
  · rw [ClearsAt, if_pos (by decide)]
    refine ⟨by decide, by decide, fun k hk _ => hzero k _ ?_⟩
    rintro ⟨rfl, -⟩
    exact absurd hk (by decide)
  · rw [ClearsAt, if_neg (by decide)]
    decide
  · rintro ⟨rfl, rfl⟩
    exact absurd hkt (by decide)
  · exact absurd hgt (by decide)

/-- Counter 0 of processor 0 holds 1, and the call for the processor leaves it; an index
    of -1 is accepted. -/
theorem clearPmc_leaves_counter :
    ∃ s w, pmcStorage twoSockets 0x400 (pmcStart (.opened 2)) = some s ∧
      s.world.storeAt countersDataBatch s.pmc 1 0 0 = some w ∧
      ¬ ClearsPmc twoSockets 0x400 { s with world := w } 0 ∧
      ¬ ClearsPmc twoSockets 0x400 { s with world := w } (-1) ∧
      ¬ ClearsLikeAll twoSockets 0x400 { s with world := w } := by
  have hstart := pmcStart_fresh (.opened 2)
  obtain ⟨s, hs, hloaded, -⟩ := pmcStorage_spec (P := twoSockets)
    (show 1 ≤ cpuidNumPmc 0x400 by decide) (by decide) (by decide) hstart.sized hstart.pmcInit
    hstart.data hstart.pmc
  obtain ⟨w, hw, htable, -⟩ := hloaded.table.storeAt (k := 0) (t := 0) (by decide) (by decide) 1
  have hready : PmcReady twoSockets 0x400 { s with world := w } (setCell (fun _ _ => 0) 0 0 1) :=
    ⟨hloaded.init, fun _ _ => ⟨_, hloaded.init, htable, hloaded.null⟩,
      fun hout => absurd (by decide) hout⟩
  refine ⟨s, w, hs, hw, fun h => ?_, fun h => ?_, fun h => ?_⟩
  · have hcond := (hready.clearsPmc_iff 0).mp h
    rw [ClearsAt, if_pos (by decide)] at hcond
    exact absurd (hcond.2.2 0 (by decide) (by decide)) (by decide)
  · have hcond := (hready.clearsPmc_iff (-1)).mp h
    rw [ClearsAt, if_neg (by decide)] at hcond
    exact absurd hcond (by decide)
  · have hcond := (hready.clearsLikeAll_iff.mp h).1 (by decide) 0 0 (by decide) (by decide)
      (Or.inl (Nat.le_refl 0))
    exact absurd hcond (by decide)

end Libmsr
