/-
  Libmsr.Rapl.EnergyClock

  What a poll does to the parts of `struct rapl_data` that the readings do not
  go into: the timestamps and the elapsed time, and, before there are two
  readings, the deltas.

  - `pollRaplData_clock`: `now` is the time of the poll, and `elapsed` the time
    since the poll before, 0 at the first.
  - `pollRaplData_first_deltas`: the deltas of the first poll are 0.
-/
import Libmsr.Rapl.EnergyRuns
import Libmsr.Rapl.LimitPairs

namespace Libmsr

section EnergyClock

variable {K : Type}

/-! ## Loop bodies -/

/-- `now`, `old_now` and `elapsed`. -/
def RaplData.clock (rapl : RaplData K) : Timeval × Timeval × K :=
  (rapl.now, rapl.oldNow, rapl.elapsed)

/-- The deltas of every cell. -/
def RaplData.deltas (rapl : RaplData K) : Option (List K) × Option (List K) :=
  (rapl.pkg.map (·.map PkgCell.deltaJoules), rapl.dram.map (·.map DramCell.deltaJoules))

theorem RaplData.pkgDeltaAt_eq (rapl : RaplData K) (s : Nat) :
    rapl.pkgDeltaAt s = rapl.deltas.1.bind (·[s]?) := by
  rw [pkgDeltaAt, deltas]
  cases rapl.pkg <;> simp

theorem RaplData.dramDeltaAt_eq (rapl : RaplData K) (s : Nat) :
    rapl.dramDeltaAt s = rapl.deltas.2.bind (·[s]?) := by
  rw [dramDeltaAt, deltas]
  cases rapl.dram <;> simp

/-- Work on an element that keeps what `g` looks at. -/
theorem updateAt_map {γ δ : Type} {arr arr' : Option (List γ)} {s : Nat} {f : γ → Option γ}
    (g : γ → δ) (hf : ∀ c c', f c = some c' → g c' = g c) (h : updateAt arr s f = some arr') :
    arr'.map (·.map g) = arr.map (·.map g) := by
  simp only [updateAt, Option.bind_eq_bind, Option.bind_eq_some_iff, Option.some.injEq] at h
  obtain ⟨cells, rfl, c, hc, c', hc', rfl⟩ := h
  obtain ⟨hs, rfl⟩ := List.getElem?_eq_some_iff.mp hc
  simp only [Option.map_some, List.map_set, hf _ _ hc', Option.some.injEq]
  refine List.ext_getElem? fun i => ?_
  rw [List.getElem?_set]
  split
  · next heq =>
    subst heq
    rw [if_pos (by rw [List.length_map]; exact hs), List.getElem?_map, hc, Option.map_some]
  · rfl

/-- The same where the work depends on a flag. -/
theorem updateIf_map {γ δ : Type} {arr arr' : Option (List γ)} {s : Nat} {f : γ → Option γ}
    {flag : Bool} (g : γ → δ) (hf : ∀ c c', f c = some c' → g c' = g c)
    (h : (if flag then updateAt arr s f else some arr) = some arr') :
    arr'.map (·.map g) = arr.map (·.map g) := by
  cases flag with
  | true => exact updateAt_map g hf h
  | false => rw [Option.some.inj h]

/-- A flagged step, followed by the rest in either case. -/
theorem flagged_bind_iff {α β : Type} {flag : Bool} {step other : Option α} {rest : α → Option β}
    {y : β} : (if flag then step.bind rest else other.bind rest) = some y ↔
      ∃ x, (if flag then step else other) = some x ∧ rest x = some y := by
  cases flag <;> exact Option.bind_eq_some_iff

variable [Field K] [LinearOrder K] [IsStrictOrderedRing K] [FloorRing K] {R : RaplSetup K}
  {st : BatchStorage} {rapl rapl' : RaplData K} {s : Nat}

omit [LinearOrder K] [IsStrictOrderedRing K] [FloorRing K] in
theorem zeroJoules_keeps (h : zeroJoules rapl s = some rapl') :
    rapl'.deltas = rapl.deltas ∧ rapl'.clock = rapl.clock := by
  simp only [zeroJoules, Option.bind_eq_bind, Option.bind_eq_some_iff, Option.some.injEq] at h
  obtain ⟨pkg, hpkg, dram, hdram, rfl⟩ := h
  refine ⟨Prod.ext (updateAt_map _ ?_ hpkg) (updateAt_map _ ?_ hdram), rfl⟩ <;>
    · intro c c' hc
      rw [← Option.some.inj hc]

omit [Field K] [LinearOrder K] [IsStrictOrderedRing K] [FloorRing K] in
theorem moveToOld_keeps (h : moveToOld R st rapl s = some rapl') :
    rapl'.deltas = rapl.deltas ∧ rapl'.clock = rapl.clock := by
  simp only [moveToOld, Option.bind_eq_bind, flagged_bind_iff, Option.some.injEq] at h
  obtain ⟨pkg, hpkg, dram, hdram, rfl⟩ := h
  refine ⟨Prod.ext (updateIf_map _ ?_ hpkg) (updateIf_map _ ?_ hdram), rfl⟩ <;>
    · intro c c' hc
      simp only [Option.bind_eq_some_iff, Option.some.injEq] at hc
      obtain ⟨bits, -, rfl⟩ := hc
      rfl

omit [IsStrictOrderedRing K] in
theorem translateReadings_keeps (h : translateReadings R st rapl s = some rapl') :
    rapl'.deltas = rapl.deltas ∧ rapl'.clock = rapl.clock := by
  simp only [translateReadings, Option.bind_eq_bind, flagged_bind_iff, Option.some.injEq] at h
  obtain ⟨dram, hdram, pkg, hpkg, rfl⟩ := h
  refine ⟨Prod.ext (updateIf_map _ ?_ hpkg) (updateIf_map _ ?_ hdram), rfl⟩ <;>
    · intro c c' hc
      simp only [Option.bind_eq_some_iff, Option.some.injEq] at hc
      obtain ⟨bits, -, r, -, rfl⟩ := hc
      rfl

omit [LinearOrder K] [IsStrictOrderedRing K] [FloorRing K] in
theorem zeroWatts_keeps (h : zeroWatts R rapl s = some rapl') :
    rapl'.deltas = rapl.deltas ∧ rapl'.clock = rapl.clock := by
  simp only [zeroWatts, Option.bind_eq_bind, flagged_bind_iff, Option.some.injEq] at h
  obtain ⟨pkg, hpkg, dram, hdram, rfl⟩ := h
  refine ⟨Prod.ext (updateIf_map _ ?_ hpkg) (updateIf_map _ ?_ hdram), rfl⟩ <;>
    · intro c c' hc
      rw [← Option.some.inj hc]

omit [IsStrictOrderedRing K] in
theorem deltaSocket_keeps (h : deltaSocket R st rapl s = some rapl') :
    rapl'.clock = rapl.clock := by
  simp only [deltaSocket, Option.bind_eq_bind, flagged_bind_iff] at h
  obtain ⟨pkg, -, dram, -, h⟩ := h
  split at h
  · simp only [flagged_bind_iff, Option.some.injEq] at h
    obtain ⟨pkg', -, dram', -, rfl⟩ := h
    rfl
  · simp only [flagged_bind_iff, Option.bind_eq_some_iff, Option.some.injEq] at h
    obtain ⟨pkg', -, dram', -, rfl⟩ := h
    rfl

omit [LinearOrder K] [IsStrictOrderedRing K] [FloorRing K] in
/-- `create_rapl_data_batch` leaves the clock alone, and arrays it allocates hold no
    delta but 0. -/
theorem createRaplDataBatch_keeps {st' : BatchStorage} (hpkg : rapl.pkg = none)
    (hdram : rapl.dram = none) (h : createRaplDataBatch R st rapl = some (st', rapl')) :
    (∀ s d, rapl'.pkgDeltaAt s = some d → d = 0) ∧ (∀ s d, rapl'.dramDeltaAt s = some d → d = 0) ∧
      rapl'.clock = rapl.clock := by
  simp only [createRaplDataBatch, Option.bind_eq_bind, Option.bind_eq_some_iff, Option.some.injEq,
    Prod.mk.injEq] at h
  obtain ⟨_, -, ⟨pkgBits, _⟩, -, _, -, ⟨dramBits, _⟩, -, _, -, -, rfl⟩ := h
  refine ⟨fun s d hd => ?_, fun s d hd => ?_, rfl⟩
  · cases pkgBits with
    | none => simp [RaplData.pkgDeltaAt, hpkg] at hd
    | some cells =>
      simp only [RaplData.pkgDeltaAt, Option.map_some, Option.some_or, Option.bind_some,
        List.getElem?_map, Option.map_map, Option.map_eq_some_iff] at hd
      obtain ⟨bits, -, rfl⟩ := hd
      rfl
  · cases dramBits with
    | none => simp [RaplData.dramDeltaAt, hdram] at hd
    | some cells =>
      simp only [RaplData.dramDeltaAt, Option.map_some, Option.some_or, Option.bind_some,
        List.getElem?_map, Option.map_map, Option.map_eq_some_iff] at hd
      obtain ⟨bits, -, rfl⟩ := hd
      rfl

/-! ## Whole calls -/

omit [Field K] [LinearOrder K] [IsStrictOrderedRing K] [FloorRing K] in
/-- A loop over the sockets whose body keeps `g` of the measurements. -/
theorem socketLoop_keeps {γ : Type} (g : RaplData K → γ)
    {body : RaplData K → Nat → Option (RaplData K)} {n : Nat}
    (hbody : ∀ rapl s rapl', body rapl s = some rapl' → g rapl' = g rapl)
    (h : (List.range n).foldlM body rapl = some rapl') : g rapl' = g rapl :=
  Loops.foldlM_keeps (I := fun r => g r = g rapl)
    (fun r s r' hr hstep => (hbody r s r' hstep).trans hr) rfl h

variable {drv : BatchDriver} {fd : Int} {S S' : EnergyState K} {p : Poll}

omit [IsStrictOrderedRing K] in
/-- `read_rapl_data` takes the time; what was the time before is the old time. -/
theorem readRaplData_clock (h : readRaplData R drv fd S p = some S') :
    S'.deltaInit = S.deltaInit ∧ S'.readInit = true ∧ S'.rapl.now = p.now ∧
      (S.readInit = true → S'.rapl.elapsed = elapsedSeconds p.now S.rapl.now) := by
  simp only [readRaplData, Option.bind_eq_bind] at h
  cases hinit : S.readInit with
  | true =>
    simp only [hinit, if_true, Option.bind_some, Option.bind_eq_some_iff, Option.some.injEq] at h
    obtain ⟨rapl, hmove, r, -, rapl', htrans, rfl⟩ := h
    have hclock := (socketLoop_keeps RaplData.clock
      (fun _ _ _ hb => (translateReadings_keeps hb).2) htrans).trans
      (socketLoop_keeps RaplData.clock (fun _ _ _ hb => (moveToOld_keeps hb).2) hmove)
    exact ⟨rfl, rfl, congrArg (·.1) hclock, fun _ => congrArg (·.2.2) hclock⟩
  | false =>
    simp only [hinit, Bool.false_eq_true, if_false, Option.bind_some, Option.bind_eq_some_iff,
      Option.some.injEq] at h
    obtain ⟨⟨st, rapl⟩, -, r, -, rapl', htrans, rfl⟩ := h
    have hclock := socketLoop_keeps RaplData.clock
      (fun _ _ _ hb => (translateReadings_keeps hb).2) htrans
    exact ⟨rfl, rfl, congrArg (·.1) hclock, fun h => absurd h (by simp)⟩

omit [IsStrictOrderedRing K] in
/-- **The clock.**  A poll takes the time; every one but the first measures the
    time since the poll before. -/
theorem pollRaplData_clock (h : pollRaplData R drv fd S p = some S')
    (hsame : S.readInit = S.deltaInit) :
    S'.rapl.now = p.now ∧
      S'.rapl.elapsed = if S.readInit then elapsedSeconds p.now S.rapl.now else 0 := by
  simp only [pollRaplData, Option.bind_eq_bind, Option.bind_eq_some_iff] at h
  obtain ⟨S₁, hread, hdelta⟩ := h
  obtain ⟨hkept, -, hnow, helapsed⟩ := readRaplData_clock hread
  rw [deltaRaplData, hkept, ← hsame] at hdelta
  cases hinit : S.readInit with
  | true =>
    rw [hinit, Bool.not_true, if_neg Bool.false_ne_true] at hdelta
    obtain ⟨rapl, hloop, hS'⟩ := Option.bind_eq_some_iff.mp hdelta
    obtain rfl := Option.some.inj hS'
    have hclock := socketLoop_keeps RaplData.clock (fun _ _ _ hb => deltaSocket_keeps hb) hloop
    exact ⟨(congrArg (·.1) hclock).trans hnow, (congrArg (·.2.2) hclock).trans (helapsed hinit)⟩
  | false =>
    rw [hinit, Bool.not_false, if_pos rfl] at hdelta
    obtain ⟨rapl, hloop, hS'⟩ := Option.bind_eq_some_iff.mp hdelta
    obtain rfl := Option.some.inj hS'
    have hclock := socketLoop_keeps RaplData.clock (fun _ _ _ hb => (zeroWatts_keeps hb).2) hloop
    exact ⟨(congrArg (·.1) hclock).trans hnow, rfl⟩

omit [IsStrictOrderedRing K] in
/-- **The first deltas** are 0: there is nothing to compare the readings with. -/
theorem pollRaplData_first_deltas (h : pollRaplData R drv fd S p = some S') (hS : S.Fresh)
    (s : Nat) : (∀ d, S'.rapl.pkgDeltaAt s = some d → d = 0) ∧
      ∀ d, S'.rapl.dramDeltaAt s = some d → d = 0 := by
  simp only [pollRaplData, Option.bind_eq_bind, Option.bind_eq_some_iff] at h
  obtain ⟨S₁, hread, hdelta⟩ := h
  rw [deltaRaplData, (readRaplData_clock hread).1, hS.deltaInit, Bool.not_false,
    if_pos rfl] at hdelta
  simp only [readRaplData, initRaplData, hS.readInit, Bool.false_eq_true, if_false,
    Option.bind_eq_bind, Option.bind_eq_some_iff, Option.some.injEq] at hread
  obtain ⟨_, ⟨⟨st, rapl⟩, hcreate, rapl₁, hzero, rfl⟩, _, rfl, r, -, rapl₂, htrans, rfl⟩ := hread
  obtain ⟨rapl₃, hwatts, hS'⟩ := Option.bind_eq_some_iff.mp hdelta
  obtain rfl := Option.some.inj hS'
  obtain ⟨hpkg, hdram, -⟩ := createRaplDataBatch_keeps hS.pkg hS.dram hcreate
  have hcleared := socketLoop_keeps RaplData.deltas
    (fun _ _ _ hb => (zeroJoules_keeps hb).1) hzero
  have hread := socketLoop_keeps RaplData.deltas
    (fun _ _ _ hb => (translateReadings_keeps hb).1) htrans
  have hstart := socketLoop_keeps RaplData.deltas
    (fun _ _ _ hb => (zeroWatts_keeps hb).1) hwatts
  have hdeltas : rapl₃.deltas = rapl.deltas := (hstart.trans hread).trans hcleared
  constructor
  · intro d hd
    refine hpkg s d ?_
    rw [RaplData.pkgDeltaAt_eq, ← hdeltas, ← hd]
    exact (RaplData.pkgDeltaAt_eq rapl₃ s).symm
  · intro d hd
    refine hdram s d ?_
    rw [RaplData.dramDeltaAt_eq, ← hdeltas, ← hd]
    exact (RaplData.dramDeltaAt_eq rapl₃ s).symm

end EnergyClock

/-! ## Two sockets -/

theorem freshState_fresh : freshState.Fresh := ⟨BatchStorage.init_sized, rfl, rfl, rfl, rfl, rfl⟩

theorem twoSocketRapl_lt {s : Nat} (hs : s < twoSocketRapl.cfg.sockets) : s = 0 ∨ s = 1 := by
  have : s < 2 := hs
  omega

theorem twoSocketRapl_cpus : SocketCpus twoSocketRapl id := by
  refine ⟨by decide, fun s hs => hs, ?_⟩
  intro s hs
  rcases twoSocketRapl_lt hs with rfl | rfl <;> rfl

theorem twoSocketRapl_units : HasUnits twoSocketRapl fun _ => 0xA1003 := by
  intro s hs
  rcases twoSocketRapl_lt hs with rfl | rfl <;> rfl

/-- Both sockets can be polled, whatever the registers hold. -/
theorem twoSocketRapl_poll (m : Nat → Nat → Word) (now : Timeval) :
    PollReady twoSocketRapl id .inOrder 3 ⟨{ Host.opened 2 with regs := m }, now⟩ := by
  refine ⟨⟨fun _ => inOrder_spec, ?_, by decide, ?_⟩, ?_⟩
  · exact ⟨(Host.opened_ready 2).length, (Host.opened_ready 2).entry⟩
  · intro cpu hcpu msr
    exact ⟨decide_eq_true hcpu, decide_eq_true hcpu⟩
  · intro s hs msr _
    rcases twoSocketRapl_lt hs with rfl | rfl <;> rfl

end Libmsr
