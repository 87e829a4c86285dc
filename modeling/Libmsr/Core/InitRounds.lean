/-
  Libmsr.Core.InitRounds

  The first `init_msr`, its device loop round by round, on an operating system whose
  answers may change from one call to the next (src/msr_core.c).

  `Os` gives the files as they are after the calls that `init_msr` has made so far, and
  the state of the loop records these calls.  The index of the loop is the C `int`: a
  restart sets it to -1, and the comparison with the device count is one of `uint64_t`.
  (The device count is below `2 ^ 31`, as hwloc counts in an `int`.)

  `Lifecycle` has the loop on files that stay as they are; on these the two agree.
-/
import Libmsr.Core.LifecycleRuns
import Libmsr.Lib.Loops

namespace Libmsr

/-- A call to the operating system, and what it returned. -/
inductive OsCall where
  | stat (filename : DevFile) (mode : Option FileMode)
  | opened (filename : DevFile) (fd : Int)
  deriving Repr, DecidableEq

/-- The file system after the calls of `init_msr` so far. -/
abbrev Os := List OsCall → FileSystem

/-- The loop of `init_msr`, and the calls made. -/
structure InitState where
  kerneltype : KernelType
  devIdx : Int
  process : Process
  calls : List OsCall

/-- One round, with the increment of `dev_idx` that follows it. -/
def initRound (numDevs : Nat) (os : Os) (s : InitState) : Option (Loops.Round InitState Int) :=
  -- a negative index would be a large `uint64_t`
  if s.devIdx % 2 ^ 64 < numDevs then
    let filename := s.kerneltype.filename s.devIdx.toNat
    let r := statModule (os s.calls) filename s.kerneltype s.devIdx
    let calls := s.calls ++ [.stat filename ((os s.calls).stat filename)]
    if r.1 < 0 then some (.done (-1) ⟨r.2.1, r.2.2, s.process, calls⟩)
    else if r.2.2 < 0 then some (.again ⟨r.2.1, r.2.2 + 1, s.process, calls⟩)
    else
      match s.process.coreFd numDevs with
      | none => none
      | some p =>
        let o := p.openFile (os calls) filename
        let p := o.2.setEntry r.2.2.toNat o.1
        let calls := calls ++ [.opened filename o.1]
        if o.1 = -1 then
          if r.2.1 ≠ .msrSafe then some (.done (-1) ⟨r.2.1, r.2.2, p, calls⟩)
          else some (.again ⟨.msr, -1 + 1, p, calls⟩)
        else some (.again ⟨r.2.1, r.2.2 + 1, p, calls⟩)
  else some (.done 0 s)

/-- `init_msr`, for at most `fuel` rounds of its loop. -/
def initMsrRounds (numDevs : Nat) (os : Os) (fuel : Nat) (p : Process) : Option (Int × InitState) :=
  if p.init then some (0, ⟨.unknown, 0, p, []⟩)
  else
    -- the return code is dropped
    let r := statModule (os []) .whitelist .unknown 0
    let calls := [.stat .whitelist ((os []).stat .whitelist)]
    match Loops.rounds (initRound numDevs os) fuel ⟨r.2.1, 0, p, calls⟩ with
    | none => none
    | some (rc, s) =>
      if rc ≠ 0 then some (rc, s)
      else some (0, { s with process := { s.process with init := true } })

/-- The files `stat` was called on, in order. -/
def InitState.visited (s : InitState) : List DevFile :=
  s.calls.filterMap fun
    | .stat filename _ => some filename
    | .opened _ _ => none

/-- What `init_msr` is to leave: it went through the devices once by msr_safe, as far as
    it got, and at most once more by msr; if it returned 0, every entry of the table is
    the descriptor of a successful `open`, all by one module. -/
structure InitLaw (numDevs : Nat) (rc : Int) (s : InitState) : Prop where
  visited : ∃ a b, a ≤ numDevs ∧ b ≤ numDevs ∧
    s.visited = .whitelist :: ((List.range a).map .msrSafe ++ (List.range b).map .msr)
  filled : rc = 0 → ∃ module, ∀ i, i < numDevs → ∃ fd, 0 ≤ fd ∧
    s.process.host.fileDescriptors[i]? = some fd ∧
    .opened (KernelType.filename module i) fd ∈ s.calls

/-- `init_msr` has not succeeded yet, and the table was not freed. -/
structure FirstInit (numDevs : Nat) (p : Process) : Prop where
  flag : p.init = false
  kept : p.table ≠ .freed
  sized : Sized numDevs p

theorem firstInit_start (numDevs : Nat) (p : Process) :
    FirstInit numDevs (Session.start p).process :=
  ⟨rfl, by simp [Session.start], fun h => absurd rfl h⟩

/-! ## One round -/

section Round

variable {n : Nat} {os : Os} {s : InitState} {k : Nat}

/-- The index is inside the table. -/
theorem initRound_index (hidx : s.devIdx = k) (hk : k < n) :
    s.devIdx % 2 ^ 64 < n ∧ s.devIdx.toNat = k := by
  rw [hidx]
  omega

/-- What holds of the table after a round that reached `core_fd`. -/
theorem opened_kept {p : Process} (hkept : p.table ≠ .freed) (hsized : Sized n p) (k : Nat)
    (fd : Int) {q : Process} (htable : q.table = (p.allocTable n).table)
    (hfds : q.host.fileDescriptors = (p.allocTable n).host.fileDescriptors) :
    (q.setEntry k fd).table = .allocated ∧ Sized n (q.setEntry k fd) := by
  obtain ⟨halloc, hlen, -, -⟩ := coreFd_process hsized (coreFd_of_kept (n := n) hkept)
  refine ⟨htable.trans halloc, fun _ => ?_⟩
  rw [Process.setEntry, hfds, List.length_set, hlen]

/-- The rest of a table of which entry `k` is set. -/
theorem setEntry_getElem? {p : Process} {fd : Int} (i : Nat)
    (hlen : k < p.host.fileDescriptors.length) :
    (p.setEntry k fd).host.fileDescriptors[i]? =
      if i = k then some fd else p.host.fileDescriptors[i]? := by
  by_cases hi : i = k
  · rw [if_pos hi, hi]
    exact List.getElem?_set_self hlen
  · rw [if_neg hi]
    exact List.getElem?_set_ne (Ne.symm hi)

@[simp] theorem visited_stat {kt : KernelType} {devIdx : Int} {p : Process} {calls : List OsCall}
    {filename : DevFile} {mode : Option FileMode} :
    InitState.visited ⟨kt, devIdx, p, calls ++ [.stat filename mode]⟩ =
      InitState.visited ⟨kt, devIdx, p, calls⟩ ++ [filename] := by
  rw [InitState.visited, List.filterMap_append]
  rfl

@[simp] theorem visited_opened {kt : KernelType} {devIdx fd : Int} {p : Process}
    {calls : List OsCall} {filename : DevFile} :
    InitState.visited ⟨kt, devIdx, p, calls ++ [.opened filename fd]⟩ =
      InitState.visited ⟨kt, devIdx, p, calls⟩ := by
  rw [InitState.visited, List.filterMap_append]
  exact List.append_nil _

/-- The loop goes on: with the next device, whose predecessor is open now. -/
structure NextDevice (n k : Nat) (s s' : InitState) : Prop where
  kerneltype : s'.kerneltype = s.kerneltype
  devIdx : s'.devIdx = (k + 1 : Nat)
  table : s'.process.table = .allocated
  sized : Sized n s'.process
  visited : s'.visited = s.visited ++ [s.kerneltype.filename k]
  entry : ∃ fd, 0 ≤ fd ∧ .opened (s.kerneltype.filename k) fd ∈ s'.calls ∧
    ∀ i, s'.process.host.fileDescriptors[i]? =
      if i = k then some fd else (s.process.allocTable n).host.fileDescriptors[i]?
  calls : ∀ c ∈ s.calls, c ∈ s'.calls

/-- The loop starts over, and by msr. -/
structure StartsOver (n k : Nat) (s s' : InitState) : Prop where
  msrSafe : s.kerneltype = .msrSafe
  kerneltype : s'.kerneltype = .msr
  devIdx : s'.devIdx = 0
  kept : s'.process.table ≠ .freed
  sized : Sized n s'.process
  visited : s'.visited = s.visited ++ [s.kerneltype.filename k]

variable (os) in
/-- What a round does to a device. -/
theorem initRound_cases (hkept : s.process.table ≠ .freed) (hsized : Sized n s.process)
    (hidx : s.devIdx = k) (hk : k < n) (hkt : s.kerneltype ≠ .unknown) :
    (∃ s', initRound n os s = some (.done (-1) s') ∧
        s'.visited = s.visited ++ [s.kerneltype.filename k]) ∨
      (∃ s', initRound n os s = some (.again s') ∧ StartsOver n k s s') ∨
      ∃ s', initRound n os s = some (.again s') ∧ NextDevice n k s s' := by
  obtain ⟨hlt, htoNat⟩ := initRound_index hidx hk
  rw [initRound, if_pos hlt, htoNat]
  simp only
  rcases statModule_cases (os s.calls) (s.kerneltype.filename k) hkt s.devIdx with
    hok | hend | ⟨hsafe, hover⟩
  · have hpos : ¬ s.devIdx < 0 := by omega
    simp only [hok, Int.lt_irrefl, if_false, if_neg hpos, coreFd_of_kept hkept, htoNat]
    obtain ⟨htable, hlen, -, -⟩ := coreFd_process hsized (coreFd_of_kept (n := n) hkept)
    rcases openFile_cases (s.process.allocTable n) (os _) (s.kerneltype.filename k) with
      hfail | ⟨fd, hfd, -, hopen⟩
    · -- `open` failed
      rw [hfail]
      simp only [if_true]
      obtain ⟨halloc, hsized'⟩ := opened_kept hkept hsized k (-1) rfl rfl
      by_cases hsafe : s.kerneltype = .msrSafe
      · rw [if_neg (not_not.mpr hsafe)]
        refine Or.inr (Or.inl ⟨_, rfl, hsafe, rfl, rfl, ?_, hsized', ?_⟩)
        · rw [halloc]
          decide
        · rw [visited_opened, visited_stat]
          rfl
      · rw [if_pos hsafe]
        refine Or.inl ⟨_, rfl, ?_⟩
        rw [visited_opened, visited_stat]
        rfl
    · rw [hopen]
      have hne : fd ≠ -1 := by omega
      simp only [if_neg hne]
      obtain ⟨halloc, hsized'⟩ := opened_kept hkept hsized k fd
        (q := { s.process.allocTable n with host := { (s.process.allocTable n).host with
          openOn := fun d => if d = fd then (s.kerneltype.filename k).cpu
            else (s.process.allocTable n).host.openOn d } }) rfl rfl
      refine Or.inr (Or.inr ⟨_, rfl, rfl, ?_, halloc, hsized', ?_, ⟨fd, hfd, ?_, fun i => ?_⟩, ?_⟩)
      · show s.devIdx + 1 = _
        rw [hidx]
        rfl
      · rw [visited_opened, visited_stat]
        rfl
      · exact List.mem_append_right _ (List.mem_singleton_self _)
      · exact setEntry_getElem? i (hk.trans_eq hlen.symm)
      · exact fun c hc => List.mem_append_left _ (List.mem_append_left _ hc)
  · -- no usable module
    rw [hend, if_pos (by decide)]
    refine Or.inl ⟨_, rfl, ?_⟩
    rw [visited_stat]
    rfl
  · simp only [hover, Int.lt_irrefl, if_false]
    rw [if_pos (by decide)]
    refine Or.inr (Or.inl ⟨_, rfl, hsafe, rfl, rfl, hkept, hsized, ?_⟩)
    rw [visited_stat]
    rfl

end Round

/-! ## The loop -/

section Loop

variable {n : Nat} {os : Os} {s : InitState} {k : Nat}

/-- The devices before `k` have been visited by the module in use, after a part of them
    by msr_safe if that is msr. -/
inductive Passes (n : Nat) (s : InitState) (k : Nat) : Prop
  | first (kerneltype : s.kerneltype = .msrSafe)
      (visited : s.visited = .whitelist :: (List.range k).map .msrSafe)
  | second (a : Nat) (le : a ≤ n) (kerneltype : s.kerneltype = .msr)
      (visited : s.visited =
        .whitelist :: ((List.range a).map .msrSafe ++ (List.range k).map .msr))

/-- Invariant of the loop at device `k`. -/
structure RoundInv (n : Nat) (s : InitState) (k : Nat) : Prop where
  devIdx : s.devIdx = k
  le : k ≤ n
  kept : s.process.table ≠ .freed
  sized : Sized n s.process
  passes : Passes n s k
  filled : ∀ i, i < k → s.process.table = .allocated ∧ ∃ fd, 0 ≤ fd ∧
    s.process.host.fileDescriptors[i]? = some fd ∧ .opened (s.kerneltype.filename i) fd ∈ s.calls

/-- The rounds that are left: those of this pass, and of a second one. -/
def roundsLeft (n : Nat) (s : InitState) : Nat :=
  n - s.devIdx.toNat + 1 + if s.kerneltype = .msrSafe then n else 0

theorem Passes.known (h : Passes n s k) : s.kerneltype ≠ .unknown := by
  cases h with
  | first kerneltype _ => simp [kerneltype]
  | second _ _ kerneltype _ => simp [kerneltype]

/-- Where the loop ends, the devices visited make one pass or two. -/
theorem Passes.visited {s' : InitState} (h : Passes n s k) (hk : k < n)
    (hvisited : s'.visited = s.visited ++ [s.kerneltype.filename k]) :
    ∃ a b, a ≤ n ∧ b ≤ n ∧
      s'.visited = .whitelist :: ((List.range a).map .msrSafe ++ (List.range b).map .msr) := by
  cases h with
  | first kerneltype visited =>
    refine ⟨k + 1, 0, hk, Nat.zero_le n, ?_⟩
    rw [hvisited, visited, kerneltype, List.range_succ]
    simp [KernelType.filename]
  | second a le kerneltype visited =>
    refine ⟨a, k + 1, le, hk, ?_⟩
    rw [hvisited, visited, kerneltype, List.range_succ]
    simp [KernelType.filename]

/-- The loop goes on with the next device. -/
theorem RoundInv.next {s' : InitState} (hI : RoundInv n s k) (hk : k < n)
    (h : NextDevice n k s s') : RoundInv n s' (k + 1) := by
  refine ⟨h.devIdx, hk, by simp [h.table], h.sized, ?_, fun i hi => ⟨h.table, ?_⟩⟩
  · have hvisited := h.visited
    cases hI.passes with
    | first kerneltype visited =>
      refine .first (h.kerneltype.trans kerneltype) ?_
      rw [hvisited, visited, kerneltype, List.range_succ, List.map_append]
      rfl
    | second a le kerneltype visited =>
      refine .second a le (h.kerneltype.trans kerneltype) ?_
      rw [hvisited, visited, kerneltype, List.range_succ, List.map_append, ← List.append_assoc]
      rfl
  · obtain ⟨fd, hfd, hcall, hentry⟩ := h.entry
    rw [h.kerneltype, hentry i]
    by_cases hik : i = k
    · subst hik
      exact ⟨fd, hfd, if_pos rfl, hcall⟩
    · obtain ⟨halloc, fd', hfd', hold, hcall'⟩ := hI.filled i (by omega)
      rw [if_neg hik, allocTable_of_ne (by simp [halloc])]
      exact ⟨fd', hfd', hold, h.calls _ hcall'⟩

/-- The loop starts over. -/
theorem RoundInv.over {s' : InitState} (hI : RoundInv n s k) (hk : k < n)
    (h : StartsOver n k s s') : RoundInv n s' 0 := by
  refine ⟨h.devIdx, Nat.zero_le n, h.kept, h.sized, ?_, fun i hi => absurd hi (Nat.not_lt_zero i)⟩
  cases hI.passes with
  | first kerneltype visited =>
    refine .second (k + 1) hk h.kerneltype ?_
    rw [h.visited, visited, kerneltype, List.range_succ, List.map_append]
    simp [KernelType.filename]
  | second _ _ kerneltype _ =>
    rw [h.msrSafe] at kerneltype
    contradiction

variable (os) in
/-- Every round comes nearer to the end. -/
theorem RoundInv.round (hn : n < 2 ^ 31) (hI : RoundInv n s k) :
    (∃ s' k', initRound n os s = some (.again s') ∧ RoundInv n s' k' ∧
        roundsLeft n s' < roundsLeft n s) ∨
      ∃ rc s', initRound n os s = some (.done rc s') ∧ InitLaw n rc s' ∧
        (rc = 0 ∨ rc = -1) := by
  by_cases hk : k < n
  · have hleft : s.devIdx.toNat = k := (initRound_index hI.devIdx hk).2
    rcases initRound_cases os hI.kept hI.sized hI.devIdx hk hI.passes.known with
      ⟨s', hs', hvisited⟩ | ⟨s', hs', hover⟩ | ⟨s', hs', hnext⟩
    · exact Or.inr ⟨-1, s', hs', ⟨hI.passes.visited hk hvisited, fun h => absurd h (by decide)⟩,
        Or.inr rfl⟩
    · refine Or.inl ⟨s', 0, hs', hI.over hk hover, ?_⟩
      -- the second pass has all devices before it, the first one had more
      rw [roundsLeft, roundsLeft, hleft, hover.devIdx, if_pos hover.msrSafe, hover.kerneltype,
        if_neg (by decide)]
      simp only [Int.toNat_zero]
      omega
    · refine Or.inl ⟨s', k + 1, hs', hI.next hk hnext, ?_⟩
      rw [roundsLeft, roundsLeft, hleft, hnext.devIdx, hnext.kerneltype, Int.toNat_natCast]
      omega
  · -- all devices are open
    obtain rfl : k = n := Nat.le_antisymm hI.le (Nat.not_lt.mp hk)
    have hge : ¬ s.devIdx % 2 ^ 64 < k := by
      rw [hI.devIdx]
      omega
    refine Or.inr ⟨0, s, by rw [initRound, if_neg hge],
      ⟨?_, fun _ => ⟨s.kerneltype, fun i hi => ?_⟩⟩, Or.inl rfl⟩
    · cases hI.passes with
      | first kerneltype visited =>
        exact ⟨k, 0, Nat.le_refl k, Nat.zero_le k, by simpa using visited⟩
      | second a le kerneltype visited => exact ⟨a, k, le, Nat.le_refl k, visited⟩
    · exact (hI.filled i hi).2

end Loop

/-- The loop of `init_msr` from the whitelist on. -/
theorem roundInv_start {n : Nat} {p : Process} (hp : FirstInit n p) (fs : FileSystem) :
    RoundInv n ⟨(statModule fs .whitelist .unknown 0).2.1, 0, p,
      [.stat .whitelist (fs.stat .whitelist)]⟩ 0 := by
  refine ⟨rfl, Nat.zero_le n, hp.kept, hp.sized, ?_, fun i hi => absurd hi (Nat.not_lt_zero i)⟩
  rw [statModule_whitelist]
  split
  · exact .first rfl rfl
  · exact .second 0 (Nat.zero_le n) rfl rfl

/-- Whatever the operating system answers, the first `init_msr` returns, after at most
    two passes over the devices; and if it returns 0, every entry of the table was
    filled by one module. -/
theorem initMsrRounds_returns {n : Nat} (hn : n < 2 ^ 31) (os : Os) {p : Process}
    (hp : FirstInit n p) :
    ∃ rc s, (rc = 0 ∨ rc = -1) ∧ InitLaw n rc s ∧
      ∀ fuel, 2 * n + 2 ≤ fuel → initMsrRounds n os fuel p = some (rc, s) := by
  have hI := roundInv_start hp (os [])
  have hround : ∀ s, (∃ k, RoundInv n s k) →
      (∃ s', initRound n os s = some (.again s') ∧ (∃ k, RoundInv n s' k) ∧
        roundsLeft n s' < roundsLeft n s) ∨
      ∃ rc s', initRound n os s = some (.done rc s') ∧ InitLaw n rc s' ∧ (rc = 0 ∨ rc = -1) := by
    rintro s ⟨k, hs⟩
    rcases hs.round os hn with ⟨s', k', heq, hI', hlt⟩ | hdone
    · exact Or.inl ⟨s', heq, ⟨k', hI'⟩, hlt⟩
    · exact Or.inr hdone
  obtain ⟨rc, s, ⟨hlaw, hrc⟩, hrun⟩ := Loops.rounds_returns hround ⟨0, hI⟩
  have hfuel : roundsLeft n ⟨(statModule (os []) .whitelist .unknown 0).2.1, 0, p,
      [.stat .whitelist ((os []).stat .whitelist)]⟩ < 2 * n + 2 := by
    rw [roundsLeft]
    simp only [Int.toNat_zero]
    split <;> omega
  by_cases hzero : rc = 0
  · subst hzero
    refine ⟨0, { s with process := { s.process with init := true } }, Or.inl rfl,
      ⟨hlaw.visited, hlaw.filled⟩, fun fuel hle => ?_⟩
    simp only [initMsrRounds, hp.flag, hrun fuel (hfuel.trans_le hle), ne_eq, not_true_eq_false,
      Bool.false_eq_true, if_false]
  · refine ⟨rc, s, hrc, hlaw, fun fuel hle => ?_⟩
    simp only [initMsrRounds, hp.flag, hrun fuel (hfuel.trans_le hle), ne_eq, hzero,
      not_false_eq_true, Bool.false_eq_true, if_false, if_true]

/-- A msr_safe module that is removed when the whitelist has been found. -/
def msrSafeRemoved : Os
  | [] => msrSafeFiles
  | _ => { msrSafeFiles with
      stat := fun
        | .msr _ => some ⟨true, true⟩
        | _ => none }

/-- The device loop is started over on the one device, which is then opened. -/
theorem oneCpu_returns :
    (initMsrRounds 1 msrSafeRemoved 4 (Session.start oneCpuProcess).process).map Prod.fst = some 0 ∧
      ∃ rc s, (rc = 0 ∨ rc = -1) ∧ InitLaw 1 rc s ∧ ∀ fuel, 2 * 1 + 2 ≤ fuel →
        initMsrRounds 1 msrSafeRemoved fuel (Session.start oneCpuProcess).process = some (rc, s) :=
  ⟨by rfl, initMsrRounds_returns (by decide) msrSafeRemoved (firstInit_start 1 oneCpuProcess)⟩

/-! ## Files that stay as they are -/

section Static

variable {n : Nat} {fs : FileSystem}

/-- On such files the rounds make up the loop of `Lifecycle`. -/
theorem initLoop_of_rounds (hn : n < 2 ^ 31) {fuel k : Nat} {rc : Int} {s s' : InitState}
    (hidx : s.devIdx = k) (hk : k ≤ n) (hkt : s.kerneltype ≠ .unknown)
    (h : Loops.rounds (initRound n fun _ => fs) fuel s = some (rc, s')) :
    initLoop n fs s.kerneltype k s.process = some (rc, s'.process) := by
  induction fuel generalizing s k with
  | zero => contradiction
  | succ fuel ih =>
    by_cases hlt : k < n
    · obtain ⟨hmod, htoNat⟩ := initRound_index hidx hlt
      rw [Loops.rounds, initRound, if_pos hmod, htoNat] at h
      rw [initLoop, if_pos hlt]
      simp only [statDevice, ← hidx] at h ⊢
      rcases statModule_cases fs (s.kerneltype.filename k) hkt s.devIdx with
        hok | hend | ⟨hsafe, hover⟩
      · have hpos : ¬ s.devIdx < 0 := by omega
        simp only [hok, Int.lt_irrefl, if_false, if_neg hpos, dif_neg hpos, dite_false,
          htoNat] at h ⊢
        cases hfd : s.process.coreFd n with
        | none =>
          rw [hfd] at h
          contradiction
        | some p =>
          simp only [hfd, Option.bind_eq_bind, Option.bind_some] at h ⊢
          by_cases hfail : (p.openFile fs (s.kerneltype.filename k)).1 = -1
          · simp only [hfail, if_true] at h ⊢
            by_cases hsafe : s.kerneltype = .msrSafe
            · rw [if_neg (not_not.mpr hsafe)] at h
              rw [dif_neg (not_not.mpr hsafe)]
              exact ih rfl (Nat.zero_le n) (by simp) h
            · rw [if_pos hsafe] at h
              rw [dif_pos hsafe]
              obtain ⟨rfl, rfl⟩ := Prod.mk.inj (Option.some.inj h)
              rfl
          · simp only [if_neg hfail] at h ⊢
            refine ih ?_ hlt ?_ h
            · exact congrArg (· + 1) hidx
            · exact hkt
      · rw [hend, if_pos (by decide)] at h
        rw [dif_pos (by rw [hend]; decide)]
        obtain ⟨rfl, rfl⟩ := Prod.mk.inj (Option.some.inj h)
        rfl
      · simp only [hover, Int.lt_irrefl, if_false, dite_false] at h ⊢
        rw [if_pos (by decide)] at h
        rw [dif_pos (by decide)]
        exact ih rfl (Nat.zero_le n) (by simp) h
    · obtain rfl : k = n := Nat.le_antisymm hk (Nat.not_lt.mp hlt)
      have hge : ¬ s.devIdx % 2 ^ 64 < k := by
        rw [hidx]
        omega
      rw [Loops.rounds, initRound, if_neg hge] at h
      obtain ⟨rfl, rfl⟩ := Prod.mk.inj (Option.some.inj h)
      rw [initLoop, if_neg hlt]

/-- And a call that returns is the `init_msr` of `Lifecycle`. -/
theorem initMsr_of_rounds (hn : n < 2 ^ 31) {fuel : Nat} {p : Process} {rc : Int} {s : InitState}
    (h : initMsrRounds n (fun _ => fs) fuel p = some (rc, s)) :
    initMsr n fs p = some (rc, s.process) := by
  rw [initMsrRounds] at h
  cases hflag : p.init with
  | true =>
    rw [hflag, if_pos rfl] at h
    obtain ⟨rfl, rfl⟩ := Prod.mk.inj (Option.some.inj h)
    rw [initMsr, hflag, if_pos rfl]
  | false =>
    simp only [hflag, Bool.false_eq_true, if_false] at h
    cases hrun : Loops.rounds (initRound n fun _ => fs) fuel
        ⟨(statModule fs .whitelist .unknown 0).2.1, 0, p,
          [.stat .whitelist (fs.stat .whitelist)]⟩ with
    | none =>
      rw [hrun] at h
      contradiction
    | some r =>
      have hkt : (statModule fs .whitelist .unknown 0).2.1 ≠ .unknown := by
        rw [statModule_whitelist]
        split <;> decide
      have hloop := initLoop_of_rounds hn rfl (Nat.zero_le n) hkt hrun
      simp only [initMsr, hflag, Bool.false_eq_true, if_false, hloop, Option.bind_eq_bind,
        Option.bind_some]
      rw [hrun] at h
      simp only at h
      split at h
      · rename_i hrc
        obtain ⟨rfl, rfl⟩ := Prod.mk.inj (Option.some.inj h)
        rw [if_pos hrc]
      · rename_i hrc
        obtain ⟨rfl, rfl⟩ := Prod.mk.inj (Option.some.inj h)
        rw [if_neg hrc]

end Static

end Libmsr
