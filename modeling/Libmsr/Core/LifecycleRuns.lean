/-
  Libmsr.Core.LifecycleRuns

  What the descriptor table holds after any sequence of lifecycle calls and
  register accesses.

  `finalize_msr` closes and zeroes the entries and frees the table, but resets
  neither the flag of `init_msr` nor the one of `core_fd`.  A later `init_msr`
  therefore returns 0 without opening anything, and any later call that needs the
  table uses freed memory.  The run theorem says that these are the only ways to a
  table that does not serve its CPUs.
-/
import Libmsr.Core.Lifecycle
import Libmsr.Lib.Runs

namespace Libmsr

/-! ## Tables -/

/-- The first `n` entries are descriptors open on their own CPU's MSR device. -/
def Serving (n : Nat) (p : Process) : Prop :=
  ∀ i, i < n → p.table = .allocated ∧
    ∃ fd, p.host.fileDescriptors[i]? = some fd ∧ p.host.openOn fd = some i

/-- The table is gone, or one of its entries is open on nothing. -/
def Spoiled (n : Nat) (p : Process) : Prop :=
  p.table = .freed ∨ p.table = .allocated ∧
    ∃ i fd, i < n ∧ p.host.fileDescriptors[i]? = some fd ∧ p.host.openOn fd = none

/-- Once allocated the table has an entry for each device. -/
def Sized (n : Nat) (p : Process) : Prop :=
  p.table ≠ .unallocated → p.host.fileDescriptors.length = n

section Tables

variable {n : Nat} {p p' : Process}

theorem Serving.zero (p : Process) : Serving 0 p := fun _ hi => absurd hi (Nat.not_lt_zero _)

theorem Serving.not_spoiled (hn : 0 < n) (h : Serving n p) : ¬ Spoiled n p := by
  rintro (hfreed | ⟨-, i, fd, hi, hfd, hnone⟩)
  · have halloc := (h 0 hn).1
    rw [hfreed] at halloc
    exact absurd halloc (by decide)
  · obtain ⟨fd', hfd', hopen⟩ := (h i hi).2
    obtain rfl := Option.some.inj (hfd.symm.trans hfd')
    rw [hnone] at hopen
    contradiction

/-- A table that serves all CPUs is what register access relies on. -/
theorem Serving.ready (hsize : Sized n p) (htable : p.table ≠ .unallocated) (h : Serving n p) :
    p.host.Ready n :=
  ⟨hsize htable, fun i hi => (h i hi).2⟩

/-- Whether the table serves its CPUs depends on the table and on what is open. -/
theorem Serving.congr (h : Serving n p) (htable : p'.table = p.table)
    (hfds : p'.host.fileDescriptors = p.host.fileDescriptors)
    (hopen : p'.host.openOn = p.host.openOn) : Serving n p' := by
  intro i hi
  rw [htable, hfds, hopen]
  exact h i hi

theorem Spoiled.congr (h : Spoiled n p) (htable : p'.table = p.table)
    (hfds : p'.host.fileDescriptors = p.host.fileDescriptors)
    (hopen : p'.host.openOn = p.host.openOn) : Spoiled n p' := by
  rw [Spoiled, htable, hfds, hopen]
  exact h

/-- Allocating the table again does nothing. -/
theorem allocTable_of_ne (hne : p.table ≠ .unallocated) : p.allocTable n = p := by
  rw [Process.allocTable]
  cases htable : p.table with
  | unallocated => exact absurd htable hne
  | allocated => rfl
  | freed => rfl

theorem allocTable_table_ne : (p.allocTable n).table ≠ .unallocated := by
  cases htable : p.table with
  | unallocated => simp [Process.allocTable, htable]
  | allocated => simp [Process.allocTable, htable]
  | freed => simp [Process.allocTable, htable]

theorem allocTable_sized (hsize : Sized n p) : Sized n (p.allocTable n) := by
  cases htable : p.table with
  | unallocated =>
    intro _
    simp [Process.allocTable, htable]
  | allocated =>
    rw [allocTable_of_ne (by simp [htable])]
    exact hsize
  | freed =>
    rw [allocTable_of_ne (by simp [htable])]
    exact hsize

/-- A table that serves its CPUs is allocated already. -/
theorem Serving.allocTable (h : Serving n p) : Serving n (p.allocTable n) := by
  intro i hi
  rw [allocTable_of_ne (by simp [(h i hi).1])]
  exact h i hi

theorem Spoiled.allocTable (h : Spoiled n p) : Spoiled n (p.allocTable n) := by
  have hne : p.table ≠ .unallocated := by
    rcases h with hfreed | ⟨halloc, -⟩
    · simp [hfreed]
    · simp [halloc]
  rw [allocTable_of_ne hne]
  exact h

theorem allocTable_issued : (p.allocTable n).host.issued = p.host.issued := by
  rw [Process.allocTable]
  cases p.table <;> rfl

theorem allocTable_init : (p.allocTable n).init = p.init := by
  rw [Process.allocTable]
  cases p.table <;> rfl

/-- `core_fd` and the table of a process that was not finalized. -/
theorem coreFd_of_kept {p : Process} (hkept : p.table ≠ .freed) :
    p.coreFd n = some (p.allocTable n) := by
  rw [Process.coreFd, if_neg]
  cases htable : p.table with
  | unallocated => simp [Process.allocTable, htable]
  | allocated => simp [Process.allocTable, htable]
  | freed => exact absurd htable hkept

/-- What `core_fd` leaves: an allocated table of full length, the rest as it was. -/
theorem coreFd_process (hsize : Sized n p) (h : p.coreFd n = some p') :
    p'.table = .allocated ∧ p'.host.fileDescriptors.length = n ∧ p'.init = p.init ∧
      (p.table = .allocated → p' = p) := by
  simp only [Process.coreFd] at h
  split at h
  · contradiction
  · rename_i hfreed
    obtain rfl := Option.some.inj h
    have hne := allocTable_table_ne (n := n) (p := p)
    refine ⟨?_, allocTable_sized hsize hne, allocTable_init, fun halloc => ?_⟩
    · revert hne hfreed
      cases (p.allocTable n).table <;> simp
    · exact allocTable_of_ne (by simp [halloc])

/-- `open` fails and changes nothing, or hands out a descriptor that was open on
    nothing. -/
theorem openFile_cases (p : Process) (fs : FileSystem) (filename : DevFile) :
    p.openFile fs filename = (-1, p) ∨
      ∃ fd, 0 ≤ fd ∧ p.host.openOn fd = none ∧ p.openFile fs filename =
        (fd, { p with host := { p.host with
          openOn := fun d => if d = fd then filename.cpu else p.host.openOn d } }) := by
  rw [Process.openFile]
  cases fs.opens filename with
  | none => exact Or.inl rfl
  | some fd =>
    by_cases hfree : 0 ≤ fd ∧ p.host.openOn fd = none ∧ p.others fd = false
    · exact Or.inr ⟨fd, hfree.1, hfree.2.1, if_pos hfree⟩
    · exact Or.inl (if_neg hfree)

/-- Whatever `close` returns, the descriptor is open on nothing afterwards. -/
theorem closeFile_spec (p : Process) (fails : Bool) (fd : Int) :
    (p.closeFile fails fd).2.host.openOn fd = none ∧
      (p.closeFile fails fd).2.table = p.table ∧
      (p.closeFile fails fd).2.host.fileDescriptors = p.host.fileDescriptors ∧
      (p.closeFile fails fd).2.init = p.init := by
  rw [Process.closeFile]
  split
  · rename_i hclosed
    exact ⟨hclosed.1, rfl, rfl, rfl⟩
  · exact ⟨if_pos rfl, rfl, rfl, rfl⟩

end Tables

/-! ## stat_module -/

/-- `stat` finds the file, and its owner may read and write it. -/
def FileSystem.accessible (fs : FileSystem) (filename : DevFile) : Bool :=
  match fs.stat filename with
  | none => false
  | some mode => mode.readable && mode.writable

section StatModule

variable {fs : FileSystem} {filename : DevFile} {kt : KernelType} {devIdx : Int}

/-- A device that may be used. -/
theorem statModule_accessible (h : fs.accessible filename = true) (hkt : kt ≠ .unknown) :
    statModule fs filename kt devIdx = (0, kt, devIdx) := by
  rw [FileSystem.accessible] at h
  cases hstat : fs.stat filename with
  | none =>
    rw [hstat] at h
    contradiction
  | some mode =>
    rw [hstat] at h
    obtain ⟨hr, hw⟩ := Bool.and_eq_true_iff.mp h
    cases kt with
    | unknown => exact absurd rfl hkt
    | msr => simp [statModule, hstat, hr, hw]
    | msrSafe => simp [statModule, hstat, hr, hw]

/-- A device with the wrong permissions ends it, by either module. -/
theorem statModule_denied (h : fs.accessible filename = false) (hfile : fs.stat filename ≠ none)
    (hkt : kt ≠ .unknown) (devIdx : Int) : (statModule fs filename kt devIdx).1 = -1 := by
  rw [FileSystem.accessible] at h
  cases hstat : fs.stat filename with
  | none => exact absurd hstat hfile
  | some mode =>
    rw [hstat] at h
    have hmode : (!mode.readable || !mode.writable) = true := by
      rw [← Bool.not_and, Bool.not_eq_true']
      exact h
    cases kt with
    | unknown => exact absurd rfl hkt
    | msr => simp only [statModule, hstat, hmode, if_true]
    | msrSafe => simp only [statModule, hstat, hmode, if_true]

/-- Without an msr_safe device the loop starts over. -/
theorem statModule_missing_msrSafe (h : fs.stat filename = none) :
    statModule fs filename .msrSafe devIdx = (0, .msr, -1) := by
  simp only [statModule, h]

theorem statModule_missing_msr (h : fs.stat filename = none) :
    statModule fs filename .msr devIdx = (-1, .msr, devIdx) := by
  simp only [statModule, h]

/-- What `stat_module` makes of a device: it may be used, it ends the loop, or the
    msr_safe module is given up. -/
theorem statModule_cases (fs : FileSystem) (filename : DevFile) (hkt : kt ≠ .unknown)
    (devIdx : Int) :
    statModule fs filename kt devIdx = (0, kt, devIdx) ∨
      (statModule fs filename kt devIdx).1 = -1 ∨
      kt = .msrSafe ∧ statModule fs filename kt devIdx = (0, .msr, -1) := by
  by_cases hacc : fs.accessible filename = true
  · exact Or.inl (statModule_accessible hacc hkt)
  · by_cases hstat : fs.stat filename = none
    · cases kt with
      | unknown => exact absurd rfl hkt
      | msr => exact Or.inr (Or.inl (by rw [statModule_missing_msr hstat]))
      | msrSafe => exact Or.inr (Or.inr ⟨rfl, statModule_missing_msrSafe hstat⟩)
    · exact Or.inr (Or.inl (statModule_denied (Bool.eq_false_iff.mpr hacc) hstat hkt devIdx))

/-- The whitelist decides between the two modules. -/
theorem statModule_whitelist (fs : FileSystem) (filename : DevFile) (devIdx : Int) :
    (statModule fs filename .unknown devIdx).2.1 =
      if fs.accessible filename then .msrSafe else .msr := by
  rw [FileSystem.accessible]
  cases hstat : fs.stat filename with
  | none => simp [statModule, hstat]
  | some mode => cases hr : mode.readable <;> cases hw : mode.writable <;>
      simp [statModule, hstat, hr, hw]

end StatModule

/-- The module that the whitelist asks for. -/
def FileSystem.firstModule (fs : FileSystem) : KernelType :=
  if fs.accessible .whitelist then .msrSafe else .msr

/-- `init_msr` finds a device file of CPU 0 that may be used: of the module it starts
    with, or of msr where that of msr_safe is missing. -/
def FileSystem.reachesTable (fs : FileSystem) : Bool :=
  if fs.accessible .whitelist then
    fs.accessible (.msrSafe 0) || (fs.stat (.msrSafe 0)).isNone && fs.accessible (.msr 0)
  else fs.accessible (.msr 0)

/-! ## init_msr and finalize_msr -/

section Loops

variable {n : Nat}

/-- One more device opened: the earlier entries keep their descriptors, since the
    new one was open on nothing. -/
theorem Serving.succ {p : Process} {k : Nat} {filename : DevFile} {fd : Int}
    (hlen : p.host.fileDescriptors.length = n) (hk : k < n) (htable : p.table = .allocated)
    (hcpu : filename.cpu = some k) (hfresh : p.host.openOn fd = none) (h : Serving k p) :
    Serving (k + 1) (Process.setEntry { p with host := { p.host with
      openOn := fun d => if d = fd then filename.cpu else p.host.openOn d } } k fd) := by
  intro i hi
  refine ⟨htable, ?_⟩
  simp only [Process.setEntry]
  by_cases hik : i = k
  · subst hik
    refine ⟨fd, List.getElem?_set_self (by omega), ?_⟩
    rw [if_pos rfl, hcpu]
  · obtain ⟨fd', hfd', hopen⟩ := (h i (by omega)).2
    refine ⟨fd', ?_, ?_⟩
    · rw [List.getElem?_set_ne (Ne.symm hik), hfd']
    · have hne : fd' ≠ fd := by
        rintro rfl
        rw [hfresh] at hopen
        contradiction
      rw [if_neg hne, hopen]

/-- The loop of `init_msr` keeps the table's length and the static flag; if it
    ends with 0, every entry is open on its own CPU. -/
theorem initLoop_spec {fs : FileSystem} {kt : KernelType} {k : Nat} {p p' : Process} {rc : Int}
    (h : initLoop n fs kt k p = some (rc, p')) (hsize : Sized n p) (hk : k ≤ n)
    (hserving : Serving k p) :
    Sized n p' ∧ p'.init = p.init ∧ (rc = 0 → Serving n p') := by
  induction kt, k, p using initLoop.induct n fs with
  | case1 kt k p hlt hrc =>
    -- no usable module: the loop ends with an error
    rw [initLoop, if_pos hlt, dif_pos hrc] at h
    obtain ⟨rfl, rfl⟩ := Prod.mk.inj (Option.some.inj h)
    exact ⟨hsize, rfl, fun hzero => absurd hzero (by omega)⟩
  | case2 kt k p hlt hrc hneg ih =>
    -- another kind of device file: the loop starts over
    rw [initLoop, if_pos hlt, dif_neg hrc, dif_pos hneg] at h
    exact ih h hsize (Nat.zero_le n) (Serving.zero p)
  | case3 kt k p hlt hrc hneg ihRestart ihNext =>
    rw [initLoop, if_pos hlt, dif_neg hrc, dif_neg hneg] at h
    simp only [Option.bind_eq_bind, Option.bind_eq_some_iff] at h
    obtain ⟨p₁, hfd, h⟩ := h
    obtain ⟨htable, hlen, hinit, hsame⟩ := coreFd_process hsize hfd
    -- if an entry is served, the table was allocated, so `core_fd` changed nothing
    have hserving₁ : Serving k p₁ := by
      intro i hi
      rw [hsame (hserving i hi).1]
      exact hserving i hi
    have hsized : ∀ {q : Process} {fd : Int},
        q.host.fileDescriptors = p₁.host.fileDescriptors → Sized n (q.setEntry k fd) := by
      intro q fd hq _
      rw [Process.setEntry, hq, List.length_set, hlen]
    rcases openFile_cases p₁ fs (kt.filename k) with hopen | ⟨fd, hpos, hfresh, hopen⟩
    · -- `open` failed, and -1 is stored in the table
      rw [hopen] at h
      simp only [if_true] at h
      split at h
      · obtain ⟨rfl, rfl⟩ := Prod.mk.inj (Option.some.inj h)
        exact ⟨hsized rfl, hinit, fun hzero => absurd hzero (by omega)⟩
      · rename_i hkt
        obtain ⟨hsize', hinit', hserving'⟩ :=
          ihRestart _ _ hkt h (hsized rfl) (Nat.zero_le n) (Serving.zero _)
        exact ⟨hsize', hinit'.trans hinit, hserving'⟩
    · rw [hopen] at h
      -- the device is open, and the loop goes on with one more entry served
      have hne : fd ≠ -1 := by omega
      simp only [if_neg hne] at h
      have hcpu : (kt.filename k).cpu = some k := by
        rw [KernelType.filename]
        split <;> rfl
      obtain ⟨hsize', hinit', hserving'⟩ := ihNext _ _ h (hsized rfl) hlt
        (hserving₁.succ hlen hlt htable hcpu hfresh)
      exact ⟨hsize', hinit'.trans hinit, hserving'⟩
  | case4 kt k p hge =>
    rw [initLoop, if_neg hge] at h
    obtain ⟨rfl, rfl⟩ := Prod.mk.inj (Option.some.inj h)
    obtain rfl : k = n := by omega
    exact ⟨hsize, rfl, fun _ => hserving⟩

/-- An `init_msr` that finds the static flag unset and returns 0 has opened every
    device. -/
theorem initMsr_spec {fs : FileSystem} {p p' : Process} {rc : Int}
    (h : initMsr n fs p = some (rc, p')) (hflag : p.init = false) (hsize : Sized n p) :
    Sized n p' ∧ (rc = 0 → Serving n p') ∧ (rc ≠ 0 → p'.init = false) := by
  simp only [initMsr, hflag, Bool.false_eq_true, if_false, Option.bind_eq_bind,
    Option.bind_eq_some_iff] at h
  obtain ⟨⟨rc₁, p₁⟩, hloop, h⟩ := h
  obtain ⟨hsize₁, hinit₁, hserving₁⟩ := initLoop_spec hloop hsize (Nat.zero_le n) (Serving.zero p)
  by_cases hzero : rc₁ = 0
  · rw [if_neg (not_not.mpr hzero)] at h
    obtain ⟨rfl, rfl⟩ := Prod.mk.inj (Option.some.inj h)
    exact ⟨hsize₁, fun _ => hserving₁ hzero, fun hne => absurd rfl hne⟩
  · rw [if_pos hzero] at h
    obtain ⟨rfl, rfl⟩ := Prod.mk.inj (Option.some.inj h)
    exact ⟨hsize₁, fun h0 => absurd h0 hzero, fun _ => hinit₁.trans hflag⟩

theorem initMsr_flag {fs : FileSystem} {p p' : Process} (h : initMsr n fs p = some (0, p')) :
    p'.init = true := by
  rw [initMsr] at h
  split at h
  · rename_i hflag
    obtain ⟨-, rfl⟩ := Prod.mk.inj (Option.some.inj h)
    exact hflag
  · simp only [Option.bind_eq_bind, Option.bind_eq_some_iff] at h
    obtain ⟨⟨rc, p₁⟩, -, h⟩ := h
    by_cases hzero : rc = 0
    · rw [if_neg (not_not.mpr hzero)] at h
      obtain ⟨-, rfl⟩ := Prod.mk.inj (Option.some.inj h)
      rfl
    · rw [if_pos hzero] at h
      exact absurd (Prod.mk.inj (Option.some.inj h)).1 hzero

/-- The loop of `finalize_msr` ends with all devices closed, or at one that it
    could not close; that entry is open on nothing either. -/
theorem closeLoop_spec {closeFails : Nat → Bool} {k : Nat} {p p' : Process} {rc : Int}
    (h : closeLoop n closeFails k p = some (rc, p')) (hsize : Sized n p) :
    Sized n p' ∧ p'.init = p.init ∧ (rc ≠ 0 → Spoiled n p') ∧
      (k < n ∨ p.table = .allocated → p'.table = .allocated) := by
  induction k, p using closeLoop.induct n with
  | case1 k p hlt ih =>
    rw [closeLoop, if_pos hlt] at h
    simp only [Option.bind_eq_bind, Option.bind_eq_some_iff] at h
    obtain ⟨p₁, hcore, fd, hfd, h⟩ := h
    obtain ⟨htable, hlen, hinit, -⟩ := coreFd_process hsize hcore
    obtain ⟨hclosed, htable', hfds', hinit'⟩ := closeFile_spec p₁ (closeFails k) fd
    split at h
    · -- `close` failed: the entry keeps a descriptor that is open on nothing
      obtain ⟨rfl, rfl⟩ := Prod.mk.inj (Option.some.inj h)
      refine ⟨fun _ => hfds' ▸ hlen, hinit'.trans hinit, fun _ => ?_, fun _ => htable'.trans htable⟩
      exact Or.inr ⟨htable'.trans htable, k, fd, hlt, hfds' ▸ hfd, hclosed⟩
    · have hsized : Sized n ((p₁.closeFile (closeFails k) fd).2.setEntry k 0) := by
        intro _
        rw [Process.setEntry, hfds', List.length_set, hlen]
      obtain ⟨hsize₂, hinit₂, hspoiled₂, htable₂⟩ := ih _ h hsized
      exact ⟨hsize₂, hinit₂.trans (hinit'.trans hinit), hspoiled₂,
        fun _ => htable₂ (Or.inr (htable'.trans htable))⟩
  | case2 k p hge =>
    rw [closeLoop, if_neg hge] at h
    obtain ⟨rfl, rfl⟩ := Prod.mk.inj (Option.some.inj h)
    refine ⟨hsize, rfl, fun hne => absurd rfl hne, ?_⟩
    rintro (hlt | halloc)
    · exact absurd hlt hge
    · exact halloc

/-- `finalize_msr` spoils the table, whatever it returns, and leaves the flag of
    `init_msr` alone. -/
theorem finalizeMsr_spec {closeFails : Nat → Bool} {p p' : Process} {rc : Int}
    (h : finalizeMsr n closeFails p = some (rc, p')) (hsize : Sized n p) :
    Sized n p' ∧ p'.init = p.init ∧ (0 < n → Spoiled n p') := by
  simp only [finalizeMsr, Option.bind_eq_bind, Option.bind_eq_some_iff] at h
  obtain ⟨⟨rc₁, p₁⟩, hloop, h⟩ := h
  obtain ⟨hsize₁, hinit₁, hspoiled₁, htable₁⟩ := closeLoop_spec hloop hsize
  by_cases hzero : rc₁ = 0
  · rw [if_neg (not_not.mpr hzero), Option.bind_eq_some_iff] at h
    obtain ⟨p₂, hfree, h⟩ := h
    obtain ⟨rfl, rfl⟩ := Prod.mk.inj (Option.some.inj h)
    -- all devices are closed: the table is freed
    rw [Process.memhdlrFinalize] at hfree
    cases htable : p₁.table with
    | unallocated =>
      simp only [htable, Option.some.injEq] at hfree
      subst hfree
      refine ⟨hsize₁, hinit₁, fun hn => ?_⟩
      rw [htable₁ (Or.inl hn)] at htable
      contradiction
    | allocated =>
      simp only [htable, Option.some.injEq] at hfree
      subst hfree
      exact ⟨fun _ => hsize₁ (by simp [htable]), hinit₁, fun _ => Or.inl rfl⟩
    | freed =>
      simp [htable] at hfree
  · rw [if_pos hzero] at h
    obtain ⟨rfl, rfl⟩ := Prod.mk.inj (Option.some.inj h)
    exact ⟨hsize₁, hinit₁, fun _ => hspoiled₁ hzero⟩

end Loops

/-! ## Register access -/

/-- The access a register call asks for, and the device index it is for. -/
def Call.access : Call → Option (Nat × Access)
  | .read devIdx msr _ => some (devIdx.toNat, .read devIdx.toNat msr)
  | .write devIdx msr val => some (devIdx.toNat, .write devIdx.toNat msr val)
  | _ => none

/-- `issued'` follows `issued` with nothing but accesses to that CPU, which is
    one of the `n`. -/
def IssuesOwn (n cpu : Nat) (a : Access) (issued issued' : List Access) : Prop :=
  issued' = issued ∨ cpu < n ∧ issued' = issued ++ [a]

section Access

variable {n : Nat} {h : Host} {devIdx : BitVec 32} {msr : Nat} {val : Word}

theorem readMsrByIdx_sameDevices : h.SameDevices (readMsrByIdx h devIdx msr val).2.2 := by
  rw [readMsrByIdx]
  cases coreFd h devIdx with
  | none => exact .refl h
  | some entry =>
    simp only
    cases h.fileDescriptors[entry]? with
    | none => exact .refl h
    | some fd =>
      simp only [Host.pread]
      cases h.openOn fd with
      | none => exact .refl h
      | some cpu =>
        cases hfail : h.fails cpu msr with
        | true =>
          simp only [hfail, if_true]
          exact (Host.SameDevices.refl h).log _
        | false =>
          simp only [hfail, Bool.false_eq_true, if_false]
          exact (Host.SameDevices.refl h).log _

theorem writeMsrByIdx_sameDevices : h.SameDevices (writeMsrByIdx h devIdx msr val).2 := by
  rw [writeMsrByIdx]
  cases coreFd h devIdx with
  | none => exact .refl h
  | some entry =>
    simp only
    cases h.fileDescriptors[entry]? with
    | none => exact .refl h
    | some fd =>
      simp only [Host.pwrite]
      cases h.openOn fd with
      | none => exact .refl h
      | some cpu =>
        cases hfail : h.failsWrite cpu msr with
        | true =>
          simp only [hfail, if_true]
          exact (Host.SameDevices.refl h).log _
        | false =>
          simp only [hfail, Bool.false_eq_true, if_false]
          exact ((Host.SameDevices.refl h).setReg _ _ _).log _

theorem readMsrByIdx_issuesOwn (hr : h.Ready n) (hlt : n < 2 ^ 31) :
    IssuesOwn n devIdx.toNat (.read devIdx.toNat msr) h.issued
      (readMsrByIdx h devIdx msr val).2.2.issued := by
  by_cases hidx : devIdx.toNat < n
  · rw [readMsrByIdx_lt hr hlt hidx]
    refine Or.inr ⟨hidx, ?_⟩
    split <;> rfl
  · rw [readMsrByIdx_ge hr hlt (Nat.not_lt.mp hidx)]
    exact Or.inl rfl

theorem writeMsrByIdx_issuesOwn (hr : h.Ready n) (hlt : n < 2 ^ 31) :
    IssuesOwn n devIdx.toNat (.write devIdx.toNat msr val) h.issued
      (writeMsrByIdx h devIdx msr val).2.issued := by
  by_cases hidx : devIdx.toNat < n
  · rw [writeMsrByIdx_lt hr hlt hidx]
    refine Or.inr ⟨hidx, ?_⟩
    split <;> rfl
  · rw [writeMsrByIdx_ge hr hlt (Nat.not_lt.mp hidx)]
    exact Or.inl rfl

/-- A register call works on the host alone, and issues its own access where the
    table serves its CPUs. -/
theorem exec_access {p p' : Process} {c : Call} {rc : Int} {cpu : Nat} {a : Access}
    (hlt : n < 2 ^ 31) (hacc : c.access = some (cpu, a)) (hexec : c.exec n p = some (rc, p')) :
    ∃ h', (p.allocTable n).host.SameDevices h' ∧ p' = { p.allocTable n with host := h' } ∧
      ((p.allocTable n).host.Ready n →
        IssuesOwn n cpu a (p.allocTable n).host.issued h'.issued) := by
  cases c with
  | init fs => contradiction
  | finalize closeFails => contradiction
  | read devIdx msr val =>
    obtain ⟨rfl, rfl⟩ := Prod.mk.inj (Option.some.inj hacc)
    simp only [Call.exec, Process.readMsrByIdx] at hexec
    split at hexec
    · contradiction
    · obtain ⟨-, rfl⟩ := Prod.mk.inj (Option.some.inj hexec)
      exact ⟨_, readMsrByIdx_sameDevices, rfl, fun hr => readMsrByIdx_issuesOwn hr hlt⟩
  | write devIdx msr val =>
    obtain ⟨rfl, rfl⟩ := Prod.mk.inj (Option.some.inj hacc)
    simp only [Call.exec, Process.writeMsrByIdx] at hexec
    split at hexec
    · contradiction
    · obtain ⟨-, rfl⟩ := Prod.mk.inj (Option.some.inj hexec)
      exact ⟨_, writeMsrByIdx_sameDevices, rfl, fun hr => writeMsrByIdx_issuesOwn hr hlt⟩

end Access

/-! ## Which calls have an outcome -/

section Outcomes

variable {n : Nat} {p : Process}

theorem openFile_table (fs : FileSystem) (filename : DevFile) :
    (p.openFile fs filename).2.table = p.table := by
  rcases openFile_cases p fs filename with hopen | ⟨fd, -, -, hopen⟩ <;> rw [hopen]

/-- A table that was not freed can be used, and is allocated from then on. -/
theorem allocTable_allocated (hkept : p.table ≠ .freed) : (p.allocTable n).table = .allocated := by
  rw [Process.allocTable]
  cases htable : p.table with
  | unallocated => rfl
  | allocated => exact htable
  | freed => exact absurd htable hkept

/-- While the table was not freed, the loop of `init_msr` ends, and does not free it. -/
theorem initLoop_total (fs : FileSystem) (kt : KernelType) (k : Nat)
    (hkept : p.table ≠ .freed) :
    ∃ rc p', initLoop n fs kt k p = some (rc, p') ∧ p'.table ≠ .freed := by
  induction kt, k, p using initLoop.induct n fs with
  | case1 kt k p hlt hrc =>
    rw [initLoop, if_pos hlt, dif_pos hrc]
    exact ⟨_, _, rfl, hkept⟩
  | case2 kt k p hlt hrc hneg ih =>
    rw [initLoop, if_pos hlt, dif_neg hrc, dif_pos hneg]
    exact ih hkept
  | case3 kt k p hlt hrc hneg ihRestart ihNext =>
    rw [initLoop, if_pos hlt, dif_neg hrc, dif_neg hneg, coreFd_of_kept hkept]
    simp only [Option.bind_eq_bind, Option.bind_some]
    -- `core_fd` has left an allocated table, and the entry is stored in it
    have hnext : (((p.allocTable n).openFile fs (kt.filename k)).2.setEntry k
        ((p.allocTable n).openFile fs (kt.filename k)).1).table ≠ .freed := by
      show ((p.allocTable n).openFile fs (kt.filename k)).2.table ≠ .freed
      rw [openFile_table, allocTable_allocated hkept]
      decide
    split
    · split
      · exact ⟨_, _, rfl, hnext⟩
      · rename_i hkt
        exact ihRestart _ _ hkt hnext
    · rename_i hfd
      exact ihNext _ _ hnext
  | case4 kt k p hge =>
    rw [initLoop, if_neg hge]
    exact ⟨_, _, rfl, hkept⟩

/-- So does `init_msr`. -/
theorem initMsr_total (fs : FileSystem) (hkept : p.table ≠ .freed) :
    ∃ rc p', initMsr n fs p = some (rc, p') ∧ p'.table ≠ .freed := by
  cases hflag : p.init with
  | true => exact ⟨0, p, by rw [initMsr, if_pos hflag], hkept⟩
  | false =>
    obtain ⟨rc, p', hloop, hkept'⟩ :=
      initLoop_total (n := n) fs (statModule fs .whitelist .unknown 0).2.1 0 hkept
    simp only [initMsr, hflag, Bool.false_eq_true, if_false, Option.bind_eq_bind, hloop,
      Option.bind_some]
    split
    · exact ⟨rc, p', rfl, hkept'⟩
    · exact ⟨0, { p' with init := true }, rfl, hkept'⟩

/-- A freed table cannot be looked into. -/
theorem coreFd_of_freed (hfreed : p.table = .freed) : p.coreFd n = none := by
  rw [Process.coreFd, allocTable_of_ne (by simp [hfreed]), if_pos hfreed]

/-- With the table freed, a device that may be used leads to an access of it. -/
theorem initLoop_freed_accessible {fs : FileSystem} {kt : KernelType} (hn : 0 < n)
    (hfreed : p.table = .freed) (hkt : kt ≠ .unknown)
    (hacc : fs.accessible (kt.filename 0) = true) : initLoop n fs kt 0 p = none := by
  have hstat : statDevice fs kt 0 = (0, kt, 0) := statModule_accessible hacc hkt
  rw [initLoop, if_pos hn, dif_neg (by simp [hstat]), dif_neg (by simp [hstat]),
    coreFd_of_freed hfreed]
  rfl

/-- One that may not ends the call before. -/
theorem initLoop_denied_first {fs : FileSystem} {kt : KernelType} (hn : 0 < n)
    (hrc : (statDevice fs kt 0).1 = -1) : initLoop n fs kt 0 p = some (-1, p) := by
  rw [initLoop, if_pos hn, dif_pos (by omega)]

/-- With the table freed, the loop over the msr devices ends exactly when it does not
    get to the table. -/
theorem initLoop_freed_msr {fs : FileSystem} (hn : 0 < n) (hfreed : p.table = .freed) :
    (initLoop n fs .msr 0 p).isSome = true ↔ fs.accessible (.msr 0) = false := by
  cases hacc : fs.accessible (.msr 0) with
  | true =>
    have hnone : initLoop n fs .msr 0 p = none :=
      initLoop_freed_accessible hn hfreed (by decide) hacc
    simp [hnone]
  | false =>
    have hrc : (statDevice fs .msr 0).1 = -1 := by
      by_cases hstat : fs.stat (.msr 0) = none
      · show (statModule fs (.msr 0) .msr 0).1 = -1
        rw [statModule_missing_msr hstat]
      · exact statModule_denied hacc hstat (by decide) 0
    simp [initLoop_denied_first hn hrc]

/-- Likewise over the msr_safe devices, from which it may go on to msr. -/
theorem initLoop_freed_msrSafe {fs : FileSystem} (hn : 0 < n) (hfreed : p.table = .freed) :
    (initLoop n fs .msrSafe 0 p).isSome = true ↔ fs.accessible (.msrSafe 0) = false ∧
      (fs.stat (.msrSafe 0) = none → fs.accessible (.msr 0) = false) := by
  cases hacc : fs.accessible (.msrSafe 0) with
  | true =>
    have hnone : initLoop n fs .msrSafe 0 p = none :=
      initLoop_freed_accessible hn hfreed (by decide) hacc
    simp [hnone]
  | false =>
    by_cases hstat : fs.stat (.msrSafe 0) = none
    · have hdev : statDevice fs .msrSafe 0 = (0, .msr, -1) := statModule_missing_msrSafe hstat
      have hloop : initLoop n fs .msrSafe 0 p = initLoop n fs .msr 0 p := by
        rw [initLoop, if_pos hn, dif_neg (by simp [hdev]), dif_pos (by simp [hdev]), hdev]
      rw [hloop, initLoop_freed_msr hn hfreed]
      simp [hstat]
    · have hrc := statModule_denied hacc hstat (by decide : KernelType.msrSafe ≠ .unknown) 0
      simp [initLoop_denied_first hn hrc, hstat]

/-- **init_msr** has an outcome, unless the table was freed and it gets that far. -/
theorem initMsr_isSome_iff (fs : FileSystem) (hflag : p.init = false) :
    (initMsr n fs p).isSome = true ↔
      (p.table = .freed → n = 0 ∨ fs.reachesTable = false) := by
  by_cases hfreed : p.table = .freed
  · have hloop : (initMsr n fs p).isSome = (initLoop n fs fs.firstModule 0 p).isSome := by
      rw [FileSystem.firstModule, ← statModule_whitelist fs .whitelist 0]
      simp only [initMsr, hflag, Bool.false_eq_true, if_false, Option.bind_eq_bind]
      cases initLoop n fs _ 0 p with
      | none => rfl
      | some r =>
        simp only [Option.bind_some, Option.isSome_some]
        split <;> rfl
    rw [hloop, forall_prop_of_true hfreed]
    rcases Nat.eq_zero_or_pos n with rfl | hn
    · rw [initLoop, if_neg (Nat.lt_irrefl 0)]
      exact iff_of_true rfl (Or.inl rfl)
    · rw [or_iff_right hn.ne', FileSystem.firstModule, FileSystem.reachesTable]
      cases fs.accessible .whitelist with
      | true =>
        simp only [if_true]
        rw [initLoop_freed_msrSafe hn hfreed]
        cases fs.accessible (.msrSafe 0) <;> cases fs.stat (.msrSafe 0) <;> simp
      | false =>
        simp only [Bool.false_eq_true, if_false]
        exact initLoop_freed_msr hn hfreed
  · obtain ⟨rc, p', hinit, -⟩ := initMsr_total (n := n) fs hfreed
    exact iff_of_true (by rw [hinit]; rfl) fun h => absurd h hfreed

/-- While the table is allocated with an entry for each device, the loop of
    `finalize_msr` ends and leaves it so. -/
theorem closeLoop_total (closeFails : Nat → Bool) (k : Nat) (hkept : p.table ≠ .freed)
    (hsize : Sized n p) :
    ∃ rc p', closeLoop n closeFails k p = some (rc, p') ∧ p'.table ≠ .freed := by
  induction k, p using closeLoop.induct n with
  | case1 k p hlt ih =>
    have halloc := allocTable_allocated (n := n) hkept
    have hlen : (p.allocTable n).host.fileDescriptors.length = n :=
      allocTable_sized hsize (by rw [halloc]; decide)
    obtain ⟨fd, hfd⟩ : ∃ fd, (p.allocTable n).host.fileDescriptors[k]? = some fd :=
      ⟨_, List.getElem?_eq_getElem (by omega)⟩
    obtain ⟨-, htable, hfds, -⟩ := closeFile_spec (p.allocTable n) (closeFails k) fd
    rw [closeLoop, if_pos hlt, coreFd_of_kept hkept]
    simp only [Option.bind_eq_bind, Option.bind_some, hfd]
    split
    · refine ⟨_, _, rfl, ?_⟩
      rw [htable, halloc]
      decide
    · refine ih _ ?_ ?_
      · show ((p.allocTable n).closeFile (closeFails k) fd).2.table ≠ .freed
        rw [htable, halloc]
        decide
      · intro _
        rw [Process.setEntry, hfds, List.length_set, hlen]
  | case2 k p hge =>
    rw [closeLoop, if_neg hge]
    exact ⟨0, p, rfl, hkept⟩

/-- **finalize_msr** has an outcome as long as the table was not freed. -/
theorem finalizeMsr_isSome_iff (closeFails : Nat → Bool) (hsize : Sized n p) :
    (finalizeMsr n closeFails p).isSome = true ↔ p.table ≠ .freed := by
  constructor
  · intro hsome hfreed
    have hnone : finalizeMsr n closeFails p = none := by
      rw [finalizeMsr, closeLoop, coreFd_of_freed hfreed]
      split
      · rfl
      · simp [Process.memhdlrFinalize, hfreed]
    rw [hnone] at hsome
    contradiction
  · intro hkept
    obtain ⟨rc, p', hloop, hkept'⟩ := closeLoop_total closeFails 0 hkept hsize
    rw [finalizeMsr, hloop]
    simp only [Option.bind_eq_bind, Option.bind_some]
    split
    · rfl
    · rw [Process.memhdlrFinalize]
      cases htable : p'.table with
      | unallocated => rfl
      | allocated => rfl
      | freed => exact absurd htable hkept'

/-- The CPU index of a register access is below the length of the table. -/
theorem coreFd_allocTable_isSome_iff (hsize : Sized n p) (hlt : n < 2 ^ 31)
    (devIdx : BitVec 32) :
    (coreFd (p.allocTable n).host devIdx).isSome = true ↔ devIdx.toNat < n := by
  rw [coreFd_eq (allocTable_sized hsize allocTable_table_ne) hlt]
  split
  · rename_i hidx
    exact iff_of_true rfl hidx
  · rename_i hidx
    exact iff_of_false Bool.false_ne_true hidx

/-- **Register access** has an outcome, unless it uses a freed table. -/
theorem access_isSome_iff (hsize : Sized n p) (hlt : n < 2 ^ 31) {c : Call} {cpu : Nat}
    {a : Access} (hacc : c.access = some (cpu, a)) :
    (c.exec n p).isSome = true ↔ (p.table = .freed → n ≤ cpu) := by
  have hfreed : (p.allocTable n).table = .freed ↔ p.table = .freed := by
    rw [Process.allocTable]
    cases htable : p.table with
    | unallocated => simp
    | allocated => simp [htable]
    | freed => simp [htable]
  have hstuck : ∀ devIdx : BitVec 32, (p.allocTable n).table = .freed ∧
      (coreFd (p.allocTable n).host devIdx).isSome = true ↔
        ¬ (p.table = .freed → n ≤ devIdx.toNat) := by
    intro devIdx
    rw [hfreed, coreFd_allocTable_isSome_iff hsize hlt, Classical.not_imp, Nat.not_le]
  cases c with
  | init fs => contradiction
  | finalize closeFails => contradiction
  | read devIdx msr val =>
    obtain ⟨rfl, -⟩ := Prod.mk.inj (Option.some.inj hacc)
    simp only [Call.exec, Process.readMsrByIdx]
    split
    · rename_i hfault
      exact iff_of_false Bool.false_ne_true ((hstuck devIdx).mp hfault)
    · rename_i hfine
      exact iff_of_true rfl (not_not.mp (mt (hstuck devIdx).mpr hfine))
  | write devIdx msr val =>
    obtain ⟨rfl, -⟩ := Prod.mk.inj (Option.some.inj hacc)
    simp only [Call.exec, Process.writeMsrByIdx]
    split
    · rename_i hfault
      exact iff_of_false Bool.false_ne_true ((hstuck devIdx).mp hfault)
    · rename_i hfine
      exact iff_of_true rfl (not_not.mp (mt (hstuck devIdx).mpr hfine))

end Outcomes

/-! ## Sessions -/

section Sessions

variable {n : Nat}

/-- The call has an outcome.  After it, if an `init_msr` that returned 0 is the most
    recent lifecycle call, the whole table serves its CPUs, and a register call was
    issued on no other device than its own. -/
def SoundCall (n : Nat) (s : Session) (c : Call) : Prop :=
  ∃ s', s.step n c = some s' ∧
    (s'.initialised = true → Serving n s'.process) ∧
    ∀ cpu a, c.access = some (cpu, a) → s.initialised = true →
      IssuesOwn n cpu a s.process.host.issued s'.process.host.issued

/-- The condition: an `init_msr` is not called again once `finalize_msr` has been
    called after one that returned 0, and no call uses a table that was freed. -/
def NotReopened (n : Nat) (s : Session) : Call → Prop
  | .init fs => (s.finalised = false ∨ n = 0) ∧
      (s.process.table = .freed → n = 0 ∨ fs.reachesTable = false)
  | .finalize _ => s.process.table ≠ .freed
  | .read devIdx _ _ => s.process.table = .freed → n ≤ devIdx.toNat
  | .write devIdx _ _ => s.process.table = .freed → n ≤ devIdx.toNat

/-- What the flags say about the table. -/
structure SessionInv (n : Nat) (s : Session) : Prop where
  sized : Sized n s.process
  serving : s.process.init = true → s.finalised = false → Serving n s.process
  spoiled : s.finalised = true → s.process.init = true ∧ (0 < n → Spoiled n s.process)
  initialised : s.initialised = true →
    s.process.init = true ∧ (s.finalised = false ∨ n = 0)

theorem sessionInv_start (p : Process) : SessionInv n (.start p) := by
  refine ⟨fun hne => absurd rfl hne, fun hflag => ?_, fun hfin => ?_, fun hinit => ?_⟩
  · contradiction
  · contradiction
  · contradiction

/-- A register call leaves the table allocated. -/
theorem Session.access_table {s s' : Session} (hlt : n < 2 ^ 31) {c : Call} {cpu : Nat} {a : Access}
    (hacc : c.access = some (cpu, a)) (hstep : s.step n c = some s')
    (halloc : s.process.table = .allocated) : s'.process.table = .allocated := by
  obtain ⟨⟨rc, p'⟩, hexec, heq⟩ := Option.map_eq_some_iff.mp hstep
  obtain ⟨h', -, rfl, -⟩ := exec_access hlt hacc hexec
  have htable := (congrArg Process.table (allocTable_of_ne (n := n) (p := s.process)
    (by simp [halloc]))).trans halloc
  subst heq
  cases c with
  | init fs => contradiction
  | finalize closeFails => contradiction
  | read devIdx msr val => exact htable
  | write devIdx msr val => exact htable

namespace SessionInv

variable {s s' : Session}

theorem serves (hI : SessionInv n s) (h : s.initialised = true) : Serving n s.process := by
  obtain ⟨hflag, hfin | rfl⟩ := hI.initialised h
  · exact hI.serving hflag hfin
  · exact Serving.zero _

/-- `init_msr` keeps the invariant unless it would have to open the devices again. -/
theorem init (hI : SessionInv n s) {fs : FileSystem} (hcond : NotReopened n s (.init fs))
    (hstep : s.step n (.init fs) = some s') : SessionInv n s' := by
  obtain ⟨⟨rc, p'⟩, hexec, heq⟩ := Option.map_eq_some_iff.mp hstep
  subst heq
  cases hflag : s.process.init with
  | true =>
    -- nothing is done, and the flags stay as they are
    simp only [Call.exec, initMsr, hflag, if_true] at hexec
    obtain ⟨rfl, rfl⟩ := Prod.mk.inj (Option.some.inj hexec)
    exact ⟨hI.sized, hI.serving, hI.spoiled, fun _ => ⟨hflag, hcond.1⟩⟩
  | false =>
    -- a finalised session has the flag set
    have hfin : s.finalised = false := by
      by_contra hfin
      rw [(hI.spoiled (by simpa using hfin)).1] at hflag
      contradiction
    obtain ⟨hsize, hserving, hfailed⟩ := initMsr_spec hexec hflag hI.sized
    refine ⟨hsize, fun hflag' _ => hserving ?_, fun hfin' => ?_, fun hinit => ⟨?_, Or.inl hfin⟩⟩
    · by_contra hrc
      rw [hfailed hrc] at hflag'
      contradiction
    · rw [hfin] at hfin'
      contradiction
    · have hrc : rc = 0 := by simpa using hinit
      subst hrc
      exact initMsr_flag hexec

/-- `finalize_msr` keeps it. -/
theorem finalize (hI : SessionInv n s) {closeFails : Nat → Bool}
    (hstep : s.step n (.finalize closeFails) = some s') : SessionInv n s' := by
  obtain ⟨⟨rc, p'⟩, hexec, heq⟩ := Option.map_eq_some_iff.mp hstep
  subst heq
  obtain ⟨hsize, hflag, hspoiled⟩ := finalizeMsr_spec hexec hI.sized
  refine ⟨hsize, fun hinit hfin => ?_, fun hfin => ⟨?_, hspoiled⟩, fun h => ?_⟩
  · simp only [Bool.or_eq_false_iff] at hfin
    rw [hflag, hfin.2] at hinit
    contradiction
  · simp only [Bool.or_eq_true] at hfin
    rw [hflag]
    rcases hfin with hfin | hfin
    · exact (hI.spoiled hfin).1
    · exact hfin
  · contradiction

/-- Register access keeps it: no device is opened or closed. -/
theorem access (hI : SessionInv n s) (hlt : n < 2 ^ 31) {c : Call} {cpu : Nat} {a : Access}
    (hacc : c.access = some (cpu, a)) (hstep : s.step n c = some s') :
    SessionInv n s' ∧
      (s.initialised = true → IssuesOwn n cpu a s.process.host.issued s'.process.host.issued) := by
  obtain ⟨⟨rc, p'⟩, hexec, heq⟩ := Option.map_eq_some_iff.mp hstep
  obtain ⟨h', hsame, rfl, hown⟩ := exec_access hlt hacc hexec
  have hs' : s' = { s with process := { s.process.allocTable n with host := h' } } := by
    subst heq
    cases c with
    | init fs => contradiction
    | finalize closeFails => contradiction
    | read devIdx msr val => rfl
    | write devIdx msr val => rfl
  have hsize := allocTable_sized hI.sized
  subst hs'
  refine ⟨⟨fun hne => ?_, fun hflag hfin => ?_, fun hfin => ?_, fun hinit => ?_⟩, fun hinit => ?_⟩
  · show h'.fileDescriptors.length = n
    rw [hsame.fileDescriptors]
    exact hsize hne
  · rw [allocTable_init] at hflag
    exact (hI.serving hflag hfin).allocTable.congr rfl hsame.fileDescriptors hsame.openOn
  · obtain ⟨hflag, hspoiled⟩ := hI.spoiled hfin
    exact ⟨allocTable_init.trans hflag, fun hn =>
      (hspoiled hn).allocTable.congr rfl hsame.fileDescriptors hsame.openOn⟩
  · obtain ⟨hflag, hfin⟩ := hI.initialised hinit
    exact ⟨allocTable_init.trans hflag, hfin⟩
  · have hready := (hI.serves hinit).allocTable.ready hsize allocTable_table_ne
    rw [allocTable_issued] at hown
    exact hown hready

/-- Every call that meets the condition keeps the invariant. -/
theorem step (hI : SessionInv n s) (hlt : n < 2 ^ 31) {c : Call} (hcond : NotReopened n s c)
    (hstep : s.step n c = some s') : SessionInv n s' := by
  cases c with
  | init fs => exact hI.init hcond hstep
  | finalize closeFails => exact hI.finalize hstep
  | read devIdx msr val => exact (hI.access hlt rfl hstep).1
  | write devIdx msr val => exact (hI.access hlt rfl hstep).1

/-- Which calls have an outcome. -/
theorem step_isSome_iff (hI : SessionInv n s) (hlt : n < 2 ^ 31) (c : Call)
    (hopen : ∀ fs, c = .init fs → s.finalised = false ∨ n = 0) :
    (s.step n c).isSome = true ↔ NotReopened n s c := by
  rw [Session.step, Option.isSome_map]
  cases c with
  | init fs =>
    have hfin := hopen fs rfl
    rw [NotReopened, and_iff_right hfin]
    cases hflag : s.process.init with
    | false => exact initMsr_isSome_iff fs hflag
    | true =>
      -- it returns at once; where there are CPUs, the table is still there
      have hinit : initMsr n fs s.process = some (0, s.process) := by rw [initMsr, if_pos hflag]
      rw [Call.exec, hinit]
      refine iff_of_true rfl fun hfreed => ?_
      by_contra hnot
      rw [not_or] at hnot
      have hserve := hI.serving hflag (hfin.resolve_right hnot.1)
      have halloc := (hserve 0 (Nat.pos_of_ne_zero hnot.1)).1
      rw [hfreed] at halloc
      contradiction
  | finalize closeFails => exact finalizeMsr_isSome_iff closeFails hI.sized
  | read devIdx msr val => exact access_isSome_iff hI.sized hlt rfl
  | write devIdx msr val => exact access_isSome_iff hI.sized hlt rfl

/-- Under the invariant a call is sound exactly when it neither uses a freed table nor
    has to open the devices again. -/
theorem soundCall_iff (hI : SessionInv n s) (hlt : n < 2 ^ 31) (c : Call) :
    SoundCall n s c ↔ NotReopened n s c := by
  constructor
  · rintro ⟨s', hstep, hserve, -⟩
    refine (hI.step_isSome_iff hlt c ?_).mp (by rw [hstep]; rfl)
    rintro fs rfl
    -- after `finalize_msr` the call returns 0 without opening what was closed
    by_contra hcond
    rw [not_or, Bool.not_eq_false] at hcond
    obtain ⟨hflag, hspoiled⟩ := hI.spoiled hcond.1
    have hn : 0 < n := Nat.pos_of_ne_zero hcond.2
    have hreturns : s.step n (.init fs) = some { s with initialised := true } := by
      simp only [Session.step, Call.exec, initMsr, hflag, if_true, Option.map_some, decide_true]
    obtain rfl := Option.some.inj (hreturns.symm.trans hstep)
    exact (hserve rfl).not_spoiled hn (hspoiled hn)
  · intro hcond
    have hopen : ∀ fs, c = .init fs → s.finalised = false ∨ n = 0 := by
      rintro fs rfl
      exact hcond.1
    obtain ⟨s', hstep⟩ := Option.isSome_iff_exists.mp ((hI.step_isSome_iff hlt c hopen).mpr hcond)
    exact ⟨s', hstep, fun hinit => (hI.step hlt hcond hstep).serves hinit,
      fun cpu a hacc hinit => (hI.access hlt hacc hstep).2 hinit⟩

end SessionInv

/-- **Lifecycle.**  Along every sequence of calls, each call has an outcome, the
    descriptor table serves its CPUs and register access stays on them, if and only if
    `init_msr` is never called again after a `finalize_msr` that followed a successful
    one, and no call uses the table once `finalize_msr` has freed it. -/
theorem session_sound_iff (hlt : n < 2 ^ 31) (p : Process) (calls : List Call) :
    Runs.Along (Session.step n) (SoundCall n) (.start p) calls ↔
      Runs.Along (Session.step n) (NotReopened n) (.start p) calls :=
  Runs.along_iff (fun _ c hI => hI.soundCall_iff hlt c)
    (fun _ _ _ hI hcond hstep => hI.step hlt hcond hstep) (sessionInv_start p)

end Sessions

/-! ## One CPU -/

/-- A process on one CPU with the standard descriptors open. -/
def oneCpuProcess : Process where
  host := { Host.opened 1 with fileDescriptors := [], openOn := fun _ => none }
  others fd := 0 ≤ fd && fd < 3
  table := .unallocated
  malloced _ := 0
  init := false

/-- The msr_safe module is there and descriptor 3 is handed out. -/
def msrSafeFiles : FileSystem where
  stat _ := some ⟨true, true⟩
  opens _ := some 3

/-- The process with CPU 0's device open on descriptor 3. -/
def oneCpuOpened : Process := { oneCpuProcess with
  host := { Host.opened 1 with
    fileDescriptors := [3]
    openOn := fun d => if d = 3 then some 0 else none }
  table := .allocated
  init := true }

theorem oneCpu_init : (Session.start oneCpuProcess).step 1 (.init msrSafeFiles) =
    some ⟨oneCpuOpened, true, false⟩ := by
  have hloop : initLoop 1 msrSafeFiles .msrSafe 0 (Session.start oneCpuProcess).process =
      some (0, { oneCpuOpened with init := false }) := by
    rw [initLoop, if_pos Nat.zero_lt_one, dif_neg (by decide), dif_neg (by decide)]
    show initLoop 1 msrSafeFiles .msrSafe 1 { oneCpuOpened with init := false } = _
    rw [initLoop, if_neg (Nat.lt_irrefl 1)]
  show (initMsr 1 msrSafeFiles (Session.start oneCpuProcess).process).map _ = _
  have hinit : initMsr 1 msrSafeFiles (Session.start oneCpuProcess).process =
      some (0, oneCpuOpened) := by
    show (initLoop 1 msrSafeFiles .msrSafe 0 (Session.start oneCpuProcess).process).bind _ = _
    rw [hloop]
    rfl
  rw [hinit]
  rfl

theorem oneCpu_finalize : ∃ p, (Session.mk oneCpuOpened true false).step 1
    (.finalize fun _ => false) = some ⟨p, false, true⟩ := by
  have hloop : ∃ p, p.table = .allocated ∧
      closeLoop 1 (fun _ => false) 0 oneCpuOpened = some (0, p) := by
    rw [closeLoop, if_pos Nat.zero_lt_one]
    refine ⟨(oneCpuOpened.closeFile false 3).2.setEntry 0 0, rfl, ?_⟩
    show closeLoop 1 (fun _ => false) 1 ((oneCpuOpened.closeFile false 3).2.setEntry 0 0) = _
    rw [closeLoop, if_neg (Nat.lt_irrefl 1)]
  obtain ⟨p, htable, hloop⟩ := hloop
  refine ⟨{ p with table := .freed }, ?_⟩
  have hflag : oneCpuOpened.init = true := rfl
  simp [Session.step, Call.exec, finalizeMsr, hloop, Process.memhdlrFinalize, htable, hflag]

/-- One `init_msr`, register access and one `finalize_msr` are sound. -/
theorem oneCpu_sound : Runs.Along (Session.step 1) (SoundCall 1) (.start oneCpuProcess)
    [.init msrSafeFiles, .read 0 0x611 0, .write 0 0x610 1, .finalize fun _ => false] := by
  rw [session_sound_iff (by omega)]
  have hlt : 1 < 2 ^ 31 := by omega
  have hkept : ∀ s : Session, s.process.table = .allocated → s.process.table ≠ .freed := by
    intro s halloc
    rw [halloc]
    decide
  refine .cons ⟨Or.inl rfl, fun hfreed => (nomatch hfreed)⟩ oneCpu_init ⟨fun hfreed =>
    (nomatch hfreed), fun s₁ hread => ?_⟩
  -- neither access touches the table
  have htable₁ := Session.access_table hlt rfl hread rfl
  refine ⟨fun hfreed => absurd hfreed (hkept _ htable₁), fun s₂ hwrite => ?_⟩
  have htable₂ := Session.access_table hlt rfl hwrite htable₁
  exact ⟨hkept _ htable₂, fun _ _ => trivial⟩

/-- After `finalize_msr` a second `init_msr` returns 0 and opens nothing. -/
theorem oneCpu_reopened : ¬ Runs.Along (Session.step 1) (SoundCall 1) (.start oneCpuProcess)
    [.init msrSafeFiles, .finalize fun _ => false, .init msrSafeFiles] := by
  have hlt : 1 < 2 ^ 31 := by omega
  rintro ⟨-, h⟩
  obtain ⟨-, h⟩ := h _ oneCpu_init
  obtain ⟨p, hfinal⟩ := oneCpu_finalize
  obtain ⟨hsound, -⟩ := h _ hfinal
  have hopened := (sessionInv_start oneCpuProcess).init
    ⟨Or.inl rfl, fun hfreed => nomatch hfreed⟩ oneCpu_init
  have hclosed := hopened.finalize hfinal
  rcases ((hclosed.soundCall_iff hlt _).mp hsound).1 with hfin | hn
  · contradiction
  · contradiction

end Libmsr
