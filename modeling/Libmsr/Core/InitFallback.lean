/-
  Libmsr.Core.InitFallback

  The fallback of `init_msr` from the msr_safe module to the msr module, for every
  state of the files (src/msr_core.c).

  `stat_module` means to go back to msr wherever msr_safe cannot be used, but on wrong
  permissions it tests the pointer `kerneltype` instead of the module it points to, and
  ends the call.  Neither the restart nor an error return closes the devices that are
  open by then.

  The loop is followed from one device that cannot be used to the next, with the list
  of the files that were opened: a pass of the loop opens the devices before the first
  one that cannot be used.
-/
import Libmsr.Core.InitRounds

namespace Libmsr

namespace FileSystem

/-- `stat` and `open` both succeed. -/
def usable (fs : FileSystem) (filename : DevFile) : Bool :=
  fs.accessible filename && (fs.opens filename).isSome

/-- The owner may not read and write the file. -/
def denied (fs : FileSystem) (filename : DevFile) : Bool :=
  (fs.stat filename).isSome && !fs.accessible filename

/-- `open` hands out descriptors that are not in use; and none is closed in the
    meantime. -/
structure HandsOut (fs : FileSystem) (p : Process) : Prop where
  unused : ∀ f fd, fs.opens f = some fd →
    0 ≤ fd ∧ p.host.openOn fd = none ∧ p.others fd = false
  distinct : ∀ f f' fd, fs.opens f = some fd → fs.opens f' = some fd → f = f'

section Files

variable {fs : FileSystem} {f : DevFile}

theorem usable_accessible (h : fs.usable f = true) : fs.accessible f = true :=
  (Bool.and_eq_true_iff.mp h).1

theorem usable_opens (h : fs.usable f = true) : ∃ fd, fs.opens f = some fd :=
  Option.isSome_iff_exists.mp (Bool.and_eq_true_iff.mp h).2

/-- A file that cannot be used has the wrong permissions, or is missing, or fails to
    open. -/
theorem unusable_cases (h : fs.usable f = false) :
    fs.denied f = true ∨ fs.stat f = none ∨ fs.accessible f = true ∧ fs.opens f = none := by
  cases hstat : fs.stat f with
  | none => exact Or.inr (Or.inl rfl)
  | some mode =>
    cases hacc : fs.accessible f with
    | false => exact Or.inl (by rw [denied, hstat, hacc]; rfl)
    | true =>
      rw [usable, hacc, Bool.true_and] at h
      exact Or.inr (Or.inr ⟨rfl, Option.isNone_iff_eq_none.mp (by
        rwa [Option.isSome_eq_false_iff] at h)⟩)

theorem denied_not_usable (h : fs.denied f = true) : fs.usable f = false := by
  have hacc : fs.accessible f = false := by
    simpa using (Bool.and_eq_true_iff.mp h).2
  rw [usable, hacc, Bool.false_and]

end Files

end FileSystem

/-! ## The devices that are open -/

/-- The process when `init_msr` has opened the files in the list. -/
structure Opened (n : Nat) (fs : FileSystem) (p₀ : Process) (files : List DevFile) (p : Process) :
    Prop where
  kept : p.table ≠ .freed
  sized : Sized n p
  others : p.others = p₀.others
  openOn : ∀ fd, p.host.openOn fd ≠ none ↔
    p₀.host.openOn fd ≠ none ∨ ∃ f ∈ files, fs.opens f = some fd

/-- The first `k` entries are the descriptors of the devices by that module. -/
def FilledBy (fs : FileSystem) (kt : KernelType) (k : Nat) (p : Process) : Prop :=
  ∀ i, i < k → p.table = .allocated ∧
    p.host.fileDescriptors[i]? = some ((fs.opens (kt.filename i)).getD (-1))

section Opened

variable {n : Nat} {fs : FileSystem} {p₀ p : Process} {files : List DevFile} {kt : KernelType}
  {k : Nat}

variable (fs) in
theorem opened_start (hp : FirstInit n p) : Opened n fs p [] p :=
  ⟨hp.kept, hp.sized, rfl, fun fd => by simp⟩

/-- The process after `open` handed out a descriptor. -/
def Process.handedOut (p : Process) (fd : Int) (cpu : Option Nat) : Process :=
  { p with host := { p.host with openOn := fun d => if d = fd then cpu else p.host.openOn d } }

theorem KernelType.filename_cpu (kt : KernelType) (k : Nat) : (kt.filename k).cpu = some k := by
  rw [KernelType.filename]
  split <;> rfl

/-- A file that was not opened before gets a descriptor. -/
theorem Opened.openFile (ho : Opened n fs p₀ files p) (hfs : fs.HandsOut p₀) {f : DevFile}
    {fd : Int} (hopens : fs.opens f = some fd) (hnew : f ∉ files) :
    p.openFile fs f = (fd, p.handedOut fd f.cpu) := by
  obtain ⟨hpos, hclosed, hother⟩ := hfs.unused f fd hopens
  have hfree : p.host.openOn fd = none := by
    by_contra hopen
    rcases (ho.openOn fd).mp hopen with hold | ⟨f', hf', hopens'⟩
    · exact hold hclosed
    · -- another file would have the same descriptor
      exact hnew (hfs.distinct f' f fd hopens' hopens ▸ hf')
  rw [Process.openFile, hopens]
  exact if_pos ⟨hpos, hfree, ho.others ▸ hother⟩

/-- A table entry is set after `core_fd`. -/
theorem Opened.entry (ho : Opened n fs p₀ files p) {fd : Int} {q : Process}
    (htable : q.table = (p.allocTable n).table)
    (hfds : q.host.fileDescriptors = (p.allocTable n).host.fileDescriptors)
    (hothers : q.others = p.others) {files' : List DevFile}
    (hopenOn : ∀ d, q.host.openOn d ≠ none ↔
      p₀.host.openOn d ≠ none ∨ ∃ f ∈ files', fs.opens f = some d) :
    Opened n fs p₀ files' (q.setEntry k fd) := by
  obtain ⟨halloc, hsized⟩ := opened_kept ho.kept ho.sized k fd htable hfds
  exact ⟨by simp [halloc], hsized, hothers.trans ho.others, hopenOn⟩

theorem allocTable_others : (p.allocTable n).others = p.others := by
  rw [Process.allocTable]
  cases p.table <;> rfl

theorem allocTable_openOn : (p.allocTable n).host.openOn = p.host.openOn := by
  rw [Process.allocTable]
  cases p.table <;> rfl

theorem Opened.allocTable (ho : Opened n fs p₀ files p) :
    Opened n fs p₀ files (p.allocTable n) := by
  obtain ⟨halloc, -, -, -⟩ := coreFd_process ho.sized (coreFd_of_kept (n := n) ho.kept)
  refine ⟨by simp [halloc], allocTable_sized ho.sized, allocTable_others.trans ho.others, ?_⟩
  rw [allocTable_openOn]
  exact ho.openOn

/-! ## Rounds of the loop -/

/-- A device that can be used is opened, and the loop goes on. -/
theorem initLoop_usable (ho : Opened n fs p₀ files p) (hfs : fs.HandsOut p₀)
    (hkt : kt ≠ .unknown) (hk : k < n) (husable : fs.usable (kt.filename k) = true)
    (hnew : kt.filename k ∉ files) (hfilled : FilledBy fs kt k p) :
    ∃ p', initLoop n fs kt k p = initLoop n fs kt (k + 1) p' ∧
      Opened n fs p₀ (files ++ [kt.filename k]) p' ∧ FilledBy fs kt (k + 1) p' := by
  obtain ⟨fd, hopens⟩ := FileSystem.usable_opens husable
  have hpos : 0 ≤ fd := (hfs.unused _ _ hopens).1
  have hopen := ho.allocTable.openFile hfs hopens hnew
  obtain ⟨halloc, hlen, -, hsame⟩ := coreFd_process ho.sized (coreFd_of_kept (n := n) ho.kept)
  have hcpu := kt.filename_cpu k
  refine ⟨((p.allocTable n).handedOut fd (some k)).setEntry k fd, ?_,
    ho.entry (q := (p.allocTable n).handedOut fd (some k)) rfl rfl allocTable_others fun d => ?_,
    fun i hi => ?_⟩
  · rw [initLoop, if_pos hk]
    simp only [statDevice, statModule_accessible (FileSystem.usable_accessible husable) hkt,
      Int.lt_irrefl, dite_false, Option.bind_eq_bind, coreFd_of_kept ho.kept, Option.bind_some,
      hopen, hcpu]
    rw [dif_neg (by omega), if_neg (by omega)]
  · show (if d = fd then _ else _) ≠ none ↔ _
    constructor
    · intro hd
      by_cases hdfd : d = fd
      · exact Or.inr ⟨_, List.mem_append_right _ (List.mem_singleton_self _), hdfd ▸ hopens⟩
      · rw [if_neg hdfd, allocTable_openOn] at hd
        rcases (ho.openOn d).mp hd with hold | ⟨f, hf, hopens'⟩
        · exact Or.inl hold
        · exact Or.inr ⟨f, List.mem_append_left _ hf, hopens'⟩
    · intro hd
      by_cases hdfd : d = fd
      · rw [if_pos hdfd]
        exact Option.some_ne_none k
      · rw [if_neg hdfd, allocTable_openOn]
        refine (ho.openOn d).mpr ?_
        rcases hd with hold | ⟨f, hf, hopens'⟩
        · exact Or.inl hold
        · rcases List.mem_append.mp hf with hold | hlast
          · exact Or.inr ⟨f, hold, hopens'⟩
          · rw [List.mem_singleton.mp hlast, hopens] at hopens'
            exact absurd (Option.some.inj hopens').symm hdfd
  · refine ⟨halloc, ?_⟩
    rw [setEntry_getElem? i (by exact hk.trans_eq hlen.symm)]
    by_cases hik : i = k
    · rw [if_pos hik, hik, hopens, Option.getD_some]
    · obtain ⟨hold, hentry⟩ := hfilled i (by omega)
      rw [if_neg hik]
      show (p.allocTable n).host.fileDescriptors[i]? = _
      rw [hsame hold, hentry]

/-- Wrong permissions end the loop, by either module. -/
theorem initLoop_denied (hkt : kt ≠ .unknown) (hk : k < n)
    (hdenied : fs.denied (kt.filename k) = true) : initLoop n fs kt k p = some (-1, p) := by
  obtain ⟨hstat, hacc⟩ := Bool.and_eq_true_iff.mp hdenied
  have hrc := statModule_denied (by simpa using hacc) (Option.isSome_iff_ne_none.mp hstat) hkt k
  rw [initLoop, if_pos hk, dif_pos (by rw [statDevice, hrc]; decide)]

variable (kt) in
/-- A device that is missing or fails to open: the loop ends by msr, and starts over by
    msr_safe. -/
theorem initLoop_failed (ho : Opened n fs p₀ files p) (hk : k < n)
    (hfailed : fs.stat (kt.filename k) = none ∨
      fs.accessible (kt.filename k) = true ∧ fs.opens (kt.filename k) = none)
    (hkt : kt ≠ .unknown) :
    ∃ p', Opened n fs p₀ files p' ∧
      initLoop n fs kt k p = if kt = .msrSafe then initLoop n fs .msr 0 p' else some (-1, p') := by
  rcases hfailed with hmissing | ⟨hacc, hopens⟩
  · refine ⟨p, ho, ?_⟩
    rw [initLoop, if_pos hk]
    cases kt with
    | unknown => exact absurd rfl hkt
    | msr =>
      have hrc : (statDevice fs .msr k).1 < 0 := by
        rw [statDevice, statModule_missing_msr hmissing]
        exact Int.negSucc_lt_zero 0
      rw [dif_pos hrc, if_neg (by decide)]
    | msrSafe =>
      simp only [statDevice, statModule_missing_msrSafe hmissing, Int.lt_irrefl, dite_false,
        if_true]
      rw [dif_pos (by decide)]
  · have hopen : (p.allocTable n).openFile fs (kt.filename k) = (-1, p.allocTable n) := by
      rw [Process.openFile, hopens]
    have hentry : Opened n fs p₀ files ((p.allocTable n).setEntry k (-1)) :=
      ho.entry rfl rfl allocTable_others (by rw [allocTable_openOn]; exact ho.openOn)
    refine ⟨_, hentry, ?_⟩
    rw [initLoop, if_pos hk]
    simp only [statDevice, statModule_accessible hacc hkt, Int.lt_irrefl, dite_false,
      Option.bind_eq_bind, coreFd_of_kept ho.kept, Option.bind_some, hopen, if_true]
    rw [dif_neg (by omega)]
    by_cases hsafe : kt = .msrSafe
    · rw [if_pos hsafe, dif_neg (not_not.mpr hsafe)]
    · rw [if_neg hsafe, dif_pos hsafe]

/-! ## Passes over the devices -/

/-- The devices below `k` by the module. -/
def KernelType.devices (kt : KernelType) (k : Nat) : List DevFile := (List.range k).map kt.filename

theorem KernelType.filename_injective (kt : KernelType) {i j : Nat}
    (h : kt.filename i = kt.filename j) : i = j := by
  have hcpu := congrArg DevFile.cpu h
  rw [kt.filename_cpu, kt.filename_cpu] at hcpu
  exact Option.some.inj hcpu

theorem KernelType.mem_devices {f : DevFile} :
    f ∈ kt.devices k ↔ ∃ i, i < k ∧ kt.filename i = f := by
  rw [KernelType.devices, List.mem_map]
  exact exists_congr fun i => and_congr_left fun _ => List.mem_range

variable (kt) in
/-- The devices before the first one that cannot be used are opened. -/
theorem initLoop_pass (ho : Opened n fs p₀ files p) (hfs : fs.HandsOut p₀) (hkt : kt ≠ .unknown)
    (hnew : ∀ i, kt.filename i ∉ files) (hk : k ≤ n)
    (husable : ∀ i, i < k → fs.usable (kt.filename i) = true) :
    ∃ p', initLoop n fs kt 0 p = initLoop n fs kt k p' ∧
      Opened n fs p₀ (files ++ kt.devices k) p' ∧ FilledBy fs kt k p' := by
  induction k with
  | zero =>
    refine ⟨p, rfl, ?_, fun i hi => absurd hi (Nat.not_lt_zero i)⟩
    simpa [KernelType.devices] using ho
  | succ k ih =>
    obtain ⟨p', heq, ho', hfilled⟩ :=
      ih (Nat.le_of_succ_le hk) fun i hi => husable i (Nat.lt_succ_of_lt hi)
    have hnotin : kt.filename k ∉ files ++ kt.devices k := by
      rw [List.mem_append]
      rintro (hold | hdev)
      · exact hnew k hold
      · obtain ⟨i, hi, hik⟩ := KernelType.mem_devices.mp hdev
        exact absurd (kt.filename_injective hik) hi.ne
    obtain ⟨p'', heq', ho'', hfilled'⟩ :=
      initLoop_usable ho' hfs hkt hk (husable k (Nat.lt_succ_self k)) hnotin hfilled
    refine ⟨p'', heq.trans heq', ?_, hfilled'⟩
    rwa [KernelType.devices, List.range_succ, List.map_append, ← List.append_assoc]

variable (kt) in
/-- All devices can be used. -/
theorem initLoop_all (ho : Opened n fs p₀ files p) (hfs : fs.HandsOut p₀) (hkt : kt ≠ .unknown)
    (hnew : ∀ i, kt.filename i ∉ files)
    (husable : ∀ i, i < n → fs.usable (kt.filename i) = true) :
    ∃ p', initLoop n fs kt 0 p = some (0, p') ∧
      Opened n fs p₀ (files ++ kt.devices n) p' ∧ FilledBy fs kt n p' := by
  obtain ⟨p', heq, ho', hfilled⟩ := initLoop_pass kt ho hfs hkt hnew (Nat.le_refl n) husable
  refine ⟨p', ?_, ho', hfilled⟩
  rw [heq, initLoop, if_neg (Nat.lt_irrefl n)]

/-- By msr, the first device that cannot be used ends the loop. -/
theorem initLoop_msr_first (ho : Opened n fs p₀ files p) (hfs : fs.HandsOut p₀)
    (hnew : ∀ i, .msr i ∉ files) (hk : k < n) (hfirst : fs.usable (.msr k) = false)
    (husable : ∀ i, i < k → fs.usable (.msr i) = true) :
    ∃ p', initLoop n fs .msr 0 p = some (-1, p') ∧
      Opened n fs p₀ (files ++ KernelType.msr.devices k) p' := by
  obtain ⟨p₁, heq, ho₁, -⟩ :=
    initLoop_pass .msr ho hfs (by decide) hnew hk.le husable
  rcases FileSystem.unusable_cases hfirst with hdenied | hfailed
  · exact ⟨p₁, heq.trans (initLoop_denied (by decide) hk hdenied), ho₁⟩
  · obtain ⟨p', ho', heq'⟩ := initLoop_failed .msr ho₁ hk hfailed (by decide)
    exact ⟨p', heq.trans heq', ho'⟩

/-- By msr_safe, a first device with the wrong permissions ends the loop. -/
theorem initLoop_msrSafe_denied (ho : Opened n fs p₀ files p) (hfs : fs.HandsOut p₀)
    (hnew : ∀ i, .msrSafe i ∉ files) (hk : k < n) (hdenied : fs.denied (.msrSafe k) = true)
    (husable : ∀ i, i < k → fs.usable (.msrSafe i) = true) :
    ∃ p', initLoop n fs .msrSafe 0 p = some (-1, p') ∧
      Opened n fs p₀ (files ++ KernelType.msrSafe.devices k) p' := by
  obtain ⟨p₁, heq, ho₁, -⟩ :=
    initLoop_pass .msrSafe ho hfs (by decide) hnew hk.le husable
  exact ⟨p₁, heq.trans (initLoop_denied (by decide) hk hdenied), ho₁⟩

/-- By msr_safe, a first device that is missing or fails to open starts the loop over by
    msr. -/
theorem initLoop_msrSafe_failed (ho : Opened n fs p₀ files p) (hfs : fs.HandsOut p₀)
    (hnew : ∀ i, .msrSafe i ∉ files) (hk : k < n)
    (hfailed : fs.stat (.msrSafe k) = none ∨
      fs.accessible (.msrSafe k) = true ∧ fs.opens (.msrSafe k) = none)
    (husable : ∀ i, i < k → fs.usable (.msrSafe i) = true) :
    ∃ p', initLoop n fs .msrSafe 0 p = initLoop n fs .msr 0 p' ∧
      Opened n fs p₀ (files ++ KernelType.msrSafe.devices k) p' := by
  obtain ⟨p₁, heq, ho₁, -⟩ :=
    initLoop_pass .msrSafe ho hfs (by decide) hnew hk.le husable
  obtain ⟨p', ho', heq'⟩ := initLoop_failed .msrSafe ho₁ hk hfailed (by decide)
  exact ⟨p', heq.trans heq', ho'⟩

end Opened

/-! ## init_msr -/

section InitMsr

variable {n : Nat} {fs : FileSystem} {p p' : Process}

/-- The first call runs the loop. -/
theorem initMsr_loop (hp : FirstInit n p) {rc : Int}
    (hloop : initLoop n fs fs.firstModule 0 p = some (rc, p')) :
    initMsr n fs p = some (rc, { p' with init := if rc = 0 then true else p'.init }) := by
  rw [FileSystem.firstModule, ← statModule_whitelist fs .whitelist 0] at hloop
  simp only [initMsr, hp.flag, Bool.false_eq_true, if_false, hloop, Option.bind_eq_bind,
    Option.bind_some]
  by_cases hrc : rc = 0
  · simp only [hrc, ne_eq, not_true_eq_false, if_false, if_true]
  · simp only [hrc, ne_eq, not_false_eq_true, if_true, if_false]

theorem not_mem_nil_filename (kt : KernelType) (i : Nat) : kt.filename i ∉ ([] : List DevFile) :=
  List.not_mem_nil

/-- The devices by msr are not among those by msr_safe. -/
theorem msr_not_mem_devices {j : Nat} (i : Nat) :
    DevFile.msr i ∉ [] ++ KernelType.msrSafe.devices j := by
  rw [List.nil_append, KernelType.mem_devices]
  rintro ⟨k, -, hk⟩
  contradiction

/-! ## The fallback -/

/-- Missing, or failing to open. -/
theorem failed_of_not_denied {f : DevFile} (hbad : fs.usable f = false)
    (hdenied : fs.denied f = false) :
    fs.stat f = none ∨ fs.accessible f = true ∧ fs.opens f = none := by
  rcases FileSystem.unusable_cases hbad with h | h
  · rw [hdenied] at h
    contradiction
  · exact h

/-- If all devices can be used by msr, `init_msr` returns 0 exactly when the whitelist
    cannot be used, or a device that msr_safe fails on otherwise comes before those with
    the wrong permissions. -/
theorem initMsr_fallback_iff (hp : FirstInit n p) (hfs : fs.HandsOut p)
    (hmsr : ∀ i, i < n → fs.usable (.msr i) = true) :
    (∃ p', initMsr n fs p = some (0, p')) ↔ fs.accessible .whitelist = false ∨
      ∀ j, j < n → fs.denied (.msrSafe j) = true →
        ∃ i, i < j ∧ fs.usable (.msrSafe i) = false ∧ fs.denied (.msrSafe i) = false := by
  have ho := opened_start fs hp
  cases hlist : fs.accessible .whitelist with
  | false =>
    have hmodule : fs.firstModule = .msr := by rw [FileSystem.firstModule, hlist]; rfl
    obtain ⟨p₁, hloop, -, -⟩ := initLoop_all .msr ho hfs (by decide)
      (not_mem_nil_filename .msr) hmsr
    exact iff_of_true ⟨_, initMsr_loop hp (hmodule ▸ hloop)⟩ (Or.inl rfl)
  | true =>
    have hmodule : fs.firstModule = .msrSafe := by rw [FileSystem.firstModule, hlist]; rfl
    have hnew := not_mem_nil_filename .msrSafe
    rcases Loops.first_false (fun i => fs.usable (.msrSafe i)) n with hall | ⟨j, hj, hbad, hbefore⟩
    · obtain ⟨p₁, hloop, -, -⟩ :=
        initLoop_all .msrSafe ho hfs (by decide) hnew hall
      refine iff_of_true ⟨_, initMsr_loop hp (hmodule ▸ hloop)⟩ (Or.inr fun j hj hdenied => ?_)
      exact absurd (hall j hj) (by simp [FileSystem.denied_not_usable hdenied])
    · cases hdenied : fs.denied (.msrSafe j) with
      | true =>
        -- `stat_module` ends the call
        obtain ⟨p₁, hloop, -⟩ := initLoop_msrSafe_denied ho hfs hnew hj hdenied hbefore
        have hinit := initMsr_loop hp (hmodule ▸ hloop)
        refine iff_of_false ?_ ?_
        · rintro ⟨p', hzero⟩
          rw [hinit] at hzero
          exact absurd (Prod.mk.inj (Option.some.inj hzero)).1 (by decide)
        · rintro (h | h)
          · contradiction
          · obtain ⟨i, hi, hbad', -⟩ := h j hj hdenied
            rw [hbefore i hi] at hbad'
            contradiction
      | false =>
        obtain ⟨p₁, hover, ho₁⟩ := initLoop_msrSafe_failed ho hfs hnew hj
          (failed_of_not_denied hbad hdenied) hbefore
        obtain ⟨p₂, hloop, -, -⟩ := initLoop_all .msr ho₁ hfs (by decide)
          msr_not_mem_devices hmsr
        refine iff_of_true ⟨_, initMsr_loop hp (hmodule ▸ hover.trans hloop)⟩
          (Or.inr fun j' _ hdenied' => ⟨j, ?_, hbad, hdenied⟩)
        -- a device with the wrong permissions comes later
        rcases Nat.lt_trichotomy j j' with hlt | rfl | hgt
        · exact hlt
        · rw [hdenied] at hdenied'
          contradiction
        · have husable := hbefore j' hgt
          rw [FileSystem.denied_not_usable hdenied'] at husable
          contradiction

/-! ## Descriptors -/

/-- The descriptors that the call left open are those in the table if it returned 0, and
    there are none otherwise. -/
def NoLeak (n : Nat) (p p' : Process) (rc : Int) : Prop :=
  ∀ fd, (p'.host.openOn fd ≠ none ∧ p.host.openOn fd = none) ↔
    rc = 0 ∧ ∃ i, i < n ∧ p'.host.fileDescriptors[i]? = some fd

/-- If the first device can be used by the module, all can. -/
def FileSystem.AllOrNone (fs : FileSystem) (n : Nat) (kt : KernelType) : Prop :=
  fs.usable (kt.filename 0) = true → ∀ i, i < n → fs.usable (kt.filename i) = true

/-- The loop goes through the devices by msr, and has none open when it begins. -/
def FileSystem.byMsr (fs : FileSystem) : Bool :=
  !fs.accessible .whitelist || !fs.usable (.msrSafe 0) && !fs.denied (.msrSafe 0)

section NoLeak

variable {files : List DevFile} {p₁ : Process} {kt : KernelType}

/-- What is open are the files of the list. -/
theorem Opened.newly (ho : Opened n fs p files p₁) (hfs : fs.HandsOut p) (fd : Int) :
    (p₁.host.openOn fd ≠ none ∧ p.host.openOn fd = none) ↔
      ∃ f ∈ files, fs.opens f = some fd := by
  rw [ho.openOn fd]
  constructor
  · rintro ⟨hold | hnew, hclosed⟩
    · exact absurd hclosed hold
    · exact hnew
  · rintro ⟨f, hf, hopens⟩
    exact ⟨Or.inr ⟨f, hf, hopens⟩, (hfs.unused f fd hopens).2.1⟩

/-- A call that fails leaks what it has opened. -/
theorem Opened.noLeak_failed (ho : Opened n fs p files p₁) (hfs : fs.HandsOut p)
    (husable : ∀ f ∈ files, fs.usable f = true) : NoLeak n p p₁ (-1) ↔ files = [] := by
  constructor
  · intro h
    refine List.eq_nil_iff_forall_not_mem.mpr fun f hf => ?_
    obtain ⟨fd, hopens⟩ := FileSystem.usable_opens (husable f hf)
    obtain ⟨hrc, -⟩ := (h fd).mp ((ho.newly hfs fd).mpr ⟨f, hf, hopens⟩)
    contradiction
  · rintro rfl fd
    rw [ho.newly hfs fd]
    constructor
    · rintro ⟨f, hf, -⟩
      contradiction
    · rintro ⟨hrc, -⟩
      contradiction

/-- A call that succeeds leaks what it has opened before the last pass. -/
theorem Opened.noLeak_filled (ho : Opened n fs p (files ++ kt.devices n) p₁)
    (hfs : fs.HandsOut p) (hfilled : FilledBy fs kt n p₁)
    (husable : ∀ i, i < n → fs.usable (kt.filename i) = true)
    (hfiles : ∀ f ∈ files, fs.usable f = true) (hnew : ∀ i, kt.filename i ∉ files) :
    NoLeak n p p₁ 0 ↔ files = [] := by
  have hentry : ∀ fd, (∃ i, i < n ∧ p₁.host.fileDescriptors[i]? = some fd) ↔
      ∃ f ∈ kt.devices n, fs.opens f = some fd := by
    intro fd
    constructor
    · rintro ⟨i, hi, hget⟩
      obtain ⟨fd', hopens⟩ := FileSystem.usable_opens (husable i hi)
      rw [(hfilled i hi).2, hopens] at hget
      exact ⟨_, KernelType.mem_devices.mpr ⟨i, hi, rfl⟩, hopens.trans hget⟩
    · rintro ⟨f, hf, hopens⟩
      obtain ⟨i, hi, rfl⟩ := KernelType.mem_devices.mp hf
      refine ⟨i, hi, ?_⟩
      rw [(hfilled i hi).2, hopens]
      rfl
  constructor
  · intro h
    refine List.eq_nil_iff_forall_not_mem.mpr fun f hf => ?_
    obtain ⟨fd, hopens⟩ := FileSystem.usable_opens (hfiles f hf)
    obtain ⟨-, hstored⟩ :=
      (h fd).mp ((ho.newly hfs fd).mpr ⟨f, List.mem_append_left _ hf, hopens⟩)
    -- the descriptor in the table belongs to another file
    obtain ⟨f', hf', hopens'⟩ := (hentry fd).mp hstored
    obtain ⟨i, -, rfl⟩ := KernelType.mem_devices.mp hf'
    exact hnew i (hfs.distinct f _ fd hopens hopens' ▸ hf)
  · rintro rfl fd
    rw [ho.newly hfs fd, hentry fd, List.nil_append]
    exact (and_iff_right rfl).symm

/-- A pass that ends at a device has opened none exactly if it is the first. -/
theorem devices_eq_nil_iff {j : Nat} (hj : j < n) (hbad : fs.usable (kt.filename j) = false)
    (hbefore : ∀ i, i < j → fs.usable (kt.filename i) = true) :
    kt.devices j = [] ↔ fs.AllOrNone n kt := by
  rw [KernelType.devices, List.map_eq_nil_iff, List.range_eq_nil]
  constructor
  · rintro rfl husable
    rw [hbad] at husable
    contradiction
  · intro h
    by_contra hne
    have hall := h (hbefore 0 (Nat.pos_of_ne_zero hne)) j hj
    rw [hbad] at hall
    contradiction

/-- The call ends where the loop does. -/
theorem noLeak_of_loop (hp : FirstInit n p) {rc : Int}
    (hloop : initLoop n fs fs.firstModule 0 p = some (rc, p₁)) :
    (∃ rc p', initMsr n fs p = some (rc, p') ∧ NoLeak n p p' rc) ↔ NoLeak n p p₁ rc := by
  have hinit := initMsr_loop hp hloop
  constructor
  · rintro ⟨rc', p', heq, hleak⟩
    rw [hinit] at heq
    obtain ⟨rfl, rfl⟩ := Prod.mk.inj (Option.some.inj heq)
    exact hleak
  · exact fun hleak => ⟨_, _, hinit, hleak⟩

/-- The last pass: by msr, after files were opened by msr_safe. -/
theorem Opened.noLeak_msr (ho : Opened n fs p files p₁) (hp : FirstInit n p)
    (hfs : fs.HandsOut p) (hfiles : ∀ f ∈ files, fs.usable f = true)
    (hnew : ∀ i, .msr i ∉ files)
    (hloop : initLoop n fs fs.firstModule 0 p = initLoop n fs .msr 0 p₁) :
    (∃ rc p', initMsr n fs p = some (rc, p') ∧ NoLeak n p p' rc) ↔
      files = [] ∧ fs.AllOrNone n .msr := by
  rcases Loops.first_false (fun i => fs.usable (.msr i)) n with hall | ⟨j, hj, hbad, hbefore⟩
  · obtain ⟨p₂, hend, ho₂, hfilled⟩ := initLoop_all .msr ho hfs (by decide) hnew hall
    rw [noLeak_of_loop hp (hloop.trans hend), ho₂.noLeak_filled hfs hfilled hall hfiles hnew]
    exact (and_iff_left fun _ => hall).symm
  · obtain ⟨p₂, hend, ho₂⟩ := initLoop_msr_first ho hfs hnew hj hbad hbefore
    have husable : ∀ f ∈ files ++ KernelType.msr.devices j, fs.usable f = true := by
      intro f hf
      rcases List.mem_append.mp hf with hold | hdev
      · exact hfiles f hold
      · obtain ⟨i, hi, rfl⟩ := KernelType.mem_devices.mp hdev
        exact hbefore i hi
    rw [noLeak_of_loop hp (hloop.trans hend), ho₂.noLeak_failed hfs husable,
      List.append_eq_nil_iff]
    exact and_congr_right fun _ => devices_eq_nil_iff hj hbad hbefore

end NoLeak

theorem usable_of_mem_devices (kt : KernelType) {j : Nat}
    (h : ∀ i, i < j → fs.usable (kt.filename i) = true) :
    ∀ f ∈ kt.devices j, fs.usable f = true := by
  intro f hf
  obtain ⟨i, hi, rfl⟩ := KernelType.mem_devices.mp hf
  exact h i hi

/-- Nothing is leaked exactly when no pass of the loop ends at a later device than its
    first. -/
theorem initMsr_noLeak_iff (hp : FirstInit n p) (hfs : fs.HandsOut p) :
    (∃ rc p', initMsr n fs p = some (rc, p') ∧ NoLeak n p p' rc) ↔
      (fs.accessible .whitelist = true → fs.AllOrNone n .msrSafe) ∧
        (fs.byMsr = true → fs.AllOrNone n .msr) := by
  have ho := opened_start fs hp
  cases hlist : fs.accessible .whitelist with
  | false =>
    have hmodule : fs.firstModule = .msr := by rw [FileSystem.firstModule, hlist]; rfl
    have hby : fs.byMsr = true := by rw [FileSystem.byMsr, hlist]; rfl
    rw [ho.noLeak_msr hp hfs (fun f hf => absurd hf List.not_mem_nil) (not_mem_nil_filename .msr)
      (hmodule ▸ rfl), hby]
    simp
  | true =>
    have hmodule : fs.firstModule = .msrSafe := by rw [FileSystem.firstModule, hlist]; rfl
    have hby : fs.byMsr = (!fs.usable (.msrSafe 0) && !fs.denied (.msrSafe 0)) := by
      rw [FileSystem.byMsr, hlist]
      rfl
    have hnew := not_mem_nil_filename .msrSafe
    rw [hby]
    rcases Loops.first_false (fun i => fs.usable (.msrSafe i)) n with hall | ⟨j, hj, hbad, hbefore⟩
    · obtain ⟨p₁, hloop, ho₁, hfilled⟩ :=
        initLoop_all .msrSafe ho hfs (by decide) hnew hall
      rw [noLeak_of_loop hp (hmodule ▸ hloop),
        ho₁.noLeak_filled hfs hfilled hall (fun f hf => absurd hf List.not_mem_nil) hnew]
      refine iff_of_true rfl ⟨fun _ _ => hall, fun hby _ i hi => ?_⟩
      -- there is a device 0, and it can be used
      rw [hall 0 (Nat.zero_lt_of_lt hi)] at hby
      contradiction
    · have hnil : KernelType.msrSafe.devices j = [] ↔ fs.AllOrNone n .msrSafe :=
        devices_eq_nil_iff hj hbad hbefore
      have hfirst : fs.AllOrNone n .msrSafe → j = 0 := fun h => by
        simpa [KernelType.devices] using hnil.mpr h
      cases hdenied : fs.denied (.msrSafe j) with
      | true =>
        obtain ⟨p₁, hloop, ho₁⟩ := initLoop_msrSafe_denied ho hfs hnew hj hdenied hbefore
        rw [noLeak_of_loop hp (hmodule ▸ hloop),
          ho₁.noLeak_failed hfs (usable_of_mem_devices .msrSafe hbefore), List.nil_append, hnil]
        refine ⟨fun h => ⟨fun _ => h, fun hby => ?_⟩, fun h => h.1 rfl⟩
        -- the call ended at device 0, without the msr module
        obtain rfl := hfirst h
        rw [hdenied, Bool.not_true, Bool.and_false] at hby
        contradiction
      | false =>
        obtain ⟨p₁, hover, ho₁⟩ := initLoop_msrSafe_failed ho hfs hnew hj
          (failed_of_not_denied hbad hdenied) hbefore
        rw [ho₁.noLeak_msr hp hfs (usable_of_mem_devices .msrSafe hbefore) msr_not_mem_devices
          (hmodule ▸ hover), List.nil_append, hnil]
        refine ⟨fun h => ⟨fun _ => h.1, fun _ => h.2⟩, fun h => ⟨h.1 rfl, h.2 ?_⟩⟩
        obtain rfl := hfirst (h.1 rfl)
        rw [hbad, hdenied]
        rfl

end InitMsr

/-! ## Two CPUs -/

/-- Every device opens, on a descriptor of its own. -/
def ownDescriptor : DevFile → Option Int
  | .whitelist => none
  | .msr i => some (2 * i + 3)
  | .msrSafe i => some (2 * i + 4)

theorem ownDescriptor_handsOut (stat : DevFile → Option FileMode) :
    FileSystem.HandsOut ⟨stat, ownDescriptor⟩ (Session.start oneCpuProcess).process := by
  constructor
  · intro f fd h
    have hfd : 3 ≤ fd := by
      cases f with
      | whitelist => contradiction
      | msr i =>
        obtain rfl := Option.some.inj h
        omega
      | msrSafe i =>
        obtain rfl := Option.some.inj h
        omega
    refine ⟨by omega, rfl, ?_⟩
    show (0 ≤ fd && fd < 3) = false
    simp only [Bool.and_eq_false_iff, decide_eq_false_iff_not]
    omega
  · intro f f' fd h h'
    have heq : ownDescriptor f = ownDescriptor f' := h.trans h'.symm
    cases f <;> cases f' <;> simp only [ownDescriptor, Option.some.injEq] at heq h h' ⊢ <;>
      first
        | contradiction
        | (congr 1; omega)

/-- The msr_safe device of CPU 0 is read-only. -/
def msrSafeReadOnly : FileSystem where
  stat
    | .msrSafe 0 => some ⟨true, false⟩
    | _ => some ⟨true, true⟩
  opens := ownDescriptor

/-- CPU 0 has no msr_safe device, and the one of CPU 1 is read-only. -/
def msrSafeMissing : FileSystem where
  stat
    | .msrSafe 0 => none
    | .msrSafe _ => some ⟨true, false⟩
    | _ => some ⟨true, true⟩
  opens := ownDescriptor

/-- CPU 1 has no msr_safe device. -/
def msrSafePartial : FileSystem where
  stat
    | .msrSafe 1 => none
    | _ => some ⟨true, true⟩
  opens := ownDescriptor

/-- CPU 1 has no device at all, and there is no whitelist. -/
def msrPartial : FileSystem where
  stat
    | .msr 0 => some ⟨true, true⟩
    | _ => none
  opens := ownDescriptor

/-- Without the first msr_safe device the second one is not looked at. -/
theorem msrSafeMissing_falls_back :
    ∃ p', initMsr 2 msrSafeMissing (Session.start oneCpuProcess).process = some (0, p') :=
  (initMsr_fallback_iff (firstInit_start 2 oneCpuProcess) (ownDescriptor_handsOut _)
    (by decide)).mpr (Or.inr (by decide))

/-- A read-only msr_safe device ends the call, though all devices can be used by msr. -/
theorem msrSafeReadOnly_refused :
    (∀ i, msrSafeReadOnly.usable (.msr i) = true) ∧
      initMsr 2 msrSafeReadOnly (Session.start oneCpuProcess).process =
        some (-1, (Session.start oneCpuProcess).process) := by
  refine ⟨fun i => rfl, ?_⟩
  have hloop : initLoop 2 msrSafeReadOnly msrSafeReadOnly.firstModule 0
      (Session.start oneCpuProcess).process = some (-1, (Session.start oneCpuProcess).process) :=
    initLoop_denied (by decide) (by decide) (by decide)
  exact initMsr_loop (firstInit_start 2 oneCpuProcess) hloop

/-- The msr_safe devices are all there. -/
theorem msrSafe_noLeak : ∃ rc p',
    initMsr 2 ⟨fun _ => some ⟨true, true⟩, ownDescriptor⟩ (Session.start oneCpuProcess).process =
      some (rc, p') ∧ NoLeak 2 (Session.start oneCpuProcess).process p' rc :=
  (initMsr_noLeak_iff (firstInit_start 2 oneCpuProcess) (ownDescriptor_handsOut _)).mpr
    ⟨fun _ _ _ _ => rfl, fun h => nomatch h⟩

/-- The descriptor of CPU 0's msr_safe device stays open after the fallback; and that of
    its msr device after an error. -/
theorem partial_leaks :
    (∃ p', initMsr 2 msrSafePartial (Session.start oneCpuProcess).process = some (0, p') ∧
      ¬ NoLeak 2 (Session.start oneCpuProcess).process p' 0) ∧
    ∃ p', initMsr 2 msrPartial (Session.start oneCpuProcess).process = some (-1, p') ∧
      ¬ NoLeak 2 (Session.start oneCpuProcess).process p' (-1) := by
  have hp := firstInit_start 2 oneCpuProcess
  have husable : ∀ i, i < 1 → msrSafePartial.usable (.msrSafe i) = true := by decide
  have husable' : ∀ i, i < 1 → msrPartial.usable (.msr i) = true := by decide
  have hfs : msrSafePartial.HandsOut (Session.start oneCpuProcess).process :=
    ownDescriptor_handsOut _
  have hfs' : msrPartial.HandsOut (Session.start oneCpuProcess).process :=
    ownDescriptor_handsOut _
  constructor
  · obtain ⟨p₁, hover, ho₁⟩ := initLoop_msrSafe_failed (opened_start msrSafePartial hp) hfs
      (not_mem_nil_filename .msrSafe) (by decide) (Or.inl rfl) husable
    obtain ⟨p₂, hloop, ho₂, hfilled⟩ := initLoop_all .msr ho₁ hfs (by decide)
      msr_not_mem_devices (by decide)
    refine ⟨_, initMsr_loop hp (hover.trans hloop), fun h => ?_⟩
    have hnil := (ho₂.noLeak_filled hfs hfilled (by decide)
      (usable_of_mem_devices .msrSafe husable) msr_not_mem_devices).mp h
    contradiction
  · obtain ⟨p₁, hloop, ho₁⟩ := initLoop_msr_first (opened_start msrPartial hp) hfs'
      (not_mem_nil_filename .msr) (by decide) rfl husable'
    refine ⟨_, initMsr_loop hp hloop, fun h => ?_⟩
    have hnil := (ho₁.noLeak_failed hfs' (usable_of_mem_devices .msr husable')).mp h
    contradiction

end Libmsr
