/-
  Libmsr.Rapl.FlagStorageRuns

  Sequences of calls that fetch the RAPL flags, in any order.

  `rapl_storage` notes that it has been called before it knows whether the model has
  RAPL at all.  On a model without, its first call fails, and every later one returns 0
  with the flags that `malloc` left there.
-/
import Libmsr.Rapl.FlagStorage

namespace Libmsr

section Storage

variable {model sockets : Nat} (malloced : Word) {s : FlagStorage} {u : FlagUser}

/-- What `setflags` returns, and what it sets if that is 0, do not depend on what was
    there. -/
theorem setflags_rc (model : Nat) (flags flags' : Word) :
    (setflags model flags).1 = (setflags model flags').1 := by
  rw [setflags, setflags]
  cases mf06Flags model with
  | none => rfl
  | some table => rfl

theorem setflags_word {flags flags' : Word} (h : (setflags model flags).1 = 0) :
    (setflags model flags).2 = (setflags model flags').2 := by
  have h' : (setflags model flags').1 = 0 := (setflags_rc model flags' flags).trans h
  exact Option.some.inj ((setflags_found h).symm.trans (setflags_found h'))

/-! ## A model with RAPL -/

/-- What holds of the statics on a model with RAPL: a pointer that is set leads to flags
    that `setflags` set. -/
structure FlagsGood (model : Nat) (s : FlagStorage) : Prop where
  word : s.init = true → ∃ flags, s.raplFlags = some flags ∧ SetBy model flags
  pointer : ∀ u, s.pointer u = true → s.init = true
  begun : ∀ u, s.begun u = true → s.pointer u = true

/-- What a function that does not fail has done: it got flags that `setflags` set. -/
structure Served (model : Nat) (s : FlagStorage) (r : FlagResult) : Prop where
  rc : r.rc = 0
  good : FlagsGood model r.state
  pointer : ∀ u, s.pointer u = true → r.state.pointer u = true
  words : ∀ flags ∈ r.words, SetBy model flags

theorem flagsGood_start (model : Nat) : FlagsGood model .start :=
  ⟨fun h => (nomatch h), fun _ h => (nomatch h), fun _ h => nomatch h⟩

theorem FlagsGood.setPointer (h : FlagsGood model s) (hinit : s.init = true) (u : FlagUser) :
    FlagsGood model (s.setPointer u) := by
  refine ⟨h.word, fun _ _ => hinit, fun u' hu' => ?_⟩
  show Function.update s.pointer u true u' = true
  by_cases heq : u' = u
  · subst heq
    exact Function.update_self ..
  · rw [Function.update_of_ne heq]
    exact h.begun u' hu'

/-- A pointer that is set stays set. -/
theorem setPointer_mono {u u' : FlagUser} (h : s.pointer u = true) :
    (s.setPointer u').pointer u = true := by
  show Function.update s.pointer u' true u = true
  by_cases heq : u = u'
  · subst heq
    exact Function.update_self ..
  · rwa [Function.update_of_ne heq]

theorem setPointer_self : (s.setPointer u).pointer u = true := Function.update_self ..

theorem FlagsGood.setBegun (h : FlagsGood model s) (hpointer : s.pointer u = true) :
    FlagsGood model (s.setBegun u) := by
  refine ⟨h.word, h.pointer, fun u' hu' => ?_⟩
  by_cases heq : u' = u
  · subst heq
    exact hpointer
  · have hold : (s.setBegun u).begun u' = s.begun u' := Function.update_of_ne heq ..
    exact h.begun u' (hold.symm.trans hu')

/-- Clearing a flag of a limit register leaves the others as `setflags` set them. -/
theorem FlagsGood.clear (h : FlagsGood model s) {reg : Word}
    (hreg : ~~~reg &&& ~~~lockFlags = ~~~lockFlags) : FlagsGood model (s.clear reg) := by
  refine ⟨fun hinit => ?_, h.pointer, h.begun⟩
  obtain ⟨flags, hflags, hset⟩ := h.word hinit
  refine ⟨flags &&& ~~~reg, ?_, hset.1, ?_⟩
  · show s.raplFlags.map _ = _
    rw [hflags, Option.map_some]
  · rw [BitVec.and_assoc, hreg]
    exact hset.2

/-- `rapl_storage` succeeds, and has been called then. -/
theorem raplStorage_good (hmodel : (setflags model 0).1 = 0) (h : FlagsGood model s) :
    ∃ s', raplStorage model malloced s = (0, s') ∧ FlagsGood model s' ∧ s'.init = true ∧
      s'.pointer = s.pointer ∧ s'.begun = s.begun := by
  have hrc : (setflags model malloced).1 = 0 := (setflags_rc model malloced 0).trans hmodel
  rw [raplStorage]
  cases hinit : s.init with
  | true => exact ⟨s, by rw [if_pos rfl], h, hinit, rfl, rfl⟩
  | false =>
    simp only [hrc, Bool.false_eq_true, if_false, ne_eq, not_true_eq_false]
    refine ⟨_, rfl, ⟨fun _ => ⟨_, rfl, hmodel, ?_⟩, fun _ _ => rfl, h.begun⟩, rfl, rfl, rfl⟩
    -- what `malloc` left is overwritten
    rw [setflags_word hrc]

theorem askStorage_good (hmodel : (setflags model 0).1 = 0) (h : FlagsGood model s) (u : FlagUser) :
    ∃ s', askStorage model malloced u s = (0, s') ∧ FlagsGood model s' ∧ s'.pointer u = true ∧
      (∀ u', s.pointer u' = true → s'.pointer u' = true) ∧ s'.begun = s.begun := by
  obtain ⟨s', hs', hgood, hinit, hpointer, hbegun⟩ := raplStorage_good malloced hmodel h
  refine ⟨s'.setPointer u, by rw [askStorage, hs', if_pos rfl], hgood.setPointer hinit u,
    setPointer_self, fun u' hu' => setPointer_mono ?_, hbegun⟩
  rw [hpointer]
  exact hu'

/-- `rapl_storage` does not look at the callers' statics. -/
theorem askStorage_setBegun (u : FlagUser) (s : FlagStorage) :
    askStorage model malloced u (s.setBegun u) =
      ((askStorage model malloced u s).1, (askStorage model malloced u s).2.setBegun u) := by
  have hstorage : raplStorage model malloced (s.setBegun u) =
      ((raplStorage model malloced s).1, (raplStorage model malloced s).2.setBegun u) := by
    have hinit : (s.setBegun u).init = s.init := rfl
    rw [raplStorage, raplStorage, hinit]
    cases s.init with
    | true => rfl
    | false => rfl
  rw [askStorage, askStorage, hstorage]
  split
  · rfl
  · rfl

/-- However a function comes by the flags, it has the pointer then. -/
theorem fetchFlags_good (hmodel : (setflags model 0).1 = 0) (h : FlagsGood model s) (u : FlagUser) :
    ∃ s', fetchFlags model malloced u s = (0, s') ∧ FlagsGood model s' ∧ s'.pointer u = true ∧
      ∀ u', s.pointer u' = true → s'.pointer u' = true := by
  obtain ⟨s', hask, hgood, hself, hmono, hbegun⟩ := askStorage_good malloced hmodel h u
  rw [fetchFlags]
  -- by the function's own guard; a guard that is passed was set after a call that succeeded
  cases u.fetchGuard with
  | always => exact ⟨s', hask, hgood, hself, hmono⟩
  | pointer =>
    simp only
    by_cases hpointer : s.pointer u = true
    · exact ⟨s, if_pos hpointer, h, hpointer, fun _ h => h⟩
    · exact ⟨s', (if_neg hpointer).trans hask, hgood, hself, hmono⟩
  | initBefore =>
    simp only
    by_cases hown : s.begun u = true
    · exact ⟨s, if_pos hown, h, h.begun u hown, fun _ h => h⟩
    · refine ⟨s'.setBegun u, ?_, hgood.setBegun hself, hself, hmono⟩
      rw [if_neg hown, askStorage_setBegun, hask]
  | initAfter =>
    simp only
    by_cases hown : s.begun u = true
    · exact ⟨s, if_pos hown, h, h.begun u hown, fun _ h => h⟩
    · refine ⟨s'.setBegun u, ?_, hgood.setBegun hself, hself, hmono⟩
      rw [if_neg hown, hask, if_pos rfl]

/-- A pointer that is set leads to flags that `setflags` set. -/
theorem FlagsGood.deref (h : FlagsGood model s) (hpointer : s.pointer u = true) :
    ∃ flags, s.deref u = some flags ∧ SetBy model flags := by
  obtain ⟨flags, hflags, hset⟩ := h.word (h.pointer u hpointer)
  exact ⟨flags, by rw [FlagStorage.deref, if_pos hpointer, hflags], hset⟩

/-- Every function is served, also one that is called for the first time. -/
theorem useFlags_good (hmodel : (setflags model 0).1 = 0) (h : FlagsGood model s) (u : FlagUser) :
    ∃ r, useFlags model malloced u s = some r ∧ Served model s r ∧ r.state.pointer u = true := by
  obtain ⟨s', hfetch, hgood, hself, hmono⟩ := fetchFlags_good malloced hmodel h u
  obtain ⟨flags, hflags, hset⟩ := hgood.deref hself
  rw [useFlags, hfetch]
  simp only [ne_eq, not_true_eq_false, if_false]
  by_cases hpoll : u = .pollRaplData
  · exact ⟨_, if_pos hpoll, ⟨rfl, hgood, hmono, fun _ h => nomatch h⟩, hself⟩
  · refine ⟨⟨0, [flags], s'⟩, ?_, ⟨rfl, hgood, hmono, fun w hw => ?_⟩, hself⟩
    · rw [if_neg hpoll, hflags]
      rfl
    · rwa [List.mem_singleton.mp hw]

/-- One function after another. -/
theorem Served.follow {r q : FlagResult} (hr : Served model s r) (hq : Served model r.state q) :
    Served model s ⟨r.rc, r.words ++ q.words, q.state⟩ := by
  refine ⟨hr.rc, hq.good, fun u hu => hq.pointer u (hr.pointer u hu), fun flags hflags => ?_⟩
  rcases List.mem_append.mp hflags with h | h
  · exact hr.words flags h
  · exact hq.words flags h

theorem follow_eq {r q : FlagResult} {f : FlagStorage → Option FlagResult}
    (h : f r.state = some q) : r.follow f = some ⟨r.rc, r.words ++ q.words, q.state⟩ := by
  rw [FlagResult.follow, h, Option.map_some]

theorem useAll_good (hmodel : (setflags model 0).1 = 0) (us : List FlagUser)
    (h : FlagsGood model s) :
    ∃ r, useAll model malloced us s = some r ∧ Served model s r := by
  induction us generalizing s with
  | nil => exact ⟨_, rfl, rfl, h, fun _ h => h, fun _ h => nomatch h⟩
  | cons u us ih =>
    obtain ⟨r, hr, hserved, -⟩ := useFlags_good malloced hmodel h u
    obtain ⟨q, hq, hserved'⟩ := ih hserved.good
    refine ⟨_, ?_, hserved.follow hserved'⟩
    rw [useAll, hr, Option.bind_some, follow_eq hq]

theorem callFlags_good (hmodel : (setflags model 0).1 = 0) (h : FlagsGood model s) (u : FlagUser) :
    ∃ r, callFlags model malloced sockets u s = some r ∧ Served model s r := by
  obtain ⟨r, hr, hserved, -⟩ := useFlags_good malloced hmodel h u
  obtain ⟨q, hq, hserved'⟩ := useAll_good malloced hmodel (u.calls sockets) hserved.good
  refine ⟨_, ?_, hserved.follow hserved'⟩
  rw [callFlags, hr, Option.bind_some, if_neg (not_not.mpr hserved.rc), follow_eq hq]

/-- A register of which the flag is looked at, and cleared if it is locked. -/
theorem checkLock_good (hmodel : (setflags model 0).1 = 0) (h : FlagsGood model s)
    (hpointer : s.pointer .checkForLocks = true) (u : FlagUser) {reg : Word}
    (hreg : ~~~reg &&& ~~~lockFlags = ~~~lockFlags) (locked : Bool) :
    ∃ r, checkLock model malloced u reg locked s = some r ∧ Served model s r := by
  obtain ⟨flags, hflags, hset⟩ := h.deref hpointer
  rw [checkLock, hflags, Option.bind_some]
  by_cases hann : announces flags reg = true
  · obtain ⟨r, hr, hserved, -⟩ := useFlags_good malloced hmodel h u
    rw [if_pos hann, hr, Option.map_some]
    refine ⟨_, rfl, rfl, ?_, fun u' hu' => ?_, fun w hw => ?_⟩
    -- clearing lock flags leaves a word that `setflags` set
    · cases locked with
      | true => exact hserved.good.clear hreg
      | false => exact hserved.good
    · cases locked with
      | true => exact hserved.pointer u' hu'
      | false => exact hserved.pointer u' hu'
    · rcases List.mem_cons.mp hw with rfl | hw
      · exact hset
      · exact hserved.words w hw
  · rw [if_neg hann]
    refine ⟨_, rfl, rfl, h, fun _ h => h, fun w hw => ?_⟩
    rwa [List.mem_singleton.mp hw]

theorem checkSocket_good (hmodel : (setflags model 0).1 = 0) (h : FlagsGood model s)
    (hpointer : s.pointer .checkForLocks = true) (l : SocketLocks) :
    ∃ r, checkSocket model malloced l s = some r ∧ Served model s r := by
  obtain ⟨r₁, hr₁, h₁⟩ := checkLock_good malloced hmodel h hpointer .getPkgRaplLimit
    (by decide : ~~~pkgPowerLimit &&& ~~~lockFlags = ~~~lockFlags) l.pkg
  have hp₁ := h₁.pointer _ hpointer
  obtain ⟨r₂, hr₂, h₂⟩ := checkLock_good malloced hmodel h₁.good hp₁ .getDramRaplLimit
    (by decide : ~~~dramPowerLimit &&& ~~~lockFlags = ~~~lockFlags) l.dram
  obtain ⟨r₃, hr₃, h₃⟩ := checkLock_good malloced hmodel h₂.good (h₂.pointer _ hp₁)
    .getMaxTurboActivationRatio
    (by decide : ~~~turboActivationRatio &&& ~~~lockFlags = ~~~lockFlags) l.turbo
  refine ⟨_, ?_, (h₁.follow h₂).follow h₃⟩
  rw [checkSocket, hr₁, Option.bind_some, follow_eq hr₂, Option.bind_some]
  exact follow_eq hr₃

theorem checkSockets_good (hmodel : (setflags model 0).1 = 0) (ls : List SocketLocks)
    (h : FlagsGood model s) (hpointer : s.pointer .checkForLocks = true) :
    ∃ r, checkSockets model malloced ls s = some r ∧ Served model s r := by
  induction ls generalizing s with
  | nil => exact ⟨_, rfl, rfl, h, fun _ h => h, fun _ h => nomatch h⟩
  | cons l ls ih =>
    obtain ⟨r, hr, hserved⟩ := checkSocket_good malloced hmodel h hpointer l
    obtain ⟨q, hq, hserved'⟩ := ih hserved.good (hserved.pointer _ hpointer)
    refine ⟨_, ?_, hserved.follow hserved'⟩
    rw [checkSockets, hr, Option.bind_some, follow_eq hq]

/-- What is handed out was set by `setflags`. -/
theorem FlagsGood.handOut (h : FlagsGood model s) (hinit : s.init = true) (wanted : Bool) :
    ∀ flags ∈ handOut wanted s, SetBy model flags := by
  intro flags hflags
  obtain ⟨flags', hword, hset⟩ := h.word hinit
  cases wanted with
  | false => contradiction
  | true =>
    rw [Libmsr.handOut, if_pos rfl, hword] at hflags
    rwa [List.mem_singleton.mp hflags]

theorem initFlags_good (hmodel : (setflags model 0).1 = 0) (h : FlagsGood model s) (wanted : Bool)
    (locks : List SocketLocks) :
    ∃ r, initFlags model malloced wanted locks s = some r ∧ Served model s r := by
  obtain ⟨s', hs', hgood, hinit, hpointer, -⟩ := raplStorage_good malloced hmodel h
  obtain ⟨q, hq, hserved, hself⟩ := useFlags_good malloced hmodel hgood .checkForLocks
  obtain ⟨t, ht, hserved'⟩ := checkSockets_good malloced hmodel locks hserved.good hself
  -- the word is handed out before `check_for_locks` looks at it
  have hhanded : Served model s ⟨0, handOut wanted s' ++ q.words, q.state⟩ := by
    refine ⟨rfl, hserved.good, fun u hu => hserved.pointer u (hpointer ▸ hu),
      fun flags hflags => ?_⟩
    rcases List.mem_append.mp hflags with hw | hw
    · exact hgood.handOut hinit wanted flags hw
    · exact hserved.words flags hw
  refine ⟨_, ?_, hhanded.follow hserved'⟩
  rw [initFlags, hs']
  simp only [ne_eq, not_true_eq_false, if_false]
  rw [hq, Option.bind_some, if_neg (not_not.mpr hserved.rc)]
  exact follow_eq ht

/-- No call fails on a model with RAPL. -/
theorem exec_good (hmodel : (setflags model 0).1 = 0) (h : FlagsGood model s) (c : FlagCall) :
    ∃ r, c.exec model sockets malloced s = some r ∧ Served model s r := by
  cases c with
  | storage wanted =>
    obtain ⟨s', hs', hgood, hinit, hpointer, -⟩ := raplStorage_good malloced hmodel h
    refine ⟨⟨0, handOut wanted s', s'⟩, ?_, rfl, hgood, fun u hu => hpointer ▸ hu,
      hgood.handOut hinit wanted⟩
    rw [FlagCall.exec, hs']
    rfl
  | init wanted locks => exact initFlags_good malloced hmodel h wanted locks
  | use u => exact callFlags_good malloced hmodel h u

/-! ## A model without RAPL -/

/-- Once it was called, `rapl_storage` returns 0. -/
theorem raplStorage_called (hinit : s.init = true) : raplStorage model malloced s = (0, s) := by
  rw [raplStorage, if_pos hinit]

theorem fetchFlags_called (hinit : s.init = true) (u : FlagUser) :
    (fetchFlags model malloced u s).1 = 0 := by
  have hask : ∀ s' : FlagStorage, s'.init = true → (askStorage model malloced u s').1 = 0 := by
    intro s' h
    rw [askStorage, raplStorage_called malloced h]
  rw [fetchFlags]
  cases u.fetchGuard with
  | always => exact hask s hinit
  | pointer =>
    simp only
    split
    · rfl
    · exact hask s hinit
  | initBefore =>
    simp only
    split
    · rfl
    · exact hask (s.setBegun u) hinit
  | initAfter =>
    simp only
    split
    · rfl
    · exact hask s hinit

theorem useFlags_called (hinit : s.init = true) {r : FlagResult}
    (h : useFlags model malloced u s = some r) : r.rc = 0 := by
  rw [useFlags, fetchFlags_called malloced hinit] at h
  simp only [ne_eq, not_true_eq_false, if_false] at h
  split at h
  · obtain rfl := Option.some.inj h
    rfl
  · obtain ⟨flags, -, rfl⟩ := Option.map_eq_some_iff.mp h
    rfl

/-- No call fails after the first. -/
theorem exec_called (hinit : s.init = true) {c : FlagCall} {r : FlagResult}
    (h : c.exec model sockets malloced s = some r) : r.rc = 0 := by
  cases c with
  | storage wanted =>
    rw [FlagCall.exec, raplStorage_called malloced hinit] at h
    obtain rfl := Option.some.inj h
    rfl
  | init wanted locks =>
    rw [FlagCall.exec, initFlags, raplStorage_called malloced hinit] at h
    simp only [ne_eq, not_true_eq_false, if_false] at h
    obtain ⟨q, hq, h⟩ := Option.bind_eq_some_iff.mp h
    rw [if_neg (not_not.mpr (useFlags_called malloced hinit hq))] at h
    obtain ⟨t, -, rfl⟩ := Option.map_eq_some_iff.mp h
    rfl
  | use u =>
    obtain ⟨q, hq, h⟩ := Option.bind_eq_some_iff.mp h
    have hrc := useFlags_called malloced hinit hq
    rw [if_neg (not_not.mpr hrc)] at h
    obtain ⟨t, -, rfl⟩ := Option.map_eq_some_iff.mp h
    exact hrc

/-- The first call fails, whichever it is. -/
theorem exec_first (hmodel : (setflags model 0).1 ≠ 0) (c : FlagCall) :
    ∃ r, c.exec model sockets malloced .start = some r ∧ r.rc = -1 ∧ r.words = [] ∧
      r.state.init = true := by
  have hrc : (setflags model malloced).1 ≠ 0 := setflags_rc model malloced 0 ▸ hmodel
  have hstorage : ∀ s : FlagStorage, s.init = false → ∃ s',
      raplStorage model malloced s = (-1, s') ∧ s'.init = true := by
    intro s hinit
    refine ⟨{ s with init := true, raplFlags := some (setflags model malloced).2 }, ?_, rfl⟩
    rw [raplStorage, if_neg (by simp [hinit])]
    simp only [if_pos hrc]
  have hask : ∀ (u : FlagUser) (s : FlagStorage), s.init = false → ∃ s',
      askStorage model malloced u s = (-1, s') ∧ s'.init = true := by
    intro u s hinit
    obtain ⟨s', hs', hcalled⟩ := hstorage s hinit
    refine ⟨s', ?_, hcalled⟩
    rw [askStorage, hs', if_neg (by simp)]
  cases c with
  | storage wanted =>
    obtain ⟨s', hs', hcalled⟩ := hstorage .start rfl
    refine ⟨⟨-1, [], s'⟩, ?_, rfl, rfl, hcalled⟩
    rw [FlagCall.exec, hs']
    rfl
  | init wanted locks =>
    obtain ⟨s', hs', hcalled⟩ := hstorage .start rfl
    refine ⟨⟨-1, [], s'⟩, ?_, rfl, rfl, hcalled⟩
    rw [FlagCall.exec, initFlags, hs']
    rfl
  | use u =>
    have hfetch : ∃ s', fetchFlags model malloced u .start = (-1, s') ∧ s'.init = true := by
      rw [fetchFlags]
      cases u.fetchGuard with
      | always => exact hask u .start rfl
      | pointer => exact hask u .start rfl
      | initBefore => exact hask u (FlagStorage.start.setBegun u) rfl
      | initAfter =>
        obtain ⟨s', hs', hcalled⟩ := hask u .start rfl
        refine ⟨s', ?_, hcalled⟩
        simp only
        rw [if_neg (by simp [FlagStorage.start]), hs', if_neg (by simp)]
    obtain ⟨s', hs', hcalled⟩ := hfetch
    refine ⟨⟨-1, [], s'⟩, ?_, rfl, rfl, hcalled⟩
    have huse : useFlags model malloced u .start = some ⟨-1, [], s'⟩ := by
      rw [useFlags, hs']
      rfl
    rw [FlagCall.exec, callFlags, huse]
    rfl

/-! ## Every sequence of calls -/

/-- Where a sequence of calls is, as long as it meets the condition. -/
inductive FlagRunInv (model : Nat) (r : FlagRun) : Prop
  | good (hmodel : (setflags model 0).1 = 0) (state : FlagsGood model r.state)
      (failed : r.failed = false)
  | first (hmodel : (setflags model 0).1 ≠ 0) (start : r = .start)
  | failed (hmodel : (setflags model 0).1 ≠ 0) (called : r.state.init = true)
      (failed : r.failed = true)

theorem flagRunInv_start (model : Nat) : FlagRunInv model .start := by
  by_cases hmodel : (setflags model 0).1 = 0
  · exact .good hmodel (flagsGood_start model) rfl
  · exact .first hmodel rfl

/-- A call is sound exactly if the model has RAPL or it is the first. -/
theorem FlagRunInv.sound_iff {r : FlagRun} (hI : FlagRunInv model r) (c : FlagCall) :
    FlagsSound model sockets malloced r c ↔ RaplOrFirst model r c := by
  cases hI with
  | good hmodel state failed =>
    obtain ⟨q, hq, hserved⟩ := exec_good malloced hmodel state c
    refine iff_of_true ⟨q, hq, fun h => ?_, hserved.words⟩ (Or.inl hmodel)
    rw [failed] at h
    contradiction
  | first hmodel start =>
    subst start
    obtain ⟨q, hq, -, hwords, -⟩ := exec_first malloced hmodel c
    refine iff_of_true ⟨q, hq, fun h => (nomatch h), fun flags hflags => ?_⟩ (Or.inr rfl)
    rw [hwords] at hflags
    contradiction
  | failed hmodel called failed =>
    refine iff_of_false ?_ ?_
    · rintro ⟨q, hq, hfails, -⟩
      exact hfails failed (exec_called malloced called hq)
    · rintro (h | h)
      · exact hmodel h
      · rw [called] at h
        contradiction

theorem FlagRunInv.step {r r' : FlagRun} {c : FlagCall} (hI : FlagRunInv model r)
    (hcond : RaplOrFirst model r c) (h : r.step model sockets malloced c = some r') :
    FlagRunInv model r' := by
  obtain ⟨q, hq, rfl⟩ := Option.map_eq_some_iff.mp h
  cases hI with
  | good hmodel state failed =>
    obtain ⟨q', hq', hserved⟩ := exec_good malloced hmodel state c
    obtain rfl := Option.some.inj (hq.symm.trans hq')
    refine .good hmodel hserved.good ?_
    simp [failed, hserved.rc]
  | first hmodel start =>
    subst start
    obtain ⟨q', hq', hrc, -, hcalled⟩ := exec_first malloced hmodel c
    obtain rfl := Option.some.inj (hq.symm.trans hq')
    exact .failed hmodel hcalled (by simp [hrc])
  | failed hmodel called _ =>
    rcases hcond with h | h
    · exact absurd h hmodel
    · rw [called] at h
      contradiction

end Storage

/-- Along every sequence of calls: failures stay, and flags are set where they are used,
    exactly when the model has RAPL or no call follows the first. -/
theorem flagsSound_along_iff (model sockets : Nat) (malloced : Word) (calls : List FlagCall) :
    Runs.Along (FlagRun.step model sockets malloced) (FlagsSound model sockets malloced) .start
        calls ↔
      Runs.Along (FlagRun.step model sockets malloced) (RaplOrFirst model) .start calls :=
  Runs.along_iff (fun _ c hI => hI.sound_iff malloced c)
    (fun _ _ _ hI hcond hstep => hI.step malloced hcond hstep) (flagRunInv_start model)

/-- On model 0x0F, which has no RAPL, the second `rapl_init` gets what `malloc` left. -/
theorem second_raplInit_unset :
    (∃ r, FlagRun.start.step 0x0F 1 0xFFFF (.init true [⟨false, false, false⟩]) = some r ∧
      r.failed = true ∧
      ∃ q, FlagCall.exec 0x0F 1 0xFFFF r.state (.init true [⟨false, false, false⟩]) = some q ∧
        q.rc = 0 ∧ 0xFFFF ∈ q.words) ∧
      ¬ Runs.Along (FlagRun.step 0x0F 1 0xFFFF) (FlagsSound 0x0F 1 0xFFFF) .start
        [.init true [⟨false, false, false⟩], .init true [⟨false, false, false⟩]] := by
  refine ⟨⟨_, rfl, rfl, _, rfl, rfl, by decide⟩, ?_⟩
  rintro ⟨-, hsecond⟩
  obtain ⟨⟨q, hq, hfails, -⟩, -⟩ := hsecond _ rfl
  exact hfails rfl (exec_called 0xFFFF rfl hq)

end Libmsr
