/-
  Libmsr.Counters.PmcControl

  The event-select registers after `init_perfevtsel` and `init_pmc`, over any calls of
  `set_pmc_ctrl_flags` and `set_all_pmc_ctrl`.

  Every counter has its ops and every call sets the slots of its own counter exactly
  when there are at most eight counters, the CPU numbers fit the 16 bits of an op, and
  no call names one of the eight arrays that was not allocated.
-/
import Libmsr.Counters.PmcLoading
import Libmsr.Lib.Runs

namespace Libmsr

open Runs

/-! ## What is required -/

/-- Each of the first `min avail 8` arrays has for every thread a pointer to the op on
    the counter's register and this CPU.  Different counters or threads have different
    ops, since the ops go to different places. -/
def OwnOps (n avail msr0 : Nat) (arrays : RegArrays) (st : BatchStorage) (b : Nat) : Prop :=
  ∀ k, k < min avail 8 → ∀ t, t < n → ∃ val p op, arrays k = some val ∧
    ptrAt val t = some p ∧ st.opAt b p = some op ∧ op.place = (t, msr0 + k)

/-- The calls that select events. -/
inductive PmcCtrlCall where
  | one (cmask flags umask eventsel : Word) (pmcnum : Int) (thread : Nat)
  | all (cmask flags umask eventsel : Word) (pmcnum : Int)

namespace PmcCtrlCall

/-- The counter that the call names. -/
def pmcnum : PmcCtrlCall → Int
  | .one _ _ _ _ num _ => num
  | .all _ _ _ _ num => num

/-- The word that it stores. -/
def word : PmcCtrlCall → Word
  | .one cmask flags umask eventsel _ _ => pmcCtrlWord cmask flags umask eventsel
  | .all cmask flags umask eventsel _ => pmcCtrlWord cmask flags umask eventsel

/-- The processors that it addresses. -/
def Thread : PmcCtrlCall → Nat → Prop
  | .one _ _ _ _ _ thread, t => thread = t
  | .all _ _ _ _ _, _ => True

/-- The processor of a single call exists. -/
def Valid (n : Nat) : PmcCtrlCall → Prop
  | .one _ _ _ _ _ thread => thread < n
  | .all _ _ _ _ _ => True

/-- The condition: the number is none of the eight, or it is one of the counters. -/
def Fits (avail : Nat) (c : PmcCtrlCall) : Prop := c.pmcnum < 1 ∨ 8 < c.pmcnum ∨ c.pmcnum ≤ avail

instance decidableValid (n : Nat) : (c : PmcCtrlCall) → Decidable (c.Valid n)
  | .one _ _ _ _ _ thread => inferInstanceAs (Decidable (thread < n))
  | .all _ _ _ _ _ => inferInstanceAs (Decidable True)

instance decidableFits (avail : Nat) (c : PmcCtrlCall) : Decidable (c.Fits avail) :=
  inferInstanceAs (Decidable (c.pmcnum < 1 ∨ 8 < c.pmcnum ∨ c.pmcnum ≤ avail))

end PmcCtrlCall

def pmcCtrlStep (P : Platform) (rax : Word) (s : PmcState) : PmcCtrlCall → Option PmcState
  | .one cmask flags umask eventsel pmcnum thread =>
    setPmcCtrlFlags P rax cmask flags umask eventsel pmcnum s thread
  | .all cmask flags umask eventsel pmcnum =>
    setAllPmcCtrl P rax cmask flags umask eventsel pmcnum s

/-- The event-select slot of counter `k` and thread `t`. -/
def PmcState.evtSlot (s : PmcState) (k t : Nat) : Option Word :=
  s.world.loadAt countersCtrlBatch s.evt k t

/-- Nothing but slots of the event-select batch has changed. -/
structure KeepsArrays (s s' : PmcState) : Prop where
  evt : s'.evt = s.evt
  pmc : s'.pmc = s.pmc
  host : s'.world.host = s.world.host
  batches : KeepsOthers s.world.st countersCtrlBatch s'.world.st

/-- What a call does to the slots: its word is in those it names, the others stay. -/
structure SetsSlotsTo (n avail : Nat) (s : PmcState) (c : PmcCtrlCall) (s' : PmcState) :
    Prop where
  named : ∀ k t, k < avail → t < n → c.pmcnum = k + 1 → c.Thread t → s'.evtSlot k t = some c.word
  others : ∀ k t, k < avail → t < n → ¬ (c.pmcnum = k + 1 ∧ c.Thread t) →
    s'.evtSlot k t = s.evtSlot k t
  keeps : KeepsArrays s s'

/-- A call follows no null pointer, and changes exactly the slots it names. -/
def SetsSlots (P : Platform) (rax : Word) (s : PmcState) (c : PmcCtrlCall) : Prop :=
  ∃ s', pmcCtrlStep P rax s c = some s' ∧
    SetsSlotsTo P.cfg.numDevs (cpuidNumPmc rax) s c s'

/-- After both init functions every counter has its own ops, and each of the calls sets
    its slots. -/
def ControlWorks (P : Platform) (rax : Word) (s : PmcState) (calls : List PmcCtrlCall) : Prop :=
  ∃ s₁ s₂, perfevtselStorage P rax s = some s₁ ∧ pmcStorage P rax s₁ = some s₂ ∧
    OwnOps P.cfg.numDevs (cpuidNumPmc rax) ia32Perfevtsel0 s₂.evt s₂.world.st countersCtrlBatch ∧
    OwnOps P.cfg.numDevs (cpuidNumPmc rax) ia32Pmc0 s₂.pmc s₂.world.st countersDataBatch ∧
    Along (pmcCtrlStep P rax) (SetsSlots P rax) s₂ calls

/-- Before any call to the counters. -/
structure PmcStart (s : PmcState) : Prop where
  sized : s.world.st.Sized
  evtInit : s.evtInit = false
  evt : ∀ k, s.evt k = none
  ctrl : s.world.st.entry countersCtrlBatch = .empty
  pmcInit : s.pmcInit = false
  pmc : ∀ k, s.pmc k = none
  data : s.world.st.entry countersDataBatch = .empty

theorem pmcStart_fresh (host : Host) : PmcStart (pmcStart host) :=
  ⟨BatchStorage.init_sized, rfl, fun _ => rfl, rfl, rfl, fun _ => rfl, rfl⟩

/-! ## Storage -/

section Storage

variable {P : Platform} {rax : Word} {s : PmcState}

/-- `perfevtsel_storage` has run, with up to eight counters. -/
structure EvtLoaded (P : Platform) (rax : Word) (s : PmcState) (id : Nat)
    (data : Nat → Nat → Word) : Prop where
  init : s.evtInit = true
  table : RegTable (pmcLayout P.cfg (cpuidNumPmc rax) ia32Perfevtsel0) s.evt s.world.st
    countersCtrlBatch id data
  null : ∀ k, cpuidNumPmc rax ≤ k → s.evt k = none

/-- `pmc_storage` has run, with up to eight counters. -/
structure PmcLoaded (P : Platform) (rax : Word) (s : PmcState) (id : Nat)
    (data : Nat → Nat → Word) : Prop where
  init : s.pmcInit = true
  table : RegTable (pmcLayout P.cfg (cpuidNumPmc rax) ia32Pmc0) s.pmc s.world.st
    countersDataBatch id data
  null : ∀ k, cpuidNumPmc rax ≤ k → s.pmc k = none

theorem data_ne_ctrl : countersDataBatch ≠ countersCtrlBatch := by decide

theorem EvtLoaded.storage {id : Nat} {data : Nat → Nat → Word} (h : EvtLoaded P rax s id data) :
    perfevtselStorage P rax s = some s := by
  rw [perfevtselStorage, if_pos h.init]

theorem pmcStorage_init (hinit : s.pmcInit = true) : pmcStorage P rax s = some s := by
  rw [pmcStorage, if_pos hinit]

variable (hpos : 1 ≤ cpuidNumPmc rax) (hle : cpuidNumPmc rax ≤ 8)
  (hsmall : cpuidNumPmc rax * P.cfg.numDevs < 2 ^ 31)
include hpos hle hsmall

theorem perfevtselStorage_spec (hs : s.world.st.Sized) (hinit : s.evtInit = false)
    (hempty : s.world.st.entry countersCtrlBatch = .empty) (hevt : ∀ k, s.evt k = none) :
    ∃ s', perfevtselStorage P rax s = some s' ∧
      EvtLoaded P rax s' s.world.st.nextId (fun _ _ => 0) ∧ s'.world.st.Sized ∧
      s'.world.host = s.world.host ∧ s'.pmc = s.pmc ∧ s'.pmcInit = s.pmcInit ∧
      KeepsOthers s.world.st countersCtrlBatch s'.world.st := by
  obtain ⟨r, hr, htable, hsized, hothers, hkeep⟩ := initCounters_spec (P := P)
    ia32Perfevtsel0 s.evt hs hempty hpos hle hsmall
  refine ⟨{ s with world := { s.world with st := r.2 }, evt := r.1, evtInit := true }, ?_,
    ⟨rfl, htable, fun k hk => ?_⟩, hsized, rfl, rfl, rfl, hkeep⟩
  · rw [perfevtselStorage, hinit]
    simp only [Bool.false_eq_true, if_false, initPerfevtsel, hr, Option.bind_eq_bind,
      Option.bind_some]
  · exact (hothers k hk).trans (hevt k)

theorem pmcStorage_spec (hs : s.world.st.Sized) (hinit : s.pmcInit = false)
    (hempty : s.world.st.entry countersDataBatch = .empty) (hpmc : ∀ k, s.pmc k = none) :
    ∃ s', pmcStorage P rax s = some s' ∧
      PmcLoaded P rax s' s.world.st.nextId (fun _ _ => 0) ∧ s'.world.st.Sized ∧
      s'.world.host = s.world.host ∧ s'.evt = s.evt ∧ s'.evtInit = s.evtInit ∧
      KeepsOthers s.world.st countersDataBatch s'.world.st := by
  obtain ⟨r, hr, htable, hsized, hothers, hkeep⟩ := initCounters_spec (P := P)
    ia32Pmc0 s.pmc hs hempty hpos hle hsmall
  refine ⟨{ s with world := { s.world with st := r.2 }, pmc := r.1, pmcInit := true }, ?_,
    ⟨rfl, htable, fun k hk => ?_⟩, hsized, rfl, rfl, rfl, hkeep⟩
  · rw [pmcStorage, hinit]
    simp only [Bool.false_eq_true, if_false, initPmc, hr, Option.bind_eq_bind, Option.bind_some]
  · exact (hothers k hk).trans (hpmc k)

/-- Both, one after the other. -/
theorem PmcStart.load (hstart : PmcStart s) :
    ∃ s₁ s₂ id id', perfevtselStorage P rax s = some s₁ ∧ pmcStorage P rax s₁ = some s₂ ∧
      EvtLoaded P rax s₂ id (fun _ _ => 0) ∧ PmcLoaded P rax s₂ id' (fun _ _ => 0) := by
  obtain ⟨s₁, hs₁, hevt, hsized₁, -, hpmc₁, hinit₁, hkeep₁⟩ := perfevtselStorage_spec hpos hle
    hsmall hstart.sized hstart.evtInit hstart.ctrl hstart.evt
  have hempty : s₁.world.st.entry countersDataBatch = .empty := by
    rw [hkeep₁.entry_ne _ data_ne_ctrl]
    exact hstart.data
  obtain ⟨s₂, hs₂, hpmc, hsized₂, -, hevt₂, hinit₂, hkeep₂⟩ := pmcStorage_spec hpos hle hsmall
    hsized₁ (hinit₁.trans hstart.pmcInit) hempty (hpmc₁ ▸ hstart.pmc)
  refine ⟨s₁, s₂, s.world.st.nextId, _, hs₁, hs₂, ⟨hinit₂.trans hevt.init, ?_, ?_⟩, hpmc⟩
  · rw [hevt₂]
    exact hevt.table.of_keepsOthers data_ne_ctrl.symm hsized₂ hkeep₂
  · rw [hevt₂]
    exact hevt.null

end Storage

/-- Loaded arrays have their own ops. -/
theorem RegTable.ownOps {cfg : CoreConfig} {avail msr0 b id : Nat} {arrays : RegArrays}
    {st : BatchStorage} {data : Nat → Nat → Word} (hn : cfg.numDevs ≤ 2 ^ 16)
    (hmsr : msr0 + 8 < 2 ^ 32) (h : RegTable (pmcLayout cfg avail msr0) arrays st b id data) :
    OwnOps cfg.numDevs avail msr0 arrays st b := by
  intro k hk t ht
  have hcount : k < (pmcLayout cfg avail msr0).count := (lt_min_iff.mp hk).1
  have hk8 : k < 8 := (lt_min_iff.mp hk).2
  obtain ⟨val, hval, hptr⟩ := h.pointer hcount ht
  obtain ⟨op, hop, hplace, -⟩ := h.opAt hcount ht
  refine ⟨val, _, op, hval, hptr, hop, hplace.trans ?_⟩
  exact opPlace_of_lt (by show msr0 + k < 2 ^ 32; omega) (ht.trans_le hn)

/-- An op cannot go to a CPU from 65536 on. -/
theorem OwnOps.numDevs_le {n avail msr0 b : Nat} {arrays : RegArrays} {st : BatchStorage}
    (h : OwnOps n avail msr0 arrays st b) (hpos : 1 ≤ avail) : n ≤ 2 ^ 16 := by
  by_contra hlt
  obtain ⟨-, -, op, -, -, -, hplace⟩ := h 0 (by omega) (2 ^ 16) (Nat.not_le.mp hlt)
  have hcpu : op.cpu.toNat = 2 ^ 16 := congrArg Prod.fst hplace
  have hfits := op.cpu.isLt
  omega

/-! ## One call -/

theorem KeepsArrays.refl (s : PmcState) : KeepsArrays s s := ⟨rfl, rfl, rfl, .refl _ _⟩

theorem KeepsArrays.trans {s s' s'' : PmcState} (h : KeepsArrays s s') (h' : KeepsArrays s' s'') :
    KeepsArrays s s'' :=
  ⟨h'.evt.trans h.evt, h'.pmc.trans h.pmc, h'.host.trans h.host, h.batches.trans h'.batches⟩

section Call

variable {P : Platform} {rax : Word} {s : PmcState} {id : Nat} {data : Nat → Nat → Word}

/-- A number that is no case. -/
theorem setPmcCtrlFlags_noCase (h : EvtLoaded P rax s id data) {pmcnum : Int}
    (hout : pmcnum < 1 ∨ 8 < pmcnum) (cmask flags umask eventsel : Word) (thread : Nat) :
    setPmcCtrlFlags P rax cmask flags umask eventsel pmcnum s thread = some s := by
  rw [setPmcCtrlFlags, h.storage, Option.bind_eq_bind, Option.bind_some, if_neg (by omega)]

/-- A number whose array is not there. -/
theorem setPmcCtrlFlags_null (h : EvtLoaded P rax s id data) {pmcnum : Int}
    (hnull : (cpuidNumPmc rax : Int) < pmcnum) (hin : 1 ≤ pmcnum ∧ pmcnum ≤ 8)
    (cmask flags umask eventsel : Word) (thread : Nat) :
    setPmcCtrlFlags P rax cmask flags umask eventsel pmcnum s thread = none := by
  rw [setPmcCtrlFlags, h.storage, Option.bind_eq_bind, Option.bind_some, if_pos hin,
    BatchWorld.storeAt, h.null _ (by omega)]
  rfl

/-- A counter's number: one slot is set. -/
theorem setPmcCtrlFlags_counter (h : EvtLoaded P rax s id data) {k thread : Nat}
    (hk : k < cpuidNumPmc rax) (hk8 : k < 8) (hthread : thread < P.cfg.numDevs)
    (cmask flags umask eventsel : Word) :
    ∃ s', setPmcCtrlFlags P rax cmask flags umask eventsel ((k : Int) + 1) s thread = some s' ∧
      EvtLoaded P rax s' id
        (setCell data k thread (pmcCtrlWord cmask flags umask eventsel)) ∧
      KeepsArrays s s' := by
  obtain ⟨w', hw', htable, hhost, hkeep⟩ := h.table.storeAt (k := k) (t := thread) hk hthread
    (pmcCtrlWord cmask flags umask eventsel)
  refine ⟨{ s with world := w' }, ?_, ⟨h.init, htable, h.null⟩, ⟨rfl, rfl, hhost, hkeep⟩⟩
  have hnum : ((k : Int) + 1).toNat - 1 = k := by omega
  rw [setPmcCtrlFlags, h.storage, Option.bind_eq_bind, Option.bind_some, if_pos (by omega), hnum,
    hw']
  rfl

theorem EvtLoaded.congr {data' : Nat → Nat → Word} (h : EvtLoaded P rax s id data)
    (heq : ∀ k t, k < cpuidNumPmc rax → t < P.cfg.numDevs → data' k t = data k t) :
    EvtLoaded P rax s id data' :=
  ⟨h.init, h.table.congr heq, h.null⟩

theorem EvtLoaded.evtSlot (h : EvtLoaded P rax s id data) {k t : Nat} (hk : k < cpuidNumPmc rax)
    (ht : t < P.cfg.numDevs) : s.evtSlot k t = some (data k t) :=
  h.table.loadAt hk ht

/-- The loop over all threads sets the slots of the counter. -/
theorem setAllPmcCtrl_counter (h : EvtLoaded P rax s id data) {k : Nat}
    (hk : k < cpuidNumPmc rax) (hk8 : k < 8) (cmask flags umask eventsel : Word) :
    ∃ s', setAllPmcCtrl P rax cmask flags umask eventsel ((k : Int) + 1) s = some s' ∧
      EvtLoaded P rax s' id (fun k' t => if k' = k ∧ t < P.cfg.numDevs then
        pmcCtrlWord cmask flags umask eventsel else data k' t) ∧ KeepsArrays s s' := by
  refine Loops.foldlM_range_inv _ (fun i s' => EvtLoaded P rax s' id (fun k' t =>
    if k' = k ∧ t < i then pmcCtrlWord cmask flags umask eventsel else data k' t) ∧
      KeepsArrays s s') P.cfg.numDevs s ⟨?_, .refl s⟩ fun i hi s₁ hI => ?_
  · refine h.congr fun k' t _ _ => if_neg ?_
    omega
  · obtain ⟨h₁, hkeep₁⟩ := hI
    obtain ⟨s₂, hs₂, h₂, hkeep₂⟩ :=
      setPmcCtrlFlags_counter h₁ hk hk8 hi cmask flags umask eventsel
    refine ⟨s₂, hs₂, h₂.congr fun k' t _ _ => ?_, hkeep₁.trans hkeep₂⟩
    -- thread `i` is the one that was added
    rw [setCell]
    rcases eq_or_ne (k', t) (k, i) with heq | hne
    · obtain ⟨rfl, rfl⟩ := Prod.mk.inj heq
      rw [if_pos rfl, if_pos ⟨rfl, Nat.lt_succ_self t⟩]
    · have hiff : k' = k ∧ t < i + 1 ↔ k' = k ∧ t < i := by
        refine and_congr_right fun hkk => ?_
        have hti : t ≠ i := fun hti => hne (Prod.ext hkk hti)
        omega
      rw [if_neg hne]
      simp only [hiff]

theorem setAllPmcCtrl_noCase (h : EvtLoaded P rax s id data) {pmcnum : Int}
    (hout : pmcnum < 1 ∨ 8 < pmcnum) (cmask flags umask eventsel : Word) :
    setAllPmcCtrl P rax cmask flags umask eventsel pmcnum s = some s := by
  obtain ⟨s', hs', rfl⟩ := Loops.foldlM_range_inv
    (setPmcCtrlFlags P rax cmask flags umask eventsel pmcnum) (fun _ s' => s' = s)
    P.cfg.numDevs s rfl fun i _ s' heq =>
      ⟨s, heq ▸ setPmcCtrlFlags_noCase h hout cmask flags umask eventsel i, rfl⟩
  exact hs'

theorem setAllPmcCtrl_null (h : EvtLoaded P rax s id data) (hn : 0 < P.cfg.numDevs) {pmcnum : Int}
    (hnull : (cpuidNumPmc rax : Int) < pmcnum) (hin : 1 ≤ pmcnum ∧ pmcnum ≤ 8)
    (cmask flags umask eventsel : Word) :
    setAllPmcCtrl P rax cmask flags umask eventsel pmcnum s = none := by
  refine Loops.foldlM_range_none hn ?_
  rw [Loops.foldlM_range_succ, List.range_zero, List.foldlM_nil]
  exact setPmcCtrlFlags_null h hnull hin cmask flags umask eventsel 0

/-- A call that fits sets the slots it names. -/
theorem EvtLoaded.step (h : EvtLoaded P rax s id data) (hle : cpuidNumPmc rax ≤ 8)
    {c : PmcCtrlCall} (hvalid : c.Valid P.cfg.numDevs) (hfits : c.Fits (cpuidNumPmc rax)) :
    ∃ s' data', pmcCtrlStep P rax s c = some s' ∧ EvtLoaded P rax s' id data' ∧
      SetsSlotsTo P.cfg.numDevs (cpuidNumPmc rax) s c s' := by
  by_cases hout : c.pmcnum < 1 ∨ 8 < c.pmcnum
  · -- the switch has no case, and stores nothing
    refine ⟨s, data, ?_, h, fun k t hk _ hnum => ?_, fun _ _ _ _ _ => rfl, .refl s⟩
    · cases c with
      | one cmask flags umask eventsel pmcnum thread =>
        exact setPmcCtrlFlags_noCase h hout cmask flags umask eventsel thread
      | all cmask flags umask eventsel pmcnum =>
        exact setAllPmcCtrl_noCase h hout cmask flags umask eventsel
    · omega
  · -- the number of a counter
    have hin : 1 ≤ c.pmcnum ∧ c.pmcnum ≤ cpuidNumPmc rax := by
      rcases hfits with hlt | hgt | hle'
      · exact absurd (Or.inl hlt) hout
      · exact absurd (Or.inr hgt) hout
      · omega
    obtain ⟨k, hk⟩ : ∃ k : Nat, c.pmcnum = k + 1 := ⟨c.pmcnum.toNat - 1, by omega⟩
    have hkc : k < cpuidNumPmc rax := by omega
    have hkey : ∀ k' : Nat, c.pmcnum = k' + 1 ↔ k' = k := fun k' => by omega
    cases c with
    | one cmask flags umask eventsel pmcnum thread =>
      obtain rfl : pmcnum = (k : Int) + 1 := hk
      obtain ⟨s', hs', h', hkeep⟩ := setPmcCtrlFlags_counter h hkc (by omega) hvalid cmask flags
        umask eventsel
      refine ⟨s', _, hs', h', fun k' t hk' ht hnum hthread => ?_,
        fun k' t hk' ht hother => ?_, hkeep⟩
      · obtain rfl := (hkey k').mp hnum
        obtain rfl : thread = t := hthread
        rw [h'.evtSlot hk' ht, setCell, if_pos rfl]
        rfl
      · rw [h'.evtSlot hk' ht, h.evtSlot hk' ht, setCell, if_neg]
        intro heq
        obtain ⟨rfl, rfl⟩ := Prod.mk.inj heq
        exact hother ⟨rfl, rfl⟩
    | all cmask flags umask eventsel pmcnum =>
      obtain rfl : pmcnum = (k : Int) + 1 := hk
      obtain ⟨s', hs', h', hkeep⟩ := setAllPmcCtrl_counter h hkc (by omega) cmask flags umask
        eventsel
      refine ⟨s', _, hs', h', fun k' t hk' ht hnum _ => ?_, fun k' t hk' ht hother => ?_, hkeep⟩
      · rw [h'.evtSlot hk' ht, if_pos ⟨(hkey k').mp hnum, ht⟩]
        rfl
      · rw [h'.evtSlot hk' ht, h.evtSlot hk' ht, if_neg]
        rintro ⟨rfl, -⟩
        exact hother ⟨rfl, trivial⟩

/-- Any other call follows a null pointer. -/
theorem EvtLoaded.step_null (h : EvtLoaded P rax s id data) (hn : 0 < P.cfg.numDevs)
    {c : PmcCtrlCall} (hfits : ¬ c.Fits (cpuidNumPmc rax)) : pmcCtrlStep P rax s c = none := by
  simp only [PmcCtrlCall.Fits, not_or, Int.not_lt, Int.not_le] at hfits
  obtain ⟨hpos, hle, hnull⟩ := hfits
  cases c with
  | one cmask flags umask eventsel pmcnum thread =>
    exact setPmcCtrlFlags_null h hnull ⟨hpos, hle⟩ cmask flags umask eventsel thread
  | all cmask flags umask eventsel pmcnum =>
    exact setAllPmcCtrl_null h hn hnull ⟨hpos, hle⟩ cmask flags umask eventsel

theorem setsSlots_iff (h : EvtLoaded P rax s id data) (hle : cpuidNumPmc rax ≤ 8)
    (hn : 0 < P.cfg.numDevs) {c : PmcCtrlCall} (hvalid : c.Valid P.cfg.numDevs) :
    SetsSlots P rax s c ↔ c.Fits (cpuidNumPmc rax) := by
  constructor
  · rintro ⟨s', hs', -⟩
    by_contra hfits
    rw [h.step_null hn hfits] at hs'
    contradiction
  · intro hfits
    obtain ⟨s', -, hs', -, hset⟩ := h.step hle hvalid hfits
    exact ⟨s', hs', hset⟩

end Call

/-! ## Runs -/

section Runs

variable {P : Platform} {rax : Word} {s : PmcState} {calls : List PmcCtrlCall}

/-- Without a case for the number of counters no array is allocated. -/
theorem perfevtselStorage_none (hout : ¬ (1 ≤ cpuidNumPmc rax ∧ cpuidNumPmc rax ≤ 8))
    (hinit : s.evtInit = false) {s' : PmcState} (h : perfevtselStorage P rax s = some s') :
    s'.evt = s.evt := by
  rw [perfevtselStorage, hinit] at h
  obtain ⟨⟨rc, r⟩, hr, hs'⟩ := Option.bind_eq_some_iff.mp h
  obtain rfl := Option.some.inj hs'
  exact initCounters_none hout hr

theorem pmcStorage_evt {s' : PmcState} (h : pmcStorage P rax s = some s') : s'.evt = s.evt := by
  rw [pmcStorage] at h
  split at h
  · obtain rfl := Option.some.inj h
    rfl
  · obtain ⟨⟨rc, r⟩, -, hs'⟩ := Option.bind_eq_some_iff.mp h
    obtain rfl := Option.some.inj hs'
    rfl

/-- The calls along a run: each sets its slots exactly when all of them fit. -/
theorem setsSlots_along_iff {id : Nat} {data : Nat → Nat → Word} (h : EvtLoaded P rax s id data)
    (hle : cpuidNumPmc rax ≤ 8) (hn : 0 < P.cfg.numDevs)
    (hvalid : ∀ c ∈ calls, c.Valid P.cfg.numDevs) :
    Along (pmcCtrlStep P rax) (SetsSlots P rax) s calls ↔
      ∀ c ∈ calls, c.Fits (cpuidNumPmc rax) := by
  refine along_iff_forall (I := fun s => ∃ data, EvtLoaded P rax s id data) ?_ ?_ ⟨data, h⟩
  · rintro s ⟨data, h⟩ c hc
    exact setsSlots_iff h hle hn (hvalid c hc)
  · rintro s ⟨data, h⟩ c hc hfits
    obtain ⟨s', data', hs', h', -⟩ := h.step hle (hvalid c hc) hfits
    exact ⟨s', hs', data', h'⟩

/-- **Event selection.**  Every counter has its own ops and every call sets its slots
    exactly when there are at most eight counters, the CPU numbers fit an op, and all
    calls fit. -/
theorem controlWorks_iff (hstart : PmcStart s) (hpos : 1 ≤ cpuidNumPmc rax)
    (hn : 0 < P.cfg.numDevs) (hvalid : ∀ c ∈ calls, c.Valid P.cfg.numDevs) :
    ControlWorks P rax s calls ↔
      cpuidNumPmc rax ≤ 8 ∧ P.cfg.numDevs ≤ 2 ^ 16 ∧ ∀ c ∈ calls, c.Fits (cpuidNumPmc rax) := by
  constructor
  · rintro ⟨s₁, s₂, hs₁, hs₂, hevt, hpmc, halong⟩
    have hle : cpuidNumPmc rax ≤ 8 := by
      by_contra hgt
      -- the first array would be there
      obtain ⟨val, -, -, hval, -⟩ := hevt 0 (by omega) 0 hn
      rw [pmcStorage_evt hs₂, perfevtselStorage_none (fun h => hgt h.2) hstart.evtInit hs₁,
        hstart.evt] at hval
      contradiction
    have hfits := hevt.numDevs_le hpos
    have hsmall : cpuidNumPmc rax * P.cfg.numDevs < 2 ^ 31 :=
      (Nat.mul_le_mul hle hfits).trans_lt (by decide)
    obtain ⟨t₁, t₂, id, id', ht₁, ht₂, hloaded, -⟩ := hstart.load hpos hle hsmall
    obtain rfl := Option.some.inj (ht₁.symm.trans hs₁)
    obtain rfl := Option.some.inj (ht₂.symm.trans hs₂)
    exact ⟨hle, hfits, (setsSlots_along_iff hloaded hle hn hvalid).mp halong⟩
  · rintro ⟨hle, hfits, hcalls⟩
    have hsmall : cpuidNumPmc rax * P.cfg.numDevs < 2 ^ 31 :=
      (Nat.mul_le_mul hle hfits).trans_lt (by decide)
    obtain ⟨s₁, s₂, id, id', hs₁, hs₂, hevt, hpmc⟩ := hstart.load hpos hle hsmall
    exact ⟨s₁, s₂, hs₁, hs₂, hevt.table.ownOps hfits (by decide),
      hpmc.table.ownOps hfits (by decide), (setsSlots_along_iff hevt hle hn hvalid).mpr hcalls⟩

end Runs

/-- Four counters on two CPUs: the third counts on both, the fourth on one, and a call
    for a counter 9 does nothing. -/
theorem fourCounters_control :
    ControlWorks twoSockets 0x400 (pmcStart (.opened 2))
      [.all 0 0x67 0 0xC4 3, .one 0 0x43 0 0x3C 4 1, .one 0 0 0 0 9 0] := by
  exact (controlWorks_iff (pmcStart_fresh _) (by decide) (by decide) (by decide)).mpr
    ⟨by decide, by decide, by decide⟩

/-- With nine counters none is loaded, and with four the fifth array is followed
    nonetheless. -/
theorem nineCounters_not_control :
    ¬ ControlWorks twoSockets 0x900 (pmcStart (.opened 2)) [] ∧
      ¬ ControlWorks twoSockets 0x400 (pmcStart (.opened 2)) [.one 0 0x67 0 0xC4 5 0] := by
  have hstart := pmcStart_fresh (.opened 2)
  constructor
  · rintro ⟨s₁, s₂, hs₁, hs₂, hevt, -⟩
    obtain ⟨val, -, -, hval, -⟩ := hevt 0 (by decide) 0 (by decide)
    rw [pmcStorage_evt hs₂, perfevtselStorage_none (by decide) hstart.evtInit hs₁] at hval
    contradiction
  · rintro ⟨s₁, s₂, hs₁, hs₂, -, -, ⟨s₃, hs₃, -⟩, -⟩
    obtain ⟨t₁, t₂, id, id', ht₁, ht₂, hloaded, -⟩ :=
      hstart.load (P := twoSockets) (show 1 ≤ cpuidNumPmc 0x400 by decide) (by decide) (by decide)
    obtain rfl := Option.some.inj (ht₁.symm.trans hs₁)
    obtain rfl := Option.some.inj (ht₂.symm.trans hs₂)
    rw [hloaded.step_null (by decide) (by decide)] at hs₃
    contradiction

end Libmsr
