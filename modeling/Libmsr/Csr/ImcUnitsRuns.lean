/-
  Libmsr.Csr.ImcUnitsRuns

  The counters and the units of the iMC share one table of batches, and their
  functions are called in any order.

  - `CsrBatchStorage.Leaves`: what a call leaves alone; the counters have the batches
    0 and 1, the units the batches 2 and 3.
  - `ImcUnitsReady`: the batch of the unit control has a write for each slot.
  - `UnitInv`: the states of a run.
  - `setPmonUnitCtrl_channels`: when `set_pmon_unit_ctrl` returns, and what it sets.
-/
import Libmsr.Csr.ImcCountsRuns
import Libmsr.Csr.ImcUnits

namespace Libmsr

/-! ## Frames -/

/-- The batches outside `B` are what they were. -/
structure CsrBatchStorage.Leaves (B : Nat → Prop) (st st' : CsrBatchStorage) : Prop where
  sized : st'.table.Sized
  entry : ∀ b, ¬ B b → st'.entry b = st.entry b

namespace CsrBatchStorage.Leaves

variable {B : Nat → Prop} {st st' st'' : CsrBatchStorage}

theorem refl (B : Nat → Prop) (hs : st.table.Sized) : st.Leaves B st := ⟨hs, fun _ _ => rfl⟩

theorem trans (h : st.Leaves B st') (h' : st'.Leaves B st'') : st.Leaves B st'' :=
  ⟨h'.sized, fun b hb => (h'.entry b hb).trans (h.entry b hb)⟩

/-- A call about one batch. -/
theorem of_batch {b : Nat} (hb : B b) (hs : st'.table.Sized)
    (hent : ∀ b', b' ≠ b → st'.entry b' = st.entry b') : st.Leaves B st' :=
  ⟨hs, fun b' hb' => hent b' fun heq => hb' (heq ▸ hb)⟩

end CsrBatchStorage.Leaves

/-- The batches of the counters. -/
def CounterBatch (b : Nat) : Prop := b < 2

/-- The batches of the units. -/
def UnitBatch (b : Nat) : Prop := 2 ≤ b

section Loading

variable {B : Nat → Prop} {st st' : CsrBatchStorage} {b : Nat}

theorem allocateCsrBatch_leaves (hb : B b) (hs : st.table.Sized) {n : Nat} {rc : Int}
    (hcall : allocateCsrBatch st b n = some (rc, st')) : st.Leaves B st' := by
  by_cases h0 : (st.entry b).numops = 0
  · obtain ⟨st'', hst'', hup, -⟩ := allocateCsrBatch_spec hs n h0
    obtain ⟨-, rfl⟩ := Prod.mk.inj (Option.some.inj (hst''.symm.trans hcall))
    exact .of_batch hb hup.sized hup.entry_ne
  · rw [allocateCsrBatch_none hs n h0] at hcall
    contradiction

theorem createCsrBatchOp_leaves (hb : B b) (hs : st.table.Sized) {x : CsrOpArgs} {rc : Int}
    {dest : Option Ptr} (hcall : createCsrBatchOp st x b = some (rc, dest, st')) :
    st.Leaves B st' := by
  obtain ⟨hs₁, -, hent, -⟩ := csrBatchStorage_spec hs b
  have hgrown : st.Leaves B (csrBatchStorage st b) := ⟨hs₁, fun b' _ => hent b'⟩
  simp only [createCsrBatchOp] at hcall
  split at hcall
  · simp only [Option.some.injEq, Prod.mk.injEq] at hcall
    obtain ⟨-, -, rfl⟩ := hcall
    exact hgrown
  · split at hcall
    · contradiction
    · split at hcall
      · contradiction
      · simp only [Option.some.injEq, Prod.mk.injEq] at hcall
        obtain ⟨-, -, rfl⟩ := hcall
        exact hgrown.trans
          (.of_batch hb (hs₁.setEntry _) fun b' hne => GrowTable.entry_setEntry_of_ne hne _)

theorem imcOp_leaves {x : ImcLoad} (hb : B x.batchno) (hs : st.table.Sized)
    {loc loc' : List (Option Ptr)} {idx : Nat} {p : ImcPlace}
    (hcall : imcOp x st loc idx p = some (loc', st')) : st.Leaves B st' := by
  simp only [imcOp, Option.bind_eq_bind, Option.bind_eq_some_iff] at hcall
  obtain ⟨⟨rc, dest, st₁⟩, hcreate, hout⟩ := hcall
  have hleaves := createCsrBatchOp_leaves hb hs hcreate
  split at hout
  · obtain ⟨-, rfl⟩ := Prod.mk.inj (Option.some.inj hout)
    exact hleaves
  · split at hout
    · obtain ⟨-, rfl⟩ := Prod.mk.inj (Option.some.inj hout)
      exact hleaves
    · contradiction

/-- By induction over the places. -/
theorem imcOps_leaves {x : ImcLoad} (hb : B x.batchno) (hs : st.table.Sized)
    {loc loc' : List (Option Ptr)} {idx idx' : Nat} {ps : List ImcPlace}
    (hcall : imcOps x st loc idx ps = some (idx', loc', st')) : st.Leaves B st' := by
  induction ps generalizing st loc idx with
  | nil =>
    simp only [imcOps, Option.some.injEq, Prod.mk.injEq] at hcall
    obtain ⟨-, -, rfl⟩ := hcall
    exact .refl B hs
  | cons p ps ih =>
    simp only [imcOps, Option.bind_eq_bind, Option.bind_eq_some_iff] at hcall
    obtain ⟨⟨loc₁, st₁⟩, hop, hrest⟩ := hcall
    have hleaves := imcOp_leaves hb hs hop
    exact hleaves.trans (ih hleaves.sized hrest)

theorem loadImcBatchForEach_leaves {h : ImcHeader} {sockets : Nat} {x : ImcLoad}
    (hb : B x.batchno) (hs : st.table.Sized) {loc loc' : List (Option Ptr)} {idx : Nat}
    (hcall : loadImcBatchForEach h sockets x loc st = some (idx, loc', st')) :
    st.Leaves B st' := by
  rw [loadImcBatchForEach] at hcall
  split at hcall
  · simp only [Option.some.injEq, Prod.mk.injEq] at hcall
    obtain ⟨-, -, rfl⟩ := hcall
    exact .refl B hs
  · simp only [Option.bind_eq_bind, Option.bind_eq_some_iff] at hcall
    obtain ⟨⟨loc₁, st₁⟩, hop, hrest⟩ := hcall
    have hleaves := imcOp_leaves hb hs hop
    exact hleaves.trans (imcOps_leaves hb hleaves.sized hrest)

theorem loadEach_leaves {h : ImcHeader} {sockets n : Nat} {loads : List ImcLoad}
    (hb : ∀ x ∈ loads, B x.batchno) (hs : st.table.Sized)
    {out : List (Nat × List (Option Ptr))}
    (hcall : loadEach h sockets n loads st = some (out, st')) : st.Leaves B st' := by
  induction loads generalizing st out with
  | nil =>
    obtain ⟨-, rfl⟩ := Prod.mk.inj (Option.some.inj hcall)
    exact .refl B hs
  | cons x xs ih =>
    simp only [loadEach, Option.bind_eq_bind, Option.bind_eq_some_iff] at hcall
    obtain ⟨⟨idx, loc, st₁⟩, hload, ⟨out₁, st₂⟩, hrest, hout⟩ := hcall
    obtain ⟨-, rfl⟩ := Prod.mk.inj (Option.some.inj hout)
    have hleaves := loadImcBatchForEach_leaves (hb x (List.mem_cons_self ..)) hs hload
    exact hleaves.trans
      (ih (fun y hy => hb y (List.mem_cons_of_mem _ hy)) hleaves.sized hrest)

theorem initPmonCtrs_leaves {h : ImcHeader} {sockets : Nat} (hs : st.table.Sized) {r : PmonInit}
    (hcall : initPmonCtrs h sockets st = some r) : st.Leaves CounterBatch r.st := by
  have hctrs : CounterBatch csrImcCtrs := show 0 < 2 by decide
  have hevts : CounterBatch csrImcEvts := show 1 < 2 by decide
  by_cases hfits : 10 * (numCtrs * sockets) < 2 ^ 31
  · rw [initPmonCtrs_eq h st hfits] at hcall
    simp only [Option.bind_eq_bind, Option.bind_eq_some_iff] at hcall
    obtain ⟨⟨_, st₁⟩, hst₁, ⟨_, st₂⟩, hst₂, ⟨_, st₃⟩, hst₃, ⟨_, st₄⟩, hst₄, hout⟩ := hcall
    have h₁ := allocateCsrBatch_leaves hctrs hs hst₁
    have h₂ := allocateCsrBatch_leaves hevts h₁.sized hst₂
    have h₃ := loadEach_leaves (B := CounterBatch)
      (by simp [ImcHeader.ctrLoads, hctrs]) h₂.sized hst₃
    have h₄ := loadEach_leaves (B := CounterBatch)
      (by simp [ImcHeader.cfgLoads, hevts]) h₃.sized hst₄
    split at hout
    · obtain rfl := Option.some.inj hout
      exact ((h₁.trans h₂).trans h₃).trans h₄
    · contradiction
  · rw [initPmonCtrs, if_pos (Nat.not_lt.mp hfits)] at hcall
    contradiction

end Loading

/-! ## Calls of the counters -/

section Counters

variable {h : ImcHeader} {sockets : Nat} {s s' : ImcState}

/-- What a call of the counters leaves. -/
def ImcState.LeavesUnits (s s' : ImcState) : Prop := s.proc.st.Leaves CounterBatch s'.proc.st

theorem counterBatch_ctrs : CounterBatch csrImcCtrs := show 0 < 2 by decide

theorem counterBatch_evts : CounterBatch csrImcEvts := show 1 < 2 by decide

theorem doImcCounters_leaves (hs : s.proc.st.table.Sized) {x : ImcExecution} {rc : Int}
    (hcall : doImcCounters x s = some (rc, s')) : s.LeavesUnits s' := by
  simp only [doImcCounters] at hcall
  obtain ⟨⟨r, p⟩, hexec, hout⟩ := Option.map_eq_some_iff.mp hcall
  obtain ⟨-, rfl⟩ := Prod.mk.inj hout
  obtain ⟨hs', hent⟩ := doCsrBatchOp_keeps hs hexec
  have hleaves : s.proc.st.Leaves CounterBatch p.st := .of_batch counterBatch_ctrs hs' hent
  show s.proc.st.Leaves CounterBatch (ImcState.proc (if _ then _ else _)).st
  split
  · exact hleaves
  · exact hleaves

theorem readImcCounterBatch_leaves (hs : s.proc.st.table.Sized) {c : Nat} {x : ImcExecution}
    {rc : Int} (hcall : readImcCounterBatch c x s = some (rc, s')) : s.LeavesUnits s' := by
  rw [readImcCounterBatch] at hcall
  split at hcall
  · exact doImcCounters_leaves hs hcall
  · obtain ⟨-, rfl⟩ := Prod.mk.inj (Option.some.inj hcall)
    exact .refl _ hs

theorem readCounters_leaves {cs : List Nat} (hs : s.proc.st.table.Sized) {xs : Nat → ImcExecution}
    (hcall : readCounters cs xs s = some s') : s.LeavesUnits s' := by
  induction cs generalizing s xs with
  | nil =>
    obtain rfl := Option.some.inj hcall
    exact .refl _ hs
  | cons c cs ih =>
    simp only [readCounters, Option.bind_eq_bind, Option.bind_eq_some_iff] at hcall
    obtain ⟨⟨rc, s₁⟩, hread, hrest⟩ := hcall
    have hleaves := readImcCounterBatch_leaves hs hread
    exact hleaves.trans (ih hleaves.sized hrest)

theorem pmonConfig_leaves (hs : s.proc.st.table.Sized) {c : PmonConfig} {x : ImcExecution}
    {rc : Int} {texts : List ImcMessage}
    (hcall : pmonConfig sockets c x s = some (rc, texts, s')) : s.LeavesUnits s' := by
  obtain ⟨hs', hent, -⟩ := pmonConfig_keeps hs hcall
  exact .of_batch counterBatch_evts hs' hent

theorem pmonConfigs_leaves {cs : List PmonConfig} (hs : s.proc.st.table.Sized)
    {xs : Nat → ImcExecution} {rc : Int} {texts : List ImcMessage}
    (hcall : pmonConfigs sockets cs xs s = some (rc, texts, s')) : s.LeavesUnits s' := by
  induction cs generalizing s xs rc texts with
  | nil =>
    simp only [pmonConfigs, Option.some.injEq, Prod.mk.injEq] at hcall
    obtain ⟨-, -, rfl⟩ := hcall
    exact .refl _ hs
  | cons c cs ih =>
    simp only [pmonConfigs, Option.bind_eq_bind, Option.bind_eq_some_iff] at hcall
    obtain ⟨⟨rc₁, texts₁, s₁⟩, hs₁, ⟨rc₂, texts₂, s₂⟩, hs₂, hout⟩ := hcall
    simp only [Option.some.injEq, Prod.mk.injEq] at hout
    obtain ⟨-, -, rfl⟩ := hout
    have hleaves := pmonConfig_leaves hs hs₁
    exact hleaves.trans (ih hleaves.sized hs₂)

theorem ImcState.initPmonCtrs_leaves (hs : s.proc.st.table.Sized) {rc : Int}
    (hcall : s.initPmonCtrs h sockets = some (rc, s')) : s.LeavesUnits s' := by
  rw [ImcState.initPmonCtrs] at hcall
  split at hcall
  · obtain ⟨-, rfl⟩ := Prod.mk.inj (Option.some.inj hcall)
    exact .refl _ hs
  · obtain ⟨r, hr, hout⟩ := Option.map_eq_some_iff.mp hcall
    obtain ⟨-, rfl⟩ := Prod.mk.inj hout
    exact Libmsr.initPmonCtrs_leaves hs hr

theorem EventFunction.call_leaves {f : EventFunction} (hs : s.proc.st.table.Sized)
    {xs : Nat → ImcExecution} {rc : Int} {texts : List ImcMessage}
    (hcall : f.call sockets xs s = some (rc, texts, s')) : s.LeavesUnits s' := by
  rcases EventFunction.call_cases hcall with ⟨-, -, rfl⟩ | ⟨-, texts', hconfigs⟩
  · exact .refl _ hs
  · exact pmonConfigs_leaves hs hconfigs

/-- **Every call of the counters** leaves the batches of the units. -/
theorem imcCtrStep_leaves (hs : s.proc.st.table.Sized) {call : ImcCtrCall}
    (hcall : imcCtrStep h sockets s call = some s') : s.LeavesUnits s' := by
  cases call with
  | imc c =>
    cases c with
    | initPmonCtrs =>
      rw [imcCtrStep, imcStep] at hcall
      split at hcall
      · obtain rfl := Option.some.inj hcall
        exact .refl _ hs
      · obtain ⟨r, hr, rfl⟩ := Option.map_eq_some_iff.mp hcall
        exact Libmsr.initPmonCtrs_leaves hs hr
    | config c x =>
      obtain ⟨⟨rc, texts, s₁⟩, hs₁, rfl⟩ := Option.map_eq_some_iff.mp hcall
      exact pmonConfig_leaves hs hs₁
    | mem call xs =>
      obtain ⟨⟨rc, texts, s₁⟩, hs₁, rfl⟩ := Option.map_eq_some_iff.mp hcall
      exact EventFunction.call_leaves hs hs₁
  | bw counter type x =>
    obtain ⟨⟨rc, texts, s₁⟩, hs₁, rfl⟩ := Option.map_eq_some_iff.mp hcall
    rw [memBwOnCtr] at hs₁
    split at hs₁
    · simp only [Option.some.injEq, Prod.mk.injEq] at hs₁
      obtain ⟨-, -, rfl⟩ := hs₁
      exact .refl _ hs
    · split at hs₁
      · simp only [Option.some.injEq, Prod.mk.injEq] at hs₁
        obtain ⟨-, -, rfl⟩ := hs₁
        exact .refl _ hs
      · obtain ⟨⟨rc', texts', s₂⟩, hs₂, hout⟩ := Option.map_eq_some_iff.mp hs₁
        simp only [Prod.mk.injEq] at hout
        obtain ⟨-, -, rfl⟩ := hout
        exact pmonConfig_leaves hs hs₂
  | read counter x =>
    obtain ⟨⟨rc, s₁⟩, hs₁, rfl⟩ := Option.map_eq_some_iff.mp hcall
    exact readImcCounterBatch_leaves hs hs₁
  | print c xs =>
    obtain ⟨⟨lines, s₁⟩, hs₁, rfl⟩ := Option.map_eq_some_iff.mp hcall
    simp only [MemPrint.call, Option.bind_eq_bind, Option.bind_eq_some_iff] at hs₁
    obtain ⟨s₂, hread, _, -, hout⟩ := hs₁
    obtain ⟨-, rfl⟩ := Prod.mk.inj (Option.some.inj hout)
    exact readCounters_leaves hs hread
  | printPmonCtrs x =>
    obtain ⟨r, hs₁, hmap⟩ := Option.bind_eq_some_iff.mp hcall
    obtain ⟨⟨rc, s₃⟩, hended, rfl⟩ := Option.map_eq_some_iff.mp hmap
    simp only [printPmonCtrs, Option.bind_eq_bind, Option.bind_eq_some_iff] at hs₁
    obtain ⟨⟨rc₀, s₂⟩, hinit, hs₁⟩ := hs₁
    have hleaves := ImcState.initPmonCtrs_leaves hs hinit
    split at hs₁
    · obtain rfl := Option.some.inj hs₁
      obtain ⟨-, rfl⟩ := Prod.mk.inj (Option.some.inj hended)
      exact hleaves
    · obtain ⟨⟨rc₁, s₄⟩, hread, hout⟩ := Option.bind_eq_some_iff.mp hs₁
      obtain rfl := Option.some.inj hout
      obtain ⟨-, hend⟩ := Option.ite_none_right_eq_some.mp hended
      obtain ⟨-, rfl⟩ := Prod.mk.inj (Option.some.inj hend)
      exact hleaves.trans (doImcCounters_leaves hleaves.sized hread)

end Counters

/-! ## The batch of the unit control -/

/-- The unit control register of a channel. -/
def ImcPlace.unitctrl (place : ImcPlace) : CsrRegister := unitctrlLoad.register place

/-- The batch has an op for each slot, a write to its unit control, and the array
    points to them.  The data of op `i` satisfy `P i`. -/
structure UnitOps (h : ImcHeader) (sockets : Nat) (unitctrl : List (Option Ptr))
    (P : Nat → Word → Prop) (st : CsrBatchStorage) : Prop where
  sized : st.table.Sized
  array : ∃ a, st.entry csrImcPmonunitctrl = ⟨(h.places sockets).length, some a⟩ ∧
    (h.places sockets).length ≤ a.slots.length ∧
    unitctrl = imcPtrs a.id 0 (h.places sockets).length (numCtrs * sockets) ∧
    ∀ i place, (h.places sockets)[i]? = some place → ∃ op, a.slots[i]? = some op ∧
      op.isread = 0 ∧ op.register = place.unitctrl ∧ P i op.csrdata

section Ops

variable {h : ImcHeader} {sockets : Nat} {unitctrl : List (Option Ptr)} {P Q : Nat → Word → Prop}
  {st : CsrBatchStorage}

theorem UnitOps.mono (hr : UnitOps h sockets unitctrl P st) (hPQ : ∀ i v, P i v → Q i v) :
    UnitOps h sockets unitctrl Q st := by
  obtain ⟨a, hent, hlen, hptrs, hops⟩ := hr.array
  refine ⟨hr.sized, a, hent, hlen, hptrs, fun i place hplace => ?_⟩
  obtain ⟨op, hop, hread, hreg, hP⟩ := hops i place hplace
  exact ⟨op, hop, hread, hreg, hPQ i _ hP⟩

/-- It is a matter of one batch. -/
theorem UnitOps.of_leaves (hr : UnitOps h sockets unitctrl P st) {st' : CsrBatchStorage}
    (hl : st.Leaves CounterBatch st') : UnitOps h sockets unitctrl P st' := by
  have hent : st'.entry csrImcPmonunitctrl = st.entry csrImcPmonunitctrl :=
    hl.entry _ (show ¬ 2 < 2 by decide)
  exact ⟨hl.sized, by rw [hent]; exact hr.array⟩

/-- One store. -/
theorem UnitOps.store (hr : UnitOps h sockets unitctrl P st) {i : Nat}
    (hi : i < (h.places sockets).length) (v : Word) :
    ∃ p st', ptrAt unitctrl i = some p ∧ st.storeData csrImcPmonunitctrl p v = some st' ∧
      UnitOps h sockets unitctrl (fun j w => if j = i then w = v else P j w) st' := by
  obtain ⟨a, hent, hlen, hptrs, hops⟩ := hr.array
  obtain ⟨op, hop, hread, hreg, -⟩ := hops i _ (List.getElem?_eq_getElem hi)
  have hb : st.table.HasEntry csrImcPmonunitctrl := GrowTable.hasEntry_of_entry_ne (by
    show st.entry csrImcPmonunitctrl ≠ _
    rw [hent]
    exact fun heq => nomatch congrArg CsrBatchArray.ops heq)
  let a' : CsrOpArray := { a with slots := a.slots.set i { op with csrdata := v } }
  refine ⟨⟨a.id, i⟩, st.setEntry csrImcPmonunitctrl ⟨(h.places sockets).length, some a'⟩, ?_, ?_,
    hr.sized.setEntry _, a', csrEntry_setEntry_self hb _, ?_, hptrs, ?_⟩
  · rw [hptrs, ptrAt, imcPtrs_getElem? hi, Nat.zero_add]
    rfl
  · simp only [CsrBatchStorage.storeData, hent, if_true, hop, a']
  · rw [List.length_set]
    exact hlen
  · intro j place hplace
    obtain ⟨op', hop', hread', hreg', hP'⟩ := hops j place hplace
    by_cases hj : j = i
    · subst hj
      obtain rfl := Option.some.inj (hop.symm.trans hop')
      obtain ⟨hlt, -⟩ := List.getElem?_eq_some_iff.mp hop
      exact ⟨_, List.getElem?_set_self hlt, hread', hreg', by rw [if_pos rfl]⟩
    · refine ⟨op', by rw [List.getElem?_set_ne (Ne.symm hj)]; exact hop', hread', hreg', ?_⟩
      rw [if_neg hj]
      exact hP'

/-- With at most two sockets every pointer is set, and every op gets the setting: after
    `k` stores those below `k` have it. -/
theorem storeUnits_spec (hr : UnitOps h sockets unitctrl P st)
    (hlen : (h.places sockets).length = numCtrs * sockets) (setting : BitVec 32) :
    ∃ st', storeUnits sockets setting unitctrl st = some st' ∧
      UnitOps h sockets unitctrl (fun _ w => w = setting.setWidth 64) st' := by
  obtain ⟨st', hst', hr'⟩ := Loops.foldlM_range_inv
    (fun st i => (ptrAt unitctrl i).bind fun p =>
      st.storeData csrImcPmonunitctrl p (setting.setWidth 64))
    (fun k st => UnitOps h sockets unitctrl (fun j w => j < k → w = setting.setWidth 64) st)
    (numCtrs * sockets) st (hr.mono fun i v _ hlt => absurd hlt (Nat.not_lt_zero i)) (by
      intro k hk st hk'
      obtain ⟨p, st', hp, hst', hr'⟩ := hk'.store (hlen.symm ▸ hk) (setting.setWidth 64)
      refine ⟨st', by rw [hp, Option.bind_some, hst'], hr'.mono fun j w hw hlt => ?_⟩
      by_cases hj : j = k
      · rwa [if_pos hj] at hw
      · rw [if_neg hj] at hw
        exact hw (by omega))
  obtain ⟨a, hent, hle, hptrs, hops⟩ := hr'.array
  refine ⟨st', hst', hr'.sized, a, hent, hle, hptrs, fun i place hplace => ?_⟩
  obtain ⟨op, hop, hread, hreg, hdata⟩ := hops i place hplace
  exact ⟨op, hop, hread, hreg, hdata (hlen ▸ (List.getElem?_eq_some_iff.mp hplace).1)⟩

/-- With more sockets the pointer behind those of the second is NULL. -/
theorem storeUnits_none (hr : UnitOps h sockets unitctrl P st) (hthree : 3 ≤ sockets)
    (setting : BitVec 32) : storeUnits sockets setting unitctrl st = none := by
  obtain ⟨a, -, -, hptrs, -⟩ := hr.array
  have hlen : (h.places sockets).length = 16 := by
    rw [places_length h (by omega), Nat.min_eq_right (by omega)]
  have hcount : numCtrs * sockets = 8 * sockets := rfl
  have hnull : ptrAt unitctrl 16 = none := by
    rw [hptrs, ptrAt, imcPtrs_unset (by omega) (by omega)]
    rfl
  refine Loops.foldlM_range_none (show 17 ≤ numCtrs * sockets by omega) ?_
  rw [Loops.foldlM_range_succ, hnull, Option.bind_eq_bind, Option.bind_eq_none_iff]
  exact fun _ _ => rfl

/-! ## The execution of the batch -/

/-- A write to the unit control of the channel reaches it. -/
def ImcExecution.ReachesUnit (x : ImcExecution) (h : ImcHeader) (sockets : Nat)
    (reg : CsrRegister) : Prop :=
  ∃ i place, (h.places sockets)[i]? = some place ∧ place.unitctrl = reg ∧ x.wrote i = true

/-- The ops that the driver gets. -/
theorem UnitOps.ops {p : CsrProcess} (hr : UnitOps h sockets unitctrl P p.st) :
    (p.ops csrImcPmonunitctrl).length = (h.places sockets).length ∧
      ∀ i place, (h.places sockets)[i]? = some place → ∃ op,
        (p.ops csrImcPmonunitctrl)[i]? = some op ∧ op.isread = 0 ∧
          op.register = place.unitctrl ∧ P i op.csrdata := by
  obtain ⟨a, hent, hlen, -, hops⟩ := hr.array
  have htake : p.ops csrImcPmonunitctrl = a.slots.take (h.places sockets).length := by
    rw [CsrProcess.ops, hent, Option.elim_some]
  rw [htake, List.length_take, Nat.min_eq_left hlen]
  refine ⟨rfl, fun i place hplace => ?_⟩
  obtain ⟨hi, -⟩ := List.getElem?_eq_some_iff.mp hplace
  rw [List.getElem?_take, if_pos hi]
  exact hops i place hplace

/-- **The registers.**  Where all ops hold `v`, a register has `v` after the batch if a
    write reaches it, and is unchanged if none does. -/
theorem UnitOps.registers {p : CsrProcess} {v : Word}
    (hr : UnitOps h sockets unitctrl (fun _ w => w = v) p.st) (x : ImcExecution)
    (regs : CsrRegister → Word) (reg : CsrRegister) :
    (x.ReachesUnit h sockets reg → x.registers (p.ops csrImcPmonunitctrl) regs reg = v) ∧
    (¬ x.ReachesUnit h sockets reg →
      x.registers (p.ops csrImcPmonunitctrl) regs reg = regs reg) := by
  obtain ⟨hlen, hops⟩ := hr.ops
  have hmem : ∀ w, w ∈ x.writes (p.ops csrImcPmonunitctrl) ↔ ∃ i place,
      (h.places sockets)[i]? = some place ∧ x.wrote i = true ∧ w = (place.unitctrl, v) := by
    intro w
    rw [ImcExecution.writes, List.mem_filterMap, hlen]
    constructor
    · rintro ⟨i, hi, hw⟩
      have hplace := List.getElem?_eq_getElem (List.mem_range.mp hi)
      obtain ⟨op, hop, hread, hreg, hdata⟩ := hops i _ hplace
      rw [hop, Option.bind_some, Option.ite_none_right_eq_some] at hw
      obtain ⟨⟨-, hwrote⟩, hw⟩ := hw
      rw [hreg, hdata] at hw
      exact ⟨i, _, hplace, hwrote, (Option.some.inj hw).symm⟩
    · rintro ⟨i, place, hplace, hwrote, rfl⟩
      obtain ⟨op, hop, hread, hreg, hdata⟩ := hops i place hplace
      refine ⟨i, List.mem_range.mpr (List.getElem?_eq_some_iff.mp hplace).1, ?_⟩
      rw [hop, Option.bind_some, if_pos ⟨hread, hwrote⟩, hreg, hdata]
  have hkey : reg ∈ (x.writes (p.ops csrImcPmonunitctrl)).map Prod.fst ↔
      x.ReachesUnit h sockets reg := by
    rw [List.mem_map]
    constructor
    · rintro ⟨w, hw, rfl⟩
      obtain ⟨i, place, hplace, hwrote, rfl⟩ := (hmem w).mp hw
      exact ⟨i, place, hplace, rfl, hwrote⟩
    · rintro ⟨i, place, hplace, rfl, hwrote⟩
      exact ⟨_, (hmem _).mpr ⟨i, place, hplace, hwrote, rfl⟩, rfl⟩
  have hstored := Scatter.scatter_pairs (x.writes (p.ops csrImcPmonunitctrl)) (k := reg) (v := v)
    (by
      intro w hw _
      obtain ⟨i, place, -, -, rfl⟩ := (hmem w).mp hw
      rfl) regs
  refine ⟨fun hreach => ?_, fun hnot => ?_⟩
  · rw [ImcExecution.registers, hstored, if_pos (hkey.mpr hreach)]
  · rw [ImcExecution.registers, hstored, if_neg fun hin => hnot (hkey.mp hin)]

/-- Executing the batch leaves the data of its ops, and the batches of the counters. -/
theorem doUnitControls_spec {s : UnitState}
    (hr : UnitOps h sockets unitctrl P s.imc.proc.st) (x : ImcExecution) :
    ∃ s', doUnitControls x s = some (0, s') ∧ UnitOps h sockets unitctrl P s'.imc.proc.st ∧
      s.imc.proc.st.Leaves UnitBatch s'.imc.proc.st ∧ s'.pgd = s.pgd ∧ s'.init = s.init ∧
      s'.imc.pcd = s.imc.pcd ∧ s'.imc.init = s.imc.init ∧
      s'.imc.regs = x.registers (s.imc.proc.ops csrImcPmonunitctrl) s.imc.regs := by
  obtain ⟨a, hent, hlen, hptrs, hops⟩ := hr.array
  have hpos := places_pos h sockets
  have ha : (s.imc.proc.st.entry csrImcPmonunitctrl).ops = some a := by rw [hent]
  have hfilled : CsrBatchFilled s.imc.proc csrImcPmonunitctrl :=
    ⟨hr.sized, by rw [hent]; exact hpos, a, ha, by rw [hent]; exact hlen⟩
  obtain ⟨hs, hb, -⟩ := csrBatchStorage_spec hr.sized csrImcPmonunitctrl
  have hcall := hfilled.call (x.ioctl (s.imc.proc.ops csrImcPmonunitctrl)) ha
  have hkeeps := doCsrBatchOp_keeps hr.sized hcall
  rw [hent] at hcall hkeeps
  let a' := a.answered (x.ioctl (s.imc.proc.ops csrImcPmonunitctrl)).replies
    (h.places sockets).length
  let st' := (csrBatchStorage s.imc.proc.st csrImcPmonunitctrl).setEntry csrImcPmonunitctrl
    ⟨(h.places sockets).length, some a'⟩
  refine ⟨{ s with imc := { s.imc with
      proc := { s.imc.proc with batchfd := s.imc.proc.used, st := st' }
      regs := x.registers (s.imc.proc.ops csrImcPmonunitctrl) s.imc.regs
      executed := s.imc.executed + 1 } }, ?_,
    ⟨hs.setEntry _, a', csrEntry_setEntry_self hb _, ?_, hptrs, fun i place hplace => ?_⟩,
    .of_batch (show 2 ≤ 2 from le_rfl) hkeeps.1 hkeeps.2, rfl, rfl, rfl, rfl, rfl⟩
  · simp only [doUnitControls, hcall, Option.map_some]
    rfl
  · have hsame : a'.slots.length = a.slots.length := List.length_mapIdx
    rw [hsame]
    exact hlen
  · obtain ⟨op, hop, hread, hreg, hP⟩ := hops i place hplace
    obtain ⟨op', hop', hread', -, hP'⟩ := hr.ops.2 i place hplace
    -- a write op is answered with its own data
    refine ⟨_, Loops.mapIdx_getElem?_eq_some.mpr ⟨op, hop, rfl⟩, ?_⟩
    rw [if_pos (List.getElem?_eq_some_iff.mp hplace).1]
    refine ⟨hread, hreg, ?_⟩
    simp only [ImcExecution.ioctl, hop', Option.elim_some, if_pos hread']
    exact hP'

end Ops

/-! ## The states of a run -/

/-- Before `init_pmonctr_global`: the arrays hold NULL, the batches are empty. -/
structure ImcUnitsUnset (sockets : Nat) (s : UnitState) : Prop where
  init : s.init = false
  pgd : s.pgd = pmonctrGlobalStorage sockets
  unitctrl : s.imc.proc.st.entry csrImcPmonunitctrl = .empty
  unitstatus : s.imc.proc.st.entry csrImcPmonunitstat = .empty

/-- After it. -/
structure ImcUnitsReady (h : ImcHeader) (sockets : Nat) (s : UnitState) : Prop where
  init : s.init = true
  ops : UnitOps h sockets s.pgd.unitctrl (fun _ _ => True) s.imc.proc.st

/-- The counters are in one of their states, and so are the units. -/
structure UnitInv (h : ImcHeader) (sockets : Nat) (s : UnitState) : Prop where
  counters : MemInv h sockets s.imc
  units : ImcUnitsUnset sockets s ∨ ImcUnitsReady h sockets s

section Runs

variable {h : ImcHeader} {sockets : Nat} {s s' : UnitState}

theorem MemInv.sized {t : ImcState} (hI : MemInv h sockets t) : t.proc.st.table.Sized := by
  rcases hI with hu | ⟨-, ⟨_, hr⟩, -⟩
  · exact hu.sized
  · exact hr.evts.sized

/-- The invariant of the counters is a matter of their batches. -/
theorem MemInv.of_leaves {t t' : ImcState} (hI : MemInv h sockets t)
    (hl : t.proc.st.Leaves UnitBatch t'.proc.st) (hpcd : t'.pcd = t.pcd)
    (hinit : t'.init = t.init) : MemInv h sockets t' := by
  have hctrs : t'.proc.st.entry csrImcCtrs = t.proc.st.entry csrImcCtrs :=
    hl.entry _ (show ¬ 2 ≤ 0 by decide)
  have hevts : t'.proc.st.entry csrImcEvts = t.proc.st.entry csrImcEvts :=
    hl.entry _ (show ¬ 2 ≤ 1 by decide)
  rcases hI with hu | ⟨hfits, ⟨data, hr⟩, hready⟩
  · exact .inl ⟨hinit.trans hu.init, hpcd.trans hu.pcd, hl.sized, hctrs.trans hu.ctrs,
      hevts.trans hu.evts⟩
  · exact .inr ⟨hfits, ⟨data, hr.congr hl.sized hevts hpcd hinit⟩, hready.congr hctrs hpcd⟩

/-- Before the initialisation the first store goes to NULL. -/
theorem ImcUnitsUnset.storeUnits_none (hu : ImcUnitsUnset sockets s) (hpos : 1 ≤ sockets)
    (setting : BitVec 32) (st : CsrBatchStorage) :
    storeUnits sockets setting s.pgd.unitctrl st = none := by
  have hnull : ptrAt s.pgd.unitctrl 0 = none := by
    rw [hu.pgd]
    exact ptrAt_replicate_none _ 0
  refine Loops.foldlM_range_none (show 1 ≤ numCtrs * sockets from Nat.mul_pos (by decide) hpos) ?_
  rw [Loops.foldlM_range_succ, hnull, Option.bind_eq_bind, Option.bind_eq_none_iff]
  exact fun _ _ => rfl

/-- The stores are to the batch of the unit control. -/
theorem storeUnits_leaves {setting : BitVec 32} {unitctrl : List (Option Ptr)}
    {st st' : CsrBatchStorage} (hs : st.table.Sized)
    (hcall : storeUnits sockets setting unitctrl st = some st') : st.Leaves UnitBatch st' := by
  refine Loops.foldlM_keeps (I := fun t : CsrBatchStorage => st.Leaves UnitBatch t) ?_
    (.refl _ hs) hcall
  intro t i t' ht hstep
  obtain ⟨ptr, -, hstore⟩ := Option.bind_eq_some_iff.mp hstep
  obtain ⟨hsized, hent⟩ := storeData_keeps ht.sized hstore
  exact ht.trans (.of_batch (show 2 ≤ 2 from le_rfl) hsized hent)

/-- **The initialisation.** -/
theorem ImcUnitsUnset.initialize (hu : ImcUnitsUnset sockets s) (hs : s.imc.proc.st.table.Sized)
    (hpos : 1 ≤ sockets) (hfits : 2 * (numCtrs * sockets) < 2 ^ 31) :
    ∃ s', initPmonctrGlobal h sockets s = some (((2 * (numCtrs * sockets) : Nat) : Int), s') ∧
      ImcUnitsReady h sockets s' ∧ s.imc.proc.st.Leaves UnitBatch s'.imc.proc.st ∧
      s'.imc.pcd = s.imc.pcd ∧ s'.imc.init = s.imc.init ∧ s'.imc.regs = s.imc.regs := by
  have hctrl0 : (s.imc.proc.st.entry csrImcPmonunitctrl).numops = 0 := by rw [hu.unitctrl]; rfl
  have hstat0 : (s.imc.proc.st.entry csrImcPmonunitstat).numops = 0 := by rw [hu.unitstatus]; rfl
  have hctrl : UnitBatch csrImcPmonunitctrl := show 2 ≤ 2 by decide
  have hstat : UnitBatch csrImcPmonunitstat := show 2 ≤ 3 by decide
  have hne : csrImcPmonunitctrl ≠ csrImcPmonunitstat := by decide
  have hcount : numCtrs * sockets = 8 * sockets := rfl
  have hplaces := places_length h hpos
  have hmin : min sockets 2 ≤ sockets := Nat.min_le_left ..
  have hroom : ([] : List CsrBatchOp).length + (h.places sockets).length ≤ numCtrs * sockets := by
    rw [List.length_nil]
    omega
  obtain ⟨st₁, id₁, hst₁, hfresh₁, hkeep₁⟩ :=
    allocateCsrBatch_fresh hs hctrl0 (n := numCtrs * sockets) (by omega)
  obtain ⟨st₂, id₂, hst₂, hfresh₂, hkeep₂⟩ :=
    allocateCsrBatch_fresh (b := csrImcPmonunitstat) hfresh₁.sized
      (by rw [hkeep₁.entry_ne _ hne.symm]; exact hstat0) (n := numCtrs * sockets) (by omega)
  obtain ⟨st₃, hst₃, hfresh₃, hkeep₃⟩ := loadImcBatchForEach_spec (x := unitctrlLoad)
    (n := numCtrs * sockets) h sockets (hfresh₁.of_keepsOthers hne hfresh₂.sized hkeep₂) hroom
    (by omega)
  obtain ⟨st₄, hst₄, hfresh₄, hkeep₄⟩ := loadImcBatchForEach_spec (x := unitstatusLoad)
    (n := numCtrs * sockets) h sockets
    (hfresh₂.of_keepsOthers hne.symm hfresh₃.sized hkeep₃) hroom (by omega)
  -- the second load leaves the ops of the first where the array points to
  have hready := hfresh₃.of_keepsOthers hne hfresh₄.sized hkeep₄
  have h₁ := allocateCsrBatch_leaves hctrl hs hst₁
  have h₂ := allocateCsrBatch_leaves hstat h₁.sized hst₂
  have h₃ := loadImcBatchForEach_leaves (x := unitctrlLoad) hctrl h₂.sized hst₃
  have h₄ := loadImcBatchForEach_leaves (x := unitstatusLoad) hstat h₃.sized hst₄
  refine ⟨{ s.setTable st₄ with
      pgd := ⟨imcPtrs id₁ 0 (h.places sockets).length (numCtrs * sockets),
        imcPtrs id₂ 0 (h.places sockets).length (numCtrs * sockets)⟩
      init := true }, ?_,
    ⟨rfl, hready.sized, ⟨id₁, (h.places sockets).map unitctrlLoad.op ++ List.replicate
      (numCtrs * sockets - (h.places sockets).length) .zero⟩, ?_, ?_, rfl,
      fun i place hplace => ?_⟩,
    ((h₁.trans h₂).trans h₃).trans h₄, rfl, rfl, rfl⟩
  · rw [initPmonctrGlobal, hu.init, if_neg Bool.false_ne_true]
    simp only [if_neg (Nat.not_le.mpr hfits), hu.pgd, pmonctrGlobalStorage, hst₁, hst₂, hst₃, hst₄,
      Option.bind_eq_bind, Option.bind_some]
    rfl
  · have hent := hready.entry
    rw [List.nil_append, List.length_map] at hent
    exact hent
  · rw [List.length_append, List.length_map]
    exact Nat.le_add_right _ _
  · obtain ⟨hi, -⟩ := List.getElem?_eq_some_iff.mp hplace
    refine ⟨unitctrlLoad.op place, ?_, rfl, rfl, trivial⟩
    rw [List.getElem?_append_left (by rw [List.length_map]; exact hi), List.getElem?_map, hplace,
      Option.map_some]

/-- What a call of `set_pmon_unit_ctrl` comes to. -/
structure UnitsSet (h : ImcHeader) (sockets : Nat) (c : UnitControl) (x : ImcExecution)
    (s s' : UnitState) : Prop where
  leaves : s.imc.proc.st.Leaves UnitBatch s'.imc.proc.st
  pcd : s'.imc.pcd = s.imc.pcd
  init : s'.imc.init = s.imc.init
  reached : ∀ reg, x.ReachesUnit h sockets reg → s'.imc.regs reg = c.setting.setWidth 64
  others : ∀ reg, ¬ x.ReachesUnit h sockets reg → s'.imc.regs reg = s.imc.regs reg

/-- The call, with at most two sockets. -/
theorem ImcUnitsReady.set (hr : ImcUnitsReady h sockets s) (hpos : 1 ≤ sockets) (htwo : sockets ≤ 2)
    {c : UnitControl} (hfreeze : c.freezeEn.toNat < 2 ^ 15) (x : ImcExecution) :
    ∃ s', setPmonUnitCtrl sockets c x s = some (0, s') ∧ ImcUnitsReady h sockets s' ∧
      UnitsSet h sockets c x s s' := by
  have hlen : (h.places sockets).length = numCtrs * sockets := by
    rw [places_length h hpos, Nat.min_eq_left htwo]
    rfl
  obtain ⟨st, hst, hops⟩ := storeUnits_spec hr.ops hlen c.setting
  have hstored := storeUnits_leaves hr.ops.sized hst
  obtain ⟨s', hs', hops', hleaves, hpgd, hinit, hpcd, hinit', hregs⟩ :=
    doUnitControls_spec (s := s.setTable st) hops x
  refine ⟨s', ?_, ⟨hinit.trans hr.init, ?_⟩, hstored.trans hleaves, hpcd, hinit', ?_, ?_⟩
  · rw [setPmonUnitCtrl, if_neg (Nat.not_le.mpr hfreeze), hst, Option.bind_eq_bind,
      Option.bind_some, hs']
  · rw [hpgd]
    exact hops'.mono fun _ _ _ => trivial
  · intro reg hreach
    rw [hregs]
    exact (UnitOps.registers (p := (s.setTable st).imc.proc) hops x _ reg).1 hreach
  · intro reg hnot
    rw [hregs]
    exact (UnitOps.registers (p := (s.setTable st).imc.proc) hops x _ reg).2 hnot

/-- **When the call returns.** -/
theorem UnitInv.set_returns_iff (hI : UnitInv h sockets s) (hpos : 1 ≤ sockets) (c : UnitControl)
    (x : ImcExecution) : (∃ out, setPmonUnitCtrl sockets c x s = some out) ↔
      s.init = true ∧ sockets ≤ 2 ∧ c.freezeEn.toNat < 2 ^ 15 := by
  constructor
  · rintro ⟨out, hout⟩
    rw [setPmonUnitCtrl] at hout
    split at hout
    · contradiction
    · next hfreeze =>
      obtain ⟨st, hst, -⟩ := Option.bind_eq_some_iff.mp hout
      rcases hI.units with hu | hr
      · rw [hu.storeUnits_none hpos] at hst
        contradiction
      · refine ⟨hr.init, ?_, Nat.not_le.mp hfreeze⟩
        by_contra hthree
        rw [storeUnits_none hr.ops (Nat.not_le.mp hthree)] at hst
        contradiction
  · rintro ⟨hinit, htwo, hfreeze⟩
    have hr := hI.units.resolve_left fun hu => Bool.false_ne_true (hu.init.symm.trans hinit)
    obtain ⟨s', hs', -⟩ := hr.set hpos htwo hfreeze x
    exact ⟨_, hs'⟩

/-- A call that returns. -/
theorem UnitInv.set (hI : UnitInv h sockets s) (hpos : 1 ≤ sockets) {c : UnitControl}
    {x : ImcExecution} {rc : Int} (hcall : setPmonUnitCtrl sockets c x s = some (rc, s')) :
    rc = 0 ∧ UnitInv h sockets s' ∧ UnitsSet h sockets c x s s' := by
  obtain ⟨hinit, htwo, hfreeze⟩ := (hI.set_returns_iff hpos c x).mp ⟨_, hcall⟩
  have hr := hI.units.resolve_left fun hu => Bool.false_ne_true (hu.init.symm.trans hinit)
  obtain ⟨s'', hs'', hr', hset⟩ := hr.set hpos htwo hfreeze x
  obtain ⟨rfl, rfl⟩ := Prod.mk.inj (Option.some.inj (hcall.symm.trans hs''))
  exact ⟨rfl, ⟨hI.counters.of_leaves hset.leaves hset.pcd hset.init, .inr hr'⟩, hset⟩

/-- A call of `init_pmonctr_global` that returns. -/
theorem UnitInv.initialize (hI : UnitInv h sockets s) (hpos : 1 ≤ sockets) {rc : Int}
    (hcall : initPmonctrGlobal h sockets s = some (rc, s')) : UnitInv h sockets s' := by
  rcases hI.units with hu | hr
  · by_cases hfits : 2 * (numCtrs * sockets) < 2 ^ 31
    · obtain ⟨s'', hs'', hr', hleaves, hpcd, hinit, -⟩ :=
        hu.initialize (h := h) hI.counters.sized hpos hfits
      obtain ⟨-, rfl⟩ := Prod.mk.inj (Option.some.inj (hcall.symm.trans hs''))
      exact ⟨hI.counters.of_leaves hleaves hpcd hinit, .inr hr'⟩
    · rw [initPmonctrGlobal, hu.init, if_neg Bool.false_ne_true] at hcall
      simp only [if_pos (Nat.not_lt.mp hfits)] at hcall
      contradiction
  · rw [initPmonctrGlobal, if_pos hr.init] at hcall
    obtain ⟨-, rfl⟩ := Prod.mk.inj (Option.some.inj hcall)
    exact hI

/-- A call of the counters. -/
theorem UnitInv.ctr (hI : UnitInv h sockets s) (hapart : h.OffsetsApart) (hpos : 1 ≤ sockets)
    {call : ImcCtrCall} {imc : ImcState} (hcall : imcCtrStep h sockets s.imc call = some imc) :
    UnitInv h sockets { s with imc := imc } := by
  have hleaves : s.imc.proc.st.Leaves CounterBatch imc.proc.st :=
    imcCtrStep_leaves hI.counters.sized hcall
  refine ⟨hI.counters.step hapart hpos hcall, ?_⟩
  rcases hI.units with hu | hr
  · exact .inl ⟨hu.init, hu.pgd, (hleaves.entry _ (show ¬ 2 < 2 by decide)).trans hu.unitctrl,
      (hleaves.entry _ (show ¬ 3 < 2 by decide)).trans hu.unitstatus⟩
  · exact .inr ⟨hr.init, hr.ops.of_leaves hleaves⟩

/-- **Step lemma.** -/
theorem UnitInv.step (hI : UnitInv h sockets s) (hapart : h.OffsetsApart) (hpos : 1 ≤ sockets)
    {call : ImcUnitCall} (hcall : imcUnitStep h sockets s call = some s') :
    UnitInv h sockets s' := by
  cases call with
  | ctr c =>
    obtain ⟨imc, himc, rfl⟩ := Option.map_eq_some_iff.mp hcall
    exact hI.ctr hapart hpos himc
  | init =>
    obtain ⟨⟨rc, s₁⟩, hs₁, rfl⟩ := Option.map_eq_some_iff.mp hcall
    exact hI.initialize hpos hs₁
  | set c x =>
    obtain ⟨⟨rc, s₁⟩, hs₁, rfl⟩ := Option.map_eq_some_iff.mp hcall
    exact (hI.set hpos hs₁).2.1

/-- **Run lemma.** -/
theorem UnitReachable.inv (hreach : UnitReachable h sockets s) (hapart : h.OffsetsApart)
    (hpos : 1 ≤ sockets) : UnitInv h sockets s := by
  obtain ⟨p, regs, calls, hrun⟩ := hreach
  refine Runs.run_inv (fun _ _ _ hI hstep => UnitInv.step hI hapart hpos hstep) ?_ hrun
  exact ⟨.inl (start_unset sockets p regs), .inl ⟨rfl, rfl, rfl, rfl⟩⟩

end Runs

/-- **The unit control**, in every state that calls of the counters and of the units can
    lead to.  `set_pmon_unit_ctrl` returns exactly after `init_pmonctr_global`, with at
    most two sockets, and with a `freeze_en` below 2^15.  It then returns 0, the unit
    controls that a write reaches hold the setting, no other register changes, and the
    batches of the counters are what they were. -/
theorem setPmonUnitCtrl_channels {h : ImcHeader} (hh : h ∈ imcHeaders) {sockets : Nat}
    (hpos : 1 ≤ sockets) {s : UnitState} (hreach : UnitReachable h sockets s) (c : UnitControl)
    (x : ImcExecution) :
    ((∃ out, setPmonUnitCtrl sockets c x s = some out) ↔
      s.init = true ∧ sockets ≤ 2 ∧ c.freezeEn.toNat < 2 ^ 15) ∧
    ∀ rc s', setPmonUnitCtrl sockets c x s = some (rc, s') →
      rc = 0 ∧ UnitsSet h sockets c x s s' := by
  have hI := hreach.inv (imcHeaders_offsetsApart hh) hpos
  refine ⟨hI.set_returns_iff hpos c x, fun rc s' hcall => ?_⟩
  obtain ⟨hrc, -, hset⟩ := hI.set hpos hcall
  exact ⟨hrc, hset⟩

/-- The setting reaches the 16 unit controls of two sockets. -/
theorem intel3E_setUnits : ∃ s s', Runs.run (imcUnitStep intel3E 2) (.start 2 .start fun _ => 0)
      [.ctr (.imc .initPmonCtrs), .init] = some s ∧
    setPmonUnitCtrl 2 ⟨1, 1, 1, 1, 1⟩ (sevenRead 0) s = some (0, s') ∧
    ∀ place ∈ intel3E.places 2, s'.imc.regs place.unitctrl = 0x30103 := by
  obtain ⟨imc, himc, -⟩ := ImcUnset.initialize (h := intel3E)
    (start_unset 2 .start fun _ => 0) (by decide) (by decide)
  have hstart : UnitInv intel3E 2 (.start 2 .start fun _ => 0) :=
    ⟨.inl (start_unset 2 .start fun _ => 0), .inl ⟨rfl, rfl, rfl, rfl⟩⟩
  have himc' : imcCtrStep intel3E 2 (.start 2 .start fun _ => 0) (.imc .initPmonCtrs) =
      some imc := himc
  have hI := hstart.ctr (imcHeaders_offsetsApart (by decide)) (by decide) himc'
  have hu := hI.units.resolve_right fun hr => Bool.false_ne_true hr.init
  obtain ⟨s, hs, hr, -⟩ := hu.initialize (h := intel3E) hI.counters.sized (by decide) (by decide)
  have hrun : Runs.run (imcUnitStep intel3E 2) (.start 2 .start fun _ => 0)
      [.ctr (.imc .initPmonCtrs), .init] = some s := by
    have hctr : imcUnitStep intel3E 2 (.start 2 .start fun _ => 0) (.ctr (.imc .initPmonCtrs)) =
        some { UnitState.start 2 .start fun _ => 0 with imc := imc } := by
      rw [imcUnitStep]
      exact congrArg _ himc'
    rw [Runs.run_cons, hctr, Option.bind_some, Runs.run_cons, imcUnitStep, hs]
    rfl
  obtain ⟨hiff, hall⟩ := setPmonUnitCtrl_channels (h := intel3E) (by decide) (by decide)
    ⟨.start, fun _ => 0, _, hrun⟩ ⟨1, 1, 1, 1, 1⟩ (sevenRead 0)
  obtain ⟨⟨rc, s'⟩, hcall⟩ := hiff.mpr ⟨hr.init, by decide, by decide⟩
  obtain ⟨rfl, hset⟩ := hall rc s' hcall
  refine ⟨s, s', hrun, hcall, fun place hplace => ?_⟩
  obtain ⟨i, hi⟩ := List.mem_iff_getElem?.mp hplace
  rw [hset.reached _ ⟨i, place, hi, rfl, rfl⟩]
  rfl

end Libmsr
