/-
  Libmsr.Csr.CsrDeviceRuns

  Which descriptor `do_csr_batch_op` works on, in any order of calls.

  `finalize_csr` stores 0 for the descriptor, which `do_csr_batch_op` takes for a
  descriptor like any other, and the copy that `do_csr_batch_op` keeps is not reset at
  all; `init_csr` does not look at what `open` returned.  The run theorem says that
  this is all that can go wrong.
-/
import Libmsr.Csr.CsrDevice

namespace Libmsr

/-! ## The law and its condition -/

/-- What a call should do: work on the descriptor that is held, refuse to work without
    one, and report success only when the device was opened. -/
def DescriptorLaw (p : CsrProcess) (call : CsrDeviceCall) : Prop :=
  ∀ r p', p.exec call = some (r, p') →
    match call with
    | .init _ opened => r.rc = 0 → 0 ≤ opened ∧ p'.held = some opened
    | .batchOp _ _ => (∀ d, r.ioctl = some d → p.held = some d) ∧
        (p.held = none → r.rc = -1 ∧ r.ioctl = none)
    | .finalize _ => True
    | .fill _ => True

/-- The first `init_csr` opens the device, and ops are executed while it is open. -/
def OpenedAndHeld (p : CsrProcess) : CsrDeviceCall → Prop
  | .init _ opened => p.init = true ∨ 0 ≤ opened
  | .batchOp b _ => (p.st.entry b).numops = 0 ∨ p.held ≠ none
  | .finalize _ => True
  | .fill _ => True

/-- The held descriptor is the one that is stored, and a copy is a copy of it. -/
structure DescriptorInv (p : CsrProcess) : Prop where
  batches : CsrInv p.st
  stored : ∀ d, p.held = some d → p.csrFd = d ∧ (p.batchfd = 0 ∨ p.batchfd = d)
  unopened : p.init = false → p.csrFd = 0 ∧ p.batchfd = 0 ∧ p.held = none

theorem start_descriptorInv : DescriptorInv .start :=
  ⟨csrInv_init, nofun, fun _ => ⟨rfl, rfl, rfl⟩⟩

section Steps

variable {p p' : CsrProcess} {r : CsrResult}

/-! ## init_csr -/

theorem DescriptorInv.init (h : DescriptorInv p) (stat : StatOutcome) (opened : Int) :
    DescriptorInv (initCsr p stat opened).2 := by
  cases hinit : p.init with
  | true =>
    have hsame : (initCsr p stat opened).2 = p := by simp [initCsr, hinit]
    rw [hsame]
    exact h
  | false =>
    obtain ⟨-, hbatchfd, hheld⟩ := h.unopened hinit
    have hnew : (initCsr p stat opened).2 = { p with
        init := true
        csrFd := opened
        held := if 0 ≤ opened then some opened else none } := by
      simp [initCsr, hinit, hheld]
    rw [hnew]
    refine ⟨h.batches, fun d hd => ?_, fun hfalse => nomatch hfalse⟩
    dsimp only at hd
    split at hd
    · exact ⟨Option.some.inj hd, .inl hbatchfd⟩
    · contradiction

/-- The first call returns 0 whatever `open` returned. -/
theorem DescriptorInv.init_law_iff (h : DescriptorInv p) (stat : StatOutcome) (opened : Int) :
    DescriptorLaw p (.init stat opened) ↔ p.init = true ∨ 0 ≤ opened := by
  cases hinit : p.init with
  | true =>
    refine iff_of_true (fun r p' hr hrc => ?_) (.inl rfl)
    have hexec : p.exec (.init stat opened) = some (⟨-1, none, [.unableToFindModule]⟩, p) := by
      simp [CsrProcess.exec, initCsr, hinit]
    rw [hexec] at hr
    obtain ⟨rfl, -⟩ := by simpa using hr
    contradiction
  | false =>
    have hheld := (h.unopened hinit).2.2
    have hrc : (initCsr p stat opened).1.rc = 0 := by simp [initCsr, hinit]
    have hopen : (initCsr p stat opened).2.held = if 0 ≤ opened then some opened else none := by
      simp [initCsr, hinit, hheld]
    constructor
    · intro hlaw
      exact .inr (hlaw _ _ rfl hrc).1
    · rintro (hfalse | hok)
      · contradiction
      · intro r p' hr _
        obtain ⟨-, rfl⟩ := Prod.mk.inj (Option.some.inj hr)
        exact ⟨hok, hopen.trans (if_pos hok)⟩

/-! ## finalize_csr -/

/-- Nothing is held after the held descriptor was closed. -/
theorem DescriptorInv.release (h : DescriptorInv p) : DescriptorInv { p with held := none } :=
  ⟨h.batches, nofun, fun hinit => ⟨(h.unopened hinit).1, (h.unopened hinit).2.1, rfl⟩⟩

theorem DescriptorInv.finalize (h : DescriptorInv p) (out : CloseOutcome) :
    DescriptorInv (finalizeCsr p out).2 := by
  cases hfails : out.fails with
  | true =>
    have hsame : (finalizeCsr p out).2 =
        if out.released && p.held = some p.csrFd then { p with held := none } else p := by
      simp [finalizeCsr, hfails]
    rw [hsame]
    split
    · exact h.release
    · exact h
  | false =>
    -- what was held was the descriptor that is closed
    have hnone : (finalizeCsr p out).2 = { p with csrFd := 0, held := none } := by
      by_cases hheld : p.held = some p.csrFd
      · simp [finalizeCsr, hfails, hheld]
      · have hp : p.held = none := by
          cases heq : p.held with
          | none => rfl
          | some d =>
            rw [heq, (h.stored d heq).1] at hheld
            contradiction
        simp [finalizeCsr, hfails, hp]
    rw [hnone]
    exact ⟨h.batches, nofun, fun hinit => ⟨rfl, (h.unopened hinit).2.1, rfl⟩⟩

/-! ## do_csr_batch_op -/

/-- The descriptor that `do_csr_batch_op` works on. -/
def CsrProcess.used (p : CsrProcess) : Int := if p.batchfd = 0 then p.csrFd else p.batchfd

/-- It is the one that is held. -/
theorem DescriptorInv.used_eq (h : DescriptorInv p) {d : Int} (hd : p.held = some d) :
    p.used = d := by
  obtain ⟨hfd, hcopy⟩ := h.stored d hd
  rw [CsrProcess.used]
  split
  · exact hfd
  · rename_i hne
    exact hcopy.resolve_left hne

/-- An empty batch is refused. -/
theorem doCsrBatchOp_empty (hs : p.st.table.Sized) {b : Nat} (out : CsrIoctl)
    (h0 : (p.st.entry b).numops = 0) :
    doCsrBatchOp p b out = some (⟨-1, none, [.emptyBatch]⟩,
      { p with batchfd := p.used, st := csrBatchStorage p.st b }) := by
  obtain ⟨-, -, hent, -⟩ := csrBatchStorage_spec hs b
  by_cases hcopy : p.batchfd = 0
  · simp [doCsrBatchOp, CsrProcess.used, hcopy, hent, h0]
  · simp [doCsrBatchOp, CsrProcess.used, hcopy, hent, h0]

/-- Any other batch is executed. -/
theorem doCsrBatchOp_ops (h : DescriptorInv p) {b : Nat} (out : CsrIoctl)
    (hpos : (p.st.entry b).numops ≠ 0) :
    ∃ a messages, (p.st.entry b).ops = some a ∧ doCsrBatchOp p b out =
      some (⟨0, some p.used, messages⟩, { p with
        batchfd := p.used
        st := (csrBatchStorage p.st b).setEntry b ⟨(p.st.entry b).numops,
          some (a.answered out.replies (p.st.entry b).numops)⟩ }) := by
  obtain ⟨-, -, hent, -⟩ := csrBatchStorage_spec h.batches.sized b
  cases hops : (p.st.entry b).ops with
  | none => exact absurd (h.batches.unallocated b hops).1 hpos
  | some a =>
    have hlen := (h.batches.allocated b a hops).2.1
    refine ⟨a, if out.res < 0 then [.ioctlFailed] else [], rfl, ?_⟩
    by_cases hcopy : p.batchfd = 0
    · simp [doCsrBatchOp, CsrProcess.used, hcopy, hent, hpos, hops, Nat.not_lt.mpr hlen]
    · simp [doCsrBatchOp, CsrProcess.used, hcopy, hent, hpos, hops, Nat.not_lt.mpr hlen]

/-- The copy is refreshed, and the batches change. -/
theorem DescriptorInv.worked (h : DescriptorInv p) {st : CsrBatchStorage} (hst : CsrInv st) :
    DescriptorInv { p with batchfd := p.used, st := st } := by
  refine ⟨hst, fun d hd => ⟨(h.stored d hd).1, .inr (h.used_eq hd)⟩, fun hinit => ?_⟩
  obtain ⟨hfd, hcopy, hheld⟩ := h.unopened hinit
  exact ⟨hfd, (if_pos hcopy).trans hfd, hheld⟩

theorem DescriptorInv.batchOp (h : DescriptorInv p) {b : Nat} {out : CsrIoctl}
    (hr : doCsrBatchOp p b out = some (r, p')) : DescriptorInv p' := by
  have hup := csrBatchStorage_updated h.batches.sized b
  by_cases h0 : (p.st.entry b).numops = 0
  · rw [doCsrBatchOp_empty h.batches.sized out h0] at hr
    obtain ⟨-, rfl⟩ := Prod.mk.inj (Option.some.inj hr)
    exact h.worked (h.batches.of_updated hup (h.batches.allocated b) (h.batches.unallocated b))
  · obtain ⟨a, messages, ha, hdo⟩ := doCsrBatchOp_ops h out h0
    rw [hdo] at hr
    obtain ⟨-, rfl⟩ := Prod.mk.inj (Option.some.inj hr)
    obtain ⟨hcap, hle, hlt⟩ := h.batches.allocated b a ha
    -- replies change no length
    have hlen : (a.answered out.replies (p.st.entry b).numops).slots.length = a.slots.length :=
      List.length_mapIdx
    have hset : CsrUpdated p.st b ⟨(p.st.entry b).numops,
        some (a.answered out.replies (p.st.entry b).numops)⟩ (p.st.capacity b)
        ((csrBatchStorage p.st b).setEntry b ⟨(p.st.entry b).numops,
          some (a.answered out.replies (p.st.entry b).numops)⟩) :=
      ⟨hup.sized.setEntry _, hup.hasEntry.setEntry _ _, csrEntry_setEntry_self hup.hasEntry _,
        hup.capacity, fun b' hne => (GrowTable.entry_setEntry_of_ne hne _).trans
          (hup.entry_ne b' hne), hup.capacity_ne⟩
    apply h.worked
    apply h.batches.of_updated hset
    · intro a' ha'
      obtain rfl := Option.some.inj ha'
      rw [hlen]
      exact ⟨hcap, hle, hlt⟩
    · exact nofun

/-- Ops are executed on what is held, if anything is. -/
theorem DescriptorInv.batchOp_law_iff (h : DescriptorInv p) (b : Nat) (out : CsrIoctl) :
    DescriptorLaw p (.batchOp b out) ↔ (p.st.entry b).numops = 0 ∨ p.held ≠ none := by
  by_cases h0 : (p.st.entry b).numops = 0
  · refine iff_of_true (fun r p' hr => ?_) (.inl h0)
    have hempty := doCsrBatchOp_empty h.batches.sized out h0
    obtain ⟨rfl, -⟩ := Prod.mk.inj (Option.some.inj (hempty.symm.trans hr))
    exact ⟨nofun, fun _ => ⟨rfl, rfl⟩⟩
  · rw [or_iff_right h0]
    obtain ⟨a, messages, -, hdo⟩ := doCsrBatchOp_ops h out h0
    constructor
    · intro hlaw hnone
      -- it returns 0, and not -1
      obtain ⟨hrc, -⟩ := (hlaw _ _ hdo).2 hnone
      contradiction
    · intro hheld r p' hr
      obtain ⟨d, hd⟩ := Option.ne_none_iff_exists'.mp hheld
      obtain ⟨rfl, -⟩ := Prod.mk.inj (Option.some.inj (hdo.symm.trans hr))
      refine ⟨fun d' hd' => ?_, fun hnone => absurd hnone hheld⟩
      rw [← Option.some.inj hd', h.used_eq hd]
      exact hd

/-! ## Runs -/

/-- **Step lemma.** -/
theorem DescriptorInv.step (h : DescriptorInv p) {call : CsrDeviceCall}
    (hstep : p.step call = some p') : DescriptorInv p' := by
  obtain ⟨⟨r, p''⟩, hr, rfl⟩ := Option.map_eq_some_iff.mp hstep
  cases call with
  | init stat opened =>
    obtain ⟨-, rfl⟩ := Prod.mk.inj (Option.some.inj hr)
    exact h.init stat opened
  | finalize out =>
    obtain ⟨-, rfl⟩ := Prod.mk.inj (Option.some.inj hr)
    exact h.finalize out
  | batchOp b out => exact h.batchOp hr
  | fill call =>
    obtain ⟨r', hr', heq⟩ := Option.map_eq_some_iff.mp hr
    obtain ⟨-, rfl⟩ := Prod.mk.inj heq
    have hstep : csrStep p.st call = some r'.2.2 := by
      rw [csrStep, hr']
      rfl
    exact ⟨h.batches.of_csrStep hstep, h.stored, h.unopened⟩

theorem DescriptorInv.law_iff (h : DescriptorInv p) (call : CsrDeviceCall) :
    DescriptorLaw p call ↔ OpenedAndHeld p call := by
  cases call with
  | init stat opened => exact h.init_law_iff stat opened
  | finalize out => exact iff_of_true (fun _ _ _ => trivial) trivial
  | batchOp b out => exact h.batchOp_law_iff b out
  | fill call => exact iff_of_true (fun _ _ _ => trivial) trivial

end Steps

/-- **The CSR device.**  In any order of calls, every call keeps to the law exactly when
    the first `init_csr` opens the device, and no batch with ops is executed before that
    or after the device was closed. -/
theorem descriptorLaw_along_iff (calls : List CsrDeviceCall) :
    Runs.Along CsrProcess.step DescriptorLaw .start calls ↔
      Runs.Along CsrProcess.step OpenedAndHeld .start calls :=
  Runs.along_iff (I := DescriptorInv) (fun _ call h => h.law_iff call)
    (fun _ _ _ h _ hstep => h.step hstep) start_descriptorInv

/-- `open` fails, and `init_csr` returns 0. -/
theorem failedOpen_not_lawful :
    ¬ Runs.Along CsrProcess.step DescriptorLaw .start [.init ⟨true, ⟨false, false⟩⟩ (-1)] := by
  rintro ⟨hlaw, -⟩
  obtain ⟨hopened, -⟩ := hlaw _ _ rfl rfl
  contradiction

end Libmsr
