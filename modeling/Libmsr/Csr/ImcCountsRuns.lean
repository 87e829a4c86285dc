/-
  Libmsr.Csr.ImcCountsRuns

  What the print functions of src/csr_imc.c print, in every state that calls of its
  functions can lead to.

  - `CtrsReady`: the batch of the counters has an op for each slot of each counter, and
    the arrays point to them; no call changes that.
  - `MemInv`: the states of a run.
  - `memPrints_channels`: when a print returns, that it prints the places of the slots
    with the values their registers had at the last reading, and for which headers these
    are the channels.
-/
import Libmsr.Csr.ImcCounts

namespace Libmsr

/-! ## Frames -/

section Frames

variable {p p' : CsrProcess} {b : Nat}

/-- Executing a batch leaves the others. -/
theorem doCsrBatchOp_keeps (hs : p.st.table.Sized) {out : CsrIoctl} {r : CsrResult}
    (hcall : doCsrBatchOp p b out = some (r, p')) :
    p'.st.table.Sized ∧ ∀ b', b' ≠ b → p'.st.entry b' = p.st.entry b' := by
  obtain ⟨hsized, -, hent, -⟩ := csrBatchStorage_spec hs b
  by_cases h0 : (p.st.entry b).numops = 0
  · rw [doCsrBatchOp_empty hs out h0] at hcall
    obtain ⟨-, rfl⟩ := Prod.mk.inj (Option.some.inj hcall)
    exact ⟨hsized, fun b' _ => hent b'⟩
  · cases ha : (p.st.entry b).ops with
    | none =>
      simp [doCsrBatchOp, apply_ite CsrProcess.st, hent, h0, ha] at hcall
    | some a =>
      by_cases hlen : a.slots.length < (p.st.entry b).numops
      · simp [doCsrBatchOp, apply_ite CsrProcess.st, hent, h0, ha, hlen] at hcall
      · have hfilled : CsrBatchFilled p b :=
          ⟨hs, Nat.one_le_iff_ne_zero.mpr h0, a, ha, Nat.not_lt.mp hlen⟩
        rw [hfilled.call out ha] at hcall
        obtain ⟨-, rfl⟩ := Prod.mk.inj (Option.some.inj hcall)
        exact ⟨hsized.setEntry _, fun b' hne =>
          (GrowTable.entry_setEntry_of_ne hne _).trans (hent b')⟩

/-- So does storing to its ops. -/
theorem storeData_keeps {st st' : CsrBatchStorage} (hs : st.table.Sized) {ptr : Ptr} {v : Word}
    (hcall : st.storeData b ptr v = some st') :
    st'.table.Sized ∧ ∀ b', b' ≠ b → st'.entry b' = st.entry b' := by
  simp only [CsrBatchStorage.storeData] at hcall
  split at hcall
  · contradiction
  · split at hcall
    · split at hcall
      · contradiction
      · obtain rfl := Option.some.inj hcall
        exact ⟨hs.setEntry _, fun b' hne => GrowTable.entry_setEntry_of_ne hne _⟩
    · contradiction

/-- A configuration leaves all batches but that of the configurations. -/
theorem setPmonConfig_keeps {sockets : Nat} {setting : BitVec 32} {cfg : List (Option Ptr)}
    {st st' : CsrBatchStorage} (hs : st.table.Sized) {rc : Int} {texts : List ImcMessage}
    (hcall : setPmonConfig sockets setting cfg st = some (rc, texts, st')) :
    st'.table.Sized ∧ ∀ b', b' ≠ csrImcEvts → st'.entry b' = st.entry b' := by
  simp only [setPmonConfig] at hcall
  split at hcall
  · contradiction
  · obtain ⟨-, -, rfl⟩ := by simpa using hcall
    exact ⟨hs, fun _ _ => rfl⟩
  · obtain ⟨st'', hloop, hout⟩ := Option.map_eq_some_iff.mp hcall
    obtain ⟨-, -, rfl⟩ := by simpa using hout
    refine Loops.foldlM_keeps (I := fun t : CsrBatchStorage =>
      t.table.Sized ∧ ∀ b', b' ≠ csrImcEvts → t.entry b' = st.entry b') ?_
      ⟨hs, fun _ _ => rfl⟩ hloop
    intro t i t' ht hstep
    obtain ⟨ptr, -, hstore⟩ := Option.bind_eq_some_iff.mp hstep
    obtain ⟨hsized, hent⟩ := storeData_keeps ht.1 hstore
    exact ⟨hsized, fun b' hne => (hent b' hne).trans (ht.2 b' hne)⟩

end Frames

/-! ## The batch of the counters -/

/-- The offset of a counter's registers. -/
def ImcHeader.ctrOffset (h : ImcHeader) (counter : Nat) : Nat :=
  [h.csrPmonctr0, h.csrPmonctr1, h.csrPmonctr2, h.csrPmonctr3].getD counter 0

/-- The register of a counter on a channel. -/
def ImcHeader.ctrRegister (h : ImcHeader) (counter : Nat) (place : ImcPlace) : CsrRegister :=
  ⟨1, place.device, place.function, place.socket, BitVec.ofNat 16 (h.ctrOffset counter)⟩

/-- An op that reads a register. -/
structure CsrBatchOp.ReadsFrom (op : CsrBatchOp) (reg : CsrRegister) : Prop where
  isread : op.isread = 1
  register : op.register = reg

/-- The batch has a block of ops for each of the four counters, and the counters' arrays
    point to them.  The fifth counter has no ops. -/
structure CtrsReady (h : ImcHeader) (sockets : Nat) (s : ImcState) : Prop where
  array : ∃ a, s.proc.st.entry csrImcCtrs = ⟨4 * h.counterOps sockets, some a⟩ ∧
    4 * h.counterOps sockets ≤ a.slots.length ∧
    (∀ c, c < 4 → s.pcd.ctr c = some (imcPtrs a.id (c * h.counterOps sockets)
      (h.counterOps sockets) (numCtrs * sockets))) ∧
    ∀ c i, c < 4 → i < h.counterOps sockets → ∃ op,
      a.slots[c * h.counterOps sockets + i]? = some op ∧
        op.ReadsFrom (h.ctrRegister c (h.printed i))
  fifth : s.pcd.ctr 4 = some (List.replicate (numCtrs * sockets) none)

section Ctrs

variable {h : ImcHeader} {sockets : Nat} {s s' : ImcState}

/-- It is a matter of one batch and of the arrays. -/
theorem CtrsReady.congr (hr : CtrsReady h sockets s)
    (hent : s'.proc.st.entry csrImcCtrs = s.proc.st.entry csrImcCtrs) (hpcd : s'.pcd = s.pcd) :
    CtrsReady h sockets s' :=
  ⟨by rw [hent, hpcd]; exact hr.array, by rw [hpcd]; exact hr.fifth⟩

/-- What the driver gets: for every slot of every counter a read. -/
theorem CtrsReady.ops (hr : CtrsReady h sockets s) {c i : Nat} (hc : c < 4)
    (hi : i < h.counterOps sockets) :
    ∃ op, (s.proc.ops csrImcCtrs)[c * h.counterOps sockets + i]? = some op ∧
      op.ReadsFrom (h.ctrRegister c (h.printed i)) := by
  obtain ⟨a, hent, hlen, -, hops⟩ := hr.array
  obtain ⟨op, hop, hreads⟩ := hops c i hc hi
  refine ⟨op, ?_, hreads⟩
  rw [CsrProcess.ops, hent, Option.elim_some, List.getElem?_take,
    if_pos (MixedRadix.low_lt hc hi)]
  exact hop

/-- All its ops are reads. -/
theorem CtrsReady.all_reads (hr : CtrsReady h sockets s) {op : CsrBatchOp}
    (hop : op ∈ s.proc.ops csrImcCtrs) : op.isread = 1 := by
  obtain ⟨n, hn⟩ := List.mem_iff_getElem?.mp hop
  obtain ⟨a, hent, hlen, -⟩ := hr.array
  have hlt : n < 4 * h.counterOps sockets := by
    obtain ⟨hlt, -⟩ := List.getElem?_eq_some_iff.mp hn
    rw [CsrProcess.ops, hent, Option.elim_some, List.length_take] at hlt
    exact hlt.trans_le (Nat.min_le_left ..)
  obtain ⟨c, x, i, hx, hi, rfl⟩ := op_of_lt hlt
  obtain ⟨op', hop', hreads⟩ := hr.ops (cfgLoads_lt hx) hi
  obtain rfl := Option.some.inj (hop'.symm.trans hn)
  exact hreads.isread

/-- Reads write no register. -/
theorem CtrsReady.registers_eq (hr : CtrsReady h sockets s) (x : ImcExecution)
    (regs : CsrRegister → Word) : x.registers (s.proc.ops csrImcCtrs) regs = regs := by
  have hwrites : x.writes (s.proc.ops csrImcCtrs) = [] := by
    rw [ImcExecution.writes, List.filterMap_eq_nil_iff]
    intro n hn
    cases hop : (s.proc.ops csrImcCtrs)[n]? with
    | none => rfl
    | some op =>
      have hread := hr.all_reads (List.mem_of_getElem? hop)
      rw [Option.bind_some, if_neg fun hzero => absurd (hzero.1.symm.trans hread) (by decide)]
  rw [ImcExecution.registers, hwrites]
  rfl

/-- An answered op is still a read of its register, and holds what the driver read. -/
theorem CtrsReady.answered (hr : CtrsReady h sockets s) {a : CsrOpArray}
    (hent : s.proc.st.entry csrImcCtrs = ⟨4 * h.counterOps sockets, some a⟩) (x : ImcExecution)
    {c i : Nat} (hc : c < 4) (hi : i < h.counterOps sockets) :
    ∃ op, (a.answered (x.ioctl (s.proc.ops csrImcCtrs)).replies
        (4 * h.counterOps sockets)).slots[c * h.counterOps sockets + i]? = some op ∧
      op.ReadsFrom (h.ctrRegister c (h.printed i)) ∧
      op.csrdata = x.read (c * h.counterOps sockets + i) := by
  obtain ⟨op, hop, hreads⟩ := hr.ops hc hi
  have hslot : a.slots[c * h.counterOps sockets + i]? = some op := by
    rw [CsrProcess.ops, hent, Option.elim_some, List.getElem?_take,
      if_pos (MixedRadix.low_lt hc hi)] at hop
    exact hop
  refine ⟨_, Loops.mapIdx_getElem?_eq_some.mpr ⟨op, hslot, rfl⟩, ?_, ?_⟩
  · rw [if_pos (MixedRadix.low_lt hc hi)]
    exact ⟨hreads.isread, hreads.register⟩
  · rw [if_pos (MixedRadix.low_lt hc hi)]
    simp only [ImcExecution.ioctl, hop, Option.elim_some, hreads.isread]
    rfl

/-- **A reading.**  The values are what the driver read, and no register changes. -/
theorem CtrsReady.reads (hr : CtrsReady h sockets s) (hs : s.proc.st.table.Sized)
    (x : ImcExecution) :
    ∃ s', doImcCounters x s = some (0, s') ∧ CtrsReady h sockets s' ∧ s'.pcd = s.pcd ∧
      s'.init = s.init ∧ s'.regs = s.regs ∧ s'.proc.st.table.Sized ∧
      s'.proc.st.entry csrImcEvts = s.proc.st.entry csrImcEvts ∧
      ∀ c i, c < 4 → i < h.counterOps sockets →
        s'.word c i = some (x.read (c * h.counterOps sockets + i)) := by
  obtain ⟨a, hent, hlen, hptrs, -⟩ := hr.array
  have hpos := counterOps_pos h sockets
  have ha : (s.proc.st.entry csrImcCtrs).ops = some a := by rw [hent]
  have hnum : (s.proc.st.entry csrImcCtrs).numops = 4 * h.counterOps sockets := by rw [hent]
  have hfilled : CsrBatchFilled s.proc csrImcCtrs :=
    ⟨hs, by rw [hnum]; omega, a, ha, by rw [hnum]; exact hlen⟩
  have hcall := hfilled.call (x.ioctl (s.proc.ops csrImcCtrs)) ha
  rw [hnum] at hcall
  obtain ⟨hsized, hb, -⟩ := csrBatchStorage_spec hs csrImcCtrs
  obtain ⟨-, hothers⟩ := doCsrBatchOp_keeps hs hcall
  let a' := a.answered (x.ioctl (s.proc.ops csrImcCtrs)).replies (4 * h.counterOps sockets)
  have hent' : ((csrBatchStorage s.proc.st csrImcCtrs).setEntry csrImcCtrs
      ⟨4 * h.counterOps sockets, some a'⟩).entry csrImcCtrs =
      ⟨4 * h.counterOps sockets, some a'⟩ := csrEntry_setEntry_self hb _
  refine ⟨{ s with
    proc := { s.proc with
      batchfd := s.proc.used
      st := (csrBatchStorage s.proc.st csrImcCtrs).setEntry csrImcCtrs
        ⟨4 * h.counterOps sockets, some a'⟩ }
    regs := x.registers (s.proc.ops csrImcCtrs) s.regs
    executed := s.executed + 1 }, ?_, ⟨⟨a', hent', ?_, hptrs, fun c i hc hi => ?_⟩, hr.fifth⟩, rfl,
    rfl, hr.registers_eq x s.regs, hsized.setEntry _, hothers _ (by decide), fun c i hc hi => ?_⟩
  · simp only [doImcCounters, hcall, Option.map_some]
    rfl
  · have hsame : a'.slots.length = a.slots.length := List.length_mapIdx
    rw [hsame]
    exact hlen
  · obtain ⟨op, hop, hreads, -⟩ := hr.answered hent x hc hi
    exact ⟨op, hop, hreads⟩
  · -- the pointer of the slot goes to the answered op
    obtain ⟨op, hop, -, hdata⟩ : ∃ op, a'.slots[c * h.counterOps sockets + i]? = some op ∧
        op.ReadsFrom _ ∧ op.csrdata = _ := hr.answered hent x hc hi
    have hptr : ptrAt (imcPtrs a.id (c * h.counterOps sockets) (h.counterOps sockets)
        (numCtrs * sockets)) i = some ⟨a.id, c * h.counterOps sockets + i⟩ := by
      rw [ptrAt, imcPtrs_getElem? hi]
      rfl
    have hid : a'.id = a.id := rfl
    simp only [ImcState.word, hptrs c hc, hptr, CsrBatchStorage.opAt, hent', hid, if_true, hop,
      hdata, Option.bind_eq_bind, Option.bind_some]

end Ctrs

/-! ## The states of a run -/

/-- Nothing was initialised, or both batches were loaded. -/
def MemInv (h : ImcHeader) (sockets : Nat) (s : ImcState) : Prop :=
  ImcUnset sockets s ∨ (10 * (numCtrs * sockets) < 2 ^ 31 ∧ (∃ data, ImcReady h sockets data s) ∧
    CtrsReady h sockets s)

section Runs

variable {h : ImcHeader} {sockets : Nat} {s s' : ImcState}

/-- `ImcReady` is a matter of the other batch and of the arrays. -/
theorem ImcReady.congr {data : Nat → Nat → Word} (hr : ImcReady h sockets data s)
    (hs : s'.proc.st.table.Sized)
    (hent : s'.proc.st.entry csrImcEvts = s.proc.st.entry csrImcEvts) (hpcd : s'.pcd = s.pcd)
    (hinit : s'.init = s.init) : ImcReady h sockets data s' := by
  obtain ⟨hinit₀, hevts, hfifth⟩ := hr
  exact ⟨hinit.trans hinit₀, ⟨hs, by rw [hent, hpcd]; exact hevts.array⟩,
    by rw [hpcd]; exact hfifth⟩

/-- A configuration leaves the other batches and the arrays. -/
theorem pmonConfig_keeps (hs : s.proc.st.table.Sized) {c : PmonConfig} {x : ImcExecution} {rc : Int}
    {texts : List ImcMessage} (hcall : pmonConfig sockets c x s = some (rc, texts, s')) :
    s'.proc.st.table.Sized ∧
      (∀ b, b ≠ csrImcEvts → s'.proc.st.entry b = s.proc.st.entry b) ∧ s'.pcd = s.pcd := by
  rw [pmonConfig] at hcall
  split at hcall
  · obtain ⟨-, -, rfl⟩ := by simpa using hcall
    exact ⟨hs, fun _ _ => rfl, rfl⟩
  · simp only [Option.bind_eq_bind, Option.bind_eq_some_iff] at hcall
    obtain ⟨⟨rc₀, texts₀, st⟩, hset, ⟨rc₁, texts₁, s₁⟩, hdo, hout⟩ := hcall
    obtain ⟨-, -, rfl⟩ := by simpa using hout
    obtain ⟨hs₀, hent₀⟩ := setPmonConfig_keeps hs hset
    simp only [doImcEvents] at hdo
    split at hdo
    · contradiction
    · next r p hexec =>
      obtain ⟨hs₁, hent₁⟩ := doCsrBatchOp_keeps (p := { s.proc with st := st }) hs₀ hexec
      obtain ⟨-, -, rfl⟩ := by simpa using hdo
      have hent : ∀ b, b ≠ csrImcEvts → p.st.entry b = s.proc.st.entry b := fun b hne =>
        (hent₁ b hne).trans (hent₀ b hne)
      split
      · exact ⟨hs₁, hent, rfl⟩
      · exact ⟨hs₁, hent, rfl⟩

/-- So does a list of them. -/
theorem pmonConfigs_keeps (hs : s.proc.st.table.Sized) {cs : List PmonConfig}
    {xs : Nat → ImcExecution} {rc : Int} {texts : List ImcMessage}
    (hcall : pmonConfigs sockets cs xs s = some (rc, texts, s')) :
    (∀ b, b ≠ csrImcEvts → s'.proc.st.entry b = s.proc.st.entry b) ∧ s'.pcd = s.pcd := by
  induction cs generalizing xs s rc texts with
  | nil =>
    obtain ⟨-, -, rfl⟩ := by simpa [pmonConfigs] using hcall
    exact ⟨fun _ _ => rfl, rfl⟩
  | cons c cs ih =>
    simp only [pmonConfigs, Option.bind_eq_bind, Option.bind_eq_some_iff] at hcall
    obtain ⟨⟨rc₁, texts₁, s₁⟩, hs₁, ⟨rc₂, texts₂, s₂⟩, hs₂, hout⟩ := hcall
    obtain ⟨-, -, rfl⟩ := by simpa using hout
    obtain ⟨hsized, hent₁, hpcd₁⟩ := pmonConfig_keeps hs hs₁
    obtain ⟨hent₂, hpcd₂⟩ := ih hsized hs₂
    exact ⟨fun b hne => (hent₂ b hne).trans (hent₁ b hne), hpcd₂.trans hpcd₁⟩

/-- Configurations keep the invariant. -/
theorem MemInv.configs (hI : MemInv h sockets s) (hapart : h.OffsetsApart) (hpos : 1 ≤ sockets)
    {cs : List PmonConfig} {xs : Nat → ImcExecution} {rc : Int} {texts : List ImcMessage}
    (hcall : pmonConfigs sockets cs xs s = some (rc, texts, s')) : MemInv h sockets s' := by
  rcases hI with hu | ⟨hfits, ⟨data, hr⟩, hctrs⟩
  · obtain ⟨rc', texts', s'', hs'', hu'', -⟩ := hu.configs hpos cs xs
    obtain ⟨-, -, rfl⟩ := by simpa using hs''.symm.trans hcall
    exact .inl hu''
  · obtain ⟨hent, hpcd⟩ := pmonConfigs_keeps hr.evts.sized hcall
    exact .inr ⟨hfits, (hr.configs hapart hpos hcall).ready,
      hctrs.congr (hent _ (by decide)) hpcd⟩

/-- A single one does. -/
theorem MemInv.config (hI : MemInv h sockets s) (hapart : h.OffsetsApart) (hpos : 1 ≤ sockets)
    {c : PmonConfig} {x : ImcExecution} {rc : Int} {texts : List ImcMessage}
    (hcall : pmonConfig sockets c x s = some (rc, texts, s')) : MemInv h sockets s' := by
  have hone : pmonConfigs sockets [c] (fun _ => x) s = some (intOr rc 0, texts ++ [], s') := by
    simp only [pmonConfigs, hcall, Option.bind_eq_bind, Option.bind_some]
  exact hI.configs hapart hpos hone

/-- The counters that are loaded, with their offsets. -/
theorem ctrLoads_getElem? (h : ImcHeader) {c : Nat} (hc : c < 4) :
    h.ctrLoads[c]? = some ⟨h.ctrOffset c, 1, 8, csrImcCtrs⟩ := by
  interval_cases c <;> rfl

/-- `init_pmon_ctrs` leaves the batch of the counters so. -/
theorem Blocked.ctrsReady (hb : Blocked h sockets s.proc.st csrImcCtrs h.ctrLoads s.pcd.ctr)
    (hfifth : s.pcd.ctr 4 = some (List.replicate (numCtrs * sockets) none)) :
    CtrsReady h sockets s := by
  obtain ⟨id, size, hfresh, hptrs⟩ := hb.fresh
  have hlen : ∀ l ∈ h.blocks sockets h.ctrLoads, l.length = h.counterOps sockets := by
    intro l hl
    obtain ⟨y, -, rfl⟩ := List.mem_map.mp hl
    exact List.length_map ..
  have hcount : (h.blocks sockets h.ctrLoads).flatten.length = 4 * h.counterOps sockets := by
    rw [List.length_flatten, List.map_congr_left hlen, List.map_const', List.sum_replicate]
    rfl
  refine ⟨⟨⟨id, _⟩, by rw [hfresh.entry, hcount], ?_, hptrs, fun c i hc hi => ?_⟩, hfifth⟩
  · rw [List.length_append, hcount]
    exact Nat.le_add_right _ _
  · have hop : (h.blocks sockets h.ctrLoads).flatten[c * h.counterOps sockets + i]? =
        some ((⟨h.ctrOffset c, 1, 8, csrImcCtrs⟩ : ImcLoad).op (h.printed i)) := by
      rw [Blocks.getElem?_flatten hlen hi, ImcHeader.blocks, List.getElem?_map,
        ctrLoads_getElem? h hc, Option.map_some, Option.bind_some, List.getElem?_map,
        places_getElem? h hi, Option.map_some]
    obtain ⟨hlt, -⟩ := List.getElem?_eq_some_iff.mp hop
    exact ⟨_, (List.getElem?_append_left hlt).trans hop, rfl, rfl⟩

/-- The call that initialises. -/
theorem MemInv.initPmonCtrs (hI : MemInv h sockets s) (hpos : 1 ≤ sockets) {rc : Int}
    (hcall : s.initPmonCtrs h sockets = some (rc, s')) :
    MemInv h sockets s' ∧ s'.init = true ∧ (s.init = false → 0 < rc) ∧
      (s.init = true → rc = -1 ∧ s' = s) := by
  rcases hI with hu | ⟨hfits, ⟨data, hr⟩, hctrs⟩
  · by_cases hfits : 10 * (numCtrs * sockets) < 2 ^ 31
    · have hctrs : (s.proc.st.entry csrImcCtrs).numops = 0 := by rw [hu.ctrs]; rfl
      have hevts : (s.proc.st.entry csrImcEvts).numops = 0 := by rw [hu.evts]; rfl
      obtain ⟨r, hr, hblocked, hblocked', hfifth, hfifth'⟩ :=
        initPmonCtrs_spec h hpos hfits hu.sized hctrs hevts
      have hrc : r.rc = 10 * (numCtrs * sockets : Nat) := by
        rw [initPmonCtrs_eq h s.proc.st hfits] at hr
        simp only [Option.bind_eq_bind, Option.bind_eq_some_iff] at hr
        obtain ⟨_, -, _, -, _, -, _, -, hr⟩ := hr
        split at hr
        · obtain rfl := Option.some.inj hr
          exact Int.natCast_mul ..
        · contradiction
      rw [ImcState.initPmonCtrs, hu.init, if_neg Bool.false_ne_true, hr] at hcall
      obtain ⟨rfl, rfl⟩ := by simpa using hcall
      refine ⟨.inr ⟨hfits, ⟨_, ⟨rfl, hblocked'.evtsReady, hfifth'⟩⟩, ?_⟩, rfl, fun _ => ?_,
        fun hinit => absurd (hu.init.symm.trans hinit) Bool.false_ne_true⟩
      · exact Blocked.ctrsReady (s := { s with
          pcd := r.pcd, init := true, proc := { s.proc with st := r.st } }) hblocked hfifth
      · have hcount : 0 < numCtrs * sockets := Nat.mul_pos (by decide) hpos
        omega
    · rw [ImcState.initPmonCtrs, hu.init, if_neg Bool.false_ne_true, Libmsr.initPmonCtrs,
        if_pos (Nat.not_lt.mp hfits)] at hcall
      contradiction
  · rw [ImcState.initPmonCtrs, if_pos hr.init] at hcall
    obtain ⟨rfl, rfl⟩ := by simpa using hcall
    exact ⟨.inr ⟨hfits, ⟨data, hr⟩, hctrs⟩, hr.init,
      fun hinit => absurd (hinit.symm.trans hr.init) Bool.false_ne_true, fun _ => ⟨rfl, rfl⟩⟩

/-! ## Readings -/

/-- Without ops nothing is read. -/
theorem ImcUnset.doImcCounters (hu : ImcUnset sockets s) (x : ImcExecution) :
    ∃ s', doImcCounters x s = some (-1, s') ∧ ImcUnset sockets s' ∧ s'.regs = s.regs ∧
      s'.pcd = s.pcd := by
  have hempty : (s.proc.st.entry csrImcCtrs).numops = 0 := by rw [hu.ctrs]; rfl
  obtain ⟨hs, -, hent, -⟩ := csrBatchStorage_spec hu.sized csrImcCtrs
  refine ⟨{ s with proc := { s.proc with
    batchfd := s.proc.used, st := csrBatchStorage s.proc.st csrImcCtrs } }, ?_,
    ⟨hu.init, hu.pcd, hs, (hent _).trans hu.ctrs, (hent _).trans hu.evts⟩, rfl, rfl⟩
  rw [Libmsr.doImcCounters, doCsrBatchOp_empty hu.sized _ hempty]
  rfl

/-- One reading of the batch. -/
theorem MemInv.reads (hI : MemInv h sockets s) (c : Nat) (x : ImcExecution) :
    ∃ rc s', readImcCounterBatch c x s = some (rc, s') ∧ MemInv h sockets s' ∧
      s'.init = s.init ∧ s'.regs = s.regs ∧
      (s.init = true → c ≤ 4 → ∀ k i, k < 4 → i < h.counterOps sockets →
        s'.word k i = some (x.read (k * h.counterOps sockets + i))) := by
  by_cases hc : c ≤ 4
  · rcases hI with hu | ⟨hfits, ⟨data, hr⟩, hctrs⟩
    · obtain ⟨s', hs', hu', hregs, -⟩ := hu.doImcCounters x
      refine ⟨-1, s', ?_, .inl hu', hu'.init.trans hu.init.symm, hregs,
        fun hinit => absurd (hu.init.symm.trans hinit) Bool.false_ne_true⟩
      rw [readImcCounterBatch, if_pos hc, hs']
    · obtain ⟨s', hs', hctrs', hpcd, hinit, hregs, hsized, hent, hwords⟩ :=
        hctrs.reads hr.evts.sized x
      refine ⟨0, s', ?_, .inr ⟨hfits, ⟨data, hr.congr hsized hent hpcd hinit⟩, hctrs'⟩, hinit,
        hregs, fun _ _ => hwords⟩
      rw [readImcCounterBatch, if_pos hc, hs']
  · refine ⟨-1, s, ?_, hI, rfl, rfl, fun _ hle => absurd hle hc⟩
    rw [readImcCounterBatch, if_neg hc]

/-- **The readings of a print.**  The values are those of the last one. -/
theorem MemInv.readCounters (hI : MemInv h sockets s) (cs : List Nat) (xs : Nat → ImcExecution) :
    ∃ s', readCounters cs xs s = some s' ∧ MemInv h sockets s' ∧ s'.init = s.init ∧
      s'.regs = s.regs ∧
      (s.init = true → cs ≠ [] → (∀ c ∈ cs, c ≤ 4) → ∀ k i, k < 4 → i < h.counterOps sockets →
        s'.word k i = some ((xs (cs.length - 1)).read (k * h.counterOps sockets + i))) := by
  induction cs generalizing xs s with
  | nil => exact ⟨s, rfl, hI, rfl, rfl, fun _ hne => absurd rfl hne⟩
  | cons c cs ih =>
    obtain ⟨rc, s₁, hs₁, hI₁, hinit₁, hregs₁, hwords₁⟩ := hI.reads c (xs 0)
    obtain ⟨s', hs', hI', hinit', hregs', hwords'⟩ := ih hI₁ fun j => xs (j + 1)
    refine ⟨s', ?_, hI', hinit'.trans hinit₁, hregs'.trans hregs₁, fun hinit _ hle => ?_⟩
    · simp only [Libmsr.readCounters, hs₁, hs', Option.bind_eq_bind, Option.bind_some]
    · rw [List.forall_mem_cons] at hle
      cases cs with
      | nil =>
        obtain rfl := Option.some.inj hs'
        exact hwords₁ hinit hle.1
      | cons c' cs => exact hwords' (hinit₁.trans hinit) (List.cons_ne_nil _ _) hle.2

/-! ## NULL -/

theorem ptrAt_replicate_none (n i : Nat) :
    ptrAt (List.replicate n (none : Option Ptr)) i = none := by
  rw [ptrAt, List.getElem?_replicate]
  split <;> rfl

/-- Before `init_pmon_ctrs` the arrays of all counters are empty; so is that of the fifth
    after it, and there are no others. -/
theorem MemInv.word_null (hI : MemInv h sockets s) {c : Nat} (hc : s.init = false ∨ 3 < c)
    (i : Nat) : s.word c i = none := by
  by_cases hfive : 5 ≤ c
  · obtain ⟨k, rfl⟩ : ∃ k, c = k + 5 := ⟨c - 5, by omega⟩
    rfl
  · have hctr : s.pcd.ctr c = some (List.replicate (numCtrs * sockets) none) := by
      rcases hI with hu | ⟨-, ⟨data, hr⟩, hctrs⟩
      · rw [hu.pcd]
        have hc' : c < 5 := by omega
        interval_cases c <;> rfl
      · have hc' : c = 4 := by
          rcases hc with hinit | hc
          · exact absurd (hinit.symm.trans hr.init) Bool.false_ne_true
          · omega
        rw [hc']
        exact hctrs.fifth
    simp only [ImcState.word, hctr, ptrAt_replicate_none, Option.bind_eq_bind, Option.bind_some,
      Option.bind_none]

/-- With more than two sockets the arrays end before the loops do. -/
theorem CtrsReady.word_null (hr : CtrsReady h sockets s) (hthree : 3 ≤ sockets) {c : Nat}
    (hc : c < 4) : s.word c 16 = none := by
  obtain ⟨a, -, -, hptrs, -⟩ := hr.array
  have hlen : h.counterOps sockets = 16 := by
    rw [ImcHeader.counterOps, places_length h (by omega), Nat.min_eq_right (by omega)]
  have hcount : numCtrs * sockets = 8 * sockets := rfl
  have hnull : ptrAt (imcPtrs a.id (c * h.counterOps sockets) (h.counterOps sockets)
      (numCtrs * sockets)) 16 = none := by
    rw [ptrAt, imcPtrs_unset (by omega) (by omega)]
    rfl
  simp only [ImcState.word, hptrs c hc, hnull, Option.bind_eq_bind, Option.bind_some,
    Option.bind_none]

/-! ## The prints -/

/-- A line of which a value is missing. -/
theorem MemPrint.line_none {f : MemPrint} {c i : Nat} (hc : c ∈ f.counters)
    (hword : s.word c i = none) : f.line h s i = none := by
  have hwords : f.counters.mapM (fun c => s.word c i) = none := Loops.mapM_none hc hword
  simp only [MemPrint.line, hwords, Option.bind_eq_bind, Option.bind_none]

/-- With such a line there is no print. -/
theorem MemPrint.call_none {f : MemPrint} {xs : Nat → ImcExecution} (hI : MemInv h sockets s)
    {c i : Nat} (hc : c ∈ f.counters) (hi : i < numCtrs * sockets)
    (hword : ∀ s', MemInv h sockets s' → s'.init = s.init → s'.word c i = none) :
    f.call h sockets xs s = none := by
  obtain ⟨s', hs', hI', hinit, -⟩ := hI.readCounters f.counters xs
  have hlines : (List.range (numCtrs * sockets)).mapM (f.line h s') = none :=
    Loops.mapM_none (List.mem_range.mpr hi) (MemPrint.line_none hc (hword s' hI' hinit))
  simp only [MemPrint.call, hs', hlines, Option.bind_eq_bind, Option.bind_some, Option.bind_none]

/-- The driver reads the ops' registers, which hold `now`. -/
def ImcExecution.Reads (x : ImcExecution) (ops : List CsrBatchOp) (now : CsrRegister → Word) :
    Prop :=
  ∀ i op, ops[i]? = some op → x.read i = now op.register

/-- The values of the function's counters on a channel. -/
def MemPrint.words (f : MemPrint) (h : ImcHeader) (now : CsrRegister → Word) (place : ImcPlace) :
    Nat → Word :=
  fun j => (f.counters.map fun c => now (h.ctrRegister c place)).getD j 0

/-- **A print** of the first four counters, with at most two sockets. -/
theorem MemPrint.call_spec {f : MemPrint} (xs : Nat → ImcExecution) (hI : MemInv h sockets s)
    (hpos : 1 ≤ sockets) (hinit : s.init = true) (htwo : sockets ≤ 2)
    (hne : f.counters ≠ []) (hc : ∀ c ∈ f.counters, c ≤ 3) :
    ∃ lines s', f.call h sockets xs s = some (lines, s') ∧ s'.regs = s.regs ∧
      lines.map Prod.fst = h.places sockets ∧
      ∀ now, (xs (f.counters.length - 1)).Reads (s.proc.ops csrImcCtrs) now →
        lines = (h.places sockets).map fun place => (place, f.value (f.words h now place)) := by
  have hlen : h.counterOps sockets = numCtrs * sockets := by
    rw [ImcHeader.counterOps, places_length h hpos, Nat.min_eq_left htwo]
    rfl
  obtain ⟨s', hs', -, -, hregs, hwords⟩ := hI.readCounters f.counters xs
  have hword := hwords hinit hne fun c hc' => (hc c hc').trans (by decide)
  let read := fun c i => (xs (f.counters.length - 1)).read (c * h.counterOps sockets + i)
  have hline : ∀ i, i < numCtrs * sockets → f.line h s' i =
      some (h.printed i, f.value fun j => (f.counters.map fun c => read c i).getD j 0) := by
    intro i hi
    have hmap : f.counters.mapM (fun c => s'.word c i) = some (f.counters.map fun c => read c i) :=
      Loops.mapM_some fun c hc' => hword c i (Nat.lt_succ_of_le (hc c hc')) (hlen ▸ hi)
    simp only [MemPrint.line, hmap, Option.bind_eq_bind, Option.bind_some]
  have hcall : f.call h sockets xs s = some ((List.range (numCtrs * sockets)).map fun i =>
      (h.printed i, f.value fun j => (f.counters.map fun c => read c i).getD j 0), s') := by
    have hlines : (List.range (numCtrs * sockets)).mapM (f.line h s') = _ :=
      Loops.mapM_some fun i hi => hline i (List.mem_range.mp hi)
    simp only [MemPrint.call, hs', hlines, Option.bind_eq_bind, Option.bind_some]
  have hplaces : (List.range (numCtrs * sockets)).map h.printed = h.places sockets := by
    apply List.ext_getElem?
    intro i
    rw [List.getElem?_map]
    by_cases hi : i < numCtrs * sockets
    · rw [List.getElem?_range hi, places_getElem? h (hi.trans_eq hlen.symm)]
      rfl
    · rw [List.getElem?_eq_none (by rw [List.length_range]; exact Nat.not_lt.mp hi),
        List.getElem?_eq_none (hlen.trans_le (Nat.not_lt.mp hi))]
      rfl
  refine ⟨_, s', hcall, hregs, ?_, fun now hnow => ?_⟩
  · rw [List.map_map]
    exact hplaces
  -- the ops were loaded by `init_pmon_ctrs`
  obtain ⟨-, -, hctrs⟩ := hI.resolve_left fun hu =>
    absurd (hu.init.symm.trans hinit) Bool.false_ne_true
  rw [← hplaces, List.map_map]
  refine List.map_congr_left fun i hi => ?_
  have hlt := (List.mem_range.mp hi).trans_eq hlen.symm
  have hread : (f.counters.map fun c => read c i) =
      f.counters.map fun c => now (h.ctrRegister c (h.printed i)) := by
    refine List.map_congr_left fun c hc' => ?_
    obtain ⟨op, hop, hreads⟩ := hctrs.ops (Nat.lt_succ_of_le (hc c hc')) hlt
    rw [← hreads.register]
    exact hnow _ op hop
  rw [hread]
  rfl

/-- **print_pmon_ctrs**, the call that initialises: it prints nothing. -/
theorem MemInv.printPmonCtrs_first (hI : MemInv h sockets s) (hpos : 1 ≤ sockets)
    (hinit : s.init = false) {rc : Int} (hcall : s.initPmonCtrs h sockets = some (rc, s'))
    (x : ImcExecution) : printPmonCtrs h sockets x s = some ⟨[], some (-1, s')⟩ := by
  obtain ⟨-, -, hfirst, -⟩ := hI.initPmonCtrs hpos hcall
  simp only [printPmonCtrs, hcall, Option.bind_eq_bind, Option.bind_some, if_pos (hfirst hinit)]

/-- A later call prints the place and the four counters of slot 0, and ends at the NULL
    pointer of the fifth. -/
theorem MemInv.printPmonCtrs_later (hI : MemInv h sockets s) (hpos : 1 ≤ sockets)
    (hinit : s.init = true) (x : ImcExecution) :
    printPmonCtrs h sockets x s = some ⟨.place (h.printed 0) ::
      (List.range 4).map (fun c => .ctr c (x.read (c * h.counterOps sockets))), none⟩ := by
  obtain ⟨rc, s', hs', hI', hinit', -, hwords⟩ := hI.reads 0 x
  rw [readImcCounterBatch, if_pos (by decide)] at hs'
  have hword : ∀ c, c < 4 → s'.word c 0 = some (x.read (c * h.counterOps sockets)) := fun c hc => by
    have hslot := hwords hinit (Nat.zero_le 4) c 0 hc (counterOps_pos h sockets)
    rwa [Nat.add_zero] at hslot
  have hnull : s'.word 4 0 = none := hI'.word_null (.inr (by decide)) 0
  -- the lines of slot 0 come first, and the last of them is missing
  obtain ⟨n, hn⟩ : ∃ n, numCtrs * sockets = n + 1 :=
    ⟨numCtrs * sockets - 1, by have := Nat.mul_pos (show 0 < numCtrs by decide) hpos; omega⟩
  have hslot : s'.pmonLines h 0 = some (.place (h.printed 0)) ::
      ((List.range 4).map (fun c => some (PmonLine.ctr c (x.read (c * h.counterOps sockets)))) ++
        [none]) := by
    simp only [ImcState.pmonLines, List.range_succ, List.map_append, List.map_cons, List.map_nil,
      List.range_zero, List.nil_append, hnull, hword 0 (by decide), hword 1 (by decide),
      hword 2 (by decide), hword 3 (by decide), Option.map_some, Option.map_none]
  have hlines : (List.range (numCtrs * sockets)).flatMap (s'.pmonLines h) =
      s'.pmonLines h 0 ++ ((List.range n).map Nat.succ).flatMap (s'.pmonLines h) := by
    rw [hn, List.range_succ_eq_map, List.flatMap_cons]
  simp only [printPmonCtrs, ImcState.initPmonCtrs, if_pos hinit, hs', hlines, hslot,
    Option.bind_eq_bind, Option.bind_some, if_neg (show ¬ (-1 : Int) > 0 by decide)]
  rfl

/-- `mem_bw_on_ctr` refuses, or makes one configuration. -/
theorem MemInv.memBwOnCtr (hI : MemInv h sockets s) (hapart : h.OffsetsApart) (hpos : 1 ≤ sockets)
    {counter : Nat} {type : Int} {x : ImcExecution} {rc : Int} {texts : List MemBwMessage}
    (hcall : Libmsr.memBwOnCtr sockets counter type x s = some (rc, texts, s')) :
    MemInv h sockets s' := by
  rw [Libmsr.memBwOnCtr] at hcall
  split at hcall
  · obtain ⟨-, -, rfl⟩ := by simpa using hcall
    exact hI
  · split at hcall
    · obtain ⟨-, -, rfl⟩ := by simpa using hcall
      exact hI
    · obtain ⟨⟨rc', texts', s₂⟩, hs₂, hout⟩ := Option.map_eq_some_iff.mp hcall
      obtain ⟨-, -, rfl⟩ := by simpa using hout
      exact hI.config hapart hpos hs₂

/-- A `print_pmon_ctrs` that comes back has initialised. -/
theorem MemInv.printPmonCtrs_ended (hI : MemInv h sockets s) (hpos : 1 ≤ sockets) {x : ImcExecution}
    {r : PmonPrint} {rc : Int} (hcall : printPmonCtrs h sockets x s = some r)
    (hended : r.ended = some (rc, s')) : MemInv h sockets s' := by
  cases hinit : s.init with
  | false =>
    obtain ⟨⟨rc₁, s₁⟩, hs₁, -⟩ := Option.bind_eq_some_iff.mp hcall
    rw [hI.printPmonCtrs_first hpos hinit hs₁] at hcall
    obtain rfl := Option.some.inj hcall
    obtain ⟨-, rfl⟩ := Prod.mk.inj (Option.some.inj hended)
    exact (hI.initPmonCtrs hpos hs₁).1
  | true =>
    rw [hI.printPmonCtrs_later hpos hinit] at hcall
    obtain rfl := Option.some.inj hcall
    contradiction

/-- **Step lemma.** -/
theorem MemInv.step (hI : MemInv h sockets s) (hapart : h.OffsetsApart) (hpos : 1 ≤ sockets)
    {call : ImcCtrCall} (hcall : imcCtrStep h sockets s call = some s') : MemInv h sockets s' := by
  cases call with
  | imc c =>
    cases c with
    | initPmonCtrs =>
      have hinit : imcStep h sockets s .initPmonCtrs = (s.initPmonCtrs h sockets).map Prod.snd := by
        rw [imcStep, ImcState.initPmonCtrs]
        split
        · rfl
        · rw [Option.map_map]
          rfl
      rw [imcCtrStep, hinit] at hcall
      obtain ⟨⟨rc, s₁⟩, hs₁, rfl⟩ := Option.map_eq_some_iff.mp hcall
      exact (hI.initPmonCtrs hpos hs₁).1
    | config c x =>
      obtain ⟨⟨rc, texts, s₁⟩, hs₁, rfl⟩ := Option.map_eq_some_iff.mp hcall
      exact hI.config hapart hpos hs₁
    | mem call xs =>
      obtain ⟨⟨rc, texts, s₁⟩, hs₁, rfl⟩ := Option.map_eq_some_iff.mp hcall
      rcases EventFunction.call_cases hs₁ with ⟨-, -, rfl⟩ | ⟨-, texts', hconfigs⟩
      · exact hI
      · exact hI.configs hapart hpos hconfigs
  | bw counter type x =>
    obtain ⟨⟨rc, texts, s₁⟩, hs₁, rfl⟩ := Option.map_eq_some_iff.mp hcall
    exact hI.memBwOnCtr hapart hpos hs₁
  | read counter x =>
    obtain ⟨rc, s₁, hs₁, hI₁, -⟩ := hI.reads counter x
    rw [imcCtrStep, hs₁] at hcall
    obtain rfl := Option.some.inj hcall
    exact hI₁
  | print c xs =>
    obtain ⟨⟨lines, s₁⟩, hs₁, rfl⟩ := Option.map_eq_some_iff.mp hcall
    obtain ⟨s₂, hs₂, hI₂, -⟩ := hI.readCounters c.function.counters xs
    simp only [MemPrint.call, hs₂, Option.bind_eq_bind, Option.bind_some,
      Option.bind_eq_some_iff] at hs₁
    obtain ⟨_, -, hout⟩ := hs₁
    obtain ⟨-, rfl⟩ := Prod.mk.inj (Option.some.inj hout)
    exact hI₂
  | printPmonCtrs x =>
    obtain ⟨r, hr, hended⟩ := Option.bind_eq_some_iff.mp hcall
    obtain ⟨⟨rc, s₁⟩, hend, rfl⟩ := Option.map_eq_some_iff.mp hended
    exact hI.printPmonCtrs_ended hpos hr hend

/-- **Run lemma.** -/
theorem MemReachable.inv (hreach : MemReachable h sockets s) (hapart : h.OffsetsApart)
    (hpos : 1 ≤ sockets) : MemInv h sockets s := by
  obtain ⟨p, regs, calls, hrun⟩ := hreach
  exact Runs.run_inv (fun _ _ _ hI hstep => MemInv.step hI hapart hpos hstep)
    (Or.inl (start_unset sockets p regs)) hrun

theorem PrintCall.counters_ne_nil (c : PrintCall) : c.function.counters ≠ [] := by
  cases c <;> exact List.cons_ne_nil _ _

/-- When a print returns. -/
theorem MemInv.call_returns_iff (hI : MemInv h sockets s) (hpos : 1 ≤ sockets) (f : MemPrint)
    (hne : f.counters ≠ []) (xs : Nat → ImcExecution) :
    (∃ out, f.call h sockets xs s = some out) ↔
      s.init = true ∧ (∀ c ∈ f.counters, c ≤ 3) ∧ sockets ≤ 2 := by
  have hcount : numCtrs * sockets = 8 * sockets := rfl
  constructor
  · rintro ⟨out, hout⟩
    by_contra hnot
    have hnone : f.call h sockets xs s = none := by
      by_cases hinit : s.init = true
      · by_cases hc : ∀ c ∈ f.counters, c ≤ 3
        · -- line 16 of a third socket
          have hthree : 3 ≤ sockets := by
            by_contra hlt
            exact hnot ⟨hinit, hc, by omega⟩
          obtain ⟨c, hmem⟩ := List.exists_mem_of_ne_nil _ hne
          refine MemPrint.call_none hI hmem (i := 16) (by omega) fun s' hI' hinit' => ?_
          obtain ⟨-, -, hctrs⟩ := hI'.resolve_left fun hu =>
            absurd (hu.init.symm.trans (hinit'.trans hinit)) Bool.false_ne_true
          exact hctrs.word_null hthree (Nat.lt_succ_of_le (hc c hmem))
        · obtain ⟨c, hmem, hlt⟩ : ∃ c ∈ f.counters, 3 < c := by
            simpa only [not_forall, exists_prop, Nat.not_le] using hc
          exact MemPrint.call_none hI hmem (i := 0) (by omega) fun s' hI' _ =>
            hI'.word_null (.inr hlt) 0
      · obtain ⟨c, hmem⟩ := List.exists_mem_of_ne_nil _ hne
        have hunset : s.init = false := Bool.eq_false_iff.mpr hinit
        exact MemPrint.call_none hI hmem (i := 0) (by omega) fun s' hI' hinit' =>
          hI'.word_null (.inl (hinit'.trans hunset)) 0
    rw [hnone] at hout
    contradiction
  · rintro ⟨hinit, hc, htwo⟩
    obtain ⟨lines, s', hcall, -⟩ := MemPrint.call_spec xs hI hpos hinit htwo hne hc
    exact ⟨_, hcall⟩

end Runs

/-- A print names every channel of the sockets, and none twice. -/
def EachChannel (h : ImcHeader) (sockets : Nat) (places : List ImcPlace) : Prop :=
  places.Nodup ∧ ∀ socket, socket < sockets →
    ∀ place ∈ h.channels (BitVec.ofNat 8 socket), place ∈ places

/-- The loads go to each channel if the header has one device for each controller. -/
theorem eachChannel_iff {h : ImcHeader} (hh : h ∈ imcHeaders) {sockets : Nat} (hpos : 1 ≤ sockets)
    (htwo : sockets ≤ 2) : EachChannel h sockets (h.places sockets) ↔ h.OneDevice := by
  constructor
  · rintro ⟨-, hall⟩
    by_contra hnot
    obtain ⟨place, hplace, hout⟩ := channel_not_loaded hh hnot sockets
    exact hout (hall 0 hpos place hplace)
  · intro hone
    have hapart : ∀ h ∈ imcHeaders, h.OneDevice → h.Apart := by decide
    refine ⟨?_, ?_⟩
    · rw [List.nodup_iff_getElem?_ne_getElem?]
      intro i j hij hj heq
      have hlen : (h.places sockets).length ≤ 16 := by
        rw [places_length h hpos]
        omega
      rw [places_getElem? h (hij.trans hj), places_getElem? h hj] at heq
      exact hij.ne (printed_injective (hapart h hh hone) ((hij.trans hj).trans_le hlen)
        (hj.trans_le hlen) (Option.some.inj heq))
    · simp only [hone.channels_eq]
      exact (socketPlaces_forall hpos htwo _).mpr fun _ hplace => hplace

/-- What `print_pmon_ctrs` does.  The call that initialises prints nothing and returns -1,
    where `init_pmon_ctrs` can return.  A later one prints slot 0 with its first four
    counters, and ends at the NULL pointer of the fifth. -/
structure PrintsPmon (h : ImcHeader) (sockets : Nat) (x : ImcExecution) (s : ImcState) : Prop where
  first : s.init = false → 10 * (numCtrs * sockets) < 2 ^ 31 →
    ∃ rc s', s.initPmonCtrs h sockets = some (rc, s') ∧ s'.init = true ∧
      printPmonCtrs h sockets x s = some ⟨[], some (-1, s')⟩
  stuck : s.init = false → 2 ^ 31 ≤ 10 * (numCtrs * sockets) → printPmonCtrs h sockets x s = none
  later : s.init = true → ∃ v : Nat → Word,
    printPmonCtrs h sockets x s =
      some ⟨.place (h.printed 0) :: (List.range 4).map (fun c => .ctr c (v c)), none⟩ ∧
    ∀ now, x.Reads (s.proc.ops csrImcCtrs) now →
      ∀ c, c < 4 → v c = now (h.ctrRegister c (h.printed 0))

theorem MemInv.printsPmon {h : ImcHeader} {sockets : Nat} {s : ImcState}
    (hI : MemInv h sockets s) (hpos : 1 ≤ sockets) (x : ImcExecution) :
    PrintsPmon h sockets x s := by
  refine ⟨fun hinit hfits => ?_, fun hinit hbig => ?_, fun hinit => ?_⟩
  · have hu := hI.resolve_right fun hr => by
      obtain ⟨-, ⟨data, hr⟩, -⟩ := hr
      exact absurd (hinit.symm.trans hr.init) Bool.false_ne_true
    have hctrs : (s.proc.st.entry csrImcCtrs).numops = 0 := by rw [hu.ctrs]; rfl
    have hevts : (s.proc.st.entry csrImcEvts).numops = 0 := by rw [hu.evts]; rfl
    obtain ⟨r, hr, -⟩ := initPmonCtrs_spec h hpos hfits hu.sized hctrs hevts
    obtain ⟨⟨rc, s'⟩, hs'⟩ : ∃ out, s.initPmonCtrs h sockets = some out := by
      rw [ImcState.initPmonCtrs, hinit, if_neg Bool.false_ne_true, hr]
      exact ⟨_, rfl⟩
    exact ⟨rc, s', hs', (hI.initPmonCtrs hpos hs').2.1, hI.printPmonCtrs_first hpos hinit hs' x⟩
  · have hnone : s.initPmonCtrs h sockets = none := by
      rw [ImcState.initPmonCtrs, hinit, if_neg Bool.false_ne_true, Libmsr.initPmonCtrs, if_pos hbig]
      rfl
    simp only [printPmonCtrs, hnone, Option.bind_eq_bind, Option.bind_none]
  · refine ⟨_, hI.printPmonCtrs_later hpos hinit x, fun now hnow c hc => ?_⟩
    obtain ⟨-, -, hctrs⟩ := hI.resolve_left fun hu =>
      absurd (hu.init.symm.trans hinit) Bool.false_ne_true
    obtain ⟨op, hop, hreads⟩ := hctrs.ops hc (counterOps_pos h sockets)
    rw [← hreads.register]
    exact hnow _ op hop

/-- **The prints**, in every state that calls can lead to.  A print returns exactly after
    `init_pmon_ctrs`, for the first four counters, with at most two sockets.  It prints the
    places that the loads go to, with the values their registers have at the last of the
    readings, and changes no register; these are the channels of the sockets exactly if
    the header has one device for each controller. -/
theorem memPrints_channels {h : ImcHeader} (hh : h ∈ imcHeaders) {sockets : Nat}
    (hpos : 1 ≤ sockets) {s : ImcState} (hreach : MemReachable h sockets s) :
    (∀ (c : PrintCall) (xs : Nat → ImcExecution),
      ((∃ out, c.function.call h sockets xs s = some out) ↔
        s.init = true ∧ (∀ k ∈ c.function.counters, k ≤ 3) ∧ sockets ≤ 2) ∧
      ∀ lines s', c.function.call h sockets xs s = some (lines, s') → s'.regs = s.regs ∧
        lines.map Prod.fst = h.places sockets ∧
        (EachChannel h sockets (lines.map Prod.fst) ↔ h.OneDevice) ∧
        ∀ now, (xs (c.function.counters.length - 1)).Reads (s.proc.ops csrImcCtrs) now →
          lines = (h.places sockets).map fun place =>
            (place, c.function.value (c.function.words h now place))) ∧
    ∀ x, PrintsPmon h sockets x s := by
  have hI := hreach.inv (imcHeaders_offsetsApart hh) hpos
  refine ⟨fun c xs => ?_, fun x => hI.printsPmon hpos x⟩
  have hiff := hI.call_returns_iff hpos c.function c.counters_ne_nil xs
  refine ⟨hiff, fun lines s' hcall => ?_⟩
  obtain ⟨hinit, hc, htwo⟩ := hiff.mp ⟨_, hcall⟩
  obtain ⟨lines', s'', hcall', hregs, hplaces, hlines⟩ :=
    MemPrint.call_spec xs hI hpos hinit htwo c.counters_ne_nil hc
  obtain ⟨rfl, rfl⟩ := Prod.mk.inj (Option.some.inj (hcall.symm.trans hcall'))
  exact ⟨hregs, hplaces, hplaces ▸ eachChannel_iff hh hpos htwo, hlines⟩

/-- A driver that reads 7 everywhere. -/
def sevenRead : Nat → ImcExecution := fun _ => ⟨0, fun _ => 0, fun _ => 7, fun _ => true⟩

/-- The bandwidth of the 16 channels of two sockets. -/
theorem intel3E_memBw : ∃ s lines s', Runs.run (imcCtrStep intel3E 2) (.start 2 .start fun _ => 0)
      [.imc .initPmonCtrs] = some s ∧
    (printMemBwFromCtr 0).call intel3E 2 sevenRead s = some (lines, s') ∧
    lines = (intel3E.places 2).map fun place => (place, .bytes (7 * 64)) := by
  obtain ⟨s, hs, hr, -⟩ := ImcUnset.initialize (h := intel3E)
    (start_unset 2 .start fun _ => 0) (by decide) (by decide)
  have hrun : Runs.run (imcCtrStep intel3E 2) (.start 2 .start fun _ => 0) [.imc .initPmonCtrs] =
      some s := by
    rw [Runs.run_cons, imcCtrStep, hs]
    rfl
  obtain ⟨hiff, hlines⟩ := (memPrints_channels (h := intel3E) (by decide) (by decide)
    ⟨.start, fun _ => 0, [.imc .initPmonCtrs], hrun⟩).1 (.bw 0) sevenRead
  obtain ⟨⟨lines, s'⟩, hcall⟩ := hiff.mpr ⟨hr.init, by decide, by decide⟩
  refine ⟨s, lines, s', hrun, hcall, ?_⟩
  exact (hlines lines s' hcall).2.2.2 (fun _ => 7) fun _ _ _ => rfl

end Libmsr
