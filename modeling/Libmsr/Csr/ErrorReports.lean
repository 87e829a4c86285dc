/-
  Libmsr.Csr.ErrorReports

  What `do_csr_batch_op` (src/csr_core.c) tells its caller about a failed ioctl: its
  return code, and the lines it prints for the ops with an error.

  The return code is 0 whatever the ioctl returned.  The loop over the ops has the
  condition `op < op + numops`, which is never false; a counter ends it, and is
  compared before the op of the round is looked at, so the last op never is.
  `doCsrBatchOp_tells_iff`: the caller is told right exactly when the ioctl succeeds.
-/
import Libmsr.Csr.CsrDeviceRuns
import Libmsr.Lib.Loops

namespace Libmsr

/-- What is printed for an op: `CSR %x, b%dd%df%ds%d, ERR %d`. -/
structure CsrErrorLine where
  offset : BitVec 16
  bus : BitVec 8
  device : BitVec 8
  function : BitVec 8
  socket : BitVec 8
  err : BitVec 32
  deriving Repr, DecidableEq

def CsrBatchOp.errorLine (op : CsrBatchOp) : CsrErrorLine :=
  ⟨op.offset, op.bus, op.device, op.function, op.socket, op.err⟩

/-- The variables of the loop, the slots it has looked at so far, and what it has
    printed, each line with the slot it is about. -/
structure CsrReporting where
  op : Nat
  i : Nat
  examined : List Nat
  lines : List (Nat × CsrErrorLine)
  deriving Repr, DecidableEq

def CsrReporting.start : CsrReporting := ⟨0, 0, [], []⟩

/-- A round of `for (op = batch->ops; op < op + batch->numops; op++)`.  `none` for a slot
    behind the array, and when the `int` counter overflows. -/
def reportRound (numops : Nat) (slots : List CsrBatchOp) (s : CsrReporting) :
    Option (Loops.Round CsrReporting Unit) :=
  if s.op < s.op + numops then
    if s.i + 1 < 2 ^ 31 then
      let i := s.i + 1
      if i ≥ numops then some (.done () { s with i := i })
      else
        match slots[s.op]? with
        | none => none
        | some op => some (.again {
            op := s.op + 1
            i := i
            examined := s.examined ++ [s.op]
            lines := if op.err ≠ 0 then s.lines ++ [(s.op, op.errorLine)] else s.lines })
    else none
  else some (.done () s)

/-- What a call of `do_csr_batch_op` did, with the loop. -/
structure CsrReport where
  result : CsrResult
  examined : List Nat
  lines : List (Nat × CsrErrorLine)
  deriving Repr, DecidableEq

/-- `do_csr_batch_op` with at most `fuel` rounds of its loop. -/
def doCsrBatchOpReports (p : CsrProcess) (batchnum : Nat) (out : CsrIoctl) (fuel : Nat) :
    Option (CsrReport × CsrProcess) :=
  match doCsrBatchOp p batchnum out with
  | none => none
  | some (r, p) =>
    let e := p.st.entry batchnum
    if r.messages = [.ioctlFailed] then
      (Loops.rounds (reportRound e.numops (e.ops.elim [] CsrOpArray.slots)) fuel .start).map
        fun s => (⟨r, s.2.examined, s.2.lines⟩, p)
    else some (⟨r, [], []⟩, p)

/-! ## What the caller should be told -/

/-- Every op with an error is reported once, with its fields, and no slot outside the
    batch is looked at. -/
structure ErrorsReported (ops : List CsrBatchOp) (r : CsrReport) : Prop where
  once : ∀ i op, ops[i]? = some op → op.err ≠ 0 → (r.lines.map Prod.fst).count i = 1
  fields : ∀ x ∈ r.lines, ∃ op, ops[x.1]? = some op ∧ x.2 = op.errorLine
  inside : ∀ i ∈ r.examined, i < ops.length

/-- The ops of batch `b`. -/
def CsrProcess.ops (p : CsrProcess) (b : Nat) : List CsrBatchOp :=
  ((p.st.entry b).ops.elim [] CsrOpArray.slots).take (p.st.entry b).numops

/-- The call returns, and reports the errors of a failed ioctl. -/
def ReportsErrors (p : CsrProcess) (b : Nat) (out : CsrIoctl) : Prop :=
  ∃ r p', (∀ fuel, (p.st.entry b).numops < fuel → doCsrBatchOpReports p b out fuel = some (r, p')) ∧
    (out.res < 0 → ErrorsReported (p'.ops b) r)

/-- It also returns 0 exactly when the ioctl succeeded. -/
def TellsOutcome (p : CsrProcess) (b : Nat) (out : CsrIoctl) : Prop :=
  ∃ r p', (∀ fuel, (p.st.entry b).numops < fuel → doCsrBatchOpReports p b out fuel = some (r, p')) ∧
    (r.result.rc = 0 ↔ 0 ≤ out.res) ∧ (out.res < 0 → ErrorsReported (p'.ops b) r)

/-- Batch `b` has ops, and an array with room for them. -/
structure CsrBatchFilled (p : CsrProcess) (b : Nat) : Prop where
  sized : p.st.table.Sized
  pos : 1 ≤ (p.st.entry b).numops
  array : ∃ a, (p.st.entry b).ops = some a ∧ (p.st.entry b).numops ≤ a.slots.length

/-- As every batch that was filled through the functions has. -/
theorem CsrInv.filled {p : CsrProcess} (hI : CsrInv p.st) {b : Nat}
    (hused : (p.st.entry b).numops ≠ 0) : CsrBatchFilled p b := by
  refine ⟨hI.sized, Nat.one_le_iff_ne_zero.mpr hused, ?_⟩
  cases hops : (p.st.entry b).ops with
  | none => exact absurd (hI.unallocated b hops).1 hused
  | some a => exact ⟨a, rfl, (hI.allocated b a hops).2.1⟩

/-! ## The loop -/

section Loop

variable {n : Nat} {slots : List CsrBatchOp}

/-- The lines for the ops below `k` that have an error. -/
def linesBelow (slots : List CsrBatchOp) (k : Nat) : List (Nat × CsrErrorLine) :=
  (List.range k).filterMap fun i =>
    (slots[i]?).bind fun op => if op.err ≠ 0 then some (i, op.errorLine) else none

theorem linesBelow_succ {k : Nat} {op : CsrBatchOp} (hop : slots[k]? = some op) :
    linesBelow slots (k + 1) =
      if op.err ≠ 0 then linesBelow slots k ++ [(k, op.errorLine)] else linesBelow slots k := by
  rw [linesBelow, List.range_succ, List.filterMap_append, List.filterMap_cons, hop,
    Option.bind_some]
  by_cases herr : op.err ≠ 0
  · rw [if_pos herr, if_pos herr]
    rfl
  · rw [if_neg herr, if_neg herr, List.filterMap_nil, List.append_nil]
    rfl

theorem mem_linesBelow {k : Nat} {x : Nat × CsrErrorLine} :
    x ∈ linesBelow slots k ↔
      ∃ op, x.1 < k ∧ slots[x.1]? = some op ∧ op.err ≠ 0 ∧ x.2 = op.errorLine := by
  rw [linesBelow, List.mem_filterMap]
  constructor
  · rintro ⟨i, hi, hx⟩
    obtain ⟨op, hop, hx⟩ := Option.bind_eq_some_iff.mp hx
    obtain ⟨herr, hx⟩ := Option.ite_none_right_eq_some.mp hx
    obtain rfl := Option.some.inj hx
    exact ⟨op, List.mem_range.mp hi, hop, herr, rfl⟩
  · rintro ⟨op, hi, hop, herr, hx⟩
    refine ⟨x.1, List.mem_range.mpr hi, ?_⟩
    rw [hop, Option.bind_some, if_pos herr, ← hx]

/-- No slot has two lines. -/
theorem linesBelow_nodup (slots : List CsrBatchOp) (k : Nat) :
    ((linesBelow slots k).map Prod.fst).Nodup := by
  rw [linesBelow, List.map_filterMap]
  -- a line carries the number of its slot
  refine List.Nodup.filterMap (fun i i' j hi hi' => ?_) List.nodup_range
  have hslot : ∀ i, j ∈ Option.map Prod.fst ((slots[i]?).bind fun op =>
      if op.err ≠ 0 then some (i, op.errorLine) else none) → i = j := by
    intro i hi
    obtain ⟨x, hx, rfl⟩ := Option.map_eq_some_iff.mp hi
    obtain ⟨op, -, hx⟩ := Option.bind_eq_some_iff.mp hx
    obtain ⟨-, hx⟩ := Option.ite_none_right_eq_some.mp hx
    exact congrArg Prod.fst (Option.some.inj hx)
  exact (hslot i hi).trans (hslot i' hi').symm

/-- In every round the pointer is at the slot that the counter names, the slots before it
    have been looked at, and the counter is below the last op. -/
structure ReportInv (n : Nat) (slots : List CsrBatchOp) (s : CsrReporting) : Prop where
  op : s.op = s.i
  i_lt : s.i < n
  examined : s.examined = List.range s.i
  lines : s.lines = linesBelow slots s.i

/-- **Round lemma.**  A round goes on to the next op, or the op is the last and is left
    out. -/
theorem ReportInv.round {s : CsrReporting} (h : ReportInv n slots s) (hlt : n < 2 ^ 31)
    (hlen : n ≤ slots.length) :
    (∃ s', reportRound n slots s = some (.again s') ∧ ReportInv n slots s' ∧ n - s'.i < n - s.i) ∨
      ∃ u s', reportRound n slots s = some (.done u s') ∧
        s'.examined = List.range (n - 1) ∧ s'.lines = linesBelow slots (n - 1) := by
  have hi := h.i_lt
  obtain ⟨x, hx⟩ : ∃ x, slots[s.i]? = some x := ⟨_, List.getElem?_eq_getElem (by omega)⟩
  -- the counter is checked before the op is
  by_cases hlast : n ≤ s.i + 1
  · refine Or.inr ⟨(), { s with i := s.i + 1 }, ?_, ?_⟩
    · simp only [reportRound, if_pos (show s.op < s.op + n by omega),
        if_pos (show s.i + 1 < 2 ^ 31 by omega), ge_iff_le, if_pos hlast]
    · have hprev : n - 1 = s.i := by omega
      rw [hprev]
      exact ⟨h.examined, h.lines⟩
  · have hround : reportRound n slots s = some (.again
        ⟨s.op + 1, s.i + 1, s.examined ++ [s.op], linesBelow slots (s.i + 1)⟩) := by
      simp only [reportRound, h.op, if_pos (show s.i < s.i + n by omega),
        if_pos (show s.i + 1 < 2 ^ 31 by omega), ge_iff_le, if_neg hlast, hx]
      rw [linesBelow_succ hx, ← h.lines]
    refine Or.inl ⟨_, hround, ⟨congrArg Nat.succ h.op, Nat.not_le.mp hlast, ?_, rfl⟩, ?_⟩
    · show s.examined ++ [s.op] = List.range (s.i + 1)
      rw [h.examined, h.op, List.range_succ]
    · show n - (s.i + 1) < n - s.i
      omega

/-- The loop ends, and the last op is the one it has not looked at. -/
theorem report_returns (hpos : 1 ≤ n) (hlt : n < 2 ^ 31) (hlen : n ≤ slots.length) :
    ∃ s, (s.examined = List.range (n - 1) ∧ s.lines = linesBelow slots (n - 1)) ∧
      ∀ fuel, n < fuel →
        Loops.rounds (reportRound n slots) fuel CsrReporting.start = some ((), s) := by
  have hstart : ReportInv n slots .start := ⟨rfl, hpos, rfl, rfl⟩
  obtain ⟨_, s, hs, hrun⟩ := Loops.rounds_returns (I := ReportInv n slots)
    (Q := fun (_ : Unit) s =>
      s.examined = List.range (n - 1) ∧ s.lines = linesBelow slots (n - 1))
    (fun s hI => hI.round hlt hlen) hstart
  exact ⟨s, hs, hrun⟩

/-- With more ops than an `int` counts it does not end. -/
theorem report_overflows (hlt : 2 ^ 31 ≤ n) (fuel : Nat) :
    Loops.rounds (reportRound n slots) fuel CsrReporting.start = none := by
  -- the counter would overflow before it reaches n
  refine Loops.rounds_eq_none (fun s u s' hdone => ?_) fuel CsrReporting.start
  rw [reportRound, if_pos (by omega)] at hdone
  obtain ⟨hi, hdone⟩ := Option.ite_none_right_eq_some.mp hdone
  have hmore : ¬ s.i + 1 ≥ n := by omega
  simp only [if_neg hmore] at hdone
  cases hop : slots[s.op]? with
  | none =>
    rw [hop] at hdone
    contradiction
  | some op =>
    rw [hop] at hdone
    cases hdone

end Loop

/-! ## The call -/

section Call

variable {p : CsrProcess} {b : Nat}

/-- The call returns 0, and leaves the driver's replies in the ops. -/
theorem CsrBatchFilled.call (h : CsrBatchFilled p b) (out : CsrIoctl) {a : CsrOpArray}
    (ha : (p.st.entry b).ops = some a) :
    doCsrBatchOp p b out =
      some (⟨0, some p.used, if out.res < 0 then [.ioctlFailed] else []⟩, { p with
        batchfd := p.used
        st := (csrBatchStorage p.st b).setEntry b ⟨(p.st.entry b).numops,
          some (a.answered out.replies (p.st.entry b).numops)⟩ }) := by
  obtain ⟨a', ha', hlen⟩ := h.array
  obtain rfl := Option.some.inj (ha.symm.trans ha')
  obtain ⟨-, -, hent, -⟩ := csrBatchStorage_spec h.sized b
  have hpos : (p.st.entry b).numops ≠ 0 := Nat.one_le_iff_ne_zero.mp h.pos
  -- the descriptor is `init_csr`'s on the first call, and kept from then on
  by_cases hcopy : p.batchfd = 0
  · simp [doCsrBatchOp, CsrProcess.used, hcopy, hent, hpos, ha, Nat.not_lt.mpr hlen]
  · simp [doCsrBatchOp, CsrProcess.used, hcopy, hent, hpos, ha, Nat.not_lt.mpr hlen]

/-- The ops after the ioctl: those of before, with the driver's errors. -/
theorem CsrBatchFilled.executes (h : CsrBatchFilled p b) (out : CsrIoctl) :
    ∃ d p' a, doCsrBatchOp p b out =
        some (⟨0, some d, if out.res < 0 then [.ioctlFailed] else []⟩, p') ∧
      p'.st.entry b = ⟨(p.st.entry b).numops, some a⟩ ∧
      (p.st.entry b).numops ≤ a.slots.length ∧
      ∀ i op, i < (p.st.entry b).numops → a.slots[i]? = some op → op.err = (out.replies i).err := by
  obtain ⟨a, ha, hlen⟩ := h.array
  obtain ⟨-, hb, -⟩ := csrBatchStorage_spec h.sized b
  refine ⟨_, _, a.answered out.replies (p.st.entry b).numops, h.call out ha, ?_, ?_, ?_⟩
  · exact csrEntry_setEntry_self hb _
  · rw [CsrOpArray.answered, List.length_mapIdx]
    exact hlen
  · intro i op hi hop
    obtain ⟨x, -, hx⟩ := Loops.mapIdx_getElem?_eq_some.mp hop
    rw [← hx, if_pos hi]

/-- A successful ioctl prints nothing. -/
theorem CsrBatchFilled.succeeds (h : CsrBatchFilled p b) {out : CsrIoctl} (hres : 0 ≤ out.res) :
    ∃ r p', r.result.rc = 0 ∧ ∀ fuel, doCsrBatchOpReports p b out fuel = some (r, p') := by
  obtain ⟨d, p', a, hcall, -⟩ := h.executes out
  refine ⟨⟨⟨0, some d, []⟩, [], []⟩, p', rfl, fun fuel => ?_⟩
  rw [doCsrBatchOpReports, hcall, if_neg (Int.not_lt.mpr hres)]
  rfl

/-- After a failed one the loop runs over the batch. -/
theorem CsrBatchFilled.fails (h : CsrBatchFilled p b) {out : CsrIoctl} (hres : out.res < 0) :
    ∃ d p' slots, (∀ fuel, doCsrBatchOpReports p b out fuel =
        (Loops.rounds (reportRound (p.st.entry b).numops slots) fuel CsrReporting.start).map
          fun s => (⟨⟨0, some d, [.ioctlFailed]⟩, s.2.examined, s.2.lines⟩, p')) ∧
      p'.ops b = slots.take (p.st.entry b).numops ∧ (p.st.entry b).numops ≤ slots.length ∧
      ∀ i op, i < (p.st.entry b).numops → slots[i]? = some op → op.err = (out.replies i).err := by
  obtain ⟨d, p', a, hcall, hent, hlen, herr⟩ := h.executes out
  refine ⟨d, p', a.slots, fun fuel => ?_, ?_, hlen, herr⟩
  · rw [doCsrBatchOpReports, hcall, if_pos hres]
    simp only [hent, Option.elim_some, if_true]
  · rw [CsrProcess.ops, hent, Option.elim_some]

/-- Whatever the ioctl returned, the call returns 0. -/
theorem CsrBatchFilled.rc_eq_zero (h : CsrBatchFilled p b) {out : CsrIoctl} {fuel : Nat}
    {r : CsrReport} {p' : CsrProcess} (hr : doCsrBatchOpReports p b out fuel = some (r, p')) :
    r.result.rc = 0 := by
  by_cases hres : out.res < 0
  · obtain ⟨d, q, slots, hcall, -⟩ := h.fails hres
    rw [hcall, Option.map_eq_some_iff] at hr
    obtain ⟨s, -, hs⟩ := hr
    rw [← (Prod.mk.inj hs).1]
  · obtain ⟨r', q, hrc, hcall⟩ := h.succeeds (Int.not_lt.mp hres)
    rw [hcall] at hr
    rw [← (Prod.mk.inj (Option.some.inj hr)).1]
    exact hrc

/-- The loop leaves out the last op. -/
theorem errorsReported_iff {n : Nat} {slots : List CsrBatchOp} (hpos : 1 ≤ n)
    (hlen : n ≤ slots.length) {r : CsrReport} (hex : r.examined = List.range (n - 1))
    (hlines : r.lines = linesBelow slots (n - 1)) :
    ErrorsReported (slots.take n) r ↔ ∀ op, slots[n - 1]? = some op → op.err = 0 := by
  have hops : ∀ i op, (slots.take n)[i]? = some op ↔ i < n ∧ slots[i]? = some op := by
    intro i op
    rw [List.getElem?_take]
    exact Option.ite_none_right_eq_some
  constructor
  · intro hrep op hop
    by_contra herr
    -- an error of the last op would be reported, and its slot is not below n - 1
    have hcount := hrep.once (n - 1) op ((hops _ _).mpr ⟨by omega, hop⟩) herr
    have hmem : n - 1 ∈ r.lines.map Prod.fst := List.one_le_count_iff.mp (by rw [hcount])
    obtain ⟨x, hx, hslot⟩ := List.mem_map.mp hmem
    obtain ⟨_, hlt, -⟩ := mem_linesBelow.mp (hlines ▸ hx)
    omega
  · intro hlast
    refine ⟨fun i op hop herr => ?_, fun x hx => ?_, fun i hi => ?_⟩
    · obtain ⟨hi, hop⟩ := (hops i op).mp hop
      have hne : i ≠ n - 1 := by
        rintro rfl
        exact herr (hlast op hop)
      rw [hlines]
      refine List.count_eq_one_of_mem (linesBelow_nodup slots _) ?_
      exact List.mem_map.mpr
        ⟨(i, op.errorLine), mem_linesBelow.mpr ⟨op, by omega, hop, herr, rfl⟩, rfl⟩
    · obtain ⟨op, hlt, hop, -, hx⟩ := mem_linesBelow.mp (hlines ▸ hx)
      exact ⟨op, (hops _ _).mpr ⟨by omega, hop⟩, hx⟩
    · rw [hex, List.mem_range] at hi
      rw [List.length_take]
      omega

/-- The errors of a failed ioctl are reported only if the last op has none, and an `int`
    counts the ops. -/
theorem CsrBatchFilled.reportsErrors_iff (h : CsrBatchFilled p b) (out : CsrIoctl) :
    ReportsErrors p b out ↔ 0 ≤ out.res ∨
      ((p.st.entry b).numops < 2 ^ 31 ∧
        (out.replies ((p.st.entry b).numops - 1)).err = 0) := by
  by_cases hres : out.res < 0
  · rw [or_iff_right (Int.not_le.mpr hres)]
    obtain ⟨d, p', slots, hcall, hops, hlen, herr⟩ := h.fails hres
    have hpos := h.pos
    obtain ⟨op, hop⟩ : ∃ op, slots[(p.st.entry b).numops - 1]? = some op :=
      ⟨_, List.getElem?_eq_getElem (by omega)⟩
    have hlast : (∀ op, slots[(p.st.entry b).numops - 1]? = some op → op.err = 0) ↔
        (out.replies ((p.st.entry b).numops - 1)).err = 0 := by
      rw [← herr _ op (by omega) hop]
      exact ⟨fun h => h op hop, fun h _ hop' => Option.some.inj (hop.symm.trans hop') ▸ h⟩
    -- whether the loop returns at all
    by_cases hlt : (p.st.entry b).numops < 2 ^ 31
    · obtain ⟨s, ⟨hex, hlines⟩, hrun⟩ := report_returns hpos hlt hlen
      have hret : ∀ fuel, (p.st.entry b).numops < fuel → doCsrBatchOpReports p b out fuel =
          some (⟨⟨0, some d, [.ioctlFailed]⟩, s.examined, s.lines⟩, p') := by
        intro fuel hfuel
        rw [hcall, hrun fuel hfuel, Option.map_some]
      have hiff := errorsReported_iff hpos hlen (r := ⟨⟨0, some d, [.ioctlFailed]⟩, s.examined,
        s.lines⟩) hex hlines
      rw [and_iff_right hlt, ← hlast, ← hiff, ← hops]
      constructor
      · rintro ⟨r, q, hr, hrep⟩
        obtain ⟨rfl, rfl⟩ := Prod.mk.inj (Option.some.inj
          ((hret _ (Nat.lt_succ_self _)).symm.trans (hr _ (Nat.lt_succ_self _))))
        exact hrep hres
      · intro hrep
        exact ⟨_, p', hret, fun _ => hrep⟩
    · refine iff_of_false ?_ fun h => hlt h.1
      rintro ⟨r, q, hr, -⟩
      have hnone := hr _ (Nat.lt_succ_self _)
      rw [hcall, report_overflows (Nat.not_lt.mp hlt), Option.map_none] at hnone
      contradiction
  · refine iff_of_true ?_ (Or.inl (Int.not_lt.mp hres))
    obtain ⟨r, p', -, hcall⟩ := h.succeeds (Int.not_lt.mp hres)
    exact ⟨r, p', fun fuel _ => hcall fuel, fun hneg => absurd hneg hres⟩

end Call

/-- **Telling the caller.**  A call on a batch with ops tells its caller how it went
    exactly when the ioctl succeeded. -/
theorem doCsrBatchOp_tells_iff {p : CsrProcess} {b : Nat} (h : CsrBatchFilled p b)
    (out : CsrIoctl) : TellsOutcome p b out ↔ 0 ≤ out.res := by
  constructor
  · rintro ⟨r, p', hr, hrc, -⟩
    exact hrc.mp (h.rc_eq_zero (hr _ (Nat.lt_succ_self _)))
  · intro hres
    obtain ⟨r, p', hrc, hcall⟩ := h.succeeds hres
    exact ⟨r, p', fun fuel _ => hcall fuel, iff_of_true hrc hres,
      fun hneg => absurd hres (Int.not_le.mpr hneg)⟩

/-- The device is open, and batch 0 has one op. -/
def oneCsrOp : CsrProcess where
  csrFd := 3
  init := true
  batchfd := 0
  st := ⟨⟨some [⟨1, some ⟨0, [CsrBatchOp.zero.fill ⟨0xA0, 1, 16, 0, 0, 1, 8⟩]⟩⟩], 1, [1]⟩, 1⟩
  held := some 3

theorem oneCsrOp_reached : Runs.run CsrProcess.step .start
    [.init ⟨false, ⟨true, true⟩⟩ 3, .fill (.allocate 0 1),
      .fill (.create ⟨0xA0, 1, 16, 0, 0, 1, 8⟩ 0)] = some oneCsrOp := rfl

theorem oneCsrOp_filled : CsrBatchFilled oneCsrOp 0 where
  sized := {
    arrsize_pos := by decide
    lengths := fun l hl => by
      obtain rfl := Option.some.inj hl
      exact ⟨rfl, rfl⟩
    unset := nofun }
  pos := by decide
  array := ⟨_, rfl, by decide⟩

theorem oneCsrOp_succeeds : TellsOutcome oneCsrOp 0 ⟨0, fun _ => ⟨0, 42⟩⟩ :=
  (doCsrBatchOp_tells_iff oneCsrOp_filled _).mpr (by decide)

/-- The ioctl fails with an error in the op: the call returns 0, and does not name the
    op. -/
theorem oneCsrOp_fails :
    (doCsrBatchOpReports oneCsrOp 0 ⟨-1, fun _ => ⟨5, 0⟩⟩ 2).map Prod.fst =
        some ⟨⟨0, some 3, [.ioctlFailed]⟩, [], []⟩ ∧
      ¬ TellsOutcome oneCsrOp 0 ⟨-1, fun _ => ⟨5, 0⟩⟩ := by
  refine ⟨rfl, ?_⟩
  rintro ⟨r, p', hr, hrc, -⟩
  have hsucceeded := hrc.mp (oneCsrOp_filled.rc_eq_zero (hr 2 (by decide)))
  contradiction

end Libmsr
