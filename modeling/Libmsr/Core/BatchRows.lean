/-
  Libmsr.Core.BatchRows

  A batch as a row of registers.  `Row` says which registers the counted ops of
  a batch stand for and what their `msrdata` are.  Reading the batch collects the
  registers, writing it scatters the data over them, and a store through a
  pointer into the batch sets one element; the other batches stay as they are.
-/
import Libmsr.Core.BatchAccess
import Libmsr.Core.BatchReadSpec
import Libmsr.Lib.Scatter

namespace Libmsr

open BatchStorage Scatter

/-! ## Rows -/

/-- Where an op goes: CPU and register. -/
def MsrBatchOp.place (op : MsrBatchOp) : Nat × Nat := (op.cpu.toNat, op.msr.toNat)

/-- The register at a place. -/
def RegFile.at (regs : RegFile) (p : Nat × Nat) : Word := regs p.1 p.2

/-- The flag of an op for a call of this type. -/
def BatchOpType.flag (type : BatchOpType) : BitVec 16 := if type = .read then 1 else 0

/-- Batch `b` counts one op for each place, in this order, in the array `id`; the
    ops carry these data, and their flags are alike. -/
structure Row (st : BatchStorage) (b id : Nat) (places : List (Nat × Nat)) (data : List Word) :
    Prop where
  sized : st.Sized
  ops : ∃ ops rest, st.entry b = ⟨ops.length, some ⟨id, ops ++ rest⟩⟩ ∧
    ops.map MsrBatchOp.place = places ∧ ops.map MsrBatchOp.msrdata = data ∧
    ∃ type : BatchOpType, type ≠ .load ∧ ∀ op ∈ ops, op.isrdmsr = type.flag

/-- Every batch but `b` is what it was. -/
structure KeepsOthers (st : BatchStorage) (b : Nat) (st' : BatchStorage) : Prop where
  entry_ne : ∀ b', b' ≠ b → st'.entry b' = st.entry b'
  capacity_ne : ∀ b', b' ≠ b → st'.capacity b' = st.capacity b'

theorem KeepsOthers.refl (st : BatchStorage) (b : Nat) : KeepsOthers st b st :=
  ⟨fun _ _ => rfl, fun _ _ => rfl⟩

theorem KeepsOthers.trans {st st' st'' : BatchStorage} {b : Nat} (h : KeepsOthers st b st')
    (h' : KeepsOthers st' b st'') : KeepsOthers st b st'' :=
  ⟨fun b' hne => (h'.entry_ne b' hne).trans (h.entry_ne b' hne),
    fun b' hne => (h'.capacity_ne b' hne).trans (h.capacity_ne b' hne)⟩

theorem Updated.keepsOthers {st st' : BatchStorage} {b : Nat} {e : MsrBatchArray}
    (h : Updated st b e st') : KeepsOthers st b st' := ⟨h.entry_ne, fun b' _ => h.capacity b'⟩

section Rows

variable {st st' : BatchStorage} {b id : Nat} {places : List (Nat × Nat)} {data : List Word}

theorem Row.length_eq (h : Row st b id places data) : data.length = places.length := by
  obtain ⟨ops, rest, -, rfl, rfl, -⟩ := h.ops
  simp only [List.length_map]

/-- A row survives changes to other batches. -/
theorem Row.of_keepsOthers {b' : Nat} (h : Row st b' id places data) (hne : b' ≠ b)
    (hs : st'.Sized) (hkeep : KeepsOthers st b st') : Row st' b' id places data := by
  refine ⟨hs, ?_⟩
  rw [hkeep.entry_ne b' hne]
  exact h.ops

theorem hasEntry_of_ops {a : OpArray} (h : (st.entry b).ops = some a) : st.HasEntry b := by
  cases hbatch : st.batch with
  | none => simp [entry, hbatch, MsrBatchArray.empty] at h
  | some t =>
    refine ⟨t, hbatch, ?_⟩
    by_contra hge
    simp [entry, hbatch, List.getElem?_eq_none (Nat.not_lt.mp hge), MsrBatchArray.empty] at h

/-- Pointer `i` of a row points to its `i`-th op. -/
theorem Row.opAt (h : Row st b id places data) {i : Nat} (hi : i < places.length) :
    ∃ op, st.opAt b ⟨id, i⟩ = some op ∧ places[i]? = some op.place ∧
      data[i]? = some op.msrdata := by
  obtain ⟨ops, rest, hentry, rfl, rfl, -⟩ := h.ops
  rw [List.length_map] at hi
  refine ⟨ops[i], ?_, ?_, ?_⟩
  · simp only [BatchStorage.opAt, hentry, Option.bind_some, if_true,
      List.getElem?_append_left hi, List.getElem?_eq_getElem hi]
  · rw [List.getElem?_map, List.getElem?_eq_getElem hi, Option.map_some]
  · rw [List.getElem?_map, List.getElem?_eq_getElem hi, Option.map_some]

/-- It reads its `i`-th value. -/
theorem Row.load (h : Row st b id places data) {i : Nat} (hi : i < places.length) :
    st.load b ⟨id, i⟩ = data[i]? := by
  obtain ⟨op, hop, -, hdata⟩ := h.opAt hi
  rw [BatchStorage.load, hop, hdata, Option.map_some]

/-- A store through pointer `i` of a row sets its `i`-th value. -/
theorem Row.store (h : Row st b id places data) {i : Nat} (hi : i < places.length) (val : Word) :
    ∃ st', st.store b ⟨id, i⟩ val = some st' ∧ Row st' b id places (data.set i val) ∧
      KeepsOthers st b st' := by
  obtain ⟨ops, rest, hentry, rfl, rfl, type, htype, hflag⟩ := h.ops
  rw [List.length_map] at hi
  have hops : (st.entry b).ops = some ⟨id, ops ++ rest⟩ := by rw [hentry]
  have hat : st.opAt b ⟨id, i⟩ = some ops[i] := by
    simp only [BatchStorage.opAt, hops, Option.bind_some, if_true, List.getElem?_append_left hi,
      List.getElem?_eq_getElem hi]
  have hb := hasEntry_of_ops hops
  let op' : MsrBatchOp := { ops[i] with msrdata := val }
  refine ⟨st.setEntry b ⟨ops.length, some ⟨id, ops.set i op' ++ rest⟩⟩, ?_,
    ⟨h.sized.setEntry _, ops.set i op', rest, ?_, ?_, ?_, type, htype, ?_⟩,
    fun b' hne => entry_setEntry_of_ne hne _, fun _ _ => rfl⟩
  · simp only [BatchStorage.store, hat, hentry, List.set_append_left _ _ hi, op']
  · rw [entry_setEntry_self hb, List.length_set]
  · -- the op stays where it is
    have hplace : (ops.map MsrBatchOp.place)[i]? = some op'.place := by
      rw [List.getElem?_map, List.getElem?_eq_getElem hi]
      rfl
    obtain ⟨hlt, heq⟩ := List.getElem?_eq_some_iff.mp hplace
    rw [List.map_set, ← heq, List.set_getElem_self]
  · rw [List.map_set]
  · intro op hop
    rcases List.mem_or_eq_of_mem_set hop with hmem | rfl
    · exact hflag op hmem
    · exact hflag ops[i] (List.getElem_mem hi)

end Rows

/-! ## Executing a row -/

/-- The ops with their flags set for a call of this type. -/
def setFlags (type : BatchOpType) (ops : List MsrBatchOp) : List MsrBatchOp :=
  ops.map fun op => { op with isrdmsr := type.flag }

/-- Flags that are alike are alike for the call after the switch. -/
theorem switchFlags_uniform {type t : BatchOpType} (htype : type ≠ .load) (ht : t ≠ .load)
    {ops : List MsrBatchOp} (hflag : ∀ op ∈ ops, op.isrdmsr = t.flag) :
    switchFlags type ops = setFlags type ops := by
  cases ops with
  | nil => rfl
  | cons op ops =>
    have hhead := hflag op (List.mem_cons_self ..)
    by_cases hsame : t = type
    · subst hsame
      rw [switchFlags_of_carries, setFlags]
      · symm
        refine (List.map_congr_left fun op hop => ?_).trans (List.map_id _)
        rw [← hflag op hop]
        rfl
      · cases t <;> simp_all [MsrBatchOp.Carries, BatchOpType.flag]
    · rw [switchFlags_of_not_carries htype]
      · rfl
      · cases t <;> cases type <;> simp_all [MsrBatchOp.Carries, BatchOpType.flag]

/-- Performing writes stores the data in order. -/
theorem performOps_writes {isRead : MsrBatchOp → Bool} (regs : RegFile) {ops : List MsrBatchOp}
    (hwrite : ∀ op ∈ ops, isRead op = false) :
    performOps isRead noFailure regs ops = (ops.map MsrBatchOp.msrdata, fun c r =>
      scatter regs.at (ops.map MsrBatchOp.place) (ops.map MsrBatchOp.msrdata) (c, r)) := by
  induction ops generalizing regs with
  | nil => rfl
  | cons op ops ih =>
    have hop : performOp isRead noFailure regs op =
        (op.msrdata, regs.set op.cpu.toNat op.msr.toNat op.msrdata) := by
      simp only [performOp, noFailure, hwrite op (List.mem_cons_self ..), Bool.false_eq_true,
        if_false]
    have hset : (regs.set op.cpu.toNat op.msr.toNat op.msrdata).at =
        Function.update regs.at op.place op.msrdata := by
      funext p
      simp only [RegFile.at, RegFile.set, Function.update_apply, MsrBatchOp.place, Prod.ext_iff]
    have hrest := ih (regs.set op.cpu.toNat op.msr.toNat op.msrdata)
      fun op' hop' => hwrite op' (List.mem_cons_of_mem _ hop')
    simp only [performOps, hop, hrest, hset, List.map_cons, scatter_cons]

/-- The data of a row and the registers after a call of this type. -/
def rowOutcome (type : BatchOpType) (regs : RegFile) (places : List (Nat × Nat))
    (data : List Word) : List Word × RegFile :=
  if type = .read then (places.map regs.at, regs)
  else (data, fun c r => scatter regs.at places data (c, r))

theorem performOps_row (type : BatchOpType) (regs : RegFile) (ops : List MsrBatchOp) :
    performOps type.allRead noFailure regs ops =
      rowOutcome type regs (ops.map MsrBatchOp.place) (ops.map MsrBatchOp.msrdata) := by
  rw [rowOutcome]
  by_cases htype : type = .read
  · have hall : ∀ op ∈ ops, type.allRead op = true := fun _ _ => decide_eq_true htype
    have hok : ¬ SomeFails noFailure ops := by
      rintro ⟨op, -, hfail⟩
      contradiction
    rw [if_pos htype, performOps_reads _ regs hall hok, List.map_map]
    rfl
  · have hnone : ∀ op ∈ ops, type.allRead op = false := fun _ _ => decide_eq_false htype
    rw [if_neg htype, performOps_writes regs hnone]

/-- A machine whose devices and driver work, and whose driver opens and closes no
    device. -/
structure BatchDriver.Works (drv : BatchDriver) (fd : Int) (h : Host) (n : Nat) : Prop extends
    drv.Serves fd h n where
  keeps : 0 ≤ fd → ∀ (h' : Host) ops, h'.SameDevices (drv.ioctl h' ops).2.2

theorem BatchDriver.Works.of_sameDevices {drv : BatchDriver} {fd : Int} {h h' : Host} {n : Nat}
    (hw : drv.Works fd h n) (hsame : h.SameDevices h') : drv.Works fd h' n := by
  refine ⟨⟨hw.driver, hsame.ready hw.ready, hw.fits, ?_⟩, hw.keeps⟩
  rw [hsame.fails, hsame.failsWrite]
  exact hw.absent

section Execute

variable {drv : BatchDriver} {fd : Int} {h : Host} {n : Nat} {st : BatchStorage} {b id : Nat}
  {places : List (Nat × Nat)} {data : List Word}

/-- The ioctl on uniform ops none of which fails. -/
theorem ioctl_row (hw : drv.Works fd h n) (hfd : 0 ≤ fd) {type : BatchOpType}
    {ops : List MsrBatchOp} (hok : ¬ SomeFails (h.failsIn type) ops) :
    (((setFlags type ops).mapIdx fun i op =>
        op.reply ((drv.ioctl h (setFlags type ops)).2.1 i)).map MsrBatchOp.msrdata,
      (drv.ioctl h (setFlags type ops)).2.2.regs) =
      rowOutcome type h.regs (ops.map MsrBatchOp.place) (ops.map MsrBatchOp.msrdata) := by
  have hread : ∀ op : MsrBatchOp,
      MsrBatchOp.flaggedRead { op with isrdmsr := type.flag } = type.allRead op := by
    intro op
    by_cases htype : type = .read <;>
      simp [MsrBatchOp.flaggedRead, BatchOpType.allRead, BatchOpType.flag, htype]
  have hops : ¬ SomeOpFails h (setFlags type ops) := by
    rintro ⟨op, hop, hfail⟩
    obtain ⟨op', hop', rfl⟩ := List.mem_map.mp hop
    refine hok ⟨op', hop', ?_⟩
    rw [Host.opFails, hread, BatchOpType.allRead] at hfail
    rw [Host.failsIn]
    by_cases htype : type = .read <;> simp_all
  rw [reply_data drv (hw.driver hfd) hops, (hw.driver hfd).regs h _ hops, setFlags,
    performOps_map noFailure _ h.regs ops hread (fun _ => rfl) (fun _ => rfl) (fun _ => rfl)]
  exact performOps_row type h.regs ops

/-- A call's result for a row: the data and the registers its direction asks for,
    and everything else as it was. -/
structure RowResult (h : Host) (st : BatchStorage) (b id : Nat) (places : List (Nat × Nat))
    (data : List Word) (type : BatchOpType) (r : BatchResult) : Prop where
  row : Row r.st b id places (rowOutcome type h.regs places data).1
  regs : r.host.regs = (rowOutcome type h.regs places data).2
  same : h.SameDevices r.host
  keeps : KeepsOthers st b r.st

section Ways

variable {ops rest : List MsrBatchOp}

/-- What the two ways of executing a batch ask of it. -/
theorem entry_filled (hentry : st.entry b = ⟨ops.length, some ⟨id, ops ++ rest⟩⟩) :
    (st.entry b).numops = ops.length ∧ (st.entry b).ops = some ⟨id, ops ++ rest⟩ ∧
      (st.entry b).numops ≤ (OpArray.mk id (ops ++ rest)).slots.length := by
  rw [hentry, List.length_append]
  exact ⟨rfl, rfl, Nat.le_add_right ..⟩

variable (hs : st.Sized) (hentry : st.entry b = ⟨ops.length, some ⟨id, ops ++ rest⟩⟩)
  {t type : BatchOpType}
include hs hentry

/-- With no op counted there is nothing to do, whatever the return code. -/
theorem doBatchOp_row_empty (drv : BatchDriver) (fd : Int) (h : Host) (ht : t ≠ .load)
    (hnil : ops = []) : ∃ r, doBatchOp drv fd st h b type = some r ∧
      RowResult h st b id (ops.map MsrBatchOp.place) (ops.map MsrBatchOp.msrdata) type r := by
  subst hnil
  have hnum : (st.entry b).numops = 0 := by rw [hentry]; rfl
  have hsame : rowOutcome type h.regs [] [] = ([], h.regs) := by
    rw [rowOutcome]
    split <;> rfl
  have hempty : ∃ rc st', doBatchOp drv fd st h b type = some ⟨rc, st', h, none⟩ ∧
      Updated st b (st.entry b) st' := by
    by_cases hfd : 0 ≤ fd
    · exact ⟨_, doBatchOp_empty drv h type hs hfd hnum⟩
    · exact ⟨_, doBatchOp_fallback_empty drv h type hs (Int.not_le.mp hfd) hnum⟩
  obtain ⟨rc, st', hst', hup⟩ := hempty
  refine ⟨_, hst', ⟨hup.sized, [], rest, hup.entry.trans hentry, rfl, ?_, t, ht, ?_⟩, ?_,
    .refl h, hup.keepsOthers⟩
  · rw [List.map_nil, List.map_nil, hsame]
  · exact fun _ hop => absurd hop List.not_mem_nil
  · rw [List.map_nil, List.map_nil, hsame]

variable (hw : drv.Works fd h n) (hpos : 0 < ops.length) (ht : t ≠ .load)
  (hflag : ∀ op ∈ ops, op.isrdmsr = t.flag) (hok : ¬ SomeFails (h.failsIn type) ops)
include hw hpos ht hflag hok

/-- Through the driver: the ops it is handed carry the flag of the call. -/
theorem doBatchOp_row_driver (hfd : 0 ≤ fd) (htype : type ≠ .load) :
    ∃ r, doBatchOp drv fd st h b type = some r ∧
      RowResult h st b id (ops.map MsrBatchOp.place) (ops.map MsrBatchOp.msrdata) type r := by
  obtain ⟨hnum, hops, hlen⟩ := entry_filled hentry
  obtain ⟨st', hst', hup⟩ := doBatchOp_spec drv h type hs hfd (by omega) hops hlen
  have hhanded : handedOps type (st.entry b) ⟨id, ops ++ rest⟩ = setFlags type ops := by
    rw [handedOps, hnum, List.take_left, switchFlags_uniform htype ht hflag]
  rw [hhanded] at hst' hup
  have hrowed := ioctl_row hw hfd hok
  rw [Prod.ext_iff] at hrowed
  refine ⟨_, hst', ⟨hup.sized, _, rest, hup.entry.trans ?_, ?_, hrowed.1, type, htype, ?_⟩,
    hrowed.2, hw.keeps hfd h _, hup.keepsOthers⟩
  · simp only [hnum, OpArray.overwrite, List.length_mapIdx, setFlags, List.length_map,
      List.drop_left]
  · -- replies and flags leave CPU and register alone
    apply List.ext_getElem?
    intro i
    simp only [setFlags, List.getElem?_map, List.getElem?_mapIdx, Option.map_map]
    rfl
  · intro op hop
    obtain ⟨i, hi, rfl⟩ := List.mem_mapIdx.mp hop
    show ((setFlags type ops)[i]).isrdmsr = type.flag
    simp only [setFlags, List.getElem_map]

/-- Through the devices: the ops keep the flags they had. -/
theorem doBatchOp_row_fallback (hfd : fd < 0) : ∃ r, doBatchOp drv fd st h b type = some r ∧
      RowResult h st b id (ops.map MsrBatchOp.place) (ops.map MsrBatchOp.msrdata) type r := by
  obtain ⟨hnum, hops, hlen⟩ := entry_filled hentry
  have htake : (ops ++ rest).take ops.length = ops := List.take_left
  obtain ⟨st', hst', hup⟩ := doBatchOp_fallback drv h type hs hfd (by omega) hops hlen
  rw [hnum, htake] at hst' hup
  have hcpus : ∀ cpu, n ≤ cpu → ∀ msr, h.failsIn type cpu msr = true := by
    intro cpu hcpu msr
    obtain ⟨hread, hwrite⟩ := hw.absent cpu hcpu msr
    rw [Host.failsIn]
    split
    · exact hread
    · exact hwrite
  obtain ⟨hspec, hsame⟩ := compatibilityOps_spec hw.fits hw.ready type hcpus ops
  rw [← performOps_noFailure _ _ hok, performOps_row, Prod.ext_iff] at hspec
  have hplace := compatibilityOps_place type h ops
  refine ⟨_, hst', ⟨hup.sized, _, rest, hup.entry.trans ?_, ?_, hspec.1, t, ht, ?_⟩, hspec.2,
    hsame, hup.keepsOthers⟩
  · simp only [OpArray.overwrite, compatibilityOps_length, List.drop_left]
  · have hcut := congrArg (List.map fun x : BitVec 16 × BitVec 32 × BitVec 16 =>
      (x.1.toNat, x.2.1.toNat)) hplace
    rw [List.map_map, List.map_map] at hcut
    exact hcut
  · intro op hop
    have hmem := List.mem_map_of_mem
      (f := fun op : MsrBatchOp => (op.cpu, op.msr, op.isrdmsr)) hop
    rw [hplace] at hmem
    obtain ⟨op', hop', heq⟩ := List.mem_map.mp hmem
    simp only [Prod.mk.injEq] at heq
    rw [← heq.2.2]
    exact hflag op' hop'

end Ways

/-- **Executing a row.**  If none of its registers fails, a call leaves the data
    and the registers its direction asks for, and everything else as it was. -/
theorem Row.execute (hrow : Row st b id places data) (hw : drv.Works fd h n)
    {type : BatchOpType} (htype : type ≠ .load)
    (hok : ∀ p ∈ places, h.failsIn type p.1 p.2 = false) :
    ∃ r, doBatchOp drv fd st h b type = some r ∧ RowResult h st b id places data type r := by
  obtain ⟨ops, rest, hentry, rfl, rfl, t, ht, hflag⟩ := hrow.ops
  have hok' : ¬ SomeFails (h.failsIn type) ops := by
    rintro ⟨op, hop, hfail⟩
    have hgood : h.failsIn type op.cpu.toNat op.msr.toNat = false :=
      hok op.place (List.mem_map_of_mem hop)
    rw [hgood] at hfail
    contradiction
  rcases Nat.eq_zero_or_pos ops.length with h0 | hpos
  · exact doBatchOp_row_empty hrow.sized hentry drv fd h ht (List.eq_nil_of_length_eq_zero h0)
  · by_cases hfd : 0 ≤ fd
    · exact doBatchOp_row_driver hrow.sized hentry hw hpos ht hflag hok' hfd htype
    · exact doBatchOp_row_fallback hrow.sized hentry hw hpos ht hflag hok' (Int.not_le.mp hfd)

end Execute

/-! ## Rows in a world -/

section World

variable {P : Platform} {w : BatchWorld} {n b id : Nat} {places : List (Nat × Nat)}
  {data : List Word} (hrow : Row w.st b id places data)
include hrow

/-- Reading a row collects its registers. -/
theorem Row.readBatch (hw : P.drv.Works P.batchfd w.host n)
    (hok : ∀ p ∈ places, w.host.fails p.1 p.2 = false) :
    ∃ w', w.readBatch P b = some w' ∧ Row w'.st b id places (places.map (RegFile.at w.host.regs)) ∧
      w'.host.regs = w.host.regs ∧ w.host.SameDevices w'.host ∧ KeepsOthers w.st b w'.st := by
  have htype : BatchOpType.read ≠ .load := BatchOpType.noConfusion
  obtain ⟨r, hr, hres⟩ := hrow.execute hw htype hok
  refine ⟨⟨r.st, r.host⟩, ?_, hres.row, hres.regs, hres.same, hres.keeps⟩
  rw [BatchWorld.readBatch, Libmsr.readBatch, hr, Option.map_some]

/-- Writing a row scatters its data over the registers. -/
theorem Row.writeBatch (hw : P.drv.Works P.batchfd w.host n)
    (hok : ∀ p ∈ places, w.host.failsWrite p.1 p.2 = false) :
    ∃ w', w.writeBatch P b = some w' ∧ Row w'.st b id places data ∧
      RegFile.at w'.host.regs = scatter (RegFile.at w.host.regs) places data ∧
      w.host.SameDevices w'.host ∧ KeepsOthers w.st b w'.st := by
  have htype : BatchOpType.write ≠ .load := BatchOpType.noConfusion
  obtain ⟨r, hr, hres⟩ := hrow.execute hw htype hok
  refine ⟨⟨r.st, r.host⟩, ?_, hres.row, ?_, hres.same, hres.keeps⟩
  · rw [BatchWorld.writeBatch, Libmsr.writeBatch, hr, Option.map_some]
  · rw [hres.regs]
    rfl

/-- Modifying through a pointer into a row modifies one of its values. -/
theorem Row.modify {val : List (Option Ptr)} {j i : Nat} (hptr : ptrAt val j = some ⟨id, i⟩)
    {x : Word} (hx : data[i]? = some x) (f : Word → Word) :
    ∃ w', w.modify b val j f = some w' ∧ Row w'.st b id places (data.set i (f x)) ∧
      w'.host = w.host ∧ KeepsOthers w.st b w'.st := by
  have hi : i < places.length := by
    rw [← hrow.length_eq]
    exact (List.getElem?_eq_some_iff.mp hx).1
  obtain ⟨st', hst', hrow', hkeep⟩ := hrow.store hi (f x)
  refine ⟨⟨st', w.host⟩, ?_, hrow', rfl, hkeep⟩
  simp only [BatchWorld.modify, hptr, hrow.load hi, hx, hst', Option.bind_eq_bind,
    Option.bind_some]

end World

end Libmsr
