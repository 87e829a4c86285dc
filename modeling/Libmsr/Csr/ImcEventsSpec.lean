/-
  Libmsr.Csr.ImcEventsSpec

  What one configuration of the iMC counters does.

  - `EvtsReady`: the batch of the configuration registers, with the data its ops hold.
  - `setPmonConfig_spec`: the data of one counter are replaced.
  - `EvtsReady.executes`, `EvtsReady.registers`: the batch is executed, and each register
    has the data of its counter if a write for it reached it.
-/
import Libmsr.Csr.ImcEvents
import Libmsr.Lib.MixedRadix

namespace Libmsr

/-! ## The batch -/

/-- The platform headers that have the macros. -/
def imcHeaders : List ImcHeader := [intel2D, intel3E, intel3F, intel4F, intel55]

/-- How many ops a counter has. -/
def ImcHeader.counterOps (h : ImcHeader) (sockets : Nat) : Nat := (h.places sockets).length

/-- The register of a load at a place. -/
def ImcLoad.register (x : ImcLoad) (p : ImcPlace) : CsrRegister := (x.op p).register

/-- No two counters have their configuration at one offset. -/
def ImcHeader.OffsetsApart (h : ImcHeader) : Prop :=
  (h.cfgLoads.map fun x => BitVec.ofNat 16 x.offt).Nodup

instance (h : ImcHeader) : Decidable h.OffsetsApart := inferInstanceAs (Decidable (List.Nodup _))

theorem imcHeaders_offsetsApart {h : ImcHeader} (hh : h ∈ imcHeaders) : h.OffsetsApart := by
  have hall : ∀ h ∈ imcHeaders, h.OffsetsApart := by decide
  exact hall h hh

/-- A register belongs to one counter. -/
theorem ImcHeader.OffsetsApart.eq_of_offset {h : ImcHeader} (hapart : h.OffsetsApart) {c c' : Nat}
    {x x' : ImcLoad} (hx : h.cfgLoads[c]? = some x) (hx' : h.cfgLoads[c']? = some x')
    (heq : BitVec.ofNat 16 x.offt = BitVec.ofNat 16 x'.offt) : c = c' := by
  obtain ⟨hc, rfl⟩ := List.getElem?_eq_some_iff.mp hx
  obtain ⟨hc', rfl⟩ := List.getElem?_eq_some_iff.mp hx'
  have hlt : c < (h.cfgLoads.map fun x => BitVec.ofNat 16 x.offt).length := by
    rw [List.length_map]
    exact hc
  have hlt' : c' < (h.cfgLoads.map fun x => BitVec.ofNat 16 x.offt).length := by
    rw [List.length_map]
    exact hc'
  have hsame : (h.cfgLoads.map fun x => BitVec.ofNat 16 x.offt)[c] =
      (h.cfgLoads.map fun x => BitVec.ofNat 16 x.offt)[c'] := by
    rw [List.getElem_map, List.getElem_map]
    exact heq
  exact hapart.getElem_inj_iff.mp hsame

/-- It tells the place and the offset. -/
theorem ImcLoad.register_inj {x y : ImcLoad} {p q : ImcPlace} (h : x.register p = y.register q) :
    p = q ∧ BitVec.ofNat 16 x.offt = BitVec.ofNat 16 y.offt := by
  obtain ⟨-, hdev, hfunc, hsock, hoffset⟩ := CsrRegister.mk.inj h
  refine ⟨?_, hoffset⟩
  cases p
  cases q
  simp only [ImcPlace.mk.injEq]
  exact ⟨hdev, hfunc, hsock⟩

/-- An op that writes a value to a register. -/
structure CsrBatchOp.Writes (op : CsrBatchOp) (reg : CsrRegister) (v : Word) : Prop where
  isread : op.isread = 0
  register : op.register = reg
  csrdata : op.csrdata = v

/-- The batch has a block of ops for each of the four counters, which hold `data`, and the
    counters' arrays point to them. -/
structure EvtsReady (h : ImcHeader) (sockets : Nat) (pcd : PmonctrsData)
    (data : Nat → Nat → Word) (st : CsrBatchStorage) : Prop where
  sized : st.table.Sized
  array : ∃ a, st.entry csrImcEvts = ⟨4 * h.counterOps sockets, some a⟩ ∧
    4 * h.counterOps sockets ≤ a.slots.length ∧
    (∀ c, c < 4 → pcd.ctrcfg c = some (imcPtrs a.id (c * h.counterOps sockets)
      (h.counterOps sockets) (numCtrs * sockets))) ∧
    ∀ c x i, h.cfgLoads[c]? = some x → i < h.counterOps sockets → ∃ op,
      a.slots[c * h.counterOps sockets + i]? = some op ∧
        op.Writes (x.register (h.printed i)) (data c i)

section Ready

variable {h : ImcHeader} {sockets : Nat} {pcd : PmonctrsData} {data : Nat → Nat → Word}
  {st : CsrBatchStorage}

theorem counterOps_pos (h : ImcHeader) (sockets : Nat) : 0 < h.counterOps sockets :=
  places_pos h sockets

theorem cfgLoads_lt {c : Nat} {x : ImcLoad} (hx : h.cfgLoads[c]? = some x) : c < 4 :=
  (List.getElem?_eq_some_iff.mp hx).1

theorem cfgLoads_of_lt (h : ImcHeader) {c : Nat} (hc : c < 4) : ∃ x, h.cfgLoads[c]? = some x :=
  ⟨_, List.getElem?_eq_getElem (show c < h.cfgLoads.length from hc)⟩

/-- Of the ops of the batch, the one number `n`. -/
theorem op_of_lt {n : Nat} (hn : n < 4 * h.counterOps sockets) :
    ∃ c x i, h.cfgLoads[c]? = some x ∧ i < h.counterOps sockets ∧
      n = c * h.counterOps sockets + i := by
  have hpos := counterOps_pos h sockets
  obtain ⟨x, hx⟩ := cfgLoads_of_lt h (c := n / h.counterOps sockets)
    (Nat.div_lt_of_lt_mul (by rwa [Nat.mul_comm]))
  exact ⟨_, x, n % h.counterOps sockets, hx, Nat.mod_lt _ hpos, (Nat.div_add_mod' _ _).symm⟩

/-- The batch as the functions that work on batches want it. -/
theorem EvtsReady.filled {p : CsrProcess} (hr : EvtsReady h sockets pcd data p.st) :
    CsrBatchFilled p csrImcEvts := by
  obtain ⟨a, hent, hlen, -⟩ := hr.array
  have hpos := counterOps_pos h sockets
  refine ⟨hr.sized, ?_, a, ?_, ?_⟩
  · rw [hent]
    show 1 ≤ 4 * _
    omega
  · rw [hent]
  · rw [hent]
    exact hlen

/-- Only the data of the ops count. -/
theorem EvtsReady.congr (hr : EvtsReady h sockets pcd data st) {data' : Nat → Nat → Word}
    (hdata : ∀ c i, i < h.counterOps sockets → data c i = data' c i) :
    EvtsReady h sockets pcd data' st := by
  obtain ⟨a, hent, hlen, hptrs, hops⟩ := hr.array
  refine ⟨hr.sized, a, hent, hlen, hptrs, fun c x i hx hi => ?_⟩
  rw [← hdata c i hi]
  exact hops c x i hx hi

/-! ## set_pmon_config -/

/-- One store. -/
theorem EvtsReady.store (hr : EvtsReady h sockets pcd data st) {c i : Nat} (hc : c < 4)
    (hi : i < h.counterOps sockets) (v : Word) :
    ∃ cfg p st', pcd.ctrcfg c = some cfg ∧ ptrAt cfg i = some p ∧
      st.storeData csrImcEvts p v = some st' ∧
      EvtsReady h sockets pcd (fun c' i' => if c' = c ∧ i' = i then v else data c' i') st' := by
  obtain ⟨a, hent, hlen, hptrs, hops⟩ := hr.array
  obtain ⟨x, hx⟩ := cfgLoads_of_lt h hc
  obtain ⟨op, hop, hwrites⟩ := hops c x i hx hi
  have hb : st.table.HasEntry csrImcEvts := GrowTable.hasEntry_of_entry_ne (by
    show st.entry csrImcEvts ≠ _
    rw [hent]
    exact fun heq => nomatch congrArg CsrBatchArray.ops heq)
  let a' : CsrOpArray :=
    { a with slots := a.slots.set (c * h.counterOps sockets + i) { op with csrdata := v } }
  refine ⟨_, ⟨a.id, c * h.counterOps sockets + i⟩,
    st.setEntry csrImcEvts ⟨4 * h.counterOps sockets, some a'⟩, hptrs c hc, ?_, ?_,
    hr.sized.setEntry _, a', csrEntry_setEntry_self hb _, ?_, hptrs, ?_⟩
  · rw [ptrAt, imcPtrs_getElem? hi]
    rfl
  · simp only [CsrBatchStorage.storeData, hent, if_true, hop, a']
  · rw [List.length_set]
    exact hlen
  · intro c' x' i' hx' hi'
    obtain ⟨op', hop', hwrites'⟩ := hops c' x' i' hx' hi'
    by_cases hsame : c' = c ∧ i' = i
    · obtain ⟨rfl, rfl⟩ := hsame
      obtain rfl := Option.some.inj (hx.symm.trans hx')
      obtain ⟨hlt, -⟩ := List.getElem?_eq_some_iff.mp hop
      refine ⟨_, List.getElem?_set_self hlt, hwrites.isread, hwrites.register, ?_⟩
      exact (if_pos ⟨rfl, rfl⟩).symm
    · have hne : c * h.counterOps sockets + i ≠ c' * h.counterOps sockets + i' := by
        intro heq
        obtain ⟨rfl, rfl⟩ := MixedRadix.low_inj hi hi' heq
        exact hsame ⟨rfl, rfl⟩
      rw [if_neg hsame]
      exact ⟨op', by rw [List.getElem?_set_ne hne]; exact hop', hwrites'⟩

/-- The data with those of counter `c` replaced. -/
def withSetting (data : Nat → Nat → Word) (c : Nat) (v : Word) : Nat → Nat → Word :=
  fun c' i => if c' = c then v else data c' i

/-- With at most two sockets every pointer of a counter is set, and its data are
    replaced. -/
theorem setPmonConfig_spec (hr : EvtsReady h sockets pcd data st) (hpos : 1 ≤ sockets)
    (htwo : sockets ≤ 2) {c : Nat} (hc : c < 4) (setting : BitVec 32) :
    ∃ cfg st', pcd.ctrcfg c = some cfg ∧ setPmonConfig sockets setting cfg st = some (0, [], st') ∧
      EvtsReady h sockets pcd (withSetting data c (setting.setWidth 64)) st' := by
  have hlen : h.counterOps sockets = numCtrs * sockets := by
    rw [ImcHeader.counterOps, places_length h hpos, Nat.min_eq_left htwo]
    rfl
  obtain ⟨cfg, p, -, hcfg, hfirst, -⟩ := hr.store hc (counterOps_pos h sockets) 0
  -- slots below k have been stored to
  let upTo : Nat → Nat → Nat → Word := fun k c' i =>
    if c' = c ∧ i < k then setting.setWidth 64 else data c' i
  let body := fun (st : CsrBatchStorage) i =>
    (ptrAt cfg i).bind fun p => st.storeData csrImcEvts p (setting.setWidth 64)
  have hstart : EvtsReady h sockets pcd (upTo 0) st :=
    hr.congr fun c' i _ => (if_neg fun hlt => Nat.not_lt_zero i hlt.2).symm
  have hstep : ∀ k, k < numCtrs * sockets → ∀ st, EvtsReady h sockets pcd (upTo k) st →
      ∃ st', body st k = some st' ∧ EvtsReady h sockets pcd (upTo (k + 1)) st' := by
    intro k hk st hk'
    obtain ⟨cfg', q, st', hcfg', hq, hst', hr'⟩ := hk'.store hc (hlen ▸ hk) (setting.setWidth 64)
    obtain rfl := Option.some.inj (hcfg.symm.trans hcfg')
    refine ⟨st', ?_, hr'.congr fun c' i _ => ?_⟩
    · simp only [body, hq, Option.bind_some, hst']
    · simp only [upTo]
      by_cases hnew : c' = c ∧ i = k
      · rw [if_pos hnew, if_pos ⟨hnew.1, by omega⟩]
      · have hold : (c' = c ∧ i < k) ↔ (c' = c ∧ i < k + 1) := by omega
        rw [if_neg hnew]
        simp only [hold]
  obtain ⟨st', hrun, hr'⟩ := Loops.foldlM_range_inv body
    (fun k st => EvtsReady h sockets pcd (upTo k) st) (numCtrs * sockets) st hstart hstep
  refine ⟨cfg, st', hcfg, ?_, hr'.congr fun c' i hi => ?_⟩
  · obtain hp : cfg[0]? = some (some p) := Option.join_eq_some_iff.mp hfirst
    rw [setPmonConfig, hp]
    simp only [body] at hrun
    simp only [hrun, Option.map_some]
  · simp only [upTo, withSetting]
    rw [hlen] at hi
    simp only [hi, and_true]

/-- With more sockets the pointer behind those of the second is NULL. -/
theorem setPmonConfig_none (hr : EvtsReady h sockets pcd data st) (hthree : 3 ≤ sockets) {c : Nat}
    (hc : c < 4) (setting : BitVec 32) :
    ∃ cfg, pcd.ctrcfg c = some cfg ∧ setPmonConfig sockets setting cfg st = none := by
  obtain ⟨a, -, -, hptrs, -⟩ := hr.array
  have hlen : h.counterOps sockets = 16 := by
    rw [ImcHeader.counterOps, places_length h (by omega), Nat.min_eq_right (by omega)]
  have hcount : numCtrs * sockets = 8 * sockets := rfl
  refine ⟨_, hptrs c hc, ?_⟩
  have hfirst : (imcPtrs a.id (c * h.counterOps sockets) (h.counterOps sockets)
      (numCtrs * sockets))[0]? = some (some ⟨a.id, c * h.counterOps sockets + 0⟩) :=
    imcPtrs_getElem? (by omega)
  have hnull : ptrAt (imcPtrs a.id (c * h.counterOps sockets) (h.counterOps sockets)
      (numCtrs * sockets)) 16 = none := by
    rw [ptrAt, imcPtrs_unset (by omega) (by omega)]
    rfl
  rw [setPmonConfig, hfirst]
  simp only [Option.map_eq_none_iff]
  refine Loops.foldlM_range_none (show 17 ≤ numCtrs * sockets by omega) ?_
  rw [Loops.foldlM_range_succ, hnull, Option.bind_eq_bind, Option.bind_eq_none_iff]
  exact fun _ _ => rfl

/-! ## The execution of the batch -/

/-- A register that no op of the counters is about. -/
def ImcHeader.NoOp (h : ImcHeader) (sockets : Nat) (reg : CsrRegister) : Prop :=
  ∀ (c : Nat) (y : ImcLoad) (i : Nat), h.cfgLoads[c]? = some y → i < h.counterOps sockets →
    reg ≠ y.register (h.printed i)

/-- A write to the register of slot `i` of counter `c` reaches it. -/
def ImcExecution.Reaches (x : ImcExecution) (h : ImcHeader) (sockets c i : Nat) : Prop :=
  ∃ i', i' < h.counterOps sockets ∧ h.printed i' = h.printed i ∧
    x.wrote (c * h.counterOps sockets + i') = true

/-- The ops that the driver gets. -/
theorem EvtsReady.ops {p : CsrProcess} (hr : EvtsReady h sockets pcd data p.st) :
    (p.ops csrImcEvts).length = 4 * h.counterOps sockets ∧
      ∀ c x i, h.cfgLoads[c]? = some x → i < h.counterOps sockets → ∃ op,
        (p.ops csrImcEvts)[c * h.counterOps sockets + i]? = some op ∧
          op.Writes (x.register (h.printed i)) (data c i) := by
  obtain ⟨a, hent, hlen, -, hops⟩ := hr.array
  have htake : p.ops csrImcEvts = a.slots.take (4 * h.counterOps sockets) := by
    rw [CsrProcess.ops, hent, Option.elim_some]
  rw [htake, List.length_take, Nat.min_eq_left hlen]
  refine ⟨rfl, fun c x i hx hi => ?_⟩
  rw [List.getElem?_take, if_pos (MixedRadix.low_lt (cfgLoads_lt hx) hi)]
  exact hops c x i hx hi

/-- Executing the batch leaves the data of its ops. -/
theorem EvtsReady.executes {s : ImcState} (hr : EvtsReady h sockets pcd data s.proc.st)
    (x : ImcExecution) :
    ∃ texts s', doImcEvents x s = some (0, texts, s') ∧
      EvtsReady h sockets pcd data s'.proc.st ∧ s'.pcd = s.pcd ∧ s'.init = s.init ∧
      s'.executed = s.executed + 1 ∧
      s'.regs = x.registers (s.proc.ops csrImcEvts) s.regs := by
  obtain ⟨a, hent, hlen, hptrs, hops⟩ := hr.array
  have ha : (s.proc.st.entry csrImcEvts).ops = some a := by rw [hent]
  obtain ⟨hs, hb, -⟩ := csrBatchStorage_spec hr.sized csrImcEvts
  have hcall := hr.filled.call (x.ioctl (s.proc.ops csrImcEvts)) ha
  rw [hent] at hcall
  let a' := a.answered (x.ioctl (s.proc.ops csrImcEvts)).replies (4 * h.counterOps sockets)
  let st' := (csrBatchStorage s.proc.st csrImcEvts).setEntry csrImcEvts
    ⟨4 * h.counterOps sockets, some a'⟩
  have hready : EvtsReady h sockets pcd data st' := by
    refine ⟨hs.setEntry _, a', csrEntry_setEntry_self hb _, ?_, hptrs, fun c y i hy hi => ?_⟩
    · have hsame : a'.slots.length = a.slots.length := List.length_mapIdx
      rw [hsame]
      exact hlen
    · obtain ⟨op, hop, hwrites⟩ := hops c y i hy hi
      obtain ⟨op', hop', hwrites'⟩ := hr.ops.2 c y i hy hi
      -- a write op is answered with its own data
      refine ⟨_, Loops.mapIdx_getElem?_eq_some.mpr ⟨op, hop, rfl⟩, ?_⟩
      rw [if_pos (MixedRadix.low_lt (cfgLoads_lt hy) hi)]
      refine ⟨hwrites.isread, hwrites.register, ?_⟩
      simp only [ImcExecution.ioctl, hop', Option.elim_some, if_pos hwrites'.isread]
      exact hwrites'.csrdata
  refine ⟨(if x.res < 0 then [CsrMessage.ioctlFailed] else []).map .batch, { s with
    proc := { s.proc with batchfd := s.proc.used, st := st' }
    regs := x.registers (s.proc.ops csrImcEvts) s.regs
    executed := s.executed + 1 }, ?_, hready, rfl, rfl, rfl, rfl⟩
  rw [doImcEvents, hcall]
  rfl

/-- The writes that reach a register are those of the ops, with the data they hold. -/
theorem EvtsReady.mem_writes {p : CsrProcess} (hr : EvtsReady h sockets pcd data p.st)
    (x : ImcExecution) (w : CsrRegister × Word) :
    w ∈ x.writes (p.ops csrImcEvts) ↔ ∃ c y i, h.cfgLoads[c]? = some y ∧
      i < h.counterOps sockets ∧ x.wrote (c * h.counterOps sockets + i) = true ∧
      w = (y.register (h.printed i), data c i) := by
  obtain ⟨hlen, hops⟩ := hr.ops
  rw [ImcExecution.writes, List.mem_filterMap, hlen]
  constructor
  · rintro ⟨n, hn, hw⟩
    obtain ⟨c, y, i, hy, hi, rfl⟩ := op_of_lt (List.mem_range.mp hn)
    obtain ⟨op, hop, hwrites⟩ := hops c y i hy hi
    rw [hop, Option.bind_some, Option.ite_none_right_eq_some] at hw
    obtain ⟨⟨-, hwrote⟩, hw⟩ := hw
    rw [hwrites.register, hwrites.csrdata] at hw
    exact ⟨c, y, i, hy, hi, hwrote, (Option.some.inj hw).symm⟩
  · rintro ⟨c, y, i, hy, hi, hwrote, rfl⟩
    obtain ⟨op, hop, hwrites⟩ := hops c y i hy hi
    refine ⟨_, List.mem_range.mpr (MixedRadix.low_lt (cfgLoads_lt hy) hi), ?_⟩
    rw [hop, Option.bind_some, if_pos ⟨hwrites.isread, hwrote⟩, hwrites.register,
      hwrites.csrdata]

/-- A register that has no op keeps its value. -/
theorem EvtsReady.registers_other {p : CsrProcess} (hr : EvtsReady h sockets pcd data p.st)
    (x : ImcExecution) (regs : CsrRegister → Word) {reg : CsrRegister}
    (hother : h.NoOp sockets reg) : x.registers (p.ops csrImcEvts) regs reg = regs reg := by
  rw [ImcExecution.registers]
  refine Scatter.scatter_of_not_mem (fun hin => ?_) _ _
  obtain ⟨w, hw, rfl⟩ := List.mem_map.mp hin
  obtain ⟨c, y, i, hy, hi, -, rfl⟩ := (hr.mem_writes x w).mp hw
  exact hother c y i hy hi rfl

/-- **The registers.**  Where a counter's ops all hold `v`, a register of it has `v` after
    the batch if a write reaches it, and is unchanged if none does. -/
theorem EvtsReady.registers {p : CsrProcess} (hr : EvtsReady h sockets pcd data p.st)
    (hapart : h.OffsetsApart) (x : ImcExecution) (regs : CsrRegister → Word) {c i : Nat}
    {y : ImcLoad} (hy : h.cfgLoads[c]? = some y) {v : Word}
    (hv : ∀ i, i < h.counterOps sockets → data c i = v) :
    (x.Reaches h sockets c i →
      x.registers (p.ops csrImcEvts) regs (y.register (h.printed i)) = v) ∧
    (¬ x.Reaches h sockets c i →
      x.registers (p.ops csrImcEvts) regs (y.register (h.printed i)) =
        regs (y.register (h.printed i))) := by
  have hmem := hr.mem_writes x
  have howner : ∀ c' y' i', h.cfgLoads[c']? = some y' →
      y'.register (h.printed i') = y.register (h.printed i) →
      c' = c ∧ h.printed i' = h.printed i := by
    intro c' y' i' hy' hreg
    obtain ⟨hplace, hoffset⟩ := ImcLoad.register_inj hreg
    exact ⟨hapart.eq_of_offset hy' hy hoffset, hplace⟩
  have hkey : (y.register (h.printed i)) ∈ (x.writes (p.ops csrImcEvts)).map Prod.fst ↔
      x.Reaches h sockets c i := by
    rw [List.mem_map]
    constructor
    · rintro ⟨w, hw, hreg⟩
      obtain ⟨c', y', i', hy', hi', hwrote, rfl⟩ := (hmem w).mp hw
      obtain ⟨rfl, hplace⟩ := howner c' y' i' hy' hreg
      exact ⟨i', hi', hplace, hwrote⟩
    · rintro ⟨i', hi', hplace, hwrote⟩
      exact ⟨_, (hmem _).mpr ⟨c, y, i', hy, hi', hwrote, rfl⟩, by rw [hplace]⟩
  have hstored := Scatter.scatter_pairs (x.writes (p.ops csrImcEvts))
    (k := y.register (h.printed i)) (v := v) (by
      intro w hw hreg
      obtain ⟨c', y', i', hy', hi', -, rfl⟩ := (hmem w).mp hw
      obtain ⟨rfl, -⟩ := howner c' y' i' hy' hreg
      exact hv i' hi') regs
  refine ⟨fun hreach => ?_, fun hnot => ?_⟩
  · rw [ImcExecution.registers, hstored, if_pos (hkey.mpr hreach)]
  · rw [ImcExecution.registers, hstored, if_neg fun hin => hnot (hkey.mp hin)]

end Ready

end Libmsr
