/-
  Libmsr.Csr.ImcSlots

  The slots of the iMC counters after `init_pmon_ctrs`, and the places that the print
  functions name them by.

  - `CounterWired`: the value and config array of one counter.
  - `initPmonCtrs_spec`: what the eight loads leave.
  - `counterWired_iff`: the counters, sockets and headers for which it is right.
  - `pmonWired_never`: it is right as a whole for none.
-/
import Libmsr.Csr.ImcSpec
import Mathlib.Data.List.GetD
import Mathlib.Tactic.IntervalCases

namespace Libmsr

/-! ## What is expected -/

/-- The op that `p` points into, if `p` points into the array of batch `b`. -/
def CsrBatchStorage.opAt (st : CsrBatchStorage) (b : Nat) (p : Ptr) : Option CsrBatchOp :=
  (st.entry b).ops.bind fun a => if a.id = p.id then a.slots[p.slot]? else none

/-- What an op addresses. -/
def CsrBatchOp.place (op : CsrBatchOp) : ImcPlace := ⟨op.device, op.function, op.socket⟩

/-- Slot `i` of the array has an op of its own in batch `b`, at the place that is printed
    for `i`; no two slots address the same location. -/
structure SlotsWired (h : ImcHeader) (sockets : Nat) (st : CsrBatchStorage) (b : Nat)
    (val : List (Option Ptr)) : Prop where
  printed : ∀ i, i < numCtrs * sockets →
    ∃ p op, ptrAt val i = some p ∧ st.opAt b p = some op ∧ op.place = h.printed i
  own : ∀ i j, i < numCtrs * sockets → j < numCtrs * sockets → ptrAt val i = ptrAt val j → i = j
  apart : ∀ i j, i < numCtrs * sockets → j < numCtrs * sockets → ∀ p q op op',
    ptrAt val i = some p → ptrAt val j = some q → st.opAt b p = some op →
    st.opAt b q = some op' → op.bus = op'.bus → op.place = op'.place → op.offset = op'.offset →
    i = j

/-- Both arrays of a counter. -/
def CounterWired (h : ImcHeader) (sockets : Nat) (r : PmonInit) (counter : Nat) : Prop :=
  ∃ val cfg, r.pcd.ctr counter = some val ∧ r.pcd.ctrcfg counter = some cfg ∧
    SlotsWired h sockets r.st csrImcCtrs val ∧ SlotsWired h sockets r.st csrImcEvts cfg

/-- `load_imc_batch_for_each` returns the number of ops it creates. -/
def ReturnsCreated (h : ImcHeader) (sockets : Nat) : Prop :=
  ∀ x loc st n loc' st', loadImcBatchForEach h sockets x loc st = some (n, loc', st') →
    (st'.entry x.batchno).numops = (st.entry x.batchno).numops + n

/-- All counters are right after `init_pmon_ctrs`, and so are the results of the loads. -/
def PmonWired (h : ImcHeader) (sockets : Nat) (st : CsrBatchStorage) : Prop :=
  ReturnsCreated h sockets ∧ ∃ r, initPmonCtrs h sockets st = some r ∧
    ∀ counter, counter ≤ 4 → CounterWired h sockets r counter

/-- The header gives every channel of a socket a place of its own. -/
def ImcHeader.Apart (h : ImcHeader) : Prop :=
  h.imc0Dev ≠ h.imc1Dev ∧ [h.imcCh0Func, h.imcCh1Func, h.imcCh2Func, h.imcCh3Func].Nodup

instance (h : ImcHeader) : Decidable h.Apart := inferInstanceAs (Decidable (_ ∧ _))

/-- The memory channels of a socket: those that a header names a second device for are
    there. -/
def ImcHeader.channels (h : ImcHeader) (socket : BitVec 8) : List ImcPlace :=
  [⟨h.imc0Dev, h.imcCh0Func, socket⟩, ⟨h.imc0Dev, h.imcCh1Func, socket⟩,
    ⟨h.imc02Dev.getD h.imc0Dev, h.imcCh2Func, socket⟩,
    ⟨h.imc02Dev.getD h.imc0Dev, h.imcCh3Func, socket⟩,
    ⟨h.imc1Dev, h.imcCh0Func, socket⟩, ⟨h.imc1Dev, h.imcCh1Func, socket⟩,
    ⟨h.imc12Dev.getD h.imc1Dev, h.imcCh2Func, socket⟩,
    ⟨h.imc12Dev.getD h.imc1Dev, h.imcCh3Func, socket⟩]

/-- The header has one device for each controller. -/
def ImcHeader.OneDevice (h : ImcHeader) : Prop := h.imc02Dev = none ∧ h.imc12Dev = none

instance (h : ImcHeader) : Decidable h.OneDevice := inferInstanceAs (Decidable (_ ∧ _))

/-- The loads then go to the channels. -/
theorem ImcHeader.OneDevice.channels_eq {h : ImcHeader} (hone : h.OneDevice) (socket : BitVec 8) :
    h.channels socket = h.socketPlaces socket := by
  rw [ImcHeader.channels, hone.1, hone.2]
  rfl

/-! ## What is printed -/

/-- The counters of a print loop are digits of the iteration's number. -/
theorem printCounters_eq (i : Nat) : printCounters i =
    ⟨BitVec.ofNat 8 (i / 4 % 2), BitVec.ofNat 8 (i % 4), BitVec.ofNat 8 (i / 8)⟩ := by
  induction i with
  | zero => rfl
  | succ i ih =>
    rw [printCounters, ih]
    simp only [PrintCounters.mk.injEq]
    refine ⟨?_, ?_, ?_⟩
    · apply BitVec.eq_of_toNat_eq
      by_cases h4 : (i + 1) % 4 = 0
      · simp only [if_pos h4, BitVec.toNat_umod, BitVec.toNat_add, BitVec.toNat_ofNat,
          BitVec.ofNat_eq_ofNat, Nat.reducePow, Nat.reduceMod]
        omega
      · simp only [if_neg h4, BitVec.toNat_umod, BitVec.toNat_ofNat,
          BitVec.ofNat_eq_ofNat, Nat.reducePow, Nat.reduceMod]
        omega
    · apply BitVec.eq_of_toNat_eq
      simp only [BitVec.toNat_umod, BitVec.toNat_add, BitVec.toNat_ofNat,
        BitVec.ofNat_eq_ofNat, Nat.reducePow, Nat.reduceMod]
      omega
    · apply BitVec.eq_of_toNat_eq
      by_cases h8 : (i + 1) % 8 = 0
      · simp only [if_pos h8, BitVec.toNat_add, BitVec.toNat_ofNat,
          BitVec.ofNat_eq_ofNat, Nat.reducePow, Nat.reduceMod]
        omega
      · simp only [if_neg h8, BitVec.toNat_ofNat]
        omega

theorem printed_eq (h : ImcHeader) (i : Nat) :
    h.printed i = ⟨h.devnum (i / 4 % 2), h.funcnum (i % 4), BitVec.ofNat 8 (i / 8)⟩ := by
  have hdev : i / 4 % 2 % 2 ^ 8 = i / 4 % 2 := by omega
  have hfunc : i % 4 % 2 ^ 8 = i % 4 := by omega
  simp only [ImcHeader.printed, printCounters_eq, BitVec.toNat_ofNat, hdev, hfunc]

theorem places_length (h : ImcHeader) {sockets : Nat} (hpos : 1 ≤ sockets) :
    (h.places sockets).length = 8 * min sockets 2 := by
  rw [ImcHeader.places, List.length_append]
  by_cases htwo : sockets > 1
  · rw [if_pos htwo, Nat.min_eq_right htwo]
    rfl
  · obtain rfl : sockets = 1 := by omega
    rfl

/-- The creates come in the order in which the slots are printed. -/
theorem places_getElem? (h : ImcHeader) {sockets i : Nat} (hi : i < (h.places sockets).length) :
    (h.places sockets)[i]? = some (h.printed i) := by
  have hsocket : ∀ (s : BitVec 8) (k : Nat), k < 8 →
      (h.socketPlaces s)[k]? = some ⟨h.devnum (k / 4 % 2), h.funcnum (k % 4), s⟩ := by
    intro s k hk
    interval_cases k <;> rfl
  have hlen : ∀ s, (h.socketPlaces s).length = 8 := fun _ => rfl
  rw [printed_eq]
  rw [ImcHeader.places, List.length_append, hlen] at hi
  rw [ImcHeader.places]
  by_cases h8 : i < 8
  · rw [List.getElem?_append_left h8, hsocket 0 i h8]
    have hzero : i / 8 = 0 := Nat.div_eq_of_lt h8
    rw [hzero]
    rfl
  · by_cases htwo : sockets > 1
    · rw [if_pos htwo, hlen] at hi
      rw [if_pos htwo, List.getElem?_append_right (Nat.not_lt.mp h8), hlen,
        hsocket 1 (i - 8) (by omega)]
      have hdev : (i - 8) / 4 % 2 = i / 4 % 2 := by omega
      have hfunc : (i - 8) % 4 = i % 4 := by omega
      have hone : i / 8 = 1 := by omega
      rw [hdev, hfunc, hone]
      rfl
    · rw [if_neg htwo] at hi
      exact absurd hi h8

/-- With places of their own and at most two sockets, the slots are printed differently. -/
theorem printed_injective {h : ImcHeader} (hapart : h.Apart) {i j : Nat} (hi : i < 16) (hj : j < 16)
    (heq : h.printed i = h.printed j) : i = j := by
  obtain ⟨hdevs, hfuncs⟩ := hapart
  rw [printed_eq, printed_eq] at heq
  obtain ⟨hdev, hfunc, hsock⟩ := ImcPlace.mk.inj heq
  have hsame : i / 8 = j / 8 := by
    have hnat := congrArg BitVec.toNat hsock
    simp only [BitVec.toNat_ofNat] at hnat
    omega
  have hfunc' : i % 4 = j % 4 := by
    have hlen : ∀ k, k % 4 < [h.imcCh0Func, h.imcCh1Func, h.imcCh2Func, h.imcCh3Func].length :=
      fun k => Nat.mod_lt k (by decide)
    rw [ImcHeader.funcnum, ImcHeader.funcnum, List.getD_eq_getElem _ _ (hlen i),
      List.getD_eq_getElem _ _ (hlen j)] at hfunc
    exact (hfuncs.getElem_inj_iff).mp hfunc
  have hdev' : i / 4 % 2 = j / 4 % 2 := by
    have hnodup : [h.imc0Dev, h.imc1Dev].Nodup := by simpa using hdevs
    have hlen : ∀ k, k % 2 < [h.imc0Dev, h.imc1Dev].length := fun k => Nat.mod_lt k (by decide)
    rw [ImcHeader.devnum, ImcHeader.devnum, List.getD_eq_getElem _ _ (hlen (i / 4)),
      List.getD_eq_getElem _ _ (hlen (j / 4))] at hdev
    exact (hnodup.getElem_inj_iff).mp hdev
  omega

/-! ## What init_pmon_ctrs leaves -/

/-- The loads of the counters that are loaded. -/
def ImcHeader.ctrLoads (h : ImcHeader) : List ImcLoad :=
  [h.csrPmonctr0, h.csrPmonctr1, h.csrPmonctr2, h.csrPmonctr3].map fun offt =>
    ⟨offt, 1, 8, csrImcCtrs⟩

/-- The loads of their configuration. -/
def ImcHeader.cfgLoads (h : ImcHeader) : List ImcLoad :=
  [h.csrPmonctrcfg0, h.csrPmonctrcfg1, h.csrPmonctrcfg2, h.csrPmonctrcfg3].map fun offt =>
    ⟨offt, 0, 4, csrImcEvts⟩

/-- The ops of these loads, one block for each. -/
def ImcHeader.blocks (h : ImcHeader) (sockets : Nat) (loads : List ImcLoad) :
    List (List CsrBatchOp) :=
  loads.map fun x => (h.places sockets).map x.op

/-- Loads one after the other, each into an array of `n` zeroes. -/
def loadEach (h : ImcHeader) (sockets n : Nat) :
    List ImcLoad → CsrBatchStorage → Option (List (Nat × List (Option Ptr)) × CsrBatchStorage)
  | [], st => some ([], st)
  | x :: xs, st => do
    let (k, loc, st) ← loadImcBatchForEach h sockets x (List.replicate n none) st
    let (rest, st) ← loadEach h sockets n xs st
    some ((k, loc) :: rest, st)

/-- `init_pmon_ctrs` as two runs of such loads. -/
theorem initPmonCtrs_eq (h : ImcHeader) {sockets : Nat} (st : CsrBatchStorage)
    (hfits : 10 * (numCtrs * sockets) < 2 ^ 31) :
    initPmonCtrs h sockets st = (do
      let (_, st) ← allocateCsrBatch st csrImcCtrs (numCtrs * sockets * 4)
      let (_, st) ← allocateCsrBatch st csrImcEvts (numCtrs * sockets * 4)
      let (ctrs, st) ← loadEach h sockets (numCtrs * sockets) h.ctrLoads st
      let (cfgs, st) ← loadEach h sockets (numCtrs * sockets) h.cfgLoads st
      match ctrs, cfgs with
      | [c₀, c₁, c₂, c₃], [e₀, e₁, e₂, e₃] => some {
          rc := 10 * (numCtrs * sockets)
          loads := [c₀.1, c₁.1, c₂.1, c₃.1, e₀.1, e₁.1, e₂.1, e₃.1]
          pcd := ⟨c₀.2, c₁.2, c₂.2, c₃.2, (pmonCtrStorage sockets).ctr4, e₀.2, e₁.2, e₂.2, e₃.2,
            (pmonCtrStorage sockets).ctrcfg4⟩
          st := st }
      | _, _ => none) := by
  simp only [initPmonCtrs, if_neg (Nat.not_le.mpr hfits), loadEach, ImcHeader.ctrLoads,
    ImcHeader.cfgLoads, List.map_cons, List.map_nil, Option.bind_eq_bind, Option.bind_assoc,
    Option.bind_some, pmonCtrStorage]
  rfl

section Loads

variable (h : ImcHeader) {sockets n b id size : Nat}

/-- Block after block. -/
theorem loadEach_spec (hn : (h.places sockets).length ≤ n) (loads : List ImcLoad)
    {st : CsrBatchStorage} {ops : List CsrBatchOp} {j : Nat} (hfresh : CsrFresh st b id size ops)
    (hj : ops.length = j * (h.places sockets).length)
    (hroom : (j + loads.length) * (h.places sockets).length ≤ size)
    (hb : ∀ x ∈ loads, x.batchno = b) :
    ∃ st', loadEach h sockets n loads st = some ((List.range loads.length).map fun k =>
          ((h.places sockets).length - 1, imcPtrs id ((j + k) * (h.places sockets).length)
            (h.places sockets).length n), st') ∧
      CsrFresh st' b id size (ops ++ (h.blocks sockets loads).flatten) ∧
      CsrKeepsOthers st b st' := by
  induction loads generalizing st ops j with
  | nil => exact ⟨st, rfl, (List.append_nil ops).symm ▸ hfresh, .refl st b⟩
  | cons x xs ih =>
    obtain rfl := hb x (List.mem_cons_self ..)
    rw [List.length_cons] at hroom
    have hnext : (j + 1) * (h.places sockets).length =
        j * (h.places sockets).length + (h.places sockets).length := Nat.succ_mul ..
    have hle : (j + 1) * (h.places sockets).length ≤ size :=
      (Nat.mul_le_mul_right _ (by omega)).trans hroom
    obtain ⟨st₁, hst₁, hfresh₁, hkeep₁⟩ :=
      loadImcBatchForEach_spec (n := n) h sockets hfresh (by omega) hn
    have hlen : (ops ++ (h.places sockets).map x.op).length =
        (j + 1) * (h.places sockets).length := by
      rw [List.length_append, List.length_map, hj, hnext]
    obtain ⟨st', hst', hfresh', hkeep'⟩ := ih hfresh₁ hlen
      (by rwa [Nat.add_assoc, Nat.add_comm 1]) fun y hy => hb y (List.mem_cons_of_mem _ hy)
    refine ⟨st', ?_, ?_, hkeep₁.trans hkeep'⟩
    · simp only [loadEach, hst₁, Option.bind_eq_bind, Option.bind_some, hst']
      have hrest : ∀ k, j + 1 + k = j + (k + 1) := fun k => by omega
      rw [List.length_cons, List.range_succ_eq_map, List.map_cons, List.map_map, hj, Nat.add_zero]
      simp only [hrest]
      rfl
    · rw [List.append_assoc] at hfresh'
      exact hfresh'

/-- Batch `b` holds the blocks of the loads, and array `k` points to block `k`. -/
structure Blocked (h : ImcHeader) (sockets : Nat) (st : CsrBatchStorage) (b : Nat)
    (loads : List ImcLoad) (array : Nat → Option (List (Option Ptr))) : Prop where
  fresh : ∃ id size, CsrFresh st b id size (h.blocks sockets loads).flatten ∧
    ∀ k, k < loads.length → array k = some (imcPtrs id (k * (h.places sockets).length)
      (h.places sockets).length (numCtrs * sockets))

/-- **What `init_pmon_ctrs` leaves**, in a table whose first two batches are empty: four
    counters with their configuration, and a fifth without. -/
theorem initPmonCtrs_spec (hpos : 1 ≤ sockets) (hfits : 10 * (numCtrs * sockets) < 2 ^ 31)
    {st : CsrBatchStorage} (hs : st.table.Sized) (h0 : (st.entry csrImcCtrs).numops = 0)
    (h1 : (st.entry csrImcEvts).numops = 0) :
    ∃ r, initPmonCtrs h sockets st = some r ∧
      Blocked h sockets r.st csrImcCtrs h.ctrLoads r.pcd.ctr ∧
      Blocked h sockets r.st csrImcEvts h.cfgLoads r.pcd.ctrcfg ∧
      r.pcd.ctr 4 = some (List.replicate (numCtrs * sockets) none) ∧
      r.pcd.ctrcfg 4 = some (List.replicate (numCtrs * sockets) none) := by
  have hlen := places_length h hpos
  have hmin : min sockets 2 ≤ sockets := Nat.min_le_left ..
  have hctrs : numCtrs * sockets = 8 * sockets := rfl
  have hne : csrImcCtrs ≠ csrImcEvts := Nat.zero_ne_one
  have hfour : (0 + 4) * (h.places sockets).length ≤ numCtrs * sockets * 4 := by omega
  -- both batches are allocated, then filled one after the other
  obtain ⟨st₁, id₁, hst₁, hfresh₁, hkeep₁⟩ :=
    allocateCsrBatch_fresh hs h0 (n := numCtrs * sockets * 4) (by omega)
  obtain ⟨st₂, id₂, hst₂, hfresh₂, hkeep₂⟩ :=
    allocateCsrBatch_fresh (b := csrImcEvts) hfresh₁.sized
      (by rw [hkeep₁.entry_ne _ hne.symm]; exact h1) (n := numCtrs * sockets * 4) (by omega)
  obtain ⟨st₃, hst₃, hfresh₃, hkeep₃⟩ := loadEach_spec (j := 0) h
    (n := numCtrs * sockets) (by omega) h.ctrLoads (hfresh₁.of_keepsOthers hne hfresh₂.sized hkeep₂)
    (Nat.zero_mul _).symm hfour (by simp [ImcHeader.ctrLoads])
  obtain ⟨st₄, hst₄, hfresh₄, hkeep₄⟩ := loadEach_spec (j := 0) h
    (n := numCtrs * sockets) (by omega) h.cfgLoads
    (hfresh₂.of_keepsOthers hne.symm hfresh₃.sized hkeep₃)
    (Nat.zero_mul _).symm hfour (by simp [ImcHeader.cfgLoads])
  rw [List.nil_append] at hfresh₃ hfresh₄
  let ptrs := fun id k => imcPtrs id ((0 + k) * (h.places sockets).length)
    (h.places sockets).length (numCtrs * sockets)
  let zeroes : List (Option Ptr) := List.replicate (numCtrs * sockets) none
  refine ⟨⟨10 * (numCtrs * sockets), List.replicate 8 ((h.places sockets).length - 1),
      ⟨ptrs id₁ 0, ptrs id₁ 1, ptrs id₁ 2, ptrs id₁ 3, zeroes,
        ptrs id₂ 0, ptrs id₂ 1, ptrs id₂ 2, ptrs id₂ 3, zeroes⟩, st₄⟩, ?_,
    ⟨id₁, _, hfresh₃.of_keepsOthers hne hfresh₄.sized hkeep₄, ?_⟩, ⟨id₂, _, hfresh₄, ?_⟩, rfl, rfl⟩
  · rw [initPmonCtrs_eq h st hfits]
    simp only [hst₁, hst₂, hst₃, hst₄, Option.bind_eq_bind, Option.bind_some]
    rfl
  · intro k hk
    have hk' : k < 4 := hk
    interval_cases k <;> simp only [PmonctrsData.ctr, ptrs, Nat.zero_add]
  · intro k hk
    have hk' : k < 4 := hk
    interval_cases k <;> simp only [PmonctrsData.ctrcfg, ptrs, Nat.zero_add]

end Loads

/-! ## Which counters are right -/

section Wired

variable {h : ImcHeader} {sockets : Nat} {st : CsrBatchStorage} {b : Nat}

theorem CsrFresh.opAt {id size : Nat} {ops : List CsrBatchOp} (hfresh : CsrFresh st b id size ops)
    {i : Nat} (hi : i < ops.length) : st.opAt b ⟨id, i⟩ = ops[i]? := by
  simp only [CsrBatchStorage.opAt, hfresh.entry, Option.bind_some, if_true,
    List.getElem?_append_left hi]

/-- The op of slot `i` of array `k`. -/
theorem Blocked.opAt {loads : List ImcLoad} {array : Nat → Option (List (Option Ptr))}
    (hblocked : Blocked h sockets st b loads array) {k : Nat} {x : ImcLoad}
    (hx : loads[k]? = some x) : ∃ id val, array k = some val ∧
      (∀ i, i < (h.places sockets).length →
        ptrAt val i = some ⟨id, k * (h.places sockets).length + i⟩ ∧
          st.opAt b ⟨id, k * (h.places sockets).length + i⟩ = some (x.op (h.printed i))) ∧
      ∀ i, (h.places sockets).length ≤ i → i < numCtrs * sockets → ptrAt val i = none := by
  obtain ⟨id, size, hfresh, harray⟩ := hblocked.fresh
  obtain ⟨hk, -⟩ := List.getElem?_eq_some_iff.mp hx
  refine ⟨id, _, harray k hk, fun i hi => ⟨?_, ?_⟩, fun i hi hn => ?_⟩
  · rw [ptrAt, imcPtrs_getElem? hi]
    rfl
  · have hblocks : ∀ l ∈ h.blocks sockets loads, l.length = (h.places sockets).length := by
      intro l hl
      obtain ⟨y, -, rfl⟩ := List.mem_map.mp hl
      exact List.length_map ..
    have hop : (h.blocks sockets loads).flatten[k * (h.places sockets).length + i]? =
        some (x.op (h.printed i)) := by
      rw [Blocks.getElem?_flatten hblocks hi, ImcHeader.blocks, List.getElem?_map, hx,
        Option.map_some, Option.bind_some, List.getElem?_map, places_getElem? h hi, Option.map_some]
    obtain ⟨hlt, -⟩ := List.getElem?_eq_some_iff.mp hop
    rw [hfresh.opAt hlt, hop]
  · rw [ptrAt, imcPtrs_unset hi hn]
    rfl

/-- An array with a slot that was not set is not right. -/
theorem not_slotsWired {val : List (Option Ptr)} {i : Nat} (hi : i < numCtrs * sockets)
    (hnone : ptrAt val i = none) : ¬ SlotsWired h sockets st b val := by
  intro hwired
  obtain ⟨p, op, hp, -⟩ := hwired.printed i hi
  rw [hnone] at hp
  contradiction

/-- An array of up to two sockets is right if the header gives every channel a place of
    its own. -/
theorem Blocked.slotsWired {loads : List ImcLoad} {array : Nat → Option (List (Option Ptr))}
    (hblocked : Blocked h sockets st b loads array) (hpos : 1 ≤ sockets) (htwo : sockets ≤ 2)
    (hapart : h.Apart) {k : Nat} (hk : k < loads.length) :
    ∃ val, array k = some val ∧ SlotsWired h sockets st b val := by
  obtain ⟨id, val, hval, hset, -⟩ := hblocked.opAt (List.getElem?_eq_getElem hk)
  have hlen : (h.places sockets).length = numCtrs * sockets := by
    rw [places_length h hpos, Nat.min_eq_left htwo]
    rfl
  have hsixteen : numCtrs * sockets ≤ 16 := Nat.mul_le_mul_left 8 htwo
  rw [hlen] at hset
  refine ⟨val, hval, fun i hi => ?_, fun i j hi hj heq => ?_, ?_⟩
  · obtain ⟨hp, hop⟩ := hset i hi
    exact ⟨_, _, hp, hop, rfl⟩
  · rw [(hset i hi).1, (hset j hj).1] at heq
    have hslot := congrArg Ptr.slot (Option.some.inj heq)
    exact Nat.add_left_cancel hslot
  · intro i j hi hj p q op op' hp hq hop hop' _ hplace _
    obtain ⟨hpi, hopi⟩ := hset i hi
    obtain ⟨hqj, hopj⟩ := hset j hj
    obtain rfl := Option.some.inj (hp.symm.trans hpi)
    obtain rfl := Option.some.inj (hq.symm.trans hqj)
    obtain rfl := Option.some.inj (hop.symm.trans hopi)
    obtain rfl := Option.some.inj (hop'.symm.trans hopj)
    exact printed_injective hapart (hi.trans_le hsixteen) (hj.trans_le hsixteen) hplace

/-- The first eight slots tell the channels of socket 0 apart. -/
theorem apart_of_printed (hinj : ∀ i j, i < 8 → j < 8 → h.printed i = h.printed j → i = j) :
    h.Apart := by
  constructor
  · intro heq
    have hsame : h.printed 0 = h.printed 4 := by
      simp only [printed_eq]
      exact congrArg (fun d => ImcPlace.mk d h.imcCh0Func 0) heq
    exact absurd (hinj 0 4 (by omega) (by omega) hsame) (by omega)
  · rw [List.nodup_iff_pairwise_ne, List.pairwise_iff_getElem]
    intro i j hi hj hlt heq
    have hi' : i < 4 := hi
    have hj' : j < 4 := hj
    have hfunc : h.funcnum i = h.funcnum j := by
      rw [ImcHeader.funcnum, ImcHeader.funcnum, List.getD_eq_getElem _ _ hi,
        List.getD_eq_getElem _ _ hj]
      exact heq
    have hsame : h.printed i = h.printed j := by
      rw [printed_eq, printed_eq, Nat.mod_eq_of_lt hi', Nat.mod_eq_of_lt hj', hfunc,
        Nat.div_eq_of_lt hi', Nat.div_eq_of_lt hj', Nat.div_eq_of_lt (hi'.trans (by omega)),
        Nat.div_eq_of_lt (hj'.trans (by omega))]
    exact absurd (hinj i j (by omega) (by omega) hsame) (by omega)

/-- An array that is right has all its slots set, at places that the header keeps
    apart. -/
theorem Blocked.of_slotsWired {loads : List ImcLoad} {array : Nat → Option (List (Option Ptr))}
    (hblocked : Blocked h sockets st b loads array) (hpos : 1 ≤ sockets) {k : Nat} {x : ImcLoad}
    (hx : loads[k]? = some x) {val : List (Option Ptr)} (hval : array k = some val)
    (hwired : SlotsWired h sockets st b val) : sockets ≤ 2 ∧ h.Apart := by
  obtain ⟨id, val', hval', hset, hunset⟩ := hblocked.opAt hx
  obtain rfl := Option.some.inj (hval.symm.trans hval')
  have hlen := places_length h hpos
  have hctrs : numCtrs * sockets = 8 * sockets := rfl
  constructor
  · -- the slots of the third socket were never set
    by_contra hmany
    have hmin : min sockets 2 = 2 := Nat.min_eq_right (by omega)
    exact not_slotsWired (i := 16) (by omega) (hunset 16 (by omega) (by omega)) hwired
  · apply apart_of_printed
    intro i j hi hj hsame
    have hmin : 1 ≤ min sockets 2 := Nat.le_min.mpr ⟨hpos, by omega⟩
    obtain ⟨hpi, hopi⟩ := hset i (by omega)
    obtain ⟨hpj, hopj⟩ := hset j (by omega)
    exact hwired.apart i j (by omega) (by omega) _ _ _ _ hpi hpj hopi hopj rfl hsame rfl

end Wired

/-- **The counters.**  After `init_pmon_ctrs` a counter is right exactly if it is one of
    the first four, there are one or two sockets, and the header keeps the channels
    apart. -/
theorem counterWired_iff (h : ImcHeader) {sockets : Nat} (hpos : 1 ≤ sockets)
    {st : CsrBatchStorage} (hs : st.table.Sized) (h0 : (st.entry csrImcCtrs).numops = 0)
    (h1 : (st.entry csrImcEvts).numops = 0) {r : PmonInit} (hr : initPmonCtrs h sockets st = some r)
    {counter : Nat} (hcounter : counter ≤ 4) :
    CounterWired h sockets r counter ↔ counter ≤ 3 ∧ sockets ≤ 2 ∧ h.Apart := by
  have hfits : 10 * (numCtrs * sockets) < 2 ^ 31 := by
    by_contra hbig
    rw [initPmonCtrs, if_pos (Nat.not_lt.mp hbig)] at hr
    contradiction
  obtain ⟨r', hr', hctrs, hcfgs, hctr4, -⟩ := initPmonCtrs_spec h hpos hfits hs h0 h1
  obtain rfl := Option.some.inj (hr.symm.trans hr')
  constructor
  · rintro ⟨val, cfg, hval, -, hwired, -⟩
    rcases Nat.lt_or_ge counter 4 with hlt | hge
    · obtain ⟨htwo, hapart⟩ := hctrs.of_slotsWired hpos
        (List.getElem?_eq_getElem (l := h.ctrLoads) hlt) hval hwired
      exact ⟨by omega, htwo, hapart⟩
    · -- counter 4 has no ops
      obtain rfl : counter = 4 := by omega
      obtain rfl := Option.some.inj (hval.symm.trans hctr4)
      have hfirst : 0 < numCtrs * sockets := Nat.mul_pos (by decide) hpos
      refine absurd hwired (not_slotsWired hfirst ?_)
      rw [ptrAt, List.getElem?_replicate, if_pos hfirst]
      rfl
  · rintro ⟨hthree, htwo, hapart⟩
    have hk : counter < 4 := by omega
    obtain ⟨val, hval, hwired⟩ := hctrs.slotsWired hpos htwo hapart (k := counter) hk
    obtain ⟨cfg, hcfg, hwired'⟩ := hcfgs.slotsWired hpos htwo hapart (k := counter) hk
    exact ⟨val, cfg, hval, hcfg, hwired, hwired'⟩

/-- A load creates one op more than it returns. -/
theorem not_returnsCreated (h : ImcHeader) (sockets : Nat) : ¬ ReturnsCreated h sockets := by
  intro hreturns
  have hpos := places_pos h sockets
  have hsixteen : (h.places sockets).length ≤ 16 := by
    rw [ImcHeader.places, List.length_append]
    split
    · exact Nat.le_refl 16
    · exact Nat.le_add_right 8 8
  have hsized : CsrBatchStorage.init.table.Sized := GrowTable.init_sized
  obtain ⟨st, id, -, hfresh, -⟩ := allocateCsrBatch_fresh (b := 0) hsized rfl (n := 16) (by omega)
  obtain ⟨st', hst', hfresh', -⟩ := loadImcBatchForEach_spec (x := ⟨0, 1, 8, 0⟩) (n := 16) h sockets
    hfresh (by rw [List.length_nil]; omega) hsixteen
  have hcount := hreturns _ _ _ _ _ _ hst'
  rw [hfresh.entry, hfresh'.entry, List.nil_append, List.length_map] at hcount
  exact absurd hcount (by simp only [List.length_nil]; omega)

/-- **iMC counters.**  For no number of sockets and no header are all the counters right,
    nor is what the loads return; and for each counter the sockets and headers for which
    it is are known. -/
theorem pmonWired_never (h : ImcHeader) (sockets : Nat) (hpos : 1 ≤ sockets)
    (st : CsrBatchStorage) (hs : st.table.Sized) (h0 : (st.entry csrImcCtrs).numops = 0)
    (h1 : (st.entry csrImcEvts).numops = 0) :
    ¬ PmonWired h sockets st ∧ ¬ ReturnsCreated h sockets ∧
      ∀ r, initPmonCtrs h sockets st = some r → ∀ counter, counter ≤ 4 →
        (CounterWired h sockets r counter ↔ counter ≤ 3 ∧ sockets ≤ 2 ∧ h.Apart) :=
  ⟨fun hwired => not_returnsCreated h sockets hwired.1, not_returnsCreated h sockets,
    fun _ hr _ hcounter => counterWired_iff h hpos hs h0 h1 hr hcounter⟩

/-- On the platform of Intel3F.h with one socket: channel 2 of a controller is channel 0
    once more, and counter 4 has no ops. -/
theorem intel3F_not_wired : ¬ PmonWired intel3F 1 .init ∧
    ∀ r, initPmonCtrs intel3F 1 .init = some r →
      ¬ CounterWired intel3F 1 r 0 ∧ ¬ CounterWired intel3F 1 r 4 := by
  refine ⟨fun hwired => not_returnsCreated intel3F 1 hwired.1, fun r hr => ⟨?_, ?_⟩⟩
  · rw [counterWired_iff intel3F (Nat.le_refl 1) GrowTable.init_sized rfl rfl hr (by omega)]
    rintro ⟨-, -, hapart⟩
    exact absurd hapart (by decide)
  · rw [counterWired_iff intel3F (Nat.le_refl 1) GrowTable.init_sized rfl rfl hr (by omega)]
    rintro ⟨hthree, -⟩
    omega

/-- On the platform of Intel3E.h with two sockets counter 0 is right. -/
theorem intel3E_counters : ¬ PmonWired intel3E 2 .init ∧
    ∀ r, initPmonCtrs intel3E 2 .init = some r → CounterWired intel3E 2 r 0 := by
  obtain ⟨hnever, -, hcounters⟩ :=
    pmonWired_never intel3E 2 (by omega) .init GrowTable.init_sized rfl rfl
  exact ⟨hnever, fun r hr => (hcounters r hr 0 (by omega)).mpr ⟨by omega, by omega, by decide⟩⟩

end Libmsr
