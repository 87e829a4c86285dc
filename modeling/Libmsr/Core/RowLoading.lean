/-
  Libmsr.Core.RowLoading

  How the storage functions build a row: `allocate_batch` for the whole batch,
  then one load for each register, whose pointers come back in the order of the
  ops.
-/
import Libmsr.Core.Addressing
import Libmsr.Core.BatchRows
import Mathlib.Data.Fintype.Card

namespace Libmsr

open BatchStorage

/-- Where an op on this register and CPU goes: both are cut to the width of the
    op's fields. -/
def opPlace (msr cpu : Nat) : Nat × Nat := (cpu % 2 ^ 16, msr % 2 ^ 32)

theorem opPlace_of_lt {msr cpu : Nat} (hmsr : msr < 2 ^ 32) (hcpu : cpu < 2 ^ 16) :
    opPlace msr cpu = (cpu, msr) := by
  rw [opPlace, Nat.mod_eq_of_lt hcpu, Nat.mod_eq_of_lt hmsr]

/-- The pointers to `count` ops from slot `k` on. -/
def rowPtrs (id k count : Nat) : List (Option Ptr) :=
  (List.range count).map fun j => some ⟨id, k + j⟩

theorem rowPtrs_getElem? {id k count i : Nat} (hi : i < count) :
    (rowPtrs id k count)[i]? = some (some ⟨id, k + i⟩) := by
  rw [rowPtrs, List.getElem?_map, List.getElem?_range hi, Option.map_some]

/-- A row of reads that is still being loaded: `size` ops were allocated, and
    those behind the counted ones are untouched. -/
structure Fresh (st : BatchStorage) (b id size : Nat) (places : List (Nat × Nat)) : Prop where
  sized : st.Sized
  capacity : st.capacity b = size
  small : size < 2 ^ 31
  ops : ∃ ops, ops.length ≤ size ∧
    st.entry b = ⟨ops.length, some ⟨id, ops ++ List.replicate (size - ops.length) .zero⟩⟩ ∧
    ops.map MsrBatchOp.place = places ∧ ∀ op ∈ ops, op.isrdmsr = 1 ∧ op.msrdata = 0

section Loading

variable {st st' : BatchStorage} {b id size : Nat} {places : List (Nat × Nat)}

/-- A fresh row holds zeroes. -/
theorem Fresh.row (h : Fresh st b id size places) :
    Row st b id places (List.replicate places.length 0) := by
  obtain ⟨ops, -, hentry, rfl, hops⟩ := h.ops
  refine ⟨h.sized, ops, _, hentry, rfl, ?_, .read, by decide, fun op hop => (hops op hop).1⟩
  rw [List.length_map, List.eq_replicate_iff]
  refine ⟨List.length_map .., fun val hval => ?_⟩
  obtain ⟨op, hop, rfl⟩ := List.mem_map.mp hval
  exact (hops op hop).2

theorem Fresh.of_keepsOthers {b' : Nat} (h : Fresh st b' id size places) (hne : b' ≠ b)
    (hs : st'.Sized) (hkeep : KeepsOthers st b st') : Fresh st' b' id size places := by
  refine ⟨hs, (hkeep.capacity_ne b' hne).trans h.capacity, h.small, ?_⟩
  rw [hkeep.entry_ne b' hne]
  exact h.ops

/-- `allocate_batch` starts a row. -/
theorem allocateBatch_fresh (hs : st.Sized) (hempty : st.entry b = .empty) {n : Nat}
    (hn : n < 2 ^ 31) :
    ∃ st', allocateBatch st b n = some (0, st') ∧ Fresh st' b st.nextId n [] ∧
      KeepsOthers st b st' := by
  have hmod : n % 2 ^ 32 = n := Nat.mod_eq_of_lt (by omega)
  obtain ⟨st', hst', hal⟩ := allocateBatch_spec hs b n (by omega)
  rw [hmod] at hal
  refine ⟨st', hst', ⟨hal.sized, hal.capacity, hn, [], Nat.zero_le n, ?_, rfl, ?_⟩, hal.entry_ne,
    hal.capacity_ne⟩
  · rw [hal.entry, hempty]
    rfl
  · intro op hop
    contradiction

/-- Filling the slots behind the counted ops appends ops. -/
theorem filledSlots_append (msr : Nat) (pick : Nat → Nat) (ops : List MsrBatchOp) {count rest : Nat}
    (hroom : count ≤ rest) :
    filledSlots msr pick ops.length count (ops ++ List.replicate rest .zero) =
      ops ++
        (List.range count).map (fun v => MsrBatchOp.zero.fill msr (BitVec.ofNat 64 (pick v))) ++
        List.replicate (rest - count) .zero := by
  apply List.ext_getElem?
  intro i
  rw [filledSlots, List.getElem?_mapIdx, List.append_assoc]
  -- three ranges: the counted ops, the slots to fill, the rest
  by_cases hi : i < ops.length
  · have hnot : ¬ (ops.length ≤ i ∧ i < ops.length + count) := by omega
    rw [List.getElem?_append_left hi, List.getElem?_append_left hi]
    simp only [if_neg hnot, Option.map_id']
  · rw [List.getElem?_append_right (by omega), List.getElem?_append_right (by omega)]
    by_cases hrow : i - ops.length < count
    · rw [List.getElem?_append_left (by simpa using hrow), List.getElem?_map,
        List.getElem?_range hrow, List.getElem?_replicate, if_pos (by omega), Option.map_some,
        Option.map_some, if_pos (by omega)]
    · have hnot : ¬ (ops.length ≤ i ∧ i < ops.length + count) := by omega
      have hcount : ((List.range count).map fun v =>
          MsrBatchOp.zero.fill msr (BitVec.ofNat 64 (pick v))).length = count := by
        rw [List.length_map, List.length_range]
      rw [List.getElem?_append_right (by omega), hcount, List.getElem?_replicate,
        List.getElem?_replicate]
      simp only [if_neg hnot, Option.map_id']
      congr 1
      rw [eq_iff_iff]
      omega

theorem fill_place (msr cpu : Nat) :
    (MsrBatchOp.zero.fill msr (BitVec.ofNat 64 cpu)).place = opPlace msr cpu := by
  rw [MsrBatchOp.place, MsrBatchOp.fill, opPlace]
  simp only [BitVec.toNat_setWidth, BitVec.toNat_ofNat, Prod.mk.injEq, and_true]
  omega

/-- A load into a fresh row appends its ops, and its pointers are in order. -/
theorem Loaded.fresh {msr count : Nat} {pick : Nat → Nat} {a : OpArray} {s' : Loading}
    (hfresh : Fresh st b id size places) (hroom : places.length + count ≤ size)
    (hentry : st.entry b = ⟨places.length, some a⟩)
    (hl : Loaded msr pick b places.length a ⟨List.replicate count none, st⟩ count s') :
    s'.val = rowPtrs id places.length count ∧
      Fresh s'.st b id size (places ++ (List.range count).map fun v => opPlace msr (pick v)) ∧
      KeepsOthers st b s'.st := by
  obtain ⟨ops, hle, hops, hplaces, hzero⟩ := hfresh.ops
  have hlen : ops.length = places.length := by rw [← hplaces, List.length_map]
  rw [hops, hlen] at hentry
  obtain rfl := Option.some.inj (MsrBatchArray.mk.inj hentry).2
  refine ⟨?_, ⟨hl.sized, (hl.capacity b).trans hfresh.capacity, hfresh.small,
    ops ++ (List.range count).map (fun v => MsrBatchOp.zero.fill msr (BitVec.ofNat 64 (pick v))),
    ?_, ?_, ?_, ?_⟩, hl.entry_ne, fun b' _ => hl.capacity b'⟩
  · apply List.ext_getElem?
    intro j
    rw [hl.val]
    by_cases hj : j < count
    · rw [if_pos hj, rowPtrs_getElem? hj]
    · rw [if_neg hj, rowPtrs, List.getElem?_eq_none (by simpa using hj),
        List.getElem?_eq_none (by simpa using hj)]
  · simp only [List.length_append, List.length_map, List.length_range]
    omega
  · rw [hl.entry, ← hlen, filledSlots_append _ _ _ (by omega)]
    simp only [List.length_append, List.length_map, List.length_range, Nat.sub_sub]
  · rw [List.map_append, hplaces, List.map_map]
    refine congrArg _ (List.map_congr_left fun v _ => ?_)
    exact fill_place msr (pick v)
  · intro op hop
    rcases List.mem_append.mp hop with hold | hnew
    · exact hzero op hold
    · -- a filled op is a read without data
      obtain ⟨v, -, rfl⟩ := List.mem_map.mp hnew
      exact ⟨rfl, rfl⟩

/-- A fresh row has room for the ops that were not loaded yet. -/
theorem Fresh.roomFor {count : Nat} (h : Fresh st b id size places)
    (hroom : places.length + count ≤ size) :
    ∃ a, RoomFor st b places.length count a ∧ st.entry b = ⟨places.length, some a⟩ := by
  obtain ⟨ops, hle, hentry, rfl, -⟩ := h.ops
  have hlen : (ops ++ List.replicate (size - ops.length) MsrBatchOp.zero).length = size := by
    rw [List.length_append, List.length_replicate]
    omega
  rw [List.length_map] at hroom ⊢
  refine ⟨_, ⟨h.sized, hentry, ?_, ?_, ?_⟩, hentry⟩
  · exact h.capacity.trans hlen.symm
  · exact hroom.trans hlen.ge
  · exact hlen.trans_lt h.small

end Loading

/-! ## The load functions -/

/-- The machine's objects of one kind: `load_*_batch` finds the CPU `pick v` for
    number `v`, and every CPU number fits the 16 bits of an op. -/
structure Picks (cfg : CoreConfig) (g : Topo) (key : HwThread → Nat) (count : Nat)
    (pick : Nat → Nat) : Prop where
  fits : cfg.numDevs ≤ 2 ^ 16
  lt : ∀ v, v < count → pick v < cfg.numDevs
  first : ∀ v, v < count →
    firstDev g (fun entry => key entry = v) 0 cfg.numDevs = some (some (pick v))

/-- The inner loop of a load stops at a CPU that matches. -/
theorem firstDev_matches {g : Topo} {p : HwThread → Bool} {start k i : Nat}
    (h : firstDev g p start k = some (some i)) :
    ∃ e, g.threadMap[i]? = some (some e) ∧ p e = true := by
  induction k generalizing start with
  | zero => simp [firstDev] at h
  | succ k ih =>
    rw [firstDev] at h
    split at h
    · rename_i e he
      by_cases hp : p e = true
      · rw [if_pos hp] at h
        obtain rfl := Option.some.inj (Option.some.inj h)
        exact ⟨e, he, hp⟩
      · rw [if_neg hp] at h
        exact ih h
    · contradiction

/-- The same where only the CPU numbers that were found have to fit. -/
structure PicksFit (cfg : CoreConfig) (g : Topo) (key : HwThread → Nat) (count : Nat)
    (pick : Nat → Nat) : Prop where
  fits : ∀ v, v < count → pick v < 2 ^ 16
  lt : ∀ v, v < count → pick v < cfg.numDevs
  first : ∀ v, v < count →
    firstDev g (fun entry => key entry = v) 0 cfg.numDevs = some (some (pick v))

section Picked

variable {cfg : CoreConfig} {g : Topo} {key : HwThread → Nat} {count : Nat} {pick : Nat → Nat}

theorem Picks.fit (h : Picks cfg g key count pick) : PicksFit cfg g key count pick :=
  ⟨fun v hv => (h.lt v hv).trans_le h.fits, h.lt, h.first⟩

section Fit

variable (h : PicksFit cfg g key count pick)
include h

/-- Different numbers are different CPUs. -/
theorem PicksFit.injective {v w : Nat} (hv : v < count) (hw : w < count)
    (heq : pick v = pick w) : v = w := by
  obtain ⟨e, he, hkey⟩ := firstDev_matches (h.first v hv)
  obtain ⟨e', he', hkey'⟩ := firstDev_matches (h.first w hw)
  rw [heq, he'] at he
  obtain rfl := Option.some.inj (Option.some.inj he)
  exact (of_decide_eq_true hkey).symm.trans (of_decide_eq_true hkey')

/-- There are no more of them than numbers that fit. -/
theorem PicksFit.count_le : count ≤ 2 ^ 16 := by
  let f : Fin count → Fin (2 ^ 16) := fun v => ⟨pick v, h.fits v v.isLt⟩
  have hinj : Function.Injective f := by
    intro v w heq
    exact Fin.ext (h.injective v.isLt w.isLt (congrArg Fin.val heq))
  have hcard := Fintype.card_le_of_injective f hinj
  rwa [Fintype.card_fin, Fintype.card_fin] at hcard

/-- The ops of a load go to the CPUs that were picked. -/
theorem PicksFit.places {msr : Nat} (hmsr : msr < 2 ^ 32) :
    ((List.range count).map fun v => opPlace msr (pick v)) =
      (List.range count).map fun v => (pick v, msr) :=
  List.map_congr_left fun v hv => opPlace_of_lt hmsr (h.fits v (List.mem_range.mp hv))

theorem PicksFit.places_nodup (msr : Nat) :
    ((List.range count).map fun v => (pick v, msr)).Nodup := by
  refine List.Nodup.map_on (fun v hv w hw heq => ?_) List.nodup_range
  exact h.injective (List.mem_range.mp hv) (List.mem_range.mp hw) (Prod.mk.inj heq).1

end Fit

end Picked

/-- On a machine that is addressed alike both ways, sockets and cores are found. -/
theorem Machine.Addressing.picks {m : Machine} {g : Topo} (h : m.Addressing g)
    (hfits : m.config.numDevs ≤ 2 ^ 16) :
    Picks m.config g HwThread.socketId m.config.sockets (fun s => m.indexOf g s 0 0) ∧
      Picks m.config g HwThread.coreId (m.config.sockets * m.config.coresPerSocket)
        (fun v => m.indexOf g (v / m.C) (v % m.C) 0) := by
  have hlt : ∀ s c, s < m.S → c < m.C → m.indexOf g s c 0 < m.config.numDevs := by
    intro s c hs hc
    exact h.bijOn.mapsTo (x := (s, c, 0)) ⟨hs, hc, m.threads_pos⟩
  constructor
  · exact ⟨hfits, fun s hs => hlt s 0 hs m.cores_pos, fun s hs => h.socketPick s hs⟩
  · have hdigits : ∀ v, v < m.S * m.C → v / m.C < m.S ∧ v % m.C < m.C := by
      intro v hv
      exact ⟨Nat.div_lt_of_lt_mul (Nat.mul_comm m.S m.C ▸ hv), Nat.mod_lt v m.cores_pos⟩
    refine ⟨hfits, fun v hv => ?_, fun v hv => ?_⟩
    · obtain ⟨hs, hc⟩ := hdigits v hv
      exact hlt _ _ hs hc
    · obtain ⟨hs, hc⟩ := hdigits v hv
      have hpick := h.corePick _ _ hs hc
      rwa [Nat.div_add_mod'] at hpick

section Functions

variable {cfg : CoreConfig} {g : Topo} {st : BatchStorage} {b id size : Nat}
  {places : List (Nat × Nat)} {pick : Nat → Nat}

theorem Fresh.loadSocketBatch (h : Fresh st b id size places) (msr : Nat)
    (hfirst : ∀ v, v < cfg.sockets →
      firstDev g (fun entry => entry.socketId = v) 0 cfg.numDevs = some (some (pick v)))
    (hroom : places.length + cfg.sockets ≤ size) :
    ∃ st', loadSocketBatch cfg g st msr (some (List.replicate cfg.sockets none)) b =
        some (0, some (rowPtrs id places.length cfg.sockets), st') ∧
      Fresh st' b id size (places ++ (List.range cfg.sockets).map fun v => opPlace msr (pick v)) ∧
      KeepsOthers st b st' := by
  obtain ⟨a, hfor, hentry⟩ := h.roomFor hroom
  obtain ⟨s', hs', hloaded⟩ := loadSocketBatch_spec msr hfor
    (Nat.le_of_eq (List.length_replicate ..).symm) pick hfirst
  obtain ⟨hval, hfresh, hkeep⟩ := hloaded.fresh h hroom hentry
  exact ⟨s'.st, by rw [hs', hval], hfresh, hkeep⟩

theorem Fresh.loadCoreBatch (h : Fresh st b id size places) (msr : Nat)
    (hfirst : ∀ v, v < cfg.sockets * cfg.coresPerSocket →
      firstDev g (fun entry => entry.coreId = v) 0 cfg.numDevs = some (some (pick v)))
    (hroom : places.length + cfg.sockets * cfg.coresPerSocket ≤ size) :
    ∃ st', loadCoreBatch cfg g st msr
        (some (List.replicate (cfg.sockets * cfg.coresPerSocket) none)) b =
        some (0, some (rowPtrs id places.length (cfg.sockets * cfg.coresPerSocket)), st') ∧
      Fresh st' b id size (places ++
        (List.range (cfg.sockets * cfg.coresPerSocket)).map fun v => opPlace msr (pick v)) ∧
      KeepsOthers st b st' := by
  obtain ⟨a, hfor, hentry⟩ := h.roomFor hroom
  obtain ⟨s', hs', hloaded⟩ := loadCoreBatch_spec msr hfor
    (Nat.le_of_eq (List.length_replicate ..).symm) pick hfirst
  obtain ⟨hval, hfresh, hkeep⟩ := hloaded.fresh h hroom hentry
  exact ⟨s'.st, by rw [hs', hval], hfresh, hkeep⟩

variable (cfg) in
theorem Fresh.loadThreadBatch (h : Fresh st b id size places) (msr : Nat)
    (hroom : places.length + cfg.numDevs ≤ size) :
    ∃ st', loadThreadBatch cfg st msr (some (List.replicate cfg.numDevs none)) b =
        some (0, some (rowPtrs id places.length cfg.numDevs), st') ∧
      Fresh st' b id size (places ++ (List.range cfg.numDevs).map fun v => opPlace msr v) ∧
      KeepsOthers st b st' := by
  obtain ⟨a, hfor, hentry⟩ := h.roomFor hroom
  obtain ⟨s', hs', hloaded⟩ := loadThreadBatch_spec msr hfor
    (Nat.le_of_eq (List.length_replicate ..).symm)
  obtain ⟨hval, hfresh, hkeep⟩ := hloaded.fresh h hroom hentry
  exact ⟨s'.st, by rw [hs', hval], hfresh, hkeep⟩

end Functions

/-! ## A platform that works -/

/-- The driver that does what is assumed of it, on a host whose devices are all
    open. -/
theorem inOrder_works {n : Nat} (hn : n < 2 ^ 31) (fd : Int) (regs : RegFile) :
    BatchDriver.inOrder.Works fd { Host.opened n with regs := regs } n := by
  have hready := Host.opened_ready n
  refine ⟨⟨fun _ => inOrder_spec, ⟨hready.length, hready.entry⟩, hn, fun cpu hcpu msr => ?_⟩,
    fun _ h' ops => ?_⟩
  · exact ⟨decide_eq_true hcpu, decide_eq_true hcpu⟩
  · show h'.SameDevices (if _ then h' else _)
    split
    · exact .refl h'
    · exact ⟨rfl, rfl, rfl, rfl⟩

/-- Two sockets of one core with one thread. -/
def twoSockets : Platform where
  cfg := ⟨1, 1, 2⟩
  topo := ⟨[some ⟨0, 0, 0, 0, 0⟩, some ⟨1, 1, 1, 1, 0⟩], false⟩
  drv := .inOrder
  batchfd := 3

theorem twoSockets_picks :
    Picks twoSockets.cfg twoSockets.topo HwThread.socketId twoSockets.cfg.sockets id ∧
      Picks twoSockets.cfg twoSockets.topo HwThread.coreId
        (twoSockets.cfg.sockets * twoSockets.cfg.coresPerSocket) id :=
  ⟨⟨by decide, by decide, by decide⟩, ⟨by decide, by decide, by decide⟩⟩

end Libmsr
