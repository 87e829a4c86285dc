/-
  Libmsr.Core.CoordBatch

  A batch that is built from coordinates: `read_msr_by_coord_batch`
  (src/msr_core.c), and what it has in common with the functions that access a
  coordinate at once.

  - `eachStep`: every read and every write by `read_msr_by_coord` and
    `write_msr_by_coord`, one register after the other.
  - `coordBatchStep`: the same through the pointers and the batch.
  - `coordBatch_refines`: any sequence of reads, stores and writes, with the
    registers changing in between, does the same both ways.
-/
import Libmsr.Core.RowLoading
import Libmsr.Lib.Runs

namespace Libmsr

open BatchStorage Scatter

/-! ## The model -/

/-- A coordinate and a register. -/
structure CoordMsr where
  socket : BitVec 32
  core : BitVec 32
  thread : BitVec 32
  msr : Nat
  deriving Repr, DecidableEq

/-- `read_msr_by_coord_batch`: return code, `*val` and the batches.  It returns 0 whatever
    the assertions and `create_batch_op` return, and a full batch leaves `*val` alone. -/
def readMsrByCoordBatch (cfg : CoreConfig) (g : Topo) (st : BatchStorage) (x : CoordMsr)
    (val : Option Ptr) (batchnum : Nat) : Option (Int × Option Ptr × BatchStorage) :=
  let _ := socketsAssert cfg x.socket
  let _ := coresAssert cfg x.core
  let _ := threadsAssert cfg x.thread
  (createBatchOp st x.msr (devidx cfg g x.socket x.core x.thread) batchnum).map
    fun r => (0, r.2.1.or val, r.2.2)

/-- `read_msr_by_coord_batch` for each of the coordinates, into an array of NULLs. -/
def loadCoords (cfg : CoreConfig) (g : Topo) (batchnum : Nat) :
    List CoordMsr → BatchStorage → Option (List (Option Ptr) × BatchStorage)
  | [], st => some ([], st)
  | x :: xs, st => do
    let (_, p, st) ← readMsrByCoordBatch cfg g st x none batchnum
    let (ps, st) ← loadCoords cfg g batchnum xs st
    some (p :: ps, st)

/-- `read_msr_by_coord` for each of the coordinates, over the values that are there. -/
def readEach (cfg : CoreConfig) (g : Topo) : List (CoordMsr × Word) → Host → List Word × Host
  | [], h => ([], h)
  | (x, v) :: l, h =>
    let (_, v, h) := readMsrByCoord cfg g h x.socket x.core x.thread x.msr v
    let (vs, h) := readEach cfg g l h
    (v :: vs, h)

/-- `write_msr_by_coord` for each of the coordinates. -/
def writeEach (cfg : CoreConfig) (g : Topo) : List (CoordMsr × Word) → Host → Host
  | [], h => h
  | (x, v) :: l, h =>
    writeEach cfg g l (writeMsrByCoord cfg g h x.socket x.core x.thread x.msr v).2

/-! ## Two machines -/

/-- What a program does with its registers, and what happens to them. -/
inductive CoordCall where
  /-- The registers change. -/
  | change (regs : RegFile)
  | read
  /-- A value is replaced. -/
  | store (i : Nat) (val : Word)
  | write

/-- The values a program has, and the machine. -/
structure EachState where
  vals : List Word
  host : Host

/-- A call with the functions that access a coordinate at once. -/
def eachStep (cfg : CoreConfig) (g : Topo) (xs : List CoordMsr) (s : EachState) :
    CoordCall → EachState
  | .change regs => { s with host := { s.host with regs := regs } }
  | .read =>
    let (vals, host) := readEach cfg g (xs.zip s.vals) s.host
    ⟨vals, host⟩
  | .store i val => { s with vals := s.vals.set i val }
  | .write => { s with host := writeEach cfg g (xs.zip s.vals) s.host }

/-- A call with a batch, through the pointers to its ops. -/
def coordBatchStep (P : Platform) (batchnum : Nat) (ptrs : List (Option Ptr)) (w : BatchWorld) :
    CoordCall → Option BatchWorld
  | .change regs => some { w with host := { w.host with regs := regs } }
  | .read => w.readBatch P batchnum
  | .store i val => w.modify batchnum ptrs i fun _ => val
  | .write => w.writeBatch P batchnum

/-! ## One register after the other -/

namespace CoordMsr

variable (cfg : CoreConfig) (g : Topo) (x : CoordMsr)

/-- The CPU of the coordinate. -/
def cpu : Nat := flatIndex cfg g.discontinuousMapping x.socket.toNat x.core.toNat x.thread.toNat

/-- The register. -/
def place : Nat × Nat := (x.cpu cfg g, x.msr)

/-- The coordinate exists and its register can be read. -/
structure Reads (h : Host) : Prop where
  inRange : InRange cfg x.socket.toNat x.core.toNat x.thread.toNat
  msr_lt : x.msr < 2 ^ 32
  reads : h.fails (x.cpu cfg g) x.msr = false

variable {cfg g x}

theorem Reads.of_sameDevices {h h' : Host} (hx : x.Reads cfg g h) (hsame : h.SameDevices h') :
    x.Reads cfg g h' :=
  ⟨hx.inRange, hx.msr_lt, by rw [hsame.fails]; exact hx.reads⟩

end CoordMsr

section Each

variable {cfg : CoreConfig} {g : Topo} {h : Host} (hfits : cfg.numDevs < 2 ^ 31)
  (hready : h.Ready cfg.numDevs)
include hfits hready

theorem readEach_spec {xs : List CoordMsr} (hxs : ∀ x ∈ xs, x.Reads cfg g h) {vals : List Word}
    (hlen : vals.length = xs.length) :
    (readEach cfg g (xs.zip vals) h).1 = xs.map (fun x => h.regs (x.cpu cfg g) x.msr) ∧
      (readEach cfg g (xs.zip vals) h).2.regs = h.regs ∧
      h.SameDevices (readEach cfg g (xs.zip vals) h).2 := by
  induction xs generalizing vals h with
  | nil => exact ⟨rfl, rfl, .refl h⟩
  | cons x xs ih =>
    obtain ⟨v, vals, rfl⟩ := List.exists_cons_of_length_eq_add_one hlen
    have hx := hxs x (List.mem_cons_self ..)
    have hread := readMsrByCoord_inRange cfg g x.socket x.core x.thread x.msr rfl hfits hready
      hx.inRange v
    rw [← CoordMsr.cpu, hx.reads, if_neg Bool.false_ne_true] at hread
    have hsame := (Host.SameDevices.refl h).log (.read (x.cpu cfg g) x.msr)
    obtain ⟨hvals, hregs, hsame'⟩ := ih (hsame.ready hready)
      (fun y hy => (hxs y (List.mem_cons_of_mem _ hy)).of_sameDevices hsame)
      (Nat.succ.inj hlen)
    simp only [List.zip_cons_cons, readEach, hread, List.map_cons, hvals]
    exact ⟨rfl, hregs, hsame.trans hsame'⟩

theorem writeEach_spec {xs : List CoordMsr} (hxs : ∀ x ∈ xs, x.Reads cfg g h)
    (hwrites : ∀ x ∈ xs, h.failsWrite (x.cpu cfg g) x.msr = false) {vals : List Word}
    (hlen : vals.length = xs.length) :
    RegFile.at (writeEach cfg g (xs.zip vals) h).regs =
        scatter (RegFile.at h.regs) (xs.map (CoordMsr.place cfg g)) vals ∧
      h.SameDevices (writeEach cfg g (xs.zip vals) h) := by
  induction xs generalizing vals h with
  | nil => exact ⟨rfl, .refl h⟩
  | cons x xs ih =>
    obtain ⟨v, vals, rfl⟩ := List.exists_cons_of_length_eq_add_one hlen
    have hx := hxs x (List.mem_cons_self ..)
    have hwrite := writeMsrByCoord_inRange cfg g x.socket x.core x.thread x.msr rfl hfits hready
      hx.inRange v
    rw [← CoordMsr.cpu, hwrites x (List.mem_cons_self ..), if_neg Bool.false_ne_true] at hwrite
    have hsame := ((Host.SameDevices.refl h).setReg (x.cpu cfg g) x.msr v).log
      (.write (x.cpu cfg g) x.msr v)
    obtain ⟨hregs, hsame'⟩ := ih (hsame.ready hready)
      (fun y hy => (hxs y (List.mem_cons_of_mem _ hy)).of_sameDevices hsame)
      (fun y hy => hwrites y (List.mem_cons_of_mem _ hy)) (Nat.succ.inj hlen)
    have hset : RegFile.at ((h.setReg (x.cpu cfg g) x.msr v).log
        (.write (x.cpu cfg g) x.msr v)).regs =
          Function.update (RegFile.at h.regs) (x.place cfg g) v := by
      funext p
      simp only [RegFile.at, Host.log_regs, Host.setReg, Function.update_apply, CoordMsr.place,
        Prod.ext_iff]
    simp only [List.zip_cons_cons, writeEach, hwrite, List.map_cons, scatter_cons]
    rw [hregs, hset]
    exact ⟨rfl, hsame.trans hsame'⟩

end Each

/-! ## Loading the batch -/

/-- One more op in a row that has room. -/
theorem Fresh.create {st : BatchStorage} {b id size : Nat} {places : List (Nat × Nat)}
    (h : Fresh st b id size places) (hroom : places.length < size) (msr : Nat) (cpu : Word) :
    ∃ st', createBatchOp st msr cpu b = some (0, some ⟨id, places.length⟩, st') ∧
      Fresh st' b id size (places ++ [opPlace msr cpu.toNat]) ∧ KeepsOthers st b st' := by
  obtain ⟨ops, hle, hentry, rfl, hzero⟩ := h.ops
  rw [List.length_map] at hroom ⊢
  have hslot : (ops ++ List.replicate (size - ops.length) MsrBatchOp.zero)[ops.length]? =
      some .zero := by
    rw [List.getElem?_append_right (Nat.le_refl _), Nat.sub_self, List.getElem?_replicate,
      if_pos (by omega)]
  have hnum : (st.entry b).numops = ops.length := by rw [hentry]
  have hops : (st.entry b).ops =
      some ⟨id, ops ++ List.replicate (size - ops.length) .zero⟩ := by rw [hentry]
  obtain ⟨st', hst', hup⟩ := createBatchOp_spec h.sized msr cpu (b := b)
    (by rw [hnum, h.capacity]; exact hle) hops (by rw [hnum]; exact hslot)
  have hsmall := h.small
  have hrest : List.replicate (size - ops.length) MsrBatchOp.zero =
      .zero :: List.replicate (size - (ops.length + 1)) .zero := by
    rw [← List.replicate_succ]
    congr 1
    omega
  have hplace : (MsrBatchOp.zero.fill msr cpu).place = opPlace msr cpu.toNat := by
    rw [MsrBatchOp.place, MsrBatchOp.fill, opPlace, BitVec.toNat_setWidth, BitVec.toNat_ofNat]
  rw [hnum] at hst' hup
  refine ⟨st', hst', ⟨hup.sized, (hup.capacity b).trans h.capacity, h.small,
    ops ++ [MsrBatchOp.zero.fill msr cpu], ?_, ?_, ?_, ?_⟩, hup.keepsOthers⟩
  · rw [List.length_append, List.length_singleton]
    omega
  · rw [hup.entry, Nat.mod_eq_of_lt (by omega), hrest, List.set_append_right _ _ (Nat.le_refl _),
      Nat.sub_self, List.set_cons_zero, List.length_append, List.length_singleton,
      List.append_assoc, List.singleton_append]
  · rw [List.map_append, List.map_singleton, hplace]
  · intro op hop
    rcases List.mem_append.mp hop with hold | hnew
    · exact hzero op hold
    · obtain rfl := List.mem_singleton.mp hnew
      exact ⟨rfl, rfl⟩

theorem rowPtrs_succ (id k count : Nat) :
    rowPtrs id k (count + 1) = some ⟨id, k⟩ :: rowPtrs id (k + 1) count := by
  rw [rowPtrs, List.range_succ_eq_map, List.map_cons, List.map_map, rowPtrs]
  refine congrArg _ (List.map_congr_left fun j _ => ?_)
  rw [Function.comp_apply, Nat.succ_eq_add_one, Nat.add_right_comm, Nat.add_assoc]

/-- **Loading coordinates.**  Op `i` is on the register of coordinate `i`. -/
theorem loadCoords_spec {cfg : CoreConfig} {g : Topo} {b id size : Nat} {h : Host}
    (hdevs : cfg.numDevs ≤ 2 ^ 16) {xs : List CoordMsr} (hxs : ∀ x ∈ xs, x.Reads cfg g h)
    {st : BatchStorage} {places : List (Nat × Nat)} (hfresh : Fresh st b id size places)
    (hroom : places.length + xs.length ≤ size) :
    ∃ st', loadCoords cfg g b xs st = some (rowPtrs id places.length xs.length, st') ∧
      Fresh st' b id size (places ++ xs.map (CoordMsr.place cfg g)) ∧ KeepsOthers st b st' := by
  induction xs generalizing st places with
  | nil =>
    refine ⟨st, rfl, ?_, .refl st b⟩
    rw [List.map_nil, List.append_nil]
    exact hfresh
  | cons x xs ih =>
    rw [List.length_cons] at hroom
    have hx := hxs x (List.mem_cons_self ..)
    obtain ⟨st₁, hst₁, hfresh₁, hkeep₁⟩ := hfresh.create (by omega) x.msr
      (devidx cfg g x.socket x.core x.thread)
    -- the CPU number fits the 16 bits of the op
    have hplace : opPlace x.msr (devidx cfg g x.socket x.core x.thread).toNat = x.place cfg g := by
      obtain ⟨hidx, hlt⟩ := devidx_inRange (g := g) (by omega : cfg.numDevs < 2 ^ 31) hx.inRange
      rw [BitVec.toNat_setWidth] at hidx hlt
      have hmsr := hx.msr_lt
      rw [opPlace, CoordMsr.place, CoordMsr.cpu, ← hidx, Nat.mod_eq_of_lt hmsr, Prod.mk.injEq]
      omega
    rw [hplace] at hfresh₁
    obtain ⟨st₂, hst₂, hfresh₂, hkeep₂⟩ := ih (fun y hy => hxs y (List.mem_cons_of_mem _ hy))
      hfresh₁ (by rw [List.length_append, List.length_singleton]; omega)
    rw [List.length_append, List.length_singleton] at hst₂
    rw [List.append_assoc, List.singleton_append, ← List.map_cons] at hfresh₂
    refine ⟨st₂, ?_, hfresh₂, hkeep₁.trans hkeep₂⟩
    simp only [loadCoords, readMsrByCoordBatch, hst₁, Option.map_some, Option.some_or, hst₂,
      Option.bind_eq_bind, Option.bind_some, List.length_cons, rowPtrs_succ]

/-! ## The two machines do the same -/

/-- A store is to one of the values, and what is written can be written. -/
def CoordCall.Allowed (cfg : CoreConfig) (g : Topo) (h : Host) (xs : List CoordMsr) :
    CoordCall → Prop
  | .store i _ => i < xs.length
  | .write => ∀ x ∈ xs, h.failsWrite (x.cpu cfg g) x.msr = false
  | _ => True

/-- The batch holds the values and both machines have the same registers. -/
structure HoldsEach (P : Platform) (b id : Nat) (xs : List CoordMsr) (h : Host) (w : BatchWorld)
    (s : EachState) : Prop where
  row : Row w.st b id (xs.map (CoordMsr.place P.cfg P.topo)) s.vals
  regs : w.host.regs = s.host.regs
  same : h.SameDevices w.host
  same' : h.SameDevices s.host

section Refine

variable {P : Platform} {h : Host} {b id : Nat} {xs : List CoordMsr}
  (hworks : P.drv.Works P.batchfd h P.cfg.numDevs) (hxs : ∀ x ∈ xs, x.Reads P.cfg P.topo h)
include hworks hxs

/-- **Step lemma.** -/
theorem HoldsEach.step {w : BatchWorld} {s : EachState} (hI : HoldsEach P b id xs h w s)
    {c : CoordCall} (hc : c.Allowed P.cfg P.topo h xs) :
    ∃ w', coordBatchStep P b (rowPtrs id 0 xs.length) w c = some w' ∧
      HoldsEach P b id xs h w' (eachStep P.cfg P.topo xs s c) := by
  obtain ⟨hrow, hregs, hsame, hsame'⟩ := hI
  have hlen : s.vals.length = xs.length := by rw [hrow.length_eq, List.length_map]
  have hready : s.host.Ready P.cfg.numDevs := hsame'.ready hworks.ready
  have hxs' : ∀ x ∈ xs, x.Reads P.cfg P.topo s.host :=
    fun x hx => (hxs x hx).of_sameDevices hsame'
  cases c with
  | change regs =>
    exact ⟨_, rfl, hrow, rfl, hsame.trans ⟨rfl, rfl, rfl, rfl⟩, hsame'.trans ⟨rfl, rfl, rfl, rfl⟩⟩
  | read =>
    have hok : ∀ p ∈ xs.map (CoordMsr.place P.cfg P.topo), w.host.fails p.1 p.2 = false := by
      intro p hp
      obtain ⟨x, hx, rfl⟩ := List.mem_map.mp hp
      rw [hsame.fails]
      exact (hxs x hx).reads
    obtain ⟨w', hw', hrow', hregs', hdevs, -⟩ :=
      hrow.readBatch (hworks.of_sameDevices hsame) hok
    obtain ⟨hvals, heach, hsame''⟩ := readEach_spec hworks.fits hready hxs' hlen
    refine ⟨w', hw', ?_, hregs'.trans (hregs.trans heach.symm), hsame.trans hdevs,
      hsame'.trans hsame''⟩
    rw [List.map_map, hregs] at hrow'
    show Row w'.st b id _ (readEach P.cfg P.topo (xs.zip s.vals) s.host).1
    rw [hvals]
    exact hrow'
  | store i val =>
    have hi : i < xs.length := hc
    obtain ⟨x, hx⟩ : ∃ x, s.vals[i]? = some x :=
      ⟨s.vals[i], List.getElem?_eq_getElem (by omega)⟩
    have hptr : ptrAt (rowPtrs id 0 xs.length) i = some ⟨id, i⟩ := by
      rw [ptrAt, rowPtrs_getElem? hi, Option.join_some, Nat.zero_add]
    obtain ⟨w', hw', hrow', hhost, -⟩ := hrow.modify hptr hx fun _ => val
    refine ⟨w', hw', hrow', ?_, ?_, hsame'⟩
    · rw [hhost]
      exact hregs
    · rw [hhost]
      exact hsame
  | write =>
    have hok : ∀ p ∈ xs.map (CoordMsr.place P.cfg P.topo), w.host.failsWrite p.1 p.2 = false := by
      intro p hp
      obtain ⟨x, hx, rfl⟩ := List.mem_map.mp hp
      rw [hsame.failsWrite]
      exact hc x hx
    obtain ⟨w', hw', hrow', hregs', hdevs, -⟩ :=
      hrow.writeBatch (hworks.of_sameDevices hsame) hok
    obtain ⟨heach, hsame''⟩ := writeEach_spec hworks.fits hready hxs'
      (fun x hx => by rw [hsame'.failsWrite]; exact hc x hx) hlen
    refine ⟨w', hw', hrow', ?_, hsame.trans hdevs, hsame'.trans hsame''⟩
    -- both scatter the values in the order of the coordinates
    rw [hregs, ← heach] at hregs'
    funext cpu msr
    exact congrFun hregs' (cpu, msr)

/-- **A batch of coordinates.**  After `allocate_batch` and `read_msr_by_coord_batch` for
    each coordinate, any sequence of reads, stores through the pointers and writes,
    with the registers changing in between, leaves at the pointers and in the registers
    what accessing each coordinate at once leaves. -/
theorem coordBatch_refines {st : BatchStorage} (hsized : st.Sized) (hempty : st.entry b = .empty)
    (hdevs : P.cfg.numDevs ≤ 2 ^ 16) {size : Nat} (hroom : xs.length ≤ size)
    (hsize : size < 2 ^ 31) {calls : List CoordCall}
    (hcalls : ∀ c ∈ calls, c.Allowed P.cfg P.topo h xs) :
    ∃ st₁ st₂ ptrs w', allocateBatch st b size = some (0, st₁) ∧
      loadCoords P.cfg P.topo b xs st₁ = some (ptrs, st₂) ∧
      Runs.run (coordBatchStep P b ptrs) ⟨st₂, h⟩ calls = some w' ∧
      let s' := calls.foldl (eachStep P.cfg P.topo xs) ⟨List.replicate xs.length 0, h⟩
      (∀ i, i < xs.length → (ptrAt ptrs i).bind (w'.st.load b) = s'.vals[i]?) ∧
        w'.host.regs = s'.host.regs := by
  obtain ⟨st₁, hst₁, hfresh₁, -⟩ := allocateBatch_fresh hsized hempty hsize
  obtain ⟨st₂, hst₂, hfresh₂, -⟩ := loadCoords_spec hdevs hxs hfresh₁ (by simpa using hroom)
  rw [List.length_nil] at hst₂
  rw [List.nil_append] at hfresh₂
  have hrow := hfresh₂.row
  rw [List.length_map] at hrow
  have hstart : HoldsEach P b st.nextId xs h ⟨st₂, h⟩ ⟨List.replicate xs.length 0, h⟩ :=
    ⟨hrow, rfl, .refl h, .refl h⟩
  have hstep : ∀ w s c, HoldsEach P b st.nextId xs h w s → c.Allowed P.cfg P.topo h xs →
      ∃ w', coordBatchStep P b (rowPtrs st.nextId 0 xs.length) w c = some w' ∧
        HoldsEach P b st.nextId xs h w' (eachStep P.cfg P.topo xs s c) :=
    fun _ _ _ hI hc => HoldsEach.step hworks hxs hI hc
  obtain ⟨w', hrun, hI⟩ := Runs.run_record hstep hstart hcalls
  refine ⟨st₁, st₂, _, w', hst₁, hst₂, hrun, fun i hi => ?_, hI.regs⟩
  rw [ptrAt, rowPtrs_getElem? hi, Option.join_some, Nat.zero_add, Option.bind_some]
  exact hI.row.load (by simpa using hi)

end Refine

/-- One register of each socket. -/
def socketPair : List CoordMsr := [⟨0, 0, 0, 0x199⟩, ⟨1, 0, 0, 0x199⟩]

/-- Both registers are read, one value is replaced, and both are written. -/
def pairCalls : List CoordCall :=
  [.change fun cpu _ => BitVec.ofNat 64 cpu, .read, .store 0 7, .write]

theorem twoSockets_coordBatch :
    ∃ st₁ st₂ ptrs w', allocateBatch .init 5 2 = some (0, st₁) ∧
      loadCoords twoSockets.cfg twoSockets.topo 5 socketPair st₁ = some (ptrs, st₂) ∧
      Runs.run (coordBatchStep twoSockets 5 ptrs) ⟨st₂, .opened 2⟩ pairCalls = some w' ∧
      let s' := pairCalls.foldl (eachStep twoSockets.cfg twoSockets.topo socketPair)
        ⟨[0, 0], .opened 2⟩
      (∀ i, i < 2 → (ptrAt ptrs i).bind (w'.st.load 5) = s'.vals[i]?) ∧
        w'.host.regs = s'.host.regs := by
  have hworks : twoSockets.drv.Works twoSockets.batchfd (.opened 2) twoSockets.cfg.numDevs :=
    inOrder_works (by decide : 2 < 2 ^ 31) 3 (Host.opened 2).regs
  have hpair : ∀ x ∈ socketPair, x = ⟨0, 0, 0, 0x199⟩ ∨ x = ⟨1, 0, 0, 0x199⟩ := by
    simp only [socketPair, List.mem_cons, List.not_mem_nil, or_false, imp_self, implies_true]
  have hxs : ∀ x ∈ socketPair, x.Reads twoSockets.cfg twoSockets.topo (.opened 2) := by
    intro x hx
    rcases hpair x hx with rfl | rfl <;> exact ⟨by decide, by decide, by decide⟩
  refine coordBatch_refines hworks hxs BatchStorage.init_sized rfl (by decide) (by decide)
    (by decide) ?_
  simp only [pairCalls, List.mem_cons, List.not_mem_nil, or_false]
  rintro c (rfl | rfl | rfl | rfl)
  · trivial
  · trivial
  · exact Nat.zero_lt_two
  · intro x hx
    rcases hpair x hx with rfl | rfl <;> decide

end Libmsr
