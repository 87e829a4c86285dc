/-
  Libmsr.Core.BatchDirection

  The direction flags of one batch over every sequence of `create_batch_op`,
  `read_batch` and `write_batch` calls.

  `do_batch_op` rewrites the flags only when the first op's flag is opposite to
  the call.  New ops are flagged as reads, so an op created after a write leaves
  a batch whose first op is a write and whose last one is a read: the next write
  then hands a read to the driver.  `Mode` is the abstract direction of a batch;
  its `mixed` state is the one a write must not meet.
-/
import Libmsr.Core.BatchOpSpec
import Libmsr.Lib.Runs

namespace Libmsr

open BatchStorage

/-- A call on the batch. -/
inductive OpCall where
  | create (msr : Nat) (cpu : Word)
  | read
  | write
  deriving Repr, DecidableEq

/-- The table of batches and the host. -/
structure OpState where
  st : BatchStorage
  host : Host

section Calls

variable (drv : BatchDriver) (fd : Int) (b : Nat)

/-- The state after a call on batch `b`. -/
def opStep (s : OpState) : OpCall → Option OpState
  | .create msr cpu => (createBatchOp s.st msr cpu b).map fun r => ⟨r.2.2, s.host⟩
  | .read => (readBatch drv fd s.st s.host b).map fun r => ⟨r.st, r.host⟩
  | .write => (writeBatch drv fd s.st s.host b).map fun r => ⟨r.st, r.host⟩

/-- Every op the call hands to the driver carries the call's direction. -/
def UniformAt (s : OpState) : OpCall → Prop
  | .create msr cpu => (createBatchOp s.st msr cpu b).isSome
  | .read => ∃ r, readBatch drv fd s.st s.host b = some r ∧
      ∀ ops, r.handed = some ops → ∀ op ∈ ops, op.isrdmsr ≠ 0
  | .write => ∃ r, writeBatch drv fd s.st s.host b = some r ∧
      ∀ ops, r.handed = some ops → ∀ op ∈ ops, op.isrdmsr = 0

end Calls

/-! ## The abstract direction -/

/-- The direction of a batch: no ops, all reads, all writes, or writes followed
    by ops created since. -/
inductive Mode where
  | empty
  | reading
  | writing
  | mixed
  deriving Repr, DecidableEq

/-- How a call changes the direction. -/
def Mode.next : Mode → OpCall → Mode
  | .empty, .create .. => .reading
  | .empty, _ => .empty
  | .reading, .write => .writing
  | .reading, _ => .reading
  | .writing, .create .. => .mixed
  | .writing, .read => .reading
  | .writing, .write => .writing
  | .mixed, .read => .reading
  | .mixed, _ => .mixed

/-- No call of the sequence is a write met by a mixed batch: between an executed
    write and the next write, ops are only created if a read follows them. -/
def NoMixedWrite : Mode → List OpCall → Prop
  | _, [] => True
  | m, c :: cs => ¬ (m = .mixed ∧ c = .write) ∧ NoMixedWrite (m.next c) cs

/-- Number of ops a sequence creates. -/
def createCount : List OpCall → Nat
  | [] => 0
  | .create .. :: cs => createCount cs + 1
  | _ :: cs => createCount cs

/-- What the mode says about the ops of the batch. -/
def Mode.Describes : Mode → List MsrBatchOp → Prop
  | .empty, ops => ops = []
  | .reading, ops => ops ≠ [] ∧ ∀ op ∈ ops, op.isrdmsr ≠ 0
  | .writing, ops => ops ≠ [] ∧ ∀ op ∈ ops, op.isrdmsr = 0
  | .mixed, ops => ∃ op rest, ops = op :: rest ∧ op.isrdmsr = 0 ∧ ∃ op' ∈ rest, op'.isrdmsr ≠ 0

/-- Only the flags matter for the direction. -/
theorem Mode.Describes.of_flags {m : Mode} {ops ops' : List MsrBatchOp}
    (hflags : ops'.map MsrBatchOp.isrdmsr = ops.map MsrBatchOp.isrdmsr) (h : m.Describes ops) :
    m.Describes ops' := by
  -- equal lists of flags: every flag of one occurs in the other
  have hmem : ∀ op' ∈ ops', ∃ op ∈ ops, op.isrdmsr = op'.isrdmsr := by
    intro op' hop'
    have : op'.isrdmsr ∈ ops.map MsrBatchOp.isrdmsr := hflags ▸ List.mem_map_of_mem hop'
    simpa using this
  have hnil : ops' = [] ↔ ops = [] := by
    rw [← List.map_eq_nil_iff (f := MsrBatchOp.isrdmsr), hflags, List.map_eq_nil_iff]
  cases m with
  | empty => exact hnil.mpr h
  | reading =>
    refine ⟨fun hn => h.1 (hnil.mp hn), fun op' hop' => ?_⟩
    obtain ⟨op, hop, heq⟩ := hmem op' hop'
    rw [← heq]
    exact h.2 op hop
  | writing =>
    refine ⟨fun hn => h.1 (hnil.mp hn), fun op' hop' => ?_⟩
    obtain ⟨op, hop, heq⟩ := hmem op' hop'
    rw [← heq]
    exact h.2 op hop
  | mixed =>
    obtain ⟨op, rest, rfl, hop, op₂, hop₂, hne⟩ := h
    cases ops' with
    | nil => simp at hflags
    | cons op' rest' =>
      simp only [List.map_cons, List.cons.injEq] at hflags
      refine ⟨op', rest', rfl, hflags.1.trans hop, ?_⟩
      have hin : op₂.isrdmsr ∈ rest'.map MsrBatchOp.isrdmsr :=
        hflags.2 ▸ List.mem_map_of_mem hop₂
      obtain ⟨op₃, hop₃, heq⟩ := List.mem_map.mp hin
      exact ⟨op₃, hop₃, heq ▸ hne⟩

theorem Mode.Describes.eq_empty {m : Mode} {ops : List MsrBatchOp} (h : m.Describes ops)
    (hnil : ops = []) : m = .empty := by
  subst hnil
  cases m with
  | empty => rfl
  | reading => exact absurd rfl h.1
  | writing => exact absurd rfl h.1
  | mixed =>
    obtain ⟨op, rest, heq, -⟩ := h
    exact absurd heq (by simp)

/-- A created op is a read: it keeps a reading batch and mixes a writing one. -/
theorem Mode.Describes.create {m : Mode} {ops : List MsrBatchOp} (h : m.Describes ops)
    (op : MsrBatchOp) (msr : Nat) (cpu : Word) :
    (m.next (.create msr cpu)).Describes (ops ++ [op.fill msr cpu]) := by
  have hfill : (op.fill msr cpu).isrdmsr ≠ 0 := by simp [MsrBatchOp.fill]
  cases m with
  | empty =>
    obtain rfl : ops = [] := h
    exact ⟨by simp, by simpa using hfill⟩
  | reading =>
    refine ⟨by simp, fun op' hop' => ?_⟩
    rcases List.mem_append.mp hop' with hin | hin
    · exact h.2 op' hin
    · obtain rfl := List.mem_singleton.mp hin
      exact hfill
  | writing =>
    cases ops with
    | nil => exact absurd rfl h.1
    | cons op₀ rest =>
      exact ⟨op₀, rest ++ [op.fill msr cpu], rfl, h.2 op₀ (List.mem_cons_self ..),
        op.fill msr cpu, by simp, hfill⟩
  | mixed =>
    obtain ⟨op₀, rest, rfl, hop₀, op₁, hop₁, hne⟩ := h
    exact ⟨op₀, rest ++ [op.fill msr cpu], rfl, hop₀, op₁, List.mem_append_left _ hop₁, hne⟩

/-- Before a read, whatever the direction, the switch leaves only reads. -/
theorem Mode.Describes.switch_read {m : Mode} {ops : List MsrBatchOp} (h : m.Describes ops)
    (hne : ops ≠ []) :
    Mode.reading.Describes (switchFlags .read ops) := by
  cases ops with
  | nil => exact absurd rfl hne
  | cons op rest =>
    by_cases hc : op.Carries .read
    · rw [switchFlags_of_carries hc]
      have hop : op.isrdmsr ≠ 0 := hc.mpr rfl
      cases m with
      | empty => exact absurd h (by simp [Mode.Describes])
      | reading => exact h
      | writing => exact absurd (h.2 op (List.mem_cons_self ..)) hop
      | mixed =>
        obtain ⟨op', rest', heq, hop', -⟩ := h
        obtain ⟨rfl, -⟩ := List.cons.inj heq
        exact absurd hop' hop
    · rw [switchFlags_of_not_carries (by decide) hc]
      refine ⟨by simp, fun op' hop' => ?_⟩
      obtain ⟨op₂, -, rfl⟩ := List.mem_map.mp hop'
      simp

/-- Before a write the switch leaves only writes, unless the batch is mixed. -/
theorem Mode.Describes.switch_write {m : Mode} {ops : List MsrBatchOp} (h : m.Describes ops)
    (hne : ops ≠ []) (hm : m ≠ .mixed) :
    Mode.writing.Describes (switchFlags .write ops) := by
  cases ops with
  | nil => exact absurd rfl hne
  | cons op rest =>
    by_cases hc : op.Carries .write
    · rw [switchFlags_of_carries hc]
      have hop : op.isrdmsr = 0 := by
        by_contra h0
        exact absurd (hc.mp h0) (by decide)
      cases m with
      | empty => exact absurd h (by simp [Mode.Describes])
      | reading => exact absurd hop (h.2 op (List.mem_cons_self ..))
      | writing => exact h
      | mixed => exact absurd rfl hm
    · rw [switchFlags_of_not_carries (by decide) hc]
      refine ⟨by simp, fun op' hop' => ?_⟩
      obtain ⟨op₂, -, rfl⟩ := List.mem_map.mp hop'
      simp

/-- A mixed batch goes to the driver as it is, reads included. -/
theorem Mode.Describes.mixed_write {ops : List MsrBatchOp} (h : Mode.mixed.Describes ops) :
    ∃ op ∈ switchFlags .write ops, op.isrdmsr ≠ 0 := by
  obtain ⟨op, rest, rfl, hop, op', hop', hne⟩ := h
  have hc : op.Carries .write := ⟨fun h0 => absurd hop h0, fun h0 => absurd h0 (by decide)⟩
  rw [switchFlags_of_carries hc]
  exact ⟨op', List.mem_cons_of_mem _ hop', hne⟩

/-! ## The invariant -/

/-- Batch `b` counts `k` ops of an array of `n`, and `m` describes them. -/
structure DirInv (b n : Nat) (m : Mode) (k : Nat) (s : OpState) : Prop where
  sized : s.st.Sized
  capacity : s.st.capacity b = n
  array : ∃ a, s.st.entry b = ⟨k, some a⟩ ∧ a.slots.length = n ∧ m.Describes (a.slots.take k)

/-- The batch right after its allocation. -/
theorem dirInv_allocate {st st0 : BatchStorage} {b N : Nat} (hs : st.Sized)
    (hempty : (st.entry b).numops = 0) (halloc : allocateBatch st b N = some (0, st0)) (h : Host) :
    N % 2 ^ 32 < 2 ^ 31 ∧ DirInv b (N % 2 ^ 32) .empty 0 ⟨st0, h⟩ := by
  have hsize : ¬ ((st.entry b).numops < N % 2 ^ 32 ∧ 2 ^ 31 ≤ N % 2 ^ 32) := by
    intro hbad
    rw [(allocateBatch_none_iff hs b N).mpr hbad] at halloc
    exact absurd halloc (by simp)
  obtain ⟨st', hst', hal⟩ := allocateBatch_spec hs b N hsize
  rw [hst'] at halloc
  obtain ⟨-, rfl⟩ := Prod.mk.inj (Option.some.inj halloc)
  refine ⟨by omega, hal.sized, hal.capacity, ⟨st.nextId, List.replicate (N % 2 ^ 32) .zero⟩, ?_,
    List.length_replicate, rfl⟩
  show st'.entry b = _
  rw [hal.entry, hempty]

section Step

variable {b n k : Nat} {m : Mode} {s : OpState} (hI : DirInv b n m k s)
include hI

/-- A create finds room, and appends a read. -/
theorem DirInv.create (drv : BatchDriver) (fd : Int) (msr : Nat) (cpu : Word) (hk : k < n)
    (hn : n < 2 ^ 31) :
    ∃ s', opStep drv fd b s (.create msr cpu) = some s' ∧
      DirInv b n (m.next (.create msr cpu)) (k + 1) s' ∧
      UniformAt drv fd b s (.create msr cpu) := by
  obtain ⟨a, hent, hlen, hdesc⟩ := hI.array
  have hka : k < a.slots.length := by omega
  have hnum : (s.st.entry b).numops = k := by rw [hent]
  have hops : (s.st.entry b).ops = some a := by rw [hent]
  have hslot : a.slots[(s.st.entry b).numops]? = some a.slots[k] := by
    rw [hnum]
    exact List.getElem?_eq_getElem hka
  have hroom : (s.st.entry b).numops ≤ s.st.capacity b := by
    rw [hnum, hI.capacity]
    omega
  obtain ⟨st', hst', hup⟩ := createBatchOp_spec hI.sized msr cpu hroom hops hslot
  refine ⟨⟨st', s.host⟩, ?_, ⟨hup.sized, ?_,
    ⟨a.id, a.slots.set k (a.slots[k].fill msr cpu)⟩, ?_, ?_, ?_⟩, ?_⟩
  · rw [opStep, hst', Option.map_some]
  · show st'.capacity b = n
    rw [hup.capacity, hI.capacity]
  · show st'.entry b = ⟨k + 1, some ⟨a.id, a.slots.set k (a.slots[k].fill msr cpu)⟩⟩
    rw [hup.entry, hnum, Nat.mod_eq_of_lt (by omega)]
  · show (a.slots.set k _).length = n
    rw [List.length_set, hlen]
  · -- the counted ops are the old ones followed by the new read
    have htake : (a.slots.set k (a.slots[k].fill msr cpu)).take (k + 1) =
        a.slots.take k ++ [a.slots[k].fill msr cpu] := by
      rw [List.take_succ_eq_append_getElem (by rw [List.length_set]; exact hka),
        List.getElem_set_self, List.take_set_of_le (Nat.le_refl k)]
    show Mode.Describes _ ((a.slots.set k (a.slots[k].fill msr cpu)).take (k + 1))
    rw [htake]
    exact hdesc.create _ msr cpu
  · show (createBatchOp s.st msr cpu b).isSome
    rw [hst']
    rfl

/-- An execution of a batch without ops hands nothing to the driver. -/
theorem DirInv.execute_empty (drv : BatchDriver) {fd : Int} (hfd : 0 ≤ fd) (type : BatchOpType)
    (h0 : k = 0) :
    ∃ r, doBatchOp drv fd s.st s.host b type = some r ∧ r.handed = none ∧
      DirInv b n m k ⟨r.st, r.host⟩ := by
  obtain ⟨a, hent, hlen, hdesc⟩ := hI.array
  obtain ⟨st', hst', hup⟩ := doBatchOp_empty drv s.host type hI.sized hfd
    (by rw [hent]; exact h0)
  refine ⟨_, hst', rfl, hup.sized, ?_, a, ?_, hlen, hdesc⟩
  · rw [hup.capacity, hI.capacity]
  · rw [hup.entry, hent]

/-- An execution hands the switched ops to the driver and leaves their flags in
    the array; a mode that describes the switched ops describes the batch
    afterwards. -/
theorem DirInv.execute (drv : BatchDriver) {fd : Int} (hfd : 0 ≤ fd) (type : BatchOpType)
    (hpos : 0 < k) (hkn : k ≤ n) :
    ∃ ops r, ops ≠ [] ∧ m.Describes ops ∧ doBatchOp drv fd s.st s.host b type = some r ∧
      r.handed = some (switchFlags type ops) ∧
      ∀ m' : Mode, m'.Describes (switchFlags type ops) → DirInv b n m' k ⟨r.st, r.host⟩ := by
  obtain ⟨a, hent, hlen, hdesc⟩ := hI.array
  have hnum : (s.st.entry b).numops = k := by rw [hent]
  obtain ⟨st', hst', hup⟩ := doBatchOp_spec drv s.host type hI.sized hfd
    (by omega : 0 < (s.st.entry b).numops) (by rw [hent] : (s.st.entry b).ops = some a) (by omega)
  have hops : handedOps type (s.st.entry b) a = switchFlags type (a.slots.take k) := by
    rw [handedOps, hnum]
  have hcount : (switchFlags type (a.slots.take k)).length = k := by
    rw [switchFlags_length, List.length_take]
    omega
  rw [hops, hnum] at hup
  refine ⟨a.slots.take k, _, ?_, hdesc, hst', congrArg some hops, fun m' hm' => ?_⟩
  · rw [Ne, List.take_eq_nil_iff]
    rintro (h | h)
    · omega
    · rw [h, List.length_nil] at hlen
      omega
  · refine ⟨hup.sized, ?_, _, hup.entry, ?_, ?_⟩
    · rw [hup.capacity, hI.capacity]
    · rw [OpArray.overwrite_length, hlen]
      rw [List.length_mapIdx, hcount]
      omega
    · have htake := OpArray.overwrite_take a ((switchFlags type (a.slots.take k)).mapIdx fun i op =>
        op.reply ((drv.ioctl s.host (switchFlags type (a.slots.take k))).2.1 i))
      rw [List.length_mapIdx, hcount] at htake
      rw [htake]
      -- the replies leave the flags alone
      refine hm'.of_flags ?_
      apply List.ext_getElem
      · simp
      · intro i h1 h2
        simp

/-- What an execution does if the switch turns all ops one way: `m'` describes them
    afterwards, and the driver has been handed no others. -/
theorem DirInv.execute_switched (drv : BatchDriver) {fd : Int} (hfd : 0 ≤ fd)
    (type : BatchOpType) (hkn : k ≤ n) (m' : Mode) (way : MsrBatchOp → Prop)
    (hempty : m = .empty → m' = .empty)
    (hswitch : m ≠ .empty → ∀ ops, ops ≠ [] → m.Describes ops →
      m'.Describes (switchFlags type ops) ∧ ∀ op ∈ switchFlags type ops, way op) :
    ∃ r, doBatchOp drv fd s.st s.host b type = some r ∧ DirInv b n m' k ⟨r.st, r.host⟩ ∧
      ∀ ops, r.handed = some ops → ∀ op ∈ ops, way op := by
  rcases Nat.eq_zero_or_pos k with h0 | hpos
  · obtain ⟨a, hent, hlen, hdesc⟩ := hI.array
    obtain ⟨r, hr, hnone, hI'⟩ := hI.execute_empty drv hfd type h0
    have hm : m = .empty := hdesc.eq_empty (by rw [h0, List.take_zero])
    refine ⟨r, hr, ?_, fun ops hops => ?_⟩
    · rw [hempty hm, ← hm]
      exact hI'
    · rw [hnone] at hops
      contradiction
  · obtain ⟨ops, r, hne, hops, hr, hhand, hkeep⟩ := hI.execute drv hfd type hpos hkn
    -- with ops counted the batch is not empty
    have hm : m ≠ .empty := fun h => hne (by rw [h] at hops; exact hops)
    obtain ⟨hdesc, hway⟩ := hswitch hm ops hne hops
    refine ⟨r, hr, hkeep m' hdesc, fun ops' hops' => ?_⟩
    rw [hhand] at hops'
    obtain rfl := Option.some.inj hops'
    exact hway

/-- A read leaves a batch of reads, whatever it was before. -/
theorem DirInv.read (drv : BatchDriver) {fd : Int} (hfd : 0 ≤ fd) (hkn : k ≤ n) :
    ∃ s', opStep drv fd b s .read = some s' ∧ DirInv b n (m.next .read) k s' ∧
      UniformAt drv fd b s .read := by
  have hempty : m = .empty → m.next .read = .empty := fun hm => by rw [hm]; rfl
  have hswitch : m ≠ .empty → ∀ ops, ops ≠ [] → m.Describes ops →
      (m.next .read).Describes (switchFlags .read ops) ∧
        ∀ op ∈ switchFlags .read ops, op.isrdmsr ≠ 0 := by
    intro hm ops hne hops
    have hread := hops.switch_read hne
    have hnext : m.next .read = .reading := by
      cases m with
      | empty => exact absurd rfl hm
      | _ => rfl
    rw [hnext]
    exact ⟨hread, hread.2⟩
  obtain ⟨r, hr, hI', huniform⟩ :=
    hI.execute_switched drv hfd .read hkn _ _ hempty hswitch
  exact ⟨_, by rw [opStep, readBatch, hr, Option.map_some], hI', r, hr, huniform⟩

/-- A write leaves a batch of writes, unless it meets a mixed batch. -/
theorem DirInv.write (drv : BatchDriver) {fd : Int} (hfd : 0 ≤ fd) (hkn : k ≤ n)
    (hm : m ≠ .mixed) :
    ∃ s', opStep drv fd b s .write = some s' ∧ DirInv b n (m.next .write) k s' ∧
      UniformAt drv fd b s .write := by
  have hempty : m = .empty → m.next .write = .empty := fun hm => by rw [hm]; rfl
  have hswitch : m ≠ .empty → ∀ ops, ops ≠ [] → m.Describes ops →
      (m.next .write).Describes (switchFlags .write ops) ∧
        ∀ op ∈ switchFlags .write ops, op.isrdmsr = 0 := by
    intro hm' ops hne hops
    have hwrite := hops.switch_write hne hm
    have hnext : m.next .write = .writing := by
      cases m with
      | empty => exact absurd rfl hm'
      | mixed => exact absurd rfl hm
      | _ => rfl
    rw [hnext]
    exact ⟨hwrite, hwrite.2⟩
  obtain ⟨r, hr, hI', huniform⟩ :=
    hI.execute_switched drv hfd .write hkn _ _ hempty hswitch
  exact ⟨_, by rw [opStep, writeBatch, hr, Option.map_some], hI', r, hr, huniform⟩

/-- A write that meets a mixed batch hands a read to the driver. -/
theorem DirInv.write_mixed (drv : BatchDriver) {fd : Int} (hfd : 0 ≤ fd) (hkn : k ≤ n)
    (hm : m = .mixed) : ¬ UniformAt drv fd b s .write := by
  rintro ⟨r, hr, huniform⟩
  obtain ⟨a, hent, hlen, hdesc⟩ := hI.array
  -- a mixed batch counts at least one op
  have hpos : 0 < k := by
    rcases Nat.eq_zero_or_pos k with h0 | hpos
    · rw [h0, List.take_zero] at hdesc
      exact absurd (hdesc.eq_empty rfl) (by rw [hm]; decide)
    · exact hpos
  obtain ⟨ops, r', hne, hops, hr', hhand, -⟩ := hI.execute drv hfd .write hpos hkn
  rw [writeBatch, hr'] at hr
  obtain rfl := Option.some.inj hr
  rw [hm] at hops
  obtain ⟨op, hop, hread⟩ := hops.mixed_write
  exact hread (huniform _ hhand op hop)

/-- Every call but the mixed write hands uniform ops to the driver and leaves a
    batch of the next mode. -/
theorem DirInv.step (drv : BatchDriver) {fd : Int} (hfd : 0 ≤ fd) (hn : n < 2 ^ 31) (c : OpCall)
    (hfits : k + createCount [c] ≤ n) (hc : ¬ (m = .mixed ∧ c = .write)) :
    ∃ s', opStep drv fd b s c = some s' ∧ DirInv b n (m.next c) (k + createCount [c]) s' ∧
      UniformAt drv fd b s c := by
  cases c with
  | create msr cpu => exact hI.create drv fd msr cpu hfits hn
  | read => exact hI.read drv hfd hfits
  | write => exact hI.write drv hfd hfits fun hm => hc ⟨hm, rfl⟩

end Step

/-! ## Runs -/

theorem createCount_cons (c : OpCall) (cs : List OpCall) :
    createCount (c :: cs) = createCount [c] + createCount cs := by
  cases c <;> simp [createCount, Nat.add_comm]

/-- A run is uniform exactly when no write of it meets a mixed batch.  Induction
    on the calls, with the invariant carried along. -/
theorem DirInv.along_iff {b n : Nat} (drv : BatchDriver) {fd : Int} (hfd : 0 ≤ fd) (hn : n < 2 ^ 31)
    {m : Mode} {k : Nat} {s : OpState} (hI : DirInv b n m k s) {calls : List OpCall}
    (hfits : k + createCount calls ≤ n) :
    Runs.Along (opStep drv fd b) (UniformAt drv fd b) s calls ↔ NoMixedWrite m calls := by
  induction calls generalizing m k s with
  | nil => exact Iff.rfl
  | cons c cs ih =>
    rw [createCount_cons] at hfits
    rw [Runs.along_cons, NoMixedWrite]
    by_cases hc : m = .mixed ∧ c = .write
    · -- neither side holds of a run that starts with a mixed write
      have hbad : ¬ UniformAt drv fd b s c := by
        rw [hc.2]
        exact hI.write_mixed drv hfd (by omega) hc.1
      exact ⟨fun h => absurd h.1 hbad, fun h => absurd hc h.1⟩
    · obtain ⟨s', hs', hI', huniform⟩ := hI.step drv hfd hn c (by omega) hc
      have hrest := ih hI' (by omega)
      -- the next state is determined, so both sides go on from it
      constructor
      · intro h
        exact ⟨hc, hrest.mp (h.2 s' hs')⟩
      · intro h
        refine ⟨huniform, fun s'' hs'' => ?_⟩
        rw [hs'] at hs''
        obtain rfl := Option.some.inj hs''
        exact hrest.mpr h.2

/-- **Which runs hand uniform batches to the driver.**  On a batch without ops
    whose `allocate_batch` covers every create of the run, each executed batch
    carries its call's direction throughout if and only if no `write_batch`
    comes between a create on an already written batch and the next
    `read_batch`. -/
theorem uniform_along_iff (drv : BatchDriver) {fd : Int} {b N : Nat} {st st0 : BatchStorage}
    (h : Host) (calls : List OpCall) (hfd : 0 ≤ fd) (hs : st.Sized)
    (hempty : (st.entry b).numops = 0) (halloc : allocateBatch st b N = some (0, st0))
    (hlarge : createCount calls ≤ N % 2 ^ 32) :
    Runs.Along (opStep drv fd b) (UniformAt drv fd b) ⟨st0, h⟩ calls ↔
      NoMixedWrite .empty calls := by
  obtain ⟨hn, hI⟩ := dirInv_allocate hs hempty halloc h
  exact hI.along_iff drv hfd hn (by omega)

/-- A driver that does nothing and reports success. -/
def BatchDriver.idle : BatchDriver where
  ioctl h _ := (0, fun _ => ⟨0, 0⟩, h)

/-- Two ops, the second created after a write and read before the next one. -/
theorem uniform_along_create_write_read :
    ∃ st0, allocateBatch .init 0 2 = some (0, st0) ∧
      Runs.Along (opStep .idle 3 0) (UniformAt .idle 3 0) ⟨st0, (.opened 2)⟩
        [.create 0x611 0, .write, .create 0x611 1, .read, .write] :=
  ⟨_, rfl, (uniform_along_iff (N := 2) .idle (.opened 2) _ (by omega) init_sized rfl rfl
    (by decide)).mpr (by simp [NoMixedWrite, Mode.next])⟩

/-- Without that read, the second write hands the driver a read. -/
theorem write_hands_read :
    ∃ st0, allocateBatch .init 0 2 = some (0, st0) ∧
      ¬ Runs.Along (opStep .idle 3 0) (UniformAt .idle 3 0) ⟨st0, (.opened 2)⟩
        [.create 0x611 0, .write, .create 0x611 1, .write] := by
  refine ⟨_, rfl, fun h => ?_⟩
  obtain ⟨-, h⟩ := h
  obtain ⟨-, h⟩ := h _ rfl
  obtain ⟨-, h⟩ := h _ rfl
  obtain ⟨⟨r, hr, huniform⟩, -⟩ := h _ rfl
  obtain rfl := Option.some.inj hr
  have hzero := huniform _ rfl ⟨1, 1, 0, 0x611, 0, 0⟩ (by decide)
  exact absurd hzero (by decide)

end Libmsr
