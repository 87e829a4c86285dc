/-
  Libmsr.Core.BatchReadSpec

  `read_batch` on a batch that holds reads only: on either path every op ends
  with the value of its register.
-/
import Libmsr.Core.BatchLoadSpec
import Libmsr.Core.BatchPaths

namespace Libmsr

/-! ## Performing reads -/

/-- Performing reads that do not fail fetches the registers and changes nothing. -/
theorem performOps_reads (isRead : MsrBatchOp → Bool) {fails : Nat → Nat → Bool} (regs : RegFile)
    {ops : List MsrBatchOp} (hread : ∀ op ∈ ops, isRead op = true) (hok : ¬ SomeFails fails ops) :
    performOps isRead fails regs ops =
      (ops.map fun op => regs op.cpu.toNat op.msr.toNat, regs) := by
  induction ops with
  | nil => rfl
  | cons op ops ih =>
    rw [someFails_cons, not_or, Bool.not_eq_true] at hok
    have hop : performOp isRead fails regs op = (regs op.cpu.toNat op.msr.toNat, regs) := by
      simp only [performOp, hok.1, Bool.false_eq_true, if_false, hread op (List.mem_cons_self ..),
        if_true]
    have hrest := ih (fun op' hop' => hread op' (List.mem_cons_of_mem _ hop')) hok.2
    simp only [performOps, hop, hrest, List.map_cons]

/-! ## read_batch -/

/-- The op keeps its place, register and direction and gets the register's
    value. -/
structure Fetched (regs : RegFile) (op op' : MsrBatchOp) : Prop where
  cpu : op'.cpu = op.cpu
  msr : op'.msr = op.msr
  isrdmsr : op'.isrdmsr = op.isrdmsr
  msrdata : op'.msrdata = regs op.cpu.toNat op.msr.toNat

/-- The machine and the driver as `read_batch` needs them: either there is no
    driver, or it performs its ops in order. -/
structure BatchDriver.Serves (drv : BatchDriver) (fd : Int) (h : Host) (n : Nat) : Prop where
  driver : 0 ≤ fd → drv.InOrder
  ready : h.Ready n
  fits : n < 2 ^ 31
  absent : ∀ cpu, n ≤ cpu → ∀ msr, h.fails cpu msr = true ∧ h.failsWrite cpu msr = true

section ReadBatch

variable {drv : BatchDriver} {fd : Int} {h : Host} {n : Nat} {st : BatchStorage} {b m : Nat}
  {a : OpArray}

/-- An op flagged as a read has the direction of a read. -/
theorem carries_read {op : MsrBatchOp} (hone : op.isrdmsr = 1) : op.Carries .read := by
  rw [MsrBatchOp.Carries, hone]
  decide

/-- The fallback keeps what says where an op goes. -/
theorem compatibilityOps_place (type : BatchOpType) (h : Host) (ops : List MsrBatchOp) :
    (compatibilityOps type h ops).1.map (fun op => (op.cpu, op.msr, op.isrdmsr)) =
      ops.map fun op => (op.cpu, op.msr, op.isrdmsr) := by
  induction ops generalizing h with
  | nil => rfl
  | cons op ops ih =>
    have hop : ((compatibilityOp h type op).1.cpu, (compatibilityOp h type op).1.msr,
        (compatibilityOp h type op).1.isrdmsr) = (op.cpu, op.msr, op.isrdmsr) := by
      rw [compatibilityOp]
      split <;> rfl
    simp only [compatibilityOps, List.map_cons, ih, hop]

/-- The fallback fetches op by op. -/
theorem compatibilityOps_reads (hserve : drv.Serves fd h n) {ops : List MsrBatchOp}
    (hok : ¬ SomeFails h.fails ops) {i : Nat} {op : MsrBatchOp} (hop : ops[i]? = some op) :
    ∃ op', (compatibilityOps .read h ops).1[i]? = some op' ∧ Fetched h.regs op op' := by
  obtain ⟨hi, -⟩ := List.getElem?_eq_some_iff.mp hop
  have hlt : i < (compatibilityOps .read h ops).1.length := by
    rw [compatibilityOps_length]
    exact hi
  have hplace := congrArg (fun l => l[i]?) (compatibilityOps_place .read h ops)
  obtain ⟨hspec, -⟩ := compatibilityOps_spec hserve.fits hserve.ready .read
    (fun cpu hcpu msr => (hserve.absent cpu hcpu msr).1) ops
  rw [Host.failsIn, if_pos rfl,
    performOps_reads BatchOpType.read.allRead h.regs (fun _ _ => rfl) hok] at hspec
  have hdata := congrArg (fun r => r.1[i]?) hspec
  simp only [List.getElem?_map, hop, List.getElem?_eq_getElem hlt, Option.map_some,
    Option.some.injEq, Prod.mk.injEq] at hplace hdata
  exact ⟨_, List.getElem?_eq_getElem hlt, hplace.1, hplace.2.1, hplace.2.2, hdata⟩

/-- The driver fetches what it is handed. -/
theorem ioctl_reads (hserve : drv.Serves fd h n) (hfd : 0 ≤ fd) {ops : List MsrBatchOp}
    (hread : ∀ op ∈ ops, op.isrdmsr = 1) (hok : ¬ SomeFails h.fails ops) {i : Nat}
    {op : MsrBatchOp} (hop : ops[i]? = some op) :
    ∃ op', (ops.mapIdx fun i op => op.reply ((drv.ioctl h ops).2.1 i))[i]? = some op' ∧
      Fetched h.regs op op' := by
  obtain ⟨hi, -⟩ := List.getElem?_eq_some_iff.mp hop
  have hflag : ∀ op ∈ ops, op.flaggedRead = true := by
    intro op hmem
    rw [MsrBatchOp.flaggedRead, hread op hmem]
    decide
  have hops : ¬ SomeOpFails h ops := by
    rintro ⟨op', hmem, hfail⟩
    rw [Host.opFails, hflag op' hmem, if_pos rfl] at hfail
    exact hok ⟨op', hmem, hfail⟩
  have hdata := (hserve.driver hfd).data h ops hops i hi
  rw [performOps_noFailure _ _ hok, performOps_reads _ h.regs hflag hok, List.getElem?_map,
    hop] at hdata
  refine ⟨op.reply ((drv.ioctl h ops).2.1 i), ?_, rfl, rfl, rfl, ?_⟩
  · rw [List.getElem?_mapIdx, hop, Option.map_some]
  · exact (Option.some.inj hdata).symm

/-- Whatever the driver answers, a read overwrites the counted ops with as many, and if
    they are flagged as reads, with ops that go to the same places. -/
theorem readBatch_overwrites (drv : BatchDriver) (fd : Int) (hs : st.Sized)
    (hpos : 0 < (st.entry b).numops) (ha : (st.entry b).ops = some a)
    (hlen : (st.entry b).numops ≤ a.slots.length) (h : Host) :
    ∃ r ops, readBatch drv fd st h b = some r ∧ ops.length = (st.entry b).numops ∧
      Updated st b ⟨(st.entry b).numops, some (a.overwrite ops)⟩ r.st ∧
      ((∀ op ∈ a.slots.take (st.entry b).numops, op.isrdmsr = 1) →
        ops.map (fun op => (op.cpu, op.msr, op.isrdmsr)) =
          (a.slots.take (st.entry b).numops).map fun op => (op.cpu, op.msr, op.isrdmsr)) := by
  have hcount := List.length_take_of_le hlen
  by_cases hfd : 0 ≤ fd
  · obtain ⟨st', hst', hup⟩ := doBatchOp_spec drv h .read hs hfd hpos ha hlen
    refine ⟨_, _, hst', ?_, hup, fun hread => ?_⟩
    · rw [List.length_mapIdx, handedOps, switchFlags_length, hcount]
    · -- the flags need no switch, and replies leave them alone
      rw [handedOps_of_carries .read fun op hop => carries_read (hread op hop)]
      apply List.ext_getElem?
      intro i
      rw [List.getElem?_map, List.getElem?_map, List.getElem?_mapIdx, Option.map_map]
      rfl
  · obtain ⟨st', hst', hup⟩ :=
      doBatchOp_fallback drv h .read hs (Int.not_le.mp hfd) hpos ha hlen
    refine ⟨_, _, hst', ?_, hup, fun _ => compatibilityOps_place .read h _⟩
    rw [compatibilityOps_length, hcount]

/-- **Reading a batch of reads.**  The call returns, and every counted op holds
    the value of its register. -/
theorem readBatch_reads (hserve : drv.Serves fd h n) (hs : st.Sized)
    (hentry : st.entry b = ⟨m, some a⟩) (hpos : 0 < m) (hlen : m ≤ a.slots.length)
    (hread : ∀ op ∈ a.slots.take m, op.isrdmsr = 1)
    (hok : ¬ SomeFails h.fails (a.slots.take m)) :
    ∃ r a', readBatch drv fd st h b = some r ∧ r.st.Sized ∧
      (∀ b', r.st.capacity b' = st.capacity b') ∧ r.st.entry b = ⟨m, some a'⟩ ∧ a'.id = a.id ∧
      a'.slots.length = a.slots.length ∧
      ∀ i op, i < m → a.slots[i]? = some op →
        ∃ op', a'.slots[i]? = some op' ∧ Fetched h.regs op op' := by
  have hnum : (st.entry b).numops = m := by rw [hentry]
  have hops : (st.entry b).ops = some a := by rw [hentry]
  have hcount : (a.slots.take m).length = m := by rw [List.length_take, Nat.min_eq_left hlen]
  have htake : ∀ i op, i < m → a.slots[i]? = some op → (a.slots.take m)[i]? = some op := by
    intro i op hi hop
    rw [List.getElem?_take_of_lt hi, hop]
  by_cases hfd : 0 ≤ fd
  · obtain ⟨st', hst', hup⟩ := doBatchOp_spec drv h .read hs hfd (by omega) hops (by omega)
    -- the flags say read already, so the driver gets the ops as they are
    have hhanded : handedOps .read (st.entry b) a = a.slots.take m := by
      rw [← hnum] at hread ⊢
      exact handedOps_of_carries .read fun op hop => carries_read (hread op hop)
    rw [hhanded] at hst' hup
    rw [hnum] at hup
    refine ⟨_, _, hst', hup.sized, hup.capacity, hup.entry, rfl, ?_, ?_⟩
    · apply OpArray.overwrite_length
      rw [List.length_mapIdx, hcount]
      exact hlen
    · intro i op hi hop
      rw [OpArray.overwrite_getElem? a (by rw [List.length_mapIdx, hcount]; exact hi)]
      exact ioctl_reads hserve hfd hread hok (htake i op hi hop)
  · obtain ⟨st', hst', hup⟩ := doBatchOp_fallback drv h .read hs (Int.not_le.mp hfd) (by omega)
      hops (by omega)
    rw [hnum] at hst' hup
    refine ⟨_, _, hst', hup.sized, hup.capacity, hup.entry, rfl, ?_, ?_⟩
    · apply OpArray.overwrite_length
      rw [compatibilityOps_length, hcount]
      exact hlen
    · intro i op hi hop
      rw [OpArray.overwrite_getElem? a (by rw [compatibilityOps_length, hcount]; exact hi)]
      exact compatibilityOps_reads hserve hok (htake i op hi hop)

end ReadBatch

end Libmsr
