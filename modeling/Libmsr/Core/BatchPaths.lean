/-
  Libmsr.Core.BatchPaths

  The two execution paths of `do_batch_op` compared: the msr_batch ioctl and the
  fallback `compatibility_batch`.

  `performOps` says what performing a list of ops in order means, for any rule
  that picks each op's direction.  The driver goes by the op's flag, the
  fallback by the direction of the call.  The two end alike exactly when no op
  fails, the batch is not empty, and the flags cannot make a difference.
-/
import Libmsr.Core.BatchBounds
import Libmsr.Core.BatchOpSpec
import Libmsr.Core.DeviceSpec

namespace Libmsr

/-- The registers of all CPUs. -/
abbrev RegFile := Nat → Nat → Word

def RegFile.set (regs : RegFile) (cpu msr : Nat) (val : Word) : RegFile :=
  fun c r => if c = cpu ∧ r = msr then val else regs c r

/-! ## Performing ops in order -/

/-- One op: its `msrdata` and the registers afterwards.  A failing op changes
    neither. -/
def performOp (isRead : MsrBatchOp → Bool) (fails : Nat → Nat → Bool) (regs : RegFile)
    (op : MsrBatchOp) : Word × RegFile :=
  if fails op.cpu.toNat op.msr.toNat then (op.msrdata, regs)
  else if isRead op then (regs op.cpu.toNat op.msr.toNat, regs)
  else (op.msrdata, regs.set op.cpu.toNat op.msr.toNat op.msrdata)

/-- The `msrdata` of all ops and the registers after performing them in order. -/
def performOps (isRead : MsrBatchOp → Bool) (fails : Nat → Nat → Bool) :
    RegFile → List MsrBatchOp → List Word × RegFile
  | regs, [] => ([], regs)
  | regs, op :: ops =>
    let (val, regs') := performOp isRead fails regs op
    let (vals, regs'') := performOps isRead fails regs' ops
    (val :: vals, regs'')

/-- The access of some op fails. -/
def SomeFails (fails : Nat → Nat → Bool) (ops : List MsrBatchOp) : Prop :=
  ∃ op ∈ ops, fails op.cpu.toNat op.msr.toNat = true

/-- No access fails. -/
def noFailure : Nat → Nat → Bool := fun _ _ => false

/-- The op as the driver reads its direction. -/
def MsrBatchOp.flaggedRead (op : MsrBatchOp) : Bool := op.isrdmsr ≠ 0

/-- The op fails in the direction of its flag. -/
def Host.opFails (h : Host) (op : MsrBatchOp) : Bool :=
  if op.flaggedRead then h.fails op.cpu.toNat op.msr.toNat
  else h.failsWrite op.cpu.toNat op.msr.toNat

/-- Some op fails in the direction of its flag. -/
def SomeOpFails (h : Host) (ops : List MsrBatchOp) : Prop := ∃ op ∈ ops, h.opFails op = true

/-- What is assumed of the msr_batch driver: ops are performed in array order by
    their flags, `err` is set in each failing op, and the return code is negative
    exactly when some op failed.  What a failing op leaves in `msrdata` is left
    open. -/
structure BatchDriver.InOrder (drv : BatchDriver) : Prop where
  data : ∀ h ops, ¬ SomeOpFails h ops → ∀ i, i < ops.length →
    (performOps MsrBatchOp.flaggedRead noFailure h.regs ops).1[i]? =
      some ((drv.ioctl h ops).2.1 i).msrdata
  regs : ∀ h ops, ¬ SomeOpFails h ops →
    (drv.ioctl h ops).2.2.regs = (performOps MsrBatchOp.flaggedRead noFailure h.regs ops).2
  err : ∀ h ops i op, ops[i]? = some op →
    (((drv.ioctl h ops).2.1 i).err ≠ 0 ↔ h.opFails op = true)
  rc : ∀ h ops, (drv.ioctl h ops).1 < 0 ↔ SomeOpFails h ops

theorem performOps_length (isRead : MsrBatchOp → Bool) (fails : Nat → Nat → Bool) (regs : RegFile)
    (ops : List MsrBatchOp) : (performOps isRead fails regs ops).1.length = ops.length := by
  induction ops generalizing regs with
  | nil => rfl
  | cons op ops ih => simp only [performOps, List.length_cons, ih]

/-- Only which op is a read, where it goes and what it carries matters. -/
theorem performOps_map {isRead isRead' : MsrBatchOp → Bool} (fails : Nat → Nat → Bool)
    (f : MsrBatchOp → MsrBatchOp) (regs : RegFile) (ops : List MsrBatchOp)
    (hread : ∀ op, isRead' (f op) = isRead op) (hcpu : ∀ op, (f op).cpu = op.cpu)
    (hmsr : ∀ op, (f op).msr = op.msr) (hdata : ∀ op, (f op).msrdata = op.msrdata) :
    performOps isRead' fails regs (ops.map f) = performOps isRead fails regs ops := by
  induction ops generalizing regs with
  | nil => rfl
  | cons op ops ih =>
    have hop : performOp isRead' fails regs (f op) = performOp isRead fails regs op := by
      simp only [performOp, hread, hcpu, hmsr, hdata]
    simp only [List.map_cons, performOps, hop, ih]

theorem someFails_map {fails : Nat → Nat → Bool} {f : MsrBatchOp → MsrBatchOp}
    {ops : List MsrBatchOp} (hcpu : ∀ op, (f op).cpu = op.cpu)
    (hmsr : ∀ op, (f op).msr = op.msr) :
    SomeFails fails (ops.map f) ↔ SomeFails fails ops := by
  simp only [SomeFails, List.mem_map, exists_exists_and_eq_and, hcpu, hmsr]

theorem someFails_cons {fails : Nat → Nat → Bool} {op : MsrBatchOp} {ops : List MsrBatchOp} :
    SomeFails fails (op :: ops) ↔
      fails op.cpu.toNat op.msr.toNat = true ∨ SomeFails fails ops := by
  simp only [SomeFails, List.mem_cons, exists_eq_or_imp]

/-- Where no op fails, it does not matter which accesses would. -/
theorem performOps_noFailure (isRead : MsrBatchOp → Bool) {fails : Nat → Nat → Bool}
    (regs : RegFile) {ops : List MsrBatchOp} (hok : ¬ SomeFails fails ops) :
    performOps isRead noFailure regs ops = performOps isRead fails regs ops := by
  induction ops generalizing regs with
  | nil => rfl
  | cons op ops ih =>
    rw [someFails_cons, not_or, Bool.not_eq_true] at hok
    have hop : performOp isRead noFailure regs op = performOp isRead fails regs op := by
      simp only [performOp, noFailure, hok.1, Bool.false_eq_true, if_false]
    simp only [performOps, hop, ih _ hok.2]

/-- Where reads and writes fail alike, the flags do not decide what fails. -/
theorem opFails_eq {h : Host} (hsame : h.failsWrite = h.fails) (op : MsrBatchOp) :
    h.opFails op = h.fails op.cpu.toNat op.msr.toNat := by
  rw [Host.opFails, hsame, ite_self]

theorem someOpFails_iff {h : Host} (hsame : h.failsWrite = h.fails) {ops : List MsrBatchOp} :
    SomeOpFails h ops ↔ SomeFails h.fails ops := by
  simp only [SomeOpFails, SomeFails, opFails_eq hsame]

/-! ## Flags that make no difference -/

/-- What the register holds before an op's turn: the last value an earlier op of
    a write call put there, or else the value it held before the call. -/
def heldBefore (type : BatchOpType) (regs : RegFile) (before : List MsrBatchOp)
    (cpu msr : Nat) : Word :=
  if type = .read then regs cpu msr
  else
    match before.reverse.find? fun op => op.cpu.toNat = cpu ∧ op.msr.toNat = msr with
    | some op => op.msrdata
    | none => regs cpu msr

/-- Every op flagged against the call carries what its register holds at its
    turn anyway. -/
def Settled (type : BatchOpType) (regs : RegFile) (ops : List MsrBatchOp) : Prop :=
  ∀ before op after, ops = before ++ op :: after →
    op.Carries type ∨ heldBefore type regs before op.cpu.toNat op.msr.toNat = op.msrdata

/-- The registers after an op of a call of this type. -/
def afterOp (type : BatchOpType) (regs : RegFile) (op : MsrBatchOp) : RegFile :=
  if type = .read then regs else regs.set op.cpu.toNat op.msr.toNat op.msrdata

theorem heldBefore_cons (type : BatchOpType) (regs : RegFile) (op : MsrBatchOp)
    (before : List MsrBatchOp) (cpu msr : Nat) :
    heldBefore type regs (op :: before) cpu msr =
      heldBefore type (afterOp type regs op) before cpu msr := by
  by_cases htype : type = .read
  · simp only [heldBefore, afterOp, if_pos htype]
  · simp only [heldBefore, afterOp, if_neg htype, List.reverse_cons, List.find?_append]
    cases before.reverse.find? fun op => op.cpu.toNat = cpu ∧ op.msr.toNat = msr with
    | some op' => rfl
    | none =>
      by_cases hop : op.cpu.toNat = cpu ∧ op.msr.toNat = msr
      · simp [RegFile.set, hop]
      · have hop' : ¬ (cpu = op.cpu.toNat ∧ msr = op.msr.toNat) :=
          fun h => hop ⟨h.1.symm, h.2.symm⟩
        simp [RegFile.set, hop, hop']

theorem heldBefore_nil (type : BatchOpType) (regs : RegFile) (cpu msr : Nat) :
    heldBefore type regs [] cpu msr = regs cpu msr := by
  unfold heldBefore
  split <;> rfl

theorem settled_nil (type : BatchOpType) (regs : RegFile) : Settled type regs [] := by
  intro before op after h
  exact absurd h (by simp)

theorem settled_cons (type : BatchOpType) (regs : RegFile) (op : MsrBatchOp)
    (ops : List MsrBatchOp) :
    Settled type regs (op :: ops) ↔
      (op.Carries type ∨ regs op.cpu.toNat op.msr.toNat = op.msrdata) ∧
        Settled type (afterOp type regs op) ops := by
  constructor
  · intro h
    refine ⟨?_, fun before op' after heq => ?_⟩
    · have hhead := h [] op ops rfl
      rwa [heldBefore_nil] at hhead
    · have hop' := h (op :: before) op' after (by rw [heq, List.cons_append])
      rwa [heldBefore_cons] at hop'
  · rintro ⟨hhead, htail⟩ before op' after heq
    cases before with
    | nil =>
      obtain ⟨rfl, -⟩ := List.cons.inj heq
      rwa [heldBefore_nil]
    | cons op₀ before =>
      obtain ⟨rfl, hrest⟩ := List.cons.inj heq
      rw [heldBefore_cons]
      exact htail before op' after hrest

/-- A call's direction as a rule for every op. -/
def BatchOpType.allRead (type : BatchOpType) : MsrBatchOp → Bool := fun _ => type = .read

/-- One op by its flag and by the call's direction: the `msrdata` agrees exactly
    when the flag makes no difference, and then the registers agree too. -/
theorem performOp_flag_iff (type : BatchOpType) (fails : Nat → Nat → Bool) (regs : RegFile)
    (op : MsrBatchOp) (hok : fails op.cpu.toNat op.msr.toNat = false) :
    (performOp type.allRead fails regs op).2 = afterOp type regs op ∧
      ((performOp MsrBatchOp.flaggedRead fails regs op).1 =
          (performOp type.allRead fails regs op).1 ↔
        op.Carries type ∨ regs op.cpu.toNat op.msr.toNat = op.msrdata) ∧
      ((op.Carries type ∨ regs op.cpu.toNat op.msr.toNat = op.msrdata) →
        (performOp MsrBatchOp.flaggedRead fails regs op).2 = afterOp type regs op) := by
  -- writing a register with what it holds changes nothing
  have hset : regs op.cpu.toNat op.msr.toNat = op.msrdata →
      regs.set op.cpu.toNat op.msr.toNat op.msrdata = regs := by
    intro heq
    funext c r
    by_cases hcr : c = op.cpu.toNat ∧ r = op.msr.toNat
    · rw [RegFile.set, if_pos hcr, hcr.1, hcr.2, heq]
    · rw [RegFile.set, if_neg hcr]
  by_cases htype : type = .read <;> by_cases hflag : op.isrdmsr = 0 <;>
    simp only [performOp, hok, Bool.false_eq_true, if_false, BatchOpType.allRead,
      MsrBatchOp.flaggedRead, MsrBatchOp.Carries, afterOp, htype, hflag, decide_true,
      decide_false, if_true, ne_eq, not_true_eq_false, not_false_eq_true, iff_true, iff_false,
      iff_self, true_or, false_or, true_and, and_true, imp_self]
  · exact ⟨eq_comm, hset⟩
  · exact fun heq => (hset heq).symm

/-- Without failures, performing by flags and performing by the call's direction
    end alike exactly when the flags make no difference. -/
theorem performOps_flag_iff (type : BatchOpType) (fails : Nat → Nat → Bool) (regs : RegFile)
    (ops : List MsrBatchOp) (hok : ¬ SomeFails fails ops) :
    performOps MsrBatchOp.flaggedRead fails regs ops = performOps type.allRead fails regs ops ↔
      Settled type regs ops := by
  induction ops generalizing regs with
  | nil => exact iff_of_true rfl (settled_nil type regs)
  | cons op ops ih =>
    -- the heads agree exactly if the flag makes no difference there; only then do
    -- the tails start from the same registers
    rw [someFails_cons, not_or, Bool.not_eq_true] at hok
    obtain ⟨hafter, hdata, hregs⟩ := performOp_flag_iff type fails regs op hok.1
    rw [settled_cons, ← ih _ hok.2, ← hdata]
    simp only [performOps, Prod.mk.injEq, List.cons.injEq, hafter]
    constructor
    · rintro ⟨⟨hhead, htail⟩, hend⟩
      have hnext := hregs (hdata.mp hhead)
      rw [hnext] at htail hend
      exact ⟨hhead, Prod.ext htail hend⟩
    · rintro ⟨hhead, htail⟩
      have hnext := hregs (hdata.mp hhead)
      rw [hnext]
      exact ⟨⟨hhead, congrArg Prod.fst htail⟩, congrArg Prod.snd htail⟩

/-! ## The fallback loop -/

/-- The accesses that fail in a call of this type. -/
def Host.failsIn (h : Host) (type : BatchOpType) : Nat → Nat → Bool :=
  if type = .read then h.fails else h.failsWrite

theorem failsIn_eq {h : Host} (hsame : h.failsWrite = h.fails) (type : BatchOpType) :
    h.failsIn type = h.fails := by
  rw [Host.failsIn, hsame, ite_self]

section Fallback

variable {n : Nat} (hlt : n < 2 ^ 31)
include hlt

/-- The fallback performs one op by the call's direction. -/
theorem compatibilityOp_spec {h : Host} (hr : h.Ready n) (type : BatchOpType)
    (hcpus : ∀ cpu, n ≤ cpu → ∀ msr, h.failsIn type cpu msr = true) (op : MsrBatchOp) :
    ((compatibilityOp h type op).1.msrdata, (compatibilityOp h type op).2.regs) =
        performOp type.allRead (h.failsIn type) h.regs op ∧
      h.SameDevices (compatibilityOp h type op).2 := by
  have hsame := Host.SameDevices.refl h
  have hcpu : (op.cpu.setWidth 32).toNat = op.cpu.toNat := by
    rw [BitVec.toNat_setWidth]
    have := op.cpu.isLt
    omega
  by_cases hin : op.cpu.toNat < n
  · have hidx : (op.cpu.setWidth 32).toNat < n := by rw [hcpu]; exact hin
    by_cases htype : type = .read
    · simp only [compatibilityOp, readMsrByIdx_lt hr hlt hidx, hcpu, performOp, Host.failsIn,
        BatchOpType.allRead, htype, decide_true, if_true]
      cases h.fails op.cpu.toNat op.msr.toNat with
      | true => exact ⟨rfl, hsame.log _⟩
      | false => exact ⟨rfl, hsame.log _⟩
    · simp only [compatibilityOp, writeMsrByIdx_lt hr hlt hidx, hcpu, performOp, Host.failsIn,
        BatchOpType.allRead, htype, decide_false, Bool.false_eq_true, if_false]
      cases h.failsWrite op.cpu.toNat op.msr.toNat with
      | true => exact ⟨rfl, hsame.log _⟩
      | false => exact ⟨rfl, (hsame.setReg _ _ _).log _⟩
  · -- no such CPU: the access fails without reaching a device
    have hidx : n ≤ (op.cpu.setWidth 32).toNat := by rw [hcpu]; omega
    have hfail := hcpus op.cpu.toNat (by omega) op.msr.toNat
    by_cases htype : type = .read
    · simp only [compatibilityOp, if_pos htype, readMsrByIdx_ge hr hlt hidx, performOp, hfail,
        if_true]
      exact ⟨trivial, hsame⟩
    · simp only [compatibilityOp, if_neg htype, writeMsrByIdx_ge hr hlt hidx, performOp, hfail,
        if_true]
      exact ⟨trivial, hsame⟩

/-- The fallback loop performs all ops by the call's direction. -/
theorem compatibilityOps_spec {h : Host} (hr : h.Ready n) (type : BatchOpType)
    (hcpus : ∀ cpu, n ≤ cpu → ∀ msr, h.failsIn type cpu msr = true) (ops : List MsrBatchOp) :
    ((compatibilityOps type h ops).1.map MsrBatchOp.msrdata,
        (compatibilityOps type h ops).2.regs) =
        performOps type.allRead (h.failsIn type) h.regs ops ∧
      h.SameDevices (compatibilityOps type h ops).2 := by
  induction ops generalizing h with
  | nil => exact ⟨rfl, .refl h⟩
  | cons op ops ih =>
    obtain ⟨hop, hsame⟩ := compatibilityOp_spec hlt hr type hcpus op
    have hfails : (compatibilityOp h type op).2.failsIn type = h.failsIn type := by
      rw [Host.failsIn, Host.failsIn, hsame.fails, hsame.failsWrite]
    obtain ⟨hrest, hsame'⟩ := ih (hsame.ready hr) (by rw [hfails]; exact hcpus)
    rw [hfails] at hrest
    refine ⟨?_, hsame.trans hsame'⟩
    simp only [compatibilityOps, performOps, List.map_cons, ← hop, ← hrest]

end Fallback

theorem compatibilityOps_length (type : BatchOpType) (h : Host) (ops : List MsrBatchOp) :
    (compatibilityOps type h ops).1.length = ops.length := by
  induction ops generalizing h with
  | nil => rfl
  | cons op ops ih => simp only [compatibilityOps, List.length_cons, ih]

/-! ## Both paths -/

/-- The ops the batch counts. -/
def MsrBatchArray.counted (e : MsrBatchArray) : List MsrBatchOp :=
  match e.ops with
  | none => []
  | some a => a.slots.take e.numops

/-- The `msrdata` of every slot of the batch's array. -/
def MsrBatchArray.data (e : MsrBatchArray) : List Word :=
  match e.ops with
  | none => []
  | some a => a.slots.map MsrBatchOp.msrdata

/-- Same data in every slot of batch `b`, same registers, same verdict. -/
structure SameOutcome (b : Nat) (r₁ r₂ : BatchResult) : Prop where
  data : (r₁.st.entry b).data = (r₂.st.entry b).data
  regs : r₁.host.regs = r₂.host.regs
  verdict : r₁.rc < 0 ↔ r₂.rc < 0

/-- The condition on the batch: it has ops, no op's access fails, and either the
    first flag is opposite to the call, so that all flags are rewritten, or the
    flags make no difference. -/
def PathsMatch (type : BatchOpType) (h : Host) (ops : List MsrBatchOp) : Prop :=
  ops ≠ [] ∧ ¬ SomeFails h.fails ops ∧
    ((∃ op, ops.head? = some op ∧ ¬ op.Carries type) ∨ Settled type h.regs ops)

/-- What the switched ops amount to: all performed by the call's direction, or
    each by its own flag. -/
theorem performOps_switchFlags_iff {type : BatchOpType} (htype : type ≠ .load)
    {fails : Nat → Nat → Bool} (regs : RegFile) {ops : List MsrBatchOp}
    (hok : ¬ SomeFails fails ops) :
    performOps MsrBatchOp.flaggedRead fails regs (switchFlags type ops) =
        performOps type.allRead fails regs ops ↔
      (∃ op, ops.head? = some op ∧ ¬ op.Carries type) ∨ Settled type regs ops := by
  cases ops with
  | nil => exact iff_of_true rfl (Or.inr (settled_nil type regs))
  | cons op rest =>
    by_cases hc : op.Carries type
    · rw [switchFlags_of_carries hc, performOps_flag_iff type fails regs _ hok]
      refine ⟨Or.inr, ?_⟩
      rintro (⟨op', hhead, hnot⟩ | hsettled)
      · obtain rfl : op = op' := by simpa using hhead
        exact absurd hc hnot
      · exact hsettled
    · rw [switchFlags_of_not_carries htype hc]
      refine iff_of_true ?_ (Or.inl ⟨op, rfl, hc⟩)
      refine performOps_map fails _ regs _ (fun op' => ?_) (fun _ => rfl) (fun _ => rfl)
        (fun _ => rfl)
      by_cases hread : type = .read <;> simp [MsrBatchOp.flaggedRead, BatchOpType.allRead, hread]

theorem someFails_switchFlags {type : BatchOpType} {fails : Nat → Nat → Bool}
    {ops : List MsrBatchOp} : SomeFails fails (switchFlags type ops) ↔ SomeFails fails ops := by
  cases ops with
  | nil => exact Iff.rfl
  | cons op rest =>
    rw [switchFlags]
    split
    · exact someFails_map (fun _ => rfl) (fun _ => rfl)
    · exact Iff.rfl

section Paths

variable (drv : BatchDriver) {fdFallback fdDriver : Int} {st : BatchStorage} {h : Host}
  {b n : Nat}

/-- The driver's replies, as the `msrdata` of the ops it was handed. -/
theorem reply_data (hdrv : drv.InOrder) {ops : List MsrBatchOp} (hok : ¬ SomeOpFails h ops) :
    (ops.mapIdx fun i op => op.reply ((drv.ioctl h ops).2.1 i)).map MsrBatchOp.msrdata =
      (performOps MsrBatchOp.flaggedRead noFailure h.regs ops).1 := by
  apply List.ext_getElem?
  intro i
  by_cases hi : i < ops.length
  · rw [hdrv.data h ops hok i hi]
    simp [hi]
  · rw [List.getElem?_eq_none, List.getElem?_eq_none]
    · rw [performOps_length]
      omega
    · simp only [List.length_map, List.length_mapIdx]
      omega

/-- A batch that counts ops has an array holding them. -/
theorem exists_array_of_counted (hin : (st.entry b).numops ≤ (st.entry b).length)
    (hpos : 0 < (st.entry b).numops) :
    ∃ a, (st.entry b).ops = some a ∧ (st.entry b).numops ≤ a.slots.length ∧
      (st.entry b).counted = a.slots.take (st.entry b).numops := by
  cases ha : (st.entry b).ops with
  | none =>
    simp only [MsrBatchArray.length, ha] at hin
    omega
  | some a =>
    refine ⟨a, rfl, by simpa only [MsrBatchArray.length, ha] using hin, ?_⟩
    simp only [MsrBatchArray.counted, ha]

/-- The fallback reports success, whatever the ops did. -/
theorem fallback_outcome (hneg : fdFallback < 0) (hs : st.Sized)
    (hin : (st.entry b).numops ≤ (st.entry b).length) (hpos : 0 < (st.entry b).numops)
    (hr : h.Ready n) (hlt : n < 2 ^ 31) (type : BatchOpType)
    (hcpus : ∀ cpu, n ≤ cpu → ∀ msr, h.failsIn type cpu msr = true) :
    ∃ r, doBatchOp drv fdFallback st h b type = some r ∧ r.rc = 0 ∧
      (r.st.entry b).data =
        (performOps type.allRead (h.failsIn type) h.regs (st.entry b).counted).1 ++
          (st.entry b).data.drop (st.entry b).numops ∧
      r.host.regs = (performOps type.allRead (h.failsIn type) h.regs (st.entry b).counted).2 := by
  obtain ⟨a, ha, hlen, hcounted⟩ := exists_array_of_counted hin hpos
  obtain ⟨st', hst', hup⟩ := doBatchOp_fallback drv h type hs hneg hpos ha hlen
  rw [← hcounted] at hst' hup
  obtain ⟨hfall, -⟩ := compatibilityOps_spec hlt hr type hcpus (st.entry b).counted
  refine ⟨_, hst', rfl, ?_, congrArg Prod.snd hfall⟩
  have hcount : (compatibilityOps type h (st.entry b).counted).1.length = (st.entry b).numops := by
    rw [compatibilityOps_length, hcounted, List.length_take]
    omega
  rw [hup.entry, ← hfall]
  simp only [MsrBatchArray.data, OpArray.overwrite, List.map_append, hcount, ha, List.map_drop]

/-- The driver's verdict is the failure of some op; without one the ops are
    performed by their switched flags. -/
theorem driver_outcome (hdrv : drv.InOrder) (hopen : 0 ≤ fdDriver) (hs : st.Sized)
    (hin : (st.entry b).numops ≤ (st.entry b).length) (hpos : 0 < (st.entry b).numops)
    (hsame : h.failsWrite = h.fails) (type : BatchOpType) :
    ∃ r, doBatchOp drv fdDriver st h b type = some r ∧
      (r.rc < 0 ↔ SomeFails h.fails (st.entry b).counted) ∧
      (¬ SomeFails h.fails (st.entry b).counted →
        (r.st.entry b).data =
          (performOps MsrBatchOp.flaggedRead h.fails h.regs
            (switchFlags type (st.entry b).counted)).1 ++
            (st.entry b).data.drop (st.entry b).numops ∧
        r.host.regs = (performOps MsrBatchOp.flaggedRead h.fails h.regs
          (switchFlags type (st.entry b).counted)).2) := by
  obtain ⟨a, ha, hlen, hcounted⟩ := exists_array_of_counted hin hpos
  obtain ⟨st', hst', hup⟩ := doBatchOp_spec drv h type hs hopen hpos ha hlen
  have hhanded : handedOps type (st.entry b) a = switchFlags type (st.entry b).counted := by
    rw [handedOps, hcounted]
  rw [hhanded] at hst' hup
  refine ⟨_, hst', ?_, fun hok => ?_⟩
  · show (drv.ioctl h _).1 < 0 ↔ _
    rw [hdrv.rc, someOpFails_iff hsame, someFails_switchFlags]
  · -- the switch changes no place, so no switched op fails either
    have hok' : ¬ SomeFails h.fails (switchFlags type (st.entry b).counted) := by
      rw [someFails_switchFlags]
      exact hok
    have hops : ¬ SomeOpFails h (switchFlags type (st.entry b).counted) := by
      rw [someOpFails_iff hsame]
      exact hok'
    -- the switch changes no length, so the replies fill exactly the counted slots
    have hcount : (switchFlags type (st.entry b).counted).length = (st.entry b).numops := by
      rw [switchFlags_length, hcounted, List.length_take]
      omega
    rw [← performOps_noFailure _ _ hok']
    refine ⟨?_, hdrv.regs h _ hops⟩
    rw [hup.entry, ← reply_data drv hdrv hops]
    simp only [MsrBatchArray.data, OpArray.overwrite, List.map_append, List.length_mapIdx, hcount,
      ha, List.map_drop]

/-- The two paths of one call end alike exactly when the batch meets
    `PathsMatch`. -/
theorem doBatchOp_sameOutcome_iff (hdrv : drv.InOrder) (hneg : fdFallback < 0)
    (hopen : 0 ≤ fdDriver) (hs : st.Sized) (hin : (st.entry b).numops ≤ (st.entry b).length)
    (hr : h.Ready n) (hlt : n < 2 ^ 31) (hcpus : ∀ cpu, n ≤ cpu → ∀ msr, h.fails cpu msr = true)
    (hsame : h.failsWrite = h.fails) {type : BatchOpType} (htype : type ≠ .load) :
    ∃ r₁ r₂, doBatchOp drv fdFallback st h b type = some r₁ ∧
      doBatchOp drv fdDriver st h b type = some r₂ ∧
      (SameOutcome b r₁ r₂ ↔ PathsMatch type h (st.entry b).counted) := by
  rcases Nat.eq_zero_or_pos (st.entry b).numops with h0 | hpos
  · -- an empty batch: 0 from the fallback, -1 on the ioctl path
    obtain ⟨st₁, hst₁, -⟩ := doBatchOp_fallback_empty drv h type hs hneg h0
    obtain ⟨st₂, hst₂, -⟩ := doBatchOp_empty drv h type hs hopen h0
    refine ⟨_, _, hst₁, hst₂, iff_of_false (fun hsame => ?_) (fun hmatch => hmatch.1 ?_)⟩
    · have hverdict : (0 : Int) < 0 ↔ (-1 : Int) < 0 := hsame.verdict
      exact absurd hverdict (by omega)
    · rw [MsrBatchArray.counted]
      split
      · rfl
      · rw [h0, List.take_zero]
  · obtain ⟨r₁, hr₁, hrc₁, hdata₁, hregs₁⟩ :=
      fallback_outcome drv hneg hs hin hpos hr hlt type (by rw [failsIn_eq hsame]; exact hcpus)
    obtain ⟨r₂, hr₂, hrc₂, hok₂⟩ := driver_outcome (h := h) drv hdrv hopen hs hin hpos hsame type
    rw [failsIn_eq hsame] at hdata₁ hregs₁
    refine ⟨r₁, r₂, hr₁, hr₂, ?_⟩
    have hrc : ¬ r₁.rc < 0 := by rw [hrc₁]; exact Int.lt_irrefl 0
    have hne : (st.entry b).counted ≠ [] := by
      obtain ⟨a, -, hlen, hcounted⟩ := exists_array_of_counted hin hpos
      intro hnil
      have hcount := congrArg List.length hcounted
      rw [hnil, List.length_nil, List.length_take] at hcount
      omega
    by_cases hfail : SomeFails h.fails (st.entry b).counted
    · -- the fallback drops the failure
      exact iff_of_false (fun hsame => hrc (hsame.verdict.mpr (hrc₂.mpr hfail)))
        (fun hmatch => hmatch.2.1 hfail)
    · -- both return success: what is left is how the data and the registers compare
      obtain ⟨hdata₂, hregs₂⟩ := hok₂ hfail
      rw [PathsMatch, ← performOps_switchFlags_iff htype h.regs hfail, Prod.ext_iff, ← hregs₁,
        ← hregs₂]
      constructor
      · intro hsame
        have hdata := hsame.data
        rw [hdata₁, hdata₂] at hdata
        exact ⟨hne, hfail, (List.append_cancel_right hdata).symm, hsame.regs.symm⟩
      · rintro ⟨-, -, hdata, hregs⟩
        refine ⟨?_, hregs.symm, iff_of_false hrc fun hneg₂ => hfail (hrc₂.mp hneg₂)⟩
        rw [hdata₁, hdata₂, hdata]

/-- **When the fallback refines the driver.**  Given one set of failing
    accesses, for reads and writes alike, `read_batch` and `write_batch` end alike
    on the two paths if and only if the batch meets `PathsMatch` for that call. -/
theorem batch_paths_sameOutcome_iff (hdrv : drv.InOrder) (hneg : fdFallback < 0)
    (hopen : 0 ≤ fdDriver) (hs : st.Sized) (hin : (st.entry b).numops ≤ (st.entry b).length)
    (hr : h.Ready n) (hlt : n < 2 ^ 31)
    (hcpus : ∀ cpu, n ≤ cpu → ∀ msr, h.fails cpu msr = true) (hsame : h.failsWrite = h.fails) :
    (∃ r₁ r₂, readBatch drv fdFallback st h b = some r₁ ∧ readBatch drv fdDriver st h b = some r₂ ∧
      (SameOutcome b r₁ r₂ ↔ PathsMatch .read h (st.entry b).counted)) ∧
    (∃ r₁ r₂, writeBatch drv fdFallback st h b = some r₁ ∧
      writeBatch drv fdDriver st h b = some r₂ ∧
      (SameOutcome b r₁ r₂ ↔ PathsMatch .write h (st.entry b).counted)) :=
  ⟨doBatchOp_sameOutcome_iff drv hdrv hneg hopen hs hin hr hlt hcpus hsame (by decide),
    doBatchOp_sameOutcome_iff drv hdrv hneg hopen hs hin hr hlt hcpus hsame (by decide)⟩

end Paths

/-- A driver that is exactly what is assumed of it. -/
def BatchDriver.inOrder : BatchDriver where
  ioctl h ops :=
    let (vals, regs) := performOps MsrBatchOp.flaggedRead noFailure h.regs ops
    (if ops.any h.opFails then -1 else 0,
      fun i => ⟨if ops[i]?.any h.opFails then 5 else 0, vals[i]?.getD 0⟩,
      if ops.any h.opFails then h else { h with regs := regs })

theorem inOrder_spec : BatchDriver.inOrder.InOrder := by
  have hany : ∀ h ops, ops.any (Host.opFails h) = true ↔ SomeOpFails h ops := by
    intro h ops
    simp only [List.any_eq_true, SomeOpFails]
  refine ⟨fun h ops _ i hi => ?_, fun h ops hok => ?_, fun h ops i op hop => ?_, fun h ops => ?_⟩
  · have hlt : i < (performOps MsrBatchOp.flaggedRead noFailure h.regs ops).1.length := by
      rw [performOps_length]
      exact hi
    simp [BatchDriver.inOrder, List.getElem?_eq_getElem hlt]
  · rw [← hany] at hok
    simp only [BatchDriver.inOrder, if_neg hok]
  · by_cases hfail : h.opFails op = true <;> simp [BatchDriver.inOrder, hop, hfail]
  · show (if _ then (-1 : Int) else 0) < 0 ↔ _
    rw [← hany]
    split <;> simp_all

/-- A table with one batch of one read of register 0x611 on CPU 0. -/
def oneRead : BatchStorage where
  batch := some [⟨1, some ⟨0, [⟨0, 1, 0, 0x611, 0, 0⟩]⟩⟩]
  arrsize := 1
  size := [1]
  retired := []
  nextId := 1

theorem oneRead_sized : oneRead.Sized := by
  refine ⟨by decide, fun t ht => ?_, fun hnone => absurd hnone (by decide)⟩
  obtain rfl := Option.some.inj ht
  decide

/-- Writing that batch rewrites its flag, and both paths end alike. -/
theorem oneRead_write_sameOutcome :
    ∃ r₁ r₂, writeBatch .inOrder (-1) oneRead (.opened 1) 0 = some r₁ ∧
      writeBatch .inOrder 3 oneRead (.opened 1) 0 = some r₂ ∧ SameOutcome 0 r₁ r₂ := by
  obtain ⟨-, r₁, r₂, hr₁, hr₂, hiff⟩ := batch_paths_sameOutcome_iff (b := 0) (h := .opened 1)
    .inOrder inOrder_spec (by omega : (-1 : Int) < 0) (by omega : (0 : Int) ≤ 3) oneRead_sized
    (by decide) (Host.opened_ready 1) (by omega) (fun cpu hcpu msr => decide_eq_true hcpu) rfl
  refine ⟨r₁, r₂, hr₁, hr₂, hiff.mpr ⟨by decide, ?_,
    Or.inl ⟨⟨0, 1, 0, 0x611, 0, 0⟩, rfl, by decide⟩⟩⟩
  rintro ⟨op, hop, hfail⟩
  obtain rfl := List.mem_singleton.mp hop
  exact absurd hfail (by decide)

/-- Where the register cannot be read, the fallback still reports success. -/
theorem oneRead_failing_verdict :
    ¬ ∃ r₁ r₂, readBatch .inOrder (-1) oneRead
        { Host.opened 1 with fails := fun _ _ => true, failsWrite := fun _ _ => true } 0 = some r₁ ∧
      readBatch .inOrder 3 oneRead
        { Host.opened 1 with fails := fun _ _ => true, failsWrite := fun _ _ => true } 0 = some r₂ ∧
      SameOutcome 0 r₁ r₂ := by
  rintro ⟨r₁, r₂, hr₁, hr₂, hsame⟩
  obtain rfl := Option.some.inj hr₁
  obtain rfl := Option.some.inj hr₂
  have hverdict : (0 : Int) < 0 ↔ (-1 : Int) < 0 := hsame.verdict
  exact absurd hverdict (by omega)

end Libmsr
