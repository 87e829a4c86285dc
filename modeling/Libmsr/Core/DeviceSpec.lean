/-
  Libmsr.Core.DeviceSpec

  What the register-access functions do once the descriptor table is in place.

  - `readMsrByIdx_lt` / `writeMsrByIdx_lt`: an index below the device count
    reaches exactly that CPU's device.
  - `readMsrByIdx_ge` / `writeMsrByIdx_ge`: any other index fails untouched.
  - `byCoord_faithful_iff`: a coordinate call goes to its own CPU or fails
    exactly when the coordinate is in range or its flat index, reduced to 32
    bits, is not below the device count.
-/
import Libmsr.Core.Device
import Libmsr.Core.Numbering

namespace Libmsr

open MixedRadix

/-! ## The host -/

@[simp] theorem Host.setReg_self (h : Host) (cpu msr : Nat) (val : Word) :
    (h.setReg cpu msr val).regs cpu msr = val := by
  simp [Host.setReg]

@[simp] theorem Host.log_regs (h : Host) (a : Access) : (h.log a).regs = h.regs := rfl
@[simp] theorem Host.log_issued (h : Host) (a : Access) :
    (h.log a).issued = h.issued ++ [a] := rfl
@[simp] theorem Host.setReg_issued (h : Host) (cpu msr : Nat) (val : Word) :
    (h.setReg cpu msr val).issued = h.issued := rfl
@[simp] theorem Host.log_fails (h : Host) (a : Access) : (h.log a).fails = h.fails := rfl
@[simp] theorem Host.setReg_fails (h : Host) (cpu msr : Nat) (val : Word) :
    (h.setReg cpu msr val).fails = h.fails := rfl
@[simp] theorem Host.log_failsWrite (h : Host) (a : Access) :
    (h.log a).failsWrite = h.failsWrite := rfl
@[simp] theorem Host.setReg_failsWrite (h : Host) (cpu msr : Nat) (val : Word) :
    (h.setReg cpu msr val).failsWrite = h.failsWrite := rfl

/-- On both hosts the same devices are open and the same accesses fail. -/
structure Host.SameDevices (h h' : Host) : Prop where
  fileDescriptors : h'.fileDescriptors = h.fileDescriptors
  openOn : h'.openOn = h.openOn
  fails : h'.fails = h.fails
  failsWrite : h'.failsWrite = h.failsWrite

namespace Host.SameDevices

variable {h h' h'' : Host}

theorem refl (h : Host) : h.SameDevices h := ⟨rfl, rfl, rfl, rfl⟩

theorem log (hs : h.SameDevices h') (a : Access) : h.SameDevices (h'.log a) :=
  ⟨hs.fileDescriptors, hs.openOn, hs.fails, hs.failsWrite⟩

theorem setReg (hs : h.SameDevices h') (cpu msr : Nat) (val : Word) :
    h.SameDevices (h'.setReg cpu msr val) :=
  ⟨hs.fileDescriptors, hs.openOn, hs.fails, hs.failsWrite⟩

theorem trans (hs : h.SameDevices h') (hs' : h'.SameDevices h'') : h.SameDevices h'' :=
  ⟨hs'.fileDescriptors.trans hs.fileDescriptors, hs'.openOn.trans hs.openOn,
    hs'.fails.trans hs.fails, hs'.failsWrite.trans hs.failsWrite⟩

theorem ready (hs : h.SameDevices h') {n : Nat} (hr : h.Ready n) : h'.Ready n := by
  refine ⟨hs.fileDescriptors ▸ hr.length, fun i hi => ?_⟩
  rw [hs.fileDescriptors, hs.openOn]
  exact hr.entry i hi

end Host.SameDevices

/-! ## Access by index -/

section ByIndex

variable {h : Host} {n : Nat}

/-- `core_fd` accepts an index exactly when it is below the device count as an
    unsigned number; with fewer than `2 ^ 31` devices no negative `int` is. -/
theorem coreFd_eq (hn : h.fileDescriptors.length = n) (hlt : n < 2 ^ 31) (devIdx : BitVec 32) :
    coreFd h devIdx = if devIdx.toNat < n then some devIdx.toNat else none := by
  rw [coreFd, hn]
  by_cases hsign : devIdx.toNat < 2 ^ 31
  · rw [Words.toNat_signExtend_of_lt devIdx hsign]
  · have hwide := Words.le_toNat_signExtend_of_le devIdx (by omega)
    rw [if_neg (by omega), if_neg (by omega)]

/-- An index below the device count reads that CPU's register. -/
theorem readMsrByIdx_lt (hr : h.Ready n) (hlt : n < 2 ^ 31) {devIdx : BitVec 32}
    (hidx : devIdx.toNat < n) (msr : Nat) (val : Word) :
    readMsrByIdx h devIdx msr val =
      if h.fails devIdx.toNat msr then (-1, val, h.log (.read devIdx.toNat msr))
      else (0, h.regs devIdx.toNat msr, h.log (.read devIdx.toNat msr)) := by
  obtain ⟨fd, hfd, hopen⟩ := hr.entry _ hidx
  rw [readMsrByIdx, coreFd_eq hr.length hlt, if_pos hidx]
  simp only [hfd, Host.pread, hopen]
  cases h.fails devIdx.toNat msr <;> rfl

/-- Any other index fails and touches nothing. -/
theorem readMsrByIdx_ge (hr : h.Ready n) (hlt : n < 2 ^ 31) {devIdx : BitVec 32}
    (hidx : n ≤ devIdx.toNat) (msr : Nat) (val : Word) :
    readMsrByIdx h devIdx msr val = (-1, val, h) := by
  rw [readMsrByIdx, coreFd_eq hr.length hlt, if_neg (by omega)]

/-- An index below the device count writes that CPU's register. -/
theorem writeMsrByIdx_lt (hr : h.Ready n) (hlt : n < 2 ^ 31) {devIdx : BitVec 32}
    (hidx : devIdx.toNat < n) (msr : Nat) (val : Word) :
    writeMsrByIdx h devIdx msr val =
      if h.failsWrite devIdx.toNat msr then (-1, h.log (.write devIdx.toNat msr val))
      else (0, (h.setReg devIdx.toNat msr val).log (.write devIdx.toNat msr val)) := by
  obtain ⟨fd, hfd, hopen⟩ := hr.entry _ hidx
  rw [writeMsrByIdx, coreFd_eq hr.length hlt, if_pos hidx]
  simp only [hfd, Host.pwrite, hopen]
  cases h.failsWrite devIdx.toNat msr <;> rfl

theorem writeMsrByIdx_ge (hr : h.Ready n) (hlt : n < 2 ^ 31) {devIdx : BitVec 32}
    (hidx : n ≤ devIdx.toNat) (msr : Nat) (val : Word) :
    writeMsrByIdx h devIdx msr val = (-1, h) := by
  rw [writeMsrByIdx, coreFd_eq hr.length hlt, if_neg (by omega)]

end ByIndex

/-! ## Access by coordinate -/

/-- The coordinate (socket, core, thread) of the CPU with OS index `i` in the
    numbering the flag stands for. -/
def coordOf (cfg : CoreConfig) (discontinuous : Bool) (i : Nat) : Nat × Nat × Nat :=
  if !discontinuous then
    (i % (cfg.sockets * cfg.coresPerSocket) / cfg.coresPerSocket, i % cfg.coresPerSocket,
      i / (cfg.sockets * cfg.coresPerSocket))
  else
    (i % cfg.sockets, i % (cfg.coresPerSocket * cfg.sockets) / cfg.sockets,
      i / (cfg.coresPerSocket * cfg.sockets))

/-- The coordinate exists on the machine. -/
def InRange (cfg : CoreConfig) (socket core thread : Nat) : Prop :=
  socket < cfg.sockets ∧ core < cfg.coresPerSocket ∧ thread < cfg.threadsPerCore

instance (cfg : CoreConfig) (s c t : Nat) : Decidable (InRange cfg s c t) :=
  inferInstanceAs (Decidable (_ ∧ _ ∧ _))

theorem coordOf_flatIndex {cfg : CoreConfig} (d : Bool) {s c t : Nat} (h : InRange cfg s c t) :
    coordOf cfg d (flatIndex cfg d s c t) = (s, c, t) := by
  obtain ⟨hs, hc, -⟩ := h
  cases d with
  | false =>
    have hdig := digits_flat t hs hc
    simp only [digits, Prod.mk.injEq] at hdig
    simp only [coordOf, flatIndex, Bool.not_false, if_true, hdig]
  | true =>
    have hdig := digits_flat t hc hs
    simp only [digits, Prod.mk.injEq] at hdig
    simp only [coordOf, flatIndex, Bool.not_true, Bool.false_eq_true, if_false, hdig]

section ByCoord

variable (cfg : CoreConfig) (g : Topo) (h : Host) (socket core thread : BitVec 32) (msr : Nat)

/-- A call that issued `access cpu` and ended in `(rc, h')` was either served by
    the CPU at exactly the coordinate, or failed without reaching any CPU. -/
def CoordFaithful (access : Nat → Access) (rc : Int) (h' : Host) : Prop :=
  (InRange cfg socket.toNat core.toNat thread.toNat ∧
    ∃ cpu, coordOf cfg g.discontinuousMapping cpu = (socket.toNat, core.toNat, thread.toNat) ∧
      h'.issued = h.issued ++ [access cpu]) ∨
  (rc = -1 ∧ h' = h)

/-- `read_msr_by_coord` is faithful to its coordinate. -/
def ReadFaithful (val : Word) : Prop :=
  let r := readMsrByCoord cfg g h socket core thread msr val
  CoordFaithful cfg g h socket core thread (.read · msr) r.1 r.2.2

/-- `write_msr_by_coord` is faithful to its coordinate. -/
def WriteFaithful (val : Word) : Prop :=
  let r := writeMsrByCoord cfg g h socket core thread msr val
  CoordFaithful cfg g h socket core thread (.write · msr val) r.1 r.2

/-- The index the coordinate is turned into does not name a CPU by accident. -/
def Unserved : Prop :=
  cfg.numDevs ≤
    flatIndex cfg g.discontinuousMapping socket.toNat core.toNat thread.toNat % 2 ^ 32

variable {cfg g h socket core thread}

/-- The index of a coordinate in range survives the `int dev_idx`. -/
theorem devidx_inRange (hfits : cfg.numDevs < 2 ^ 31)
    (hin : InRange cfg socket.toNat core.toNat thread.toNat) :
    ((devidx cfg g socket core thread).setWidth 32).toNat =
        flatIndex cfg g.discontinuousMapping socket.toNat core.toNat thread.toNat ∧
      ((devidx cfg g socket core thread).setWidth 32).toNat < cfg.numDevs := by
  have hlt := flatIndex_lt cfg g.discontinuousMapping hin.1 hin.2.1 hin.2.2
  have hidx : ((devidx cfg g socket core thread).setWidth 32).toNat =
      flatIndex cfg g.discontinuousMapping socket.toNat core.toNat thread.toNat := by
    rw [devidx_setWidth, BitVec.toNat_ofNat, Nat.mod_eq_of_lt (by omega)]
  exact ⟨hidx, by rw [hidx]; exact hlt⟩

variable (cfg g socket core thread) in
/-- A read of a coordinate in range reaches its CPU. -/
theorem readMsrByCoord_inRange {cpu : Nat}
    (hcpu : flatIndex cfg g.discontinuousMapping socket.toNat core.toNat thread.toNat = cpu)
    (hfits : cfg.numDevs < 2 ^ 31) (hr : h.Ready cfg.numDevs)
    (hin : InRange cfg socket.toNat core.toNat thread.toNat) (val : Word) :
    readMsrByCoord cfg g h socket core thread msr val =
      if h.fails cpu msr then (-1, val, h.log (.read cpu msr))
      else (0, h.regs cpu msr, h.log (.read cpu msr)) := by
  obtain ⟨hidx, hlt⟩ := devidx_inRange (g := g) hfits hin
  rw [← hcpu, ← hidx]
  exact readMsrByIdx_lt hr hfits hlt msr val

variable (cfg g socket core thread) in
/-- A write of a coordinate in range reaches its CPU. -/
theorem writeMsrByCoord_inRange {cpu : Nat}
    (hcpu : flatIndex cfg g.discontinuousMapping socket.toNat core.toNat thread.toNat = cpu)
    (hfits : cfg.numDevs < 2 ^ 31) (hr : h.Ready cfg.numDevs)
    (hin : InRange cfg socket.toNat core.toNat thread.toNat) (val : Word) :
    writeMsrByCoord cfg g h socket core thread msr val =
      if h.failsWrite cpu msr then (-1, h.log (.write cpu msr val))
      else (0, (h.setReg cpu msr val).log (.write cpu msr val)) := by
  obtain ⟨hidx, hlt⟩ := devidx_inRange (g := g) hfits hin
  rw [← hcpu, ← hidx]
  exact writeMsrByIdx_lt hr hfits hlt msr val

/-- A call that reached CPU `flatIndex mod 2 ^ 32` is faithful exactly when the
    coordinate is in range. -/
theorem coordFaithful_of_served (hfits : cfg.numDevs < 2 ^ 31) (access : Nat → Access) (rc : Int)
    {h' : Host} {cpu : Nat}
    (hcpu : cpu =
      flatIndex cfg g.discontinuousMapping socket.toNat core.toNat thread.toNat % 2 ^ 32)
    (hissued : h'.issued = h.issued ++ [access cpu]) :
    CoordFaithful cfg g h socket core thread access rc h' ↔
      InRange cfg socket.toNat core.toNat thread.toNat := by
  refine ⟨?_, fun hin => Or.inl ⟨hin, cpu, ?_, hissued⟩⟩
  · rintro (⟨hin, -⟩ | ⟨-, heq⟩)
    · exact hin
    · -- an access was issued, so the host is not the one from before
      have hlen := congrArg (fun x => x.issued.length) heq
      simp [hissued] at hlen
  · have hlt := flatIndex_lt cfg g.discontinuousMapping hin.1 hin.2.1 hin.2.2
    rw [hcpu, Nat.mod_eq_of_lt (by omega), coordOf_flatIndex _ hin]

/-- **Exact behaviour of the coordinate functions.**  Both are faithful to a
    coordinate if and only if it is in range or its flat index, reduced to the
    32 bits of `dev_idx`, is not a CPU number. -/
theorem byCoord_faithful_iff (hfits : cfg.numDevs < 2 ^ 31) (hr : h.Ready cfg.numDevs)
    (val : Word) :
    (ReadFaithful cfg g h socket core thread msr val ↔
      InRange cfg socket.toNat core.toNat thread.toNat ∨ Unserved cfg g socket core thread) ∧
    (WriteFaithful cfg g h socket core thread msr val ↔
      InRange cfg socket.toNat core.toNat thread.toNat ∨ Unserved cfg g socket core thread) := by
  have hidx : ((devidx cfg g socket core thread).setWidth 32).toNat =
      flatIndex cfg g.discontinuousMapping socket.toNat core.toNat thread.toNat % 2 ^ 32 := by
    rw [devidx_setWidth, BitVec.toNat_ofNat]
  by_cases hun : Unserved cfg g socket core thread
  · -- past the table the call fails and issues nothing
    have hge := hun
    rw [Unserved, ← hidx] at hge
    refine ⟨⟨fun _ => Or.inr hun, fun _ => Or.inr ?_⟩, ⟨fun _ => Or.inr hun, fun _ => Or.inr ?_⟩⟩
    · simp only [readMsrByCoord, readMsrByIdx_ge hr hfits hge, and_self]
    · simp only [writeMsrByCoord, writeMsrByIdx_ge hr hfits hge, and_self]
  · -- the call reaches some CPU: it has to be the one the coordinate names
    have hlt := hun
    rw [Unserved, ← hidx, Nat.not_le] at hlt
    simp only [hun, or_false]
    refine ⟨coordFaithful_of_served hfits _ _ hidx ?_, coordFaithful_of_served hfits _ _ hidx ?_⟩
    · simp only [readMsrByCoord, readMsrByIdx_lt hr hfits hlt]
      cases h.fails _ msr <;> rfl
    · simp only [writeMsrByCoord, writeMsrByIdx_lt hr hfits hlt]
      cases h.failsWrite _ msr <;> rfl

end ByCoord

/-- Two sockets of four cores, one thread per core: core 4 of socket 0 does not
    exist, and the call for it reads the first core of socket 1. -/
theorem read_core_past_socket :
    ¬ ReadFaithful ⟨4, 1, 2⟩ ⟨[], false⟩ (.opened 8) 0 4 0 0x611 0 := by
  rintro (⟨⟨-, hcore, -⟩, -⟩ | ⟨hrc, -⟩)
  · exact absurd hcore (by decide)
  · exact absurd hrc (by decide)

/-- On the same machine thread 1 does not exist either, and is refused. -/
theorem thread_past_core_refused :
    ReadFaithful ⟨4, 1, 2⟩ ⟨[], false⟩ (.opened 8) 0 0 1 0x611 0 ∧
      WriteFaithful ⟨4, 1, 2⟩ ⟨[], false⟩ (.opened 8) 0 0 1 0x611 0 := by
  have h : (ReadFaithful ⟨4, 1, 2⟩ ⟨[], false⟩ (.opened 8) 0 0 1 0x611 0 ↔ _) ∧ _ :=
    byCoord_faithful_iff 0x611 (by decide) (Host.opened_ready 8) 0
  have hun : Unserved ⟨4, 1, 2⟩ ⟨[], false⟩ 0 0 1 := by
    show 8 ≤ _
    decide
  exact ⟨h.1.mpr (Or.inr hun), h.2.mpr (Or.inr hun)⟩

end Libmsr
