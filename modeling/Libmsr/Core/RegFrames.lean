/-
  Libmsr.Core.RegFrames

  Which registers a call can change.  `Host.Within S h h'` says that `h'` has the
  devices of `h`, and other values at most in the registers of `S`, pairs of a CPU
  and a register.

  - `readMsrByCoord_unchanged`: a read changes no register.
  - `writeMsrByCoord_within`: a write changes the one it is for.
  - `initMsr_sameRegs`: opening the devices changes none.

  None of these needs a host on which accesses succeed.
-/
import Libmsr.Core.LifecycleRuns

namespace Libmsr

/-- From `h` to `h'` only registers of `S` have changed. -/
structure Host.Within (S : Nat → Nat → Prop) (h h' : Host) : Prop where
  devices : h.SameDevices h'
  regs : ∀ cpu msr, ¬ S cpu msr → h'.regs cpu msr = h.regs cpu msr

/-- No register has changed. -/
def Host.Unchanged (h h' : Host) : Prop := h.Within (fun _ _ => False) h'

namespace Host.Within

variable {S T : Nat → Nat → Prop} {h h' h'' : Host}

theorem refl (S : Nat → Nat → Prop) (h : Host) : h.Within S h := ⟨.refl h, fun _ _ _ => rfl⟩

theorem trans (hw : h.Within S h') (hw' : h'.Within S h'') : h.Within S h'' where
  devices := hw.devices.trans hw'.devices
  regs cpu msr hS := (hw'.regs cpu msr hS).trans (hw.regs cpu msr hS)

theorem mono (hw : h.Within S h') (hST : ∀ cpu msr, S cpu msr → T cpu msr) : h.Within T h' where
  devices := hw.devices
  regs cpu msr hT := hw.regs cpu msr fun hS => hT (hST cpu msr hS)

theorem ready (hw : h.Within S h') {n : Nat} (hr : h.Ready n) : h'.Ready n := hw.devices.ready hr

theorem log (hw : h.Within S h') (a : Access) : h.Within S (h'.log a) where
  devices := hw.devices.log a
  regs := hw.regs

theorem setReg (hw : h.Within S h') {cpu msr : Nat} (hS : S cpu msr) (val : Word) :
    h.Within S (h'.setReg cpu msr val) where
  devices := hw.devices.setReg cpu msr val
  regs c r hc := by
    have hne : ¬ (c = cpu ∧ r = msr) := by
      rintro ⟨rfl, rfl⟩
      exact hc hS
    show (if c = cpu ∧ r = msr then val else h'.regs c r) = h.regs c r
    rw [if_neg hne, hw.regs c r hc]

end Host.Within

namespace Host.Unchanged

variable {S : Nat → Nat → Prop} {h h' h'' : Host}

theorem refl (h : Host) : h.Unchanged h := Host.Within.refl _ h

theorem trans (hu : h.Unchanged h') (hu' : h'.Unchanged h'') : h.Unchanged h'' :=
  Host.Within.trans hu hu'

theorem within (hu : h.Unchanged h') (S : Nat → Nat → Prop) : h.Within S h' :=
  Host.Within.mono hu fun _ _ hfalse => hfalse.elim

end Host.Unchanged

/-! ## Accesses -/

section Accesses

variable (h : Host) (devIdx : BitVec 32) (msr : Nat) (val : Word)

theorem readMsrByIdx_unchanged : h.Unchanged (readMsrByIdx h devIdx msr val).2.2 := by
  refine ⟨readMsrByIdx_sameDevices, fun c r _ => ?_⟩
  rw [readMsrByIdx]
  cases coreFd h devIdx with
  | none => rfl
  | some entry =>
    cases hfd : h.fileDescriptors[entry]? with
    | none => simp only [hfd]
    | some fd =>
      simp only [hfd, Host.pread]
      cases h.openOn fd with
      | none => rfl
      | some cpu => cases hfail : h.fails cpu msr <;> simp only [hfail] <;> rfl

variable {h} {n : Nat} (hready : h.Ready n)
include hready

/-- The register of the CPU of that index. -/
theorem writeMsrByIdx_within : h.Within (fun cpu r => cpu = devIdx.toNat ∧ r = msr)
    (writeMsrByIdx h devIdx msr val).2 := by
  rw [writeMsrByIdx]
  cases hcore : coreFd h devIdx with
  | none => exact .refl _ h
  | some entry =>
    obtain ⟨hlt, hentry⟩ := Option.ite_none_right_eq_some.mp hcore
    obtain rfl := Option.some.inj hentry
    rw [hready.length] at hlt
    -- the sign extension is not below the index
    have hidx : devIdx.toNat < n := by
      rw [BitVec.toNat_signExtend, BitVec.toNat_setWidth] at hlt
      have hbound := devIdx.isLt
      omega
    obtain ⟨fd, hfd, hopen⟩ := hready.entry _ hidx
    simp only [hfd, Host.pwrite, hopen]
    cases hfail : h.failsWrite devIdx.toNat msr with
    | true => exact (Host.Within.refl _ h).log _
    | false => exact ((Host.Within.refl _ h).setReg ⟨rfl, rfl⟩ val).log _

end Accesses

/-- The CPU a coordinate is taken for, also one out of range. -/
def coordCpu (cfg : CoreConfig) (g : Topo) (socket core thread : BitVec 32) : Nat :=
  ((devidx cfg g socket core thread).setWidth 32).toNat

section ByCoord

variable (cfg : CoreConfig) (g : Topo) (h : Host) (socket core thread : BitVec 32) (msr : Nat)
  (val : Word)

theorem readMsrByCoord_unchanged :
    h.Unchanged (readMsrByCoord cfg g h socket core thread msr val).2.2 :=
  readMsrByIdx_unchanged h _ msr val

variable {h}

theorem writeMsrByCoord_within {n : Nat} (hready : h.Ready n) :
    h.Within (fun cpu r => cpu = coordCpu cfg g socket core thread ∧ r = msr)
      (writeMsrByCoord cfg g h socket core thread msr val).2 :=
  writeMsrByIdx_within _ msr val hready

end ByCoord

/-! ## Opening the devices -/

section Open

variable {n : Nat} {fs : FileSystem}

/-- What of the host the loop of `init_msr` leaves alone. -/
structure SameRegs (h h' : Host) : Prop where
  regs : h'.regs = h.regs
  fails : h'.fails = h.fails
  failsWrite : h'.failsWrite = h.failsWrite

theorem SameRegs.trans {h h' h'' : Host} (hs : SameRegs h h') (hs' : SameRegs h' h'') :
    SameRegs h h'' :=
  ⟨hs'.regs.trans hs.regs, hs'.fails.trans hs.fails, hs'.failsWrite.trans hs.failsWrite⟩

theorem allocTable_sameRegs (p : Process) : SameRegs p.host (p.allocTable n).host := by
  rw [Process.allocTable]
  cases p.table <;> exact ⟨rfl, rfl, rfl⟩

theorem coreFd_sameRegs {p p' : Process} (h : p.coreFd n = some p') :
    SameRegs p.host p'.host := by
  simp only [Process.coreFd] at h
  split at h
  · contradiction
  · obtain rfl := Option.some.inj h
    exact allocTable_sameRegs p

theorem openFile_sameRegs (p : Process) (filename : DevFile) (k : Nat) :
    SameRegs p.host ((p.openFile fs filename).2.setEntry k (p.openFile fs filename).1).host := by
  rcases openFile_cases p fs filename with hopen | ⟨fd, -, -, hopen⟩
  · rw [hopen]
    exact ⟨rfl, rfl, rfl⟩
  · rw [hopen]
    exact ⟨rfl, rfl, rfl⟩

theorem initLoop_sameRegs {kt : KernelType} {k : Nat} {p p' : Process} {rc : Int}
    (h : initLoop n fs kt k p = some (rc, p')) : SameRegs p.host p'.host := by
  induction kt, k, p using initLoop.induct n fs with
  | case1 kt k p hlt hrc =>
    rw [initLoop, if_pos hlt, dif_pos hrc] at h
    obtain ⟨-, rfl⟩ := Prod.mk.inj (Option.some.inj h)
    exact ⟨rfl, rfl, rfl⟩
  | case2 kt k p hlt hrc hneg ih =>
    rw [initLoop, if_pos hlt, dif_neg hrc, dif_pos hneg] at h
    exact ih h
  | case3 kt k p hlt hrc hneg ihRestart ihNext =>
    rw [initLoop, if_pos hlt, dif_neg hrc, dif_neg hneg] at h
    simp only [Option.bind_eq_bind, Option.bind_eq_some_iff] at h
    obtain ⟨p₁, hfd, h⟩ := h
    -- one more file is opened, whatever comes after it
    have hopened : SameRegs p.host
        ((p₁.openFile fs (kt.filename k)).2.setEntry k (p₁.openFile fs (kt.filename k)).1).host :=
      (coreFd_sameRegs hfd).trans (openFile_sameRegs p₁ (kt.filename k) k)
    split at h
    · split at h
      · obtain ⟨-, rfl⟩ := Prod.mk.inj (Option.some.inj h)
        exact hopened
      · rename_i hkt
        exact hopened.trans (ihRestart _ _ hkt h)
    · exact hopened.trans (ihNext _ _ h)
  | case4 kt k p hge =>
    rw [initLoop, if_neg hge] at h
    obtain ⟨-, rfl⟩ := Prod.mk.inj (Option.some.inj h)
    exact ⟨rfl, rfl, rfl⟩

/-- `init_msr` changes no register. -/
theorem initMsr_sameRegs {p p' : Process} {rc : Int} (h : initMsr n fs p = some (rc, p')) :
    SameRegs p.host p'.host := by
  rw [initMsr] at h
  split at h
  · obtain ⟨-, rfl⟩ := Prod.mk.inj (Option.some.inj h)
    exact ⟨rfl, rfl, rfl⟩
  · simp only [Option.bind_eq_bind, Option.bind_eq_some_iff] at h
    obtain ⟨⟨rc₁, p₁⟩, hloop, h⟩ := h
    have hsame := initLoop_sameRegs hloop
    split at h
    · obtain ⟨-, rfl⟩ := Prod.mk.inj (Option.some.inj h)
      exact hsame
    · obtain ⟨-, rfl⟩ := Prod.mk.inj (Option.some.inj h)
      exact hsame

end Open

end Libmsr
