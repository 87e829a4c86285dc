/-
  Libmsr.Clocks.TurboRuns

  What `enable_turbo` and `disable_turbo` do in a run.

  The array of `turbo_storage` is allocated but no function ever stores a pointer
  in it, in whatever order the functions are called.  So the loop of either
  function follows a pointer that was never set, and no call does what it should.
-/
import Libmsr.Clocks.PerfStateRuns
import Libmsr.Clocks.Turbo

namespace Libmsr

/-! ## The pointers of turbo_storage -/

/-- No element of the array is a pointer. -/
def Unset (val : List (Option Ptr)) : Prop := ∀ i, ptrAt val i = none

theorem unset_nil : Unset [] := fun _ => rfl

theorem unset_replicate (n : Nat) : Unset (List.replicate n none) := by
  intro i
  rw [ptrAt, List.getElem?_replicate]
  split <;> rfl

/-- The arrays that the turbo functions use hold no pointer. -/
structure TurboUnset (s : TurboState) : Prop where
  storage : Unset s.storage.perfCtl
  enable : Unset s.enable.val
  disable : Unset s.disable.val

theorem turboStatics_unset (P : Platform) {storage : TurboStorage} {own : TurboStatics}
    (hstorage : Unset storage.perfCtl) (hown : Unset own.val) :
    Unset (turboStatics P storage own).1.perfCtl ∧ Unset (turboStatics P storage own).2.val := by
  have hmade : Unset (turboStorage P storage).2.perfCtl := by
    rw [turboStorage]
    split
    · exact hstorage
    · exact unset_replicate _
  rw [turboStatics]
  split
  · exact ⟨hstorage, hown⟩
  · exact ⟨hmade, hmade⟩

/-- Either function has as many pointers to follow as there are CPUs. -/
theorem turboStatics_numDevs {P : Platform} (hpos : 0 < P.cfg.numDevs) (storage : TurboStorage)
    (own : TurboStatics) : 0 < (turboStatics P storage own).2.numDevs := by
  rw [turboStatics]
  split
  · rename_i hne
    exact Nat.pos_of_ne_zero hne
  · exact hpos

/-- A loop over unset pointers stops at the first one. -/
theorem modifyEach_unset {val : List (Option Ptr)} (hunset : Unset val) {count : Nat}
    (hpos : 0 < count) (w : BatchWorld) (b : Nat) (f : Nat → Word → Word) :
    w.modifyEach b val count f = none := by
  obtain ⟨n, rfl⟩ := Nat.exists_eq_succ_of_ne_zero (Nat.ne_of_gt hpos)
  rw [BatchWorld.modifyEach, List.range_succ_eq_map, List.foldlM_cons, BatchWorld.modify,
    hunset 0]
  rfl

theorem turboUpdate_unset {P : Platform} {own : TurboStatics} (hunset : Unset own.val)
    (hpos : 0 < own.numDevs) (w : BatchWorld) (f : Word → Word) :
    turboUpdate P w own f = none := by
  rw [turboUpdate]
  cases w.readBatch P perfCtlBatch with
  | none => rfl
  | some w' =>
    rw [Option.bind_eq_bind, Option.bind_some, modifyEach_unset hunset hpos]
    rfl

/-! ## Runs -/

section Runs

variable {P : Platform} (hpos : 0 < P.cfg.numDevs)
include hpos

theorem enableTurbo_unset {s : TurboState} (hunset : TurboUnset s) : enableTurbo P s = none := by
  have hval := (turboStatics_unset P hunset.storage hunset.enable).2
  have hnum := turboStatics_numDevs hpos s.storage s.enable
  simp only [enableTurbo, turboUpdate_unset hval hnum, Option.bind_eq_bind, Option.bind_none]

theorem disableTurbo_unset {s : TurboState} (hunset : TurboUnset s) :
    disableTurbo P s = none := by
  have hval := (turboStatics_unset P hunset.storage hunset.disable).2
  have hnum := turboStatics_numDevs hpos s.storage s.disable
  simp only [disableTurbo, turboUpdate_unset hval hnum, Option.bind_eq_bind, Option.bind_none]

/-- No call sets a pointer. -/
theorem turboUnset_step (s : TurboState) (c : TurboCall) (s' : TurboState)
    (hunset : TurboUnset s) (hstep : turboStep P s c = some s') : TurboUnset s' := by
  cases c with
  | enable =>
    rw [turboStep, enableTurbo_unset hpos hunset] at hstep
    contradiction
  | disable =>
    rw [turboStep, disableTurbo_unset hpos hunset] at hstep
    contradiction
  | perfStorage =>
    -- `perf_storage` loads a batch but shares no pointer with the turbo functions
    obtain ⟨perf, -, rfl⟩ := Option.map_eq_some_iff.mp hstep
    exact ⟨hunset.storage, hunset.enable, hunset.disable⟩

end Runs

/-- Before any of the functions was called. -/
structure TurboStart (s : TurboState) : Prop where
  storage : s.storage = ⟨[], false, 0⟩
  enable : s.enable = ⟨0, []⟩
  disable : s.disable = ⟨0, []⟩

theorem TurboStart.unset {s : TurboState} (h : TurboStart s) : TurboUnset s := by
  refine ⟨?_, ?_, ?_⟩
  · rw [h.storage]
    exact unset_nil
  · rw [h.enable]
    exact unset_nil
  · rw [h.disable]
    exact unset_nil

/-- The value bit 32 of IA32_PERF_CTL should have after a call, if the call is
    about that bit. -/
def TurboCall.disengage : TurboCall → Option Bool
  | .enable => some false
  | .disable => some true
  | .perfStorage => none

/-- The call puts `val` into bit 32 of IA32_PERF_CTL on every logical CPU and
    leaves the other bits alone. -/
def Switches (P : Platform) (s : TurboState) (c : TurboCall) (val : Bool) : Prop :=
  ∃ s', turboStep P s c = some s' ∧ ∀ cpu, cpu < P.cfg.numDevs → ∀ i,
    (s'.perf.world.host.regs cpu ia32PerfCtl).getLsbD i =
      if i = 32 then val else (s.perf.world.host.regs cpu ia32PerfCtl).getLsbD i

/-- **No call switches turbo.**  On any machine with a CPU, after any calls in
    any order, neither function does what it should. -/
theorem never_switches {P : Platform} (hpos : 0 < P.cfg.numDevs) {s₀ : TurboState}
    (hstart : TurboStart s₀) {calls : List TurboCall} {s : TurboState}
    (hrun : Runs.run (turboStep P) s₀ calls = some s) {c : TurboCall} {val : Bool}
    (hcall : c.disengage = some val) : ¬ Switches P s c val := by
  have hunset : TurboUnset s := Runs.run_inv (turboUnset_step hpos) hstart.unset hrun
  rintro ⟨s', hs', -⟩
  cases c with
  | enable =>
    rw [turboStep, enableTurbo_unset hpos hunset] at hs'
    contradiction
  | disable =>
    rw [turboStep, disableTurbo_unset hpos hunset] at hs'
    contradiction
  | perfStorage => contradiction

/-- Two sockets, before any call. -/
def twoSocketsTurbo : TurboState := ⟨twoSocketsPerf 0, ⟨[], false, 0⟩, ⟨0, []⟩, ⟨0, []⟩⟩

/-- With the batch loaded first, neither function works. -/
theorem twoSockets_never_switches :
    ∃ s, Runs.run (turboStep twoSockets) twoSocketsTurbo [.perfStorage] = some s ∧
      ¬ Switches twoSockets s .enable false ∧ ¬ Switches twoSockets s .disable true := by
  obtain ⟨perf, -, hperf, -⟩ :=
    perfStorage_first twoSockets_picks.1 (twoSocketsPerf_ready 0).2
  have hrun : Runs.run (turboStep twoSockets) twoSocketsTurbo [.perfStorage] =
      some { twoSocketsTurbo with perf := perf } := by
    rw [Runs.run_cons, turboStep, twoSocketsTurbo, hperf]
    rfl
  have hstart : TurboStart twoSocketsTurbo := ⟨rfl, rfl, rfl⟩
  exact ⟨_, hrun, never_switches (by decide) hstart hrun rfl,
    never_switches (by decide) hstart hrun rfl⟩

/-- The first `disable_turbo` does not switch turbo off. -/
theorem twoSockets_disable_fails : ¬ Switches twoSockets twoSocketsTurbo .disable true := by
  have hunset : TurboUnset twoSocketsTurbo := TurboStart.unset ⟨rfl, rfl, rfl⟩
  rintro ⟨s', hs', -⟩
  rw [turboStep, disableTurbo_unset (by decide) hunset] at hs'
  contradiction

end Libmsr
