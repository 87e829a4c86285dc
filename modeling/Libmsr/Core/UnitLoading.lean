/-
  Libmsr.Core.UnitLoading

  Registers loaded one after the other into one batch: `load_thread_batch`,
  `load_core_batch` and `load_socket_batch` calls on it, and in between any
  creation, loading or growth of other batches.
-/
import Libmsr.Core.RowLoading
import Libmsr.Lib.Blocks
import Libmsr.Lib.Runs
import Mathlib.Order.Lattice.Nat

namespace Libmsr

open BatchStorage

/-! ## Calls -/

/-- The units of a machine: what a load function creates one op for. -/
inductive UnitScope where
  | thread
  | core
  | socket
  deriving Repr, DecidableEq

/-- How many there are. -/
def UnitScope.count (cfg : CoreConfig) : UnitScope → Nat
  | .thread => cfg.numDevs
  | .core => cfg.sockets * cfg.coresPerSocket
  | .socket => cfg.sockets

/-- The load function of the unit. -/
def UnitScope.load (cfg : CoreConfig) (g : Topo) (st : BatchStorage) (msr : Nat)
    (val : Option (List (Option Ptr))) (batchnum : Nat) :
    UnitScope → Option (Int × Option (List (Option Ptr)) × BatchStorage)
  | .thread => loadThreadBatch cfg st msr val batchnum
  | .core => loadCoreBatch cfg g st msr val batchnum
  | .socket => loadSocketBatch cfg g st msr val batchnum

/-- A call on some batch, with any arguments. -/
inductive BatchUse where
  | allocate (bsize : Nat)
  | create (msr : Nat) (cpu : Word)
  | load (scope : UnitScope) (msr : Nat) (val : Option (List (Option Ptr)))

/-- The table after the call. -/
def BatchUse.apply (cfg : CoreConfig) (g : Topo) (st : BatchStorage) (batchnum : Nat) :
    BatchUse → Option BatchStorage
  | .allocate bsize => (allocateBatch st batchnum bsize).map fun r => r.2
  | .create msr cpu => (createBatchOp st msr cpu batchnum).map fun r => r.2.2
  | .load scope msr val => (scope.load cfg g st msr val batchnum).map fun r => r.2.2

/-- A register that was loaded, and the array with its pointers. -/
structure LoadedRegister where
  scope : UnitScope
  msr : BitVec 32
  val : List (Option Ptr)
  deriving Repr, DecidableEq

/-- The table and the registers loaded so far. -/
structure UnitLoading where
  st : BatchStorage
  loaded : List LoadedRegister

/-- A register is loaded into the batch, with a new array of the caller, or another
    batch is used. -/
inductive LoadCall where
  | load (scope : UnitScope) (msr : BitVec 32)
  | other (batchnum : Nat) (use : BatchUse)

section Step

variable (cfg : CoreConfig) (g : Topo) (b : Nat)

/-- One call, `b` being the batch the registers are loaded into. -/
def loadStep (s : UnitLoading) : LoadCall → Option UnitLoading
  | .load scope msr => do
    let (_, val, st) ←
      scope.load cfg g s.st msr.toNat (some (List.replicate (scope.count cfg) none)) b
    some ⟨st, s.loaded ++ [⟨scope, msr, val.getD []⟩]⟩
  | .other batchnum use => (use.apply cfg g s.st batchnum).map fun st => { s with st := st }

/-- A call on another batch is on another one, and returns. -/
def OthersReturn (s : UnitLoading) : LoadCall → Prop
  | .load _ _ => True
  | .other batchnum use => batchnum ≠ b ∧ (use.apply cfg g s.st batchnum).isSome

end Step

/-- The registers that a list of calls loads, and their units. -/
def loads (calls : List LoadCall) : List (UnitScope × BitVec 32) :=
  calls.filterMap fun
    | .load scope msr => some (scope, msr)
    | .other _ _ => none

/-- The ops it takes to load them. -/
def opCount (cfg : CoreConfig) (regs : List (UnitScope × BitVec 32)) : Nat :=
  (regs.map fun r => r.1.count cfg).sum

/-! ## Other batches -/

section Others

variable {cfg : CoreConfig} {g : Topo} {st st' : BatchStorage} {b : Nat}

/-- The table stays well-sized, and all batches but `b` keep their ops. -/
structure OnlyTouches (st : BatchStorage) (b : Nat) (st' : BatchStorage) : Prop where
  sized : st'.Sized
  keeps : KeepsOthers st b st'

theorem OnlyTouches.trans {st'' : BatchStorage} (h : OnlyTouches st b st')
    (h' : OnlyTouches st' b st'') : OnlyTouches st b st'' := ⟨h'.sized, h.keeps.trans h'.keeps⟩

/-- However `create_batch_op` ends, if it ends. -/
theorem createBatchOp_touches (hs : st.Sized) {msr : Nat} {cpu : Word} {rc : Int}
    {dest : Option Ptr} (h : createBatchOp st msr cpu b = some (rc, dest, st')) :
    OnlyTouches st b st' := by
  rcases createBatchOp_cases hs msr cpu b with ⟨-, hcreate⟩ | ⟨-, -, hcreate⟩ |
    ⟨a, op, st₁, -, -, -, hcreate, hup⟩
  · -- refused: only the table may have grown
    obtain ⟨-, -, rfl⟩ := by simpa using h.symm.trans hcreate
    have hup := batchStorage_updated hs b
    exact ⟨hup.sized, hup.keepsOthers⟩
  · rw [hcreate] at h
    contradiction
  · obtain ⟨-, -, rfl⟩ := by simpa using h.symm.trans hcreate
    exact ⟨hup.sized, hup.keepsOthers⟩

theorem allocateBatch_touches (hs : st.Sized) {n : Nat} {rc : Int}
    (h : allocateBatch st b n = some (rc, st')) : OnlyTouches st b st' := by
  obtain ⟨st₁, hst₁, hal⟩ := allocateBatch_spec hs b n fun hbad => by
    rw [(allocateBatch_none_iff hs b n).mpr hbad] at h
    contradiction
  obtain ⟨-, rfl⟩ := by simpa using hst₁.symm.trans h
  exact ⟨hal.sized, hal.entry_ne, hal.capacity_ne⟩

theorem loadOp_touches {msr valIdx devIdx : Nat} {s s' : Loading} (hs : s.st.Sized)
    (h : loadOp msr b s valIdx devIdx = some s') : OnlyTouches s.st b s'.st := by
  simp only [loadOp, Option.bind_eq_bind, Option.bind_eq_some_iff] at h
  obtain ⟨⟨rc, dest, st₁⟩, hcreate, h⟩ := h
  have htouch := createBatchOp_touches hs hcreate
  cases dest with
  | none =>
    obtain rfl := Option.some.inj h
    exact htouch
  | some p =>
    simp only [Option.ite_none_right_eq_some, Option.some.injEq] at h
    obtain ⟨-, rfl⟩ := h
    exact htouch

/-- Every load function creates ops one by one. -/
theorem load_touches (hs : st.Sized) {scope : UnitScope} {msr : Nat} {rc : Int}
    {val val' : Option (List (Option Ptr))}
    (h : scope.load cfg g st msr val b = some (rc, val', st')) : OnlyTouches st b st' := by
  have hrefl : OnlyTouches st b st := ⟨hs, .refl st b⟩
  have hop : ∀ (t t' : Loading) (i j : Nat), OnlyTouches st b t.st →
      loadOp msr b t i j = some t' → OnlyTouches st b t'.st :=
    fun t t' i j ht hload => ht.trans (loadOp_touches ht.sized hload)
  -- the nested loops of the core and the socket function
  have hby : ∀ (key : HwThread → Nat) (count : Nat) (v : List (Option Ptr)) (t : Loading),
      loadBatchBy cfg g key count msr b ⟨v, st⟩ = some t → OnlyTouches st b t.st := by
    intro key count v t hload
    refine Loops.foldlM_keeps (I := fun t : Loading => OnlyTouches st b t.st) ?_ hrefl hload
    intro t i t' ht hbody
    simp only [Option.bind_eq_bind, Option.bind_eq_some_iff] at hbody
    obtain ⟨found, -, hbody⟩ := hbody
    cases found with
    | none =>
      obtain rfl := Option.some.inj hbody
      exact ht
    | some j => exact hop t t' i j ht hbody
  cases val with
  | none =>
    have hst : st = st' := by
      cases scope <;>
        simpa [UnitScope.load, loadThreadBatch, loadCoreBatch, loadSocketBatch] using
          congrArg (Option.map fun r => r.2.2) h
    exact hst ▸ hrefl
  | some v =>
    cases scope with
    | thread =>
      simp only [UnitScope.load, loadThreadBatch, Option.bind_eq_bind, Option.bind_eq_some_iff] at h
      obtain ⟨t, hloop, h⟩ := h
      obtain ⟨-, -, rfl⟩ := by simpa using h
      exact Loops.foldlM_keeps (I := fun t : Loading => OnlyTouches st b t.st)
        (fun t i t' ht hbody => hop t t' i i ht hbody) hrefl hloop
    | core =>
      simp only [UnitScope.load, loadCoreBatch, Option.bind_eq_bind, Option.bind_eq_some_iff] at h
      obtain ⟨t, hloop, h⟩ := h
      obtain ⟨-, -, rfl⟩ := by simpa using h
      exact hby _ _ v t hloop
    | socket =>
      simp only [UnitScope.load, loadSocketBatch, Option.bind_eq_bind, Option.bind_eq_some_iff] at h
      obtain ⟨t, hloop, h⟩ := h
      obtain ⟨-, -, rfl⟩ := by simpa using h
      exact hby _ _ v t hloop

/-- A call on a batch leaves the others alone. -/
theorem BatchUse.apply_touches (hs : st.Sized) {use : BatchUse}
    (h : use.apply cfg g st b = some st') : OnlyTouches st b st' := by
  cases use with
  | allocate n =>
    rw [BatchUse.apply, Option.map_eq_some_iff] at h
    obtain ⟨⟨rc, st₁⟩, hst₁, rfl⟩ := h
    exact allocateBatch_touches hs hst₁
  | create msr cpu =>
    rw [BatchUse.apply, Option.map_eq_some_iff] at h
    obtain ⟨⟨rc, dest, st₁⟩, hst₁, rfl⟩ := h
    exact createBatchOp_touches hs hst₁
  | load scope msr val =>
    rw [BatchUse.apply, Option.map_eq_some_iff] at h
    obtain ⟨⟨rc, val', st₁⟩, hst₁, rfl⟩ := h
    exact load_touches hs hst₁

end Others

end Libmsr
