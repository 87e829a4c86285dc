/-
  Libmsr.Clocks.PerfStateRuns

  What a sequence of `set_p_state` calls does to the IA32_PERF_CTL of all
  sockets.

  A call changes one slot of the PERF_CTL batch and writes the whole batch, which
  nothing has read before.  After the first call the batch holds what the
  registers hold, so every later call leaves the other sockets alone; the first
  one writes the zeroes of the new batch to them.
-/
import Libmsr.Clocks.PerfState
import Libmsr.Core.RowLoading
import Libmsr.Lib.Runs

namespace Libmsr

open Scatter

/-! ## The PERF_CTL row -/

/-- The IA32_PERF_CTL of the sockets, each on the CPU `pick s`. -/
def perfCtlPlaces (P : Platform) (pick : Nat → Nat) : List (Nat × Nat) :=
  (List.range P.cfg.sockets).map fun s => (pick s, ia32PerfCtl)

theorem perfCtlPlaces_getElem? (P : Platform) (pick : Nat → Nat) {s : Nat}
    (hs : s < P.cfg.sockets) : (perfCtlPlaces P pick)[s]? = some (pick s, ia32PerfCtl) := by
  rw [perfCtlPlaces, List.getElem?_map, List.getElem?_range hs, Option.map_some]

theorem perfCtlPlaces_length (P : Platform) (pick : Nat → Nat) :
    (perfCtlPlaces P pick).length = P.cfg.sockets := by
  rw [perfCtlPlaces, List.length_map, List.length_range]

/-- The PERF_CTL batch is loaded, and its ops carry `data`. -/
structure PerfCtlRow (P : Platform) (pick : Nat → Nat) (s : PerfState) (id : Nat)
    (data : List Word) : Prop where
  row : Row s.world.st perfCtlBatch id (perfCtlPlaces P pick) data
  ptrs : s.d.perfCtl = rowPtrs id 0 P.cfg.sockets

/-- Neither batch has been used yet. -/
structure PerfUnloaded (s : PerfState) : Prop where
  procs : s.procs = 0
  sized : s.world.st.Sized
  perfData : s.world.st.entry perfDataBatch = .empty
  perfCtl : s.world.st.entry perfCtlBatch = .empty

section Storage

variable {P : Platform} {pick : Nat → Nat} {s : PerfState}
  (hpick : Picks P.cfg P.topo HwThread.socketId P.cfg.sockets pick)
include hpick

/-- The first `perf_storage` loads the row; its data are the zeroes of the
    allocation, not what the registers hold. -/
theorem perfStorage_first (hun : PerfUnloaded s) :
    ∃ s' id, perfStorage P s = some s' ∧
      PerfCtlRow P pick s' id (List.replicate P.cfg.sockets 0) ∧ s'.world.host = s.world.host ∧
      s'.setProcs = s.setProcs := by
  have hne : perfCtlBatch ≠ perfDataBatch := by decide
  have hsockets : P.cfg.sockets ≤ 2 ^ 16 := hpick.fit.count_le
  obtain ⟨st₁, hst₁, hdata₁, hkeep₁⟩ :=
    allocateBatch_fresh hun.sized hun.perfData (n := 2 * P.cfg.sockets) (by omega)
  have hctl : st₁.entry perfCtlBatch = .empty := (hkeep₁.entry_ne _ hne).trans hun.perfCtl
  obtain ⟨st₂, hst₂, hctl₂, hkeep₂⟩ :=
    allocateBatch_fresh hdata₁.sized hctl (n := 2 * P.cfg.sockets) (by omega)
  have hdata₂ := hdata₁.of_keepsOthers hne.symm hctl₂.sized hkeep₂
  obtain ⟨st₃, hst₃, hdata₃, hkeep₃⟩ :=
    hdata₂.loadSocketBatch ia32PerfStatus hpick.first (by simp only [List.length_nil]; omega)
  have hctl₃ := hctl₂.of_keepsOthers hne hdata₃.sized hkeep₃
  obtain ⟨st₄, hst₄, hctl₄, -⟩ :=
    hctl₃.loadSocketBatch ia32PerfCtl hpick.first (by simp only [List.length_nil]; omega)
  -- the pointers of the call are into the second batch
  rw [hpick.fit.places (by decide), List.nil_append] at hctl₄
  have hrow := hctl₄.row
  rw [List.length_map, List.length_range] at hrow
  refine ⟨{ s with
    world := { s.world with st := st₄ }
    procs := P.cfg.sockets
    d := ⟨rowPtrs s.world.st.nextId 0 P.cfg.sockets, rowPtrs st₁.nextId 0 P.cfg.sockets⟩ },
    st₁.nextId, ?_, ⟨hrow, rfl⟩, rfl, rfl⟩
  simp only [perfStorage, hun.procs, ne_eq, not_true_eq_false, if_false, hst₁, hst₂, hst₃, hst₄,
    Option.bind_eq_bind, Option.bind_some]
  rfl

end Storage

/-! ## One call -/

/-- The machine works, and no write to the IA32_PERF_CTL of a socket fails. -/
structure PerfWorks (P : Platform) (pick : Nat → Nat) (h : Host) : Prop where
  works : P.drv.Works P.batchfd h P.cfg.numDevs
  writes : ∀ s, s < P.cfg.sockets → h.failsWrite (pick s) ia32PerfCtl = false

theorem PerfWorks.of_sameDevices {P : Platform} {pick : Nat → Nat} {h h' : Host}
    (hw : PerfWorks P pick h) (hsame : h.SameDevices h') : PerfWorks P pick h' := by
  refine ⟨hw.works.of_sameDevices hsame, ?_⟩
  rw [hsame.failsWrite]
  exact hw.writes

/-- Before the first `set_p_state` nothing is loaded; afterwards the batch holds
    what the registers hold. -/
inductive PerfInv (P : Platform) (pick : Nat → Nat) (s : PerfState) : Prop
  | unloaded (hw : PerfWorks P pick s.world.host) (hset : s.setProcs = 0) (hun : PerfUnloaded s)
  | loaded (hw : PerfWorks P pick s.world.host) (hset : s.setProcs ≠ 0) (id : Nat)
      (hrow : PerfCtlRow P pick s id
        ((perfCtlPlaces P pick).map (RegFile.at s.world.host.regs)))

section Call

variable {P : Platform} {pick : Nat → Nat} {s : PerfState}
  (hpick : Picks P.cfg P.topo HwThread.socketId P.cfg.sockets pick)
include hpick

/-- Changing a slot of a loaded row and writing the batch puts the row's data
    into the registers. -/
theorem storeAndWrite {id : Nat} {data : List Word} (hw : PerfWorks P pick s.world.host)
    (hset : s.setProcs ≠ 0) (hrow : PerfCtlRow P pick s id data) {socket : Nat}
    (hs : socket < P.cfg.sockets) (pstate : Word) :
    ∃ w₁ w₂, s.world.modify perfCtlBatch s.d.perfCtl socket (fun _ => pstate) = some w₁ ∧
      w₁.writeBatch P perfCtlBatch = some w₂ ∧
      PerfInv P pick { s with world := w₂ } ∧
      w₂.host.regs (pick socket) ia32PerfCtl = pstate ∧
      ∀ t, t < P.cfg.sockets → t ≠ socket →
        some (w₂.host.regs (pick t) ia32PerfCtl) = data[t]? := by
  have hlen : data.length = P.cfg.sockets := hrow.row.length_eq.trans (perfCtlPlaces_length P pick)
  have hnodup : (perfCtlPlaces P pick).Nodup := hpick.fit.places_nodup ia32PerfCtl
  have hptr : ptrAt s.d.perfCtl socket = some ⟨id, socket⟩ := by
    rw [ptrAt, hrow.ptrs, rowPtrs_getElem? hs, Option.join_some, Nat.zero_add]
  obtain ⟨x, hx⟩ : ∃ x, data[socket]? = some x :=
    ⟨_, List.getElem?_eq_getElem (hlen ▸ hs : socket < data.length)⟩
  obtain ⟨w₁, hw₁, hrow₁, hhost, -⟩ := hrow.row.modify hptr hx fun _ => pstate
  have hok : ∀ p ∈ perfCtlPlaces P pick, w₁.host.failsWrite p.1 p.2 = false := by
    intro p hp
    obtain ⟨t, ht, rfl⟩ := List.mem_map.mp hp
    rw [hhost]
    exact hw.writes t (List.mem_range.mp ht)
  obtain ⟨w₂, hw₂, hrow₂, hregs, hsame, -⟩ := hrow₁.writeBatch (hhost ▸ hw.works) hok
  -- what a socket's register holds afterwards is its element of the data
  have hplace : ∀ t, t < P.cfg.sockets →
      some (w₂.host.regs (pick t) ia32PerfCtl) = (data.set socket pstate)[t]? := by
    intro t ht
    have hlt : t < (data.set socket pstate).length := by
      rw [List.length_set, hlen]
      exact ht
    have hval := List.getElem?_eq_getElem hlt
    have hat := scatter_getElem? hnodup (RegFile.at w₁.host.regs)
      (perfCtlPlaces_getElem? P pick ht) hval
    rw [← hregs] at hat
    rw [hval, ← hat]
    rfl
  refine ⟨w₁, w₂, hw₁, hw₂, .loaded ?_ hset id ⟨?_, hrow.ptrs⟩, ?_, fun t ht hne => ?_⟩
  · rw [hhost] at hsame
    exact hw.of_sameDevices hsame
  · show Row w₂.st perfCtlBatch id _ ((perfCtlPlaces P pick).map (RegFile.at w₂.host.regs))
    rw [hregs, map_scatter hnodup (by rw [List.length_set, perfCtlPlaces_length, hlen])]
    exact hrow₂
  · have hself := hplace socket hs
    rw [List.getElem?_set_self (hlen ▸ hs : socket < data.length)] at hself
    exact Option.some.inj hself
  · rw [hplace t ht, List.getElem?_set_ne (Ne.symm hne)]

/-- What a call works on: the row is loaded, with zeroes if this is the first
    call, else with what the registers hold. -/
theorem PerfInv.loads (hI : PerfInv P pick s) :
    ∃ s₁ id data, setPStateStorage P s = some s₁ ∧ PerfWorks P pick s₁.world.host ∧
      PerfCtlRow P pick s₁ id data ∧ (0 < P.cfg.sockets → s₁.setProcs ≠ 0) ∧
      ∀ t, t < P.cfg.sockets →
        data[t]? = some (if s.setProcs = 0 then 0 else s.world.host.regs (pick t) ia32PerfCtl) := by
  cases hI with
  | unloaded hw hset hun =>
    -- the first call loads the row; nothing reads it from the registers
    obtain ⟨s₁, id, hs₁, hrow, hhost, hset₁⟩ := perfStorage_first hpick
      (s := { s with setProcs := P.cfg.sockets }) ⟨hun.procs, hun.sized, hun.perfData, hun.perfCtl⟩
    refine ⟨s₁, id, _, ?_, ?_, hrow, ?_, fun t ht => ?_⟩
    · rw [setPStateStorage, if_neg (not_not.mpr hset), hs₁]
    · rw [hhost]
      exact hw
    · rw [hset₁]
      exact Nat.ne_of_gt
    · rw [if_pos hset, List.getElem?_replicate, if_pos ht]
  | loaded hw hset id hrow =>
    refine ⟨s, id, _, if_pos hset, hw, hrow, fun _ => hset, fun t ht => ?_⟩
    rw [if_neg hset, List.getElem?_map, perfCtlPlaces_getElem? P pick ht]
    rfl

/-- A `set_p_state` stores its value on its socket; the others get zero at the
    first call and keep their value at any later one. -/
theorem setPState_spec (hI : PerfInv P pick s) {socket : BitVec 32}
    (hs : socket.toNat < P.cfg.sockets) (pstate : Word) :
    ∃ s', setPState P s socket pstate = some s' ∧ PerfInv P pick s' ∧ s'.setProcs ≠ 0 ∧
      s'.world.host.regs (pick socket.toNat) ia32PerfCtl = pstate ∧
      ∀ t, t < P.cfg.sockets → t ≠ socket.toNat →
        s'.world.host.regs (pick t) ia32PerfCtl =
          if s.setProcs = 0 then 0 else s.world.host.regs (pick t) ia32PerfCtl := by
  obtain ⟨s₁, id, data, hload, hw, hrow, hset, hdata⟩ := hI.loads hpick
  have hset₁ := hset (by omega)
  obtain ⟨w₁, w₂, hw₁, hw₂, hI₂, hself, hothers⟩ := storeAndWrite hpick hw hset₁ hrow hs pstate
  refine ⟨{ s₁ with world := w₂ }, ?_, hI₂, hset₁, hself, fun t ht hne => ?_⟩
  · simp only [setPState, hload, hw₁, hw₂, Option.bind_eq_bind, Option.bind_some]
  · have hval := hothers t ht hne
    rw [hdata t ht] at hval
    exact Option.some.inj hval

/-- A socket that does not exist has no pointer. -/
theorem setPState_none (hI : PerfInv P pick s) {socket : BitVec 32}
    (hs : P.cfg.sockets ≤ socket.toNat) (pstate : Word) :
    setPState P s socket pstate = none := by
  obtain ⟨s₁, id, data, hload, -, hrow, -⟩ := hI.loads hpick
  have hptr : ptrAt s₁.d.perfCtl socket.toNat = none := by
    rw [ptrAt, hrow.ptrs, rowPtrs, List.getElem?_eq_none (by simpa using hs)]
    rfl
  simp only [setPState, hload, BatchWorld.modify, hptr, Option.bind_eq_bind, Option.bind_some,
    Option.bind_none]

end Call

/-! ## Runs -/

/-- A call of `set_p_state`: socket and value. -/
abbrev PStateCall := BitVec 32 × Word

/-- A call for an existing socket stores its value there and leaves the register
    of every other socket alone. -/
def SetsOnly (P : Platform) (pick : Nat → Nat) (s : PerfState) (c : PStateCall) : Prop :=
  c.1.toNat < P.cfg.sockets → ∃ s', setPState P s c.1 c.2 = some s' ∧
    s'.world.host.regs (pick c.1.toNat) ia32PerfCtl = c.2 ∧
    ∀ t, t < P.cfg.sockets → t ≠ c.1.toNat →
      s'.world.host.regs (pick t) ia32PerfCtl = s.world.host.regs (pick t) ia32PerfCtl

/-- The condition: the first call finds zero in the registers of the other
    sockets. -/
def FirstFindsZero (P : Platform) (pick : Nat → Nat) (s : PerfState) (c : PStateCall) : Prop :=
  c.1.toNat < P.cfg.sockets → s.setProcs = 0 →
    ∀ t, t < P.cfg.sockets → t ≠ c.1.toNat → s.world.host.regs (pick t) ia32PerfCtl = 0

section Runs

variable {P : Platform} {pick : Nat → Nat} {s : PerfState}
  (hpick : Picks P.cfg P.topo HwThread.socketId P.cfg.sockets pick)
include hpick

theorem setsOnly_iff (hI : PerfInv P pick s) (c : PStateCall) :
    SetsOnly P pick s c ↔ FirstFindsZero P pick s c := by
  refine imp_congr_right fun hs => ?_
  obtain ⟨s', hs', -, -, hself, hothers⟩ := setPState_spec hpick hI hs c.2
  constructor
  · rintro ⟨s'', hs'', -, hkept⟩ hfirst t ht hne
    obtain rfl := Option.some.inj (hs''.symm.trans hs')
    rw [← hkept t ht hne, hothers t ht hne, if_pos hfirst]
  · intro hzero
    refine ⟨s', hs', hself, fun t ht hne => ?_⟩
    rw [hothers t ht hne]
    split
    · rename_i hfirst
      exact (hzero hfirst t ht hne).symm
    · rfl

/-- Whatever it finds, a call that returns leaves a loaded batch behind. -/
theorem perfInv_step (hI : PerfInv P pick s) (c : PStateCall) {s' : PerfState}
    (hstep : setPState P s c.1 c.2 = some s') : PerfInv P pick s' := by
  by_cases hs : c.1.toNat < P.cfg.sockets
  · obtain ⟨s'', hs'', hI', -⟩ := setPState_spec hpick hI hs c.2
    obtain rfl := Option.some.inj (hs''.symm.trans hstep)
    exact hI'
  · rw [setPState_none hpick hI (Nat.not_lt.mp hs)] at hstep
    contradiction

/-- **Frame of set_p_state.**  Along every sequence of calls from unused batches,
    each call sets its own socket and no other if and only if the first one finds
    zero in the others. -/
theorem setsOnly_along_iff (hw : PerfWorks P pick s.world.host) (hset : s.setProcs = 0)
    (hun : PerfUnloaded s) (calls : List PStateCall) :
    Runs.Along (fun s c => setPState P s c.1 c.2) (SetsOnly P pick) s calls ↔
      Runs.Along (fun s c => setPState P s c.1 c.2) (FirstFindsZero P pick) s calls :=
  Runs.along_iff (fun _ c hI => setsOnly_iff hpick hI c)
    (fun _ c _ hI _ hstep => perfInv_step hpick hI c hstep) (.unloaded hw hset hun)

end Runs

/-! ## Two sockets -/

/-- Two sockets before the first call, the second one holding `val`. -/
def twoSocketsPerf (val : Word) : PerfState where
  world := ⟨.init, { Host.opened 2 with regs := fun cpu _ => if cpu = 1 then val else 0 }⟩
  procs := 0
  d := ⟨[], []⟩
  setProcs := 0

theorem twoSocketsPerf_ready (val : Word) :
    PerfWorks twoSockets id (twoSocketsPerf val).world.host ∧
      PerfUnloaded (twoSocketsPerf val) := by
  refine ⟨⟨inOrder_works (by omega) 3 _, fun s hs => ?_⟩, rfl, BatchStorage.init_sized, rfl, rfl⟩
  exact decide_eq_false (Nat.not_le.mpr hs)

/-- From registers that hold zero, setting one socket after the other works. -/
theorem twoSockets_setsOnly :
    Runs.Along (fun s c => setPState twoSockets s c.1 c.2) (SetsOnly twoSockets id)
      (twoSocketsPerf 0) [(0, 0x1800), (1, 0xC00)] := by
  obtain ⟨hw, hun⟩ := twoSocketsPerf_ready 0
  rw [setsOnly_along_iff twoSockets_picks.1 hw rfl hun]
  refine ⟨fun _ _ t _ _ => ite_self _, fun s' hs' => ⟨fun _ hset => ?_, fun _ _ => trivial⟩⟩
  obtain ⟨s'', hs'', -, hset', -⟩ := setPState_spec twoSockets_picks.1 (.unloaded hw rfl hun)
    (by decide : (0 : BitVec 32).toNat < twoSockets.cfg.sockets) 0x1800
  obtain rfl := Option.some.inj (hs''.symm.trans hs')
  exact absurd hset hset'

/-- The first call sets the other socket's register to zero. -/
theorem twoSockets_not_setsOnly :
    ¬ Runs.Along (fun s c => setPState twoSockets s c.1 c.2) (SetsOnly twoSockets id)
      (twoSocketsPerf 0x1400) [(0, 0x1800)] := by
  obtain ⟨hw, hun⟩ := twoSocketsPerf_ready 0x1400
  rintro ⟨honly, -⟩
  rw [setsOnly_iff twoSockets_picks.1 (.unloaded hw rfl hun)] at honly
  -- socket 1 would have to hold zero
  have hzero := honly (by decide) rfl 1 (by decide) (by decide)
  exact absurd hzero (by decide)

end Libmsr
