/-
  Libmsr.Counters.PcuRuns

  Any sequence of `clear_pcu`, `clear_all_pcu` and `dump_unc_counter_data`.

  `clear_pcu` does not write the counter: it overwrites the pointer to it.  So a run is
  as required exactly when every `clear_pcu` in it is refused.
-/
import Libmsr.Counters.PcuEvents
import Libmsr.Lib.Runs

namespace Libmsr

open Runs

/-! ## What is required -/

inductive PcuCall where
  | clear (idx : Int)
  | clearAll
  | dump
  deriving Repr, DecidableEq

def pcuStep (P : Platform) (m : PcuMsrs) (s : PcuState) : PcuCall → Option PcuState
  | .clear idx => (clearPcu P m s idx).map Prod.snd
  | .clearAll => clearAllPcu P m s
  | .dump => (dumpUncCounterData P m s).map Prod.snd

/-- Counter `k` of a socket in the buffer. -/
def PcuState.counter (s : PcuState) (k socket : Nat) : Option Word :=
  s.world.loadAt uncoreCountBatch s.uc k socket

/-- Every slot points to the op on its counter's register and its socket's CPU, both
    cut to the width of the op's fields. -/
def SlotsPoint (P : Platform) (m : PcuMsrs) (pick : Nat → Nat) (s : PcuState) : Prop :=
  ∀ k socket, k < 4 → socket < P.cfg.sockets → ∃ val p op, s.uc k = some val ∧
    ptrAt val socket = some p ∧ s.world.st.opAt uncoreCountBatch p = some op ∧
    op.place = opPlace (m.ctr0 + k) (pick socket)

/-- What `clear_pcu` has to do, from the state `s₀` with the storage set up: clear the
    counters of an existing socket and no others, and refuse any other index. -/
def PcuCleared (sockets : Nat) (s₀ : PcuState) (idx rc : Int) (s' : PcuState) : Prop :=
  if 0 ≤ idx ∧ idx < sockets then
    rc = 0 ∧ (∀ k, k < 4 → s'.counter k idx.toNat = some 0) ∧
      ∀ k socket, k < 4 → socket < sockets → socket ≠ idx.toNat →
        s'.counter k socket = s₀.counter k socket
  else rc = -1 ∧ s' = s₀

/-- What each call has to do.  None follows a null pointer, and after each the slots
    point to their ops. -/
def PcuLaw (P : Platform) (m : PcuMsrs) (pick : Nat → Nat) (s : PcuState) : PcuCall → Prop
  | .clear idx => ∃ s₀ rc s', uncCountersStorage P m s = some s₀ ∧
      clearPcu P m s idx = some (rc, s') ∧ PcuCleared P.cfg.sockets s₀ idx rc s' ∧
      SlotsPoint P m pick s'
  | .clearAll => ∃ s', clearAllPcu P m s = some s' ∧
      (∀ k socket, k < 4 → socket < P.cfg.sockets → s'.counter k socket = some 0) ∧
      SlotsPoint P m pick s'
  | .dump => ∃ lines s', dumpUncCounterData P m s = some (lines, s') ∧
      (∀ k socket, k < 4 → socket < P.cfg.sockets →
        (lines[socket]?.bind fun entries => entries[k]?) = s'.counter k socket) ∧
      SlotsPoint P m pick s'

/-- The condition: `clear_pcu` is only called for what is above all sockets. -/
def PcuCall.Refused (sockets : Nat) : PcuCall → Prop
  | .clear idx => sockets ≤ idx
  | .clearAll => True
  | .dump => True

instance PcuCall.decidableRefused (sockets : Nat) : (c : PcuCall) → Decidable (c.Refused sockets)
  | .clear idx => inferInstanceAs (Decidable ((sockets : Int) ≤ idx))
  | .clearAll => inferInstanceAs (Decidable True)
  | .dump => inferInstanceAs (Decidable True)

/-! ## Runs of calls that are refused -/

/-- The driver works and the counters can be written. -/
structure PcuWorks (P : Platform) (m : PcuMsrs) (pick : Nat → Nat) (h : Host) : Prop where
  works : P.drv.Works P.batchfd h P.cfg.numDevs
  writes : ∀ k socket, k < 4 → socket < P.cfg.sockets →
    h.failsWrite (opPlace (m.ctr0 + k) (pick socket)).1 (opPlace (m.ctr0 + k) (pick socket)).2 =
      false

theorem PcuWorks.of_sameDevices {P : Platform} {m : PcuMsrs} {pick : Nat → Nat} {h h' : Host}
    (hw : PcuWorks P m pick h) (hsame : h.SameDevices h') : PcuWorks P m pick h' := by
  refine ⟨hw.works.of_sameDevices hsame, ?_⟩
  rw [hsame.failsWrite]
  exact hw.writes

/-- What the calls keep. -/
structure PcuInv (P : Platform) (m : PcuMsrs) (pick : Nat → Nat) (s : PcuState) : Prop where
  works : PcuWorks P m pick s.world.host
  ready : UncReady P m.ctr0 uncoreCountBatch pick s.ucInit s.uc s.world.st

section Calls

variable {P : Platform} {m : PcuMsrs} {pick : Nat → Nat} {s : PcuState}

/-- The counters are loaded, and hold `data`. -/
structure PcuLoaded (P : Platform) (m : PcuMsrs) (pick : Nat → Nat) (s : PcuState) (id : Nat)
    (data : Nat → Nat → Word) : Prop where
  works : PcuWorks P m pick s.world.host
  init : s.ucInit = true
  table : RegTable (pcuLayout P.cfg m.ctr0 pick) s.uc s.world.st uncoreCountBatch id data

namespace PcuLoaded

variable {id : Nat} {data : Nat → Nat → Word} (h : PcuLoaded P m pick s id data)
include h

theorem inv : PcuInv P m pick s :=
  ⟨h.works, h.table.cells.sized, Or.inr ⟨h.init, id, data, h.table⟩⟩

theorem counter {k socket : Nat} (hk : k < 4) (hsocket : socket < P.cfg.sockets) :
    s.counter k socket = some (data k socket) :=
  h.table.loadAt hk hsocket

theorem slotsPoint : SlotsPoint P m pick s := by
  intro k socket hk hsocket
  obtain ⟨val, hval, hptr⟩ := h.table.pointer (k := k) hk hsocket
  obtain ⟨op, hop, hplace, -⟩ := h.table.opAt (k := k) hk hsocket
  exact ⟨val, _, op, hval, hptr, hop, hplace⟩

theorem storage : uncCountersStorage P m s = some s := by
  rw [uncCountersStorage, if_pos h.init]

end PcuLoaded

/-- The first call sets the storage up. -/
theorem PcuInv.load (hfound : SocketsFound P pick) (hI : PcuInv P m pick s) :
    ∃ s₀ id data, uncCountersStorage P m s = some s₀ ∧ PcuLoaded P m pick s₀ id data := by
  obtain ⟨s₀, id, data, hs₀, hinit, htable, hhost⟩ := uncCountersStorage_spec hfound hI.ready
  exact ⟨s₀, id, data, hs₀, hhost ▸ hI.works, hinit, htable⟩

/-- An index from the number of sockets on is refused. -/
theorem clearPcu_ge {s₀ : PcuState} (hs₀ : uncCountersStorage P m s = some s₀) {idx : Int}
    (hidx : (P.cfg.sockets : Int) ≤ idx) : clearPcu P m s idx = some (-1, s₀) := by
  rw [clearPcu, hs₀, Option.bind_eq_bind, Option.bind_some, if_neg (by omega)]

/-- Below, there is no socket and no result, or the pointer to the socket's first
    counter is gone. -/
theorem PcuLoaded.clearPcu_lt {s₀ : PcuState} {id : Nat} {data : Nat → Nat → Word}
    (h : PcuLoaded P m pick s₀ id data) (hs₀ : uncCountersStorage P m s = some s₀) {idx : Int}
    (hidx : idx < P.cfg.sockets) {rc : Int} {s' : PcuState}
    (hs' : clearPcu P m s idx = some (rc, s')) :
    ∃ socket : Nat, idx = socket ∧ socket < P.cfg.sockets ∧
      ∃ val, s'.uc 0 = some val ∧ ptrAt val socket = none := by
  have harray : s₀.uc 0 = some (rowPtrs id (0 * P.cfg.sockets) P.cfg.sockets) :=
    h.table.array 0 (show 0 < 4 by decide)
  have hlen : (rowPtrs id (0 * P.cfg.sockets) P.cfg.sockets).length = P.cfg.sockets := by
    rw [rowPtrs, List.length_map, List.length_range]
  rw [clearPcu, hs₀, Option.bind_eq_bind, Option.bind_some, if_pos hidx, harray,
    Option.bind_eq_bind, Option.bind_some, hlen] at hs'
  by_cases hin : 0 ≤ idx ∧ idx < P.cfg.sockets
  · rw [if_pos hin, Option.some_inj] at hs'
    obtain rfl := (Prod.mk.inj hs').2
    have hlt : idx.toNat < (rowPtrs id (0 * P.cfg.sockets) P.cfg.sockets).length := by omega
    -- the pointer is overwritten, not what it points to
    refine ⟨idx.toNat, by omega, by omega,
      (rowPtrs id (0 * P.cfg.sockets) P.cfg.sockets).set idx.toNat none, ?_, ?_⟩
    · exact Function.update_self (f := s₀.uc) 0 _
    · rw [ptrAt, List.getElem?_set_self hlt]
      rfl
  · rw [if_neg hin] at hs'
    contradiction

/-- `clear_pcu` does what it has to exactly where it refuses. -/
theorem pcuLaw_clear_iff (hfound : SocketsFound P pick) (hI : PcuInv P m pick s) (idx : Int) :
    PcuLaw P m pick s (.clear idx) ↔ (P.cfg.sockets : Int) ≤ idx := by
  obtain ⟨s₀, id, data, hs₀, h⟩ := hI.load hfound
  constructor
  · rintro ⟨t₀, rc, s', -, hs', -, hpoint⟩
    by_contra hlt
    obtain ⟨socket, rfl, hsocket, val, hval, hnull⟩ := h.clearPcu_lt hs₀ (by omega) hs'
    -- the slot would have to point to an op
    obtain ⟨val', p, -, hval', hptr, -⟩ := hpoint 0 socket (by decide) hsocket
    obtain rfl := Option.some.inj (hval.symm.trans hval')
    rw [hnull] at hptr
    contradiction
  · intro hge
    refine ⟨s₀, -1, s₀, hs₀, clearPcu_ge hs₀ hge, ?_, h.slotsPoint⟩
    rw [PcuCleared, if_neg (by omega)]
    exact ⟨rfl, rfl⟩

/-- `clear_all_pcu` clears everything. -/
theorem PcuInv.clearAll (hfound : SocketsFound P pick) (hI : PcuInv P m pick s) :
    ∃ s' id, clearAllPcu P m s = some s' ∧ PcuLoaded P m pick s' id fun _ _ => 0 := by
  obtain ⟨s₀, id, data, hs₀, h⟩ := hI.load hfound
  have hks : ∀ k ∈ List.range 4, k < 4 := fun k hk => List.mem_range.mp hk
  obtain ⟨w₁, hw₁, htable₁, hhost₁, -⟩ := h.table.storeColumns hks 0
  have hworks₁ : PcuWorks P m pick w₁.host := hhost₁ ▸ h.works
  obtain ⟨w₂, hw₂, htable₂, hsame, -⟩ := htable₁.writeBatch hworks₁.works hworks₁.writes
  refine ⟨{ s₀ with world := w₂ }, id, ?_, hworks₁.of_sameDevices hsame, h.init,
    htable₂.congr fun k t hk ht => ?_⟩
  · have hloop : (List.range P.cfg.sockets).foldlM (clearAllPcuBody s₀.uc) s₀.world = some w₁ :=
      hw₁
    simp only [clearAllPcu, hs₀, hloop, hw₂, Option.bind_eq_bind, Option.bind_some]
  · rw [if_pos ⟨ht, List.mem_range.mpr hk⟩]

/-- `dump_unc_counter_data` prints the buffer. -/
theorem PcuInv.dump (hfound : SocketsFound P pick) (hI : PcuInv P m pick s) :
    ∃ s' id data, dumpUncCounterData P m s = some ((List.range P.cfg.sockets).map fun socket =>
      (List.range 4).map fun k => data k socket, s') ∧ PcuLoaded P m pick s' id data := by
  obtain ⟨s₀, id, data, hs₀, h⟩ := hI.load hfound
  refine ⟨s₀, id, data, ?_, h⟩
  have hline : ∀ socket ∈ List.range P.cfg.sockets,
      ((List.range 4).mapM fun k => s₀.world.loadAt uncoreCountBatch s₀.uc k socket) =
        some ((List.range 4).map fun k => data k socket) := by
    intro socket hsocket
    exact Loops.mapM_some fun k hk => h.counter (List.mem_range.mp hk) (List.mem_range.mp hsocket)
  simp only [dumpUncCounterData, hs₀, Loops.mapM_some hline, Option.bind_eq_bind, Option.bind_some]

/-- **One call** is as required exactly when it is no `clear_pcu` that is accepted. -/
theorem pcuLaw_iff (hfound : SocketsFound P pick) (hI : PcuInv P m pick s) (c : PcuCall) :
    PcuLaw P m pick s c ↔ c.Refused P.cfg.sockets := by
  cases c with
  | clear idx => exact pcuLaw_clear_iff hfound hI idx
  | clearAll =>
    obtain ⟨s', id, hs', h⟩ := hI.clearAll hfound
    exact iff_of_true ⟨s', hs', fun k socket hk hsocket => h.counter hk hsocket, h.slotsPoint⟩
      trivial
  | dump =>
    obtain ⟨s', id, data, hs', h⟩ := hI.dump hfound
    refine iff_of_true ⟨_, s', hs', fun k socket hk hsocket => ?_, h.slotsPoint⟩ trivial
    rw [List.getElem?_map, List.getElem?_range hsocket, Option.map_some, Option.bind_some,
      List.getElem?_map, List.getElem?_range hk, Option.map_some, h.counter hk hsocket]

/-- A call that is not one succeeds. -/
theorem PcuInv.step (hfound : SocketsFound P pick) (hI : PcuInv P m pick s) {c : PcuCall}
    (hc : c.Refused P.cfg.sockets) : ∃ s', pcuStep P m s c = some s' ∧ PcuInv P m pick s' := by
  cases c with
  | clear idx =>
    obtain ⟨s₀, id, data, hs₀, h⟩ := hI.load hfound
    refine ⟨s₀, ?_, h.inv⟩
    rw [pcuStep, clearPcu_ge hs₀ hc]
    rfl
  | clearAll =>
    obtain ⟨s', id, hs', h⟩ := hI.clearAll hfound
    exact ⟨s', hs', h.inv⟩
  | dump =>
    obtain ⟨s', id, data, hs', h⟩ := hI.dump hfound
    refine ⟨s', ?_, h.inv⟩
    rw [pcuStep, hs']
    rfl

/-- **Uncore counters.**  In a run of any calls each does what it has to exactly when
    every `clear_pcu` is for an index from the number of sockets on. -/
theorem pcuRuns_iff (hfound : SocketsFound P pick) (hI : PcuInv P m pick s)
    (calls : List PcuCall) :
    Along (pcuStep P m) (PcuLaw P m pick) s calls ↔ ∀ c ∈ calls, c.Refused P.cfg.sockets :=
  along_iff_forall (fun _ hI c _ => pcuLaw_iff hfound hI c)
    (fun _ hI _ _ hc => PcuInv.step hfound hI hc) hI

end Calls

theorem twoSockets_pcuInv : PcuInv twoSockets pcuMsrsOld id (pcuStart (.opened 2)) := by
  refine ⟨⟨inOrder_works (n := 2) (by decide) 3 (Host.opened 2).regs, ?_⟩, pcuStart_uc ..⟩
  intro k socket _ hsocket
  have hlt : socket < 2 := hsocket
  show decide (2 ≤ socket % 2 ^ 16) = false
  exact decide_eq_false (by omega)

/-- On two sockets: everything is cleared and printed, and socket 2 is refused. -/
theorem twoSockets_pcuRun :
    Along (pcuStep twoSockets pcuMsrsOld) (PcuLaw twoSockets pcuMsrsOld id) (pcuStart (.opened 2))
      [.dump, .clearAll, .clear 2, .dump] :=
  (pcuRuns_iff twoSockets_found twoSockets_pcuInv _).mpr (by decide)

/-- `clear_pcu(0)` is accepted, and the dump after it follows a null pointer. -/
theorem twoSockets_clear_then_dump :
    ¬ Along (pcuStep twoSockets pcuMsrsOld) (PcuLaw twoSockets pcuMsrsOld id)
        (pcuStart (.opened 2)) [.clear 0, .dump] ∧
      (run (pcuStep twoSockets pcuMsrsOld) (pcuStart (.opened 2)) [.clear 0]).isSome ∧
      (run (pcuStep twoSockets pcuMsrsOld) (pcuStart (.opened 2)) [.clear 0, .dump]).isNone := by
  refine ⟨?_, by decide +kernel, by decide +kernel⟩
  rintro ⟨hlaw, -⟩
  exact absurd ((pcuLaw_iff twoSockets_found twoSockets_pcuInv _).mp hlaw) (by decide)

end Libmsr
