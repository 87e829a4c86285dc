/-
  Libmsr.Counters.PcuLoading

  What `init_unc_perfevtsel` and `init_unc_counters` load: a register of each of four
  counters for every socket, the first counter first, on the socket's first CPU.
-/
import Libmsr.Counters.Pcu
import Libmsr.Counters.PmcLoading

namespace Libmsr

/-- Four counters of every socket. -/
def pcuLayout (cfg : CoreConfig) (msr0 : Nat) (pick : Nat → Nat) : TableLayout where
  count := 4
  objects := cfg.sockets
  row k := k
  msr k := msr0 + k
  cpu := pick
  row_lt _ hk := hk
  row_row _ _ := rfl

/-- `load_socket_batch` finds the CPU `pick v` on socket `v`, and the number of ops is
    an `int`. -/
structure SocketsFound (P : Platform) (pick : Nat → Nat) : Prop where
  first : ∀ v, v < P.cfg.sockets →
    firstDev P.topo (fun entry => entry.socketId = v) 0 P.cfg.numDevs = some (some (pick v))
  small : 4 * P.cfg.sockets < 2 ^ 31

section Load

variable {P : Platform} {msr0 b : Nat} {pick : Nat → Nat} {st : BatchStorage}

theorem initUnc_spec (hfound : SocketsFound P pick) (hs : st.Sized)
    (hempty : st.entry b = .empty) (arrays : RegArrays) :
    ∃ r, initUnc P msr0 b (arrays, st) = some r ∧
      RegTable (pcuLayout P.cfg msr0 pick) r.1 r.2 b st.nextId (fun _ _ => 0) ∧ r.2.Sized ∧
      KeepsOthers st b r.2 := by
  have hcalloc : ∀ k, k < 4 → (List.range 4).foldl (callocArray P.cfg.sockets) arrays k =
      some (List.replicate P.cfg.sockets none) := by
    intro k hk
    rw [foldl_callocArray, if_pos (List.mem_range.mpr hk)]
  obtain ⟨st₁, hst₁, r, hr, htable, hsized, -, hkeep⟩ :=
    allocate_loads_table (L := pcuLayout P.cfg msr0 pick)
      (loadSocketBatch_loadsRow hfound.first) hs hempty hfound.small hcalloc
  refine ⟨r, ?_, htable, hsized, hkeep⟩
  have halloc : allocateBatch st b (4 * P.cfg.sockets) = some (0, st₁) := hst₁
  simp only [initUnc, halloc, Option.bind_eq_bind, Option.bind_some]
  exact hr

/-- A struct that is as before any call, or loaded. -/
structure UncReady (P : Platform) (msr0 b : Nat) (pick : Nat → Nat) (init : Bool)
    (arrays : RegArrays) (st : BatchStorage) : Prop where
  sized : st.Sized
  loaded : init = false ∧ st.entry b = .empty ∨ init = true ∧
    ∃ id data, RegTable (pcuLayout P.cfg msr0 pick) arrays st b id data

end Load

section Storage

variable {P : Platform} {m : PcuMsrs} {pick : Nat → Nat} {s : PcuState}

/-- After `unc_perfevtsel_storage` the event-select registers are loaded. -/
theorem uncPerfevtselStorage_spec (hfound : SocketsFound P pick)
    (h : UncReady P m.evntsel0 uncoreEvtselBatch pick s.uevtInit s.uevt s.world.st) :
    ∃ s' id data, uncPerfevtselStorage P m s = some s' ∧ s'.uevtInit = true ∧
      RegTable (pcuLayout P.cfg m.evntsel0 pick) s'.uevt s'.world.st uncoreEvtselBatch id data := by
  rcases h.loaded with ⟨hinit, hempty⟩ | ⟨hinit, id, data, htable⟩
  · obtain ⟨r, hr, htable, -⟩ := initUnc_spec hfound h.sized hempty s.uevt
    refine ⟨{ s with world := { s.world with st := r.2 }, uevt := r.1, uevtInit := true }, _, _,
      ?_, rfl, htable⟩
    rw [uncPerfevtselStorage, hinit]
    simp only [Bool.false_eq_true, if_false, initUncPerfevtsel, hr, Option.bind_eq_bind,
      Option.bind_some]
  · refine ⟨s, id, data, ?_, hinit, htable⟩
    rw [uncPerfevtselStorage, if_pos hinit]

/-- After `unc_counters_storage` the counters are loaded. -/
theorem uncCountersStorage_spec (hfound : SocketsFound P pick)
    (h : UncReady P m.ctr0 uncoreCountBatch pick s.ucInit s.uc s.world.st) :
    ∃ s' id data, uncCountersStorage P m s = some s' ∧ s'.ucInit = true ∧
      RegTable (pcuLayout P.cfg m.ctr0 pick) s'.uc s'.world.st uncoreCountBatch id data ∧
      s'.world.host = s.world.host := by
  rcases h.loaded with ⟨hinit, hempty⟩ | ⟨hinit, id, data, htable⟩
  · obtain ⟨r, hr, htable, -⟩ := initUnc_spec hfound h.sized hempty s.uc
    refine ⟨{ s with world := { s.world with st := r.2 }, uc := r.1, ucInit := true }, _, _,
      ?_, rfl, htable, rfl⟩
    rw [uncCountersStorage, hinit]
    simp only [Bool.false_eq_true, if_false, initUncCounters, hr, Option.bind_eq_bind,
      Option.bind_some]
  · refine ⟨s, id, data, ?_, hinit, htable, rfl⟩
    rw [uncCountersStorage, if_pos hinit]

theorem pcuStart_uevt (P : Platform) (msr0 : Nat) (pick : Nat → Nat) (host : Host) :
    UncReady P msr0 uncoreEvtselBatch pick (pcuStart host).uevtInit (pcuStart host).uevt
      (pcuStart host).world.st :=
  ⟨BatchStorage.init_sized, Or.inl ⟨rfl, rfl⟩⟩

theorem pcuStart_uc (P : Platform) (msr0 : Nat) (pick : Nat → Nat) (host : Host) :
    UncReady P msr0 uncoreCountBatch pick (pcuStart host).ucInit (pcuStart host).uc
      (pcuStart host).world.st :=
  ⟨BatchStorage.init_sized, Or.inl ⟨rfl, rfl⟩⟩

end Storage

end Libmsr
