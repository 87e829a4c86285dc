/-
  Libmsr.Thermal.ThermalRuns

  What `store_*`, `get_*` and `set_*` do with a thermal register, in every state
  that a sequence of calls can reach: `get_*` decodes the registers, and `set_*`
  changes each of them by its own update and nothing else.
-/
import Libmsr.Core.BatchCells
import Libmsr.Lib.Runs
import Libmsr.Thermal.Thermal

namespace Libmsr

/-- The field of a map entry that the register's load function compares. -/
def ThermScope.key : ThermScope → HwThread → Nat
  | .core => HwThread.coreId
  | .package => HwThread.socketId

/-- Where the `i`-th op of the register's batch goes. -/
def ThermRegister.place (r : ThermRegister) (pick : Nat → Nat) (i : Nat) : Nat × Nat :=
  (pick i, r.msr)

/-- The machine works, and the register can be read and written everywhere. -/
structure ThermWorks (P : Platform) (r : ThermRegister) (pick : Nat → Nat) (h : Host) : Prop where
  works : P.drv.Works P.batchfd h P.cfg.numDevs
  reads : ∀ i, i < r.scope.count P.cfg → h.fails (pick i) r.msr = false
  writes : ∀ i, i < r.scope.count P.cfg → h.failsWrite (pick i) r.msr = false

theorem ThermWorks.of_sameDevices {P : Platform} {r : ThermRegister} {pick : Nat → Nat}
    {h h' : Host} (hw : ThermWorks P r pick h) (hsame : h.SameDevices h') :
    ThermWorks P r pick h' := by
  refine ⟨hw.works.of_sameDevices hsame, ?_, ?_⟩
  · rw [hsame.fails]
    exact hw.reads
  · rw [hsame.failsWrite]
    exact hw.writes

/-- Before the first `store_*`. -/
structure ThermUnloaded (r : ThermRegister) (s : ThermState) : Prop where
  init : s.init = false
  raw : s.raw = []
  sized : s.world.st.Sized
  empty : s.world.st.entry r.batch = .empty

/-- The batch is loaded, and element `i` of `raw` points to its cell `i`. -/
structure ThermLoaded (P : Platform) (r : ThermRegister) (pick : Nat → Nat) (s : ThermState)
    (id : Nat) (data : Nat → Word) : Prop where
  init : s.init = true
  raw : s.raw = rowPtrs id 0 (r.scope.count P.cfg)
  cells : Cells s.world.st r.batch id (r.scope.count P.cfg) (r.place pick) data

/-- What every call keeps. -/
structure ThermInv (P : Platform) (r : ThermRegister) (pick : Nat → Nat) (s : ThermState) :
    Prop where
  works : ThermWorks P r pick s.world.host
  loaded : ThermUnloaded r s ∨ ∃ id data, ThermLoaded P r pick s id data

/-! ## One call -/

section Calls

variable {P : Platform} {r : ThermRegister} {pick : Nat → Nat} {s : ThermState}

/-- Once `store_*` was called, the batch is loaded. -/
theorem ThermInv.of_init (hI : ThermInv P r pick s) (hinit : s.init = true) :
    ∃ id data, ThermLoaded P r pick s id data := by
  rcases hI.loaded with hun | hloaded
  · rw [hun.init] at hinit
    contradiction
  · exact hloaded

/-- The search that the register's load function makes. -/
theorem Fresh.loadTherm {st : BatchStorage} {id : Nat}
    (hfirst : ∀ v, v < r.scope.count P.cfg →
      firstDev P.topo (fun entry => r.scope.key entry = v) 0 P.cfg.numDevs = some (some (pick v)))
    (h : Fresh st r.batch id (r.scope.count P.cfg) []) :
    ∃ st', r.scope.load P.cfg P.topo st r.msr
        (some (List.replicate (r.scope.count P.cfg) none)) r.batch =
          some (0, some (rowPtrs id 0 (r.scope.count P.cfg)), st') ∧
      Fresh st' r.batch id (r.scope.count P.cfg)
        ((List.range (r.scope.count P.cfg)).map fun v => opPlace r.msr (pick v)) ∧
      KeepsOthers st r.batch st' := by
  -- one load function for each scope
  obtain ⟨scope, msr, batch⟩ := r
  cases scope with
  | core =>
    exact h.loadCoreBatch msr hfirst
      (by simp only [List.length_nil, Nat.zero_add, ThermScope.count, le_refl])
  | package =>
    exact h.loadSocketBatch msr hfirst
      (by simp only [List.length_nil, Nat.zero_add, ThermScope.count, le_refl])

theorem ThermLoaded.congr {pick' : Nat → Nat} {id : Nat} {data : Nat → Word}
    (h : ThermLoaded P r pick s id data) (heq : ∀ v, v < r.scope.count P.cfg → pick v = pick' v) :
    ThermLoaded P r pick' s id data := by
  have hplaces : (List.range (r.scope.count P.cfg)).map (r.place pick) =
      (List.range (r.scope.count P.cfg)).map (r.place pick') :=
    List.map_congr_left fun v hv => by
      rw [ThermRegister.place, ThermRegister.place, heq v (List.mem_range.mp hv)]
  refine ⟨h.init, h.raw, ?_⟩
  rw [Cells, ← hplaces]
  exact h.cells

/-- The first `store_*` loads the batch for what is left of the CPU numbers in 16 bits,
    and leaves the other batches alone. -/
theorem ThermUnloaded.loadCut (hfirst : ∀ v, v < r.scope.count P.cfg →
      firstDev P.topo (fun entry => r.scope.key entry = v) 0 P.cfg.numDevs = some (some (pick v)))
    (hmsr : r.msr < 2 ^ 32) (hcount : r.scope.count P.cfg < 2 ^ 31) (hun : ThermUnloaded r s) :
    ∃ s' id, storeTherm P r s = some s' ∧
      ThermLoaded P r (fun v => pick v % 2 ^ 16) s' id (fun _ => 0) ∧
      s'.world.host = s.world.host ∧ KeepsOthers s.world.st r.batch s'.world.st := by
  obtain ⟨st₁, hst₁, hfresh₁, hkeep₁⟩ := allocateBatch_fresh hun.sized hun.empty hcount
  obtain ⟨st₂, hst₂, hfresh₂, hkeep₂⟩ := hfresh₁.loadTherm hfirst
  have hplace : (fun v => opPlace r.msr (pick v)) = r.place fun v => pick v % 2 ^ 16 := by
    funext v
    rw [opPlace, Nat.mod_eq_of_lt hmsr, ThermRegister.place]
  refine ⟨⟨{ s.world with st := st₂ }, rowPtrs s.world.st.nextId 0 (r.scope.count P.cfg), true⟩,
    s.world.st.nextId, ?_, ⟨rfl, rfl, hplace ▸ hfresh₂.cells⟩, rfl, hkeep₁.trans hkeep₂⟩
  simp only [storeTherm, hun.init, Bool.false_eq_true, if_false, hst₁, hst₂,
    Option.bind_eq_bind, Option.bind_some, Option.getD_some]

variable (hpick : PicksFit P.cfg P.topo r.scope.key (r.scope.count P.cfg) pick)
include hpick

/-- Different elements are different registers. -/
theorem PicksFit.place_injective {i j : Nat} (hi : i < r.scope.count P.cfg)
    (hj : j < r.scope.count P.cfg) (heq : r.place pick i = r.place pick j) : i = j :=
  hpick.injective hi hj (Prod.mk.inj heq).1

/-- The first `store_*` loads the batch and leaves the others alone. -/
theorem ThermUnloaded.load (hmsr : r.msr < 2 ^ 32) (hun : ThermUnloaded r s) :
    ∃ s' id, storeTherm P r s = some s' ∧ ThermLoaded P r pick s' id (fun _ => 0) ∧
      s'.world.host = s.world.host ∧ KeepsOthers s.world.st r.batch s'.world.st := by
  have hcount := hpick.count_le
  obtain ⟨s', id, hs', hloaded, hhost, hkeep⟩ := hun.loadCut hpick.first hmsr (by omega)
  refine ⟨s', id, hs', hloaded.congr fun v hv => ?_, hhost, hkeep⟩
  exact Nat.mod_eq_of_lt (hpick.fits v hv)

/-- `store_*`: the first call loads the batch, the others do nothing. -/
theorem storeTherm_spec (hmsr : r.msr < 2 ^ 32) (hI : ThermInv P r pick s) :
    ∃ s', storeTherm P r s = some s' ∧ ThermInv P r pick s' ∧ s'.init = true ∧
      s'.world.host = s.world.host := by
  rcases hI.loaded with hun | ⟨id, data, hloaded⟩
  · obtain ⟨s', id, hs', hloaded, hhost, -⟩ := hun.load hpick hmsr
    refine ⟨s', hs', ⟨?_, Or.inr ⟨id, _, hloaded⟩⟩, hloaded.init, hhost⟩
    rw [hhost]
    exact hI.works
  · refine ⟨s, ?_, hI, hloaded.init, rfl⟩
    rw [storeTherm, if_pos hloaded.init]

omit hpick in
/-- `set_*` writes the changed words to the places of its ops. -/
theorem ThermLoaded.write {id : Nat} {data : Nat → Word} (hloaded : ThermLoaded P r pick s id data)
    (hw : ThermWorks P r pick s.world.host) (f : Nat → Word → Word) :
    ∃ s', setTherm P r s f = some s' ∧ ThermWorks P r pick s'.world.host ∧
      ThermLoaded P r pick s' id (modifiedCells 0 (r.scope.count P.cfg) f fun i =>
        RegFile.at s.world.host.regs (r.place pick i)) ∧
      CellsWritten (r.scope.count P.cfg) (r.place pick) (modifiedCells 0 (r.scope.count P.cfg) f
        fun i => RegFile.at s.world.host.regs (r.place pick i))
        s.world.host.regs s'.world.host.regs := by
  obtain ⟨w₁, hw₁, hcells₁, hregs₁, hsame₁, -⟩ := hloaded.cells.readBatch hw.works hw.reads
  obtain ⟨w₂, hw₂, hcells₂, hhost₂, -⟩ := hcells₁.modifyEach (Nat.zero_add _).le f
  have hworks₂ : ThermWorks P r pick w₂.host := by
    rw [hhost₂]
    exact hw.of_sameDevices hsame₁
  obtain ⟨w₃, hw₃, hcells₃, hwritten, hsame₃, -⟩ :=
    hcells₂.writeBatch hworks₂.works hworks₂.writes
  rw [hhost₂, hregs₁] at hwritten
  refine ⟨{ s with world := w₃ }, ?_, hworks₂.of_sameDevices hsame₃,
    ⟨hloaded.init, hloaded.raw, hcells₃⟩, hwritten⟩
  simp only [setTherm, hw₁, hloaded.raw, hw₂, hw₃, Option.bind_eq_bind, Option.bind_some]

/-- `set_*` applies its updates, element by element, and changes no other
    register. -/
theorem setTherm_spec (hI : ThermInv P r pick s) (hinit : s.init = true) (f : Nat → Word → Word) :
    ∃ s', setTherm P r s f = some s' ∧ ThermInv P r pick s' ∧ s'.init = true ∧
      (∀ i, i < r.scope.count P.cfg →
        s'.world.host.regs (pick i) r.msr = f i (s.world.host.regs (pick i) r.msr)) ∧
      ∀ p, (∀ i, i < r.scope.count P.cfg → r.place pick i ≠ p) →
        RegFile.at s'.world.host.regs p = RegFile.at s.world.host.regs p := by
  obtain ⟨id, data, hloaded⟩ := hI.of_init hinit
  obtain ⟨s', hs', hworks, hloaded', hwritten⟩ := hloaded.write hI.works f
  refine ⟨s', hs', ⟨hworks, Or.inr ⟨id, _, hloaded'⟩⟩, hloaded'.init, fun i hi => ?_,
    hwritten.others⟩
  -- different elements have different places, so the write of each arrives
  have hcell := hwritten.each (fun i j hi hj heq => hpick.place_injective hi hj heq) i hi
  rw [modifiedCells, if_pos ⟨Nat.zero_le i, by omega⟩, Nat.sub_zero] at hcell
  exact hcell

omit hpick in
/-- `get_*` decodes every element, and changes no register and no other batch. -/
theorem ThermLoaded.read {α : Type} {id m : Nat} {data : Nat → Word}
    (hloaded : ThermLoaded P r pick s id data) (hw : P.drv.Works P.batchfd s.world.host m)
    (hreads : ∀ i, i < r.scope.count P.cfg → s.world.host.fails (pick i) r.msr = false)
    (decode : Word → α) (fields : Nat → α) :
    ∃ s' got data', getTherm P r s decode fields = some (s', got) ∧
      ThermLoaded P r pick s' id data' ∧ s'.world.host.regs = s.world.host.regs ∧
      s.world.host.SameDevices s'.world.host ∧ KeepsOthers s.world.st r.batch s'.world.st ∧
      ∀ i, i < r.scope.count P.cfg → got i = decode (s.world.host.regs (pick i) r.msr) := by
  obtain ⟨w₁, hw₁, hcells₁, hregs₁, hsame₁, hkeep₁⟩ := hloaded.cells.readBatch hw hreads
  have hbody : ∀ k, k < r.scope.count P.cfg → ∀ fields : Nat → α,
      getThermBody w₁ r.batch s.raw decode fields k =
        some (Function.update fields k (decode (s.world.host.regs (pick k) r.msr))) := by
    intro k hk fields
    have hptr : ptrAt s.raw k = some ⟨id, k⟩ := by
      rw [hloaded.raw, ptrAt_rowPtrs hk, Nat.zero_add]
    simp only [getThermBody, hptr, hcells₁.load hk, Option.bind_eq_bind, Option.bind_some]
    rfl
  obtain ⟨got, hgot, hdecoded⟩ := Loops.foldlM_range_inv
    (getThermBody w₁ r.batch s.raw decode)
    (fun k fields => ∀ i, i < k → fields i = decode (s.world.host.regs (pick i) r.msr))
    (r.scope.count P.cfg) fields (fun i hi => absurd hi (Nat.not_lt_zero i))
    fun k hk fields hbelow => by
      refine ⟨_, hbody k hk fields, fun i hi => ?_⟩
      rcases Nat.lt_succ_iff_lt_or_eq.mp hi with hlt | rfl
      · rw [Function.update_of_ne (Nat.ne_of_lt hlt), hbelow i hlt]
      · rw [Function.update_self]
  refine ⟨{ s with world := w₁ }, got, _, ?_, ⟨hloaded.init, hloaded.raw, hcells₁⟩, hregs₁, hsame₁,
    hkeep₁, hdecoded⟩
  simp only [getTherm, hw₁, hgot, Option.bind_eq_bind, Option.bind_some]

omit hpick in
/-- `get_*` decodes every element and changes no register. -/
theorem getTherm_spec {α : Type} (hI : ThermInv P r pick s) (hinit : s.init = true)
    (decode : Word → α) (fields : Nat → α) :
    ∃ s' got, getTherm P r s decode fields = some (s', got) ∧ ThermInv P r pick s' ∧
      s'.init = true ∧ s'.world.host.regs = s.world.host.regs ∧
      ∀ i, i < r.scope.count P.cfg → got i = decode (s.world.host.regs (pick i) r.msr) := by
  obtain ⟨id, data, hloaded⟩ := hI.of_init hinit
  obtain ⟨s', got, data', hs', hloaded', hregs, hsame, -, hdecoded⟩ :=
    hloaded.read hI.works.works hI.works.reads decode fields
  exact ⟨s', got, hs', ⟨hI.works.of_sameDevices hsame, Or.inr ⟨id, data', hloaded'⟩⟩,
    hloaded'.init, hregs, hdecoded⟩

/-- What every call of a run keeps. -/
theorem thermInv_step {α : Type} (hmsr : r.msr < 2 ^ 32) {decode : Word → α}
    {encode : α → Word → Word} (s : ThermState) (c : ThermCall α) (s' : ThermState)
    (hI : ThermInv P r pick s) (hstep : thermStep P r decode encode s c = some s') :
    ThermInv P r pick s' := by
  cases c with
  | store =>
    obtain ⟨s₁, hs₁, hI₁, -⟩ := storeTherm_spec hpick hmsr hI
    obtain rfl := Option.some.inj (hs₁.symm.trans hstep)
    exact hI₁
  | get fields =>
    by_cases hinit : s.init = true
    · obtain ⟨s₁, got, hs₁, hI₁, -⟩ := getTherm_spec hI hinit decode fields
      rw [thermStep, if_pos hinit, hs₁] at hstep
      obtain rfl := Option.some.inj hstep
      exact hI₁
    · rw [thermStep, if_neg hinit] at hstep
      contradiction
  | set fields =>
    by_cases hinit : s.init = true
    · obtain ⟨s₁, hs₁, hI₁, -⟩ := setTherm_spec hpick hI hinit fun i => encode (fields i)
      rw [thermStep, if_pos hinit, hs₁] at hstep
      obtain rfl := Option.some.inj hstep
      exact hI₁
    · rw [thermStep, if_neg hinit] at hstep
      contradiction
  | hardware regs =>
    -- the hardware changes registers, not batches
    obtain rfl := Option.some.inj hstep
    refine ⟨hI.works.of_sameDevices ⟨rfl, rfl, rfl, rfl⟩, ?_⟩
    rcases hI.loaded with hun | ⟨id, data, hloaded⟩
    · exact Or.inl ⟨hun.init, hun.raw, hun.sized, hun.empty⟩
    · exact Or.inr ⟨id, data, hloaded.init, hloaded.raw, hloaded.cells⟩

/-- What every run keeps. -/
theorem thermInv_run {α : Type} (hmsr : r.msr < 2 ^ 32) {decode : Word → α}
    {encode : α → Word → Word} {s₀ : ThermState} (hw : ThermWorks P r pick s₀.world.host)
    (hun : ThermUnloaded r s₀) {calls : List (ThermCall α)}
    (hrun : Runs.run (thermStep P r decode encode) s₀ calls = some s) : ThermInv P r pick s :=
  Runs.run_inv (thermInv_step hpick hmsr) ⟨hw, Or.inl hun⟩ hrun

end Calls

/-- A state in which the register's batch is loaded, after any calls and any
    changes the hardware made in between. -/
structure ThermReached {α : Type} (P : Platform) (r : ThermRegister) (decode : Word → α)
    (encode : α → Word → Word) (pick : Nat → Nat) (s : ThermState) : Prop where
  picks : Picks P.cfg P.topo r.scope.key (r.scope.count P.cfg) pick
  run : ∃ s₀ calls, ThermWorks P r pick s₀.world.host ∧ ThermUnloaded r s₀ ∧
    Runs.run (thermStep P r decode encode) s₀ calls = some s
  init : s.init = true

theorem ThermReached.inv {α : Type} {P : Platform} {r : ThermRegister} {decode : Word → α}
    {encode : α → Word → Word} {pick : Nat → Nat} {s : ThermState} (hmsr : r.msr < 2 ^ 32)
    (h : ThermReached P r decode encode pick s) : ThermInv P r pick s := by
  obtain ⟨s₀, calls, hw, hun, hrun⟩ := h.run
  exact thermInv_run h.picks.fit hmsr hw hun hrun

/-! ## Writing and reading back -/

/-- `set_*` changes every element's register as `Wrote` says, and what `get_*`
    returns after it, whatever the struct held, is to the fields given as `Reads`
    says. -/
def SetsAndGets {α : Type} (P : Platform) (r : ThermRegister) (pick : Nat → Nat)
    (set : ThermState → (Nat → α) → Option ThermState)
    (get : ThermState → (Nat → α) → Option (ThermState × (Nat → α)))
    (Wrote : α → Word → Word → Prop) (Reads : α → α → Prop) (s : ThermState)
    (fields : Nat → α) : Prop :=
  ∃ s', set s fields = some s' ∧
    (∀ i, i < r.scope.count P.cfg → Wrote (fields i) (s.world.host.regs (pick i) r.msr)
      (s'.world.host.regs (pick i) r.msr)) ∧
    ∀ into, ∃ s'' got, get s' into = some (s'', got) ∧
      ∀ i, i < r.scope.count P.cfg → Reads (fields i) (got i)

/-- It is enough to look at one word. -/
theorem setsAndGets_iff {α : Type} {P : Platform} {r : ThermRegister} {pick : Nat → Nat}
    {s : ThermState} (hpick : PicksFit P.cfg P.topo r.scope.key (r.scope.count P.cfg) pick)
    (hI : ThermInv P r pick s) (hinit : s.init = true) {decode : Word → α}
    {encode : α → Word → Word} {Wrote : α → Word → Word → Prop} {Reads : α → α → Prop}
    (fields : Nat → α) :
    SetsAndGets P r pick (fun s fields => setTherm P r s fun i => encode (fields i))
        (fun s into => getTherm P r s decode into) Wrote Reads s fields ↔
      ∀ i, i < r.scope.count P.cfg →
        Wrote (fields i) (s.world.host.regs (pick i) r.msr)
            (encode (fields i) (s.world.host.regs (pick i) r.msr)) ∧
          Reads (fields i) (decode (encode (fields i) (s.world.host.regs (pick i) r.msr))) := by
  obtain ⟨s', hs', hI', hinit', hregs, -⟩ := setTherm_spec hpick hI hinit fun i => encode (fields i)
  constructor
  · rintro ⟨s₁, hs₁, hwrote, hgets⟩ i hi
    obtain rfl := Option.some.inj (hs'.symm.trans hs₁)
    obtain ⟨s'', got, hgot, hreads⟩ := hgets fields
    -- the getter is a function: what it returns is the decoded word
    obtain ⟨s₂, got₂, hgot₂, -, -, -, hdecoded⟩ := getTherm_spec hI' hinit' decode fields
    obtain ⟨-, rfl⟩ := Prod.mk.inj (Option.some.inj (hgot₂.symm.trans hgot))
    rw [← hregs i hi, ← hdecoded i hi]
    exact ⟨hwrote i hi, hreads i hi⟩
  · intro h
    refine ⟨s', hs', fun i hi => ?_, fun into => ?_⟩
    · rw [hregs i hi]
      exact (h i hi).1
    · obtain ⟨s'', got, hgot, -, -, -, hdecoded⟩ := getTherm_spec hI' hinit' decode into
      refine ⟨s'', got, hgot, fun i hi => ?_⟩
      rw [hdecoded i hi, hregs i hi]
      exact (h i hi).2

/-! ## Two sockets -/

/-- Two sockets before any call, with the same value in all registers. -/
def twoSocketsTherm (val : Word) : ThermState :=
  ⟨⟨.init, { Host.opened 2 with regs := fun _ _ => val }⟩, [], false⟩

/-- The first `store_*` leads to a state with the batch loaded. -/
theorem twoSocketsTherm_reached {α : Type} {r : ThermRegister} (decode : Word → α)
    (encode : α → Word → Word) (val : Word)
    (hpick : Picks twoSockets.cfg twoSockets.topo r.scope.key (r.scope.count twoSockets.cfg) id)
    (hcount : r.scope.count twoSockets.cfg = 2) (hmsr : r.msr < 2 ^ 32)
    (hempty : BatchStorage.init.entry r.batch = .empty) :
    ∃ s, Runs.run (thermStep twoSockets r decode encode) (twoSocketsTherm val) [.store] = some s ∧
      ThermReached twoSockets r decode encode id s ∧
      s.world.host = (twoSocketsTherm val).world.host := by
  have hopen : ∀ i, i < r.scope.count twoSockets.cfg → decide (2 ≤ i) = false := fun i hi =>
    decide_eq_false (by omega)
  have hw : ThermWorks twoSockets r id (twoSocketsTherm val).world.host :=
    ⟨inOrder_works (by omega) 3 _, hopen, hopen⟩
  have hun : ThermUnloaded r (twoSocketsTherm val) :=
    ⟨rfl, rfl, BatchStorage.init_sized, hempty⟩
  obtain ⟨s, hs, -, hinit, hhost⟩ := storeTherm_spec hpick.fit hmsr ⟨hw, Or.inl hun⟩
  have hrun : Runs.run (thermStep twoSockets r decode encode) (twoSocketsTherm val) [.store] =
      some s := by
    rw [Runs.run_cons, thermStep, hs]
    rfl
  exact ⟨s, hrun, ⟨hpick, ⟨_, _, hw, hun, hrun⟩, hinit⟩, hhost⟩

end Libmsr
