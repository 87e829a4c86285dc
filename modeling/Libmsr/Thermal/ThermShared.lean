/-
  Libmsr.Thermal.ThermShared

  The thermal registers beside other modules: a caller stores a register's struct and
  then gets or sets it, and the batches of the other modules stay as they are.

  `ThermReady` is what such calls keep.  It also holds where the register cannot be
  written; `ThermReady.storeSet` asks for that on its own.
-/
import Libmsr.Core.TableStorage
import Libmsr.Thermal.Dump
import Libmsr.Thermal.ThermalRuns

namespace Libmsr

/-- The machine works, the register can be read, and its batch is as before the first
    call or loaded. -/
structure ThermReady (P : Platform) (r : ThermRegister) (pick : Nat → Nat) (s : ThermState) :
    Prop where
  works : P.drv.Works P.batchfd s.world.host P.cfg.numDevs
  reads : ∀ i, i < r.scope.count P.cfg → s.world.host.fails (pick i) r.msr = false
  loaded : ThermUnloaded r s ∨ ∃ id data, ThermLoaded P r pick s id data

section Calls

variable {P : Platform} {r : ThermRegister} {pick : Nat → Nat} {s s' : ThermState} {id : Nat}
  {data : Nat → Word}

/-- Calls on other batches leave it so. -/
theorem ThermReady.of_worksOn {w : BatchWorld} {b : Nat} (h : ThermReady P r pick s)
    (hne : r.batch ≠ b) (hcall : WorksOn b s.world w) :
    ThermReady P r pick { s with world := w } := by
  refine ⟨h.works.of_sameDevices hcall.same, ?_, ?_⟩
  · rw [hcall.same.fails]
    exact h.reads
  · rcases h.loaded with hun | ⟨id, data, hloaded⟩
    · exact Or.inl ⟨hun.init, hun.raw, hcall.sized, (hcall.keeps.entry_ne _ hne).trans hun.empty⟩
    · exact Or.inr ⟨id, data, hloaded.init, hloaded.raw,
        hloaded.cells.of_keepsOthers hne hcall.sized hcall.keeps⟩

/-- And so do changes of the registers. -/
theorem ThermReady.of_host {host : Host} (h : ThermReady P r pick s)
    (hsame : s.world.host.SameDevices host) :
    ThermReady P r pick { s with world := { s.world with host := host } } := by
  refine ⟨h.works.of_sameDevices hsame, ?_, ?_⟩
  · rw [hsame.fails]
    exact h.reads
  · rcases h.loaded with hun | ⟨id, data, hloaded⟩
    · exact Or.inl ⟨hun.init, hun.raw, hun.sized, hun.empty⟩
    · exact Or.inr ⟨id, data, hloaded.init, hloaded.raw, hloaded.cells⟩

/-- A loaded register whose machine works as before. -/
theorem ThermReady.of_loaded (h : ThermReady P r pick s)
    (hsame : s.world.host.SameDevices s'.world.host) (hloaded : ThermLoaded P r pick s' id data) :
    ThermReady P r pick s' := by
  refine ⟨h.works.of_sameDevices hsame, ?_, Or.inr ⟨id, data, hloaded⟩⟩
  rw [hsame.fails]
  exact h.reads

/-- `store_*` loads the register. -/
theorem ThermReady.store (h : ThermReady P r pick s)
    (hpick : PicksFit P.cfg P.topo r.scope.key (r.scope.count P.cfg) pick)
    (hmsr : r.msr < 2 ^ 32) :
    ∃ s' id data, storeTherm P r s = some s' ∧ ThermLoaded P r pick s' id data ∧
      s'.world.host = s.world.host ∧ WorksOn r.batch s.world s'.world := by
  rcases h.loaded with hun | ⟨id, data, hloaded⟩
  · obtain ⟨s', id, hs', hloaded, hhost, hkeep⟩ := hun.load hpick hmsr
    refine ⟨s', id, _, hs', hloaded, hhost, hloaded.cells.sized, ?_, hkeep⟩
    rw [hhost]
    exact .refl _
  · refine ⟨s, id, data, ?_, hloaded, rfl, hloaded.cells.sized, .refl _, .refl _ _⟩
    rw [storeTherm, if_pos hloaded.init]

/-- `store_*` and `get_*`: every element is decoded from its register. -/
theorem ThermReady.storeGet {α : Type} (h : ThermReady P r pick s)
    (hpick : PicksFit P.cfg P.topo r.scope.key (r.scope.count P.cfg) pick)
    (hmsr : r.msr < 2 ^ 32) (decode : Word → α) (fields : Nat → α) :
    ∃ s₁ s' got, storeTherm P r s = some s₁ ∧ getTherm P r s₁ decode fields = some (s', got) ∧
      ThermReady P r pick s' ∧ s'.world.host.regs = s.world.host.regs ∧
      WorksOn r.batch s.world s'.world ∧
      ∀ i, i < r.scope.count P.cfg → got i = decode (s.world.host.regs (pick i) r.msr) := by
  obtain ⟨s₁, id, data, hs₁, hloaded₁, hhost₁, hworks₁⟩ := h.store hpick hmsr
  have h₁ := h.of_loaded hworks₁.same hloaded₁
  obtain ⟨s', got, data', hs', hloaded', hregs, hsame, hkeep, hgot⟩ :=
    hloaded₁.read h₁.works h₁.reads decode fields
  rw [hhost₁] at hregs hgot
  exact ⟨s₁, s', got, hs₁, hs', h₁.of_loaded hsame hloaded', hregs,
    hworks₁.trans ⟨hloaded'.cells.sized, hsame, hkeep⟩, hgot⟩

/-- `set_*` works on the register's batch alone. -/
theorem ThermLoaded.set_worksOn (hloaded : ThermLoaded P r pick s id data)
    (hw : ThermWorks P r pick s.world.host) {f : Nat → Word → Word}
    (hset : setTherm P r s f = some s') : WorksOn r.batch s.world s'.world := by
  -- a read, a loop and a write
  obtain ⟨w₁, hw₁, hcells₁, -, hsame₁, hkeep₁⟩ := hloaded.cells.readBatch hw.works hw.reads
  obtain ⟨w₂, hw₂, hcells₂, hhost₂, hkeep₂⟩ := hcells₁.modifyEach (Nat.zero_add _).le f
  have hworks₂ : ThermWorks P r pick w₂.host := by
    rw [hhost₂]
    exact hw.of_sameDevices hsame₁
  obtain ⟨w₃, hw₃, hcells₃, -, hsame₃, hkeep₃⟩ := hcells₂.writeBatch hworks₂.works hworks₂.writes
  simp only [setTherm, hw₁, hloaded.raw, hw₂, hw₃, Option.bind_eq_bind, Option.bind_some,
    Option.some_inj] at hset
  subst hset
  refine ⟨hcells₃.sized, hsame₁.trans ?_, (hkeep₁.trans hkeep₂).trans hkeep₃⟩
  rw [← hhost₂]
  exact hsame₃

/-- `store_*` and `set_*`: every element changes its register, and no other register
    changes. -/
theorem ThermReady.storeSet (h : ThermReady P r pick s)
    (hpick : PicksFit P.cfg P.topo r.scope.key (r.scope.count P.cfg) pick)
    (hmsr : r.msr < 2 ^ 32)
    (hwrites : ∀ i, i < r.scope.count P.cfg → s.world.host.failsWrite (pick i) r.msr = false)
    (f : Nat → Word → Word) :
    ∃ s₁ s', storeTherm P r s = some s₁ ∧ setTherm P r s₁ f = some s' ∧
      ThermReady P r pick s' ∧ WorksOn r.batch s.world s'.world ∧
      (∀ i, i < r.scope.count P.cfg →
        s'.world.host.regs (pick i) r.msr = f i (s.world.host.regs (pick i) r.msr)) ∧
      ∀ p, (∀ i, i < r.scope.count P.cfg → r.place pick i ≠ p) →
        RegFile.at s'.world.host.regs p = RegFile.at s.world.host.regs p := by
  obtain ⟨s₁, id, data, hs₁, hloaded₁, hhost₁, hworks₁⟩ := h.store hpick hmsr
  have h₁ := h.of_loaded hworks₁.same hloaded₁
  have hw₁ : ThermWorks P r pick s₁.world.host := by
    refine ⟨h₁.works, h₁.reads, ?_⟩
    rw [hhost₁]
    exact hwrites
  obtain ⟨s', hs', hI', hinit', heach, hothers⟩ :=
    setTherm_spec hpick ⟨hw₁, Or.inr ⟨id, data, hloaded₁⟩⟩ hloaded₁.init f
  rw [hhost₁] at heach hothers
  exact ⟨s₁, s', hs₁, hs', ⟨hI'.works.works, hI'.works.reads, hI'.loaded⟩,
    hworks₁.trans (hloaded₁.set_worksOn hw₁ hs'), heach, hothers⟩

end Calls

end Libmsr
