/-
  Libmsr.Thermal.DumpRuns

  What the dumps print, in every state that calls and the hardware can lead to: the
  values of the registers as they are, element by element.

  The terse dump reads the temperature target only once, so the target is assumed to
  stay as it is: the field is read-only.
-/
import Libmsr.Thermal.Dump
import Libmsr.Thermal.ThermalRuns

namespace Libmsr

/-- The registers of the dumps. -/
def thermRegisters : List ThermRegister :=
  [thermStatus, thermInterrupt, packageThermStatus, packageThermInterrupt, temperatureTarget]

theorem thermRegisters_msr : ∀ r ∈ thermRegisters, r.msr < 2 ^ 32 := by decide

/-- Each register has a batch of its own. -/
theorem thermRegisters_batch :
    ∀ r ∈ thermRegisters, ∀ r' ∈ thermRegisters, r' ≠ r → r'.batch ≠ r.batch := by decide

/-- Element `i` of a register, decoded. -/
def ThermRegister.read {α : Type} (r : ThermRegister) (pick : ThermScope → Nat → Nat)
    (regs : RegFile) (decode : Word → α) (i : Nat) : α :=
  decode (regs (pick r.scope i) r.msr)

/-- The machine works, and the registers can be read everywhere. -/
structure DumpsWork (P : Platform) (pick : ThermScope → Nat → Nat) (h : Host) : Prop where
  works : P.drv.Works P.batchfd h P.cfg.numDevs
  reads : ∀ r ∈ thermRegisters, ∀ i, i < r.scope.count P.cfg →
    h.fails (pick r.scope i) r.msr = false

theorem DumpsWork.of_sameDevices {P : Platform} {pick : ThermScope → Nat → Nat} {h h' : Host}
    (hw : DumpsWork P pick h) (hsame : h.SameDevices h') : DumpsWork P pick h' := by
  refine ⟨hw.works.of_sameDevices hsame, ?_⟩
  rw [hsame.fails]
  exact hw.reads

/-! ## The batches of the five registers -/

/-- What every call keeps of the batches. -/
structure ThermBatches.Inv (P : Platform) (pick : ThermScope → Nat → Nat) (b : ThermBatches) :
    Prop where
  works : DumpsWork P pick b.world.host
  loaded : ∀ r ∈ thermRegisters, ThermUnloaded r (b.view r) ∨
    ∃ id data, ThermLoaded P r (pick r.scope) (b.view r) id data

/-- No call of a dump changes a register or forgets a batch. -/
structure ThermBatches.Follows (b b' : ThermBatches) : Prop where
  regs : b'.world.host.regs = b.world.host.regs
  init : ∀ r, b.init r = true → b'.init r = true

theorem ThermBatches.Follows.refl (b : ThermBatches) : b.Follows b :=
  ⟨rfl, fun _ hinit => hinit⟩

theorem ThermBatches.Follows.trans {b b' b'' : ThermBatches} (h : b.Follows b')
    (h' : b'.Follows b'') : b.Follows b'' :=
  ⟨h'.regs.trans h.regs, fun r hinit => h'.init r (h.init r hinit)⟩

section Batches

variable {P : Platform} {pick : ThermScope → Nat → Nat} {b : ThermBatches} {r : ThermRegister}
  {t : ThermState}

@[simp] theorem ThermBatches.put_init_self : (b.put r t).init r = t.init :=
  Function.update_self ..

theorem ThermBatches.put_init_of_ne {r' : ThermRegister} (hne : r' ≠ r) :
    (b.put r t).init r' = b.init r' :=
  Function.update_of_ne hne ..

theorem ThermBatches.view_put_self : (b.put r t).view r = t := by
  simp only [view, put, Function.update_self]

theorem ThermBatches.view_put_of_ne {r' : ThermRegister} (hne : r' ≠ r) :
    (b.put r t).view r' = { b.view r' with world := t.world } := by
  simp only [view, put, Function.update_of_ne hne]

theorem ThermBatches.put_view : b.put r (b.view r) = b := by
  simp only [view, put, Function.update_eq_self]

theorem ThermBatches.follows_put (hregs : t.world.host.regs = b.world.host.regs)
    (hinit : t.init = true) : b.Follows (b.put r t) := by
  refine ⟨hregs, fun r' hinit' => ?_⟩
  rcases eq_or_ne r' r with rfl | hne
  · rw [put_init_self, hinit]
  · rw [put_init_of_ne hne, hinit']

/-- A loaded register, and the others as they were. -/
theorem ThermBatches.Inv.put (hI : b.Inv P pick) (hr : r ∈ thermRegisters) {id : Nat}
    {data : Nat → Word} (hloaded : ThermLoaded P r (pick r.scope) t id data)
    (hsame : b.world.host.SameDevices t.world.host)
    (hkeep : KeepsOthers b.world.st r.batch t.world.st) : (b.put r t).Inv P pick := by
  refine ⟨hI.works.of_sameDevices hsame, fun r' hr' => ?_⟩
  rcases eq_or_ne r' r with rfl | hne
  · rw [view_put_self]
    exact Or.inr ⟨id, data, hloaded⟩
  · have hbatch := thermRegisters_batch r hr r' hr' hne
    have hsized := hloaded.cells.sized
    rw [view_put_of_ne hne]
    rcases hI.loaded r' hr' with hun | ⟨id', data', hother⟩
    · exact Or.inl ⟨hun.init, hun.raw, hsized, (hkeep.entry_ne _ hbatch).trans hun.empty⟩
    · exact Or.inr ⟨id', data', hother.init, hother.raw,
        hother.cells.of_keepsOthers hbatch hsized hkeep⟩

/-- `store_*`: from then on the register is loaded. -/
theorem ThermBatches.Inv.store
    (hpick : ∀ scope : ThermScope, Picks P.cfg P.topo scope.key (scope.count P.cfg) (pick scope))
    (hI : b.Inv P pick) (hr : r ∈ thermRegisters) :
    ∃ t, storeTherm P r (b.view r) = some t ∧ (b.put r t).Inv P pick ∧ b.Follows (b.put r t) ∧
      (b.put r t).init r = true := by
  rcases hI.loaded r hr with hun | ⟨id, data, hloaded⟩
  · obtain ⟨t, id, ht, hloaded, hhost, hkeep⟩ :=
      hun.load (hpick r.scope).fit (thermRegisters_msr r hr)
    refine ⟨t, ht, hI.put hr hloaded ?_ hkeep, follows_put ?_ hloaded.init, ?_⟩
    · rw [hhost]
      exact .refl _
    · rw [hhost]
      rfl
    · rw [put_init_self, hloaded.init]
  · -- loaded before: nothing changes
    refine ⟨b.view r, ?_, ?_, ?_, ?_⟩
    · rw [storeTherm, if_pos hloaded.init]
    · rw [put_view]
      exact hI
    · rw [put_view]
      exact .refl b
    · rw [put_init_self, hloaded.init]

/-- `get_*` of a register that is loaded. -/
theorem ThermBatches.Inv.get {α : Type} (hI : b.Inv P pick) (hr : r ∈ thermRegisters)
    (hinit : b.init r = true) (decode : Word → α) (fields : Nat → α) :
    ∃ t got, getTherm P r (b.view r) decode fields = some (t, got) ∧ (b.put r t).Inv P pick ∧
      b.Follows (b.put r t) ∧
      ∀ i, i < r.scope.count P.cfg → got i = r.read pick b.world.host.regs decode i := by
  rcases hI.loaded r hr with hun | ⟨id, data, hloaded⟩
  · have hnot : b.init r = false := hun.init
    rw [hnot] at hinit
    contradiction
  · obtain ⟨t, got, data', ht, hloaded', hregs, hsame, hkeep, hgot⟩ :=
      hloaded.read hI.works.works (hI.works.reads r hr) decode fields
    exact ⟨t, got, ht, hI.put hr hloaded' hsame hkeep, follows_put hregs hloaded'.init, hgot⟩

end Batches

/-! ## The structs -/

/-- What every call keeps.  `target` is what the temperature targets are. -/
structure DumpInv (P : Platform) (pick : ThermScope → Nat → Nat) (target : Nat → Word)
    (s : ThermData) : Prop where
  batches : s.batches.Inv P pick
  registers : ∀ i, i < P.cfg.sockets →
    temperatureTarget.read pick s.batches.world.host.regs tempTargetOfMsr i = target i
  isInitTarget : s.isInitTarget = true → s.batches.init temperatureTarget = true
  isInit : s.isInit = true → ∀ i, i < P.cfg.sockets → s.tempTarget i = target i
  terse : s.terse = true → s.batches.init thermStatus = true
  verbose : s.verbose = true → ∀ r ∈ thermRegisters, s.batches.init r = true

section Calls

variable {P : Platform} {pick : ThermScope → Nat → Nat} {target : Nat → Word} {s : ThermData}

theorem DumpInv.of_follows (hI : DumpInv P pick target s) {b : ThermBatches} (hb : b.Inv P pick)
    (hfollow : s.batches.Follows b) : DumpInv P pick target { s with batches := b } := by
  refine ⟨hb, ?_, fun h => hfollow.init _ (hI.isInitTarget h), hI.isInit,
    fun h => hfollow.init _ (hI.terse h), fun h r hr => hfollow.init r (hI.verbose h r hr)⟩
  show ∀ i, i < P.cfg.sockets → temperatureTarget.read pick b.world.host.regs tempTargetOfMsr i = _
  rw [hfollow.regs]
  exact hI.registers

/-- A `get_*` function. -/
theorem ThermData.get_spec {α : Type} {r : ThermRegister} (hb : s.batches.Inv P pick)
    (hr : r ∈ thermRegisters) (hinit : s.batches.init r = true) (decode : Word → α)
    (fields : Nat → α) (set : ThermData → (Nat → α) → ThermData) :
    ∃ b got, s.get P r (fun P t fields => getTherm P r t decode fields) fields set =
        some (set { s with batches := b } got) ∧
      b.Inv P pick ∧ s.batches.Follows b ∧
      ∀ i, i < r.scope.count P.cfg → got i = r.read pick s.batches.world.host.regs decode i := by
  obtain ⟨t, got, ht, hb', hfollow, hgot⟩ := hb.get hr hinit decode fields
  refine ⟨s.batches.put r t, got, ?_, hb', hfollow, hgot⟩
  rw [ThermData.get, ht]
  rfl

variable
  (hpick : ∀ scope : ThermScope, Picks P.cfg P.topo scope.key (scope.count P.cfg) (pick scope))
include hpick

/-- A `store_*` function. -/
theorem DumpInv.store (hI : DumpInv P pick target s) {r : ThermRegister}
    (hr : r ∈ thermRegisters) :
    ∃ b, s.store P r (fun P t => storeTherm P r t) = some { s with batches := b } ∧
      DumpInv P pick target { s with batches := b } ∧ s.batches.Follows b ∧ b.init r = true := by
  obtain ⟨t, ht, hb, hfollow, hinit⟩ := hI.batches.store hpick hr
  refine ⟨s.batches.put r t, ?_, hI.of_follows hb hfollow, hfollow, hinit⟩
  rw [ThermData.store, ht]
  rfl

/-- The pointer of `is_init`. -/
theorem DumpInv.storeIsInit (hI : DumpInv P pick target s) :
    ∃ s', s.storeIsInit P = some s' ∧ DumpInv P pick target s' ∧ s.batches.Follows s'.batches ∧
      s'.batches.init temperatureTarget = true := by
  by_cases hset : s.isInitTarget = true
  · exact ⟨s, if_pos hset, hI, .refl _, hI.isInitTarget hset⟩
  · obtain ⟨b, hb, hI', hfollow, hinit⟩ := hI.store hpick (r := temperatureTarget) (by decide)
    refine ⟨{ s with batches := b, isInitTarget := true }, ?_, ?_, hfollow, hinit⟩
    · rw [ThermData.storeIsInit, if_neg hset]
      show (s.store P temperatureTarget fun P t => storeTherm P temperatureTarget t).bind _ = _
      rw [hb]
      rfl
    · exact ⟨hI'.batches, hI'.registers, fun _ => hinit, hI'.isInit, hI'.terse, hI'.verbose⟩

/-- `is_init`: from then on the temperature target is read. -/
theorem DumpInv.isInitCall (hI : DumpInv P pick target s) :
    ∃ s', s.isInitCall P = some s' ∧ DumpInv P pick target s' ∧ s.batches.Follows s'.batches ∧
      s'.isInit = true := by
  obtain ⟨s₁, hs₁, hI₁, hfollow₁, hinit₁⟩ := hI.storeIsInit hpick
  by_cases hread : s₁.isInit = true
  · refine ⟨s₁, ?_, hI₁, hfollow₁, hread⟩
    rw [ThermData.isInitCall, hs₁, Option.bind_eq_bind, Option.bind_some, if_pos hread]
  · obtain ⟨b, got, hgot, hb, hfollow, hdecoded⟩ := ThermData.get_spec hI₁.batches
      (r := temperatureTarget) (by decide) hinit₁ tempTargetOfMsr s₁.tempTarget
      fun s got => { s with tempTarget := got }
    have hI' := hI₁.of_follows hb hfollow
    refine ⟨{ s₁ with batches := b, tempTarget := got, isInit := true }, ?_, ?_,
      hfollow₁.trans hfollow, rfl⟩
    · rw [ThermData.isInitCall, hs₁, Option.bind_eq_bind, Option.bind_some, if_neg hread]
      exact congrArg (Option.bind · _) hgot
    · refine ⟨hI'.batches, hI'.registers, hI'.isInitTarget, fun _ i hi => ?_, hI'.terse,
        hI'.verbose⟩
      exact (hdecoded i hi).trans (hI₁.registers i hi)

/-- The pointers of the terse dump. -/
theorem DumpInv.storeTerse (hI : DumpInv P pick target s) :
    ∃ s', s.storeTerse P = some s' ∧ DumpInv P pick target s' ∧ s.batches.Follows s'.batches ∧
      s'.isInit = s.isInit ∧ s'.batches.init thermStatus = true := by
  by_cases hset : s.terse = true
  · exact ⟨s, if_pos hset, hI, .refl _, rfl, hI.terse hset⟩
  · obtain ⟨b₁, hb₁, hI₁, hfollow₁, hinit₁⟩ := hI.store hpick (r := thermStatus) (by decide)
    obtain ⟨b₂, hb₂, hI₂, hfollow₂, -⟩ := hI₁.store hpick (r := temperatureTarget) (by decide)
    have hinit := hfollow₂.init _ hinit₁
    refine ⟨{ s with batches := b₂, terse := true }, ?_, ?_, hfollow₁.trans hfollow₂, rfl, hinit⟩
    · rw [ThermData.storeTerse, if_neg hset]
      show (s.store P thermStatus fun P t => storeTherm P thermStatus t).bind _ = _
      rw [hb₁]
      exact congrArg (Option.bind · _) hb₂
    · exact ⟨hI₂.batches, hI₂.registers, hI₂.isInitTarget, hI₂.isInit, fun _ => hinit, hI₂.verbose⟩

/-- The pointers of the verbose dump. -/
theorem DumpInv.storeVerbose (hI : DumpInv P pick target s) :
    ∃ s', s.storeVerbose P = some s' ∧ DumpInv P pick target s' ∧ s.batches.Follows s'.batches ∧
      s'.isInit = s.isInit ∧ ∀ r ∈ thermRegisters, s'.batches.init r = true := by
  by_cases hset : s.verbose = true
  · exact ⟨s, if_pos hset, hI, .refl _, rfl, hI.verbose hset⟩
  · obtain ⟨b₁, hb₁, hI₁, hfollow₁, hinit₁⟩ := hI.store hpick (r := thermStatus) (by decide)
    obtain ⟨b₂, hb₂, hI₂, hfollow₂, hinit₂⟩ := hI₁.store hpick (r := thermInterrupt) (by decide)
    obtain ⟨b₃, hb₃, hI₃, hfollow₃, hinit₃⟩ :=
      hI₂.store hpick (r := packageThermInterrupt) (by decide)
    obtain ⟨b₄, hb₄, hI₄, hfollow₄, hinit₄⟩ :=
      hI₃.store hpick (r := packageThermStatus) (by decide)
    obtain ⟨b₅, hb₅, hI₅, hfollow₅, hinit₅⟩ :=
      hI₄.store hpick (r := temperatureTarget) (by decide)
    -- what was stored stays stored
    have hfrom₄ := hfollow₄.trans hfollow₅
    have hfrom₃ := hfollow₃.trans hfrom₄
    have hfrom₂ := hfollow₂.trans hfrom₃
    have hinit : ∀ r ∈ thermRegisters, b₅.init r = true := by
      simp only [thermRegisters, List.forall_mem_cons]
      exact ⟨hfrom₂.init _ hinit₁, hfrom₃.init _ hinit₂, hfollow₅.init _ hinit₄,
        hfrom₄.init _ hinit₃, hinit₅, fun r hr => absurd hr List.not_mem_nil⟩
    refine ⟨{ s with batches := b₅, verbose := true }, ?_, ?_, hfollow₁.trans hfrom₂, rfl, hinit⟩
    · rw [ThermData.storeVerbose, if_neg hset]
      show (s.store P thermStatus fun P t => storeTherm P thermStatus t).bind _ = _
      rw [hb₁]
      refine (congrArg (Option.bind · _) hb₂).trans ?_
      refine (congrArg (Option.bind · _) hb₃).trans ?_
      refine (congrArg (Option.bind · _) hb₄).trans ?_
      exact congrArg (Option.bind · _) hb₅
    · exact ⟨hI₅.batches, hI₅.registers, hI₅.isInitTarget, hI₅.isInit, hI₅.terse, fun _ => hinit⟩

/-! ## The dumps -/

/-- The arrays that the terse dump prints hold what the registers hold. -/
structure TerseRead (P : Platform) (pick : ThermScope → Nat → Nat) (regs : RegFile)
    (s : ThermData) : Prop where
  tempTarget : ∀ i, i < P.cfg.sockets →
    s.tempTarget i = temperatureTarget.read pick regs tempTargetOfMsr i
  thermStat : ∀ i, i < P.cfg.sockets * P.cfg.coresPerSocket →
    s.thermStat i = thermStatus.read pick regs ThermStat.ofMsr i

/-- So do the arrays that the verbose dump prints. -/
structure VerboseRead (P : Platform) (pick : ThermScope → Nat → Nat) (regs : RegFile)
    (s : ThermData) : Prop extends TerseRead P pick regs s where
  thermInterrupt : ∀ i, i < P.cfg.sockets * P.cfg.coresPerSocket →
    s.thermInterrupt i = Libmsr.thermInterrupt.read pick regs ThermInterrupt.ofMsr i
  pkgThermStat : ∀ i, i < P.cfg.sockets →
    s.pkgThermStat i = packageThermStatus.read pick regs PkgThermStat.ofMsr i
  pkgThermInterrupt : ∀ i, i < P.cfg.sockets →
    s.pkgThermInterrupt i = packageThermInterrupt.read pick regs PkgThermInterrupt.ofMsr i

/-- **Terse dump.**  It prints arrays that hold what the registers hold. -/
theorem DumpInv.dumpThermDataTerse (hI : DumpInv P pick target s) :
    ∃ s', dumpThermDataTerse P s = some (s', terseValues P.cfg s') ∧ DumpInv P pick target s' ∧
      TerseRead P pick s.batches.world.host.regs s' := by
  obtain ⟨s₁, hs₁, hI₁, hfollow₁, hread₁⟩ := hI.isInitCall hpick
  obtain ⟨s₂, hs₂, hI₂, hfollow₂, hread₂, hinit₂⟩ := hI₁.storeTerse hpick
  obtain ⟨b, got, hgot, hb, hfollow, hdecoded⟩ := ThermData.get_spec hI₂.batches
    (r := thermStatus) (by decide) hinit₂ ThermStat.ofMsr s₂.thermStat
    fun s got => { s with thermStat := got }
  have hI' := hI₂.of_follows hb hfollow
  have hregs := (hfollow₁.trans hfollow₂).regs
  have htarget : ∀ i, i < P.cfg.sockets → s₂.tempTarget i = target i :=
    hI₂.isInit (hread₂.trans hread₁)
  refine ⟨{ s₂ with batches := b, thermStat := got }, ?_, ?_, ?_, ?_⟩
  · rw [Libmsr.dumpThermDataTerse, hs₁, Option.bind_eq_bind, Option.bind_some, hs₂,
      Option.bind_some]
    exact congrArg (Option.bind · _) hgot
  · exact ⟨hI'.batches, hI'.registers, hI'.isInitTarget, hI'.isInit, hI'.terse, hI'.verbose⟩
  · intro i hi
    exact (htarget i hi).trans (hI.registers i hi).symm
  · rw [hregs] at hdecoded
    exact hdecoded

/-- **Verbose dump.**  So does it. -/
theorem DumpInv.dumpThermDataVerbose (hI : DumpInv P pick target s) :
    ∃ s', dumpThermDataVerbose P s = some (s', verboseValues P.cfg s') ∧
      DumpInv P pick target s' ∧ VerboseRead P pick s.batches.world.host.regs s' := by
  obtain ⟨s₁, hs₁, hI₁, hfollow₁, -⟩ := hI.isInitCall hpick
  obtain ⟨s₂, hs₂, hI₂, hfollow₂, -, hinit⟩ := hI₁.storeVerbose hpick
  have hfrom₂ := hfollow₁.trans hfollow₂
  -- five registers, each read with what the ones before left
  obtain ⟨b₃, stat, h₃, hb₃, hfollow₃, hstat⟩ := ThermData.get_spec hI₂.batches
    (r := thermStatus) (by decide) (hinit _ (by decide)) ThermStat.ofMsr s₂.thermStat
    fun s got => { s with thermStat := got }
  have hfrom₃ := hfrom₂.trans hfollow₃
  obtain ⟨b₄, interrupt, h₄, hb₄, hfollow₄, hinterrupt⟩ := ThermData.get_spec
    (s := { s₂ with batches := b₃, thermStat := stat }) hb₃ (r := thermInterrupt) (by decide)
    (hfollow₃.init _ (hinit _ (by decide))) ThermInterrupt.ofMsr s₂.thermInterrupt
    fun s got => { s with thermInterrupt := got }
  have hfrom₄ := hfrom₃.trans hfollow₄
  obtain ⟨b₅, pkgStat, h₅, hb₅, hfollow₅, hpkgStat⟩ := ThermData.get_spec
    (s := { s₂ with batches := b₄, thermStat := stat, thermInterrupt := interrupt }) hb₄
    (r := packageThermStatus) (by decide)
    ((hfollow₃.trans hfollow₄).init _ (hinit _ (by decide))) PkgThermStat.ofMsr s₂.pkgThermStat
    fun s got => { s with pkgThermStat := got }
  have hfrom₅ := hfrom₄.trans hfollow₅
  have hread₅ := (hfollow₃.trans hfollow₄).trans hfollow₅
  obtain ⟨b₆, pkgInterrupt, h₆, hb₆, hfollow₆, hpkgInterrupt⟩ := ThermData.get_spec
    (s := { s₂ with batches := b₅, thermStat := stat, thermInterrupt := interrupt,
                    pkgThermStat := pkgStat }) hb₅
    (r := packageThermInterrupt) (by decide) (hread₅.init _ (hinit _ (by decide)))
    PkgThermInterrupt.ofMsr s₂.pkgThermInterrupt fun s got => { s with pkgThermInterrupt := got }
  have hfrom₆ := hfrom₅.trans hfollow₆
  have hread₆ := hread₅.trans hfollow₆
  obtain ⟨b₇, tempTarget, h₇, hb₇, hfollow₇, htarget⟩ := ThermData.get_spec
    (s := { s₂ with batches := b₆, thermStat := stat, thermInterrupt := interrupt,
                    pkgThermStat := pkgStat, pkgThermInterrupt := pkgInterrupt }) hb₆
    (r := temperatureTarget) (by decide) (hread₆.init _ (hinit _ (by decide)))
    tempTargetOfMsr s₂.tempTarget fun s got => { s with tempTarget := got }
  have hI' := hI₂.of_follows hb₇ (hread₆.trans hfollow₇)
  rw [hfrom₂.regs] at hstat
  rw [hfrom₃.regs] at hinterrupt
  rw [hfrom₄.regs] at hpkgStat
  rw [hfrom₅.regs] at hpkgInterrupt
  rw [hfrom₆.regs] at htarget
  refine ⟨{ s₂ with batches := b₇, thermStat := stat, thermInterrupt := interrupt,
                    pkgThermStat := pkgStat, pkgThermInterrupt := pkgInterrupt,
                    tempTarget := tempTarget }, ?_, ?_, ⟨htarget, hstat⟩, hinterrupt, hpkgStat,
    hpkgInterrupt⟩
  · rw [Libmsr.dumpThermDataVerbose, hs₁, Option.bind_eq_bind, Option.bind_some, hs₂,
      Option.bind_some]
    refine (congrArg (Option.bind · _) h₃).trans ?_
    refine (congrArg (Option.bind · _) h₄).trans ?_
    refine (congrArg (Option.bind · _) h₅).trans ?_
    refine (congrArg (Option.bind · _) h₆).trans ?_
    exact congrArg (Option.bind · _) h₇
  · refine ⟨hI'.batches, hI'.registers, hI'.isInitTarget, fun _ i hi => ?_, hI'.terse, hI'.verbose⟩
    exact (htarget i hi).trans (hI.registers i hi)

/-! ## Runs -/

/-- The hardware leaves the read-only temperature targets as they are. -/
def DumpCall.KeepsTarget (P : Platform) (pick : ThermScope → Nat → Nat) (target : Nat → Word) :
    DumpCall → Prop
  | .terse => True
  | .verbose => True
  | .hardware regs => ∀ i, i < P.cfg.sockets →
    temperatureTarget.read pick regs tempTargetOfMsr i = target i

/-- One call: it succeeds and keeps the invariant. -/
theorem dumpInv_step (s : ThermData) (call : DumpCall) (hI : DumpInv P pick target s)
    (hkeep : call.KeepsTarget P pick target) :
    ∃ s', dumpStep P s call = some s' ∧ DumpInv P pick target s' := by
  cases call with
  | terse =>
    obtain ⟨s', hs', hI', -⟩ := hI.dumpThermDataTerse hpick
    refine ⟨s', ?_, hI'⟩
    rw [dumpStep, hs', Option.map_some]
  | verbose =>
    obtain ⟨s', hs', hI', -⟩ := hI.dumpThermDataVerbose hpick
    refine ⟨s', ?_, hI'⟩
    rw [dumpStep, hs', Option.map_some]
  | hardware regs =>
    refine ⟨_, rfl, ⟨?_, fun r hr => ?_⟩, hkeep, hI.isInitTarget, hI.isInit, hI.terse, hI.verbose⟩
    · exact hI.batches.works.of_sameDevices ⟨rfl, rfl, rfl, rfl⟩
    · -- registers change, batches do not
      rcases hI.batches.loaded r hr with hun | ⟨id, data, hloaded⟩
      · exact Or.inl ⟨hun.init, hun.raw, hun.sized, hun.empty⟩
      · exact Or.inr ⟨id, data, hloaded.init, hloaded.raw, hloaded.cells⟩

end Calls

/-- Before any call. -/
structure DumpStart (P : Platform) (pick : ThermScope → Nat → Nat) (s : ThermData) : Prop where
  works : DumpsWork P pick s.batches.world.host
  unloaded : ∀ r ∈ thermRegisters, ThermUnloaded r (s.batches.view r)
  isInitTarget : s.isInitTarget = false
  isInit : s.isInit = false
  terse : s.terse = false
  verbose : s.verbose = false

/-- At the start the invariant holds, whatever the temperature targets are. -/
theorem DumpStart.inv {P : Platform} {pick : ThermScope → Nat → Nat} {s : ThermData}
    (h : DumpStart P pick s) : DumpInv P pick
      (temperatureTarget.read pick s.batches.world.host.regs tempTargetOfMsr) s := by
  refine ⟨⟨h.works, fun r hr => Or.inl (h.unloaded r hr)⟩, fun _ _ => rfl, ?_, ?_, ?_, ?_⟩
  · rw [h.isInitTarget]
    exact nofun
  · rw [h.isInit]
    exact nofun
  · rw [h.terse]
    exact nofun
  · rw [h.verbose]
    exact nofun

/-- A state after any calls of the dumps and any changes the hardware made to
    registers, the temperature targets excepted. -/
structure DumpReached (P : Platform) (pick : ThermScope → Nat → Nat) (s : ThermData) : Prop where
  picks : ∀ scope : ThermScope, Picks P.cfg P.topo scope.key (scope.count P.cfg) (pick scope)
  run : ∃ s₀ calls, DumpStart P pick s₀ ∧
    Runs.Along (dumpStep P) (fun _ call => call.KeepsTarget P pick
      (temperatureTarget.read pick s₀.batches.world.host.regs tempTargetOfMsr)) s₀ calls ∧
    Runs.run (dumpStep P) s₀ calls = some s

theorem DumpReached.inv {P : Platform} {pick : ThermScope → Nat → Nat} {s : ThermData}
    (h : DumpReached P pick s) : ∃ target, DumpInv P pick target s := by
  obtain ⟨s₀, calls, hstart, hkeep, hrun⟩ := h.run
  obtain ⟨s', hs', hI'⟩ := hkeep.run_inv (dumpInv_step h.picks) hstart.inv
  obtain rfl := Option.some.inj (hs'.symm.trans hrun)
  exact ⟨_, hI'⟩

end Libmsr
