/-
  Libmsr.Rapl.EnergyPoll

  One `poll_rapl_data` call: what the first call sets up, and what every later
  call computes from the readings of the call before and its own.

  - `Measures S p`: the state `S` holds the readings of poll `p`, and joules
    that match them.
  - `pollRaplData_first`, `pollRaplData_step`: the first and every later poll.
  - `pollRaplData_absent`: without both energy registers there is no first poll.
-/
import Libmsr.Rapl.EnergyLoops

namespace Libmsr

section EnergyPoll

variable {K : Type} [Field K] [LinearOrder K] [IsStrictOrderedRing K] [FloorRing K]

/-- What socket `s` counts at poll `p`. -/
def Poll.pkgReading (p : Poll) (pick : Nat → Nat) (s : Nat) : Word :=
  p.host.regs (pick s) msrPkgEnergyStatus

@[inherit_doc Poll.pkgReading]
def Poll.dramReading (p : Poll) (pick : Nat → Nat) (s : Nat) : Word :=
  p.host.regs (pick s) msrDramEnergyStatus

/-- `rapl->pkg_delta_joules[s]`. -/
def RaplData.pkgDeltaAt (rapl : RaplData K) (s : Nat) : Option K :=
  rapl.pkg.bind fun cells => cells[s]?.map PkgCell.deltaJoules

/-- `rapl->dram_delta_joules[s]`. -/
def RaplData.dramDeltaAt (rapl : RaplData K) (s : Nat) : Option K :=
  rapl.dram.bind fun cells => cells[s]?.map DramCell.deltaJoules

/-- The state holds the readings of poll `p`. -/
structure Measures (R : RaplSetup K) (pick : Nat → Nat) (raw : Nat → Word) (S : EnergyState K)
    (p : Poll) : Prop where
  wired : Wired R pick S.st S.rapl
  readInit : S.readInit = true
  deltaInit : S.deltaInit = true
  pkg : ∀ cells s c, S.rapl.pkg = some cells → cells[s]? = some c →
    S.st.deref c.bits = some (p.pkgReading pick s) ∧
      c.joules = ((p.pkgReading pick s).toNat : K) / unitsPerJoule (raw s)
  dram : ∀ cells s c, S.rapl.dram = some cells → cells[s]? = some c →
    S.st.deref c.bits = some (p.dramReading pick s) ∧
      c.joules = ((p.dramReading pick s).toNat : K) / dramUnitsPerJoule R.model (raw s)

/-- The state between `read_rapl_data` and `delta_rapl_data` at poll `p'`, which
    follows poll `p`: the readings of both. -/
structure Advanced (R : RaplSetup K) (pick : Nat → Nat) (raw : Nat → Word) (S : EnergyState K)
    (p p' : Poll) : Prop where
  wired : Wired R pick S.st S.rapl
  readInit : S.readInit = true
  pkg : ∀ cells s c, S.rapl.pkg = some cells → cells[s]? = some c →
    S.st.deref c.bits = some (p'.pkgReading pick s) ∧
      c.joules = ((p'.pkgReading pick s).toNat : K) / unitsPerJoule (raw s) ∧
      c.oldBits = p.pkgReading pick s ∧
      c.oldJoules = ((p.pkgReading pick s).toNat : K) / unitsPerJoule (raw s)
  dram : ∀ cells s c, S.rapl.dram = some cells → cells[s]? = some c →
    S.st.deref c.bits = some (p'.dramReading pick s) ∧
      c.joules = ((p'.dramReading pick s).toNat : K) / dramUnitsPerJoule R.model (raw s) ∧
      c.oldBits = p.dramReading pick s ∧
      c.oldJoules = ((p.dramReading pick s).toNat : K) / dramUnitsPerJoule R.model (raw s)

section Polls

variable {R : RaplSetup K} {pick : Nat → Nat} {raw : Nat → Word} {drv : BatchDriver} {fd : Int}
  (hcpus : SocketCpus R pick) (hunits : HasUnits R raw)
  (hpkg : announces R.flags pkgEnergyStatus = true)
  (hdram : announces R.flags dramEnergyStatus = true)
include hcpus hunits hpkg hdram

omit [IsStrictOrderedRing K] in
/-- The end of `read_rapl_data`: the counters are read and translated. -/
theorem readAndTranslate {p : Poll} (hready : PollReady R pick drv fd p) {st : BatchStorage}
    {rapl : RaplData K} (hw : Wired R pick st rapl) {ps : List (PkgCell K)} {ds : List (DramCell K)}
    (hps : rapl.pkg = some ps) (hds : rapl.dram = some ds) :
    ∃ r rapl', readBatch drv fd st p.host raplData = some r ∧
      (List.range R.cfg.sockets).foldlM (translateReadings R r.st) rapl = some rapl' ∧
      Wired R pick r.st rapl' ∧
      rapl'.pkg = some (ps.mapIdx fun s c =>
        { c with joules := ((p.pkgReading pick s).toNat : K) / unitsPerJoule (raw s) }) ∧
      rapl'.dram = some (ds.mapIdx fun s c =>
        { c with joules :=
            ((p.dramReading pick s).toNat : K) / dramUnitsPerJoule R.model (raw s) }) ∧
      (∀ s c, ps[s]? = some c → r.st.deref c.bits = some (p.pkgReading pick s)) ∧
      ∀ s c, ds[s]? = some c → r.st.deref c.bits = some (p.dramReading pick s) := by
  obtain ⟨r, hread, hw', hderef⟩ := hw.readBatch hcpus hready
  obtain ⟨cells, hcells, hp, hptr⟩ := hw.pkg
  obtain rfl := Option.some.inj (hps.symm.trans hcells)
  obtain ⟨cells', hcells', hd, hptr'⟩ := hw.dram
  obtain rfl := Option.some.inj (hds.symm.trans hcells')
  have hpkgBits : ∀ s c, ps[s]? = some c → r.st.deref c.bits = some (p.pkgReading pick s) := by
    intro s c hc
    obtain ⟨ptr, hbits, hpoints⟩ := hptr s c hc
    rw [hbits]
    refine hderef ptr s _ ?_ ?_ hpoints
    · rw [← hp]
      exact (List.getElem?_eq_some_iff.mp hc).1
    · exact loadedRegs_pkg hpkg
  have hdramBits : ∀ s c, ds[s]? = some c → r.st.deref c.bits = some (p.dramReading pick s) := by
    intro s c hc
    obtain ⟨ptr, hbits, hpoints⟩ := hptr' s c hc
    rw [hbits]
    refine hderef ptr s _ ?_ ?_ hpoints
    · rw [← hd]
      exact (List.getElem?_eq_some_iff.mp hc).1
    · exact loadedRegs_dram hdram
  refine ⟨r, _, hread, translateReadings_loop hunits hps hds hp hd hpkg hdram hpkgBits hdramBits,
    hw'.replaceCells _ hps hds ?_ ?_ rfl rfl, rfl, rfl, hpkgBits, hdramBits⟩
  · exact fun _ _ _ => rfl
  · exact fun _ _ _ => rfl

omit [IsStrictOrderedRing K] in
/-- `read_rapl_data` moves the readings of the poll before to the old ones and
    fetches new ones. -/
theorem readRaplData_step {S : EnergyState K} {p p' : Poll} (hS : Measures R pick raw S p)
    (hready : PollReady R pick drv fd p') :
    ∃ S', readRaplData R drv fd S p' = some S' ∧ S'.deltaInit = true ∧
      Advanced R pick raw S' p p' := by
  obtain ⟨ps, hps, hp, -⟩ := hS.wired.pkg
  obtain ⟨ds, hds, hd, -⟩ := hS.wired.dram
  have hmove := moveToOld_loop
    { S.rapl with
      oldNow := S.rapl.now, now := p'.now, elapsed := elapsedSeconds p'.now S.rapl.now }
    hps hds hp hd hpkg hdram (fun s c hc => (hS.pkg ps s c hps hc).1)
    (fun s c hc => (hS.dram ds s c hds hc).1)
  have hw₁ := hS.wired.replaceCells { S.rapl with
      oldNow := S.rapl.now, now := p'.now, elapsed := elapsedSeconds p'.now S.rapl.now
      pkg := some (ps.mapIdx fun s c =>
        { c with oldBits := p.pkgReading pick s, oldJoules := c.joules })
      dram := some (ds.mapIdx fun s c =>
        { c with oldBits := p.dramReading pick s, oldJoules := c.joules }) }
    hps hds
    (F := fun s c => { c with oldBits := p.pkgReading pick s, oldJoules := c.joules })
    (G := fun s c => { c with oldBits := p.dramReading pick s, oldJoules := c.joules })
    (fun _ _ _ => rfl) (fun _ _ _ => rfl) rfl rfl
  obtain ⟨r, rapl', hread, htrans, hw₂, hpkg₂, hdram₂, hpkgBits, hdramBits⟩ :=
    readAndTranslate hcpus hunits hpkg hdram hready hw₁ rfl rfl
  refine ⟨{ S with st := r.st, rapl := rapl', readInit := true }, ?_, hS.deltaInit, hw₂, rfl,
    ?_, ?_⟩
  · simp only [readRaplData, hS.readInit, if_true, Option.bind_eq_bind, Option.bind_some, hmove,
      hread, htrans]
  · intro cells s c hcells hc
    obtain rfl := Option.some.inj (hpkg₂.symm.trans hcells)
    obtain ⟨c₁, hc₁, rfl⟩ := Loops.mapIdx_getElem?_eq_some.mp hc
    have hderef := hpkgBits s c₁ hc₁
    obtain ⟨c₀, hc₀, rfl⟩ := Loops.mapIdx_getElem?_eq_some.mp hc₁
    exact ⟨hderef, rfl, rfl, (hS.pkg ps s c₀ hps hc₀).2⟩
  · intro cells s c hcells hc
    obtain rfl := Option.some.inj (hdram₂.symm.trans hcells)
    obtain ⟨c₁, hc₁, rfl⟩ := Loops.mapIdx_getElem?_eq_some.mp hc
    have hderef := hdramBits s c₁ hc₁
    obtain ⟨c₀, hc₀, rfl⟩ := Loops.mapIdx_getElem?_eq_some.mp hc₁
    exact ⟨hderef, rfl, rfl, (hS.dram ds s c₀ hds hc₀).2⟩

omit hcpus hpkg hdram in
/-- What the loop of `delta_rapl_data` makes of the cells of socket `s`: only the
    delta changes, and it is that of the two readings. -/
theorem pkgDelta_advanced {S : EnergyState K} {p p' : Poll} (hS : Advanced R pick raw S p p')
    {ps : List (PkgCell K)} (hps : S.rapl.pkg = some ps) (hlen : ps.length = R.cfg.sockets)
    {s : Nat} {c : PkgCell K} (hc : ps[s]? = some c) :
    ∃ c', pkgDelta R S.st s c = some c' ∧ c'.bits = c.bits ∧ c'.joules = c.joules ∧
      c'.deltaJoules = pkgDeltaJoules (unitsPerJoule (raw s)) (p.pkgReading pick s)
        (p'.pkgReading pick s) := by
  have hs : s < R.cfg.sockets := by
    rw [← hlen]
    exact (List.getElem?_eq_some_iff.mp hc).1
  obtain ⟨hnew, hjoules, hold, holdJoules⟩ := hS.pkg ps s c hps hc
  rw [← hold] at holdJoules ⊢
  exact pkgDelta_spec (hunits s hs) hnew hjoules holdJoules

omit hcpus hunits hpkg hdram [IsStrictOrderedRing K] [FloorRing K] in
theorem dramDelta_advanced {S : EnergyState K} {p p' : Poll} (hS : Advanced R pick raw S p p')
    {ds : List (DramCell K)} (hds : S.rapl.dram = some ds) {s : Nat} {c : DramCell K}
    (hc : ds[s]? = some c) :
    (dramDelta c).bits = c.bits ∧ (dramDelta c).joules = c.joules ∧
      (dramDelta c).deltaJoules = dramDeltaJoules (dramUnitsPerJoule R.model (raw s))
        (p.dramReading pick s) (p'.dramReading pick s) := by
  obtain ⟨-, hjoules, -, holdJoules⟩ := hS.dram ds s c hds hc
  exact dramDelta_spec hjoules holdJoules

omit hcpus in
/-- `delta_rapl_data` computes the deltas of the two readings. -/
theorem deltaRaplData_step {S : EnergyState K} {p p' : Poll} (hS : Advanced R pick raw S p p')
    (hinit : S.deltaInit = true) :
    ∃ S', deltaRaplData R S = some S' ∧ Measures R pick raw S' p' ∧
      ∀ s, s < R.cfg.sockets →
        S'.rapl.pkgDeltaAt s = some (pkgDeltaJoules (unitsPerJoule (raw s))
          (p.pkgReading pick s) (p'.pkgReading pick s)) ∧
        S'.rapl.dramDeltaAt s = some (dramDeltaJoules (dramUnitsPerJoule R.model (raw s))
          (p.dramReading pick s) (p'.dramReading pick s)) := by
  obtain ⟨ps, hps, hp, -⟩ := hS.wired.pkg
  obtain ⟨ds, hds, hd, -⟩ := hS.wired.dram
  obtain ⟨rapl', hloop, hpkg', hdram'⟩ : ∃ rapl' : RaplData K,
      (List.range R.cfg.sockets).foldlM (deltaSocket R S.st) S.rapl = some rapl' ∧
      rapl'.pkg = some (ps.mapIdx fun s c =>
        ((pkgDelta R S.st s c).getD c).withWatts S.rapl.elapsed) ∧
      rapl'.dram = some (ds.mapIdx fun _ c => (dramDelta c).withWatts S.rapl.elapsed) := by
    -- the loop succeeds because every cell does
    refine ⟨_, deltaSocket_loop hps hds hp hd hpkg hdram ?_, rfl, rfl⟩
    intro s c hc
    obtain ⟨c', hc', -⟩ := pkgDelta_advanced hunits hS hps hp hc
    rw [hc', Option.getD_some]
  -- so the default of a failed cell is never used
  have hcell : ∀ s c, ps[s]? = some c → ((pkgDelta R S.st s c).getD c).bits = c.bits ∧
      ((pkgDelta R S.st s c).getD c).joules = c.joules ∧
      ((pkgDelta R S.st s c).getD c).deltaJoules = pkgDeltaJoules (unitsPerJoule (raw s))
        (p.pkgReading pick s) (p'.pkgReading pick s) := by
    intro s c hc
    obtain ⟨c', hc', hrest⟩ := pkgDelta_advanced hunits hS hps hp hc
    rw [hc', Option.getD_some]
    exact hrest
  refine ⟨{ S with rapl := rapl' }, ?_, ⟨?_, hS.readInit, hinit, ?_, ?_⟩, fun s hs => ⟨?_, ?_⟩⟩
  · simp only [deltaRaplData, hinit, Bool.not_true, Bool.false_eq_true, if_false, hloop,
      Option.bind_eq_bind, Option.bind_some]
  · refine hS.wired.replaceCells _ hps hds ?_ ?_ hpkg' hdram'
    · exact fun s c hc => (hcell s c hc).1
    · exact fun s c hc => (dramDelta_advanced hS hds hc).1
  · intro cells s c hcells hc
    obtain rfl := Option.some.inj (hpkg'.symm.trans hcells)
    obtain ⟨c₀, hc₀, rfl⟩ := Loops.mapIdx_getElem?_eq_some.mp hc
    obtain ⟨hbits, hjoules, -⟩ := hcell s c₀ hc₀
    obtain ⟨hnew, hjoules₀, -, -⟩ := hS.pkg ps s c₀ hps hc₀
    exact ⟨by rw [← hnew]; exact congrArg S.st.deref hbits, hjoules.trans hjoules₀⟩
  · intro cells s c hcells hc
    obtain rfl := Option.some.inj (hdram'.symm.trans hcells)
    obtain ⟨c₀, hc₀, rfl⟩ := Loops.mapIdx_getElem?_eq_some.mp hc
    obtain ⟨hbits, hjoules, -⟩ := dramDelta_advanced hS hds hc₀
    obtain ⟨hnew, hjoules₀, -, -⟩ := hS.dram ds s c₀ hds hc₀
    exact ⟨by rw [← hnew]; exact congrArg S.st.deref hbits, hjoules.trans hjoules₀⟩
  · have hc : ps[s]? = some ps[s] := List.getElem?_eq_getElem (by omega)
    simp only [RaplData.pkgDeltaAt, hpkg', Option.bind_some, List.getElem?_mapIdx, hc,
      Option.map_some]
    exact congrArg some (hcell s _ hc).2.2
  · have hc : ds[s]? = some ds[s] := List.getElem?_eq_getElem (by omega)
    simp only [RaplData.dramDeltaAt, hdram', Option.bind_some, List.getElem?_mapIdx, hc,
      Option.map_some]
    exact congrArg some (dramDelta_advanced hS hds hc).2.2

/-- **Every later poll** keeps `Measures`, and its deltas are those of its
    readings and the ones of the poll before. -/
theorem pollRaplData_step {S : EnergyState K} {p p' : Poll} (hS : Measures R pick raw S p)
    (hready : PollReady R pick drv fd p') :
    ∃ S', pollRaplData R drv fd S p' = some S' ∧ Measures R pick raw S' p' ∧
      ∀ s, s < R.cfg.sockets →
        S'.rapl.pkgDeltaAt s = some (pkgDeltaJoules (unitsPerJoule (raw s))
          (p.pkgReading pick s) (p'.pkgReading pick s)) ∧
        S'.rapl.dramDeltaAt s = some (dramDeltaJoules (dramUnitsPerJoule R.model (raw s))
          (p.dramReading pick s) (p'.dramReading pick s)) := by
  obtain ⟨S₁, hread, hinit, hadv⟩ := readRaplData_step hcpus hunits hpkg hdram hS hready
  obtain ⟨S₂, hdelta, hmeasures, hdeltas⟩ := deltaRaplData_step hunits hpkg hdram hadv hinit
  refine ⟨S₂, ?_, hmeasures, hdeltas⟩
  simp only [pollRaplData, hread, hdelta, Option.bind_eq_bind, Option.bind_some]

/-! ## The first poll -/

/-- The state `rapl_init` leaves behind: nothing measured, no ops and no array
    for `RAPL_DATA`, no measurement arrays. -/
structure EnergyState.Fresh (S : EnergyState K) : Prop where
  sized : S.st.Sized
  empty : S.st.entry raplData = .empty
  pkg : S.rapl.pkg = none
  dram : S.rapl.dram = none
  readInit : S.readInit = false
  deltaInit : S.deltaInit = false

omit [IsStrictOrderedRing K] in
/-- **The first poll** sets up the batch and holds its readings. -/
theorem pollRaplData_first (hpos : 0 < R.cfg.sockets) {S : EnergyState K} (hS : S.Fresh) {p : Poll}
    (hready : PollReady R pick drv fd p) :
    ∃ S', pollRaplData R drv fd S p = some S' ∧ Measures R pick raw S' p := by
  obtain ⟨st₀, rapl₀, hcreate, hw₀⟩ := createRaplDataBatch_spec hcpus hpos
    (hcpus.sockets_le hpos) hS.sized hS.empty hpkg hdram S.rapl
  obtain ⟨ps, hps, hp, -⟩ := hw₀.pkg
  obtain ⟨ds, hds, hd, -⟩ := hw₀.dram
  have hzero := zeroJoules_loop { rapl₀ with now := ⟨0, 0⟩, oldNow := ⟨0, 0⟩, elapsed := 0 }
    hps hds hp hd
  have hw₁ := hw₀.replaceCells { rapl₀ with
      now := p.now, oldNow := ⟨0, 0⟩, elapsed := 0
      pkg := some (ps.mapIdx fun _ c => { c with joules := 0, oldJoules := 0 })
      dram := some (ds.mapIdx fun _ c => { c with joules := 0, oldJoules := 0 }) }
    hps hds (F := fun _ c => { c with joules := 0, oldJoules := 0 })
    (G := fun _ c => { c with joules := 0, oldJoules := 0 })
    (fun _ _ _ => rfl) (fun _ _ _ => rfl) rfl rfl
  obtain ⟨r, rapl₁, hread, htrans, hw₂, hpkg₁, hdram₁, hpkgBits, hdramBits⟩ :=
    readAndTranslate hcpus hunits hpkg hdram hready hw₁ rfl rfl
  have hfirst : readRaplData R drv fd S p =
      some { S with st := r.st, rapl := rapl₁, readInit := true } := by
    simp only [readRaplData, initRaplData, hS.readInit, hcreate, hzero, hread, htrans,
      Bool.false_eq_true, if_false, Option.bind_eq_bind, Option.bind_some]
  obtain ⟨cells, hcells, hp₁, -⟩ := hw₂.pkg
  obtain ⟨cells', hcells', hd₁, -⟩ := hw₂.dram
  have hwatts := zeroWatts_loop rapl₁ hcells hcells' hp₁ hd₁ hpkg hdram
  refine ⟨{ S with
      st := r.st
      rapl := { rapl₁ with
        pkg := some (cells.mapIdx fun _ c => { c with watts := 0 })
        dram := some (cells'.mapIdx fun _ c => { c with watts := 0 })
        elapsed := 0 }
      readInit := true
      deltaInit := true }, ?_, ?_, rfl, rfl, ?_, ?_⟩
  · simp only [pollRaplData, hfirst, deltaRaplData, hS.deltaInit, Bool.not_false, if_true, hwatts,
      Option.bind_eq_bind, Option.bind_some]
  · exact hw₂.replaceCells _ hcells hcells' (F := fun _ c => { c with watts := 0 })
      (G := fun _ c => { c with watts := 0 }) (fun _ _ _ => rfl) (fun _ _ _ => rfl) rfl rfl
  · intro _ s c hout hc
    obtain rfl := Option.some.inj hout
    obtain ⟨c₂, hc₂, rfl⟩ := Loops.mapIdx_getElem?_eq_some.mp hc
    obtain rfl := Option.some.inj (hpkg₁.symm.trans hcells)
    obtain ⟨c₁, hc₁, rfl⟩ := Loops.mapIdx_getElem?_eq_some.mp hc₂
    exact ⟨hpkgBits s c₁ hc₁, rfl⟩
  · intro _ s c hout hc
    obtain rfl := Option.some.inj hout
    obtain ⟨c₂, hc₂, rfl⟩ := Loops.mapIdx_getElem?_eq_some.mp hc
    obtain rfl := Option.some.inj (hdram₁.symm.trans hcells')
    obtain ⟨c₁, hc₁, rfl⟩ := Loops.mapIdx_getElem?_eq_some.mp hc₂
    exact ⟨hdramBits s c₁ hc₁, rfl⟩

end Polls

omit [LinearOrder K] [IsStrictOrderedRing K] [FloorRing K] in
/-- Without both energy registers `read_rapl_data` cannot be initialised: it clears the
    arrays of both domains, of which one was never allocated. -/
theorem initRaplData_absent {R : RaplSetup K} (hpos : 0 < R.cfg.sockets) {rapl : RaplData K}
    (hpkg₀ : rapl.pkg = none) (hdram₀ : rapl.dram = none)
    (habsent : announces R.flags pkgEnergyStatus = false ∨
      announces R.flags dramEnergyStatus = false) (st : BatchStorage) :
    initRaplData R st rapl = none := by
  rw [initRaplData]
  cases hcreate : createRaplDataBatch R st rapl with
  | none => rfl
  | some created =>
    obtain ⟨st', rapl'⟩ := created
    obtain ⟨hpkg, hdram⟩ := createRaplDataBatch_absent hcreate
    have hbody : zeroJoules { rapl' with now := ⟨0, 0⟩, oldNow := ⟨0, 0⟩, elapsed := 0 } 0 =
        none := by
      rcases habsent with hflag | hflag
      · have hnone : rapl'.pkg = none := (hpkg hflag).trans hpkg₀
        simp [zeroJoules, updateAt, hnone]
      · have hnone : rapl'.dram = none := (hdram hflag).trans hdram₀
        simp [zeroJoules, updateAt, hnone]
    obtain ⟨n, hn⟩ : ∃ n, R.cfg.sockets = n + 1 := ⟨R.cfg.sockets - 1, by omega⟩
    simp only [Option.bind_eq_bind, Option.bind_some, hn, List.range_succ_eq_map,
      List.foldlM_cons, hbody, Option.bind_none]

omit [IsStrictOrderedRing K] in
theorem readRaplData_absent {R : RaplSetup K} (hpos : 0 < R.cfg.sockets) {S : EnergyState K}
    (hpkg : S.rapl.pkg = none) (hdram : S.rapl.dram = none) (hinit : S.readInit = false)
    (habsent : announces R.flags pkgEnergyStatus = false ∨
      announces R.flags dramEnergyStatus = false) (drv : BatchDriver) (fd : Int) (p : Poll) :
    readRaplData R drv fd S p = none := by
  have hnone := initRaplData_absent hpos hpkg hdram habsent S.st
  simp only [readRaplData, hinit, hnone, Bool.false_eq_true, if_false, Option.bind_eq_bind,
    Option.bind_none]

omit [IsStrictOrderedRing K] in
/-- Without both energy registers there is no first poll. -/
theorem pollRaplData_absent {R : RaplSetup K} (hpos : 0 < R.cfg.sockets) {S : EnergyState K}
    (hS : S.Fresh) (habsent : announces R.flags pkgEnergyStatus = false ∨
      announces R.flags dramEnergyStatus = false) (drv : BatchDriver) (fd : Int) (p : Poll) :
    pollRaplData R drv fd S p = none := by
  have hread := readRaplData_absent hpos hS.pkg hS.dram hS.readInit habsent drv fd p
  simp only [pollRaplData, hread, Option.bind_eq_bind, Option.bind_none]

end EnergyPoll

end Libmsr
