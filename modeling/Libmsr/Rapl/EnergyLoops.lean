/-
  Libmsr.Rapl.EnergyLoops

  The loops over the sockets in `read_rapl_data` and `delta_rapl_data`, as maps
  over the cells of the two domains, and reading the counters through the
  pointers in these cells.
-/
import Libmsr.Rapl.EnergyLoad
import Libmsr.Rapl.UnitsSpec

namespace Libmsr

section EnergyLoops

variable {K : Type}

/-! ## Loops over the sockets -/

/-- Work on an element that is there. -/
theorem updateAt_some {γ : Type} {cells : List γ} {s : Nat} {c : γ} (hc : cells[s]? = some c)
    (f : γ → Option γ) :
    updateAt (some cells) s f = (f c).bind fun c' => some (some (cells.set s c')) := by
  simp only [updateAt, Option.bind_eq_bind, Option.bind_some, hc]

/-- The measurements when a loop has replaced the cells of the sockets below
    `k`. -/
def RaplData.replacedBelow (rapl : RaplData K) (ps : List (PkgCell K)) (ds : List (DramCell K))
    (F : Nat → PkgCell K → PkgCell K) (G : Nat → DramCell K → DramCell K) (k : Nat) : RaplData K :=
  { rapl with pkg := some (Loops.updatedBelow F k ps), dram := some (Loops.updatedBelow G k ds) }

/-- **Socket loop.**  A body that replaces the socket's own cells, as they were
    before the loop, by `F` and `G` of them leaves all cells replaced. -/
theorem foldlM_sockets {n : Nat} {body : RaplData K → Nat → Option (RaplData K)}
    {rapl : RaplData K} {ps : List (PkgCell K)} {ds : List (DramCell K)}
    (hpkg : rapl.pkg = some ps) (hdram : rapl.dram = some ds) (hp : ps.length = n)
    (hd : ds.length = n) (F : Nat → PkgCell K → PkgCell K) (G : Nat → DramCell K → DramCell K)
    (hbody : ∀ k ps' ds' c d, ps[k]? = some c → ds[k]? = some d → ps'[k]? = some c →
      ds'[k]? = some d → body { rapl with pkg := some ps', dram := some ds' } k =
        some { rapl with pkg := some (ps'.set k (F k c)), dram := some (ds'.set k (G k d)) }) :
    (List.range n).foldlM body rapl =
      some { rapl with pkg := some (ps.mapIdx F), dram := some (ds.mapIdx G) } := by
  have hall : Loops.updatedBelow F n ps = ps.mapIdx F ∧ Loops.updatedBelow G n ds = ds.mapIdx G :=
    ⟨hp ▸ Loops.updatedBelow_all F ps, hd ▸ Loops.updatedBelow_all G ds⟩
  rw [← hall.1, ← hall.2]
  have hstart : rapl = rapl.replacedBelow ps ds F G 0 := by
    simp only [RaplData.replacedBelow, Loops.updatedBelow_zero, ← hpkg, ← hdram]
  have hstep : ∀ k, k < n → body (rapl.replacedBelow ps ds F G k) k =
      some (rapl.replacedBelow ps ds F G (k + 1)) := by
    intro k hk
    have hc : ps[k]? = some ps[k] := List.getElem?_eq_getElem (by omega)
    have hd' : ds[k]? = some ds[k] := List.getElem?_eq_getElem (by omega)
    have hnext := hbody k (Loops.updatedBelow F k ps) (Loops.updatedBelow G k ds) _ _ hc hd'
      (by rw [Loops.updatedBelow_getElem?_self, hc]) (by rw [Loops.updatedBelow_getElem?_self, hd'])
    rw [Loops.updatedBelow_set F hc, Loops.updatedBelow_set G hd'] at hnext
    exact hnext
  obtain ⟨t, ht, hend⟩ := Loops.foldlM_range_inv body
    (fun k t => t = rapl.replacedBelow ps ds F G k) n rapl hstart
    fun k hk t ht => ⟨_, by rw [ht, hstep k hk], rfl⟩
  rw [ht, hend]
  rfl

/-! ## Reading the counters -/

/-- What a poll needs of the machine: the devices and the driver work, and the
    announced registers of every socket can be read. -/
structure PollReady (R : RaplSetup K) (pick : Nat → Nat) (drv : BatchDriver) (fd : Int)
    (p : Poll) : Prop where
  serves : drv.Serves fd p.host R.cfg.numDevs
  readable : ∀ s, s < R.cfg.sockets → ∀ msr, msr ∈ loadedRegs R.flags →
    p.host.fails (pick s) msr = false

theorem loadedRegs_lt {flags : Word} {msr : Nat} (h : msr ∈ loadedRegs flags) : msr < 2 ^ 32 := by
  have hall : ∀ r ∈ [(pkgEnergyStatus, msrPkgEnergyStatus), (pkgPerfStatus, msrPkgPerfStatus),
      (dramEnergyStatus, msrDramEnergyStatus), (dramPerfStatus, msrDramPerfStatus)],
      r.2 < 2 ^ 32 := by decide
  obtain ⟨r, hin, rfl⟩ := List.mem_map.mp h
  exact hall r (List.mem_filter.mp hin).1

section Reading

variable {R : RaplSetup K} {pick : Nat → Nat} {drv : BatchDriver} {fd : Int} {p : Poll}
  {st : BatchStorage}

/-- CPU and register of a loaded read are those of its socket. -/
theorem SocketCpus.read_place (hcpus : SocketCpus R pick) {s msr : Nat} (hs : s < R.cfg.sockets)
    (hmsr : msr ∈ loadedRegs R.flags) :
    (BitVec.ofNat 16 (pick s)).toNat = pick s ∧ (BitVec.ofNat 32 msr).toNat = msr := by
  have hlt := hcpus.lt s hs
  have hfits := hcpus.fits
  have hsmall := loadedRegs_lt hmsr
  rw [BitVec.toNat_ofNat, BitVec.toNat_ofNat]
  exact ⟨Nat.mod_eq_of_lt (by omega), Nat.mod_eq_of_lt hsmall⟩

/-- Loaded reads are flagged as reads, and at a poll none of them fails. -/
theorem loadedReads_ok (hcpus : SocketCpus R pick) (hready : PollReady R pick drv fd p)
    {a : OpArray} {k : Nat} (hops : ∀ i op, i < k → a.slots[i]? = some op → LoadedRead R pick op) :
    (∀ op ∈ a.slots.take k, op.isrdmsr = 1) ∧ ¬ SomeFails p.host.fails (a.slots.take k) := by
  have hmem : ∀ op ∈ a.slots.take k, LoadedRead R pick op := by
    intro op hop
    obtain ⟨i, hi⟩ := List.getElem?_of_mem hop
    have hik : i < k := by
      have := (List.getElem?_eq_some_iff.mp hi).1
      rw [List.length_take] at this
      omega
    rw [List.getElem?_take_of_lt hik] at hi
    exact hops i op hik hi
  refine ⟨fun op hop => (hmem op hop).1, ?_⟩
  rintro ⟨op, hop, hfail⟩
  obtain ⟨-, s, msr, hs, hmsr, hcpu, hreg⟩ := hmem op hop
  obtain ⟨hcpu', hreg'⟩ := hcpus.read_place hs hmsr
  rw [hcpu, hreg, hcpu', hreg', hready.readable s hs msr hmsr] at hfail
  exact Bool.false_ne_true hfail

/-- `read_batch` fetches the counters: pointers keep their op, which now holds
    the register. -/
theorem Wired.readBatch (hcpus : SocketCpus R pick) (hready : PollReady R pick drv fd p)
    {rapl : RaplData K} (hw : Wired R pick st rapl) :
    ∃ r, readBatch drv fd st p.host raplData = some r ∧ Wired R pick r.st rapl ∧
      ∀ ptr s msr, s < R.cfg.sockets → msr ∈ loadedRegs R.flags → PointsTo st ptr (pick s) msr →
        r.st.deref (some ptr) = some (p.host.regs (pick s) msr) := by
  obtain ⟨n, k, hk0, hfill⟩ := hw.filled
  obtain ⟨a, hentry, hlen, hkn, hops⟩ := hfill.entry
  obtain ⟨hflags, hok⟩ := loadedReads_ok hcpus hready hops
  obtain ⟨r, a', hread, hsized, hcap, hentry', hid, hlen', hfetch⟩ := readBatch_reads hready.serves
    hfill.sized hentry hk0 (by omega) hflags hok
  -- a pointer still leads to the op it led to, with the register in it
  have hkeep : ∀ ptr cpu msr, PointsTo st ptr cpu msr → ∃ op op', PointsTo r.st ptr cpu msr ∧
      op.cpu = BitVec.ofNat 16 cpu ∧ op.msr = BitVec.ofNat 32 msr ∧
      Fetched p.host.regs op op' ∧ r.st.opAt raplData ptr = some op' := by
    rintro ptr cpu msr ⟨k', a'', op, hentry'', hptr, hslot, hop, hcpu, hmsr⟩
    rw [hentry] at hentry''
    obtain ⟨rfl, rfl⟩ : k = k' ∧ a = a'' := by simpa using hentry''
    obtain ⟨op', hop', hf⟩ := hfetch ptr.slot op hslot hop
    refine ⟨op, op', ⟨k, a', op', hentry', by rw [hptr, hid], hslot, hop', ?_, ?_⟩, hcpu, hmsr,
      hf, ?_⟩
    · rw [hf.cpu, hcpu]
    · rw [hf.msr, hmsr]
    · rw [BatchStorage.opAt, hentry', Option.bind_some, if_pos (by rw [hid, hptr]), hop']
  refine ⟨r, hread,
    ⟨⟨n, k, hk0, hsized, ?_, a', hentry', by rw [hlen', hlen], hkn, ?_⟩, ?_, ?_⟩, ?_⟩
  · rw [hcap, hfill.capacity]
  · intro i op' hik hop'
    obtain ⟨op, hop⟩ : ∃ op, a.slots[i]? = some op :=
      ⟨_, List.getElem?_eq_getElem (by omega)⟩
    obtain ⟨op'', hop'', hf⟩ := hfetch i op hik hop
    obtain rfl := Option.some.inj (hop''.symm.trans hop')
    obtain ⟨hone, s, msr, hs, hmsr, hcpu, hreg⟩ := hops i op hik hop
    exact ⟨hf.isrdmsr.trans hone, s, msr, hs, hmsr, hf.cpu.trans hcpu, hf.msr.trans hreg⟩
  · obtain ⟨cells, hcells, hcount, hptr⟩ := hw.pkg
    refine ⟨cells, hcells, hcount, fun s c hc => ?_⟩
    obtain ⟨ptr, hbits, hpoints⟩ := hptr s c hc
    obtain ⟨-, -, hpoints', -⟩ := hkeep ptr _ _ hpoints
    exact ⟨ptr, hbits, hpoints'⟩
  · obtain ⟨cells, hcells, hcount, hptr⟩ := hw.dram
    refine ⟨cells, hcells, hcount, fun s c hc => ?_⟩
    obtain ⟨ptr, hbits, hpoints⟩ := hptr s c hc
    obtain ⟨-, -, hpoints', -⟩ := hkeep ptr _ _ hpoints
    exact ⟨ptr, hbits, hpoints'⟩
  · intro ptr s msr hs hmsr hpoints
    obtain ⟨op, op', -, hcpu, hreg, hf, hat⟩ := hkeep ptr _ _ hpoints
    obtain ⟨hcpu', hreg'⟩ := hcpus.read_place hs hmsr
    rw [BatchStorage.deref]
    simp only [Option.bind_eq_bind, Option.bind_some, hat, hf.msrdata, hcpu, hreg, hcpu', hreg']

/-- Replacing cells without touching their pointers keeps the connection. -/
theorem Wired.replaceCells {rapl : RaplData K} (hw : Wired R pick st rapl) (rapl' : RaplData K)
    {ps : List (PkgCell K)} {ds : List (DramCell K)} (hps : rapl.pkg = some ps)
    (hds : rapl.dram = some ds) {F : Nat → PkgCell K → PkgCell K}
    {G : Nat → DramCell K → DramCell K}
    (hF : ∀ s c, ps[s]? = some c → (F s c).bits = c.bits)
    (hG : ∀ s c, ds[s]? = some c → (G s c).bits = c.bits) (hps' : rapl'.pkg = some (ps.mapIdx F))
    (hds' : rapl'.dram = some (ds.mapIdx G)) : Wired R pick st rapl' := by
  obtain ⟨cells, hcells, hcount, hptr⟩ := hw.pkg
  obtain rfl := Option.some.inj (hps.symm.trans hcells)
  obtain ⟨cells', hcells', hcount', hptr'⟩ := hw.dram
  obtain rfl := Option.some.inj (hds.symm.trans hcells')
  refine ⟨hw.filled, ⟨_, hps', by rw [List.length_mapIdx, hcount], ?_⟩,
    ⟨_, hds', by rw [List.length_mapIdx, hcount'], ?_⟩⟩
  · intro s c hc
    obtain ⟨c₀, hc₀, rfl⟩ := Loops.mapIdx_getElem?_eq_some.mp hc
    rw [hF s c₀ hc₀]
    exact hptr s c₀ hc₀
  · intro s c hc
    obtain ⟨c₀, hc₀, rfl⟩ := Loops.mapIdx_getElem?_eq_some.mp hc
    rw [hG s c₀ hc₀]
    exact hptr' s c₀ hc₀

end Reading

/-! ## The loops of read_rapl_data and delta_rapl_data -/

section SocketLoops

variable [Field K] {R : RaplSetup K} {st : BatchStorage} (rapl : RaplData K)
  {ps : List (PkgCell K)} {ds : List (DramCell K)} (hps : rapl.pkg = some ps)
  (hds : rapl.dram = some ds) (hp : ps.length = R.cfg.sockets) (hd : ds.length = R.cfg.sockets)
include hps hds hp hd

theorem zeroJoules_loop :
    (List.range R.cfg.sockets).foldlM zeroJoules rapl =
      some { rapl with
        pkg := some (ps.mapIdx fun _ c => { c with joules := 0, oldJoules := 0 })
        dram := some (ds.mapIdx fun _ c => { c with joules := 0, oldJoules := 0 }) } := by
  refine foldlM_sockets hps hds hp hd _ _ fun k ps' ds' c d _ _ hc hd => ?_
  simp only [zeroJoules, updateAt_some hc, updateAt_some hd, Option.bind_eq_bind,
    Option.bind_some]

variable (hpkg : announces R.flags pkgEnergyStatus = true)
  (hdram : announces R.flags dramEnergyStatus = true)
include hpkg hdram

omit [Field K] in
/-- The loop over `moveToOld`, when the pointers lead to `pkgBits` and
    `dramBits`. -/
theorem moveToOld_loop {pkgBits dramBits : Nat → Word}
    (hpkgBits : ∀ s c, ps[s]? = some c → st.deref c.bits = some (pkgBits s))
    (hdramBits : ∀ s c, ds[s]? = some c → st.deref c.bits = some (dramBits s)) :
    (List.range R.cfg.sockets).foldlM (moveToOld R st) rapl =
      some { rapl with
        pkg := some (ps.mapIdx fun s c => { c with oldBits := pkgBits s, oldJoules := c.joules })
        dram := some (ds.mapIdx fun s c =>
          { c with oldBits := dramBits s, oldJoules := c.joules }) } := by
  refine foldlM_sockets hps hds hp hd _ _ fun k ps' ds' c d hc₀ hd₀ hc hd => ?_
  simp only [moveToOld, hpkg, hdram, if_true, updateAt_some hc, updateAt_some hd,
    hpkgBits k c hc₀, hdramBits k d hd₀, Option.bind_eq_bind, Option.bind_some]

theorem zeroWatts_loop :
    (List.range R.cfg.sockets).foldlM (zeroWatts R) rapl =
      some { rapl with
        pkg := some (ps.mapIdx fun _ c => { c with watts := 0 })
        dram := some (ds.mapIdx fun _ c => { c with watts := 0 }) } := by
  refine foldlM_sockets hps hds hp hd _ _ fun k ps' ds' c d _ _ hc hd => ?_
  simp only [zeroWatts, hpkg, hdram, if_true, updateAt_some hc, updateAt_some hd,
    Option.bind_eq_bind, Option.bind_some]

end SocketLoops

/-! ## Units -/

section Units

variable [Field K]

/-- Every socket's units come from its MSR_RAPL_POWER_UNIT. -/
def HasUnits (R : RaplSetup K) (raw : Nat → Word) : Prop :=
  ∀ s, s < R.cfg.sockets → R.ru[s]? = some (.ofMsr (raw s))

/-- Energy units in a joule, as `translate` divides by for the package. -/
def unitsPerJoule (raw : Word) : K := (RaplUnits.ofMsr raw : RaplUnits K).joules

/-- The same for DRAM. -/
def dramUnitsPerJoule (model : Nat) (raw : Word) : K :=
  if fixedDramUnit model then (65536 : Nat) else unitsPerJoule raw

variable [LinearOrder K] [FloorRing K] {model : Nat} {ru : List (RaplUnits K)} {s : Nat}
  {raw : Word}

theorem translate_bitsToJoules (hru : ru[s]? = some (.ofMsr raw)) (bits : Word) (units : K) :
    translate model ru s bits units .bitsToJoules =
      some (0, bits, (bits.toNat : K) / unitsPerJoule raw) := by
  simp only [translate, hru, Option.bind_eq_bind, Option.bind_some, unitsPerJoule]

theorem translate_bitsToJoulesDram (hru : ru[s]? = some (.ofMsr raw)) (bits : Word) (units : K) :
    translate model ru s bits units .bitsToJoulesDram =
      some (0, bits, (bits.toNat : K) / dramUnitsPerJoule model raw) := by
  by_cases hfixed : fixedDramUnit model = true
  · simp only [translate, dramUnitsPerJoule, if_pos hfixed, Nat.cast_ofNat]
  · simp only [translate, dramUnitsPerJoule, if_neg hfixed, hru, Option.bind_eq_bind,
      Option.bind_some, unitsPerJoule]

end Units

/-! ## Deltas -/

section Delta

variable [Field K] [LinearOrder K] [IsStrictOrderedRing K] [FloorRing K]

/-- The package delta for two readings, as the code computes it. -/
def pkgDeltaJoules (unit : K) (old new : Word) : K :=
  if new.toNat < old.toNat then ((new + BitVec.ofNat 64 maxJoules - old).toNat : K) / unit
  else (new.toNat : K) / unit - (old.toNat : K) / unit

/-- The DRAM delta. -/
def dramDeltaJoules (unit : K) (old new : Word) : K :=
  if (new.toNat : K) / unit - (old.toNat : K) / unit < 0 then
    (new.toNat : K) / unit + (maxJoules : K) - (old.toNat : K) / unit
  else (new.toNat : K) / unit - (old.toNat : K) / unit

/-- `pkgDelta` on a cell that holds the readings. -/
theorem pkgDelta_spec {R : RaplSetup K} {raw : Nat → Word} {s : Nat}
    (hru : R.ru[s]? = some (.ofMsr (raw s))) {st : BatchStorage} {c : PkgCell K} {new : Word}
    (hnew : st.deref c.bits = some new)
    (hjoules : c.joules = (new.toNat : K) / unitsPerJoule (raw s))
    (hold : c.oldJoules = (c.oldBits.toNat : K) / unitsPerJoule (raw s)) :
    ∃ c', pkgDelta R st s c = some c' ∧ c'.bits = c.bits ∧ c'.joules = c.joules ∧
      c'.deltaJoules = pkgDeltaJoules (unitsPerJoule (raw s)) c.oldBits new := by
  have hcmp : (new.toNat : K) - (c.oldBits.toNat : K) < 0 ↔ new.toNat < c.oldBits.toNat := by
    rw [sub_neg, Nat.cast_lt]
  by_cases hwrap : new.toNat < c.oldBits.toNat
  · refine ⟨{ c with
      deltaBits := new + BitVec.ofNat 64 maxJoules - c.oldBits
      deltaJoules := ((new + BitVec.ofNat 64 maxJoules - c.oldBits).toNat : K) /
        unitsPerJoule (raw s) }, ?_, rfl, rfl, ?_⟩
    · simp only [pkgDelta, hnew, Option.bind_eq_bind, Option.bind_some, if_pos (hcmp.mpr hwrap),
        translate_bitsToJoules hru]
    · rw [pkgDeltaJoules, if_pos hwrap]
  · refine ⟨{ c with deltaJoules := c.joules - c.oldJoules }, ?_, rfl, rfl, ?_⟩
    · simp only [pkgDelta, hnew, Option.bind_eq_bind, Option.bind_some, if_neg (mt hcmp.mp hwrap)]
    · rw [pkgDeltaJoules, if_neg hwrap]
      show c.joules - c.oldJoules = _
      rw [hjoules, hold]

omit [IsStrictOrderedRing K] [FloorRing K] in
/-- The DRAM delta of a cell that holds the readings. -/
theorem dramDelta_spec {unit : K} {c : DramCell K} {old new : Word}
    (hjoules : c.joules = (new.toNat : K) / unit) (hold : c.oldJoules = (old.toNat : K) / unit) :
    (dramDelta c).bits = c.bits ∧ (dramDelta c).joules = c.joules ∧
      (dramDelta c).deltaJoules = dramDeltaJoules unit old new := by
  unfold dramDelta dramDeltaJoules
  rw [← hjoules, ← hold]
  split
  · exact ⟨rfl, rfl, rfl⟩
  · exact ⟨rfl, rfl, rfl⟩

/-- The watts from the delta and the elapsed time. -/
def PkgCell.withWatts (elapsed : K) (c : PkgCell K) : PkgCell K :=
  { c with watts := if 0 < elapsed then c.deltaJoules / elapsed else 0 }

@[inherit_doc PkgCell.withWatts]
def DramCell.withWatts (elapsed : K) (c : DramCell K) : DramCell K :=
  { c with watts := if 0 < elapsed then c.deltaJoules / elapsed else 0 }

section DeltaLoops

variable {R : RaplSetup K} {raw : Nat → Word} (hunits : HasUnits R raw) {st : BatchStorage}
  {rapl : RaplData K} {ps : List (PkgCell K)} {ds : List (DramCell K)} (hps : rapl.pkg = some ps)
  (hds : rapl.dram = some ds) (hp : ps.length = R.cfg.sockets) (hd : ds.length = R.cfg.sockets)
  (hpkg : announces R.flags pkgEnergyStatus = true)
  (hdram : announces R.flags dramEnergyStatus = true)
include hunits hps hds hp hd hpkg hdram

omit [IsStrictOrderedRing K] in
/-- The loop over `translateReadings`, when the pointers lead to `pkgBits` and
    `dramBits`. -/
theorem translateReadings_loop {pkgBits dramBits : Nat → Word}
    (hpkgBits : ∀ s c, ps[s]? = some c → st.deref c.bits = some (pkgBits s))
    (hdramBits : ∀ s c, ds[s]? = some c → st.deref c.bits = some (dramBits s)) :
    (List.range R.cfg.sockets).foldlM (translateReadings R st) rapl =
      some { rapl with
        pkg := some (ps.mapIdx fun s c =>
          { c with joules := ((pkgBits s).toNat : K) / unitsPerJoule (raw s) })
        dram := some (ds.mapIdx fun s c =>
          { c with joules := ((dramBits s).toNat : K) / dramUnitsPerJoule R.model (raw s) }) } := by
  refine foldlM_sockets hps hds hp hd _ _ fun k ps' ds' c d hc₀ hd₀ hc hd => ?_
  have hru := hunits k (by rw [← hp]; exact (List.getElem?_eq_some_iff.mp hc₀).1)
  simp only [translateReadings, hpkg, hdram, if_true, updateAt_some hc, updateAt_some hd,
    hpkgBits k c hc₀, hdramBits k d hd₀, translate_bitsToJoules hru,
    translate_bitsToJoulesDram hru, Option.bind_eq_bind, Option.bind_some]

omit hunits [IsStrictOrderedRing K] in
/-- The loop over `deltaSocket`, when the package delta is defined for every
    socket. -/
theorem deltaSocket_loop {F : Nat → PkgCell K → PkgCell K}
    (hdelta : ∀ s c, ps[s]? = some c → pkgDelta R st s c = some (F s c)) :
    (List.range R.cfg.sockets).foldlM (deltaSocket R st) rapl =
      some { rapl with
        pkg := some (ps.mapIdx fun s c => (F s c).withWatts rapl.elapsed)
        dram := some (ds.mapIdx fun _ c => (dramDelta c).withWatts rapl.elapsed) } := by
  refine foldlM_sockets hps hds hp hd _ _ fun k ps' ds' c d hc₀ hd₀ hc hd => ?_
  have hc' : (ps'.set k (F k c))[k]? = some (F k c) :=
    List.getElem?_set_self (List.getElem?_eq_some_iff.mp hc).1
  have hd' : (ds'.set k (dramDelta d))[k]? = some (dramDelta d) :=
    List.getElem?_set_self (List.getElem?_eq_some_iff.mp hd).1
  by_cases helapsed : 0 < rapl.elapsed
  · simp only [deltaSocket, hpkg, hdram, if_true, updateAt_some hc, updateAt_some hd,
      hdelta k c hc₀, if_pos helapsed, updateAt_some hc', updateAt_some hd', List.set_set,
      PkgCell.withWatts, DramCell.withWatts, Option.bind_eq_bind, Option.bind_some]
  · simp only [deltaSocket, hpkg, hdram, if_true, updateAt_some hc, updateAt_some hd,
      hdelta k c hc₀, if_neg helapsed, updateAt_some hc', updateAt_some hd', List.set_set,
      PkgCell.withWatts, DramCell.withWatts, Option.bind_eq_bind, Option.bind_some]

end DeltaLoops

end Delta

end EnergyLoops

end Libmsr
