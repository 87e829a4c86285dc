/-
  Libmsr.Rapl.EnergyArrays

  Which arrays `read_rapl_data`, `delta_rapl_data` and `poll_rapl_data` go through,
  in any order of calls after `rapl_init`, and whatever the batch driver answers.

  - `Arrays R st rapl`: the arrays of both domains are there, and the pointers in
    them lead to ops of a batch inside its array.
  - `energyStep_arrays`: every call keeps this.
  - `energySafe_along_iff`: which sequences of calls stay inside what
    `create_rapl_data_batch` allocated.
-/
import Libmsr.Rapl.EnergyRuns
import Libmsr.Rapl.Flags

namespace Libmsr

section EnergyArrays

variable {K : Type} [Field K] [LinearOrder K] [FloorRing K]

/-! ## Calls -/

/-- A call of one of the measuring functions. -/
inductive EnergyCall where
  | read (p : Poll)
  | delta
  | poll (p : Poll)

/-- One call. -/
def energyStep (R : RaplSetup K) (drv : BatchDriver) (fd : Int) (S : EnergyState K) :
    EnergyCall → Option (EnergyState K)
  | .read p => readRaplData R drv fd S p
  | .delta => deltaRaplData R S
  | .poll p => pollRaplData R drv fd S p

/-- Batch `RAPL_DATA` has no more ops than its array. -/
def RaplDataFits (st : BatchStorage) : Prop :=
  (st.entry raplData).numops ≤ (st.entry raplData).length

/-- The call stays inside what was allocated: it returns, and has not overfilled the
    batch. -/
def EnergySafe (R : RaplSetup K) (drv : BatchDriver) (fd : Int) (S : EnergyState K)
    (c : EnergyCall) : Prop :=
  ∃ S', energyStep R drv fd S c = some S' ∧ RaplDataFits S'.st

/-- The orders of calls that the functions are made for, with the flags at hand. -/
def SafeOrder (flags : Word) : List EnergyCall → Prop
  | [] => True
  | .delta :: calls => announces flags pkgEnergyStatus = false ∧
      announces flags dramEnergyStatus = false ∧ calls = []
  | .read _ :: _ => EnergyAnnounced flags
  | .poll _ :: _ => EnergyAnnounced flags

/-! ## Arrays -/

section Cells

variable {γ : Type} {Q : γ → Prop} {n s : Nat} {arr : Option (List γ)} {f : γ → Option γ}

/-- The array is there, with `n` elements that satisfy `Q`. -/
def HasCells (n : Nat) (Q : γ → Prop) (arr : Option (List γ)) : Prop :=
  ∃ cells, arr = some cells ∧ cells.length = n ∧ ∀ c ∈ cells, Q c

/-- An element of such an array, which may be replaced. -/
theorem HasCells.cell (h : HasCells n Q arr) (hs : s < n) :
    ∃ cells c, arr = some cells ∧ cells[s]? = some c ∧ Q c ∧
      ∀ c', Q c' → HasCells n Q (some (cells.set s c')) := by
  obtain ⟨cells, rfl, hlen, hcells⟩ := h
  have hlt : s < cells.length := hlen ▸ hs
  refine ⟨cells, cells[s], rfl, List.getElem?_eq_getElem hlt, hcells _ (List.getElem_mem hlt),
    fun c' hQ => ⟨_, rfl, ?_, fun c hc => ?_⟩⟩
  · rw [List.length_set, hlen]
  · rcases List.mem_or_eq_of_mem_set hc with hc | rfl
    · exact hcells c hc
    · exact hQ

/-- Work on an element of such an array. -/
theorem HasCells.updateAt (h : HasCells n Q arr) (hs : s < n)
    (hf : ∀ c, Q c → ∃ c', f c = some c' ∧ Q c') :
    ∃ arr', updateAt arr s f = some arr' ∧ HasCells n Q arr' := by
  obtain ⟨cells, c, rfl, hget, hQ, hset⟩ := h.cell hs
  obtain ⟨c', hc', hQ'⟩ := hf c hQ
  refine ⟨some (cells.set s c'), ?_, hset c' hQ'⟩
  rw [updateAt_some hget, hc', Option.bind_some]

/-- An array that is not there. -/
theorem updateAt_absent (s : Nat) (f : γ → Option γ) : updateAt none s f = none := rfl

end Cells

/-- The pointer leads to an op of the batch. -/
def Leads (st : BatchStorage) (p : Option Ptr) : Prop := ∃ w, st.deref p = some w

/-- The batch is filled inside its array, and the arrays of both domains are there with
    pointers into it. -/
structure Arrays (R : RaplSetup K) (st : BatchStorage) (rapl : RaplData K) : Prop where
  pkg : HasCells R.cfg.sockets (fun c => Leads st c.bits) rapl.pkg
  dram : HasCells R.cfg.sockets (fun c => Leads st c.bits) rapl.dram

section Loops

variable {R : RaplSetup K} {raw : Nat → Word} {st : BatchStorage} {rapl : RaplData K} {s : Nat}

omit [LinearOrder K] [FloorRing K] in
theorem Arrays.zeroJoules (h : Arrays R st rapl) (hs : s < R.cfg.sockets) :
    ∃ rapl', zeroJoules rapl s = some rapl' ∧ Arrays R st rapl' := by
  obtain ⟨pkg, hpkg, hpkg'⟩ := h.pkg.updateAt hs
    (f := fun c => some { c with joules := 0, oldJoules := 0 }) fun c hc => ⟨_, rfl, hc⟩
  obtain ⟨dram, hdram, hdram'⟩ := h.dram.updateAt hs
    (f := fun c => some { c with joules := 0, oldJoules := 0 }) fun c hc => ⟨_, rfl, hc⟩
  refine ⟨{ rapl with pkg := pkg, dram := dram }, ?_, hpkg', hdram'⟩
  simp only [Libmsr.zeroJoules, hpkg, hdram, Option.bind_eq_bind, Option.bind_some]

omit [Field K] [LinearOrder K] [FloorRing K] in
theorem Arrays.moveToOld (hann : EnergyAnnounced R.flags) (h : Arrays R st rapl)
    (hs : s < R.cfg.sockets) :
    ∃ rapl', moveToOld R st rapl s = some rapl' ∧ Arrays R st rapl' := by
  obtain ⟨pkg, hpkg, hpkg'⟩ := h.pkg.updateAt hs
    (f := fun c => do
      let bits ← st.deref c.bits
      some { c with oldBits := bits, oldJoules := c.joules }) fun c hc => by
    obtain ⟨w, hw⟩ := hc
    exact ⟨{ c with oldBits := w, oldJoules := c.joules }, by rw [hw]; rfl, w, hw⟩
  obtain ⟨dram, hdram, hdram'⟩ := h.dram.updateAt hs
    (f := fun c => do
      let bits ← st.deref c.bits
      some { c with oldBits := bits, oldJoules := c.joules }) fun c hc => by
    obtain ⟨w, hw⟩ := hc
    exact ⟨{ c with oldBits := w, oldJoules := c.joules }, by rw [hw]; rfl, w, hw⟩
  refine ⟨{ rapl with pkg := pkg, dram := dram }, ?_, hpkg', hdram'⟩
  simp only [Option.bind_eq_bind] at hpkg hdram
  simp only [Libmsr.moveToOld, hann.1, hann.2, if_true, hpkg, hdram, Option.bind_eq_bind,
    Option.bind_some]

theorem Arrays.translateReadings (hann : EnergyAnnounced R.flags) (h : Arrays R st rapl)
    (hunits : HasUnits R raw) (hs : s < R.cfg.sockets) :
    ∃ rapl', translateReadings R st rapl s = some rapl' ∧ Arrays R st rapl' := by
  have hru := hunits s hs
  obtain ⟨pkgs, c, hpkgs, hc, ⟨w, hw⟩, hpkg⟩ := h.pkg.cell hs
  obtain ⟨drams, d, hdrams, hd, ⟨v, hv⟩, hdram⟩ := h.dram.cell hs
  let c' := { c with joules := (w.toNat : K) / unitsPerJoule (raw s) }
  let d' := { d with joules := (v.toNat : K) / dramUnitsPerJoule R.model (raw s) }
  refine ⟨{ rapl with pkg := some (pkgs.set s c'), dram := some (drams.set s d') }, ?_,
    hpkg c' ⟨w, hw⟩, hdram d' ⟨v, hv⟩⟩
  simp only [Libmsr.translateReadings, hann.1, hann.2, if_true, hpkgs, hdrams, updateAt_some hc,
    updateAt_some hd, hw, hv, translate_bitsToJoules hru, translate_bitsToJoulesDram hru,
    Option.bind_eq_bind, Option.bind_some]
  rfl

omit [LinearOrder K] [FloorRing K] in
theorem Arrays.zeroWatts (hann : EnergyAnnounced R.flags) (h : Arrays R st rapl)
    (hs : s < R.cfg.sockets) :
    ∃ rapl', zeroWatts R rapl s = some rapl' ∧ Arrays R st rapl' := by
  obtain ⟨pkg, hpkg, hpkg'⟩ := h.pkg.updateAt hs
    (f := fun c => some { c with watts := 0 }) fun c hc => ⟨_, rfl, hc⟩
  obtain ⟨dram, hdram, hdram'⟩ := h.dram.updateAt hs
    (f := fun c => some { c with watts := 0 }) fun c hc => ⟨_, rfl, hc⟩
  refine ⟨{ rapl with pkg := pkg, dram := dram }, ?_, hpkg', hdram'⟩
  simp only [Libmsr.zeroWatts, hann.1, hann.2, if_true, hpkg, hdram, Option.bind_eq_bind,
    Option.bind_some]

/-- The package delta is defined where the pointer leads to an op. -/
theorem pkgDelta_leads (hunits : HasUnits R raw) (hs : s < R.cfg.sockets) {c : PkgCell K}
    (hc : Leads st c.bits) : ∃ c', pkgDelta R st s c = some c' ∧ Leads st c'.bits := by
  obtain ⟨w, hw⟩ := hc
  simp only [pkgDelta, hw, Option.bind_eq_bind, Option.bind_some]
  split
  · simp only [translate_bitsToJoules (hunits s hs), Option.bind_some]
    exact ⟨_, rfl, w, hw⟩
  · exact ⟨_, rfl, w, hw⟩

omit [FloorRing K] in
theorem dramDelta_bits (c : DramCell K) : (dramDelta c).bits = c.bits := by
  rw [dramDelta]
  split
  · rfl
  · rfl

theorem Arrays.deltaSocket (hann : EnergyAnnounced R.flags) (h : Arrays R st rapl)
    (hunits : HasUnits R raw) (hs : s < R.cfg.sockets) :
    ∃ rapl', deltaSocket R st rapl s = some rapl' ∧ Arrays R st rapl' := by
  obtain ⟨pkg, hpkg, hpkg'⟩ := h.pkg.updateAt hs
    (f := pkgDelta R st s) fun c hc => pkgDelta_leads hunits hs hc
  obtain ⟨dram, hdram, hdram'⟩ := h.dram.updateAt hs
    (f := fun c => some (dramDelta c)) fun c hc => ⟨_, rfl, by rw [dramDelta_bits]; exact hc⟩
  by_cases helapsed : 0 < rapl.elapsed
  · obtain ⟨pkg₁, hpkg₁, hpkg₁'⟩ := hpkg'.updateAt hs
      (f := fun c => some { c with watts := c.deltaJoules / rapl.elapsed }) fun c hc => ⟨_, rfl, hc⟩
    obtain ⟨dram₁, hdram₁, hdram₁'⟩ := hdram'.updateAt hs
      (f := fun c => some { c with watts := c.deltaJoules / rapl.elapsed }) fun c hc => ⟨_, rfl, hc⟩
    refine ⟨{ rapl with pkg := pkg₁, dram := dram₁ }, ?_, hpkg₁', hdram₁'⟩
    simp only [Libmsr.deltaSocket, hann.1, hann.2, if_true, hpkg, hdram, if_pos helapsed, hpkg₁,
      hdram₁, Option.bind_eq_bind, Option.bind_some]
  · -- the watts of the package are set whatever the flags say
    obtain ⟨pkg₁, hpkg₁, hpkg₁'⟩ := hpkg'.updateAt hs
      (f := fun c => some { c with watts := 0 }) fun c hc => ⟨_, rfl, hc⟩
    obtain ⟨dram₁, hdram₁, hdram₁'⟩ := hdram'.updateAt hs
      (f := fun c => some { c with watts := 0 }) fun c hc => ⟨_, rfl, hc⟩
    refine ⟨{ rapl with pkg := pkg₁, dram := dram₁ }, ?_, hpkg₁', hdram₁'⟩
    simp only [Libmsr.deltaSocket, hann.1, hann.2, if_true, hpkg, hdram, if_neg helapsed, hpkg₁,
      hdram₁, Option.bind_eq_bind, Option.bind_some]

omit [Field K] [LinearOrder K] [FloorRing K] in
/-- **Socket loop.**  A body that works on the socket's own elements stays inside the
    arrays. -/
theorem Arrays.loop (h : Arrays R st rapl) (body : RaplData K → Nat → Option (RaplData K))
    (hbody : ∀ rapl s, Arrays R st rapl → s < R.cfg.sockets →
      ∃ rapl', body rapl s = some rapl' ∧ Arrays R st rapl') :
    ∃ rapl', (List.range R.cfg.sockets).foldlM body rapl = some rapl' ∧ Arrays R st rapl' :=
  Loops.foldlM_range_inv body (fun _ rapl => Arrays R st rapl) R.cfg.sockets rapl h
    fun s hs rapl h => hbody rapl s h hs

end Loops

/-! ## The batch -/

section Batch

variable {R : RaplSetup K} {st : BatchStorage} {a : OpArray} {k : Nat}

/-- The batch counts at least one op, inside its array. -/
def RaplDataFilled (st : BatchStorage) (k : Nat) (a : OpArray) : Prop :=
  st.Sized ∧ st.entry raplData = ⟨k, some a⟩ ∧ 0 < k ∧ k ≤ a.slots.length

theorem RaplDataFilled.fits (h : RaplDataFilled st k a) : RaplDataFits st := by
  rw [RaplDataFits, h.2.1]
  exact h.2.2.2

/-- Where a pointer leads depends on the allocation and its length only. -/
theorem RaplDataFilled.leads_iff (h : RaplDataFilled st k a) (p : Option Ptr) :
    Leads st p ↔ ∃ ptr, p = some ptr ∧ a.id = ptr.id ∧ ptr.slot < a.slots.length := by
  cases p with
  | none =>
    constructor
    · rintro ⟨w, hw⟩
      contradiction
    · rintro ⟨ptr, hp, -⟩
      contradiction
  | some ptr =>
    have hderef : st.deref (some ptr) =
        (if a.id = ptr.id then a.slots[ptr.slot]? else none).map MsrBatchOp.msrdata := by
      rw [BatchStorage.deref]
      simp only [Option.bind_eq_bind, Option.bind_some, BatchStorage.opAt, h.2.1]
      exact Option.map_eq_bind.symm
    rw [Leads, hderef]
    constructor
    · rintro ⟨w, hw⟩
      obtain ⟨op, hop, -⟩ := Option.map_eq_some_iff.mp hw
      split at hop
      · rename_i hid
        exact ⟨ptr, rfl, hid, (List.getElem?_eq_some_iff.mp hop).1⟩
      · contradiction
    · rintro ⟨ptr', heq, hid, hlt⟩
      obtain rfl := Option.some.inj heq
      exact ⟨_, by rw [if_pos hid, List.getElem?_eq_getElem hlt, Option.map_some]⟩

/-- Whatever the driver answers, `read_batch` leaves the array where it is. -/
theorem RaplDataFilled.readBatch (h : RaplDataFilled st k a) (drv : BatchDriver) (fd : Int)
    (host : Host) :
    ∃ r a', readBatch drv fd st host raplData = some r ∧ RaplDataFilled r.st k a' ∧
      a'.id = a.id ∧ a'.slots.length = a.slots.length := by
  obtain ⟨hsized, hentry, hpos, hlen⟩ := h
  have hops : (st.entry raplData).ops = some a := by rw [hentry]
  have hnum : (st.entry raplData).numops = k := by rw [hentry]
  rw [← hnum] at hpos hlen
  obtain ⟨r, ops, hr, hcount, hup, -⟩ := readBatch_overwrites drv fd hsized hpos hops hlen host
  have hsame : (a.overwrite ops).slots.length = a.slots.length :=
    a.overwrite_length (hcount ▸ hlen)
  rw [hnum] at hpos hlen hup
  exact ⟨r, a.overwrite ops, hr, ⟨hup.sized, hup.entry, hpos, hsame ▸ hlen⟩, rfl, hsame⟩

omit [Field K] [LinearOrder K] [FloorRing K] in
/-- So the arrays stay in order. -/
theorem RaplDataFilled.arrays {st' : BatchStorage} {a' : OpArray} (h : RaplDataFilled st k a)
    (h' : RaplDataFilled st' k a') (hid : a'.id = a.id) (hlen : a'.slots.length = a.slots.length)
    {rapl : RaplData K} (harr : Arrays R st rapl) : Arrays R st' rapl := by
  have hsame : ∀ p, Leads st p → Leads st' p := by
    intro p hp
    rw [h'.leads_iff, hid, hlen]
    exact (h.leads_iff p).mp hp
  obtain ⟨⟨ps, hps, hp, hpkg⟩, ds, hds, hd, hdram⟩ := harr
  exact ⟨⟨ps, hps, hp, fun c hc => hsame _ (hpkg c hc)⟩,
    ⟨ds, hds, hd, fun c hc => hsame _ (hdram c hc)⟩⟩

omit [Field K] [LinearOrder K] [FloorRing K] in
/-- What `create_rapl_data_batch` sets up is in order. -/
theorem Wired.arrays {pick : Nat → Nat} {rapl : RaplData K} (hw : Wired R pick st rapl) :
    (∃ k a, RaplDataFilled st k a) ∧ Arrays R st rapl := by
  obtain ⟨n, k, hpos, hfill⟩ := hw.filled
  obtain ⟨a, hentry, hlen, hkn, -⟩ := hfill.entry
  have hfilled : RaplDataFilled st k a := ⟨hfill.sized, hentry, hpos, hlen ▸ hkn⟩
  have hleads : ∀ p cpu msr, PointsTo st p cpu msr → Leads st (some p) := by
    rintro p cpu msr ⟨k', a', op, hentry', hid, -, hop, -⟩
    rw [hentry] at hentry'
    obtain ⟨rfl, rfl⟩ : k = k' ∧ a = a' := by simpa using hentry'
    exact (hfilled.leads_iff _).mpr ⟨p, rfl, hid.symm, (List.getElem?_eq_some_iff.mp hop).1⟩
  obtain ⟨ps, hps, hp, hpkg⟩ := hw.pkg
  obtain ⟨ds, hds, hd, hdram⟩ := hw.dram
  refine ⟨⟨k, a, hfilled⟩, ⟨ps, hps, hp, fun c hc => ?_⟩, ⟨ds, hds, hd, fun c hc => ?_⟩⟩
  · obtain ⟨s, hs⟩ := List.getElem?_of_mem hc
    obtain ⟨ptr, hbits, hpoints⟩ := hpkg s c hs
    rw [hbits]
    exact hleads _ _ _ hpoints
  · obtain ⟨s, hs⟩ := List.getElem?_of_mem hc
    obtain ⟨ptr, hbits, hpoints⟩ := hdram s c hs
    rw [hbits]
    exact hleads _ _ _ hpoints

end Batch

/-! ## Calls on a machine with both energy registers -/

section Calls

variable {R : RaplSetup K} {raw : Nat → Word} {pick : Nat → Nat} {drv : BatchDriver} {fd : Int}
  {S : EnergyState K}

/-- The state after the first `read_rapl_data`, and ever after. -/
structure Measuring (R : RaplSetup K) (S : EnergyState K) : Prop where
  filled : ∃ k a, RaplDataFilled S.st k a
  arrays : Arrays R S.st S.rapl
  readInit : S.readInit = true

variable (drv fd) in
/-- The end of `read_rapl_data`. -/
theorem readAndTranslate_arrays (hann : EnergyAnnounced R.flags) (hunits : HasUnits R raw)
    {st : BatchStorage} {rapl : RaplData K} (hfilled : ∃ k a, RaplDataFilled st k a)
    (harr : Arrays R st rapl) (host : Host) :
    ∃ r rapl', readBatch drv fd st host raplData = some r ∧
      (List.range R.cfg.sockets).foldlM (translateReadings R r.st) rapl = some rapl' ∧
      (∃ k a, RaplDataFilled r.st k a) ∧ Arrays R r.st rapl' := by
  obtain ⟨k, a, hfilled⟩ := hfilled
  obtain ⟨r, a', hread, hfilled', hid, hlen⟩ := hfilled.readBatch drv fd host
  have harr' := hfilled.arrays hfilled' hid hlen harr
  obtain ⟨rapl', hloop, harr''⟩ := harr'.loop (translateReadings R r.st)
    fun rapl s h hs => h.translateReadings hann hunits hs
  exact ⟨r, rapl', hread, hloop, ⟨k, a', hfilled'⟩, harr''⟩

variable (drv fd) in
theorem Measuring.read (hann : EnergyAnnounced R.flags) (hunits : HasUnits R raw)
    (hS : Measuring R S) (p : Poll) :
    ∃ S', readRaplData R drv fd S p = some S' ∧ Measuring R S' := by
  have harr : Arrays R S.st { S.rapl with
      oldNow := S.rapl.now, now := p.now, elapsed := elapsedSeconds p.now S.rapl.now } :=
    ⟨hS.arrays.pkg, hS.arrays.dram⟩
  obtain ⟨rapl₁, hmove, harr₁⟩ := harr.loop (moveToOld R S.st)
    fun rapl s h hs => h.moveToOld hann hs
  obtain ⟨r, rapl₂, hread, htrans, hfilled, harr₂⟩ :=
    readAndTranslate_arrays drv fd hann hunits hS.filled harr₁ p.host
  refine ⟨{ S with st := r.st, rapl := rapl₂, readInit := true }, ?_, hfilled, harr₂, rfl⟩
  simp only [readRaplData, hS.readInit, if_true, Option.bind_eq_bind, Option.bind_some, hmove,
    hread, htrans]

variable (drv fd) in
/-- The first `read_rapl_data`, which allocates. -/
theorem readRaplData_first (hann : EnergyAnnounced R.flags) (hcpus : SocketCpus R pick)
    (hunits : HasUnits R raw) (hpos : 0 < R.cfg.sockets) (hS : S.Fresh) (p : Poll) :
    ∃ S', readRaplData R drv fd S p = some S' ∧ Measuring R S' := by
  obtain ⟨st₀, rapl₀, hcreate, hw⟩ := createRaplDataBatch_spec hcpus hpos
    (hcpus.sockets_le hpos) hS.sized hS.empty hann.1 hann.2 S.rapl
  obtain ⟨hfilled, harr⟩ := hw.arrays
  have harr₀ : Arrays R st₀ { rapl₀ with now := ⟨0, 0⟩, oldNow := ⟨0, 0⟩, elapsed := 0 } :=
    ⟨harr.pkg, harr.dram⟩
  obtain ⟨rapl₁, hzero, harr₁⟩ := harr₀.loop zeroJoules
    fun rapl s h hs => h.zeroJoules hs
  have harr₁' : Arrays R st₀ { rapl₁ with oldNow := rapl₁.now, now := p.now } :=
    ⟨harr₁.pkg, harr₁.dram⟩
  obtain ⟨r, rapl₂, hread, htrans, hfilled', harr₂⟩ :=
    readAndTranslate_arrays drv fd hann hunits hfilled harr₁' p.host
  refine ⟨{ S with st := r.st, rapl := rapl₂, readInit := true }, ?_, hfilled', harr₂, rfl⟩
  simp only [readRaplData, initRaplData, hS.readInit, Bool.false_eq_true, if_false,
    Option.bind_eq_bind, Option.bind_some, hcreate, hzero, hread, htrans]

theorem Measuring.delta (hann : EnergyAnnounced R.flags) (hunits : HasUnits R raw)
    (hS : Measuring R S) : ∃ S', deltaRaplData R S = some S' ∧ Measuring R S' := by
  cases hinit : S.deltaInit with
  | false =>
    obtain ⟨rapl, hloop, harr⟩ := hS.arrays.loop (zeroWatts R)
      fun rapl s h hs => h.zeroWatts hann hs
    refine ⟨{ S with rapl := { rapl with elapsed := 0 }, deltaInit := true }, ?_, hS.filled,
      ⟨harr.pkg, harr.dram⟩, hS.readInit⟩
    simp only [deltaRaplData, hinit, Bool.not_false, if_true, hloop, Option.bind_eq_bind,
      Option.bind_some]
  | true =>
    obtain ⟨rapl, hloop, harr⟩ := hS.arrays.loop (deltaSocket R S.st)
      fun rapl s h hs => h.deltaSocket hann hunits hs
    refine ⟨{ S with rapl := rapl }, ?_, hS.filled, harr, hS.readInit⟩
    simp only [deltaRaplData, hinit, Bool.not_true, Bool.false_eq_true, if_false, hloop,
      Option.bind_eq_bind, Option.bind_some]

variable (drv fd) in
/-- **Step lemma.**  After the first read, every call stays inside the arrays. -/
theorem energyStep_arrays (hann : EnergyAnnounced R.flags) (hunits : HasUnits R raw)
    (hS : Measuring R S) (c : EnergyCall) :
    ∃ S', energyStep R drv fd S c = some S' ∧ Measuring R S' := by
  cases c with
  | read p => exact hS.read drv fd hann hunits p
  | delta => exact hS.delta hann hunits
  | poll p =>
    obtain ⟨S₁, hread, hS₁⟩ := hS.read drv fd hann hunits p
    obtain ⟨S₂, hdelta, hS₂⟩ := hS₁.delta hann hunits
    refine ⟨S₂, ?_, hS₂⟩
    simp only [energyStep, pollRaplData, hread, hdelta, Option.bind_eq_bind, Option.bind_some]

omit [Field K] [LinearOrder K] [FloorRing K] in
theorem Measuring.safe (hS : Measuring R S) : RaplDataFits S.st := by
  obtain ⟨k, a, hfilled⟩ := hS.filled
  exact hfilled.fits

/-- **Run lemma.** -/
theorem energySafe_along (hann : EnergyAnnounced R.flags) (hunits : HasUnits R raw)
    (hS : Measuring R S) (calls : List EnergyCall) :
    Runs.Along (energyStep R drv fd) (EnergySafe R drv fd) S calls := by
  induction calls generalizing S with
  | nil => trivial
  | cons c calls ih =>
    obtain ⟨S', hstep, hS'⟩ := energyStep_arrays drv fd hann hunits hS c
    exact .cons ⟨S', hstep, hS'.safe⟩ hstep (ih hS')

/-! ## All orders of calls -/

/-- Without the arrays, clearing the watts of an announced domain fails. -/
theorem deltaRaplData_first_absent (hpos : 0 < R.cfg.sockets) (hS : S.Fresh)
    (hsome : announces R.flags pkgEnergyStatus = true ∨
      announces R.flags dramEnergyStatus = true) : deltaRaplData R S = none := by
  obtain ⟨n, hn⟩ : ∃ n, R.cfg.sockets = n + 1 := ⟨R.cfg.sockets - 1, by omega⟩
  have hbody : zeroWatts R S.rapl 0 = none := by
    by_cases hpkg : announces R.flags pkgEnergyStatus = true
    · simp only [zeroWatts, hpkg, if_true, hS.pkg, updateAt_absent, Option.bind_eq_bind,
        Option.bind_none]
    · have hdram := hsome.resolve_left hpkg
      simp only [zeroWatts, if_neg hpkg, hdram, if_true, hS.dram, updateAt_absent,
        Option.bind_eq_bind, Option.bind_some, Option.bind_none]
  simp only [deltaRaplData, hS.deltaInit, Bool.not_false, if_true, hn, List.range_succ_eq_map,
    List.foldlM_cons, hbody, Option.bind_eq_bind, Option.bind_none]

/-- With no energy register there is nothing to clear. -/
theorem deltaRaplData_first_bare (hS : S.Fresh)
    (hpkg : announces R.flags pkgEnergyStatus = false)
    (hdram : announces R.flags dramEnergyStatus = false) :
    deltaRaplData R S =
      some { S with rapl := { S.rapl with elapsed := 0 }, deltaInit := true } := by
  have hbody : ∀ rapl : RaplData K, ∀ s, zeroWatts R rapl s = some rapl := by
    intro rapl s
    simp only [zeroWatts, hpkg, hdram, Bool.false_eq_true, if_false, Option.bind_eq_bind,
      Option.bind_some]
  have hloop : (List.range R.cfg.sockets).foldlM (zeroWatts R) S.rapl = some S.rapl := by
    obtain ⟨rapl, hrapl, rfl⟩ := Loops.foldlM_range_inv (zeroWatts R) (fun _ rapl => rapl = S.rapl)
      R.cfg.sockets S.rapl rfl fun s _ rapl h => ⟨rapl, hbody rapl s, h⟩
    exact hrapl
  simp only [deltaRaplData, hS.deltaInit, Bool.not_false, if_true, hloop, Option.bind_eq_bind,
    Option.bind_some]

/-- But the next call goes through an array that is not there. -/
theorem energyStep_bare (hpos : 0 < R.cfg.sockets) (hpkg₀ : S.rapl.pkg = none)
    (hdram₀ : S.rapl.dram = none) (hread : S.readInit = false) (hdelta : S.deltaInit = true)
    (helapsed : S.rapl.elapsed = 0) (hpkg : announces R.flags pkgEnergyStatus = false)
    (hdram : announces R.flags dramEnergyStatus = false) (c : EnergyCall) :
    energyStep R drv fd S c = none := by
  have hnone : ∀ p, readRaplData R drv fd S p = none := fun p =>
    readRaplData_absent hpos hpkg₀ hdram₀ hread (.inl hpkg) drv fd p
  cases c with
  | read p => exact hnone p
  | poll p => simp only [energyStep, pollRaplData, hnone, Option.bind_eq_bind, Option.bind_none]
  | delta =>
    obtain ⟨n, hn⟩ : ∃ n, R.cfg.sockets = n + 1 := ⟨R.cfg.sockets - 1, by omega⟩
    -- the watts of the package are set to 0 although it is not announced
    have hbody : deltaSocket R S.st S.rapl 0 = none := by
      simp only [deltaSocket, hpkg, hdram, helapsed, lt_irrefl, Bool.false_eq_true, if_false,
        hpkg₀, updateAt_absent, Option.bind_eq_bind, Option.bind_some, Option.bind_none]
    simp only [energyStep, deltaRaplData, hdelta, Bool.not_true, Bool.false_eq_true, if_false, hn,
      List.range_succ_eq_map, List.foldlM_cons, hbody, Option.bind_eq_bind, Option.bind_none]

/-- A call without outcome is not safe. -/
theorem not_energySafe {c : EnergyCall} (h : energyStep R drv fd S c = none) :
    ¬ EnergySafe R drv fd S c := by
  rintro ⟨S', hS', -⟩
  rw [h] at hS'
  contradiction

omit [Field K] [LinearOrder K] [FloorRing K] in
theorem EnergyState.Fresh.fits (hS : S.Fresh) : RaplDataFits S.st := by
  rw [RaplDataFits, hS.empty]
  exact Nat.le_refl 0

/-- A first call that reads is safe, with all that follow, exactly where both registers
    are announced. -/
theorem energySafe_first_iff (hunits : HasUnits R raw) {c : EnergyCall} {calls : List EnergyCall}
    (hfirst : EnergyAnnounced R.flags →
      ∃ S', energyStep R drv fd S c = some S' ∧ Measuring R S')
    (habsent : ¬ EnergyAnnounced R.flags → energyStep R drv fd S c = none) :
    Runs.Along (energyStep R drv fd) (EnergySafe R drv fd) S (c :: calls) ↔
      EnergyAnnounced R.flags := by
  constructor
  · rintro ⟨hsafe, -⟩
    by_contra hann
    exact not_energySafe (habsent hann) hsafe
  · intro hann
    obtain ⟨S', hstep, hS'⟩ := hfirst hann
    exact .cons ⟨S', hstep, hS'.safe⟩ hstep (energySafe_along hann hunits hS' calls)

/-- A first `delta_rapl_data` is safe only where neither register is announced, and then
    nothing may follow. -/
theorem energySafe_delta_first_iff (hpos : 0 < R.cfg.sockets) (hS : S.Fresh)
    (calls : List EnergyCall) :
    Runs.Along (energyStep R drv fd) (EnergySafe R drv fd) S (.delta :: calls) ↔
      announces R.flags pkgEnergyStatus = false ∧
        announces R.flags dramEnergyStatus = false ∧ calls = [] := by
  by_cases hsome : announces R.flags pkgEnergyStatus = true ∨
      announces R.flags dramEnergyStatus = true
  · constructor
    · rintro ⟨hsafe, -⟩
      exact absurd hsafe (not_energySafe (deltaRaplData_first_absent hpos hS hsome))
    · rintro ⟨hpkg, hdram, -⟩
      rw [hpkg, hdram] at hsome
      exact absurd hsome (by decide)
  · rw [not_or, Bool.not_eq_true, Bool.not_eq_true] at hsome
    obtain ⟨hpkg, hdram⟩ := hsome
    have hdelta := deltaRaplData_first_bare hS hpkg hdram
    have hsafe : EnergySafe R drv fd S .delta := ⟨_, hdelta, hS.fits⟩
    cases calls with
    | nil => exact ⟨fun _ => ⟨hpkg, hdram, rfl⟩, fun _ => ⟨hsafe, fun _ _ => trivial⟩⟩
    | cons c calls =>
      constructor
      · rintro ⟨-, hrest⟩
        obtain ⟨hsafe', -⟩ := hrest _ hdelta
        have hnone : energyStep R drv fd
            { S with rapl := { S.rapl with elapsed := 0 }, deltaInit := true } c = none := by
          apply energyStep_bare hpos
          · exact hS.pkg
          · exact hS.dram
          · exact hS.readInit
          · rfl
          · rfl
          · exact hpkg
          · exact hdram
        exact absurd hsafe' (not_energySafe hnone)
      · rintro ⟨-, -, hnil⟩
        contradiction

/-- Whatever the flags are, the order of the calls decides. -/
theorem energySafe_order_iff (hcpus : SocketCpus R pick) (hunits : HasUnits R raw)
    (hpos : 0 < R.cfg.sockets) (hS : S.Fresh) (calls : List EnergyCall) :
    Runs.Along (energyStep R drv fd) (EnergySafe R drv fd) S calls ↔ SafeOrder R.flags calls := by
  have habsent : ¬ EnergyAnnounced R.flags → announces R.flags pkgEnergyStatus = false ∨
      announces R.flags dramEnergyStatus = false := by
    intro hann
    rw [EnergyAnnounced, not_and_or, Bool.not_eq_true, Bool.not_eq_true] at hann
    exact hann
  cases calls with
  | nil => exact Iff.rfl
  | cons c calls =>
    cases c with
    | read p =>
      apply energySafe_first_iff hunits
      · intro hann
        exact readRaplData_first drv fd hann hcpus hunits hpos hS p
      · intro hann
        exact readRaplData_absent hpos hS.pkg hS.dram hS.readInit (habsent hann) drv fd p
    | poll p =>
      apply energySafe_first_iff hunits
      · intro hann
        obtain ⟨S₁, hread, hS₁⟩ := readRaplData_first drv fd hann hcpus hunits hpos hS p
        obtain ⟨S', hdelta, hS'⟩ := hS₁.delta hann hunits
        refine ⟨S', ?_, hS'⟩
        simp only [energyStep, pollRaplData, hread, hdelta, Option.bind_eq_bind,
          Option.bind_some]
      · intro hann
        exact pollRaplData_absent hpos hS (habsent hann) drv fd p
    | delta => exact energySafe_delta_first_iff hpos hS calls

/-- The order that is safe only depends on flags that `rapl_init` leaves alone. -/
theorem safeOrder_congr {flags flags' : Word}
    (hpkg : announces flags' pkgEnergyStatus = announces flags pkgEnergyStatus)
    (hdram : announces flags' dramEnergyStatus = announces flags dramEnergyStatus)
    (calls : List EnergyCall) : SafeOrder flags' calls ↔ SafeOrder flags calls := by
  cases calls with
  | nil => exact Iff.rfl
  | cons c calls => cases c <;> simp only [SafeOrder, EnergyAnnounced, hpkg, hdram]

end Calls

theorem pkgEnergyStatus_locksApart : LocksApart pkgEnergyStatus := by
  unfold LocksApart
  decide

theorem dramEnergyStatus_locksApart : LocksApart dramEnergyStatus := by
  unfold LocksApart
  decide

/-- The models with both energy registers, and the one with neither. -/
theorem setflags_energy {model : Nat} {old : Word} (h : (setflags model old).1 = 0) :
    (EnergyAnnounced (setflags model old).2 ↔ model ∈ [0x2D, 0x3E, 0x3F, 0x4F, 0x55, 0x57]) ∧
      (announces (setflags model old).2 pkgEnergyStatus = false ↔ model = 0x4D) := by
  have htable := setflags_found h
  generalize (setflags model old).2 = flags at htable
  unfold EnergyAnnounced
  unfold mf06Flags at htable
  split at htable
  case h_22 => contradiction
  all_goals
    obtain rfl := Option.some.inj htable
    decide

/-- **Measuring calls after `rapl_init`.**  On a CPU model with RAPL, a sequence of calls
    stays inside what `create_rapl_data_batch` allocated exactly when it is empty, or the
    model has both energy registers and the first call is not `delta_rapl_data`, or the
    model has neither and `delta_rapl_data` is the only call. -/
theorem energySafe_along_iff {model : Nat} {old flags : Word} {R : RaplSetup K} {h h' : Host}
    {rl1 rl2 : RaplLimit K} {tar : TurboActivationRatioData K} {rc : Int} {pick : Nat → Nat}
    {raw : Nat → Word} {S : EnergyState K}
    (hinit : raplInit { R with model := model, flags := (setflags model old).2 }
      (setflags model old).1 h rl1 rl2 tar = some (rc, flags, h'))
    (hcpus : SocketCpus R pick) (hunits : HasUnits R raw) (hpos : 0 < R.cfg.sockets)
    (hS : S.Fresh) (drv : BatchDriver) (fd : Int) (calls : List EnergyCall) :
    Runs.Along (energyStep { R with model := model, flags := flags } drv fd)
        (EnergySafe { R with model := model, flags := flags } drv fd) S calls ↔
      SafeOrder (setflags model old).2 calls := by
  have hpkg := raplInit_flags (K := K) pkgEnergyStatus_locksApart hinit
  have hdram := raplInit_flags (K := K) dramEnergyStatus_locksApart hinit
  have hcpus' : SocketCpus { R with model := model, flags := flags } pick :=
    ⟨hcpus.fits, hcpus.lt, hcpus.first⟩
  rw [energySafe_order_iff hcpus' hunits hpos hS calls]
  exact safeOrder_congr hpkg hdram calls

end EnergyArrays

/-! ## One socket -/

/-- A host whose limit registers all hold 100 watts. -/
def limitedHost : Host := { Host.opened 1 with regs := fun _ _ => 0x0000832000008320 }

/-- `rapl_init` on one socket of the model. -/
theorem limitedHost_init {model : Nat} (hmodel : model = 0x37 ∨ model = 0x3E) :
    ∃ rc h', raplInit { oneSocket with model := model, flags := (setflags model 0).2 }
      (setflags model 0).1 limitedHost ⟨0, 0, 0⟩ ⟨0, 0, 0⟩ ⟨0, 0⟩ =
        some (rc, (setflags model 0).2, h') := by
  have hsome : (raplInit { oneSocket with model := model, flags := (setflags model 0).2 }
      (setflags model 0).1 limitedHost ⟨0, 0, 0⟩ ⟨0, 0, 0⟩ ⟨0, 0⟩).map (fun r => r.2.1) =
        some (setflags model 0).2 := by
    rcases hmodel with rfl | rfl
    · decide +kernel
    · decide +kernel
  obtain ⟨⟨rc, flags, h'⟩, hinit, rfl⟩ := Option.map_eq_some_iff.mp hsome
  exact ⟨rc, h', hinit⟩

/-- With both energy registers, a first poll and then any calls. -/
theorem ivyBridge_energySafe :
    Runs.Along (energyStep { oneSocket with model := 0x3E, flags := 0x6007F7 } .inOrder 3)
      (EnergySafe { oneSocket with model := 0x3E, flags := 0x6007F7 } .inOrder 3) freshState
      [.poll (counterPoll 1 100), .delta, .read (counterPoll 2 350)] := by
  obtain ⟨rc, h', hinit⟩ := limitedHost_init (.inr rfl)
  have hrun := oneSocket_run 1 2 100 350
  exact (energySafe_along_iff hinit hrun.cpus hrun.units Nat.one_pos hrun.fresh .inOrder 3 _).mpr
    ⟨by decide, by decide⟩

/-- Model 0x37 counts package energy only: after `rapl_init`, the first
    `read_rapl_data` clears DRAM arrays that were never allocated. -/
theorem model37_not_energySafe :
    (∃ rc h', raplInit { oneSocket with model := 0x37, flags := 0x407 } (setflags 0x37 0).1
      limitedHost ⟨0, 0, 0⟩ ⟨0, 0, 0⟩ ⟨0, 0⟩ = some (rc, 0x407, h')) ∧
    ¬ Runs.Along (energyStep { oneSocket with model := 0x37, flags := 0x407 } .inOrder 3)
      (EnergySafe { oneSocket with model := 0x37, flags := 0x407 } .inOrder 3) freshState
      [.read (counterPoll 1 100)] := by
  refine ⟨limitedHost_init (.inl rfl), ?_⟩
  rintro ⟨hsafe, -⟩
  have hfresh := (oneSocket_run 1 2 100 350).fresh
  have hnone := readRaplData_absent (R := { oneSocket with model := 0x37, flags := 0x407 })
    Nat.one_pos hfresh.pkg hfresh.dram hfresh.readInit (.inr (by decide)) .inOrder 3
    (counterPoll 1 100)
  refine not_energySafe ?_ hsafe
  exact hnone

end Libmsr
