/-
  Libmsr.Rapl.EnergyLoad

  What `create_rapl_data_batch` sets up: a batch that holds reads of the
  announced energy registers only, and pointers to the read of each socket.
-/
import Libmsr.Core.BatchReadSpec
import Libmsr.Rapl.Energy

namespace Libmsr

section EnergyLoad

variable {K : Type}

/-- The machine's sockets: `load_socket_batch` finds the CPU `pick s` for socket
    `s`, and every CPU number fits the 16 bits of an op. -/
structure SocketCpus (R : RaplSetup K) (pick : Nat → Nat) : Prop where
  fits : R.cfg.numDevs ≤ 2 ^ 16
  lt : ∀ s, s < R.cfg.sockets → pick s < R.cfg.numDevs
  first : ∀ s, s < R.cfg.sockets →
    firstDev R.topo (fun entry => entry.socketId = s) 0 R.cfg.numDevs = some (some (pick s))

/-- There are no more sockets than CPUs. -/
theorem SocketCpus.sockets_le {R : RaplSetup K} {pick : Nat → Nat} (h : SocketCpus R pick)
    (hpos : 0 < R.cfg.sockets) : R.cfg.sockets ≤ 2 ^ 16 := by
  have hdevs : 0 < R.cfg.numDevs := Nat.lt_of_le_of_lt (Nat.zero_le _) (h.lt 0 hpos)
  refine Nat.le_trans ?_ h.fits
  rw [CoreConfig.numDevs, Nat.mul_assoc] at hdevs ⊢
  refine Nat.le_mul_of_pos_right _ (Nat.pos_of_ne_zero fun h0 => ?_)
  rw [h0, Nat.mul_zero] at hdevs
  exact Nat.lt_irrefl 0 hdevs

/-- The registers `create_rapl_data_batch` loads. -/
def loadedRegs (flags : Word) : List Nat :=
  ([(pkgEnergyStatus, msrPkgEnergyStatus), (pkgPerfStatus, msrPkgPerfStatus),
    (dramEnergyStatus, msrDramEnergyStatus), (dramPerfStatus, msrDramPerfStatus)].filter
      fun r => announces flags r.1).map Prod.snd

theorem mem_loadedRegs {flags flag : Word} {msr : Nat}
    (hin : (flag, msr) ∈ [(pkgEnergyStatus, msrPkgEnergyStatus), (pkgPerfStatus, msrPkgPerfStatus),
      (dramEnergyStatus, msrDramEnergyStatus), (dramPerfStatus, msrDramPerfStatus)])
    (hflag : announces flags flag = true) : msr ∈ loadedRegs flags :=
  List.mem_map.mpr ⟨(flag, msr), List.mem_filter.mpr ⟨hin, hflag⟩, rfl⟩

theorem loadedRegs_pkg {flags : Word} (h : announces flags pkgEnergyStatus = true) :
    msrPkgEnergyStatus ∈ loadedRegs flags := mem_loadedRegs (by decide) h

theorem loadedRegs_dram {flags : Word} (h : announces flags dramEnergyStatus = true) :
    msrDramEnergyStatus ∈ loadedRegs flags := mem_loadedRegs (by decide) h

/-- A read of a loaded register on the CPU of some socket. -/
def LoadedRead (R : RaplSetup K) (pick : Nat → Nat) (op : MsrBatchOp) : Prop :=
  op.isrdmsr = 1 ∧ ∃ s msr, s < R.cfg.sockets ∧ msr ∈ loadedRegs R.flags ∧
    op.cpu = BitVec.ofNat 16 (pick s) ∧ op.msr = BitVec.ofNat 32 msr

/-- Batch `RAPL_DATA` counts `k` ops in an array of `n`, all of them such
    reads. -/
structure Filled (R : RaplSetup K) (pick : Nat → Nat) (n : Nat) (st : BatchStorage) (k : Nat) :
    Prop where
  sized : st.Sized
  capacity : st.capacity raplData = n
  entry : ∃ a, st.entry raplData = ⟨k, some a⟩ ∧ a.slots.length = n ∧ k ≤ n ∧
    ∀ i op, i < k → a.slots[i]? = some op → LoadedRead R pick op

/-- The pointer is to a counted op of batch `RAPL_DATA` for this CPU and
    register. -/
def PointsTo (st : BatchStorage) (p : Ptr) (cpu msr : Nat) : Prop :=
  ∃ k a op, st.entry raplData = ⟨k, some a⟩ ∧ p.id = a.id ∧ p.slot < k ∧
    a.slots[p.slot]? = some op ∧ op.cpu = BitVec.ofNat 16 cpu ∧ op.msr = BitVec.ofNat 32 msr

section LoadAnnounced

variable {R : RaplSetup K} {pick : Nat → Nat} {n k : Nat} {st : BatchStorage}

/-- An announced register adds a row of reads; other pointers keep their op. -/
theorem loadAnnounced_spec (hcpus : SocketCpus R pick) (hfill : Filled R pick n st k)
    (hroom : k + R.cfg.sockets ≤ n) (hsmall : n < 2 ^ 31) {flag : Word} {msr : Nat}
    (hflag : announces R.flags flag = true) (hmem : msr ∈ loadedRegs R.flags) :
    ∃ val st', loadAnnounced R st flag msr = some (some val, st') ∧
      Filled R pick n st' (k + R.cfg.sockets) ∧ val.length = R.cfg.sockets ∧
      (∀ s, s < R.cfg.sockets → ∃ p, val[s]? = some (some p) ∧ PointsTo st' p (pick s) msr) ∧
      ∀ p cpu msr', PointsTo st p cpu msr' → PointsTo st' p cpu msr' := by
  obtain ⟨a, hentry, hlen, hk, hops⟩ := hfill.entry
  have hroom' : RoomFor st raplData k R.cfg.sockets a :=
    ⟨hfill.sized, hentry, by rw [hfill.capacity, hlen], by omega, by omega⟩
  have hval : R.cfg.sockets ≤ (List.replicate R.cfg.sockets (none : Option Ptr)).length := by
    rw [List.length_replicate]
  obtain ⟨s', hload, hs'⟩ := loadSocketBatch_spec msr hroom' hval pick hcpus.first
  refine ⟨s'.val, s'.st, ?_, ⟨hs'.sized, ?_, _, hs'.entry, ?_, hroom, ?_⟩, ?_, ?_, ?_⟩
  · simp only [loadAnnounced, hflag, if_true, hload, Option.bind_eq_bind, Option.bind_some]
  · rw [hs'.capacity]
    exact hfill.capacity
  · rw [filledSlots_length, hlen]
  · intro i op hi hop
    by_cases hik : i < k
    · rw [filledSlots_below hik] at hop
      exact hops i op hik hop
    · -- one of the new row
      obtain ⟨v, rfl⟩ : ∃ v, i = k + v := ⟨i - k, by omega⟩
      have hv : v < R.cfg.sockets := by omega
      obtain ⟨op', hop', hcpu, hmsr, hread⟩ := filledSlots_row msr pick hroom'.room hv
      obtain rfl := Option.some.inj (hop'.symm.trans hop)
      exact ⟨hread, v, msr, hv, hmem, hcpu, hmsr⟩
  · rw [hs'.length, List.length_replicate]
  · intro s hs
    obtain ⟨op, hop, hcpu, hmsr, -⟩ := filledSlots_row msr pick hroom'.room hs
    refine ⟨⟨a.id, k + s⟩, by rw [hs'.val, if_pos hs], _, _, op, hs'.entry, rfl, ?_, hop, hcpu,
      hmsr⟩
    show k + s < k + R.cfg.sockets
    omega
  · rintro p cpu msr' ⟨k', a', op, hentry', hid, hslot, hop, hcpu, hmsr⟩
    rw [hentry] at hentry'
    obtain ⟨rfl, rfl⟩ : k = k' ∧ a = a' := by simpa using hentry'
    refine ⟨_, _, op, hs'.entry, hid, by omega, ?_, hcpu, hmsr⟩
    show (filledSlots msr pick k R.cfg.sockets a.slots)[p.slot]? = some op
    rw [filledSlots_below hslot, hop]

/-- An optional row: the batch counts `sockets` more ops if the register is
    announced. -/
theorem loadAnnounced_optional (hcpus : SocketCpus R pick) (hfill : Filled R pick n st k)
    (hsmall : n < 2 ^ 31) (flag : Word) (msr : Nat)
    (hroom : announces R.flags flag = true → k + R.cfg.sockets ≤ n)
    (hmem : announces R.flags flag = true → msr ∈ loadedRegs R.flags) :
    ∃ val st', loadAnnounced R st flag msr = some (val, st') ∧
      Filled R pick n st' (k + if announces R.flags flag then R.cfg.sockets else 0) ∧
      ∀ p cpu msr', PointsTo st p cpu msr' → PointsTo st' p cpu msr' := by
  cases hflag : announces R.flags flag with
  | false =>
    exact ⟨none, st, by simp [loadAnnounced, hflag], by simpa using hfill, fun _ _ _ h => h⟩
  | true =>
    obtain ⟨val, st', hload, hfill', -, -, hkeep⟩ := loadAnnounced_spec hcpus hfill (hroom hflag)
      hsmall hflag (hmem hflag)
    exact ⟨some val, st', hload, hfill', hkeep⟩

end LoadAnnounced

/-! ## create_rapl_data_batch -/

/-- The measurements are connected to the batch: both domains have one cell for
    each socket, and its pointer is to the read of that socket's counter. -/
structure Wired (R : RaplSetup K) (pick : Nat → Nat) (st : BatchStorage) (rapl : RaplData K) :
    Prop where
  filled : ∃ n k, 0 < k ∧ Filled R pick n st k
  pkg : ∃ cells, rapl.pkg = some cells ∧ cells.length = R.cfg.sockets ∧
    ∀ s c, cells[s]? = some c → ∃ p, c.bits = some p ∧ PointsTo st p (pick s) msrPkgEnergyStatus
  dram : ∃ cells, rapl.dram = some cells ∧ cells.length = R.cfg.sockets ∧
    ∀ s c, cells[s]? = some c → ∃ p, c.bits = some p ∧ PointsTo st p (pick s) msrDramEnergyStatus

section Create

variable [Field K] {R : RaplSetup K} {pick : Nat → Nat} {st : BatchStorage}

/-- The allocated size: never too small for the registers that are loaded. -/
theorem raplDataBatchSize_eq {flags : Word} (hpkg : announces flags pkgEnergyStatus = true)
    (hdram : announces flags dramEnergyStatus = true) :
    raplDataBatchSize flags = (if announces flags pkgPerfStatus then 1 else 0) + 3 := by
  simp only [raplDataBatchSize, hpkg, hdram, if_true]

/-- With both energy registers announced, the measurements are wired up. -/
theorem createRaplDataBatch_spec (hcpus : SocketCpus R pick) (hpos : 0 < R.cfg.sockets)
    (hsockets : R.cfg.sockets ≤ 2 ^ 16) (hs : st.Sized) (hempty : st.entry raplData = .empty)
    (hpkg : announces R.flags pkgEnergyStatus = true)
    (hdram : announces R.flags dramEnergyStatus = true) (rapl : RaplData K) :
    ∃ st' rapl', createRaplDataBatch R st rapl = some (st', rapl') ∧ Wired R pick st' rapl' := by
  have hsize := raplDataBatchSize_eq hpkg hdram
  have hsmall : raplDataBatchSize R.flags * R.cfg.sockets ≤ 4 * 2 ^ 16 := by
    refine Nat.mul_le_mul ?_ hsockets
    rw [hsize]
    split <;> omega
  generalize hn : raplDataBatchSize R.flags * R.cfg.sockets = n at hsmall
  have hmod : n % 2 ^ 32 = n := Nat.mod_eq_of_lt (by omega)
  obtain ⟨st₀, halloc, hst₀⟩ := allocateBatch_spec hs raplData n (by omega)
  rw [hmod] at hst₀
  have hfill₀ : Filled R pick n st₀ 0 := by
    refine ⟨hst₀.sized, hst₀.capacity, ⟨st.nextId, List.replicate n .zero⟩, ?_,
      List.length_replicate, Nat.zero_le _, fun i _ hi => absurd hi (Nat.not_lt_zero i)⟩
    rw [hst₀.entry, hempty]
    rfl
  -- the rows fit: one for each announced register
  have hrows : 3 * R.cfg.sockets +
      (if announces R.flags pkgPerfStatus then R.cfg.sockets else 0) = n := by
    rw [← hn, hsize]
    split
    · omega
    · omega
  -- the four rows in turn; a later one leaves the pointers of an earlier one alone
  obtain ⟨pkgBits, st₁, hload₁, hfill₁, hlen₁, hptr₁, -⟩ := loadAnnounced_spec hcpus hfill₀
    (by omega) (by omega) hpkg (loadedRegs_pkg hpkg)
  obtain ⟨pkgPerfCount, st₂, hload₂, hfill₂, hkeep₂⟩ := loadAnnounced_optional hcpus hfill₁
    (by omega) pkgPerfStatus msrPkgPerfStatus
    (fun hflag => by rw [if_pos hflag] at hrows; omega) (mem_loadedRegs (by decide))
  obtain ⟨dramBits, st₃, hload₃, hfill₃, hlen₃, hptr₃, hkeep₃⟩ := loadAnnounced_spec hcpus hfill₂
    (by omega) (by omega) hdram (loadedRegs_dram hdram)
  obtain ⟨dramPerfCount, st₄, hload₄, hfill₄, hkeep₄⟩ := loadAnnounced_optional hcpus hfill₃
    (by omega) dramPerfStatus msrDramPerfStatus
    (fun _ => by omega) (mem_loadedRegs (by decide))
  refine ⟨st₄, { rapl with
      pkg := some (pkgBits.map .calloced)
      pkgPerfCount := pkgPerfCount.or rapl.pkgPerfCount
      dram := some (dramBits.map .calloced)
      dramPerfCount := dramPerfCount.or rapl.dramPerfCount }, ?_, ⟨n, _, by omega, hfill₄⟩,
    ⟨pkgBits.map .calloced, rfl, ?_, ?_⟩, ⟨dramBits.map .calloced, rfl, ?_, ?_⟩⟩
  · simp only [createRaplDataBatch, hn, halloc, hload₁, hload₂, hload₃, hload₄,
      Option.bind_eq_bind, Option.bind_some]
    rfl
  · rw [List.length_map, hlen₁]
  · intro s c hc
    rw [List.getElem?_map, Option.map_eq_some_iff] at hc
    obtain ⟨bits, hbits, rfl⟩ := hc
    obtain ⟨hs, -⟩ := List.getElem?_eq_some_iff.mp hbits
    obtain ⟨p, hp, hpoints⟩ := hptr₁ s (by omega)
    exact ⟨p, Option.some.inj (hbits.symm.trans hp),
      hkeep₄ _ _ _ (hkeep₃ _ _ _ (hkeep₂ _ _ _ hpoints))⟩
  · rw [List.length_map, hlen₃]
  · intro s c hc
    rw [List.getElem?_map, Option.map_eq_some_iff] at hc
    obtain ⟨bits, hbits, rfl⟩ := hc
    obtain ⟨hs, -⟩ := List.getElem?_eq_some_iff.mp hbits
    obtain ⟨p, hp, hpoints⟩ := hptr₃ s (by omega)
    exact ⟨p, Option.some.inj (hbits.symm.trans hp), hkeep₄ _ _ _ hpoints⟩

omit [Field K] in
theorem loadAnnounced_absent {flag : Word} {msr : Nat} {val : Option (List (Option Ptr))}
    {st' : BatchStorage} (hload : loadAnnounced R st flag msr = some (val, st'))
    (hflag : announces R.flags flag = false) : val = none := by
  simp only [loadAnnounced, hflag, Bool.false_eq_true, if_false, Option.some.injEq,
    Prod.mk.injEq] at hload
  exact hload.1.symm

/-- The arrays of a domain that is not announced stay what they were. -/
theorem createRaplDataBatch_absent {rapl rapl' : RaplData K} {st' : BatchStorage}
    (hcreate : createRaplDataBatch R st rapl = some (st', rapl')) :
    (announces R.flags pkgEnergyStatus = false → rapl'.pkg = rapl.pkg) ∧
      (announces R.flags dramEnergyStatus = false → rapl'.dram = rapl.dram) := by
  simp only [createRaplDataBatch, Option.bind_eq_bind, Option.bind_eq_some_iff] at hcreate
  obtain ⟨_, -, ⟨pkgBits, _⟩, hload₁, _, -, ⟨dramBits, _⟩, hload₃, _, -, heq⟩ := hcreate
  simp only [Option.some.injEq, Prod.mk.injEq] at heq
  obtain ⟨-, rfl⟩ := heq
  constructor
  · intro hflag
    rw [loadAnnounced_absent hload₁ hflag]
    rfl
  · intro hflag
    rw [loadAnnounced_absent hload₃ hflag]
    rfl

end Create

end EnergyLoad

end Libmsr
