/-
  Libmsr.Core.Addressing

  The two ways to address a CPU, compared: the closed formula of `devidx` and
  the first-match search of the batch loaders.

  On the two numberings the library supports `devidx` is the inverse of the
  numbering, whichever of its formulas the flag picks (`Supported.flatIndex_eq`).
  Both formulas grow with the core and the thread, so the first CPU of a socket
  or core is the one at core 0 or thread 0.
-/
import Libmsr.Core.Numbering
import Libmsr.Core.BatchLoadSpec
import Libmsr.Core.DeviceSpec
import Mathlib.Data.Set.Function

namespace Libmsr

open MixedRadix BatchStorage

/-- The flat index grows with the core and the thread. -/
theorem flatIndex_mono (cfg : CoreConfig) (d : Bool) (s : Nat) {c c' t t' : Nat} (hc : c ≤ c')
    (ht : t ≤ t') : flatIndex cfg d s c t ≤ flatIndex cfg d s c' t' := by
  have hlead := Nat.mul_le_mul_right (cfg.sockets * cfg.coresPerSocket) ht
  have hlead' := Nat.mul_le_mul_right (cfg.coresPerSocket * cfg.sockets) ht
  have hmid := Nat.mul_le_mul_right cfg.sockets hc
  unfold flatIndex flat
  split <;> omega

namespace Machine

variable (m : Machine)

theorem socketOf_lt (i : Fin (m.S * m.C * m.T)) : m.socketOf i < m.S := (m.place i).1.isLt
theorem coreOf_lt (i : Fin (m.S * m.C * m.T)) : m.coreOf i < m.C := (m.place i).2.1.isLt
theorem threadOf_lt (i : Fin (m.S * m.C * m.T)) : m.threadOf i < m.T := (m.place i).2.2.isLt

/-- A numbering the library supports: the threads are numbered in blocks of one
    per core, and within a block the cores are numbered socket by socket or
    round robin over the sockets. -/
def Supported : Prop :=
  (∀ i, m.threadOf i = i / (m.S * m.C)) ∧ (m.BlockNumbered ∨ m.RoundRobinNumbered)

/-- `devidx` on a coordinate given by numbers. -/
def indexOf (g : Topo) (s c t : Nat) : Nat :=
  (devidx m.config g (BitVec.ofNat 32 s) (BitVec.ofNat 32 c) (BitVec.ofNat 32 t)).toNat

theorem indexOf_eq (g : Topo) {s c t : Nat} (hs : s < m.S) (hc : c < m.C) (ht : t < m.T) :
    m.indexOf g s c t = flatIndex m.config g.discontinuousMapping s c t := by
  have hof : ∀ n, n < 2 ^ 31 → (BitVec.ofNat 32 n).toNat = n := by
    intro n hn
    rw [BitVec.toNat_ofNat]
    omega
  have hs' := hof s (hs.trans m.sockets_lt)
  have hc' := hof c (hc.trans m.cores_lt)
  have ht' := hof t (ht.trans m.threads_lt)
  rw [indexOf, m.devidx_toNat g (by rw [hs']; exact hs) (by rw [hc']; exact hc)
    (by rw [ht']; exact ht), hs', hc', ht']

variable {m}

/-- On a supported numbering the formula the flag picks is the inverse of the
    numbering. -/
theorem Supported.flatIndex_eq (hsup : m.Supported) {d : Bool} (hd : d = true ↔ m.Flagged)
    (i : Fin (m.S * m.C * m.T)) :
    flatIndex m.config d (m.socketOf i) (m.coreOf i) (m.threadOf i) = i := by
  obtain ⟨hthread, hb | hr⟩ := hsup
  · rw [hb.flatIndex_eq hd (m.socketOf_lt i) (m.coreOf_lt i), (hb i).1, (hb i).2, hthread]
    exact flat_digits m.S m.C i
  · have hdigits := flat_digits m.C m.S i
    rw [Nat.mul_comm m.C m.S] at hdigits
    rw [hr.flatIndex_eq hd (m.socketOf_lt i) (m.coreOf_lt i), (hr i).1, (hr i).2, hthread]
    exact hdigits

/-- The CPU at a coordinate has the coordinate's flat index. -/
theorem Supported.exists_cpu (hsup : m.Supported) {d : Bool} (hd : d = true ↔ m.Flagged)
    {s c t : Nat} (hs : s < m.S) (hc : c < m.C) (ht : t < m.T) :
    ∃ i : Fin (m.S * m.C * m.T), (i : Nat) = flatIndex m.config d s c t ∧ m.socketOf i = s ∧
      m.coreOf i = c ∧ m.threadOf i = t := by
  let i := m.place.symm (⟨s, hs⟩, ⟨c, hc⟩, ⟨t, ht⟩)
  have hplace : m.place i = (⟨s, hs⟩, ⟨c, hc⟩, ⟨t, ht⟩) := m.place.apply_symm_apply _
  have hsock : m.socketOf i = s := by rw [socketOf, hplace]
  have hcore : m.coreOf i = c := by rw [coreOf, hplace]
  have hthread : m.threadOf i = t := by rw [threadOf, hplace]
  refine ⟨i, ?_, hsock, hcore, hthread⟩
  have hidx := hsup.flatIndex_eq hd i
  rw [hsock, hcore, hthread] at hidx
  exact hidx.symm

/-- hwloc's core number determines the socket and the core. -/
theorem of_logicalCore {i : Fin (m.S * m.C * m.T)} {s c : Nat} (hc : c < m.C)
    (h : m.logicalCore i = s * m.C + c) : m.socketOf i = s ∧ m.coreOf i = c := by
  have hmod : (m.socketOf i * m.C + m.coreOf i) % m.C = (s * m.C + c) % m.C := by
    rw [← h, logicalCore]
  rw [Nat.mul_add_mod_of_lt (m.coreOf_lt i), Nat.mul_add_mod_of_lt hc] at hmod
  rw [logicalCore, hmod, Nat.add_right_cancel_iff] at h
  exact ⟨Nat.eq_of_mul_eq_mul_right m.cores_pos h, hmod⟩

/-! ## What the loaders pick -/

section Pick

variable {g : Topo} (hsup : m.Supported)
  (hentry : ∀ i : Fin (m.S * m.C * m.T), ∃ k,
    g.threadMap[(i : Nat)]? = some (some ((m.pu i).hwThread k)))
  (hflag : g.discontinuousMapping = true ↔ m.Flagged)
include hsup hentry hflag

/-- If every CPU that matches has an index from that of `(s, c, 0)` on, and the
    CPU there matches, the search from CPU 0 ends there. -/
theorem firstDev_indexOf {p : HwThread → Bool} {s c : Nat} (hs : s < m.S) (hc : c < m.C)
    (hmatch : ∀ i k, m.socketOf i = s → m.coreOf i = c → p ((m.pu i).hwThread k) = true)
    (hleast : ∀ i k, p ((m.pu i).hwThread k) = true →
      m.socketOf i = s ∧ c ≤ m.coreOf i) :
    firstDev g p 0 m.config.numDevs = some (some (m.indexOf g s c 0)) := by
  obtain ⟨i, hi, hsock, hcore, -⟩ := hsup.exists_cpu hflag hs hc m.threads_pos
  rw [m.indexOf_eq g hs hc m.threads_pos, ← hi]
  refine firstDev_eq (Nat.zero_le _) (by rw [Nat.zero_add]; exact i.isLt) (fun j _ hj => ?_) ?_
  · let j' : Fin (m.S * m.C * m.T) := ⟨j, hj.trans i.isLt⟩
    obtain ⟨k, hk⟩ := hentry j'
    refine ⟨_, hk, ?_⟩
    -- a match before `i` would have a flat index below its own
    cases hp : p ((m.pu j').hwThread k) with
    | false => rfl
    | true =>
      obtain ⟨hsock', hcore'⟩ := hleast j' k hp
      have hidx := hsup.flatIndex_eq hflag j'
      have hmono := flatIndex_mono m.config g.discontinuousMapping s hcore'
        (Nat.zero_le (m.threadOf j'))
      rw [hsock'] at hidx
      rw [hidx, ← hi] at hmono
      exact absurd hj (Nat.not_lt.mpr hmono)
  · obtain ⟨k, hk⟩ := hentry i
    exact ⟨_, hk, hmatch i k hsock hcore⟩

/-- The first CPU of socket `s` is its core 0, thread 0. -/
theorem firstDev_socket {s : Nat} (hs : s < m.S) :
    firstDev g (fun entry => entry.socketId = s) 0 m.config.numDevs =
      some (some (m.indexOf g s 0 0)) := by
  apply firstDev_indexOf hsup hentry hflag hs m.cores_pos
  · intro i k hsock _
    exact decide_eq_true hsock
  · intro i k hp
    exact ⟨of_decide_eq_true hp, Nat.zero_le _⟩

/-- The first CPU of core `s*C + c` is thread 0 of that core. -/
theorem firstDev_core {s c : Nat} (hs : s < m.S) (hc : c < m.C) :
    firstDev g (fun entry => entry.coreId = s * m.C + c) 0 m.config.numDevs =
      some (some (m.indexOf g s c 0)) := by
  apply firstDev_indexOf hsup hentry hflag hs hc
  · intro i k hsock hcore
    refine decide_eq_true ?_
    show m.logicalCore i = _
    rw [logicalCore, hsock, hcore]
  · intro i k hp
    obtain ⟨hsock, hcore⟩ := of_logicalCore hc (of_decide_eq_true hp)
    exact ⟨hsock, Nat.le_of_eq hcore.symm⟩

end Pick

/-! ## Both ways of addressing agree -/

/-- `devidx` inverts the numbering, and the loaders pick the CPUs it names. -/
structure Addressing (m : Machine) (g : Topo) : Prop where
  bijOn : Set.BijOn (fun x : Nat × Nat × Nat => m.indexOf g x.1 x.2.1 x.2.2)
    {x | x.1 < m.S ∧ x.2.1 < m.C ∧ x.2.2 < m.T} (Set.Iio (m.S * m.C * m.T))
  osIndex : ∀ i : Fin (m.S * m.C * m.T),
    m.indexOf g (m.socketOf i) (m.coreOf i) (m.threadOf i) = i
  socketPick : ∀ s, s < m.S →
    firstDev g (fun entry => entry.socketId = s) 0 m.config.numDevs =
      some (some (m.indexOf g s 0 0))
  corePick : ∀ s c, s < m.S → c < m.C →
    firstDev g (fun entry => entry.coreId = s * m.C + c) 0 m.config.numDevs =
      some (some (m.indexOf g s c 0))

/-- What `find_cpu_top` leaves on a supported machine addresses every CPU. -/
theorem Supported.addressing {g : Topo} (hsup : m.Supported)
    (hentry : ∀ i : Fin (m.S * m.C * m.T), ∃ k,
      g.threadMap[(i : Nat)]? = some (some ((m.pu i).hwThread k)))
    (hflag : g.discontinuousMapping = true ↔ m.Flagged) : m.Addressing g := by
  have hidx : ∀ i : Fin (m.S * m.C * m.T),
      m.indexOf g (m.socketOf i) (m.coreOf i) (m.threadOf i) = i := by
    intro i
    rw [m.indexOf_eq g (m.socketOf_lt i) (m.coreOf_lt i) (m.threadOf_lt i)]
    exact hsup.flatIndex_eq hflag i
  refine ⟨⟨?_, ?_, ?_⟩, hidx, fun s hs => firstDev_socket hsup hentry hflag hs,
    fun s c hs hc => firstDev_core hsup hentry hflag hs hc⟩
  · -- into the range
    rintro ⟨s, c, t⟩ ⟨hs, hc, ht⟩
    show m.indexOf g s c t < _
    rw [m.indexOf_eq g hs hc ht]
    exact flatIndex_lt m.config g.discontinuousMapping hs hc ht
  · -- two coordinates with one index are the place of one CPU
    rintro ⟨s, c, t⟩ ⟨hs, hc, ht⟩ ⟨s', c', t'⟩ ⟨hs', hc', ht'⟩ heq
    obtain ⟨i, hi, rfl, rfl, rfl⟩ := hsup.exists_cpu hflag hs hc ht
    obtain ⟨i', hi', rfl, rfl, rfl⟩ := hsup.exists_cpu hflag hs' hc' ht'
    have heq' : (i : Nat) = i' := (hidx i).symm.trans (heq.trans (hidx i'))
    obtain rfl := Fin.ext heq'
    rfl
  · -- onto it: CPU `n` has a place
    intro n hn
    let i : Fin (m.S * m.C * m.T) := ⟨n, hn⟩
    exact ⟨(m.socketOf i, m.coreOf i, m.threadOf i),
      ⟨m.socketOf_lt i, m.coreOf_lt i, m.threadOf_lt i⟩, hidx i⟩

/-- Whatever the batch and the caller's array, `load` puts at index `idx` an op
    on the CPU that a coordinate read of `(s, c, 0)` reaches. -/
def SameCpu (m : Machine) (g : Topo)
    (load : BatchStorage → Nat → Option (List (Option Ptr)) → Nat →
      Option (Int × Option (List (Option Ptr)) × BatchStorage))
    (count idx s c : Nat) : Prop :=
  ∀ (st : BatchStorage) (b k : Nat) (a : OpArray) (msr : Nat) (val : List (Option Ptr)) (h : Host)
    (v : Word), RoomFor st b k count a → val.length = count → h.Ready m.config.numDevs →
    ∃ val' st' p op, load st msr (some val) b = some (0, some val', st') ∧
      val'[idx]? = some (some p) ∧ st'.opAt b p = some op ∧
      (readMsrByCoord m.config g h (BitVec.ofNat 32 s) (BitVec.ofNat 32 c) 0 msr v).2.2.issued =
        h.issued ++ [.read op.cpu.toNat msr]

/-- The op that `load_socket_batch` creates for socket `s`. -/
def SocketSameCpu (m : Machine) (g : Topo) (s : Nat) : Prop :=
  m.SameCpu g (loadSocketBatch m.config g) m.S s s 0

/-- The op that `load_core_batch` creates for core `s*C + c`. -/
def CoreSameCpu (m : Machine) (g : Topo) (s c : Nat) : Prop :=
  m.SameCpu g (loadCoreBatch m.config g) (m.S * m.C) (s * m.C + c) s c

/-- A coordinate read of thread 0 reaches the CPU `devidx` names. -/
theorem readMsrByCoord_issued (g : Topo) {h : Host} (hr : h.Ready m.config.numDevs) {s c : Nat}
    (hs : s < m.S) (hc : c < m.C) (msr : Nat) (v : Word) :
    (readMsrByCoord m.config g h (BitVec.ofNat 32 s) (BitVec.ofNat 32 c) 0 msr v).2.2.issued =
      h.issued ++ [.read (m.indexOf g s c 0) msr] := by
  have hs' : (BitVec.ofNat 32 s).toNat = s := by
    rw [BitVec.toNat_ofNat]
    exact Nat.mod_eq_of_lt (hs.trans (m.sockets_lt.trans (by omega)))
  have hc' : (BitVec.ofNat 32 c).toNat = c := by
    rw [BitVec.toNat_ofNat]
    exact Nat.mod_eq_of_lt (hc.trans (m.cores_lt.trans (by omega)))
  have hin : InRange m.config (BitVec.ofNat 32 s).toNat (BitVec.ofNat 32 c).toNat
      (0 : BitVec 32).toNat := by
    rw [hs', hc']
    exact ⟨hs, hc, m.threads_pos⟩
  have hfits : m.config.numDevs < 2 ^ 31 := m.fits
  rw [readMsrByCoord_inRange m.config g _ _ 0 msr rfl hfits hr hin v, hs', hc',
    m.indexOf_eq g hs hc m.threads_pos]
  show (if _ then _ else _ : Int × Word × Host).2.2.issued = _
  split <;> rfl

/-- An op made for a CPU holds its index in 16 bits, so the two ways of
    addressing agree exactly on the CPUs below `2 ^ 16`. -/
theorem sameCpu_iff {g : Topo}
    {load : BatchStorage → Nat → Option (List (Option Ptr)) → Nat →
      Option (Int × Option (List (Option Ptr)) × BatchStorage)}
    {count idx s c : Nat} (pick : Nat → Nat) (hs : s < m.S) (hc : c < m.C) (hidx : idx < count)
    (hcount : count < 2 ^ 31) (hpick : pick idx = m.indexOf g s c 0)
    (hload : ∀ (st : BatchStorage) (b k : Nat) (a : OpArray) (msr : Nat)
      (val : List (Option Ptr)), RoomFor st b k count a → val.length = count →
      ∃ s', load st msr (some val) b = some (0, some s'.val, s'.st) ∧
        Loaded msr pick b k a ⟨val, st⟩ count s') :
    m.SameCpu g load count idx s c ↔ m.indexOf g s c 0 < 2 ^ 16 := by
  constructor
  · intro hsame
    -- load into a fresh batch of just the right size
    obtain ⟨st, -, hal⟩ := allocateBatch_spec init_sized 0 count (by omega)
    have hroom : RoomFor st 0 0 count ⟨BatchStorage.init.nextId, List.replicate count .zero⟩ := by
      have hmod : count % 2 ^ 32 = count := Nat.mod_eq_of_lt (by omega)
      refine ⟨hal.sized, ?_, ?_, ?_, ?_⟩
      · rw [hal.entry, hmod]
        rfl
      · rw [hal.capacity, List.length_replicate, hmod]
      · rw [List.length_replicate, Nat.zero_add]
      · rw [List.length_replicate]
        exact hcount
    obtain ⟨val', st', p, op, hres, hp, hop, hissued⟩ := hsame st 0 0 _ 0x611
      (List.replicate count none) (.opened _) 0 hroom List.length_replicate (Host.opened_ready _)
    -- the op found there is the loaded one, and its 16 bits hold the index
    obtain ⟨s', hs', hloaded⟩ := hload st 0 0 _ 0x611 _ hroom List.length_replicate
    obtain ⟨p', op', hp', hop', hcpu, -, -⟩ := hloaded.opAt hroom.room hidx
    rw [hs', Option.some.injEq, Prod.mk.injEq, Prod.mk.injEq, Option.some.injEq] at hres
    obtain ⟨-, rfl, rfl⟩ := hres
    rw [hp, Option.some.injEq, Option.some.injEq] at hp'
    subst hp'
    rw [hop, Option.some.injEq] at hop'
    subst hop'
    rw [readMsrByCoord_issued g (Host.opened_ready _) hs hc, List.append_cancel_left_eq,
      List.cons.injEq, Access.read.injEq] at hissued
    rw [hissued.1.1]
    exact op.cpu.isLt
  · intro hlt st b k a msr val h v hroom hval hr
    obtain ⟨s', hs', hloaded⟩ := hload st b k a msr val hroom hval
    obtain ⟨p, op, hp, hop, hcpu, -, -⟩ := hloaded.opAt hroom.room hidx
    refine ⟨s'.val, s'.st, p, op, hs', hp, hop, ?_⟩
    rw [readMsrByCoord_issued g hr hs hc, hcpu, hpick, BitVec.toNat_ofNat, Nat.mod_eq_of_lt hlt]

section Loads

variable {g : Topo} (haddr : m.Addressing g)
include haddr

theorem socketSameCpu_iff {s : Nat} (hs : s < m.S) :
    m.SocketSameCpu g s ↔ m.indexOf g s 0 0 < 2 ^ 16 := by
  refine sameCpu_iff (fun v => m.indexOf g v 0 0) hs m.cores_pos hs m.sockets_lt rfl ?_
  intro st b k a msr val hroom hval
  exact loadSocketBatch_spec msr hroom (Nat.le_of_eq hval.symm) _ haddr.socketPick

theorem coreSameCpu_iff {s c : Nat} (hs : s < m.S) (hc : c < m.C) :
    m.CoreSameCpu g s c ↔ m.indexOf g s c 0 < 2 ^ 16 := by
  have hcores : m.S * m.C < 2 ^ 31 := by
    have h1 : m.S * m.C * 1 ≤ m.S * m.C * m.T := Nat.mul_le_mul_left _ m.threads_pos
    have h2 := m.fits
    omega
  have hidx : s * m.C + c < m.S * m.C := low_lt hs hc
  refine sameCpu_iff (fun v => m.indexOf g (v / m.C) (v % m.C) 0) hs hc hidx hcores ?_ ?_
  · show m.indexOf g ((s * m.C + c) / m.C) ((s * m.C + c) % m.C) 0 = _
    rw [Nat.mul_add_mod_of_lt hc, Nat.add_comm, Nat.add_mul_div_right _ _ m.cores_pos,
      Nat.div_eq_of_lt hc, Nat.zero_add]
  · intro st b k a msr val hroom hval
    refine loadCoreBatch_spec msr hroom (Nat.le_of_eq hval.symm) _ fun v hv => ?_
    have hv' : v < m.S * m.C := hv
    -- core number `v` is core `v % C` of socket `v / C`
    have hpick := haddr.corePick (v / m.C) (v % m.C)
      (Nat.div_lt_of_lt_mul (by rw [Nat.mul_comm]; exact hv')) (Nat.mod_lt _ m.cores_pos)
    rw [Nat.div_add_mod'] at hpick
    exact hpick

end Loads

/-- **The two ways of addressing a CPU.**  On a supported numbering `devidx`
    inverts the numbering and the loaders pick the CPUs it names; a batched read
    and a coordinate read reach the same CPU exactly when its index is below
    `2 ^ 16`, the range of an op's `cpu`. -/
theorem supported_addressing (hsup : m.Supported) :
    ∃ g, findCpuTop m.hwloc Topo.init = some g ∧ m.Addressing g ∧
      (∀ s, s < m.S → (m.SocketSameCpu g s ↔ m.indexOf g s 0 0 < 2 ^ 16)) ∧
      (∀ s c, s < m.S → c < m.C → (m.CoreSameCpu g s c ↔ m.indexOf g s c 0 < 2 ^ 16)) := by
  obtain ⟨g, hg, -, hentry, hflag⟩ := m.findCpuTop_machine
  have haddr := hsup.addressing hentry hflag
  exact ⟨g, hg, haddr, fun s hs => socketSameCpu_iff haddr hs,
    fun s c hs hc => coreSameCpu_iff haddr hs hc⟩

/-! ## A block-numbered machine of any shape -/

/-- The machine whose CPUs are numbered in blocks. -/
def block (S C T : Nat) (hS : 0 < S) (hC : 0 < C) (hT : 0 < T) (hfits : S * C * T < 2 ^ 31) :
    Machine where
  S := S
  C := C
  T := T
  sockets_pos := hS
  cores_pos := hC
  threads_pos := hT
  fits := hfits
  place := {
    toFun := fun i => (⟨i % (S * C) / C, mid_lt _ hS hC⟩, ⟨i % C, last_lt _ hC⟩,
      ⟨i / (S * C), lead_lt (lt_of_lt_of_eq i.isLt (Nat.mul_comm _ T))⟩)
    invFun := fun x => ⟨flat S C x.2.2 x.1 x.2.1,
      lt_of_lt_of_eq (flat_lt x.2.2.isLt x.1.isLt x.2.1.isLt) (Nat.mul_comm T _)⟩
    left_inv := fun i => Fin.ext (flat_digits S C i)
    right_inv := by
      rintro ⟨s, c, t⟩
      have hdig := digits_flat t s.isLt c.isLt
      simp only [digits, Prod.mk.injEq] at hdig
      simp only [hdig] }
  order := List.finRange (S * C * T)
  order_perm := List.Perm.refl _
  siblingRank := fun i => i / (S * C)

theorem block_supported (S C T : Nat) (hS : 0 < S) (hC : 0 < C) (hT : 0 < T)
    (hfits : S * C * T < 2 ^ 31) : (block S C T hS hC hT hfits).Supported :=
  ⟨fun _ => rfl, Or.inl fun _ => ⟨rfl, rfl⟩⟩

/-- Two sockets of 8 cores with 2 threads each. -/
def dualSocket : Machine := block 2 8 2 Nat.two_pos (by omega) Nat.two_pos (by omega)

theorem dualSocket_addressing :
    ∃ g, findCpuTop dualSocket.hwloc Topo.init = some g ∧ dualSocket.Addressing g := by
  have hsup : dualSocket.Supported := block_supported ..
  obtain ⟨g, hg, haddr, -⟩ := supported_addressing hsup
  exact ⟨g, hg, haddr⟩

/-- One socket of 65537 cores. -/
def wideSocket : Machine := block 1 65537 1 Nat.one_pos (by omega) Nat.one_pos (by omega)

/-- The batched read of its last core goes to CPU 0. -/
theorem wideSocket_not_sameCpu :
    ∃ g, findCpuTop wideSocket.hwloc Topo.init = some g ∧ ¬ wideSocket.CoreSameCpu g 0 65536 := by
  have hsup : wideSocket.Supported := block_supported ..
  obtain ⟨g, hg, -, hentry, hflag⟩ := wideSocket.findCpuTop_machine
  have haddr := hsup.addressing hentry hflag
  have hs : 0 < wideSocket.S := Nat.zero_lt_one
  have hc : 65536 < wideSocket.C := Nat.lt_succ_self _
  refine ⟨g, hg, fun hsame => ?_⟩
  have hlt := (coreSameCpu_iff haddr hs hc).mp hsame
  -- with one socket both formulas give the core number
  rw [indexOf_eq _ g hs hc wideSocket.threads_pos,
    flatIndex_flag _ _ false hs hc (Or.inl rfl)] at hlt
  exact absurd hlt (by decide)

end Machine

end Libmsr
