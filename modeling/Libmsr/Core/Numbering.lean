/-
  Libmsr.Core.Numbering

  Which OS numberings `devidx` can address.

  `devidx` is one of two mixed-radix formulas, chosen by the flag that
  `find_cpu_top` reads off CPU 1.  The flag is not always the layout's own: with
  one socket, one core per socket, or a single CPU it may name the other
  formula, but then the two formulas agree.  So `devidx` addresses every CPU of
  a machine exactly when its numbering is the block or the round-robin one.
-/
import Libmsr.Core.TopologySpec
import Libmsr.Lib.Words

namespace Libmsr

open MixedRadix

/-! ## devidx as a mixed-radix number -/

/-- The flat index of a coordinate without wraparound. -/
def flatIndex (cfg : CoreConfig) (discontinuous : Bool) (socket core thread : Nat) : Nat :=
  if !discontinuous then flat cfg.sockets cfg.coresPerSocket thread socket core
  else flat cfg.coresPerSocket cfg.sockets thread core socket

/-- The low 32 bits of either sum in `devidx` are the sum of the low 32 bits. -/
theorem setWidth_devidxSum (x y z : BitVec 32) (p q r : Nat) :
    (x.signExtend 64 * BitVec.ofNat 64 p * BitVec.ofNat 64 q
      + y.signExtend 64 * BitVec.ofNat 64 r + z.signExtend 64).setWidth 32 =
      x * BitVec.ofNat 32 p * BitVec.ofNat 32 q + y * BitVec.ofNat 32 r + z := by
  rw [BitVec.setWidth_add _ _ (by omega), BitVec.setWidth_add _ _ (by omega),
    BitVec.setWidth_mul _ _ (by omega), BitVec.setWidth_mul _ _ (by omega),
    BitVec.setWidth_mul _ _ (by omega)]
  simp only [Words.setWidth_signExtend, Words.setWidth_ofNat]

/-- The low 32 bits of `devidx`, all that survives in the `int dev_idx` it is
    passed as, are those of the flat index of the unsigned coordinate. -/
theorem devidx_setWidth (cfg : CoreConfig) (g : Topo) (socket core thread : BitVec 32) :
    (devidx cfg g socket core thread).setWidth 32 =
      BitVec.ofNat 32 (flatIndex cfg g.discontinuousMapping socket.toNat core.toNat
        thread.toNat) := by
  unfold devidx flatIndex
  cases g.discontinuousMapping with
  | false =>
    simp only [Bool.not_false, if_true, setWidth_devidxSum, flat, BitVec.ofNat_add,
      BitVec.ofNat_mul, BitVec.ofNat_toNat, BitVec.setWidth_eq]
    rw [BitVec.mul_assoc]
  | true =>
    simp only [Bool.not_true, Bool.false_eq_true, if_false, setWidth_devidxSum, flat,
      BitVec.ofNat_add, BitVec.ofNat_mul, BitVec.ofNat_toNat, BitVec.setWidth_eq]
    rw [BitVec.mul_assoc, BitVec.mul_comm (BitVec.ofNat 32 cfg.sockets)]

/-- For coordinates that are non-negative `int`s, `devidx` is the flat index
    modulo `2 ^ 64`. -/
theorem devidx_eq_ofNat (cfg : CoreConfig) (g : Topo) (socket core thread : BitVec 32)
    (hs : socket.toNat < 2 ^ 31) (hc : core.toNat < 2 ^ 31) (ht : thread.toNat < 2 ^ 31) :
    devidx cfg g socket core thread =
      BitVec.ofNat 64 (flatIndex cfg g.discontinuousMapping socket.toNat core.toNat
        thread.toNat) := by
  unfold devidx flatIndex
  rw [Words.signExtend_eq_ofNat _ hs, Words.signExtend_eq_ofNat _ hc,
    Words.signExtend_eq_ofNat _ ht]
  cases g.discontinuousMapping with
  | false =>
    simp only [Bool.not_false, if_true, flat, BitVec.ofNat_add, BitVec.ofNat_mul]
    rw [BitVec.mul_assoc]
  | true =>
    simp only [Bool.not_true, Bool.false_eq_true, if_false, flat, BitVec.ofNat_add,
      BitVec.ofNat_mul]
    rw [BitVec.mul_assoc, BitVec.mul_comm (BitVec.ofNat 64 cfg.sockets)]

/-- A coordinate in range has a flat index below the device count. -/
theorem flatIndex_lt (cfg : CoreConfig) (d : Bool) {s c t : Nat} (hs : s < cfg.sockets)
    (hc : c < cfg.coresPerSocket) (ht : t < cfg.threadsPerCore) :
    flatIndex cfg d s c t < cfg.numDevs := by
  unfold flatIndex CoreConfig.numDevs
  cases d with
  | false =>
    have h := flat_lt ht hs hc
    rw [Nat.mul_comm] at h
    exact h
  | true =>
    have h := flat_lt ht hc hs
    rw [Nat.mul_comm, Nat.mul_comm cfg.coresPerSocket] at h
    exact h

/-- With one socket or one core per socket the two formulas coincide. -/
theorem flatIndex_flag (cfg : CoreConfig) (d d' : Bool) {s c t : Nat} (hs : s < cfg.sockets)
    (hc : c < cfg.coresPerSocket) (h : cfg.sockets = 1 ∨ cfg.coresPerSocket = 1) :
    flatIndex cfg d s c t = flatIndex cfg d' s c t := by
  have hswap := flat_swap t hs hc h
  unfold flatIndex
  cases d <;> cases d' <;> simp [hswap]

namespace Machine

variable (m : Machine)

theorem sockets_lt : m.S < 2 ^ 31 := by
  have h1 : m.S * 1 ≤ m.S * (m.C * m.T) :=
    Nat.mul_le_mul_left _ (Nat.mul_pos m.cores_pos m.threads_pos)
  have h2 := m.fits
  rw [Nat.mul_assoc] at h2
  omega

theorem cores_lt : m.C < 2 ^ 31 := by
  have h1 : m.C * 1 ≤ m.C * (m.S * m.T) :=
    Nat.mul_le_mul_left _ (Nat.mul_pos m.sockets_pos m.threads_pos)
  have h2 := m.fits
  rw [Nat.mul_comm m.S, Nat.mul_assoc] at h2
  omega

theorem threads_lt : m.T < 2 ^ 31 := by
  have h1 : m.T * 1 ≤ m.T * (m.S * m.C) :=
    Nat.mul_le_mul_left _ (Nat.mul_pos m.sockets_pos m.cores_pos)
  have h2 := m.fits
  rw [Nat.mul_comm] at h2
  omega

/-- On a coordinate of the machine `devidx` is the flat index itself. -/
theorem devidx_toNat (g : Topo) {socket core thread : BitVec 32} (hs : socket.toNat < m.S)
    (hc : core.toNat < m.C) (ht : thread.toNat < m.T) :
    (devidx m.config g socket core thread).toNat =
      flatIndex m.config g.discontinuousMapping socket.toNat core.toNat thread.toNat := by
  have hS := m.sockets_lt
  have hC := m.cores_lt
  have hT := m.threads_lt
  have hlt := flatIndex_lt m.config g.discontinuousMapping (s := socket.toNat) (c := core.toNat)
    (t := thread.toNat) hs hc ht
  have hfits := m.fits
  rw [config_numDevs] at hlt
  rw [devidx_eq_ofNat _ _ _ _ _ (by omega) (by omega) (by omega), BitVec.toNat_ofNat,
    Nat.mod_eq_of_lt (by omega)]

/-! ## The two numberings the formulas describe -/

/-- Block numbering: CPU `i` sits on socket `(i mod S*C) / C`, core `i mod C`. -/
def BlockNumbered : Prop :=
  ∀ i, m.socketOf i = i % (m.S * m.C) / m.C ∧ m.coreOf i = i % m.C

/-- Round-robin numbering: CPU `i` sits on socket `i mod S`, core
    `(i mod S*C) / S`. -/
def RoundRobinNumbered : Prop :=
  ∀ i, m.socketOf i = i % m.S ∧ m.coreOf i = i % (m.S * m.C) / m.S

/-- The flag `find_cpu_top` computes for the machine. -/
def Flagged : Prop := ∃ i : Fin (m.S * m.C * m.T), (i : Nat) = 1 ∧ m.logicalCore i ≠ 1

variable {m}

/-- On a block-numbered machine CPU 1 is on core 1, unless there is only one
    core; the flag then makes no difference. -/
theorem BlockNumbered.flatIndex_eq (hb : m.BlockNumbered) {d : Bool} (hd : d = true ↔ m.Flagged)
    {s c t : Nat} (hs : s < m.S) (hc : c < m.C) :
    flatIndex m.config d s c t = flat m.S m.C t s c := by
  cases d with
  | false => rfl
  | true =>
    obtain ⟨i, hi, hcore⟩ := hd.mp rfl
    have hSC : m.S * m.C = 1 := by
      by_contra hne
      have hpos : 0 < m.S * m.C := Nat.mul_pos m.sockets_pos m.cores_pos
      apply hcore
      have hmod : 1 % (m.S * m.C) = 1 := Nat.mod_eq_of_lt (by omega)
      have h2 : 1 % m.C = 1 % (m.S * m.C) % m.C :=
        (Nat.mod_mod_of_dvd 1 (Dvd.intro_left m.S rfl)).symm
      have h3 := Nat.div_add_mod (1 % (m.S * m.C)) m.C
      rw [Machine.logicalCore, (hb i).1, (hb i).2, hi, h2, Nat.mul_comm, h3, hmod]
    have hS : m.S = 1 := Nat.eq_one_of_mul_eq_one_right hSC
    exact (flatIndex_flag m.config true false hs hc (Or.inl hS)).trans rfl

/-- On a round-robin machine with at least two sockets and two cores per socket
    CPU 1 is on socket 1, hence not on core 1; otherwise the flag makes no
    difference. -/
theorem RoundRobinNumbered.flatIndex_eq (hr : m.RoundRobinNumbered) {d : Bool}
    (hd : d = true ↔ m.Flagged) {s c t : Nat} (hs : s < m.S) (hc : c < m.C) :
    flatIndex m.config d s c t = flat m.C m.S t c s := by
  cases d with
  | true => rfl
  | false =>
    -- the flag is off only if the two formulas agree
    have hdeg : m.S = 1 ∨ m.C = 1 := by
      by_contra hne
      rw [not_or] at hne
      obtain ⟨hS, hC⟩ := hne
      have hS2 : 2 ≤ m.S := by have := m.sockets_pos; omega
      have hC2 : 2 ≤ m.C := by have := m.cores_pos; omega
      have hSC : 2 * 2 ≤ m.S * m.C := Nat.mul_le_mul hS2 hC2
      have hn : m.S * m.C * 1 ≤ m.S * m.C * m.T := Nat.mul_le_mul_left _ m.threads_pos
      -- CPU 1 exists and hwloc counts its core after the whole first socket
      let i : Fin (m.S * m.C * m.T) := ⟨1, by omega⟩
      have hone : m.logicalCore i = m.C := by
        rw [Machine.logicalCore, (hr i).1, (hr i).2]
        show 1 % m.S * m.C + 1 % (m.S * m.C) / m.S = m.C
        rw [Nat.mod_eq_of_lt (by omega : 1 < m.S), Nat.mod_eq_of_lt (by omega : 1 < m.S * m.C),
          Nat.div_eq_of_lt (by omega : 1 < m.S)]
        omega
      have hflag : m.Flagged := ⟨i, rfl, by rw [hone]; omega⟩
      exact absurd (hd.mpr hflag) (by decide)
    exact (flatIndex_flag m.config false true hs hc hdeg).trans rfl

/-! ## When devidx finds the CPU of every coordinate -/

/-- `devidx` addresses, for every coordinate of the machine, a CPU that the
    thread map `g` places on that socket and on hwloc's core `socket*C + core`. -/
def DevidxLocates (m : Machine) (g : Topo) : Prop :=
  ∀ socket core thread : BitVec 32, socket.toNat < m.S → core.toNat < m.C →
    thread.toNat < m.T →
    ∃ e, g.threadMap[(devidx (coreConfig m.hwloc) g socket core thread).toNat]? = some (some e) ∧
      e.socketId = socket.toNat ∧ e.coreId = socket.toNat * m.C + core.toNat

/-- A core's logical number and its socket determine its number in the socket. -/
theorem coreOf_of_logicalCore {i : Fin (m.S * m.C * m.T)} {s c : Nat} (hs : m.socketOf i = s)
    (hc : m.logicalCore i = s * m.C + c) : m.coreOf i = c := by
  rw [logicalCore, hs] at hc
  omega

/-- If the formula picked by the flag is `f` with inverse digits, then `devidx`
    locates every CPU exactly when the numbering has these digits. -/
theorem devidxLocates_of_flatIndex {g : Topo}
    (hentry : ∀ i : Fin (m.S * m.C * m.T), ∃ k,
      g.threadMap[(i : Nat)]? = some (some ((m.pu i).hwThread k)))
    (hnum : ∀ i : Fin (m.S * m.C * m.T), ∀ s c t, s < m.S → c < m.C → t < m.T →
      flatIndex m.config g.discontinuousMapping s c t = i → m.socketOf i = s ∧ m.coreOf i = c) :
    m.DevidxLocates g := by
  intro socket core thread hs hc ht
  have hidx := m.devidx_toNat g hs hc ht
  have hlt := flatIndex_lt m.config g.discontinuousMapping hs hc ht
  rw [m.coreConfig_hwloc, hidx]
  let i : Fin (m.S * m.C * m.T) := ⟨_, hlt⟩
  obtain ⟨k, hk⟩ := hentry i
  obtain ⟨hsock, hcore⟩ := hnum i _ _ _ hs hc ht rfl
  refine ⟨_, hk, hsock, ?_⟩
  show m.logicalCore i = _
  rw [logicalCore, hsock, hcore]

/-- Conversely, where `devidx` locates every CPU, the CPU at the flat index of a
    coordinate is on that coordinate's socket and core. -/
theorem DevidxLocates.placed {g : Topo} (h : m.DevidxLocates g)
    (hentry : ∀ i : Fin (m.S * m.C * m.T), ∃ k,
      g.threadMap[(i : Nat)]? = some (some ((m.pu i).hwThread k)))
    (i : Fin (m.S * m.C * m.T)) {s c t : Nat} (hs : s < m.S) (hc : c < m.C) (ht : t < m.T)
    (hi : flatIndex m.config g.discontinuousMapping s c t = i) :
    m.socketOf i = s ∧ m.coreOf i = c := by
  have hS := m.sockets_lt
  have hC := m.cores_lt
  have hT := m.threads_lt
  -- the coordinates are `int`s that hold their numbers
  have hof : ∀ n, n < 2 ^ 31 → (BitVec.ofNat 32 n).toNat = n := by
    intro n hn
    rw [BitVec.toNat_ofNat]
    omega
  have hs' := hof s (by omega)
  have hc' := hof c (by omega)
  have ht' := hof t (by omega)
  obtain ⟨e, he, hsock, hcore⟩ := h (BitVec.ofNat 32 s) (BitVec.ofNat 32 c) (BitVec.ofNat 32 t)
    (by rw [hs']; exact hs) (by rw [hc']; exact hc) (by rw [ht']; exact ht)
  rw [m.coreConfig_hwloc, m.devidx_toNat g (by rw [hs']; exact hs) (by rw [hc']; exact hc)
    (by rw [ht']; exact ht), hs', hc', ht', hi] at he
  rw [hs'] at hsock
  rw [hs', hc'] at hcore
  obtain ⟨k, hk⟩ := hentry i
  rw [hk] at he
  obtain rfl := Option.some.inj (Option.some.inj he)
  exact ⟨hsock, coreOf_of_logicalCore hsock hcore⟩

/-- **What the two formulas cover.**  After `find_cpu_top`, `devidx` finds a CPU
    of every coordinate exactly on the block and the round-robin numberings. -/
theorem devidxLocates_iff (m : Machine) :
    ∃ g, findCpuTop m.hwloc Topo.init = some g ∧
      (m.DevidxLocates g ↔ m.BlockNumbered ∨ m.RoundRobinNumbered) := by
  obtain ⟨g, hg, -, hentry, hflag⟩ := m.findCpuTop_machine
  refine ⟨g, hg, ?_, ?_⟩
  · intro hloc
    cases hd : g.discontinuousMapping with
    | false =>
      -- CPU `i` is the one at the flat index of its own digits
      refine Or.inl fun i => ?_
      have hi : (i : Nat) < m.T * (m.S * m.C) := lt_of_lt_of_eq i.isLt (Nat.mul_comm ..)
      refine hloc.placed hentry i (mid_lt _ m.sockets_pos m.cores_pos)
        (last_lt _ m.cores_pos) (lead_lt hi) ?_
      rw [hd]
      exact flat_digits m.S m.C i
    | true =>
      refine Or.inr fun i => ?_
      -- the same with the digits of the other formula
      have hSC := Nat.mul_comm m.C m.S
      have hi : (i : Nat) < m.T * (m.C * m.S) := by
        rw [hSC]
        exact lt_of_lt_of_eq i.isLt (Nat.mul_comm ..)
      have hflat : flatIndex m.config g.discontinuousMapping (i % m.S)
          (i % (m.C * m.S) / m.S) (i / (m.C * m.S)) = i := by
        rw [hd]
        exact flat_digits m.C m.S i
      have hplaced := hloc.placed hentry i (last_lt _ m.sockets_pos)
        (mid_lt i m.cores_pos m.sockets_pos) (lead_lt hi) hflat
      rw [hSC] at hplaced
      exact hplaced
  · rintro (hb | hr)
    · refine devidxLocates_of_flatIndex hentry fun i s c t hs hc ht hidx => ?_
      rw [hb.flatIndex_eq hflag hs hc] at hidx
      have hdig := digits_flat t hs hc
      rw [hidx, digits, Prod.mk.injEq, Prod.mk.injEq] at hdig
      rw [(hb i).1, (hb i).2]
      exact ⟨hdig.2.1, hdig.2.2⟩
    · refine devidxLocates_of_flatIndex hentry fun i s c t hs hc ht hidx => ?_
      rw [hr.flatIndex_eq hflag hs hc] at hidx
      have hdig := digits_flat t hc hs
      rw [hidx, digits, Prod.mk.injEq, Prod.mk.injEq, Nat.mul_comm m.C m.S] at hdig
      rw [(hr i).1, (hr i).2]
      exact ⟨hdig.2.2, hdig.2.1⟩

/-- Two sockets of one core each, whose hyperthread siblings are numbered
    consecutively: CPU `i` is thread `i mod 2` of socket `i / 2`. -/
def siblingsFirst : Machine where
  S := 2
  C := 1
  T := 2
  sockets_pos := by omega
  cores_pos := by omega
  threads_pos := by omega
  fits := by omega
  place := {
    toFun := fun i => (⟨i / 2, by omega⟩, 0, ⟨i % 2, by omega⟩)
    invFun := fun x => ⟨2 * x.1 + x.2.2, by omega⟩
    left_inv := by decide
    right_inv := by decide }
  order := List.finRange 4
  order_perm := List.Perm.refl _
  siblingRank := fun i => i % 2

/-- On that machine the coordinate (socket 1, core 0, thread 0) is served by
    CPU 1, which is on socket 0. -/
theorem devidx_siblingsFirst_wrong_socket :
    ∃ g, findCpuTop siblingsFirst.hwloc Topo.init = some g ∧
      (devidx (coreConfig siblingsFirst.hwloc) g 1 0 0).toNat = 1 ∧
      g.threadMap[1]?.map (Option.map HwThread.socketId) = some (some 0) ∧
      ¬ siblingsFirst.DevidxLocates g := by
  obtain ⟨g, hg⟩ : ∃ g, findCpuTop siblingsFirst.hwloc Topo.init = some g := ⟨_, rfl⟩
  have hidx : (devidx (coreConfig siblingsFirst.hwloc) g 1 0 0).toNat = 1 := by
    obtain rfl := Option.some.inj hg
    decide
  have hmap : g.threadMap[1]?.map (Option.map HwThread.socketId) = some (some 0) := by
    obtain rfl := Option.some.inj hg
    decide
  refine ⟨g, hg, hidx, hmap, fun hloc => ?_⟩
  obtain ⟨e, he, hsock, -⟩ := hloc 1 0 0 (by decide) (by decide) (by decide)
  rw [hidx] at he
  rw [he] at hmap
  have h0 : e.socketId = 0 := Option.some.inj (Option.some.inj hmap)
  rw [h0] at hsock
  exact absurd hsock (by decide)

end Machine

end Libmsr
