/-
  Libmsr.Mem.MemhdlrRuns

  Runs of the memory handler.

  - `handler_tracks_live`: until it is finalized, and while it is handed live blocks only,
    the table lists exactly the live addresses, and finalizing frees exactly these.
  - `memSafe_along_iff`: when a sequence of calls in any order, with finalizing in it,
    neither frees a block twice nor uses one that was freed.
-/
import Libmsr.Lib.Runs
import Libmsr.Mem.MemhdlrSpec

namespace Libmsr

open Runs

/-! ## Safety of one call -/

/-- What a call needs in the state that it is made in. -/
def SafeCall (m : Memhdlr) (c : MemCall) : Prop :=
  TableLive m ∧ m.slots.length < 2 ^ 31 ∧
    match c with
    | .malloc _ _ => True
    | .calloc _ _ => True
    | .realloc old _ => ReallocOk m old
    | .free old => FreeOk m old
    | .finalize => (tracked m).Nodup

section Steps

variable {m : Memhdlr} {b : Block} {slots : List (Option Block)}

/-- **Step lemma.**  A safe call returns, and keeps the invariant. -/
theorem memStep_safe (hm : HandlerInv m) {c : MemCall} (hok : AllocatorOk m c)
    (hsafe : SafeCall m c) : ∃ m', memStep m c = some m' ∧ HandlerInv m' := by
  obtain ⟨hlive, hlast, harg⟩ := hsafe
  cases c with
  | malloc addr tableAddr =>
    obtain ⟨m', hm', hinv, -⟩ := libmsrAlloc_eq hm hlive hlast hok
    exact ⟨m', hm', hinv⟩
  | calloc addr tableAddr =>
    obtain ⟨m', hm', hinv, -⟩ := libmsrAlloc_eq hm hlive hlast hok
    exact ⟨m', hm', hinv⟩
  | realloc old addr =>
    obtain ⟨m', hm', hinv, -⟩ := libmsrRealloc_eq hm hlive hlast harg hok
    exact ⟨m', hm', hinv⟩
  | free old =>
    by_cases hskip : ∀ b, old = some b → ¬∃ p ∈ m.slots, sameAddr p (some b) = true
    · exact ⟨m, libmsrFree_skip hm hlive hlast hskip, hm⟩
    · push Not at hskip
      obtain ⟨b, rfl, hlisted⟩ := hskip
      obtain ⟨hb, hcount⟩ := harg b rfl hlisted
      obtain ⟨m', hm', hinv, -⟩ := libmsrFree_eq hm hlive hlast hb hcount
      exact ⟨m', hm', hinv⟩
  | finalize =>
    obtain ⟨m', hm', hinv, -⟩ := memhdlrFinalize_eq hm hlive hlast harg
    exact ⟨m', hm', hinv⟩

/-- Other calls do not return. -/
theorem memStep_faults (hm : HandlerInv m) {c : MemCall} (hok : AllocatorOk m c)
    (hbad : ¬SafeCall m c) : memStep m c = none := by
  have halloc : ¬(TableLive m ∧ m.slots.length < 2 ^ 31 ∧ True) →
      ¬TableLive m ∨ 2 ^ 31 ≤ m.slots.length := by
    intro hnot
    by_cases hlive : TableLive m
    · exact .inr (Nat.le_of_not_lt fun hlast => hnot ⟨hlive, hlast, trivial⟩)
    · exact .inl hlive
  cases c with
  | malloc addr tableAddr => exact libmsrAlloc_none hm hok (halloc hbad)
  | calloc addr tableAddr => exact libmsrAlloc_none hm hok (halloc hbad)
  | realloc old addr => exact libmsrRealloc_none hm hok hbad
  | free old => exact libmsrFree_none hm hbad
  | finalize => exact memhdlrFinalize_none hm hbad

/-! ## Runs with finalizing -/

/-- The call neither frees a block twice nor uses one that was freed. -/
def MemSafe (m : Memhdlr) (c : MemCall) : Prop := memStep m c ≠ none

/-- A run is safe exactly when each of its calls finds the table there, and is handed
    blocks in order. -/
theorem memSafe_along_iff (calls : List MemCall) (hok : Along memStep AllocatorOk .init calls) :
    Along memStep MemSafe .init calls ↔ Along memStep SafeCall .init calls := by
  have hiff : Along memStep (fun m c => AllocatorOk m c ∧ MemSafe m c) .init calls ↔
      Along memStep (fun m c => AllocatorOk m c ∧ SafeCall m c) .init calls := by
    apply along_iff (I := HandlerInv)
    · intro m c hm
      refine and_congr_right fun hok => ⟨fun hsafe => ?_, fun hsafe => ?_⟩
      · exact by_contra fun hbad => hsafe (memStep_faults hm hok hbad)
      · obtain ⟨m', hm', -⟩ := memStep_safe hm hok hsafe
        rw [MemSafe, hm']
        exact nofun
    · intro m c m' hm hboth heq
      obtain ⟨m'', hm'', hinv⟩ := memStep_safe hm hboth.1 hboth.2
      exact Option.some.inj (hm''.symm.trans heq) ▸ hinv
    · exact init_handlerInv
  rw [along_and, along_and] at hiff
  exact ⟨fun h => (hiff.mp ⟨hok, h⟩).2, fun h => (hiff.mpr ⟨hok, h⟩).2⟩

/-- A block that is freed before finalizing. -/
theorem freedBlock_memSafe :
    Along memStep MemSafe .init [.malloc 100 200, .free (some ⟨100, 0⟩), .finalize] := by
  refine (memSafe_along_iff _ ?_).mpr ?_
  · refine .cons ⟨nofun, by decide, .inl nofun⟩ rfl ?_
    exact .cons trivial rfl (.cons trivial rfl trivial)
  · refine .cons ⟨nofun, by decide, trivial⟩ rfl ?_
    refine .cons ⟨?_, by decide, ?_⟩ rfl ?_
    · intro t ht
      exact Option.some.inj ht ▸ List.mem_cons_self ..
    · intro b hb _
      obtain rfl := Option.some.inj hb
      exact ⟨by decide, by decide⟩
    · refine .cons ⟨?_, by decide, List.nodup_nil⟩ rfl trivial
      intro t ht
      exact Option.some.inj ht ▸ List.mem_cons_self ..

/-- After finalizing, the next allocation is written into the table that was freed. -/
theorem finalized_not_memSafe :
    Along memStep AllocatorOk .init [.malloc 100 200, .finalize, .malloc 300 400] ∧
      ¬ Along memStep MemSafe .init [.malloc 100 200, .finalize, .malloc 300 400] := by
  constructor
  · refine .cons ⟨nofun, by decide, .inl nofun⟩ rfl ?_
    refine .cons trivial rfl ?_
    exact ⟨⟨nofun, by decide, .inl nofun⟩, fun _ _ => trivial⟩
  · rintro ⟨-, hrest⟩
    obtain ⟨-, hrest⟩ := hrest _ rfl
    obtain ⟨hsafe, -⟩ := hrest _ rfl
    exact hsafe rfl

/-! ## Runs without finalizing -/

/-- The addresses that were handed out and not given back, as the calls say. -/
def liveAfter (live : List Nat) : MemCall → List Nat
  | .malloc addr _ => addr :: live
  | .calloc addr _ => addr :: live
  | .realloc none addr => addr :: live
  | .realloc (some b) addr => addr :: live.erase b.addr
  | .free none => live
  | .free (some b) => live.erase b.addr
  | .finalize => []

def liveAddrs (calls : List MemCall) : List Nat := calls.foldl liveAfter []

def isAllocation : MemCall → Bool
  | .malloc _ _ => true
  | .calloc _ _ => true
  | _ => false

/-- `libmsr_realloc` and `libmsr_free` are handed a live block that the table lists. -/
def TrackedArg (m : Memhdlr) : MemCall → Prop
  | .malloc _ _ => True
  | .calloc _ _ => True
  | .realloc old _ => ∃ b ∈ tracked m, old = some b ∧ b ∈ m.heap.live
  | .free old => ∃ b ∈ tracked m, old = some b ∧ b ∈ m.heap.live
  | .finalize => False

/-- The table lists the live addresses. -/
structure TracksLive (m : Memhdlr) (live : List Nat) : Prop where
  inv : HandlerInv m
  table : TableLive m
  addrs : ((tracked m).map Block.addr).Perm live
  nodup : live.Nodup
  complete : ∀ b, UserLive m b → b ∈ tracked m

theorem init_tracksLive : TracksLive .init [] :=
  ⟨init_handlerInv, nofun, List.Perm.nil, List.nodup_nil, fun _ hb => nomatch hb.1⟩

variable {live : List Nat}

theorem TracksLive.userLive (h : TracksLive m live) (hb : b ∈ tracked m) : UserLive m b :=
  h.inv.listed h.table b (mem_tracked.mp hb)

theorem TracksLive.tracked_nodup (h : TracksLive m live) : (tracked m).Nodup :=
  List.Nodup.of_map Block.addr (h.addrs.nodup_iff.mpr h.nodup)

/-- A listed block takes one slot. -/
theorem TracksLive.countP_eq (h : TracksLive m live) (hb : b ∈ tracked m) :
    m.slots.countP (fun p => sameAddr p (some b)) = 1 := by
  have hcount : (tracked m).count b = 1 :=
    List.count_eq_one_of_mem h.tracked_nodup hb
  rw [tracked, List.count_filterMap] at hcount
  rw [← hcount]
  apply List.countP_congr
  intro p hp
  rw [h.inv.sameAddr_iff h.table (h.userLive hb).1 hp]
  exact beq_iff_eq.symm

/-- Without `b`, the table lists the other addresses. -/
theorem TracksLive.erase_perm (h : TracksLive m live) (hb : b ∈ tracked m) :
    (((tracked m).erase b).map Block.addr).Perm (live.erase b.addr) := by
  have hcons : ((tracked m).map Block.addr).Perm (b.addr :: ((tracked m).erase b).map Block.addr) :=
    (List.perm_cons_erase hb).map Block.addr
  have hlive := (h.addrs.symm.trans hcons).erase b.addr
  rw [List.erase_cons_head] at hlive
  exact hlive.symm

/-- Clearing the slot of `b`. -/
theorem filterMap_clear (slots : List (Option Block)) (b : Block) :
    (slots.map fun p => if p = some b then none else p).filterMap id =
      (slots.filterMap id).filter (· != b) := by
  rw [List.filterMap_map, List.filter_filterMap]
  congr 1
  funext p
  cases p with
  | none => rfl
  | some c => by_cases hc : c = b <;> simp [Option.filter, hc]

/-- Putting `c` there. -/
theorem filterMap_replace (slots : List (Option Block)) (b c : Block) :
    (slots.map fun p => if p = some b then some c else p).filterMap id =
      (slots.filterMap id).map fun d => if d = b then c else d := by
  rw [List.filterMap_map, List.map_filterMap]
  congr 1
  funext p
  cases p with
  | none => rfl
  | some d => by_cases hd : d = b <;> simp [hd]

/-- No listed address is unused. -/
theorem TracksLive.unused (h : TracksLive m live) {addr : Nat} (hu : m.heap.Unused addr) :
    addr ∉ live := by
  intro hmem
  obtain ⟨b, hb, rfl⟩ := List.mem_map.mp (h.addrs.mem_iff.mpr hmem)
  exact hu b (h.userLive hb).1 rfl

theorem TracksLive.alloc (h : TracksLive m live) (hlast : m.slots.length < 2 ^ 31)
    {addr tableAddr : Nat} (hok : AllocatorOk m (.malloc addr tableAddr)) :
    ∃ m', libmsrAlloc m addr tableAddr = some m' ∧ TracksLive m' (addr :: live) ∧
      m'.slots.length = m.slots.length + 1 := by
  obtain ⟨m', hm', hinv, htable, hslots, -, husers⟩ := libmsrAlloc_eq h.inv h.table hlast hok
  have htracked : tracked m' = tracked m ++ [m.heap.newBlock addr] := by
    rw [tracked, hslots, List.filterMap_append]
    rfl
  refine ⟨m', hm', ⟨hinv, htable, ?_, List.nodup_cons.mpr ⟨h.unused hok.1, h.nodup⟩, ?_⟩, ?_⟩
  · rw [htracked, List.map_append]
    exact List.perm_append_comm.trans (h.addrs.cons addr)
  · intro b hb
    rw [htracked]
    rcases (husers b).mp hb with rfl | hb
    · exact List.mem_append_right _ (List.mem_singleton_self _)
    · exact List.mem_append_left _ (h.complete b hb)
  · rw [hslots, List.length_append]
    rfl

theorem TracksLive.realloc (h : TracksLive m live) (hlast : m.slots.length < 2 ^ 31)
    (hb : b ∈ tracked m) {addr : Nat} (hok : AllocatorOk m (.realloc (some b) addr)) :
    ∃ m', libmsrRealloc m (some b) addr = some m' ∧
      TracksLive m' (addr :: live.erase b.addr) ∧ m'.slots.length = m.slots.length := by
  have hold : ReallocOk m (some b) := fun c hc => Option.some.inj hc ▸ h.userLive hb
  obtain ⟨m', hm', hinv, htable, hslots, -, husers⟩ :=
    libmsrRealloc_eq h.inv h.table hlast hold hok
  let moved : Block → Block := fun d => if d = b then m.heap.newBlock addr else d
  have htracked : tracked m' = (tracked m).map moved := by
    rw [tracked, hslots, filterMap_replace]
    rfl
  -- the other blocks stay
  have hothers : ((tracked m).erase b).map moved = (tracked m).erase b := by
    refine (List.map_congr_left fun d hd => ?_).trans (List.map_id _)
    exact if_neg (h.tracked_nodup.mem_erase_iff.mp hd).1
  have hperm : (tracked m').Perm (m.heap.newBlock addr :: (tracked m).erase b) := by
    have hcons := (List.perm_cons_erase hb).map moved
    rw [List.map_cons, hothers, show moved b = m.heap.newBlock addr from if_pos rfl] at hcons
    rw [htracked]
    exact hcons
  refine ⟨m', hm', ⟨hinv, htable, ?_, List.nodup_cons.mpr ⟨?_, h.nodup.erase _⟩, ?_⟩, ?_⟩
  · exact (hperm.map Block.addr).trans ((h.erase_perm hb).cons addr)
  · rcases hok with hu | ⟨b', hb', rfl⟩
    · exact fun hmem => h.unused hu (List.mem_of_mem_erase hmem)
    · obtain rfl := Option.some.inj hb'
      exact h.nodup.not_mem_erase
  · intro c hc
    rw [hperm.mem_iff]
    rcases (husers c).mp hc with rfl | ⟨hne, hc⟩
    · exact List.mem_cons_self ..
    · have hcb : c ≠ b := fun heq => hne (congrArg some heq.symm)
      exact List.mem_cons_of_mem _ ((List.mem_erase_of_ne hcb).mpr (h.complete c hc))
  · rw [hslots, List.length_map]

theorem TracksLive.free (h : TracksLive m live) (hlast : m.slots.length < 2 ^ 31)
    (hb : b ∈ tracked m) :
    ∃ m', libmsrFree m (some b) = some m' ∧ TracksLive m' (live.erase b.addr) ∧
      m'.slots.length = m.slots.length := by
  obtain ⟨m', hm', hinv, htable, hslots, -, husers⟩ :=
    libmsrFree_eq h.inv h.table hlast (h.userLive hb).1 (h.countP_eq hb)
  have htracked : tracked m' = (tracked m).erase b := by
    rw [tracked, hslots, filterMap_clear, h.tracked_nodup.erase_eq_filter]
    rfl
  refine ⟨m', hm', ⟨hinv, htable, ?_, h.nodup.erase _, ?_⟩, ?_⟩
  · rw [htracked]
    exact h.erase_perm hb
  · intro c hc
    obtain ⟨hne, hc⟩ := (husers c).mp hc
    rw [htracked]
    exact (List.mem_erase_of_ne hne).mpr (h.complete c hc)
  · rw [hslots, List.length_map]

/-- **Step lemma.**  A call with a listed block returns, and the table lists the live
    addresses again. -/
theorem TracksLive.step (h : TracksLive m live) (hlast : m.slots.length < 2 ^ 31) {c : MemCall}
    (hok : AllocatorOk m c) (harg : TrackedArg m c) :
    ∃ m', memStep m c = some m' ∧ TracksLive m' (liveAfter live c) ∧
      m'.slots.length = m.slots.length + if isAllocation c then 1 else 0 := by
  cases c with
  | malloc addr tableAddr => exact h.alloc hlast hok
  | calloc addr tableAddr => exact h.alloc hlast hok
  | realloc old addr =>
    obtain ⟨b, hb, rfl, -⟩ := harg
    exact h.realloc hlast hb hok
  | free old =>
    obtain ⟨b, hb, rfl, -⟩ := harg
    exact h.free hlast hb
  | finalize => exact harg.elim

/-- **Run lemma.** -/
theorem TracksLive.run {calls : List MemCall} (h : TracksLive m live)
    (hrun : Along memStep (fun m c => AllocatorOk m c ∧ TrackedArg m c) m calls)
    (hcount : m.slots.length + calls.countP isAllocation < 2 ^ 31) :
    ∃ m', Runs.run memStep m calls = some m' ∧ TracksLive m' (calls.foldl liveAfter live) ∧
      m'.slots.length < 2 ^ 31 := by
  induction calls generalizing m live with
  | nil => exact ⟨m, rfl, h, hcount⟩
  | cons c cs ih =>
    obtain ⟨⟨hok, harg⟩, hrest⟩ := hrun
    rw [List.countP_cons] at hcount
    obtain ⟨m₁, hm₁, h₁, hlen⟩ := h.step (by omega) hok harg
    obtain ⟨m', hm', h', hlast⟩ := ih h₁ (hrest m₁ hm₁) (by omega)
    refine ⟨m', ?_, h', hlast⟩
    rw [run_cons, hm₁]
    exact hm'

/-- The table lists each live address once and nothing else, and finalizing frees what is
    live: the listed blocks and the table itself. -/
theorem handler_tracks_live (calls : List MemCall)
    (hrun : Along memStep (fun m c => AllocatorOk m c ∧ TrackedArg m c) .init calls)
    (hcount : calls.countP isAllocation < 2 ^ 31) :
    ∃ m, run memStep .init calls = some m ∧ m.slots.length ≤ m.size ∧
      ((tracked m).map Block.addr).Perm (liveAddrs calls) ∧ (liveAddrs calls).Nodup ∧
      (∀ b, b ∈ tracked m ↔ UserLive m b) ∧
      ∃ m', memStep m .finalize = some m' ∧ m'.heap.live = [] ∧
        m'.heap.freed = m.heap.freed ++ tracked m ++ m.arrays.toList := by
  have hstart : Memhdlr.init.slots.length + calls.countP isAllocation < 2 ^ 31 := by
    rw [show Memhdlr.init.slots.length = 0 from rfl, Nat.zero_add]
    exact hcount
  obtain ⟨m, hm, h, hlast⟩ := init_tracksLive.run hrun hstart
  obtain ⟨m', hm', -, hfreed, hlive⟩ :=
    memhdlrFinalize_eq h.inv h.table hlast h.tracked_nodup
  refine ⟨m, hm, h.inv.fits, h.addrs, h.nodup, fun b => ⟨h.userLive, h.complete b⟩, m', hm', ?_,
    hfreed⟩
  -- what is live is listed, and what is listed was freed
  apply List.eq_nil_iff_forall_not_mem.mpr
  intro c hc
  obtain ⟨huser, hnot⟩ := (hlive c).mp hc
  exact hnot (h.complete c huser)

/-- A block that moves and is freed, and one that is put where it was. -/
theorem movedBlock_tracked :
    ∃ m, run memStep .init [.malloc 100 200, .realloc (some ⟨100, 0⟩) 300, .calloc 100 400,
        .free (some ⟨300, 2⟩)] = some m ∧ ((tracked m).map Block.addr).Perm [100] := by
  have hrun : Along memStep (fun m c => AllocatorOk m c ∧ TrackedArg m c) .init
      [.malloc 100 200, .realloc (some ⟨100, 0⟩) 300, .calloc 100 400,
        .free (some ⟨300, 2⟩)] := by
    refine .cons ⟨⟨nofun, by decide, .inl nofun⟩, trivial⟩ rfl ?_
    refine .cons ⟨.inl (by unfold Heap.Unused; decide), ⟨100, 0⟩, by decide, rfl, by decide⟩ rfl ?_
    refine .cons ⟨⟨by unfold Heap.Unused; decide, by decide, .inl (by unfold Heap.Unused; decide)⟩,
      trivial⟩ rfl ?_
    exact .cons ⟨trivial, ⟨300, 2⟩, by decide, rfl, by decide⟩ rfl trivial
  obtain ⟨m, hm, -, hperm, -⟩ := handler_tracks_live _ hrun (by decide)
  exact ⟨m, hm, hperm⟩

end Steps

end Libmsr
