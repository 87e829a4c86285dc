/-
  Libmsr.Mem.MemhdlrSpec

  One spec lemma for each case of the memory handler, in states where the invariant
  `HandlerInv` holds and the table was not freed yet; and what fails otherwise.
-/
import Libmsr.Mem.Memhdlr

namespace Libmsr

/-! ## The loops -/

section Loops

variable {h h' : Heap} {t b : Block} {arrays old : Option Block} {slots : List (Option Block)}

theorem touchTable_eq (ht : t ∈ h.live) : touchTable (some t) h = some () := Heap.touch_eq ht

/-- A table that was freed cannot be used. -/
theorem touchTable_none (hdead : ∀ t, arrays = some t → t ∉ h.live) :
    touchTable arrays h = none := by
  cases arrays with
  | none => rfl
  | some t => exact Heap.touch_none (hdead t rfl)

theorem reallocLoop_eq (ht : t ∈ h.live) (address old : Option Block) :
    reallocLoop (some t) h address old slots =
      some (slots.map fun p => if sameAddr p old then address else p) := by
  induction slots with
  | nil => rfl
  | cons p ps ih =>
    simp only [reallocLoop, touchTable_eq ht, ih, Option.bind_eq_bind, Option.bind_some,
      List.map_cons]

theorem reallocLoop_none (hdead : ∀ t, arrays = some t → t ∉ h.live) (hne : slots ≠ [])
    (address old : Option Block) : reallocLoop arrays h address old slots = none := by
  cases slots with
  | nil => contradiction
  | cons p ps =>
    simp only [reallocLoop, touchTable_none hdead, Option.bind_eq_bind, Option.bind_none]

theorem freeLoop_none (hdead : ∀ t, arrays = some t → t ∉ h.live) (hne : slots ≠ [])
    (old : Option Block) : freeLoop arrays old h slots = none := by
  cases slots with
  | nil => contradiction
  | cons p ps => simp only [freeLoop, touchTable_none hdead, Option.bind_eq_bind, Option.bind_none]

theorem finalizeLoop_none (hdead : ∀ t, arrays = some t → t ∉ h.live) (hne : slots ≠ []) :
    finalizeLoop arrays h slots = none := by
  cases slots with
  | nil => contradiction
  | cons p ps =>
    simp only [finalizeLoop, touchTable_none hdead, Option.bind_eq_bind, Option.bind_none]

/-- Freeing what is not listed does nothing. -/
theorem freeLoop_unlisted (ht : t ∈ h.live) (hun : ∀ p ∈ slots, sameAddr p old = false) :
    freeLoop (some t) old h slots = some (h, slots) := by
  induction slots with
  | nil => rfl
  | cons p ps ih =>
    have hp := hun p (List.mem_cons_self ..)
    have hps := ih fun q hq => hun q (List.mem_cons_of_mem _ hq)
    simp only [freeLoop, touchTable_eq ht, hp, hps, Option.bind_eq_bind, Option.bind_some,
      Bool.false_eq_true, if_false]

/-- Neither does freeing NULL: it is stored over NULL. -/
theorem freeLoop_null (ht : t ∈ h.live) : freeLoop (some t) none h slots = some (h, slots) := by
  induction slots with
  | nil => rfl
  | cons p ps ih =>
    cases p with
    | none =>
      have hsame : sameAddr none none = true := rfl
      simp only [freeLoop, touchTable_eq ht, hsame, freePtr, ih, Option.bind_eq_bind,
        Option.bind_some, if_true]
    | some b =>
      have hsame : sameAddr (some b) none = false := rfl
      simp only [freeLoop, touchTable_eq ht, hsame, ih, Option.bind_eq_bind, Option.bind_some,
        Bool.false_eq_true, if_false]

/-- A listed block that is not live cannot be freed. -/
theorem freeLoop_dead (ht : t ∈ h.live) (hb : b ∉ h.live)
    (hlisted : ∃ p ∈ slots, sameAddr p (some b) = true) :
    freeLoop (some t) (some b) h slots = none := by
  induction slots with
  | nil =>
    obtain ⟨p, hp, -⟩ := hlisted
    contradiction
  | cons p ps ih =>
    by_cases hp : sameAddr p (some b) = true
    · simp only [freeLoop, touchTable_eq ht, hp, freePtr, Heap.free_none hb, Option.bind_eq_bind,
        Option.bind_some, Option.bind_none, if_true]
    · -- the match comes later
      obtain ⟨q, hq, hqb⟩ := hlisted
      have hqs : q ∈ ps := (List.mem_cons.mp hq).resolve_left fun heq => hp (heq ▸ hqb)
      have hps := ih ⟨q, hqs, hqb⟩
      simp only [freeLoop, touchTable_eq ht, if_neg hp, hps, Option.bind_eq_bind, Option.bind_some,
        Option.bind_none]

/-- The heap after freeing `b`. -/
def afterFree (h : Heap) (b : Block) : Heap :=
  { h with live := h.live.erase b, freed := h.freed ++ [b] }

/-- The slots after freeing `b`. -/
def clearSlots (b : Block) (slots : List (Option Block)) : List (Option Block) :=
  slots.map fun p => if sameAddr p (some b) then none else p

theorem clearSlots_unlisted (hun : ∀ p ∈ slots, sameAddr p (some b) = false) :
    clearSlots b slots = slots := by
  refine (List.map_congr_left fun p hp => ?_).trans (List.map_id _)
  rw [hun p hp]
  rfl

/-- A live block that is listed once is freed once. -/
theorem freeLoop_once (hw : h.WF) (ht : t ∈ h.live) (hb : b ∈ h.live) (hne : t ≠ b)
    (hcount : slots.countP (fun p => sameAddr p (some b)) = 1) :
    freeLoop (some t) (some b) h slots = some (afterFree h b, clearSlots b slots) := by
  have ht' : t ∈ (afterFree h b).live := hw.mem_erase.mpr ⟨hne, ht⟩
  induction slots with
  | nil => contradiction
  | cons p ps ih =>
    by_cases hp : sameAddr p (some b) = true
    · rw [List.countP_cons_of_pos (p := fun p => sameAddr p (some b)) hp] at hcount
      have hun : ∀ q ∈ ps, sameAddr q (some b) = false := by
        intro q hq
        simpa using List.countP_eq_zero.mp (Nat.succ.inj hcount) q hq
      have hrest := freeLoop_unlisted ht' hun
      have hfree : h.free b = some (afterFree h b) := Heap.free_eq hb
      simp only [freeLoop, touchTable_eq ht, touchTable_eq ht', hp, freePtr, hfree, hrest,
        Option.bind_eq_bind, Option.bind_some, if_true]
      rw [clearSlots, List.map_cons, if_pos hp]
      exact congrArg (fun ps => some (afterFree h b, none :: ps)) (clearSlots_unlisted hun).symm
    · rw [List.countP_cons_of_neg (p := fun p => sameAddr p (some b)) hp] at hcount
      simp only [freeLoop, touchTable_eq ht, if_neg hp, ih hcount, Option.bind_eq_bind,
        Option.bind_some]
      rw [clearSlots, clearSlots, List.map_cons, if_neg hp]

/-- One that is listed twice is freed twice. -/
theorem freeLoop_twice (hw : h.WF) (ht : t ∈ h.live) (hb : b ∈ h.live) (hne : t ≠ b)
    (hcount : 2 ≤ slots.countP (fun p => sameAddr p (some b))) :
    freeLoop (some t) (some b) h slots = none := by
  have ht' : t ∈ (afterFree h b).live := hw.mem_erase.mpr ⟨hne, ht⟩
  have hb' : b ∉ (afterFree h b).live := fun hmem => (hw.mem_erase.mp hmem).1 rfl
  induction slots with
  | nil => contradiction
  | cons p ps ih =>
    by_cases hp : sameAddr p (some b) = true
    · rw [List.countP_cons_of_pos (p := fun p => sameAddr p (some b)) hp] at hcount
      have hrest := freeLoop_dead ht' hb' (List.countP_pos_iff.mp (Nat.le_of_succ_le_succ hcount))
      have hfree : h.free b = some (afterFree h b) := Heap.free_eq hb
      simp only [freeLoop, touchTable_eq ht, touchTable_eq ht', hp, freePtr, hfree, hrest,
        Option.bind_eq_bind, Option.bind_some, Option.bind_none, if_true]
    · rw [List.countP_cons_of_neg (p := fun p => sameAddr p (some b)) hp] at hcount
      simp only [freeLoop, touchTable_eq ht, if_neg hp, ih hcount, Option.bind_eq_bind,
        Option.bind_some, Option.bind_none]

/-- Finalizing frees what is listed, slot by slot. -/
theorem finalizeLoop_eq (hw : h.WF) (ht : t ∈ h.live) (hne : some t ∉ slots) :
    finalizeLoop (some t) h slots = h.freeAll (slots.filterMap id) := by
  induction slots generalizing h with
  | nil => rfl
  | cons p ps ih =>
    rw [List.mem_cons, not_or] at hne
    cases p with
    | none =>
      have hrest := ih hw ht hne.2
      simp only [finalizeLoop, touchTable_eq ht, freePtr, hrest, Option.bind_eq_bind,
        Option.bind_some]
      rfl
    | some b =>
      have hcons : (some b :: ps).filterMap id = b :: ps.filterMap id := rfl
      rw [hcons, Heap.freeAll_cons]
      by_cases hb : b ∈ h.live
      · have htb : t ≠ b := fun heq => hne.1 (congrArg some heq)
        have ht' : t ∈ (afterFree h b).live := hw.mem_erase.mpr ⟨htb, ht⟩
        have hfree : h.free b = some (afterFree h b) := Heap.free_eq hb
        have hrest := ih (hw.erase b (h.freed ++ [b])) ht' hne.2
        simp only [finalizeLoop, touchTable_eq ht, freePtr, hfree, Option.bind_eq_bind,
          Option.bind_some]
        exact hrest
      · simp only [finalizeLoop, touchTable_eq ht, freePtr, Heap.free_none hb, Option.bind_eq_bind,
          Option.bind_some, Option.bind_none]

end Loops

/-! ## The invariant -/

/-- The table is there, if there is one. -/
def TableLive (m : Memhdlr) : Prop := ∀ t, m.arrays = some t → t ∈ m.heap.live

/-- `b` is a live block, and not the table. -/
def UserLive (m : Memhdlr) (b : Block) : Prop := b ∈ m.heap.live ∧ m.arrays ≠ some b

/-- What holds in every state that calls without an error lead to. -/
structure HandlerInv (m : Memhdlr) : Prop where
  wf : m.heap.WF
  older : ∀ t, m.arrays = some t → t.serial < m.heap.next
  bare : m.arrays = none → m.slots = [] ∧ m.size = 16
  stored : m.arrays ≠ none → m.slots ≠ []
  listed : TableLive m → ∀ b, some b ∈ m.slots → UserLive m b
  fits : m.slots.length ≤ m.size
  doubled : ∃ k ≤ 27, m.size = 16 * 2 ^ k

theorem init_handlerInv : HandlerInv .init where
  wf := Heap.init_wf
  older := nofun
  bare := fun _ => ⟨rfl, rfl⟩
  stored := fun hne => absurd rfl hne
  listed := fun _ _ hb => nomatch hb
  fits := Nat.zero_le 16
  doubled := ⟨0, by decide, rfl⟩

section States

variable {m m' : Memhdlr} {b c t : Block} {addr tableAddr : Nat}

/-- Two live pointers are equal when their addresses are. -/
theorem HandlerInv.sameAddr_iff (hm : HandlerInv m) (hlive : TableLive m) (hb : b ∈ m.heap.live)
    {p : Option Block} (hp : p ∈ m.slots) : sameAddr p (some b) = true ↔ p = some b := by
  cases p with
  | none =>
    constructor
    · intro hsame
      exact nomatch decide_eq_true_iff.mp hsame
    · exact nofun
  | some c =>
    have hc := (hm.listed hlive c hp).1
    constructor
    · intro hsame
      have haddr : c.addr = b.addr := Option.some.inj (decide_eq_true_iff.mp hsame)
      exact congrArg some (hm.wf.eq_of_addr hc hb haddr)
    · intro heq
      exact decide_eq_true_iff.mpr (congrArg (Option.map Block.addr) heq)

/-- If there are no slots, the table is no obstacle. -/
theorem HandlerInv.tableLive_of_nil (hm : HandlerInv m) (hnil : m.slots = []) : TableLive m := by
  intro t ht
  refine absurd hnil (hm.stored ?_)
  rw [ht]
  exact nofun

/-- There is a table as soon as there are slots. -/
theorem HandlerInv.arrays_of_slots (hm : HandlerInv m) (hne : m.slots ≠ []) :
    ∃ t, m.arrays = some t := by
  cases harr : m.arrays with
  | none => exact absurd (hm.bare harr).1 hne
  | some t => exact ⟨t, rfl⟩

/-- Where the table was freed, there are slots. -/
theorem HandlerInv.slots_of_dead (hm : HandlerInv m) (hdead : ¬TableLive m) : m.slots ≠ [] :=
  fun hnil => hdead (hm.tableLive_of_nil hnil)

theorem dead_of_not_tableLive (hdead : ¬TableLive m) :
    ∀ t, m.arrays = some t → t ∉ m.heap.live := by
  intro t ht hlive
  refine hdead fun t' ht' => ?_
  rw [ht] at ht'
  exact Option.some.inj ht' ▸ hlive

/-! ## Allocation -/

/-- `m'` is `m` with a table that has a free slot. -/
structure Roomy (m m' : Memhdlr) : Prop where
  wf : m'.heap.WF
  table : ∃ t, m'.arrays = some t ∧ t ∈ m'.heap.live ∧ t.serial < m'.heap.next
  slots : m'.slots = m.slots
  room : m'.slots.length < m'.size
  doubled : ∃ k ≤ 27, m'.size = 16 * 2 ^ k
  freed : m'.heap.freed = m.heap.freed
  users : ∀ c, UserLive m' c ↔ UserLive m c

/-- The address goes into the next slot. -/
theorem Roomy.push (hm : HandlerInv m) (hlive : TableLive m) (hb : UserLive m b)
    (hr : Roomy m m') :
    HandlerInv { m' with slots := m'.slots ++ [some b] } ∧
      TableLive { m' with slots := m'.slots ++ [some b] } := by
  obtain ⟨t, ht, htlive, holder⟩ := hr.table
  constructor
  · constructor
    · exact hr.wf
    · intro t' ht'
      exact Option.some.inj (ht.symm.trans ht') ▸ holder
    · intro harr
      rw [show m'.arrays = none from harr] at ht
      contradiction
    · exact fun _ => List.append_ne_nil_of_right_ne_nil _ (List.cons_ne_nil _ _)
    · intro _ c hc
      refine (hr.users c).mpr ?_
      rcases List.mem_append.mp hc with hc | hc
      · exact hm.listed hlive c (hr.slots ▸ hc)
      · exact Option.some.inj (List.mem_singleton.mp hc) ▸ hb
    · rw [List.length_append]
      exact hr.room
    · exact hr.doubled
  · intro t' ht'
    rw [show m'.arrays = some t' from ht'] at ht
    exact Option.some.inj ht ▸ htlive

/-- Creating the table. -/
theorem roomy_created (hm : HandlerInv m) (harr : m.arrays = none)
    (hu : m.heap.Unused tableAddr) :
    Roomy m { m with
      arrays := some (m.heap.newBlock tableAddr)
      heap := m.heap.alloc tableAddr } where
  wf := hm.wf.alloc hu
  table := ⟨_, rfl, List.mem_cons_self .., Nat.lt_succ_self _⟩
  slots := rfl
  room := by
    obtain ⟨hslots, hsize⟩ := hm.bare harr
    rw [hslots, hsize]
    decide
  doubled := hm.doubled
  freed := rfl
  users := by
    intro c
    show c ∈ (m.heap.alloc tableAddr).live ∧ some (m.heap.newBlock tableAddr) ≠ some c ↔
      c ∈ m.heap.live ∧ m.arrays ≠ some c
    rw [Heap.mem_alloc, harr]
    constructor
    · rintro ⟨rfl | hc, hne⟩
      · exact absurd rfl hne
      · exact ⟨hc, nofun⟩
    · rintro ⟨hc, -⟩
      exact ⟨.inr hc, fun heq => hm.wf.newBlock_ne hc (Option.some.inj heq).symm⟩

/-- Doubling it. -/
theorem roomy_grown (hm : HandlerInv m) (harr : m.arrays = some t) (ht : t ∈ m.heap.live)
    (hfull : m.size ≤ m.slots.length) (hlast : m.slots.length < 2 ^ 31)
    (haddr : m.heap.Unused tableAddr ∨ ∃ t, m.arrays = some t ∧ tableAddr = t.addr) :
    ∃ heap, m.heap.realloc m.arrays tableAddr = some heap ∧
      Roomy m { m with
        heap := heap
        arrays := some (m.heap.newBlock tableAddr)
        size := m.size * 2 % 2 ^ 32 } := by
  have hold : ∀ b, m.arrays = some b → b ∈ m.heap.live := by
    intro b hb
    rw [harr] at hb
    exact Option.some.inj hb ▸ ht
  obtain ⟨heap, hheap, hwf, hfreed, hnext, hmem⟩ := hm.wf.realloc hold haddr
  have holder : m.heap.next < heap.next := hnext ▸ Nat.lt_succ_self _
  obtain ⟨k, hk, hsize⟩ := hm.doubled
  -- the size is below 2^31, so it has not reached the last power
  have hlt : 2 ^ (k + 4) < 2 ^ 31 := by
    have heq : 16 * 2 ^ k = 2 ^ (k + 4) := by rw [Nat.pow_add, Nat.mul_comm]
    omega
  have hk' : k + 4 < 31 := (Nat.pow_lt_pow_iff_right (by decide)).mp hlt
  have hsize' : m.size * 2 % 2 ^ 32 = m.size * 2 := Nat.mod_eq_of_lt (by have := hm.fits; omega)
  refine ⟨heap, hheap, hwf, ⟨_, rfl, (hmem _).mpr (.inl rfl), holder⟩, rfl, ?_,
    ⟨k + 1, by omega, ?_⟩, hfreed, fun c => ?_⟩
  · show m.slots.length < m.size * 2 % 2 ^ 32
    rw [hsize']
    have hpos : 0 < 2 ^ k := Nat.two_pow_pos k
    have := hm.fits
    omega
  · show m.size * 2 % 2 ^ 32 = 16 * 2 ^ (k + 1)
    rw [hsize', hsize, Nat.pow_succ, Nat.mul_assoc]
  · show c ∈ heap.live ∧ some (m.heap.newBlock tableAddr) ≠ some c ↔
      c ∈ m.heap.live ∧ m.arrays ≠ some c
    rw [hmem]
    constructor
    · rintro ⟨rfl | ⟨hne, hc⟩, hnew⟩
      · exact absurd rfl hnew
      · exact ⟨hc, hne⟩
    · rintro ⟨hc, hne⟩
      exact ⟨.inr ⟨hne, hc⟩, fun heq => hm.wf.newBlock_ne hc (Option.some.inj heq).symm⟩

/-- Storing an address: the table gets a free slot, and the address goes there. -/
theorem handleAlloc_eq (hm : HandlerInv m) (hlive : TableLive m) (hlast : m.slots.length < 2 ^ 31)
    (haddr : m.heap.Unused tableAddr ∨ ∃ t, m.arrays = some t ∧ tableAddr = t.addr) (b : Block) :
    ∃ m', Roomy m m' ∧
      handleAlloc m b tableAddr = some { m' with slots := m'.slots ++ [some b] } := by
  cases harr : m.arrays with
  | none =>
    have hu : m.heap.Unused tableAddr := haddr.resolve_right fun ⟨t, ht, _⟩ => by
      rw [harr] at ht
      contradiction
    have hroomy := roomy_created hm harr hu
    obtain ⟨hslots, hsize⟩ := hm.bare harr
    have hnew : m.heap.newBlock tableAddr ∈ (m.heap.alloc tableAddr).live :=
      Heap.mem_alloc.mpr (.inl rfl)
    refine ⟨_, hroomy, ?_⟩
    simp only [handleAlloc, harr, hslots, hsize, touchTable_eq hnew, Option.bind_eq_bind,
      Option.bind_some]
    rfl
  | some t =>
    have ht := hlive t harr
    by_cases hfull : m.size ≤ m.slots.length
    · obtain ⟨heap, hheap, hroomy⟩ := roomy_grown hm harr ht hfull hlast haddr
      obtain ⟨t', ht', htlive, -⟩ := hroomy.table
      obtain rfl := Option.some.inj ht'
      refine ⟨_, hroomy, ?_⟩
      rw [harr] at hheap
      simp only [handleAlloc, harr, ge_iff_le, hfull, hheap, touchTable_eq htlive,
        Option.bind_eq_bind, Option.bind_some, if_true]
      exact if_pos hroomy.room
    · have hroomy : Roomy m m :=
        ⟨hm.wf, ⟨t, harr, ht, hm.older t harr⟩, rfl, Nat.lt_of_not_le hfull, hm.doubled, rfl,
          fun _ => Iff.rfl⟩
      refine ⟨m, hroomy, ?_⟩
      simp only [handleAlloc, harr, ge_iff_le, hfull, touchTable_eq ht, Option.bind_eq_bind,
        Option.bind_some, if_false]
      rw [← harr]
      exact if_pos hroomy.room

/-- A table that was freed cannot take an address, and neither can the longest one. -/
theorem handleAlloc_none (hm : HandlerInv m)
    (hbad : ¬TableLive m ∨ 2 ^ 31 ≤ m.slots.length) (b : Block) :
    handleAlloc m b tableAddr = none := by
  have hne : m.slots ≠ [] := by
    rcases hbad with hdead | hlong
    · exact hm.slots_of_dead hdead
    · intro hnil
      rw [hnil] at hlong
      contradiction
  obtain ⟨t, harr⟩ := hm.arrays_of_slots hne
  by_cases ht : t ∈ m.heap.live
  · -- the table is full, and doubling its size gives 0
    have hlive : TableLive m := fun t' ht' => Option.some.inj (harr.symm.trans ht') ▸ ht
    have hlong : 2 ^ 31 ≤ m.slots.length := hbad.resolve_left fun hdead => hdead hlive
    obtain ⟨k, hk, hsize⟩ := hm.doubled
    have hpow : 2 ^ k ≤ 2 ^ 27 := Nat.pow_le_pow_right (by decide) hk
    have hfits := hm.fits
    have hfull : m.slots.length ≥ m.size := by omega
    have hzero : m.size * 2 % 2 ^ 32 = 0 := by omega
    simp only [handleAlloc, harr, hfull, if_true, hzero, Option.bind_eq_bind]
    cases m.heap.realloc (some t) tableAddr with
    | none => rfl
    | some heap => simp only [Option.bind_some, Nat.not_lt_zero, if_false, Option.bind_fun_none]
  · by_cases hfull : m.slots.length ≥ m.size
    · simp only [handleAlloc, harr, hfull, if_true, Heap.realloc_none ht, Option.bind_eq_bind,
        Option.bind_none]
    · have hdead : ∀ t', some t = some t' → t' ∉ m.heap.live :=
        fun t' heq => Option.some.inj heq ▸ ht
      simp only [handleAlloc, harr, hfull, if_false, touchTable_none hdead, Option.bind_eq_bind,
        Option.bind_some, Option.bind_none]

theorem HandlerInv.table_ne_newBlock (hm : HandlerInv m) {t : Block} (ht : m.arrays = some t) :
    t ≠ m.heap.newBlock addr := by
  rintro rfl
  exact absurd (hm.older _ ht) (Nat.lt_irrefl _)

/-- The new block itself, before it is stored. -/
theorem HandlerInv.alloc (hm : HandlerInv m) (hu : m.heap.Unused addr) :
    HandlerInv { m with heap := m.heap.alloc addr } ∧
      (TableLive { m with heap := m.heap.alloc addr } ↔ TableLive m) ∧
      ∀ c, UserLive { m with heap := m.heap.alloc addr } c ↔
        c = m.heap.newBlock addr ∨ UserLive m c := by
  have hlive : TableLive { m with heap := m.heap.alloc addr } ↔ TableLive m :=
    forall_congr' fun t => imp_congr_right fun ht =>
      Heap.mem_alloc.trans (or_iff_right (hm.table_ne_newBlock ht))
  have husers : ∀ c, UserLive { m with heap := m.heap.alloc addr } c ↔
      c = m.heap.newBlock addr ∨ UserLive m c := by
    intro c
    show c ∈ (m.heap.alloc addr).live ∧ m.arrays ≠ some c ↔
      c = m.heap.newBlock addr ∨ c ∈ m.heap.live ∧ m.arrays ≠ some c
    rw [Heap.mem_alloc, or_and_right]
    exact or_congr_left (and_iff_left_of_imp fun heq harr => hm.table_ne_newBlock harr heq)
  refine ⟨⟨hm.wf.alloc hu, fun t ht => ?_, hm.bare, hm.stored, fun h b hb => ?_, hm.fits,
    hm.doubled⟩, hlive, husers⟩
  · exact Nat.lt_succ_of_lt (hm.older t ht)
  · exact (husers b).mpr (.inr (hm.listed (hlive.mp h) b hb))

/-- **`libmsr_malloc` and `libmsr_calloc`.**  The new block is listed last. -/
theorem libmsrAlloc_eq (hm : HandlerInv m) (hlive : TableLive m) (hlast : m.slots.length < 2 ^ 31)
    (hok : AllocatorOk m (.malloc addr tableAddr)) :
    ∃ m', libmsrAlloc m addr tableAddr = some m' ∧ HandlerInv m' ∧ TableLive m' ∧
      m'.slots = m.slots ++ [some (m.heap.newBlock addr)] ∧ m'.heap.freed = m.heap.freed ∧
      ∀ c, UserLive m' c ↔ c = m.heap.newBlock addr ∨ UserLive m c := by
  obtain ⟨hu, hne, htable⟩ := hok
  obtain ⟨hm₁, hlive₁, husers₁⟩ := hm.alloc hu
  have htable₁ : (m.heap.alloc addr).Unused tableAddr ∨
      ∃ t, m.arrays = some t ∧ tableAddr = t.addr := by
    apply htable.imp_left
    intro hu' c hc
    rcases Heap.mem_alloc.mp hc with rfl | hc
    · exact hne.symm
    · exact hu' c hc
  obtain ⟨m', hroomy, heq⟩ :=
    handleAlloc_eq hm₁ (hlive₁.mpr hlive) hlast htable₁ (m.heap.newBlock addr)
  obtain ⟨hm', hlive'⟩ :=
    hroomy.push hm₁ (hlive₁.mpr hlive) ((husers₁ _).mpr (.inl rfl))
  refine ⟨_, heq, hm', hlive', ?_, hroomy.freed, fun c => (hroomy.users c).trans (husers₁ c)⟩
  rw [hroomy.slots]

theorem libmsrAlloc_none (hm : HandlerInv m) (hok : AllocatorOk m (.malloc addr tableAddr))
    (hbad : ¬TableLive m ∨ 2 ^ 31 ≤ m.slots.length) : libmsrAlloc m addr tableAddr = none := by
  obtain ⟨hm₁, hlive₁, -⟩ := hm.alloc hok.1
  exact handleAlloc_none hm₁ (hbad.imp_left (mt hlive₁.mp)) _

/-! ## Reallocation -/

/-- What may be reallocated: NULL, or a live block that is not the table. -/
def ReallocOk (m : Memhdlr) (old : Option Block) : Prop := ∀ b, old = some b → UserLive m b

/-- What is compared with the address of a block that may be reallocated is that block. -/
theorem HandlerInv.sameAddr_old (hm : HandlerInv m) (hlive : TableLive m) {old : Option Block}
    (hold : ReallocOk m old) {p : Option Block} (hp : p ∈ m.slots) :
    sameAddr p old = true ↔ p = old := by
  cases old with
  | none => exact decide_eq_true_iff.trans Option.map_eq_none_iff
  | some b => exact hm.sameAddr_iff hlive (hold b rfl).1 hp

/-- The loop over the slots, run while the table is live. -/
theorem HandlerInv.reallocLoop_slots (hm : HandlerInv m) (hlive : TableLive m)
    {old : Option Block} (hold : ReallocOk m old) {heap : Heap}
    (htable : ∀ t, m.arrays = some t → t ∈ heap.live) (address : Option Block) :
    reallocLoop m.arrays heap address old m.slots =
      some (m.slots.map fun p => if p = old then address else p) := by
  by_cases hnil : m.slots = []
  · rw [hnil]
    rfl
  · obtain ⟨t, ht⟩ := hm.arrays_of_slots hnil
    rw [ht, reallocLoop_eq (htable t ht)]
    exact congrArg some (List.map_congr_left fun p hp =>
      if_congr (hm.sameAddr_old hlive hold hp) rfl rfl)

/-- **`libmsr_realloc`.**  The new block is listed wherever the old one was. -/
theorem libmsrRealloc_eq (hm : HandlerInv m) (hlive : TableLive m)
    (hlast : m.slots.length < 2 ^ 31) {old : Option Block} (hold : ReallocOk m old)
    (hok : AllocatorOk m (.realloc old addr)) :
    ∃ m', libmsrRealloc m old addr = some m' ∧ HandlerInv m' ∧ TableLive m' ∧
      m'.slots = m.slots.map (fun p => if p = old then some (m.heap.newBlock addr) else p) ∧
      m'.heap.freed = m.heap.freed ∧
      ∀ c, UserLive m' c ↔ c = m.heap.newBlock addr ∨ (old ≠ some c ∧ UserLive m c) := by
  obtain ⟨heap, hheap, hwf, hfreed, hnext, hmem⟩ := hm.wf.realloc (fun b hb => (hold b hb).1) hok
  -- the table stays where it is
  have htable : ∀ t, m.arrays = some t → t ∈ heap.live := by
    intro t ht
    refine (hmem t).mpr (.inr ⟨fun hot => ?_, hlive t ht⟩)
    exact (hold t hot).2 ht
  have husers : ∀ c, (c ∈ heap.live ∧ m.arrays ≠ some c) ↔
      c = m.heap.newBlock addr ∨ (old ≠ some c ∧ UserLive m c) := by
    intro c
    rw [hmem, or_and_right, and_assoc]
    exact or_congr_left (and_iff_left_of_imp fun heq harr => hm.table_ne_newBlock harr heq)
  have hloop : reallocLoop m.arrays heap (some (m.heap.newBlock addr)) old m.slots =
      some (m.slots.map fun p => if p = old then some (m.heap.newBlock addr) else p) :=
    hm.reallocLoop_slots hlive hold htable _
  refine ⟨{ m with
    heap := heap
    slots := m.slots.map fun p => if p = old then some (m.heap.newBlock addr) else p }, ?_, ?_,
    htable, rfl, hfreed, husers⟩
  · have hends : loopEnds m.slots.length = true := decide_eq_true hlast
    simp only [libmsrRealloc, hheap, hends, hloop, if_true, Option.bind_eq_bind, Option.bind_some]
  · constructor
    · exact hwf
    · intro t ht
      exact hnext ▸ Nat.lt_succ_of_lt (hm.older t ht)
    · intro harr
      obtain ⟨hslots, hsize⟩ := hm.bare harr
      exact ⟨by rw [hslots, List.map_nil], hsize⟩
    · exact fun harr hnil => hm.stored harr (List.map_eq_nil_iff.mp hnil)
    · intro _ c hc
      refine (husers c).mpr ?_
      obtain ⟨p, hp, hpc⟩ := List.mem_map.mp hc
      by_cases hpo : p = old
      · rw [if_pos hpo] at hpc
        exact .inl (Option.some.inj hpc).symm
      · rw [if_neg hpo] at hpc
        refine .inr ⟨fun hoc => hpo (hpc.trans hoc.symm), hm.listed hlive c (hpc ▸ hp)⟩
    · rw [List.length_map]
      exact hm.fits
    · exact hm.doubled

theorem libmsrRealloc_none (hm : HandlerInv m) {old : Option Block}
    (hok : AllocatorOk m (.realloc old addr))
    (hbad : ¬(TableLive m ∧ m.slots.length < 2 ^ 31 ∧ ReallocOk m old)) :
    libmsrRealloc m old addr = none := by
  by_cases hold : ∀ b, old = some b → b ∈ m.heap.live
  · obtain ⟨heap, hheap, -, -, -, hmem⟩ := hm.wf.realloc hold hok
    by_cases hlast : m.slots.length < 2 ^ 31
    · -- the table is not live when the loop starts
      have hdead : ∀ t, m.arrays = some t → t ∉ heap.live := by
        intro t ht htlive
        rcases (hmem t).mp htlive with rfl | ⟨hne, htlive⟩
        · exact absurd (hm.older _ ht) (Nat.lt_irrefl _)
        · apply hbad
          refine ⟨fun t' ht' => Option.some.inj (ht.symm.trans ht') ▸ htlive, hlast, ?_⟩
          rintro b rfl
          refine ⟨hold b rfl, fun hb => hne ?_⟩
          rw [← hb, ht]
      have hne : m.slots ≠ [] := by
        intro hnil
        apply hbad
        refine ⟨hm.tableLive_of_nil hnil, hlast, fun b hb => ⟨hold b hb, fun harr => ?_⟩⟩
        exact hm.stored (by rw [harr]; exact nofun) hnil
      simp only [libmsrRealloc, hheap, reallocLoop_none hdead hne, Option.bind_eq_bind,
        Option.bind_some, Option.bind_none, ite_self]
    · have hends : ¬loopEnds m.slots.length = true := fun hends => hlast (of_decide_eq_true hends)
      simp only [libmsrRealloc, hheap, if_neg hends, Option.bind_eq_bind, Option.bind_some]
  · push Not at hold
    obtain ⟨b, rfl, hb⟩ := hold
    simp only [libmsrRealloc, Heap.realloc_none hb, Option.bind_eq_bind, Option.bind_none]

/-! ## Freeing -/

/-- What may be freed: a block that the table lists, if at all, once, and while it is live. -/
def FreeOk (m : Memhdlr) (old : Option Block) : Prop :=
  ∀ b, old = some b → (∃ p ∈ m.slots, sameAddr p (some b) = true) →
    b ∈ m.heap.live ∧ m.slots.countP (fun p => sameAddr p (some b)) = 1

/-- **`libmsr_free`** of NULL, or of what is not listed. -/
theorem libmsrFree_skip (hm : HandlerInv m) (hlive : TableLive m)
    (hlast : m.slots.length < 2 ^ 31) {old : Option Block}
    (hold : ∀ b, old = some b → ¬∃ p ∈ m.slots, sameAddr p (some b) = true) :
    libmsrFree m old = some m := by
  have hloop : freeLoop m.arrays old m.heap m.slots = some (m.heap, m.slots) := by
    by_cases hnil : m.slots = []
    · rw [hnil]
      rfl
    · obtain ⟨t, ht⟩ := hm.arrays_of_slots hnil
      have htlive := hlive t ht
      rw [ht]
      cases old with
      | none => exact freeLoop_null htlive
      | some b =>
        apply freeLoop_unlisted htlive
        intro p hp
        exact Bool.eq_false_iff.mpr fun hsame => hold b rfl ⟨p, hp, hsame⟩
  have hends : loopEnds m.slots.length = true := decide_eq_true hlast
  simp only [libmsrFree, hends, hloop, if_true, Option.bind_eq_bind, Option.bind_some]

/-- **`libmsr_free`** of a block that is listed once. -/
theorem libmsrFree_eq (hm : HandlerInv m) (hlive : TableLive m) (hlast : m.slots.length < 2 ^ 31)
    (hb : b ∈ m.heap.live) (hcount : m.slots.countP (fun p => sameAddr p (some b)) = 1) :
    ∃ m', libmsrFree m (some b) = some m' ∧ HandlerInv m' ∧ TableLive m' ∧
      m'.slots = m.slots.map (fun p => if p = some b then none else p) ∧
      m'.heap.freed = m.heap.freed ++ [b] ∧ ∀ c, UserLive m' c ↔ c ≠ b ∧ UserLive m c := by
  obtain ⟨p, hp, hpb⟩ : ∃ p ∈ m.slots, sameAddr p (some b) = true :=
    List.countP_pos_iff.mp (hcount ▸ Nat.one_pos)
  obtain rfl := (hm.sameAddr_iff hlive hb hp).mp hpb
  have hbu := hm.listed hlive b hp
  obtain ⟨t, ht⟩ := hm.arrays_of_slots (List.ne_nil_of_mem hp)
  have htb : t ≠ b := fun heq => hbu.2 (heq ▸ ht)
  have hloop : freeLoop m.arrays (some b) m.heap m.slots =
      some (afterFree m.heap b, clearSlots b m.slots) := by
    rw [ht]
    exact freeLoop_once hm.wf (hlive t ht) hb htb hcount
  have hslots : clearSlots b m.slots = m.slots.map (fun p => if p = some b then none else p) :=
    List.map_congr_left fun q hq => if_congr (hm.sameAddr_iff hlive hb hq) rfl rfl
  have hends : loopEnds m.slots.length = true := decide_eq_true hlast
  have husers : ∀ c, (c ∈ (afterFree m.heap b).live ∧ m.arrays ≠ some c) ↔
      c ≠ b ∧ UserLive m c := by
    intro c
    rw [afterFree, hm.wf.mem_erase, and_assoc]
    exact Iff.rfl
  have hlive' : ∀ t, m.arrays = some t → t ∈ (afterFree m.heap b).live := by
    intro t' ht'
    obtain rfl := Option.some.inj (ht.symm.trans ht')
    exact hm.wf.mem_erase.mpr ⟨htb, hlive t ht⟩
  refine ⟨{ m with heap := afterFree m.heap b, slots := clearSlots b m.slots }, ?_, ?_, hlive',
    hslots, rfl, husers⟩
  · simp only [libmsrFree, hends, hloop, if_true, Option.bind_eq_bind, Option.bind_some]
  · constructor
    · exact hm.wf.erase b _
    · exact hm.older
    · intro harr
      rw [show m.arrays = none from harr] at ht
      contradiction
    · exact fun harr hnil => hm.stored harr (List.map_eq_nil_iff.mp hnil)
    · intro _ c hc
      obtain ⟨q, hq, hqc⟩ := List.mem_map.mp (hslots ▸ hc)
      by_cases hqb : q = some b
      · rw [if_pos hqb] at hqc
        contradiction
      · rw [if_neg hqb] at hqc
        refine (husers c).mpr ⟨?_, hm.listed hlive c (hqc ▸ hq)⟩
        rintro rfl
        exact hqb hqc
    · show (clearSlots b m.slots).length ≤ m.size
      rw [clearSlots, List.length_map]
      exact hm.fits
    · exact hm.doubled

theorem libmsrFree_none (hm : HandlerInv m) {old : Option Block}
    (hbad : ¬(TableLive m ∧ m.slots.length < 2 ^ 31 ∧ FreeOk m old)) :
    libmsrFree m old = none := by
  by_cases hlast : m.slots.length < 2 ^ 31
  · have hends : loopEnds m.slots.length = true := decide_eq_true hlast
    suffices hloop : freeLoop m.arrays old m.heap m.slots = none by
      simp only [libmsrFree, hends, hloop, if_true, Option.bind_eq_bind, Option.bind_none]
    by_cases hlive : TableLive m
    · have hfree : ¬FreeOk m old := fun hok => hbad ⟨hlive, hlast, hok⟩
      rw [FreeOk] at hfree
      push Not at hfree
      obtain ⟨b, rfl, hlisted, hfree⟩ := hfree
      obtain ⟨p, hp, -⟩ := id hlisted
      obtain ⟨t, ht⟩ := hm.arrays_of_slots (List.ne_nil_of_mem hp)
      rw [ht]
      by_cases hb : b ∈ m.heap.live
      · -- listed, live, and not once: twice
        have hpos := List.countP_pos_iff.mpr hlisted
        have hcount := hfree hb
        have htb : t ≠ b := by
          rintro rfl
          obtain ⟨q, hq, hqt⟩ := hlisted
          obtain rfl := (hm.sameAddr_iff hlive hb hq).mp hqt
          exact (hm.listed hlive t hq).2 ht
        exact freeLoop_twice hm.wf (hlive t ht) hb htb (by omega)
      · exact freeLoop_dead (hlive t ht) hb hlisted
    · exact freeLoop_none (dead_of_not_tableLive hlive) (hm.slots_of_dead hlive) old
  · have hends : ¬loopEnds m.slots.length = true := fun hends => hlast (of_decide_eq_true hends)
    exact if_neg hends

/-! ## Finalizing -/

/-- The blocks that the table lists, in order. -/
def tracked (m : Memhdlr) : List Block := m.slots.filterMap id

theorem mem_tracked : b ∈ tracked m ↔ some b ∈ m.slots := by
  rw [tracked, List.mem_filterMap]
  exact ⟨fun ⟨p, hp, hpb⟩ => hpb ▸ hp, fun hb => ⟨some b, hb, rfl⟩⟩

/-- The loop frees what is listed. -/
theorem finalizeLoop_tracked (hm : HandlerInv m) (hlive : TableLive m) :
    finalizeLoop m.arrays m.heap m.slots = m.heap.freeAll (tracked m) := by
  by_cases hnil : m.slots = []
  · rw [tracked, hnil]
    rfl
  · obtain ⟨t, ht⟩ := hm.arrays_of_slots hnil
    rw [ht]
    apply finalizeLoop_eq hm.wf (hlive t ht)
    intro hmem
    exact (hm.listed hlive t hmem).2 ht

/-- A block that is live or NULL can be freed. -/
theorem freePtr_eq {h : Heap} (hw : h.WF) {p : Option Block} (hp : ∀ b, p = some b → b ∈ h.live) :
    ∃ h', freePtr h p = some h' ∧ h'.WF ∧ h'.freed = h.freed ++ p.toList ∧ h'.next = h.next ∧
      ∀ c, c ∈ h'.live ↔ c ∈ h.live ∧ p ≠ some c := by
  cases p with
  | none => exact ⟨h, rfl, hw, (List.append_nil _).symm, rfl, fun c => (and_iff_left nofun).symm⟩
  | some b =>
    refine ⟨afterFree h b, Heap.free_eq (hp b rfl), hw.erase b _, rfl, rfl, fun c => ?_⟩
    rw [afterFree, hw.mem_erase, and_comm]
    exact and_congr_right fun _ =>
      ⟨fun hne heq => hne (Option.some.inj heq).symm, fun hne heq => hne (congrArg some heq.symm)⟩

/-- **`memhdlr_finalize`.**  The listed blocks and the table are freed. -/
theorem memhdlrFinalize_eq (hm : HandlerInv m) (hlive : TableLive m)
    (hlast : m.slots.length < 2 ^ 31) (hnodup : (tracked m).Nodup) :
    ∃ m', memhdlrFinalize m = some m' ∧ HandlerInv m' ∧
      m'.heap.freed = m.heap.freed ++ tracked m ++ m.arrays.toList ∧
      ∀ c, c ∈ m'.heap.live ↔ UserLive m c ∧ c ∉ tracked m := by
  have hmem : ∀ c ∈ tracked m, c ∈ m.heap.live :=
    fun c hc => (hm.listed hlive c (mem_tracked.mp hc)).1
  obtain ⟨h₁, hfree₁, hwf₁, hfreed₁, hnext₁, hleft₁⟩ := hm.wf.freeAll hnodup hmem
  -- the table is still there after the loop
  have htable : ∀ t, m.arrays = some t → t ∈ h₁.live := by
    intro t ht
    refine (hleft₁ t).mpr ⟨fun hmem => ?_, hlive t ht⟩
    exact (hm.listed hlive t (mem_tracked.mp hmem)).2 ht
  obtain ⟨h₂, hfree₂, hwf₂, hfreed₂, hnext₂, hleft₂⟩ := freePtr_eq hwf₁ htable
  have hends : loopEnds m.slots.length = true := decide_eq_true hlast
  have hloop := (finalizeLoop_tracked hm hlive).trans hfree₁
  refine ⟨{ m with heap := h₂ }, ?_, ⟨hwf₂, ?_, hm.bare, hm.stored, ?_, hm.fits, hm.doubled⟩,
    ?_, ?_⟩
  · simp only [memhdlrFinalize, hends, hloop, hfree₂, if_true, Option.bind_eq_bind,
      Option.bind_some]
  · show ∀ t, m.arrays = some t → t.serial < h₂.next
    rw [hnext₂, hnext₁]
    exact hm.older
  · -- there are slots only if there was a table, and it is not live now
    intro hlive' b hb
    obtain ⟨t, ht⟩ := hm.arrays_of_slots (List.ne_nil_of_mem hb)
    exact absurd ht ((hleft₂ t).mp (hlive' t ht)).2
  · exact hfreed₂.trans (congrArg (· ++ m.arrays.toList) hfreed₁)
  · intro c
    show c ∈ h₂.live ↔ (c ∈ m.heap.live ∧ m.arrays ≠ some c) ∧ c ∉ tracked m
    rw [hleft₂, hleft₁]
    tauto

theorem memhdlrFinalize_none (hm : HandlerInv m)
    (hbad : ¬(TableLive m ∧ m.slots.length < 2 ^ 31 ∧ (tracked m).Nodup)) :
    memhdlrFinalize m = none := by
  by_cases hlast : m.slots.length < 2 ^ 31
  · have hends : loopEnds m.slots.length = true := decide_eq_true hlast
    suffices hloop : finalizeLoop m.arrays m.heap m.slots = none by
      simp only [memhdlrFinalize, hends, hloop, if_true, Option.bind_eq_bind, Option.bind_none]
    by_cases hlive : TableLive m
    · rw [finalizeLoop_tracked hm hlive]
      cases hfree : m.heap.freeAll (tracked m) with
      | none => rfl
      | some h' => exact absurd ⟨hlive, hlast, (hm.wf.of_freeAll hfree).1⟩ hbad
    · exact finalizeLoop_none (dead_of_not_tableLive hlive) (hm.slots_of_dead hlive)
  · have hends : ¬loopEnds m.slots.length = true := fun hends => hlast (of_decide_eq_true hends)
    exact if_neg hends

end States

end Libmsr
