/-
  Libmsr.Lib.Heap

  A heap as its allocator sees it.

  A block is an address together with a serial number, so that two blocks that get
  the same address one after the other are two blocks, and a pointer to the first
  does not become a pointer to the second.  Which address a new block gets is the
  environment's choice.  `free` and `touch` have no outcome on a block that is not
  live, so a run that has an outcome frees nothing twice and uses nothing after it
  was freed.
-/
import Mathlib.Data.List.Perm.Basic
import Mathlib.Data.List.Nodup
import Mathlib.Tactic.Common

/-- A block of memory: where it is, and which allocation made it. -/
structure Block where
  addr : Nat
  serial : Nat
  deriving Repr, DecidableEq

/-- The live blocks, the number of the next allocation, and what was handed to
    `free`, in order. -/
structure Heap where
  live : List Block
  next : Nat
  freed : List Block
  deriving Repr, DecidableEq

namespace Heap

def init : Heap := ⟨[], 0, []⟩

/-- A new block at the address that the environment picks. -/
def newBlock (h : Heap) (addr : Nat) : Block := ⟨addr, h.next⟩

/-- `malloc` and `calloc`. -/
def alloc (h : Heap) (addr : Nat) : Heap :=
  { h with live := h.newBlock addr :: h.live, next := h.next + 1 }

/-- `free`. -/
def free (h : Heap) (b : Block) : Option Heap :=
  if b ∈ h.live then some { h with live := h.live.erase b, freed := h.freed ++ [b] } else none

/-- `realloc`: the old block ends, and a new one takes its place.  NULL is no block. -/
def realloc (h : Heap) (old : Option Block) (addr : Nat) : Option Heap :=
  match old with
  | none => some (h.alloc addr)
  | some b => if b ∈ h.live then some ({ h with live := h.live.erase b }.alloc addr) else none

/-- A read or write. -/
def touch (h : Heap) (b : Block) : Option Unit := if b ∈ h.live then some () else none

/-- No live block is there. -/
def Unused (h : Heap) (addr : Nat) : Prop := ∀ b ∈ h.live, b.addr ≠ addr

/-- Live blocks have addresses of their own, and are older than the next one. -/
structure WF (h : Heap) : Prop where
  apart : (h.live.map Block.addr).Nodup
  older : ∀ b ∈ h.live, b.serial < h.next

theorem init_wf : WF init := ⟨List.nodup_nil, fun _ hb => nomatch hb⟩

section Ops

variable {h : Heap} {b c : Block} {addr : Nat}

/-- A block is known by its address. -/
theorem WF.eq_of_addr (hw : h.WF) (hb : b ∈ h.live) (hc : c ∈ h.live) (heq : b.addr = c.addr) :
    b = c := List.inj_on_of_nodup_map hw.apart hb hc heq

theorem WF.nodup (hw : h.WF) : h.live.Nodup := hw.apart.of_map

@[simp] theorem mem_alloc : c ∈ (h.alloc addr).live ↔ c = h.newBlock addr ∨ c ∈ h.live :=
  List.mem_cons

/-- A new block is new. -/
theorem WF.newBlock_ne (hw : h.WF) (hc : c ∈ h.live) : c ≠ h.newBlock addr := by
  rintro rfl
  exact absurd (hw.older _ hc) (Nat.lt_irrefl _)

theorem WF.alloc (hw : h.WF) (hu : h.Unused addr) : (h.alloc addr).WF := by
  constructor
  · refine List.nodup_cons.mpr ⟨fun hmem => ?_, hw.apart⟩
    obtain ⟨c, hc, heq⟩ := List.mem_map.mp hmem
    exact hu c hc heq
  · intro c hc
    show c.serial < h.next + 1
    rcases mem_alloc.mp hc with rfl | hc
    · exact Nat.lt_succ_self _
    · exact Nat.lt_succ_of_lt (hw.older c hc)

theorem WF.erase (hw : h.WF) (b : Block) (freed : List Block) :
    WF { h with live := h.live.erase b, freed := freed } :=
  ⟨hw.apart.sublist ((List.erase_sublist).map _), fun c hc => hw.older c (List.mem_of_mem_erase hc)⟩

theorem WF.mem_erase (hw : h.WF) : c ∈ h.live.erase b ↔ c ≠ b ∧ c ∈ h.live :=
  hw.nodup.mem_erase_iff

theorem free_eq (hb : b ∈ h.live) :
    h.free b = some { h with live := h.live.erase b, freed := h.freed ++ [b] } := if_pos hb

theorem free_none (hb : b ∉ h.live) : h.free b = none := if_neg hb

@[simp] theorem touch_eq (hb : b ∈ h.live) : h.touch b = some () := if_pos hb

@[simp] theorem touch_none (hb : b ∉ h.live) : h.touch b = none := if_neg hb

theorem realloc_none (hb : b ∉ h.live) : h.realloc (some b) addr = none := if_neg hb

/-- A block that is live or NULL can be reallocated. -/
theorem WF.realloc (hw : h.WF) {old : Option Block} (hold : ∀ b, old = some b → b ∈ h.live)
    (haddr : h.Unused addr ∨ ∃ b, old = some b ∧ addr = b.addr) :
    ∃ h', h.realloc old addr = some h' ∧ h'.WF ∧ h'.freed = h.freed ∧ h'.next = h.next + 1 ∧
      ∀ c, c ∈ h'.live ↔ c = h.newBlock addr ∨ (old ≠ some c ∧ c ∈ h.live) := by
  cases old with
  | none =>
    have hu : h.Unused addr := haddr.resolve_right fun ⟨b, hb, _⟩ => nomatch hb
    refine ⟨h.alloc addr, rfl, hw.alloc hu, rfl, rfl, fun c => ?_⟩
    rw [mem_alloc]
    exact or_congr_right ⟨fun hc => ⟨nofun, hc⟩, fun hc => hc.2⟩
  | some b =>
    have hb := hold b rfl
    let h₁ : Heap := { h with live := h.live.erase b }
    have hu : h₁.Unused addr := by
      intro c hc heq
      obtain ⟨hne, hc'⟩ := hw.mem_erase.mp hc
      rcases haddr with hu | ⟨b', hb', rfl⟩
      · exact hu c hc' heq
      · obtain rfl := Option.some.inj hb'
        exact hne (hw.eq_of_addr hc' hb heq)
    refine ⟨h₁.alloc addr, if_pos hb, (hw.erase b h.freed).alloc hu, rfl, rfl, fun c => ?_⟩
    rw [mem_alloc]
    refine or_congr Iff.rfl (hw.mem_erase.trans (and_congr_left fun _ => ?_))
    exact ⟨fun hne heq => hne (Option.some.inj heq).symm,
      fun hne heq => hne (congrArg some heq.symm)⟩

end Ops

/-! ## Freeing a list of blocks -/

/-- Free them one after the other. -/
def freeAll (h : Heap) (bs : List Block) : Option Heap := bs.foldlM free h

@[simp] theorem freeAll_nil (h : Heap) : h.freeAll [] = some h := rfl

@[simp] theorem freeAll_cons (h : Heap) (b : Block) (bs : List Block) :
    h.freeAll (b :: bs) = (h.free b).bind fun h' => h'.freeAll bs := rfl

/-- Live blocks, each of them once, can be freed. -/
theorem WF.freeAll {h : Heap} (hw : h.WF) {bs : List Block} (hnodup : bs.Nodup)
    (hlive : ∀ b ∈ bs, b ∈ h.live) :
    ∃ h', h.freeAll bs = some h' ∧ h'.WF ∧ h'.freed = h.freed ++ bs ∧ h'.next = h.next ∧
      ∀ c, c ∈ h'.live ↔ c ∉ bs ∧ c ∈ h.live := by
  induction bs generalizing h with
  | nil => exact ⟨h, rfl, hw, (List.append_nil _).symm, rfl, fun c => by simp⟩
  | cons b bs ih =>
    obtain ⟨hnot, hnodup⟩ := List.nodup_cons.mp hnodup
    have hb := hlive b (List.mem_cons_self ..)
    let h₁ : Heap := { h with live := h.live.erase b, freed := h.freed ++ [b] }
    have hrest : ∀ c ∈ bs, c ∈ h₁.live := by
      intro c hc
      refine hw.mem_erase.mpr ⟨?_, hlive c (List.mem_cons_of_mem _ hc)⟩
      rintro rfl
      exact hnot hc
    obtain ⟨h', hh', hw', hfreed, hnext, hmem⟩ := ih (hw.erase b (h.freed ++ [b])) hnodup hrest
    refine ⟨h', ?_, hw', ?_, hnext, fun c => ?_⟩
    · rw [freeAll_cons, free_eq hb]
      exact hh'
    · rw [hfreed]
      exact List.append_assoc ..
    · rw [hmem, hw.mem_erase, List.mem_cons, not_or]
      tauto

/-- Nothing else can: what is freed twice is not live the second time. -/
theorem WF.of_freeAll {h h' : Heap} (hw : h.WF) {bs : List Block} (hfree : h.freeAll bs = some h') :
    bs.Nodup ∧ ∀ b ∈ bs, b ∈ h.live := by
  induction bs generalizing h with
  | nil => exact ⟨List.nodup_nil, fun _ hb => nomatch hb⟩
  | cons b bs ih =>
    by_cases hb : b ∈ h.live
    · rw [freeAll_cons, free_eq hb] at hfree
      obtain ⟨hnodup, hlive⟩ := ih (hw.erase b (h.freed ++ [b])) hfree
      have hleft : ∀ c ∈ bs, c ≠ b ∧ c ∈ h.live := fun c hc => hw.mem_erase.mp (hlive c hc)
      refine ⟨List.nodup_cons.mpr ⟨fun hmem => (hleft b hmem).1 rfl, hnodup⟩, ?_⟩
      intro c hc
      rcases List.mem_cons.mp hc with rfl | hc
      · exact hb
      · exact (hleft c hc).2
    · rw [freeAll_cons, free_none hb] at hfree
      contradiction

end Heap
